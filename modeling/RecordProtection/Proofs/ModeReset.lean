import RecordProtection.Proofs.StatefulMode

/-!
# A reset mode is as good as new

A reset takes from a mode all that its records, read or not, have left in it.  What remains is the
mode that a new engine under the same key would give, at the start of the same epoch.  A stream mode
takes up a keystream where its engine has left it, and a reset does not lead back there: it leads
back to the start of the keystream.
-/

namespace RecordProtection

/-! ### Engines in use -/

namespace StreamCipher

/-- The cipher as it was when it got its key. -/
def renewed : StreamCipher → StreamCipher
  | rc4 key _ => ofRc4Key key
  | chacha20 key _ _ => ofChaCha20Key key

@[simp]
theorem renewed_apply (cipher : StreamCipher) (data : Bytes) :
    (cipher.apply data).2.renewed = cipher.renewed := by
  cases cipher with
  | rc4 key state =>
      rw [apply, keystream]
      exact Eq.refl (ofRc4Key key)
  | chacha20 key nonce position =>
      rw [apply, keystream]
      exact Eq.refl (ofChaCha20Key key)

@[simp]
theorem renewed_reset (cipher : StreamCipher) : cipher.reset.renewed = cipher.renewed := by
  cases cipher with
  | rc4 key state => exact Eq.refl (ofRc4Key key)
  | chacha20 key nonce position => exact Eq.refl (ofChaCha20Key key)

theorem renewed_of_start {cipher next : StreamCipher} {nonce : Bytes}
    (hstart : cipher.start nonce = .ok next) : next.renewed = cipher.renewed := by
  cases cipher <;> cases hstart
  rfl

theorem renewed_of_seekBlock {cipher next : StreamCipher} {block : UInt32}
    (hseek : cipher.seekBlock block = .ok next) : next.renewed = cipher.renewed := by
  cases cipher <;> cases hseek
  rfl

@[simp]
theorem reset_apply (cipher : StreamCipher) (data : Bytes) :
    (cipher.apply data).2.reset = cipher.reset := by
  cases cipher with
  | rc4 key state =>
      rw [apply, keystream]
      exact Eq.refl (ofRc4Key key)
  | chacha20 key nonce position =>
      rw [apply, keystream]
      exact Eq.refl (chacha20 key nonce 0)

@[simp]
theorem reset_reset (cipher : StreamCipher) : cipher.reset.reset = cipher.reset := by
  cases cipher with
  | rc4 key state => exact Eq.refl (ofRc4Key key)
  | chacha20 key nonce position => exact Eq.refl (chacha20 key nonce 0)

/-- Without a nonce, a reset leaves nothing but the key. -/
theorem reset_eq_renewed {cipher : StreamCipher} {key : Bytes}
    (hcipher : cipher.renewed = ofRc4Key key) : cipher.reset = cipher.renewed := by
  cases cipher with
  | rc4 => rfl
  | chacha20 => cases hcipher

theorem eq_chacha20_of_renewed {cipher : StreamCipher} {key : Bytes}
    (hcipher : cipher.renewed = ofChaCha20Key key) :
    ∃ nonce position, cipher = .chacha20 key nonce position := by
  cases cipher with
  | rc4 => cases hcipher
  | chacha20 =>
      cases hcipher
      exact ⟨_, _, rfl⟩

/-- The two give the same bytes, however many are taken. -/
def Alike (cipher other : StreamCipher) : Prop :=
  ∀ count, (cipher.keystream count).1 = (other.keystream count).1

section Alike

variable {cipher other : StreamCipher}

theorem Alike.apply_eq (halike : cipher.Alike other) (data : Bytes) :
    (cipher.apply data).1 = (other.apply data).1 :=
  congrArg (Bytes.xor data) (halike data.length)

theorem Alike.apply (halike : cipher.Alike other) (data : Bytes) :
    (cipher.apply data).2.Alike (other.apply data).2 := by
  intro count
  have hlength : (cipher.keystream data.length).1.length
      = (other.keystream data.length).1.length := by
    rw [length_keystream, length_keystream]
  have hkeystream := halike (data.length + count)
  rw [keystream_add, keystream_add] at hkeystream
  exact (List.append_inj hkeystream hlength).2

/-- Masked data tells the keystream that masks it. -/
theorem keystream_eq_of_apply_eq {data : Bytes}
    (hdata : (cipher.apply data).1 = (other.apply data).1) {count : Nat}
    (hcount : count ≤ data.length) :
    (cipher.keystream count).1 = (other.keystream count).1 := by
  have hmask (cipher : StreamCipher) :
      Bytes.xor (cipher.apply data).1 data = (cipher.keystream data.length).1 := by
    have hcover : (cipher.keystream data.length).1.length ≤ data.length :=
      Nat.le_of_eq (cipher.length_keystream data.length)
    calc
      Bytes.xor (cipher.apply data).1 data
          = Bytes.xor (Bytes.xor data (cipher.keystream data.length).1) data := rfl
      _ = (cipher.keystream data.length).1 := by
        rw [Bytes.xor_comm data, Bytes.xor_xor_cancel hcover]
  obtain ⟨rest, hrest⟩ := Nat.exists_eq_add_of_le hcount
  have hkeystream : (cipher.keystream (count + rest)).1 = (other.keystream (count + rest)).1 := by
    rw [← hrest, ← hmask cipher, ← hmask other, hdata]
  have hlength : (cipher.keystream count).1.length = (other.keystream count).1.length := by
    rw [length_keystream, length_keystream]
  rw [keystream_add, keystream_add] at hkeystream
  exact (List.append_inj hkeystream hlength).1

end Alike

end StreamCipher

namespace Engine

/-- A reset makes no difference to the keystream of the engine, if it has one. -/
def AtStart (engine : Engine) : Prop :=
  ∀ cipher, engine.stream? = some cipher → cipher.Alike cipher.reset

/-- The engine as it was when it got its key. -/
def renewed (engine : Engine) : Engine :=
  match engine.stream? with
  | some cipher => engine.withStream cipher.renewed
  | none => engine

/-- What an engine becomes by its use. -/
inductive Used (engine : Engine) : Engine → Prop
  | new : Used engine engine
  | processed {used : Engine} (hused : Used engine used) (input : Bytes) (room : Nat) :
      Used engine (used.process input room).2
  | applied {used : Engine} {cipher : StreamCipher} (hused : Used engine used)
      (hstream : used.stream? = some cipher) (data : Bytes) :
      Used engine (used.withStream (cipher.apply data).2)
  | started {used : Engine} {cipher next : StreamCipher} {nonce : Bytes}
      (hused : Used engine used) (hstream : used.stream? = some cipher)
      (hstart : cipher.start nonce = .ok next) : Used engine (used.withStream next)
  | sought {used : Engine} {cipher next : StreamCipher} {block : UInt32}
      (hused : Used engine used) (hstream : used.stream? = some cipher)
      (hseek : cipher.seekBlock block = .ok next) : Used engine (used.withStream next)
  | reset {used : Engine} (hused : Used engine used) : Used engine used.reset

theorem renewed_withStream {engine : Engine} {cipher next : StreamCipher}
    (hstream : engine.stream? = some cipher) (hnext : next.renewed = cipher.renewed) :
    (engine.withStream next).renewed = engine.renewed := by
  simp only [renewed, hstream, ← hnext]
  rfl

theorem renewed_process (engine : Engine) (input : Bytes) (room : Nat) :
    (engine.process input room).2.renewed = engine.renewed := by
  unfold process
  split
  · rfl
  · split
    · rfl
    · rename_i cipher hstream
      have hcipher : engine.stream? = some cipher := by
        rw [stream?, hstream]
      exact renewed_withStream hcipher (cipher.renewed_apply input)
    · split
      · rfl
      · split <;> rfl

theorem renewed_reset (engine : Engine) : engine.reset.renewed = engine.renewed := by
  unfold reset
  split
  · rename_i cipher hstream
    exact renewed_withStream hstream cipher.renewed_reset
  · rfl

theorem Used.renewed_eq {engine used : Engine} (hused : engine.Used used) :
    used.renewed = engine.renewed := by
  induction hused with
  | new => rfl
  | processed _ input room ih => exact (renewed_process _ input room).trans ih
  | applied _ hstream data ih =>
      exact (renewed_withStream hstream (StreamCipher.renewed_apply _ data)).trans ih
  | started _ hstream hstart ih =>
      exact (renewed_withStream hstream (StreamCipher.renewed_of_start hstart)).trans ih
  | sought _ hstream hseek ih =>
      exact (renewed_withStream hstream (StreamCipher.renewed_of_seekBlock hseek)).trans ih
  | reset _ ih => exact (renewed_reset _).trans ih

section Created

variable {kind : EngineKind} {forEncryption : Bool} {key : Bytes} {engine used : Engine}
  (hengine : create kind forEncryption key = .ok engine) (hused : engine.Used used)
include hengine

theorem renewed_of_create : engine.renewed = engine := by
  obtain ⟨-, rfl⟩ := create_eq_ok_iff.mp hengine
  cases kind <;> rfl

theorem atStart_of_create : engine.AtStart := by
  obtain ⟨-, rfl⟩ := create_eq_ok_iff.mp hengine
  intro cipher hstream count
  cases kind <;> cases hstream <;> rfl

include hused

theorem Used.eq_renewed : engine = used.renewed := by
  rw [hused.renewed_eq, renewed_of_create hengine]

/-- A stream engine in use differs from the new one by its keystream only. -/
theorem Used.stream_eq_some {cipher : StreamCipher} (hstream : used.stream? = some cipher) :
    kind.primitive key = .stream cipher.renewed ∧ used.kind = kind ∧ used.key = key := by
  obtain ⟨-, hcreated⟩ := create_eq_ok_iff.mp hengine
  rw [hused.eq_renewed hengine, renewed, hstream] at hcreated
  simp only [withStream, mk.injEq] at hcreated
  exact ⟨hcreated.2.2.2.symm, hcreated.1, hcreated.2.2.1⟩

theorem Used.reset_eq_renewed (hkind : used.kind = .rc4) {cipher : StreamCipher}
    (hstream : used.stream? = some cipher) : cipher.reset = cipher.renewed := by
  obtain ⟨hprimitive, rfl, -⟩ := hused.stream_eq_some hengine hstream
  rw [hkind] at hprimitive
  exact StreamCipher.reset_eq_renewed (Primitive.stream.inj hprimitive).symm

theorem Used.stream_eq_chacha20 (hkind : used.kind = .chacha20) :
    ∃ nonce position, used.stream? = some (.chacha20 used.key nonce position) := by
  have hnew := hused.eq_renewed hengine
  obtain ⟨-, hcreated⟩ := create_eq_ok_iff.mp hengine
  cases hstream : used.stream? with
  | none =>
      -- an engine without a keystream does not change, and this kind has one
      rw [renewed, hstream] at hnew
      simp only [← hnew, hcreated] at hkind hstream
      subst hkind
      cases hstream
  | some cipher =>
      obtain ⟨hprimitive, rfl, rfl⟩ := hused.stream_eq_some hengine hstream
      rw [hkind] at hprimitive
      obtain ⟨nonce, position, rfl⟩ :=
        StreamCipher.eq_chacha20_of_renewed (Primitive.stream.inj hprimitive).symm
      cases hprimitive
      exact ⟨nonce, position, rfl⟩

end Created

end Engine

/-! ### Transforms -/

theorem Cbc.reset_continueFrom (cbc : Cbc) (body : Bytes) :
    (cbc.continueFrom body).reset = cbc.reset := by
  obtain ⟨cipher, _ | ⟨initial, current⟩⟩ := cbc <;> rfl

namespace Transform

theorem reset_encrypt (transform : Transform) (auth : Authenticator) (type : ContentType)
    (plaintext : Bytes) (random : RandomSource) :
    (transform.encrypt auth type plaintext random).2.1.reset = transform.reset := by
  cases transform with
  | stream cipher => simp only [encrypt, reset, StreamCipher.reset_apply]
  | cbc mode =>
      simp only [encrypt, reset, Cbc.encrypt]
      split
      · rfl
      · exact congrArg cbc (mode.reset_continueFrom _)
  | _ => rfl

theorem reset_decrypt (transform : Transform) (auth : Authenticator) (type : ContentType)
    (record : Bytes) : (transform.decrypt auth type record).2.reset = transform.reset := by
  cases transform with
  | stream cipher => simp only [decrypt, reset, StreamCipher.reset_apply]
  | cbc mode =>
      simp only [decrypt, reset, Cbc.decrypt]
      split
      · rfl
      · split
        · rfl
        · split
          · rfl
          · exact congrArg cbc (mode.reset_continueFrom _)
  | _ => rfl

theorem reset_reset (transform : Transform) : transform.reset.reset = transform.reset := by
  cases transform with
  | stream cipher => exact congrArg stream cipher.reset_reset
  | cbc mode =>
      obtain ⟨cipher, _ | ⟨initial, current⟩⟩ := mode <;> rfl
  | _ => rfl

end Transform

namespace CipherMode

/-- Only the stream mode takes up a keystream where its engine has left it. -/
theorem transformOf_renewed_of_ne {kind : ModeKind} (hkind : kind ≠ .stream) (engine : Engine)
    (auth : Authenticator) (iv : Bytes) (sentLength : Nat) :
    transformOf kind engine.renewed auth iv sentLength
      = transformOf kind engine auth iv sentLength := by
  obtain ⟨engineKind, forEncryption, key, primitive⟩ := engine
  cases primitive with
  | stream cipher =>
      cases kind with
      | stream => exact absurd rfl hkind
      | _ => rfl
  | _ => rfl

section Made

variable {kind : ModeKind} {engine : Engine} {auth : Authenticator} {iv : Bytes} {sentLength : Nat}
  {transform : Transform}

theorem Made.reset_eq (hmade : Made engine auth iv sentLength kind transform)
    (hkind : kind ≠ .stream) : transform.reset = transform := by
  cases hmade with
  | stream cipher => exact absurd rfl hkind
  | cbc hblock hmode =>
      unfold Cbc.create at hmode
      split at hmode
      · cases hmode
        rfl
      · split at hmode
        · cases hmode
          rfl
        · cases hmode
  | _ => rfl

theorem stream_of_transformOf
    (hmode : transformOf .stream engine auth iv sentLength = .ok transform) :
    ∃ cipher, engine.stream? = some cipher ∧ transform = .stream cipher := by
  simp only [transformOf] at hmode
  split at hmode
  · rename_i cipher _ hstream
    cases hmode
    exact ⟨cipher, hstream, rfl⟩
  · cases hmode

/-- Under the engine as it was when it got its key, the transform of a mode is the one that a reset
leaves. -/
theorem transformOf_renewed
    (hrc4 : engine.kind = .rc4 → ∀ cipher, engine.stream? = some cipher →
      cipher.reset = cipher.renewed)
    (hmode : transformOf kind engine auth iv sentLength = .ok transform) :
    transformOf kind engine.renewed auth iv sentLength = .ok transform.reset := by
  by_cases hkind : kind = .stream
  · subst hkind
    simp only [transformOf] at hmode
    split at hmode
    · rename_i cipher hrc4Kind hstream
      cases hmode
      rw [Transform.reset, hrc4 hrc4Kind cipher hstream, Engine.renewed, hstream]
      simp only [transformOf, Engine.withStream, hrc4Kind, Engine.stream?]
    · cases hmode
  · rw [transformOf_renewed_of_ne hkind, hmode, (made_of_transformOf hmode).reset_eq hkind]

end Made

/-! ### Modes -/

theorem placed_reset_encrypt (mode : CipherMode) (type : ContentType) (plaintext : Bytes)
    (random : RandomSource) (sequence : Sequence) :
    (mode.encrypt type plaintext random).2.1.reset.placed sequence
      = mode.reset.placed sequence := by
  obtain ⟨place, hplace⟩ := mode.auth.exists_eq_of_count
    (mode.transform.encrypt mode.auth type plaintext random).1
  simp only [encrypt_eq_count, reset, placed, hplace, Transform.reset_encrypt,
    Authenticator.enterEpoch]

theorem placed_reset_decrypt (mode : CipherMode) (type : ContentType) (record : Bytes)
    (sequence : Sequence) :
    (mode.decrypt type record).2.reset.placed sequence = mode.reset.placed sequence := by
  obtain ⟨place, hplace⟩ := mode.auth.exists_eq_of_count
    (mode.transform.decrypt mode.auth type record).1
  simp only [decrypt_eq_count, reset, placed, hplace, Transform.reset_decrypt,
    Authenticator.enterEpoch]

/-- No call leaves anything in a mode that a reset and a move of the counter do not take away. -/
theorem placed_reset_step (mode : CipherMode) (call : ModeCall) (random : RandomSource)
    (sequence : Sequence) :
    (mode.step call random).2.1.reset.placed sequence = mode.reset.placed sequence := by
  cases call with
  | encrypt type plaintext => exact mode.placed_reset_encrypt type plaintext random sequence
  | decrypt type record => exact mode.placed_reset_decrypt type record sequence
  | reset =>
      simp only [step, reset, placed, Transform.reset_reset, Authenticator.enterEpoch]
  | place place => rfl

theorem placed_reset_after (mode : CipherMode) (calls : List ModeCall) (random : RandomSource)
    (sequence : Sequence) :
    (ModeCall.after step mode calls random).reset.placed sequence
      = mode.reset.placed sequence := by
  induction calls generalizing mode random with
  | nil => rfl
  | cons call calls ih =>
      rw [ModeCall.after]
      exact (ih _ _).trans (mode.placed_reset_step call random sequence)

theorem reset_after_eq (mode : CipherMode) (calls : List ModeCall) (random : RandomSource) :
    (ModeCall.after step mode calls random).reset
      = mode.reset.placed ⟨(ModeCall.after step mode calls random).auth.sequence.epoch, 0⟩ :=
  mode.placed_reset_after calls random _

/-- What a reset makes of the transform is the transform of a new engine under the same key. -/
theorem create_new {engineKind : EngineKind} {forEncryption : Bool} {key : Bytes}
    {engine used : Engine} (hengine : Engine.create engineKind forEncryption key = .ok engine)
    (hused : engine.Used used) {kind : ModeKind} {auth : Authenticator} {iv : Bytes}
    {sentLength : Nat} {transform : Transform}
    (htransform : transformOf kind used auth iv sentLength = .ok transform) :
    create kind engine auth iv sentLength = .ok ⟨kind, transform.reset, auth⟩ := by
  have hfresh := transformOf_renewed (fun hkind _ hstream =>
    hused.reset_eq_renewed hengine hkind hstream) htransform
  rw [← hused.eq_renewed hengine] at hfresh
  exact create_eq_ok_iff.mpr ⟨_, hfresh, rfl⟩

end CipherMode

/-- The machine of a new engine, or of one in use, has the key of its engine. -/
theorem SealedRecords.create_eq {engine : Engine} (hkind : engine.kind = .chacha20)
    {nonce : Bytes} {position : Nat}
    (hstream : engine.stream? = some (.chacha20 engine.key nonce position)) {iv : Bytes}
    (hiv : iv.length = ChaCha20Poly1305.nonceLength) :
    create engine iv = .ok ⟨⟨.chacha20 engine.key nonce position, engine.forEncryption, .ready⟩,
      engine.forEncryption, iv⟩ := by
  simp only [create, SealMachine.create, hkind, hstream, bind, Except.bind, hiv, ne_eq, not_true,
    if_false]
  rfl

namespace StatefulMode

section Created

variable {engineKind : EngineKind} {forEncryption : Bool} {key : Bytes} {engine used : Engine}
  (hengine : Engine.create engineKind forEncryption key = .ok engine) (hused : engine.Used used)
  {kind : ModeKind} {auth : Authenticator} {iv : Bytes} {sentLength : Nat}
include hengine hused

theorem exists_represents_transform {transform : Transform}
    (htransform : CipherMode.transformOf kind used auth iv sentLength = .ok transform) :
    ∃ state, StatefulTransform.create kind used auth iv sentLength = .ok state
      ∧ state.Represents transform := by
  by_cases hmachine : kind = .chaCha20Poly1305
  · subst hmachine
    simp only [CipherMode.transformOf] at htransform
    split at htransform
    · cases htransform
    · rename_i hkind
      split at htransform
      · cases htransform
      · rename_i hiv
        cases htransform
        obtain ⟨nonce, position, hstream⟩ := hused.stream_eq_chacha20 hengine (not_not.mp hkind)
        rw [StatefulTransform.create, if_pos rfl,
          SealedRecords.create_eq (not_not.mp hkind) hstream (not_not.mp hiv)]
        exact ⟨_, rfl, .sealed ⟨used.key, nonce, position, rfl, rfl⟩⟩
  · rw [StatefulTransform.create, if_neg hmachine, htransform]
    exact ⟨_, rfl, .transform transform⟩

/-- A mode that keeps a machine is created whenever the mode that seals whole messages is. -/
theorem exists_represents {mode : CipherMode}
    (hmode : CipherMode.create kind used auth iv sentLength = .ok mode) :
    ∃ state, create kind used auth iv sentLength = .ok state ∧ state.Represents mode := by
  obtain ⟨transform, htransform, rfl⟩ := CipherMode.create_eq_ok_iff.mp hmode
  obtain ⟨state, hstate, hsame⟩ := exists_represents_transform hengine hused htransform
  refine ⟨⟨kind, state, auth⟩, ?_, ⟨rfl, hsame, rfl⟩⟩
  simp only [create, hstate, bind, Except.bind]
  rfl

end Created

end StatefulMode

/-! ### Modes under keystreams that cannot be told apart -/

/-- The same transform, or keystreams that are alike now and after a reset. -/
inductive Transform.Alike : Transform → Transform → Prop
  | same (transform : Transform) : Alike transform transform
  | stream {cipher other : StreamCipher} (halike : cipher.Alike other)
      (hreset : cipher.reset = other.reset) : Alike (.stream cipher) (.stream other)

namespace Transform.Alike

theorem apply {cipher other : StreamCipher} (halike : cipher.Alike other)
    (hreset : cipher.reset = other.reset) (data : Bytes) :
    Transform.Alike (.stream (cipher.apply data).2) (.stream (other.apply data).2) := by
  refine .stream (halike.apply data) ?_
  rw [StreamCipher.reset_apply, StreamCipher.reset_apply, hreset]

variable {transform other : Transform} (halike : transform.Alike other)
include halike

theorem encrypt (auth : Authenticator) (type : ContentType) (plaintext : Bytes)
    (random : RandomSource) :
    (transform.encrypt auth type plaintext random).1 = (other.encrypt auth type plaintext random).1
      ∧ (transform.encrypt auth type plaintext random).2.1.Alike
        (other.encrypt auth type plaintext random).2.1
      ∧ (transform.encrypt auth type plaintext random).2.2
        = (other.encrypt auth type plaintext random).2.2 := by
  cases halike with
  | same transform => exact ⟨rfl, .same _, rfl⟩
  | stream hcipher hreset =>
      exact ⟨congrArg Except.ok (hcipher.apply_eq _), apply hcipher hreset _, rfl⟩

theorem decrypt (auth : Authenticator) (type : ContentType) (record : Bytes) :
    (transform.decrypt auth type record).1 = (other.decrypt auth type record).1
      ∧ (transform.decrypt auth type record).2.Alike (other.decrypt auth type record).2 := by
  cases halike with
  | same transform => exact ⟨rfl, .same _⟩
  | stream hcipher hreset =>
      exact ⟨congrArg (withoutMac auth type) (hcipher.apply_eq record),
        apply hcipher hreset record⟩

theorem reset : transform.reset.Alike other.reset := by
  cases halike with
  | same transform => exact .same _
  | stream hcipher hreset =>
      simp only [Transform.reset, hreset]
      exact .same _

end Transform.Alike

theorem Authenticator.number_enterEpoch_lt (auth : Authenticator) (epoch : UInt16) :
    (auth.enterEpoch epoch).sequence.number < (auth.enterEpoch epoch).maxNumber := by
  unfold maxNumber
  split
  · exact (by decide : (0 : UInt64) < maxDatagramNumber)
  · exact (by decide : (0 : UInt64) < 0xffffffffffffffff)

namespace CipherMode

structure Alike (mode other : CipherMode) : Prop where
  kind : mode.kind = other.kind
  transform : mode.transform.Alike other.transform
  auth : mode.auth = other.auth

namespace Alike

variable {mode other : CipherMode} (halike : mode.Alike other)
include halike

theorem encrypt (type : ContentType) (plaintext : Bytes) (random : RandomSource) :
    (mode.encrypt type plaintext random).1 = (other.encrypt type plaintext random).1
      ∧ (mode.encrypt type plaintext random).2.1.Alike (other.encrypt type plaintext random).2.1
      ∧ (mode.encrypt type plaintext random).2.2 = (other.encrypt type plaintext random).2.2 := by
  obtain ⟨hkind, htransform, hauth⟩ := halike
  obtain ⟨hresult, hnext, hrest⟩ := htransform.encrypt other.auth type plaintext random
  simp only [encrypt_eq_count, hauth, hresult, hrest]
  exact ⟨trivial, ⟨hkind, hnext, rfl⟩, trivial⟩

theorem decrypt (type : ContentType) (record : Bytes) :
    (mode.decrypt type record).1 = (other.decrypt type record).1
      ∧ (mode.decrypt type record).2.Alike (other.decrypt type record).2 := by
  obtain ⟨hkind, htransform, hauth⟩ := halike
  obtain ⟨hresult, hnext⟩ := htransform.decrypt other.auth type record
  simp only [decrypt_eq_count, hauth, hresult]
  exact ⟨trivial, ⟨hkind, hnext, rfl⟩⟩

theorem reset : mode.reset.Alike other.reset where
  kind := halike.kind
  transform := halike.transform.reset
  auth := by
    simp only [CipherMode.reset, halike.auth]

theorem placed (sequence : Sequence) : (mode.placed sequence).Alike (other.placed sequence) where
  kind := halike.kind
  transform := halike.transform
  auth := by
    simp only [CipherMode.placed, halike.auth]

end Alike

theorem simulates_alike : ModeCall.Simulates step step Alike := by
  intro mode other halike call random
  cases call with
  | encrypt type plaintext => exact halike.encrypt type plaintext random
  | decrypt type record =>
      obtain ⟨hresult, hnext⟩ := halike.decrypt type record
      exact ⟨hresult, hnext, rfl⟩
  | reset => exact ⟨rfl, halike.reset, rfl⟩
  | place sequence => exact ⟨rfl, halike.placed sequence, rfl⟩

end CipherMode

/-! ### After a reset -/

namespace ModeCall

/-- The two answer all calls alike. -/
def AnswerAlike {σ : Type} (step : Step σ) (state other : σ) : Prop :=
  ∀ calls random, answers step state calls random = answers step other calls random

theorem Simulates.answerAlike_iff {σ τ : Type} {step : Step σ} {other : Step τ}
    {related : σ → τ → Prop} (hsimulates : Simulates step other related) {first second : σ}
    {firstTwin secondTwin : τ} (hfirst : related first firstTwin)
    (hsecond : related second secondTwin) :
    AnswerAlike step first second ↔ AnswerAlike other firstTwin secondTwin := by
  simp only [AnswerAlike, hsimulates.answers_eq hfirst, hsimulates.answers_eq hsecond]

end ModeCall

namespace CipherMode

/-- One record that covers the bytes that are asked for tells the keystream. -/
theorem alike_of_answers {kind : ModeKind} {cipher other : StreamCipher} {auth : Authenticator}
    (hnumber : auth.sequence.number < auth.maxNumber)
    (hsame : ∀ plaintext random,
      ModeCall.answers step ⟨kind, .stream cipher, auth⟩ [.encrypt .alert plaintext] random
        = ModeCall.answers step ⟨kind, .stream other, auth⟩ [.encrypt .alert plaintext] random) :
    cipher.Alike other := by
  intro count
  have hadvance := Authenticator.advance_eq_ok_iff.mpr ⟨hnumber, rfl⟩
  have hanswers := hsame (Bytes.zeros count) ⟨fun _ => 0, 0⟩
  simp only [ModeCall.answers, step, encrypt, Transform.encrypt, hadvance, List.cons.injEq,
    Except.ok.injEq, and_true] at hanswers
  refine StreamCipher.keystream_eq_of_apply_eq hanswers ?_
  simp only [List.length_append, Bytes.zeros, List.length_replicate]
  omega

/-- A mode is told from what a reset makes of it by its keystream alone. -/
theorem answerAlike_reset_iff {kind : ModeKind} {used : Engine} {auth : Authenticator} {iv : Bytes}
    {sentLength : Nat} {transform : Transform}
    (htransform : transformOf kind used auth iv sentLength = .ok transform) (epoch : UInt16) :
    ModeCall.AnswerAlike step (placed ⟨kind, transform.reset, auth⟩ ⟨epoch, 0⟩)
        (placed ⟨kind, transform, auth⟩ ⟨epoch, 0⟩)
      ↔ (kind = .stream → used.AtStart) := by
  by_cases hkind : kind = .stream
  · subst hkind
    obtain ⟨cipher, hstream, rfl⟩ := stream_of_transformOf htransform
    have hstart : used.AtStart ↔ cipher.reset.Alike cipher := by
      simp only [Engine.AtStart, hstream, Option.some.injEq, forall_eq']
      exact ⟨fun halike count => (halike count).symm, fun halike count => (halike count).symm⟩
    rw [imp_iff_right rfl, hstart]
    constructor
    · intro hsame
      exact alike_of_answers (auth.number_enterEpoch_lt epoch) fun plaintext => hsame [_]
    · intro halike
      have hmodes : Alike ⟨.stream, .stream cipher.reset, auth⟩ ⟨.stream, .stream cipher, auth⟩ :=
        ⟨rfl, .stream halike cipher.reset_reset, rfl⟩
      exact simulates_alike.answers_eq (hmodes.placed ⟨epoch, 0⟩)
  · rw [(made_of_transformOf htransform).reset_eq hkind]
    exact ⟨fun _ hstream => absurd hstream hkind, fun _ _ _ => rfl⟩

end CipherMode

namespace ModeCall

/-- An engine under a key of zeros. -/
def zeroRc4Engine : Engine :=
  ⟨.rc4, true, Bytes.zeros 16, .stream (StreamCipher.ofRc4Key (Bytes.zeros 16))⟩

/-- One byte of its keystream is gone. -/
def usedRc4Engine : Engine := (zeroRc4Engine.process [0] 1).2

/-- MACs under a key of zeros. -/
def zeroMac : Authenticator := ⟨.tls12, some ⟨.sha1, Bytes.zeros 20⟩, .first 0⟩

def zeroRandom : RandomSource := ⟨fun _ => 0, 0⟩

theorem usedRc4Engine_not_atStart : ¬ usedRc4Engine.AtStart := by
  intro hstart
  have hkeystream := hstart _ rfl 1
  revert hkeystream
  decide +kernel

end ModeCall

end RecordProtection
