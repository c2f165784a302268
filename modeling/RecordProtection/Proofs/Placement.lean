import RecordProtection.Proofs.Keying

/-!
# Records at their places

No mode of datagrams keeps anything of a record but its place.  So an end of a datagram connection
is what it was when it got its keys, at another place and with another window, and a call that fails
leaves no trace.
-/

namespace RecordProtection

theorem CipherSuite.mode_ne_stream_of_supports {suite : CipherSuite} (hsuite : suite ∈ catalog)
    {version : ProtocolVersion} (hversion : version.isDatagram = true)
    (hsupports : suite.supports version = true) : suite.mode ≠ .stream := by
  intro hstream
  cases h13 : suite.is13 with
  | true => exact mode_ne_stream_of_is13 suite hsuite h13 hstream
  | false =>
      cases hexport : suite.isExport with
      | false => simp [supports, h13, hexport, hstream, hversion] at hsupports
      | true =>
          revert hversion hsupports
          cases version <;> simp [supports, h13, hexport, ProtocolVersion.isDatagram,
            ProtocolVersion.is13]

/-! ### Modes without a trace of earlier records -/

namespace Transform

/-- Only the counter moves on with a record. -/
def Stateless : Transform → Prop
  | stream _ => False
  | cbc mode => mode.chaining = .explicit
  | _ => True

theorem Stateless.encrypt {transform : Transform} (htransform : transform.Stateless)
    (auth : Authenticator) (type : ContentType) (plaintext : Bytes) (random : RandomSource) :
    (transform.encrypt auth type plaintext random).2.1 = transform := by
  cases transform with
  | stream cipher => exact htransform.elim
  | cbc mode =>
      have hchaining : mode.chaining = .explicit := htransform
      simp only [Transform.encrypt, Cbc.encrypt, hchaining]
  | _ => rfl

theorem Stateless.decrypt {transform : Transform} (htransform : transform.Stateless)
    (auth : Authenticator) (type : ContentType) (record : Bytes) :
    (transform.decrypt auth type record).2 = transform := by
  cases transform with
  | stream cipher => exact htransform.elim
  | cbc mode =>
      have hchaining : mode.chaining = .explicit := htransform
      simp only [Transform.decrypt, Cbc.decrypt]
      split
      · rfl
      · split
        · rfl
        · split
          · rfl
          · simp only [Cbc.continueFrom, hchaining]
  | _ => rfl

end Transform

namespace CipherMode

def placed (mode : CipherMode) (sequence : Sequence) : CipherMode :=
  { mode with auth := { mode.auth with sequence := sequence } }

/-- Modes that send an IV with each record, or a nonce of their own, are stateless. -/
theorem Made.stateless {kind : ModeKind} {engine : Engine} {auth : Authenticator} {iv : Bytes}
    {sentLength : Nat} {transform : Transform}
    (hmade : Made engine auth iv sentLength kind transform) (hkind : kind ≠ .stream)
    (hauth : auth.version.usesExplicitIV = true) : transform.Stateless := by
  cases hmade with
  | stream cipher => exact absurd rfl hkind
  | cbc hblock hmode =>
      simp only [Cbc.create, hauth, true_and] at hmode
      split at hmode
      · cases hmode
        rfl
      · rename_i hiv
        rw [if_neg (not_or.mp hiv).2] at hmode
        cases hmode
  | _ => trivial

section Stateless

variable {mode next : CipherMode} (hmode : mode.transform.Stateless)
include hmode

theorem placed_of_encrypt {type : ContentType} {plaintext record : Bytes}
    {random rest : RandomSource}
    (hencrypt : mode.encrypt type plaintext random = (.ok record, next, rest)) :
    mode.auth.sequence.number < mode.auth.maxNumber
      ∧ next = mode.placed ⟨mode.auth.sequence.epoch, mode.auth.sequence.number + 1⟩ := by
  obtain ⟨auth, transform, hadvance, htransform, rfl⟩ := encrypt_eq_ok_iff.mp hencrypt
  obtain ⟨hnumber, rfl⟩ := Authenticator.advance_eq_ok_iff.mp hadvance
  have hkept := hmode.encrypt mode.auth type plaintext random
  rw [htransform] at hkept
  refine ⟨hnumber, ?_⟩
  rw [show transform = mode.transform from hkept]
  rfl

theorem eq_of_encrypt_error {type : ContentType} {plaintext : Bytes} {random rest : RandomSource}
    {e : RecordError} (hencrypt : mode.encrypt type plaintext random = (.error e, next, rest)) :
    next = mode := by
  have hkept := hmode.encrypt mode.auth type plaintext random
  rcases htransform : mode.transform.encrypt mode.auth type plaintext random
    with ⟨_ | record, transform, remaining⟩
  · obtain rfl : transform = mode.transform := by rwa [htransform] at hkept
    simp only [encrypt, htransform, Prod.mk.injEq] at hencrypt
    exact hencrypt.2.1.symm
  · obtain rfl : transform = mode.transform := by rwa [htransform] at hkept
    cases hadvance : mode.auth.advance with
    | error other =>
        simp only [encrypt, htransform, hadvance, Prod.mk.injEq] at hencrypt
        exact hencrypt.2.1.symm
    | ok auth => simp [encrypt, htransform, hadvance] at hencrypt

/-- Whatever comes of a record, only the counter can move. -/
theorem placed_of_decrypt (type : ContentType) (record : Bytes) :
    ∃ number, (mode.decrypt type record).2 = mode.placed ⟨mode.auth.sequence.epoch, number⟩ := by
  have hkept := hmode.decrypt mode.auth type record
  rcases htransform : mode.transform.decrypt mode.auth type record with ⟨_ | content, transform⟩
  · obtain rfl : transform = mode.transform := by rwa [htransform] at hkept
    refine ⟨mode.auth.sequence.number, ?_⟩
    simp only [decrypt, htransform]
    rfl
  · obtain rfl : transform = mode.transform := by rwa [htransform] at hkept
    cases hadvance : mode.auth.advance with
    | error e =>
        refine ⟨mode.auth.sequence.number, ?_⟩
        simp only [decrypt, htransform, hadvance]
        rfl
    | ok auth =>
        obtain ⟨-, rfl⟩ := Authenticator.advance_eq_ok_iff.mp hadvance
        refine ⟨mode.auth.sequence.number + 1, ?_⟩
        simp only [decrypt, htransform, hadvance]
        rfl

end Stateless

end CipherMode

theorem Direction.version_of_keyedFor {direction : Direction} {suite : CipherSuite}
    {version : ProtocolVersion} (hdirection : direction.KeyedFor suite version) :
    direction.mode.auth.version = version := by
  obtain ⟨keys, mode, epoch, hmode, rfl⟩ := hdirection
  obtain ⟨key, macKey, iv, hmode⟩ := TrafficKeys.create_of_cipherMode hmode
  obtain ⟨-, engine, auth, -, hversion, hcreate⟩ := CipherSuite.create_of_cipherMode hmode
  obtain ⟨transform, -, rfl⟩ := CipherMode.create_eq_ok_iff.mp hcreate
  exact hversion

theorem Direction.isProtected_of_keyedFor {direction : Direction} {suite : CipherSuite}
    {version : ProtocolVersion} (hdirection : direction.KeyedFor suite version) :
    direction.isProtected = true := by
  obtain ⟨keys, mode, epoch, -, rfl⟩ := hdirection
  rfl

theorem Direction.replay_of_keyedFor {direction : Direction} {suite : CipherSuite}
    {version : ProtocolVersion} (hdirection : direction.KeyedFor suite version) :
    direction.replay = .empty := by
  obtain ⟨keys, mode, epoch, -, rfl⟩ := hdirection
  rfl

theorem Direction.stateless_of_keyedFor {direction : Direction} {suite : CipherSuite}
    (hsuite : suite ∈ CipherSuite.catalog) {version : ProtocolVersion}
    (hversion : version.isDatagram = true) (hdirection : direction.KeyedFor suite version) :
    direction.mode.transform.Stateless := by
  obtain ⟨keys, mode, epoch, hmode, rfl⟩ := hdirection
  obtain ⟨key, macKey, iv, hmode⟩ := TrafficKeys.create_of_cipherMode hmode
  obtain ⟨hsupports, engine, auth, -, rfl, hcreate⟩ := CipherSuite.create_of_cipherMode hmode
  obtain ⟨transform, htransform, rfl⟩ := CipherMode.create_eq_ok_iff.mp hcreate
  have hexplicit : auth.version.usesExplicitIV = true := by
    revert hversion
    cases auth.version <;> decide
  exact (CipherMode.made_of_transformOf htransform).stateless
    (CipherSuite.mode_ne_stream_of_supports hsuite hversion hsupports) hexplicit

/-! ### The receiver -/

namespace Protector

/-- The receiver at another place of its epoch, with another window. -/
def readAt (receiver : Protector) (number : UInt64) (window : ReplayWindow) : Protector :=
  { receiver with
    read := { receiver.read with
      mode := receiver.read.mode.placed ⟨receiver.read.sequence.epoch, number⟩
      replay := window } }

@[simp]
theorem readAt_readAt (receiver : Protector) (first second : UInt64)
    (window other : ReplayWindow) :
    (receiver.readAt first window).readAt second other = receiver.readAt second other :=
  rfl

theorem restore_readAt (receiver : Protector) (number : UInt64) :
    { receiver.readAt number receiver.read.replay with
      read := (receiver.readAt number receiver.read.replay).read.restore receiver.read.sequence }
      = receiver :=
  rfl

section Places

variable {receiver : Protector}

theorem unprotectAt_of_refused {sequence : Sequence} {e : RecordError}
    (hplace : receiver.checkPlace sequence = .error e) (type : ContentType) (fragment : Bytes) :
    receiver.unprotectAt type sequence fragment = (.error e, receiver) := by
  simp only [unprotectAt, hplace]

/-- Streams do not place their records. -/
theorem isDatagram_of_checkPlace {sequence : Sequence} {read : Direction}
    (hplace : receiver.checkPlace sequence = .ok read) :
    receiver.params.version.isDatagram = true := by
  cases hstream : receiver.params.version.isDatagram with
  | false =>
      simp [checkPlace, hstream, bind, Except.bind, throw, throwThe, MonadExceptOf.throw] at hplace
  | true => rfl

variable (hdatagram : receiver.params.version.isDatagram = true)
include hdatagram

/-- A record is read at a place of the epoch that passes the window, where there is one, and that
the counter can take. -/
theorem checkPlace_eq_ok_iff {sequence : Sequence} {read : Direction} :
    receiver.checkPlace sequence = .ok read
      ↔ sequence.epoch = receiver.read.sequence.epoch
        ∧ (receiver.config.replayWindow = true →
          receiver.read.replay.check sequence.number = .ok ())
        ∧ sequence.number ≤ maxDatagramNumber
        ∧ read = (receiver.readAt sequence.number receiver.read.replay).read := by
  by_cases hepoch : sequence.epoch = receiver.read.sequence.epoch
  · have hplaced : (receiver.readAt sequence.number receiver.read.replay).read
        = { receiver.read with mode := receiver.read.mode.placed sequence } := by
      simp only [readAt, ← hepoch]
    have hmove : receiver.read.moveTo sequence = .ok read
        ↔ sequence.number ≤ maxDatagramNumber
          ∧ read = { receiver.read with mode := receiver.read.mode.placed sequence } := by
      by_cases hnumber : sequence.number > maxDatagramNumber
      · have hlong := UInt64.not_le.mpr hnumber
        simp [Direction.moveTo, Authenticator.moveTo, hnumber, hlong, bind, Except.bind]
      · have hshort := UInt64.not_lt.mp hnumber
        simp only [Direction.moveTo, Authenticator.moveTo, hnumber, hshort, bind, Except.bind]
        simp [pure, Except.pure, CipherMode.placed, eq_comm]
    rw [hplaced]
    cases hwindow : receiver.config.replayWindow with
    | false => simp [checkPlace, hdatagram, hepoch, hwindow, hmove]
    | true =>
        cases hcheck : receiver.read.replay.check sequence.number with
        | error e =>
            simp [checkPlace, hdatagram, hepoch, hwindow, hcheck, bind, Except.bind]
        | ok => simp [checkPlace, hdatagram, hepoch, hwindow, hcheck, bind, Except.bind, hmove]
  · simp [checkPlace, hdatagram, hepoch, bind, Except.bind, throw, throwThe, MonadExceptOf.throw]

theorem unprotectAt_of_replayed (hwindow : receiver.config.replayWindow = true)
    {sequence : Sequence} (hepoch : sequence.epoch = receiver.read.sequence.epoch)
    {e : RecordError} (hcheck : receiver.read.replay.check sequence.number = .error e)
    (type : ContentType) (fragment : Bytes) :
    receiver.unprotectAt type sequence fragment = (.error e, receiver) := by
  have hplace : receiver.checkPlace sequence = .error e := by
    simp [checkPlace, hdatagram, hepoch, hwindow, hcheck, bind, Except.bind]
  exact unprotectAt_of_refused hplace type fragment

/-- A record at a place that passes is read as if it were the next one. -/
theorem unprotectAt_of_checkPlace {sequence : Sequence} {read : Direction}
    (hplace : receiver.checkPlace sequence = .ok read) (type : ContentType) (fragment : Bytes) :
    receiver.unprotectAt type sequence fragment
      = match (receiver.readAt sequence.number receiver.read.replay).unprotect type fragment with
        | (.ok content, after) => (.ok content, after.markSeen sequence.number)
        | (.error e, after) =>
          (.error e, { after with read := after.read.restore receiver.read.sequence }) := by
  obtain ⟨-, -, -, rfl⟩ := (checkPlace_eq_ok_iff hdatagram).mp hplace
  simp only [unprotectAt, hplace]
  rfl

theorem unprotectAt_of_passed (hwindow : receiver.config.replayWindow = true)
    {sequence : Sequence} (hepoch : sequence.epoch = receiver.read.sequence.epoch)
    (hcheck : receiver.read.replay.check sequence.number = .ok ())
    (hnumber : sequence.number ≤ maxDatagramNumber) (type : ContentType) (fragment : Bytes) :
    receiver.unprotectAt type sequence fragment
      = match (receiver.readAt sequence.number receiver.read.replay).unprotect type fragment with
        | (.ok content, after) => (.ok content, after.markSeen sequence.number)
        | (.error e, after) =>
          (.error e, { after with read := after.read.restore receiver.read.sequence }) := by
  obtain ⟨read, hplace⟩ : ∃ read, receiver.checkPlace sequence = .ok read := by
    simp [checkPlace, hdatagram, hepoch, hwindow, hcheck, bind, Except.bind, Direction.moveTo,
      Authenticator.moveTo, UInt64.not_lt.mpr hnumber, pure, Except.pure]
  exact unprotectAt_of_checkPlace hdatagram hplace type fragment

variable {next : Protector} (hread : receiver.read.mode.transform.Stateless)
include hread

omit hdatagram in
theorem readAt_of_unprotect (type : ContentType) (fragment : Bytes) :
    ∃ number, (receiver.unprotect type fragment).2
      = receiver.readAt number receiver.read.replay := by
  obtain ⟨number, hnumber⟩ := CipherMode.placed_of_decrypt hread type fragment
  unfold unprotect
  split
  · exact ⟨receiver.read.sequence.number, rfl⟩
  · split
    · exact ⟨receiver.read.sequence.number, rfl⟩
    · split
      · exact ⟨receiver.read.sequence.number, rfl⟩
      · refine ⟨number, ?_⟩
        simp only [hnumber]
        rfl

theorem eq_of_unprotectAt_error {type : ContentType} {sequence : Sequence} {fragment : Bytes}
    {e : RecordError}
    (hfailed : receiver.unprotectAt type sequence fragment = (.error e, next)) :
    next = receiver := by
  cases hplace : receiver.checkPlace sequence with
  | error other =>
      rw [unprotectAt_of_refused hplace] at hfailed
      exact (Prod.mk.inj hfailed).2.symm
  | ok read =>
      rw [unprotectAt_of_checkPlace hdatagram hplace] at hfailed
      obtain ⟨reached, hreached⟩ :=
        @readAt_of_unprotect (receiver.readAt sequence.number receiver.read.replay) hread type
          fragment
      split at hfailed
      · cases hfailed
      · rename_i e after hunprotect
        rw [hunprotect] at hreached
        obtain rfl := (Prod.mk.inj hfailed).2
        simp only at hreached
        subst hreached
        -- the counter has moved with the attempt and is put back
        exact restore_readAt receiver reached

/-- A call that succeeds has passed the window and moved it. -/
theorem readAt_of_unprotectAt_ok (hwindow : receiver.config.replayWindow = true)
    {type : ContentType} {sequence : Sequence} {fragment : Bytes} {content : ContentType × Bytes}
    (haccepted : receiver.unprotectAt type sequence fragment = (.ok content, next)) :
    receiver.read.replay.check sequence.number = .ok ()
      ∧ ∃ number, next
        = receiver.readAt number (receiver.read.replay.update sequence.number) := by
  cases hplace : receiver.checkPlace sequence with
  | error other => simp [unprotectAt_of_refused hplace] at haccepted
  | ok read =>
      obtain ⟨-, hcheck, -, -⟩ := (checkPlace_eq_ok_iff hdatagram).mp hplace
      rw [unprotectAt_of_checkPlace hdatagram hplace] at haccepted
      obtain ⟨reached, hreached⟩ :=
        @readAt_of_unprotect (receiver.readAt sequence.number receiver.read.replay) hread type
          fragment
      split at haccepted
      · rename_i content after hunprotect
        rw [hunprotect] at hreached
        obtain rfl := (Prod.mk.inj haccepted).2
        simp only at hreached
        subst hreached
        refine ⟨hcheck hwindow, reached, ?_⟩
        simp only [markSeen, readAt, hwindow, if_true]
        rfl
      · cases haccepted

end Places

/-! ### The sender -/

def writeAt (sender : Protector) (number : UInt64) : Protector :=
  { sender with
    write := { sender.write with
      mode := sender.write.mode.placed ⟨sender.write.sequence.epoch, number⟩ } }

theorem eq_of_protect_error {sender next : Protector}
    (hwrite : sender.write.mode.transform.Stateless) {type : ContentType} {plaintext : Bytes}
    {random rest : RandomSource} {e : RecordError}
    (hfailed : sender.protect type plaintext random = (.error e, next, rest)) :
    next = sender := by
  unfold protect at hfailed
  by_cases hlong : plaintext.length > sender.config.maxRecordSize
  · simp only [hlong, if_true, Prod.mk.injEq] at hfailed
    exact hfailed.2.1.symm
  · rcases hencrypt : sender.write.mode.encrypt (sender.outerContent type plaintext).1
      (sender.outerContent type plaintext).2 random with ⟨_ | fragment, mode, remaining⟩
    · obtain rfl := CipherMode.eq_of_encrypt_error hwrite hencrypt
      simp only [hlong, if_false, hencrypt, Prod.mk.injEq] at hfailed
      exact hfailed.2.1.symm
    · simp [hlong, hencrypt, Except.map] at hfailed

end Protector

end RecordProtection
