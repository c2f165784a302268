import RecordProtection.Proofs.FragmentLength

/-!
# One direction in order

The receiver of a direction repeats what its sender has done, one record or key update after the
other, so it holds the same mode when it comes to the same place.  Only a record that is longer than
the receiver allows makes it fall behind, until the keys of the direction are updated.
-/

namespace RecordProtection

namespace CipherMode

theorem epoch_of_encrypt {mode next : CipherMode} {type : ContentType} {plaintext record : Bytes}
    {random rest : RandomSource}
    (hencrypt : mode.encrypt type plaintext random = (.ok record, next, rest)) :
    next.auth.sequence.epoch = mode.auth.sequence.epoch := by
  obtain ⟨auth, transform, hadvance, -, rfl⟩ := encrypt_eq_ok_iff.mp hencrypt
  obtain ⟨-, rfl⟩ := Authenticator.advance_eq_ok_iff.mp hadvance
  rfl

theorem epoch_decrypt (mode : CipherMode) (type : ContentType) (record : Bytes) :
    (mode.decrypt type record).2.auth.sequence.epoch = mode.auth.sequence.epoch := by
  rcases htransform : mode.transform.decrypt mode.auth type record with ⟨_ | content, transform⟩
  · simp only [decrypt, htransform]
  · cases hadvance : mode.auth.advance with
    | error e => simp only [decrypt, htransform, hadvance]
    | ok auth =>
        obtain ⟨-, rfl⟩ := Authenticator.advance_eq_ok_iff.mp hadvance
        simp only [decrypt, htransform, hadvance]
        rfl

end CipherMode

namespace Protector

/-- A protected record leaves a keyed direction in use. -/
theorem write_of_protect {sender next : Protector} {suite : CipherSuite} {version : ProtocolVersion}
    (hwrite : sender.write.InUse suite version) {type : ContentType} {plaintext : Bytes}
    {random rest : RandomSource} {record : ProtectedRecord}
    (hprotect : sender.protect type plaintext random = (.ok record, next, rest)) :
    next.write.InUse suite version
      ∧ next.write.sequence.epoch = sender.write.sequence.epoch
      ∧ next.write.isProtected = sender.write.isProtected := by
  obtain ⟨-, fragment, mode, hencrypt, -, rfl⟩ := protect_eq_ok_iff.mp hprotect
  have hcontinues := sender.write.mode.continues_encrypt (sender.outerContent type plaintext).1
    (sender.outerContent type plaintext).2 random
  rw [hencrypt] at hcontinues
  exact ⟨hwrite.continue hcontinues _, CipherMode.epoch_of_encrypt hencrypt, rfl⟩

/-- A received record touches nothing but the mode of its direction. -/
theorem unprotect_frame (receiver : Protector) (type : ContentType) (fragment : Bytes) :
    ∃ mode, (receiver.unprotect type fragment).2
        = { receiver with read := { receiver.read with mode := mode } }
      ∧ mode.auth.sequence.epoch = receiver.read.sequence.epoch := by
  unfold unprotect
  split
  · exact ⟨receiver.read.mode, rfl, rfl⟩
  · split
    · exact ⟨receiver.read.mode, rfl, rfl⟩
    · split
      · exact ⟨receiver.read.mode, rfl, rfl⟩
      · exact ⟨_, rfl, CipherMode.epoch_decrypt _ _ _⟩

end Protector

/-! ### One direction -/

inductive Item where
  | record (type : ContentType) (plaintext : Bytes) (record : ProtectedRecord)
  | keyUpdate

/-- The item is not a record that its receiver refuses for its length. -/
def Item.Fits (limit : Nat) : Item → Prop
  | record _ _ sent => sent.fragment.length ≤ limit
  | keyUpdate => True

/-- An end and its key schedule of version 1.3, which is idle before that version. -/
structure Endpoint where
  protector : Protector
  schedule : HkdfSchedule

/-- What a sender does to its write direction and its schedule between two points, and the items it
sends on the way. -/
inductive Trail (params : Parameters) (config : Config) :
    Direction → HkdfSchedule → List Item → Direction → HkdfSchedule → Prop
  | nil (write : Direction) (schedule : HkdfSchedule) :
      Trail params config write schedule [] write schedule
  | record {sender next : Protector} {type : ContentType} {plaintext : Bytes}
      {random rest : RandomSource} {record : ProtectedRecord} {items : List Item}
      {write : Direction} {schedule last : HkdfSchedule} (hparams : sender.params = params)
      (hconfig : sender.config = config)
      (hprotect : sender.protect type plaintext random = (.ok record, next, rest))
      (htrail : Trail params config next.write schedule items write last) :
      Trail params config sender.write schedule (.record type plaintext record :: items) write last
  | keyUpdate {sender next : Protector} {items : List Item} {write : Direction}
      {schedule moved last : HkdfSchedule} (hparams : sender.params = params)
      (hconfig : sender.config = config)
      (hupdate : sender.updateWriteKeys schedule = (.ok (), next, moved))
      (htrail : Trail params config next.write moved items write last) :
      Trail params config sender.write schedule (.keyUpdate :: items) write last

namespace Trail

variable {params : Parameters} {config : Config} {write : Direction}
  {schedule last : HkdfSchedule} {items : List Item} {sender next : Protector}
  (htrail : Trail params config write schedule items sender.write last)
  (hparams : sender.params = params) (hconfig : sender.config = config)
include htrail hparams hconfig

theorem append_record {type : ContentType} {plaintext : Bytes} {random rest : RandomSource}
    {record : ProtectedRecord}
    (hprotect : sender.protect type plaintext random = (.ok record, next, rest)) :
    Trail params config write schedule (items ++ [.record type plaintext record]) next.write
      last := by
  -- the trail is followed from its start, and the new item only shows at its end
  generalize hend : sender.write = finish at htrail
  induction htrail with
  | nil write schedule =>
      rw [← hend]
      exact .record hparams hconfig hprotect (.nil _ _)
  | record hfirst hsecond hearlier _ ih => exact .record hfirst hsecond hearlier (ih hend)
  | keyUpdate hfirst hsecond hearlier _ ih => exact .keyUpdate hfirst hsecond hearlier (ih hend)

theorem append_keyUpdate {moved : HkdfSchedule}
    (hupdate : sender.updateWriteKeys last = (.ok (), next, moved)) :
    Trail params config write schedule (items ++ [.keyUpdate]) next.write moved := by
  generalize hend : sender.write = finish at htrail
  induction htrail with
  | nil write schedule =>
      rw [← hend]
      exact .keyUpdate hparams hconfig hupdate (.nil _ _)
  | record hfirst hsecond hearlier _ ih => exact .record hfirst hsecond hearlier (ih hupdate hend)
  | keyUpdate hfirst hsecond hearlier _ ih =>
      exact .keyUpdate hfirst hsecond hearlier (ih hupdate hend)

end Trail

/-- Without excess padding no record on a trail is longer than the limit of a receiver with the same
settings, whatever key updates lie between the records. -/
theorem Trail.fits {params : Parameters} {config : Config} {write finish : Direction}
    {schedule last : HkdfSchedule} {items : List Item}
    (htrail : Trail params config write schedule items finish last)
    (hsuite : params.suite ∈ CipherSuite.catalog) (hpads : ¬ config.PadsBeyondLimit params)
    (hprotected : write.isProtected = true) (hwrite : write.InUse params.suite params.version)
    {receiver : Protector} (hconfig : receiver.config = config)
    (hreads : receiver.reads13 = params.version.is13) :
    ∀ item ∈ items, item.Fits receiver.fragmentLimit := by
  induction htrail with
  | nil => exact fun item hmem => nomatch hmem
  | @record sender next _ _ _ _ record _ _ _ _ hparams hsame hprotect _ ih =>
      obtain ⟨hnext, -, hkept⟩ := Protector.write_of_protect hwrite hprotect
      subst hparams hsame
      have hwrites : receiver.reads13 = sender.writes13 := by
        rw [hreads, Protector.writes13, hprotected, Bool.true_and]
      have hfits : record.fragment.length ≤ receiver.fragmentLimit :=
        Protector.length_fragment_le hsuite hwrite (congrArg Prod.fst hprotect) hconfig hwrites
          hpads
      exact List.forall_mem_cons.mpr ⟨hfits, ih (hkept.trans hprotected) hnext⟩
  | @keyUpdate sender next _ _ _ _ _ hparams hsame hupdate _ ih =>
      obtain ⟨keys, -, hinstall⟩ := Protector.updateWriteKeys_eq_ok_iff.mp hupdate
      obtain ⟨written, hrekey, rfl⟩ := Protector.installWriteKeys_eq_ok_iff.mp hinstall
      have hkeyed := Protector.keyedFor_of_rekey hrekey
      rw [hparams] at hkeyed
      exact List.forall_mem_cons.mpr ⟨trivial, ih (Direction.isProtected_of_keyedFor hkeyed)
        (Direction.inUse_of_keyedFor hkeyed)⟩

/-- The receiver at a point of the sender's trail, both under keys.  It holds the same mode, unless
it has refused a record under the current keys. -/
structure AtPoint (receiver : Endpoint) (role : Role) (refused : Bool) (write : Direction)
    (schedule : HkdfSchedule) : Prop where
  shares : schedule.Shares receiver.schedule role
  epoch : receiver.protector.read.sequence.epoch = write.sequence.epoch
  readProtected : receiver.protector.read.isProtected = true
  writeProtected : write.isProtected = true
  inUse : write.InUse receiver.protector.params.suite receiver.protector.params.version
  mode : refused = false → receiver.protector.read.mode = write.mode

/-- A receiver that is some items behind its sender.  Only padding can make it refuse a record. -/
structure Coupled (sender receiver : Endpoint) (items : List Item) (refused : Bool) : Prop where
  peers : Protector.Peers sender.protector receiver.protector
  config : receiver.protector.config = sender.protector.config
  suite : sender.protector.params.suite ∈ CipherSuite.catalog
  pads : refused = true → sender.protector.config.PadsBeyondLimit sender.protector.params
  trail : ∃ write schedule last,
    AtPoint receiver sender.protector.params.role refused write schedule
      ∧ Trail sender.protector.params sender.protector.config write schedule items
        sender.protector.write last
      ∧ last.Shares sender.schedule sender.protector.params.role

namespace Coupled

variable {sender receiver : Endpoint} {items : List Item} {refused : Bool}

/-- Ends that have got the same keys are coupled, with nothing between them. -/
theorem of_keyedPair (hpeers : Protector.Peers sender.protector receiver.protector)
    (hconfig : receiver.protector.config = sender.protector.config)
    (hsuite : sender.protector.params.suite ∈ CipherSuite.catalog)
    (hshares : sender.schedule.Shares receiver.schedule sender.protector.params.role)
    (hpair : Protector.KeyedPair sender.protector receiver.protector) :
    Coupled sender receiver [] false := by
  obtain ⟨hread, hwrite⟩ := hpair
  have hprotected : sender.protector.write.isProtected = true :=
    Direction.isProtected_of_keyedFor hwrite
  have hpoint : AtPoint receiver sender.protector.params.role false sender.protector.write
      sender.schedule :=
    ⟨hshares, by rw [hread], by rw [hread, hprotected], hprotected, by
      rw [hpeers.suite, hpeers.version]
      exact Direction.inUse_of_keyedFor hwrite, fun _ => by rw [hread]⟩
  exact ⟨hpeers, hconfig, hsuite, nofun, _, _, _, hpoint, .nil _ _, .refl _ _⟩

/-! ### Steps of the sender -/

section Sender

variable (hcoupled : Coupled sender receiver items refused) {next : Protector}
include hcoupled

theorem protect {type : ContentType} {plaintext : Bytes} {random rest : RandomSource}
    {record : ProtectedRecord}
    (hprotect : sender.protector.protect type plaintext random = (.ok record, next, rest)) :
    Coupled { sender with protector := next } receiver (items ++ [.record type plaintext record])
      refused := by
  obtain ⟨write, schedule, last, hpoint, htrail, hshares⟩ := hcoupled.trail
  have hlonger := htrail.append_record rfl rfl hprotect
  obtain ⟨-, fragment, mode, -, -, rfl⟩ := Protector.protect_eq_ok_iff.mp hprotect
  exact ⟨hcoupled.peers.congr rfl rfl, hcoupled.config, hcoupled.suite, hcoupled.pads, write,
    schedule, last, hpoint, hlonger, hshares⟩

theorem updateKeys {moved : HkdfSchedule}
    (hupdate : sender.protector.updateWriteKeys sender.schedule = (.ok (), next, moved)) :
    Coupled ⟨next, moved⟩ receiver (items ++ [.keyUpdate]) refused := by
  obtain ⟨write, schedule, last, hpoint, htrail, hshares⟩ := hcoupled.trail
  obtain ⟨secret, hfollowed, rfl⟩ := Protector.updateWriteKeys_congr hshares hupdate
  have hlonger := htrail.append_keyUpdate rfl rfl hfollowed
  obtain ⟨keys, -, hinstall⟩ := Protector.updateWriteKeys_eq_ok_iff.mp hupdate
  obtain ⟨written, -, rfl⟩ := Protector.installWriteKeys_eq_ok_iff.mp hinstall
  exact ⟨hcoupled.peers.congr rfl rfl, hcoupled.config, hcoupled.suite, hcoupled.pads, write,
    schedule, _, hpoint, hlonger, hshares.withTrafficSecret secret⟩

end Sender

/-! ### Steps of the receiver -/

section Receiver

variable {type : ContentType} {plaintext : Bytes} {record : ProtectedRecord}

theorem receiver_suite (hcoupled : Coupled sender receiver items refused) :
    receiver.protector.params.suite ∈ CipherSuite.catalog := by
  rw [hcoupled.peers.suite]
  exact hcoupled.suite

/-- A receiver at a point where a record is protected reads it and goes on with the sender. -/
theorem unprotect_of_point {other next : Protector} {schedule : HkdfSchedule}
    (hsuite : receiver.protector.params.suite ∈ CipherSuite.catalog)
    (hpeers : Protector.Peers other receiver.protector)
    (hconfig : receiver.protector.config = other.config)
    (hpoint : AtPoint receiver other.params.role false other.write schedule)
    {random rest : RandomSource}
    (hprotect : other.protect type plaintext random = (.ok record, next, rest))
    (hshort : record.fragment.length ≤ receiver.protector.fragmentLimit) :
    receiver.protector.unprotect record.type record.fragment
      = (.ok (type, plaintext), { receiver.protector with
          read := { receiver.protector.read with mode := next.write.mode } }) := by
  have hstep : Protector.InStep other receiver.protector :=
    ⟨hpeers.version, hpoint.readProtected.trans hpoint.writeProtected.symm, hpoint.mode rfl⟩
  have hplaintext : plaintext.length ≤ receiver.protector.config.maxRecordSize := by
    rw [hconfig]
    exact (Protector.protect_eq_ok_iff.mp hprotect).1
  have hreliable := hpoint.inUse.reliable hsuite
  exact Protector.unprotect_protect hstep hreliable.lawful hreliable.header hprotect
    ⟨hshort, hplaintext⟩

/-- A receiver that has refused no record under the current keys reads the next one, if it is not
too long. -/
theorem unprotect_eq_ok
    (hcoupled : Coupled sender receiver (.record type plaintext record :: items) false)
    (hshort : record.fragment.length ≤ receiver.protector.fragmentLimit) :
    (receiver.protector.unprotect record.type record.fragment).1 = .ok (type, plaintext) := by
  obtain ⟨write, schedule, last, hpoint, htrail, hshares⟩ := hcoupled.trail
  cases htrail with
  | @record other next _ _ _ _ _ _ _ _ _ hparams hconfig hprotect _ =>
      rw [← hparams] at hpoint
      rw [unprotect_of_point hcoupled.receiver_suite (hcoupled.peers.congr hparams rfl)
        (hcoupled.config.trans hconfig.symm) hpoint hprotect hshort]

/-- Without excess padding, nothing that is still to come is too long. -/
theorem fits (hcoupled : Coupled sender receiver items refused)
    (hpads : ¬ sender.protector.config.PadsBeyondLimit sender.protector.params) :
    ∀ item ∈ items, item.Fits receiver.protector.fragmentLimit := by
  obtain ⟨write, schedule, last, hpoint, htrail, -⟩ := hcoupled.trail
  have hwrite := hpoint.inUse
  rw [hcoupled.peers.suite, hcoupled.peers.version] at hwrite
  refine htrail.fits hcoupled.suite hpads hpoint.writeProtected hwrite hcoupled.config ?_
  rw [Protector.reads13, hpoint.readProtected, Bool.true_and, hcoupled.peers.version]

/-- Whether the record is read or refused, the receiver is one item further on. -/
theorem deliver
    (hcoupled : Coupled sender receiver (.record type plaintext record :: items) refused) :
    Coupled sender
      { receiver with
        protector := (receiver.protector.unprotect record.type record.fragment).2 }
      items
      (refused || decide (receiver.protector.fragmentLimit < record.fragment.length)) := by
  obtain ⟨write, schedule, last, hpoint, htrail, hshares⟩ := hcoupled.trail
  obtain ⟨mode, hframe, hepoch⟩ :=
    receiver.protector.unprotect_frame record.type record.fragment
  cases htrail with
  | @record other next _ _ _ _ _ _ _ _ _ hparams hconfig hprotect hrest =>
      obtain ⟨hinUse, hsameEpoch, hprotected⟩ :=
        Protector.write_of_protect hpoint.inUse hprotect
      have hmode : (refused || decide (receiver.protector.fragmentLimit < record.fragment.length))
          = false → mode = next.write.mode := by
        intro hread
        simp only [Bool.or_eq_false_iff, decide_eq_false_iff_not, Nat.not_lt] at hread
        obtain ⟨rfl, hshort⟩ := hread
        rw [← hparams] at hpoint
        rw [unprotect_of_point hcoupled.receiver_suite (hcoupled.peers.congr hparams rfl)
          (hcoupled.config.trans hconfig.symm) hpoint hprotect hshort] at hframe
        exact (congrArg (fun protector => protector.read.mode) hframe).symm
      -- only a record beyond the limit changes the flag, and only padding makes one that long
      have hpads : (refused || decide (receiver.protector.fragmentLimit < record.fragment.length))
          = true → sender.protector.config.PadsBeyondLimit sender.protector.params := by
        intro hlong
        simp only [Bool.or_eq_true, decide_eq_true_eq] at hlong
        rcases hlong with hrefused | hlong
        · exact hcoupled.pads hrefused
        · by_contra hpads
          have hfits : record.fragment.length ≤ receiver.protector.fragmentLimit :=
            hcoupled.fits hpads _ List.mem_cons_self
          exact Nat.not_le.mpr hlong hfits
      rw [hframe]
      refine ⟨hcoupled.peers.congr rfl rfl, hcoupled.config, hcoupled.suite, hpads, next.write,
        schedule, last, ?_, hrest, hshares⟩
      exact ⟨hpoint.shares, hepoch.trans (hpoint.epoch.trans hsameEpoch.symm),
        hpoint.readProtected, hprotected.trans hpoint.writeProtected, hinUse, hmode⟩

/-- The receiver can follow a key update, and holds the mode of the sender again. -/
theorem follow (hcoupled : Coupled sender receiver (.keyUpdate :: items) refused) :
    ∃ next moved, receiver.protector.updateReadKeys receiver.schedule = (.ok (), next, moved)
      ∧ Coupled sender ⟨next, moved⟩ items false := by
  obtain ⟨write, schedule, last, hpoint, htrail, hshares⟩ := hcoupled.trail
  cases htrail with
  | @keyUpdate other next _ _ _ moved _ hparams hconfig hupdate hrest =>
      have hpeers := hcoupled.peers.congr hparams rfl
      rw [← hparams] at hpoint
      obtain ⟨written, secret, rfl, rfl, hfollow, hkeyed⟩ :=
        Protector.updateReadKeys_peer hpeers hpoint.epoch hpoint.shares hupdate
      refine ⟨_, _, hfollow, hcoupled.peers.congr rfl rfl, hcoupled.config, hcoupled.suite, nofun,
        written, _, last, ?_, hrest, hshares⟩
      have hprotected := Direction.isProtected_of_keyedFor hkeyed
      have hinUse : written.InUse receiver.protector.params.suite
          receiver.protector.params.version := by
        rw [hpeers.suite, hpeers.version]
        exact Direction.inUse_of_keyedFor hkeyed
      rw [hparams] at hpoint ⊢
      exact ⟨hpoint.shares.withTrafficSecret secret, rfl, hprotected, hprotected, hinUse,
        fun _ => rfl⟩

end Receiver

/-! ### Steps in the other direction -/

theorem congr_sender (hcoupled : Coupled sender receiver items refused) {other : Endpoint}
    (hparams : other.protector.params = sender.protector.params)
    (hconfig : other.protector.config = sender.protector.config)
    (hwrite : other.protector.write = sender.protector.write)
    (hshares : sender.schedule.Shares other.schedule sender.protector.params.role) :
    Coupled other receiver items refused := by
  obtain ⟨write, schedule, last, hpoint, htrail, hlast⟩ := hcoupled.trail
  refine ⟨hcoupled.peers.congr hparams rfl, hcoupled.config.trans hconfig.symm, ?_, ?_, write,
    schedule, last, ?_, ?_, ?_⟩
  · rw [hparams]
    exact hcoupled.suite
  · rw [hparams, hconfig]
    exact hcoupled.pads
  · rwa [hparams]
  · rwa [hparams, hconfig, hwrite]
  · rw [hparams]
    exact hlast.trans hshares

theorem congr_receiver (hcoupled : Coupled sender receiver items refused) {other : Endpoint}
    (hparams : other.protector.params = receiver.protector.params)
    (hconfig : other.protector.config = receiver.protector.config)
    (hread : other.protector.read = receiver.protector.read)
    (hshares : receiver.schedule.Shares other.schedule sender.protector.params.role) :
    Coupled sender other items refused := by
  obtain ⟨write, schedule, last, hpoint, htrail, hlast⟩ := hcoupled.trail
  refine ⟨hcoupled.peers.congr rfl hparams, hconfig.trans hcoupled.config, hcoupled.suite,
    hcoupled.pads, write, schedule, last, ?_, htrail, hlast⟩
  exact ⟨hpoint.shares.trans hshares, hread ▸ hpoint.epoch, hread ▸ hpoint.readProtected,
    hpoint.writeProtected, hparams ▸ hpoint.inUse, hread ▸ hpoint.mode⟩

end Coupled

end RecordProtection
