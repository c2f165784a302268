import RecordProtection.Proofs.KeyUpdate
import RecordProtection.Proofs.SequenceBlock

/-!
# Places of sent records

Whatever calls are made, the records that a protector sends under one keying have consecutive
numbers of one epoch, the first of them zero.  So two records of a datagram connection have the same
place exactly if an epoch was used under two keyings.  Only the traffic secrets of a handshake can
lead back to an epoch: all other keys count it up.
-/

namespace RecordProtection

/-! ### Calls -/

/-- The calls on a protector, with what they are given. -/
inductive Call where
  | install (installation : Installation)
  | updateKeys (update : KeyUpdate) (schedule : HkdfSchedule)
  | protect (type : ContentType) (plaintext : Bytes) (random : RandomSource)
  | unprotect (type : ContentType) (fragment : Bytes)
  | unprotectAt (type : ContentType) (sequence : Sequence) (fragment : Bytes)

namespace Call

/-- The protector after a call, whatever came of it. -/
def run (call : Call) (protector : Protector) : Protector :=
  match call with
  | install installation => (installation.run protector).2
  | updateKeys update schedule => (update.run protector schedule).2.1
  | protect type plaintext random => (protector.protect type plaintext random).2.1
  | unprotect type fragment => (protector.unprotect type fragment).2
  | unprotectAt type sequence fragment => (protector.unprotectAt type sequence fragment).2

/-- The record that a call returns to be sent. -/
def record? (call : Call) (protector : Protector) : Option ProtectedRecord :=
  match call with
  | protect type plaintext random => (protector.protect type plaintext random).1.toOption
  | _ => none

/-- Whether a call keys the write direction.  A key block can do so and fail after it. -/
def keysWrite (call : Call) (protector : Protector) : Bool :=
  match call with
  | install (.writeKeys keys) => (protector.installWriteKeys keys).1.isOk
  | install (.keyBlock block) => !protector.params.version.is13
      && (protector.installWriteKeys (block.writeKeys protector.params.role)).1.isOk
  | install (.trafficSecrets schedule stage) =>
      (protector.installTrafficSecrets schedule stage).1.isOk
  | updateKeys .write schedule => (protector.updateWriteKeys schedule).1.isOk
  | _ => false

/-- If the call installs traffic secrets, it enters an epoch above the one that is left. -/
def RaisesEpoch (call : Call) (protector : Protector) : Prop :=
  ∀ schedule stage, call = install (.trafficSecrets schedule stage) →
    call.keysWrite protector = true →
    protector.write.sequence.epoch < Protector.stageEpoch stage

/-- What a call can make of the write direction: it leaves the counter alone, sets it to the first
record of an epoch under new keys, or takes the next record from it. -/
inductive Outcome (call : Call) (protector : Protector) : Prop
  | kept (hkeys : call.keysWrite protector = false) (hrecord : call.record? protector = none)
      (hauth : (call.run protector).write.mode.auth = protector.write.mode.auth)
  | keyed {epoch : UInt16} (hkeys : call.keysWrite protector = true)
      (hrecord : call.record? protector = none)
      (hversion : (call.run protector).write.mode.auth.version = protector.params.version)
      (hplace : (call.run protector).write.sequence = .first epoch)
      (hraises : call.RaisesEpoch protector → protector.write.sequence.epoch < epoch)
  | sent {record : ProtectedRecord} (hkeys : call.keysWrite protector = false)
      (hrecord : call.record? protector = some record)
      (hplace : record.sequence = protector.write.sequence)
      (hadvance : protector.write.mode.auth.advance
        = .ok (call.run protector).write.mode.auth)

end Call

theorem Direction.lt_of_nextEpoch {direction : Direction} {epoch : UInt16}
    (hepoch : direction.nextEpoch = .ok epoch) : direction.sequence.epoch < epoch := by
  unfold nextEpoch at hepoch
  split at hepoch
  · cases hepoch
  · rename_i hlast
    cases hepoch
    have hlt := direction.sequence.epoch.toNat_lt
    have hne : direction.sequence.epoch.toNat ≠ 0xffff := fun h => hlast (UInt16.toNat_inj.mp h)
    rw [UInt16.lt_iff_toNat_lt, UInt16.toNat_add, UInt16.toNat_one]
    omega

/-- A record that fails takes no number. -/
theorem CipherMode.auth_of_encrypt_error {mode next : CipherMode} {type : ContentType}
    {plaintext : Bytes} {random rest : RandomSource} {e : RecordError}
    (hfailed : mode.encrypt type plaintext random = (.error e, next, rest)) :
    next.auth = mode.auth := by
  rcases htransform : mode.transform.encrypt mode.auth type plaintext random
    with ⟨_ | record, transform, remaining⟩
  · simp only [encrypt, htransform, Prod.mk.injEq] at hfailed
    rw [← hfailed.2.1]
  · cases hadvance : mode.auth.advance with
    | error other =>
        simp only [encrypt, htransform, hadvance, Prod.mk.injEq] at hfailed
        rw [← hfailed.2.1]
    | ok auth => simp [encrypt, htransform, hadvance] at hfailed

namespace Protector

/-- New keys for a direction count its epoch up. -/
theorem place_of_rekey {protector : Protector} {before after : Direction} {keys : TrafficKeys}
    {forEncryption : Bool} (hrekey : protector.rekey before keys forEncryption = .ok after) :
    after.mode.auth.version = protector.params.version
      ∧ ∃ epoch, after.sequence = .first epoch ∧ before.sequence.epoch < epoch := by
  refine ⟨Direction.version_of_keyedFor (keyedFor_of_rekey hrekey), ?_⟩
  obtain ⟨mode, -, hrekey⟩ := bind_eq_ok_iff.mp hrekey
  obtain ⟨epoch, hepoch, hrekey⟩ := bind_eq_ok_iff.mp hrekey
  obtain rfl := Except.ok.inj hrekey
  exact ⟨epoch, rfl, Direction.lt_of_nextEpoch hepoch⟩

/-- Write keys are installed in a higher epoch, or nothing happens. -/
theorem installWriteKeys_cases (protector : Protector) (keys : TrafficKeys) :
    (∃ e, protector.installWriteKeys keys = (.error e, protector))
      ∨ ∃ write epoch, protector.installWriteKeys keys
          = (.ok (), { protector with write := write })
        ∧ write.mode.auth.version = protector.params.version
        ∧ write.sequence = .first epoch ∧ protector.write.sequence.epoch < epoch := by
  unfold installWriteKeys
  cases hrekey : protector.rekey protector.write keys true with
  | error e => exact .inl ⟨e, rfl⟩
  | ok write =>
      obtain ⟨hversion, epoch, hplace, hraises⟩ := place_of_rekey hrekey
      exact .inr ⟨write, epoch, rfl, hversion, hplace, hraises⟩

theorem installReadKeys_keeps (protector : Protector) (keys : TrafficKeys) :
    ∃ read, (protector.installReadKeys keys).2 = { protector with read := read } := by
  unfold installReadKeys
  split
  · exact ⟨_, rfl⟩
  · exact ⟨protector.read, rfl⟩

theorem updateReadKeys_keeps (protector : Protector) (schedule : HkdfSchedule) :
    ∃ read, (protector.updateReadKeys schedule).2.1 = { protector with read := read } := by
  unfold updateReadKeys
  split
  · exact protector.installReadKeys_keeps _
  · exact ⟨protector.read, rfl⟩

theorem auth_of_protect_error {protector next : Protector} {type : ContentType}
    {plaintext : Bytes} {random rest : RandomSource} {e : RecordError}
    (hfailed : protector.protect type plaintext random = (.error e, next, rest)) :
    next.write.mode.auth = protector.write.mode.auth := by
  unfold protect at hfailed
  by_cases hlong : plaintext.length > protector.config.maxRecordSize
  · simp only [hlong, if_true, Prod.mk.injEq] at hfailed
    rw [← hfailed.2.1]
  · rcases hencrypt : protector.write.mode.encrypt (protector.outerContent type plaintext).1
      (protector.outerContent type plaintext).2 random with ⟨other | fragment, mode, remaining⟩
    · simp only [hlong, if_false, hencrypt, Prod.mk.injEq] at hfailed
      rw [← hfailed.2.1]
      exact CipherMode.auth_of_encrypt_error hencrypt
    · simp [hlong, hencrypt, Except.map] at hfailed

theorem unprotect_keeps (protector : Protector) (type : ContentType) (fragment : Bytes) :
    ∃ read, (protector.unprotect type fragment).2 = { protector with read := read } := by
  unfold unprotect
  split
  · exact ⟨protector.read, rfl⟩
  · split
    · exact ⟨protector.read, rfl⟩
    · split
      · exact ⟨protector.read, rfl⟩
      · exact ⟨_, rfl⟩

theorem unprotectAt_keeps (protector : Protector) (type : ContentType) (sequence : Sequence)
    (fragment : Bytes) :
    ∃ read, (protector.unprotectAt type sequence fragment).2 = { protector with read := read } := by
  unfold unprotectAt
  split
  · exact ⟨protector.read, rfl⟩
  · rename_i read _
    obtain ⟨after, hafter⟩ := unprotect_keeps { protector with read := read } type fragment
    split
    · rename_i content next hunprotect
      rw [hunprotect] at hafter
      obtain rfl : next = { protector with read := after } := hafter
      unfold markSeen
      split
      · exact ⟨_, rfl⟩
      · exact ⟨after, rfl⟩
    · rename_i e next hunprotect
      rw [hunprotect] at hafter
      obtain rfl : next = { protector with read := after } := hafter
      exact ⟨_, rfl⟩

end Protector

namespace Call

/-- A call that touches nothing but the read direction. -/
theorem Outcome.of_read {call : Call} {protector : Protector}
    (hkeys : call.keysWrite protector = false) (hrecord : call.record? protector = none)
    (hframe : ∃ read, call.run protector = { protector with read := read }) :
    call.Outcome protector := by
  obtain ⟨read, hrun⟩ := hframe
  exact .kept hkeys hrecord (by rw [hrun])

/-- A call that keys the write direction as far as given write keys can be installed. -/
theorem Outcome.of_writeKeys {call : Call} {protector : Protector} (keys : TrafficKeys)
    (hrecord : call.record? protector = none)
    (hkeys : call.keysWrite protector = (protector.installWriteKeys keys).1.isOk)
    (hwrite : (call.run protector).write = (protector.installWriteKeys keys).2.write) :
    call.Outcome protector := by
  obtain ⟨e, hinstall⟩ | ⟨write, epoch, hinstall, hversion, hplace, hraises⟩ :=
    protector.installWriteKeys_cases keys
  · rw [hinstall] at hkeys hwrite
    exact .kept hkeys hrecord (by rw [hwrite])
  · rw [hinstall] at hkeys hwrite
    exact .keyed hkeys hrecord (by rw [hwrite, hversion]) (by rw [hwrite, hplace])
      fun _ => hraises

theorem outcome_keyBlock (protector : Protector) (block : KeyBlock) :
    (install (.keyBlock block)).Outcome protector := by
  cases h13 : protector.params.version.is13 with
  | true =>
      refine .kept ?_ rfl ?_
      · simp only [keysWrite, h13, Bool.not_true, Bool.false_and]
      · simp only [run, Installation.run, Protector.installKeyBlock, h13, if_true]
  | false =>
      refine .of_writeKeys (block.writeKeys protector.params.role) rfl ?_ ?_
      · simp only [keysWrite, h13, Bool.not_false, Bool.true_and]
      · simp only [run, Installation.run, Protector.installKeyBlock, h13, Bool.false_eq_true,
          if_false]
        split
        · rename_i written hinstall
          obtain ⟨read, hread⟩ := written.installReadKeys_keeps
            (block.readKeys written.params.role)
          rw [hinstall, hread]
        · rename_i e kept hinstall
          rw [hinstall]

theorem outcome_trafficSecrets (protector : Protector) (schedule : HkdfSchedule)
    (stage : TrafficStage) : (install (.trafficSecrets schedule stage)).Outcome protector := by
  rcases hinstall : protector.installTrafficSecrets schedule stage with ⟨e | _, next⟩
  · have hnext := Installation.eq_of_installTrafficSecrets (congrArg Prod.fst hinstall)
    refine .kept ?_ rfl ?_
    · simp only [keysWrite, hinstall, Except.isOk, Except.toBool]
    · simp only [run, Installation.run, hnext]
  · obtain ⟨write, read, hmodes, rfl⟩ := Protector.installTrafficSecrets_eq_ok_iff.mp hinstall
    obtain ⟨writeKeys, -, -, -, hwrite, -⟩ := Protector.stageModes_eq_ok_iff.mp hmodes
    have hkeyed : (Direction.install write (Protector.stageEpoch stage)).KeyedFor
        protector.params.suite protector.params.version :=
      ⟨writeKeys, write, _, hwrite, rfl⟩
    have hkeys : (install (.trafficSecrets schedule stage)).keysWrite protector = true := by
      simp only [keysWrite, hinstall, Except.isOk, Except.toBool]
    refine .keyed hkeys rfl ?_ ?_ fun hraises => hraises schedule stage rfl hkeys
    · simp only [run, Installation.run, hinstall]
      exact Direction.version_of_keyedFor hkeyed
    · simp only [run, Installation.run, hinstall]
      rfl

theorem outcome_updateWrite (protector : Protector) (schedule : HkdfSchedule) :
    (updateKeys .write schedule).Outcome protector := by
  rcases hkeys : Protector.updatedKeys schedule protector.params.role with ⟨e | keys, moved⟩
  · refine .kept ?_ rfl ?_
    · simp only [keysWrite, Protector.updateWriteKeys, hkeys, Except.isOk, Except.toBool]
    · simp only [run, KeyUpdate.run, Protector.updateWriteKeys, hkeys]
  · refine .of_writeKeys keys rfl ?_ ?_
    · simp only [keysWrite, Protector.updateWriteKeys, hkeys]
    · simp only [run, KeyUpdate.run, Protector.updateWriteKeys, hkeys]

theorem outcome_protect (protector : Protector) (type : ContentType) (plaintext : Bytes)
    (random : RandomSource) : (protect type plaintext random).Outcome protector := by
  rcases hprotect : protector.protect type plaintext random with ⟨e | record, next, rest⟩
  · refine .kept rfl ?_ ?_
    · simp only [record?, hprotect, Except.toOption]
    · simp only [run, hprotect]
      exact Protector.auth_of_protect_error hprotect
  · obtain ⟨-, fragment, mode, hencrypt, hrecord, rfl⟩ :=
      Protector.protect_eq_ok_iff.mp hprotect
    obtain ⟨auth, transform, hadvance, -, rfl⟩ := CipherMode.encrypt_eq_ok_iff.mp hencrypt
    have hsent : (protect type plaintext random).record? protector = some record := by
      simp only [record?, hprotect, Except.toOption]
    refine .sent rfl hsent ?_ ?_
    · rw [hrecord]
    · simp only [run, hprotect]
      exact hadvance

theorem outcome (call : Call) (protector : Protector) : call.Outcome protector := by
  cases call with
  | install installation =>
      cases installation with
      | writeKeys keys => exact .of_writeKeys keys rfl rfl rfl
      | readKeys keys => exact .of_read rfl rfl (protector.installReadKeys_keeps keys)
      | keyBlock block => exact outcome_keyBlock protector block
      | trafficSecrets schedule stage => exact outcome_trafficSecrets protector schedule stage
  | updateKeys update schedule =>
      cases update with
      | write => exact outcome_updateWrite protector schedule
      | read => exact .of_read rfl rfl (protector.updateReadKeys_keeps schedule)
  | protect type plaintext random => exact outcome_protect protector type plaintext random
  | unprotect type fragment => exact .of_read rfl rfl (protector.unprotect_keeps type fragment)
  | unprotectAt type sequence fragment =>
      exact .of_read rfl rfl (protector.unprotectAt_keeps type sequence fragment)

theorem params_run (call : Call) (protector : Protector) :
    (call.run protector).params = protector.params := by
  have hwrite (keys : TrafficKeys) :
      (protector.installWriteKeys keys).2.params = protector.params := by
    unfold Protector.installWriteKeys
    split <;> rfl
  have hread (other : Protector) (keys : TrafficKeys) :
      (other.installReadKeys keys).2.params = other.params := by
    obtain ⟨read, hframe⟩ := other.installReadKeys_keeps keys
    rw [hframe]
  cases call with
  | install installation =>
      cases installation with
      | writeKeys keys => exact hwrite keys
      | readKeys keys => exact hread protector keys
      | keyBlock block =>
          have hwritten := hwrite (block.writeKeys protector.params.role)
          simp only [run, Installation.run, Protector.installKeyBlock]
          split
          · rfl
          · split
            · rename_i written hinstall
              rw [hread, ← hwritten, hinstall]
            · rename_i e kept hinstall
              rw [← hwritten, hinstall]
      | trafficSecrets schedule stage =>
          simp only [run, Installation.run, Protector.installTrafficSecrets]
          split <;> rfl
  | updateKeys update schedule =>
      cases update with
      | write =>
          simp only [run, KeyUpdate.run, Protector.updateWriteKeys]
          split
          · exact hwrite _
          · rfl
      | read =>
          obtain ⟨read, hframe⟩ := protector.updateReadKeys_keeps schedule
          simp only [run, KeyUpdate.run, hframe]
  | protect type plaintext random =>
      simp only [run, Protector.protect]
      split <;> rfl
  | unprotect type fragment =>
      obtain ⟨read, hframe⟩ := protector.unprotect_keeps type fragment
      simp only [run, hframe]
  | unprotectAt type sequence fragment =>
      obtain ⟨read, hframe⟩ := protector.unprotectAt_keeps type sequence fragment
      simp only [run, hframe]

end Call

/-! ### Histories -/

/-- A record that was sent, the mode that protected it, and how often the write direction had been
keyed before. -/
structure Sent where
  keying : Nat
  mode : CipherMode
  record : ProtectedRecord

namespace Sent

def place (sent : Sent) : Sequence := sent.record.sequence

def block (sent : Sent) : Bytes := sent.mode.auth.sequenceBlock

end Sent

/-- A protector in use, with how often its write direction was keyed and what it has sent, the
latest first. -/
structure History where
  protector : Protector
  keyings : Nat
  sent : List Sent

namespace History

def start (protector : Protector) : History := ⟨protector, 0, []⟩

def step (history : History) (call : Call) : History where
  protector := call.run history.protector
  keyings := history.keyings + (call.keysWrite history.protector).toNat
  sent :=
    match call.record? history.protector with
    | some record => ⟨history.keyings, history.protector.write.mode, record⟩ :: history.sent
    | none => history.sent

def run (protector : Protector) (calls : List Call) : History := calls.foldl step (start protector)

def places (history : History) : List Sequence := history.sent.map Sent.place

def blocks (history : History) : List Bytes := history.sent.map Sent.block

/-- Under each keying the numbers of an epoch are counted up from zero. -/
structure Counted (history : History) : Prop where
  version : history.protector.write.mode.auth.version = history.protector.params.version
  placed : ∀ sent ∈ history.sent, sent.mode.auth.version = history.protector.params.version
    ∧ sent.mode.auth.sequence = sent.place ∧ sent.place.number ≤ sent.mode.auth.maxNumber
  keying_le : ∀ sent ∈ history.sent, sent.keying ≤ history.keyings
  behind : ∀ sent ∈ history.sent, sent.keying = history.keyings →
    sent.place.epoch = history.protector.write.sequence.epoch
      ∧ sent.place.number < history.protector.write.sequence.number
  apart : history.sent.Pairwise fun one other => one.keying = other.keying →
    one.place ≠ other.place
  opened : ∀ sent ∈ history.sent, ∃ first ∈ history.sent,
    first.keying = sent.keying ∧ first.place = .first sent.place.epoch
  unopened : (∀ sent ∈ history.sent, sent.keying ≠ history.keyings) →
    history.protector.write.sequence.number = 0

theorem counted_start {protector : Protector}
    (hversion : protector.write.mode.auth.version = protector.params.version)
    (hnumber : protector.write.sequence.number = 0) : (start protector).Counted := by
  refine ⟨hversion, ?_, ?_, ?_, .nil, ?_, fun _ => hnumber⟩
  all_goals exact fun sent hsent => nomatch hsent

theorem Counted.step {history : History} (hcounted : history.Counted) (call : Call) :
    (history.step call).Counted := by
  have hparams := call.params_run history.protector
  cases call.outcome history.protector with
  | kept hkeys hrecord hauth =>
      have hsequence : (call.run history.protector).write.sequence
          = history.protector.write.sequence := congrArg Authenticator.sequence hauth
      refine ⟨?_, ?_, ?_, ?_, ?_, ?_, ?_⟩
      all_goals
        simp only [History.step, hkeys, hrecord, hauth, hparams, hsequence, Bool.toNat_false,
          Nat.add_zero]
      · exact hcounted.version
      · exact hcounted.placed
      · exact hcounted.keying_le
      · exact hcounted.behind
      · exact hcounted.apart
      · exact hcounted.opened
      · exact hcounted.unopened
  | keyed hkeys hrecord hversion hplace hraises =>
      have hnew (sent : Sent) (hsent : sent ∈ history.sent) : sent.keying ≠ history.keyings + 1 :=
        Nat.ne_of_lt (Nat.lt_succ_of_le (hcounted.keying_le sent hsent))
      refine ⟨?_, ?_, ?_, ?_, ?_, ?_, ?_⟩
      all_goals
        simp only [History.step, hkeys, hrecord, hparams, Bool.toNat_true]
      · exact hversion
      · exact hcounted.placed
      · exact fun sent hsent => Nat.le_succ_of_le (hcounted.keying_le sent hsent)
      · exact fun sent hsent hsame => absurd hsame (hnew sent hsent)
      · exact hcounted.apart
      · exact hcounted.opened
      · intro _
        rw [hplace]
        rfl
  | @sent record hkeys hrecord hplace hadvance =>
      obtain ⟨hnumber, hafter⟩ := Authenticator.advance_eq_ok_iff.mp hadvance
      have hlt := lt_add_one_of_lt hnumber
      have hsequence : (call.run history.protector).write.sequence
          = ⟨history.protector.write.sequence.epoch,
            history.protector.write.sequence.number + 1⟩ :=
        congrArg Authenticator.sequence hafter
      refine ⟨?_, ?_, ?_, ?_, ?_, ?_, ?_⟩
      all_goals
        simp only [History.step, hkeys, hrecord, hparams, hsequence, Bool.toNat_false,
          Nat.add_zero, List.forall_mem_cons]
      · rw [hafter]
        exact hcounted.version
      · refine ⟨⟨hcounted.version, hplace.symm, ?_⟩, hcounted.placed⟩
        rw [Sent.place, hplace]
        exact UInt64.le_of_lt hnumber
      · exact ⟨Nat.le_refl _, hcounted.keying_le⟩
      · refine ⟨fun _ => ?_, fun sent hsent hsame => ?_⟩
        · rw [Sent.place, hplace]
          exact ⟨rfl, hlt⟩
        · obtain ⟨hepoch, hbehind⟩ := hcounted.behind sent hsent hsame
          exact ⟨hepoch, UInt64.lt_trans hbehind hlt⟩
      · refine List.pairwise_cons.mpr ⟨?_, hcounted.apart⟩
        intro sent hsent hsame hrepeated
        obtain ⟨-, hbehind⟩ := hcounted.behind sent hsent hsame.symm
        rw [← hrepeated, Sent.place, hplace] at hbehind
        exact UInt64.lt_irrefl _ hbehind
      · refine ⟨?_, fun sent hsent => ?_⟩
        · by_cases hopened : ∃ sent ∈ history.sent, sent.keying = history.keyings
          · obtain ⟨sent, hsent, hsame⟩ := hopened
            obtain ⟨first, hfirst, hkeying, hzero⟩ := hcounted.opened sent hsent
            obtain ⟨hepoch, -⟩ := hcounted.behind sent hsent hsame
            refine ⟨first, List.mem_cons_of_mem _ hfirst, hkeying.trans hsame, ?_⟩
            rw [hzero, hepoch, Sent.place, hplace]
          · have hzero := hcounted.unopened fun sent hsent hsame => hopened ⟨sent, hsent, hsame⟩
            refine ⟨_, List.mem_cons_self, rfl, ?_⟩
            rw [Sent.place, hplace, Sequence.first, ← hzero]
        · obtain ⟨first, hfirst, hkeying, hzero⟩ := hcounted.opened sent hsent
          exact ⟨first, List.mem_cons_of_mem _ hfirst, hkeying, hzero⟩
      · exact fun hnone => absurd rfl hnone.1

theorem run_concat (protector : Protector) (calls : List Call) (call : Call) :
    run protector (calls ++ [call]) = (run protector calls).step call :=
  List.foldl_concat step (start protector) call calls

theorem counted_run {protector : Protector}
    (hversion : protector.write.mode.auth.version = protector.params.version)
    (hnumber : protector.write.sequence.number = 0) (calls : List Call) :
    (run protector calls).Counted := by
  induction calls using List.reverseRecOn with
  | nil => exact counted_start hversion hnumber
  | append_singleton calls call ih =>
      rw [run_concat]
      exact ih.step call

theorem params_run (protector : Protector) (calls : List Call) :
    (run protector calls).protector.params = protector.params := by
  induction calls using List.reverseRecOn with
  | nil => rfl
  | append_singleton calls call ih =>
      rw [run_concat]
      exact (call.params_run _).trans ih

section Counted

variable {history : History} (hcounted : history.Counted)
include hcounted

/-- Places are repeated exactly if an epoch is. -/
theorem Counted.places_nodup_iff :
    history.places.Nodup ↔ ∀ one ∈ history.sent, ∀ other ∈ history.sent,
      one.place.epoch = other.place.epoch → one.keying = other.keying := by
  constructor
  · intro hnodup one hone other hother hepoch
    obtain ⟨first, hfirst, hkeying, hplace⟩ := hcounted.opened one hone
    obtain ⟨second, hsecond, hotherKeying, hotherPlace⟩ := hcounted.opened other hother
    have hsame : first.place = second.place := by
      rw [hplace, hotherPlace, hepoch]
    rw [← hkeying, ← hotherKeying, List.inj_on_of_nodup_map hnodup hfirst hsecond hsame]
  · intro hepochs
    rw [places, List.Nodup, List.pairwise_map]
    refine hcounted.apart.imp_of_mem ?_
    intro one other hone hother hapart hplace
    exact hapart (hepochs one hone other hother (congrArg Sequence.epoch hplace)) hplace

/-- Where places are not repeated, blocks are not. -/
theorem Counted.blocks_nodup (hdatagram : history.protector.params.version.isDatagram = true)
    (hplaces : history.places.Nodup) : history.blocks.Nodup := by
  refine List.Nodup.map_on ?_ hplaces.of_map
  intro one hone other hother hblock
  obtain ⟨hversion, hplace, hnumber⟩ := hcounted.placed one hone
  obtain ⟨hotherVersion, hotherPlace, hotherNumber⟩ := hcounted.placed other hother
  rw [← hplace] at hnumber
  rw [← hotherPlace] at hotherNumber
  have hsame := Authenticator.place_eq_of_sequenceBlock (hotherVersion.trans hversion.symm)
    hnumber hotherNumber (hversion ▸ hdatagram) hblock
  refine List.inj_on_of_nodup_map hplaces hone hother ?_
  rw [← hplace, ← hotherPlace, hsame]

end Counted

theorem nonces_nodup {history : History} (hblocks : history.blocks.Nodup) {layout : NonceLayout}
    (hlayout : layout.ShowsBlock) :
    (history.blocks.map fun block => (layout.sending block).1).Nodup := by
  refine List.Nodup.map_on ?_ hblocks
  intro one hone other hother hnonce
  obtain ⟨first, -, rfl⟩ := List.mem_map.mp hone
  obtain ⟨second, -, rfl⟩ := List.mem_map.mp hother
  exact hlayout.sending_injective (Authenticator.length_sequenceBlock _)
    (Authenticator.length_sequenceBlock _) hnonce

/-! ### Epochs that only rise -/

/-- Later keyings have higher epochs. -/
structure Rising (history : History) : Prop where
  below : ∀ sent ∈ history.sent, sent.keying < history.keyings →
    sent.place.epoch < history.protector.write.sequence.epoch
  rising : ∀ one ∈ history.sent, ∀ other ∈ history.sent, one.keying < other.keying →
    one.place.epoch < other.place.epoch

theorem Rising.step {history : History} (hcounted : history.Counted) (hrising : history.Rising)
    {call : Call} (hraises : call.RaisesEpoch history.protector) :
    (history.step call).Rising := by
  cases call.outcome history.protector with
  | kept hkeys hrecord hauth =>
      have hsequence : (call.run history.protector).write.sequence
          = history.protector.write.sequence := congrArg Authenticator.sequence hauth
      refine ⟨?_, ?_⟩
      all_goals
        simp only [History.step, hkeys, hrecord, hsequence, Bool.toNat_false, Nat.add_zero]
      · exact hrising.below
      · exact hrising.rising
  | keyed hkeys hrecord _ hplace hhigher =>
      have hlt := hhigher hraises
      refine ⟨?_, ?_⟩
      all_goals
        simp only [History.step, hkeys, hrecord, hplace, Bool.toNat_true]
      · intro sent hsent _
        by_cases hsame : sent.keying = history.keyings
        · rw [(hcounted.behind sent hsent hsame).1]
          exact hlt
        · have hearlier := Nat.lt_of_le_of_ne (hcounted.keying_le sent hsent) hsame
          exact UInt16.lt_trans (hrising.below sent hsent hearlier) hlt
      · exact hrising.rising
  | @sent record hkeys hrecord hplace hadvance =>
      obtain ⟨-, hafter⟩ := Authenticator.advance_eq_ok_iff.mp hadvance
      have hepoch : (call.run history.protector).write.sequence.epoch
          = history.protector.write.sequence.epoch :=
        congrArg (fun auth => auth.sequence.epoch) hafter
      refine ⟨?_, ?_⟩
      all_goals
        simp only [History.step, hkeys, hrecord, hepoch, Bool.toNat_false, Nat.add_zero,
          List.forall_mem_cons]
      · exact ⟨fun h => absurd h (Nat.lt_irrefl _), hrising.below⟩
      · refine ⟨⟨fun h => absurd h (Nat.lt_irrefl _), fun other hother hlater => ?_⟩,
          fun one hone => ⟨fun hearlier => ?_, hrising.rising one hone⟩⟩
        · exact absurd hlater (Nat.not_lt.mpr (hcounted.keying_le other hother))
        · rw [show Sent.place ⟨_, _, record⟩ = record.sequence from rfl, hplace]
          exact hrising.below one hone hearlier

/-- Each call of the list, if it installs traffic secrets, enters an epoch above the one that the
calls before it have led to. -/
def RaisesEpochs (protector : Protector) (calls : List Call) : Prop :=
  ∀ before call after, calls = before ++ call :: after →
    call.RaisesEpoch (run protector before).protector

theorem rising_run {protector : Protector}
    (hversion : protector.write.mode.auth.version = protector.params.version)
    (hnumber : protector.write.sequence.number = 0) {calls : List Call}
    (hraises : RaisesEpochs protector calls) : (run protector calls).Rising := by
  induction calls using List.reverseRecOn with
  | nil => exact ⟨fun sent hsent => (nomatch hsent), fun sent hsent => (nomatch hsent)⟩
  | append_singleton calls call ih =>
      rw [run_concat]
      have hearlier : RaisesEpochs protector calls := by
        intro before other after hcalls
        refine hraises before other (after ++ [call]) ?_
        rw [hcalls, List.append_assoc, List.cons_append]
      exact Rising.step (counted_run hversion hnumber calls) (ih hearlier)
        (hraises calls call [] rfl)

theorem Rising.keying_eq {history : History} (hrising : history.Rising) {one other : Sent}
    (hone : one ∈ history.sent) (hother : other ∈ history.sent)
    (hepoch : one.place.epoch = other.place.epoch) : one.keying = other.keying := by
  rcases Nat.lt_trichotomy one.keying other.keying with hlt | heq | hgt
  · have hrises := hrising.rising one hone other hother hlt
    rw [hepoch] at hrises
    exact absurd hrises (UInt16.lt_irrefl _)
  · exact heq
  · have hrises := hrising.rising other hother one hone hgt
    rw [hepoch] at hrises
    exact absurd hrises (UInt16.lt_irrefl _)

/-! ### Datagram connections -/

/-- In whatever order a datagram connection is keyed and sends, its records have different places
exactly if no epoch is used under two keyings, which is so if traffic secrets are installed only in
epochs above the current one.  Then their sequence blocks are different too, and the nonces that
show these blocks, whatever keys have been installed. -/
theorem datagram_places_nodup_iff (params : Parameters) (config : Config) (calls : List Call)
    (hdatagram : params.version.isDatagram = true) :
    ((run (.create params config) calls).places.Nodup
        ↔ ∀ one ∈ (run (.create params config) calls).sent,
          ∀ other ∈ (run (.create params config) calls).sent,
            one.place.epoch = other.place.epoch → one.keying = other.keying)
      ∧ (RaisesEpochs (.create params config) calls →
        (run (.create params config) calls).places.Nodup)
      ∧ ((run (.create params config) calls).places.Nodup →
        (run (.create params config) calls).blocks.Nodup
          ∧ ∀ layout : NonceLayout, layout.ShowsBlock →
            ((run (.create params config) calls).blocks.map
              fun block => (layout.sending block).1).Nodup) := by
  have hcounted : (run (.create params config) calls).Counted := counted_run rfl rfl calls
  have hversion : (run (.create params config) calls).protector.params.version = params.version :=
    congrArg Parameters.version (params_run _ calls)
  refine ⟨hcounted.places_nodup_iff, fun hraises => ?_, fun hplaces => ?_⟩
  · have hrising := rising_run rfl rfl hraises
    exact hcounted.places_nodup_iff.mpr fun one hone other hother =>
      hrising.keying_eq hone hother
  · have hblocks := hcounted.blocks_nodup (hversion ▸ hdatagram) hplaces
    exact ⟨hblocks, fun layout hlayout => nonces_nodup hblocks hlayout⟩

/-- The same keys again, between records. -/
def sameKeysCalls : List Call :=
  [.install (.writeKeys nullShaKeys), .protect .alert [2, 40] ⟨fun _ => 0, 0⟩,
    .protect .alert [1, 0] ⟨fun _ => 0, 0⟩, .install (.writeKeys nullShaKeys),
    .protect .alert [2, 40] ⟨fun _ => 0, 0⟩]

theorem sameKeysCalls_places :
    (nullShaEnd .client).params.version.isDatagram = true
      ∧ (run (nullShaEnd .client) sameKeysCalls).places = [⟨2, 0⟩, ⟨1, 1⟩, ⟨1, 0⟩]
      ∧ (run (nullShaEnd .client) sameKeysCalls).blocks.Nodup := by
  have hraises : RaisesEpochs (nullShaEnd .client) sameKeysCalls := by
    intro before call after hcalls schedule stage hcall
    have hmem : call ∈ sameKeysCalls := by
      rw [hcalls]
      exact List.mem_append_right _ List.mem_cons_self
    subst hcall
    simp [sameKeysCalls] at hmem
  obtain ⟨-, hnodup, hblocks⟩ :=
    datagram_places_nodup_iff (nullShaEnd .client).params {} sameKeysCalls rfl
  exact ⟨rfl, rfl, (hblocks (hnodup hraises)).1⟩

/-- The schedule of a datagram connection after a handshake whose shared secret and digests are
zeros. -/
def datagramSchedule : HkdfSchedule :=
  (({ KeyUpdate.startedSchedule with version := .dtls13 }.deriveMasterSecret (Bytes.zeros 32)
    (some (Bytes.zeros 32))).2.deriveApplicationSecrets (Bytes.zeros 32)).2

/-- The same traffic secrets again, between records. -/
def sameSecretsCalls : List Call :=
  [.install (.trafficSecrets datagramSchedule .application),
    .protect .applicationData [] ⟨fun _ => 0, 0⟩,
    .install (.trafficSecrets datagramSchedule .application),
    .protect .applicationData [] ⟨fun _ => 0, 0⟩]

/-- Some places are repeated. -/
theorem not_forall_places_nodup :
    ¬ ∀ (params : Parameters) (config : Config) (calls : List Call),
      params.version.isDatagram = true → params.suite ∈ CipherSuite.catalog →
      config.validate = .ok config → (run (.create params config) calls).places.Nodup := by
  intro h
  have hnodup := h ⟨.dtls13, .client, KeyUpdate.galoisSuite⟩ {} sameSecretsCalls rfl (by decide) rfl
  have hplaces : (run (.create ⟨.dtls13, .client, KeyUpdate.galoisSuite⟩ {})
      sameSecretsCalls).places = [⟨3, 0⟩, ⟨3, 0⟩] := by
    decide +kernel
  rw [hplaces] at hnodup
  exact absurd hnodup (by decide)

end History

end RecordProtection
