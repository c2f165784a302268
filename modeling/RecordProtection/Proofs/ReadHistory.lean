import RecordProtection.Proofs.Datagram
import RecordProtection.Proofs.Rejected

/-!
# Places of read records

A datagram record that is read at its own place has passed the window and marks it, so no later one
is read at that place.  A record that is read in order takes the place of the counter, and neither
asks the window nor marks it.  Where both are mixed, two records can be read at the same place, but
only if one of them was read in order, and only if a record was read below the counter.
-/

namespace RecordProtection

/-! ### Calls -/

/-- The calls that read a record, in order or at a place, with what they are given. -/
inductive ReadCall where
  | inOrder (type : ContentType) (fragment : Bytes)
  | placed (type : ContentType) (sequence : Sequence) (fragment : Bytes)

namespace ReadCall

def run (call : ReadCall) (protector : Protector) :
    Except RecordError (ContentType × Bytes) × Protector :=
  match call with
  | inOrder type fragment => protector.unprotect type fragment
  | placed type sequence fragment => protector.unprotectAt type sequence fragment

def type : ReadCall → ContentType
  | inOrder type _ => type
  | placed type _ _ => type

def isPlaced : ReadCall → Bool
  | inOrder _ _ => false
  | placed _ _ _ => true

/-- Where a call reads: at the counter, or at the place it is given. -/
def place (call : ReadCall) (protector : Protector) : Sequence :=
  match call with
  | inOrder _ _ => protector.read.sequence
  | placed _ sequence _ => sequence

def succeeds (call : ReadCall) (protector : Protector) : Bool := (call.run protector).1.isOk

/-- Whether a call returns what it has decrypted.  The compatibility records of version 1.3 pass as
they are. -/
def decrypts (call : ReadCall) (protector : Protector) : Bool :=
  call.succeeds protector && !(protector.reads13 && call.type == .changeCipherSpec)

end ReadCall

/-! ### The counter -/

theorem Authenticator.lt_of_advance {auth next : Authenticator}
    (hadvance : auth.advance = .ok next) : auth.sequence.number < next.sequence.number := by
  obtain ⟨hnumber, rfl⟩ := advance_eq_ok_iff.mp hadvance
  exact lt_add_one_of_lt hnumber

/-- A record that fails leaves the counter alone, and one that is decrypted takes a number. -/
theorem CipherMode.auth_of_decrypt (mode : CipherMode) (type : ContentType) (record : Bytes) :
    ((mode.decrypt type record).1.isOk = false ∧ (mode.decrypt type record).2.auth = mode.auth)
      ∨ mode.auth.advance = .ok (mode.decrypt type record).2.auth := by
  rcases htransform : mode.transform.decrypt mode.auth type record with ⟨_ | content, transform⟩
  · left
    simp only [decrypt, htransform]
    exact ⟨rfl, trivial⟩
  · cases hadvance : mode.auth.advance with
    | error e =>
        left
        simp only [decrypt, htransform, hadvance]
        exact ⟨rfl, trivial⟩
    | ok auth =>
        right
        simp only [decrypt, htransform, hadvance]

namespace Protector

/-- A record that is read in order has taken a number, unless it has passed as it is. -/
theorem auth_of_unprotect (protector : Protector) (type : ContentType) (fragment : Bytes) :
    ((protector.unprotect type fragment).2.read.mode.auth = protector.read.mode.auth
        ∧ ((protector.unprotect type fragment).1.isOk = true →
          (protector.reads13 && type == .changeCipherSpec) = true))
      ∨ protector.read.mode.auth.advance
        = .ok (protector.unprotect type fragment).2.read.mode.auth := by
  unfold unprotect
  split
  · exact .inl ⟨rfl, fun h => nomatch h⟩
  · split
    · rename_i hpasses
      exact .inl ⟨rfl, fun _ => hpasses⟩
    · split
      · exact .inl ⟨rfl, fun h => nomatch h⟩
      · obtain ⟨hfailed, hkept⟩ | hadvance :=
          protector.read.mode.auth_of_decrypt type fragment
        · refine .inl ⟨hkept, fun hread => ?_⟩
          cases hresult : (protector.read.mode.decrypt type fragment).1 with
          | error e =>
              simp only [hresult, bind, Except.bind] at hread
              cases hread
          | ok content =>
              rw [hresult] at hfailed
              cases hfailed
        · exact .inr hadvance

/-- In order, a record moves nothing but the counter, and the counter only forward. -/
theorem unprotect_moves {protector : Protector}
    (hstateless : protector.read.mode.transform.Stateless) (type : ContentType)
    (fragment : Bytes) :
    ∃ number, (protector.unprotect type fragment).2
        = protector.readAt number protector.read.replay
      ∧ protector.read.sequence.number ≤ number
      ∧ ((ReadCall.inOrder type fragment).decrypts protector = true →
        protector.read.sequence.number < number) := by
  obtain ⟨number, hafter⟩ := readAt_of_unprotect hstateless type fragment
  refine ⟨number, hafter, ?_⟩
  have hmoved := protector.auth_of_unprotect type fragment
  rw [hafter] at hmoved
  obtain ⟨hkept, hpasses⟩ | hadvance := hmoved
  · obtain rfl : number = protector.read.sequence.number :=
      congrArg (fun auth => auth.sequence.number) hkept
    refine ⟨UInt64.le_refl _, fun hdecrypts => ?_⟩
    obtain ⟨hread, hother⟩ := Bool.and_eq_true_iff.mp hdecrypts
    rw [ReadCall.type, hpasses hread] at hother
    cases hother
  · have hlt := Authenticator.lt_of_advance hadvance
    exact ⟨UInt64.le_of_lt hlt, fun _ => hlt⟩

/-- At the place of the counter, a record is read as in order. -/
theorem unprotect_of_unprotectAt {protector : Protector}
    (hdatagram : protector.params.version.isDatagram = true) {type : ContentType}
    {fragment : Bytes} {content : ContentType × Bytes}
    (haccepted : (protector.unprotectAt type protector.read.sequence fragment).1 = .ok content) :
    (protector.unprotect type fragment).1 = .ok content := by
  cases hplace : protector.checkPlace protector.read.sequence with
  | error e =>
      rw [unprotectAt_of_refused hplace] at haccepted
      cases haccepted
  | ok read =>
      have hthere : protector.readAt protector.read.sequence.number protector.read.replay
          = protector := rfl
      rw [unprotectAt_of_checkPlace hdatagram hplace, hthere] at haccepted
      rcases hunprotect : protector.unprotect type fragment with ⟨e | other, after⟩
      · rw [hunprotect] at haccepted
        cases haccepted
      · rw [hunprotect] at haccepted
        exact haccepted

end Protector

/-! ### What a call does -/

namespace ReadCall

/-- What a call makes of the read direction: without a look at the window it moves the counter
forward, or it passes the window, marks its place and moves the counter there or behind it. -/
inductive Outcome (call : ReadCall) (protector : Protector) : Prop
  | unmarked {number : UInt64}
      (hafter : (call.run protector).2 = protector.readAt number protector.read.replay)
      (hinOrder : call.decrypts protector = true →
        call.isPlaced = false ∧ call.place protector = protector.read.sequence)
      (hforward : protector.read.sequence.number ≤ number)
      (hbehind : call.decrypts protector = true → protector.read.sequence.number < number)
  | marked {number : UInt64}
      (hafter : (call.run protector).2 = protector.readAt number
        (protector.read.replay.update (call.place protector).number))
      (hsucceeds : call.succeeds protector = true)
      (hepoch : (call.place protector).epoch = protector.read.sequence.epoch)
      (hcheck : protector.read.replay.check (call.place protector).number = .ok ())
      (hforward : (call.place protector).number ≤ number)
      (hbehind : call.decrypts protector = true → (call.place protector).number < number)

section Outcome

variable {protector : Protector} (hprotector : protector.InUse)
  (hsuite : protector.params.suite ∈ CipherSuite.catalog)
  (hdatagram : protector.params.version.isDatagram = true)
  (hwindow : protector.config.replayWindow = true)
include hprotector hsuite hdatagram

theorem outcome_inOrder (type : ContentType) (fragment : Bytes) :
    (inOrder type fragment).Outcome protector := by
  have hstateless := hprotector.read.stateless hsuite hdatagram
  obtain ⟨number, hafter, hforward, hbehind⟩ :=
    Protector.unprotect_moves hstateless type fragment
  exact .unmarked hafter (fun _ => ⟨rfl, rfl⟩) hforward hbehind

include hwindow

theorem outcome_placed (type : ContentType) (sequence : Sequence) (fragment : Bytes) :
    (placed type sequence fragment).Outcome protector := by
  have hstateless := hprotector.read.stateless hsuite hdatagram
  cases hresult : (protector.unprotectAt type sequence fragment).1 with
  | error e =>
      have hkept := hprotector.eq_of_unprotectAt hsuite hresult
      have hfailed : (placed type sequence fragment).decrypts protector = false := by
        simp [decrypts, succeeds, run, hresult, Except.isOk, Except.toBool]
      refine .unmarked hkept ?_ (UInt64.le_refl _) ?_
      all_goals
        rw [hfailed]
        exact fun h => nomatch h
  | ok content =>
      cases hplace : protector.checkPlace sequence with
      | error e =>
          rw [Protector.unprotectAt_of_refused hplace] at hresult
          cases hresult
      | ok read =>
          obtain ⟨hepoch, hcheck, -, -⟩ := (Protector.checkPlace_eq_ok_iff hdatagram).mp hplace
          -- the record is read in order at its place
          obtain ⟨number, hafter, hforward, hbehind⟩ := @Protector.unprotect_moves
            (protector.readAt sequence.number protector.read.replay) hstateless type fragment
          have hcall := Protector.unprotectAt_of_checkPlace hdatagram hplace type fragment
          rcases hunprotect : (protector.readAt sequence.number protector.read.replay).unprotect
            type fragment with ⟨e | other, after⟩
          · rw [hcall, hunprotect] at hresult
            cases hresult
          · rw [hunprotect] at hcall hafter
            obtain rfl : after = protector.readAt number protector.read.replay := hafter
            refine .marked ?_ ?_ hepoch (hcheck hwindow) hforward fun hdecrypts => hbehind ?_
            · rw [run, hcall]
              simp only [Protector.markSeen, Protector.readAt, hwindow, if_true]
              rfl
            · simp [succeeds, run, hresult, Except.isOk, Except.toBool]
            · have hread : (inOrder type fragment).succeeds
                  (protector.readAt sequence.number protector.read.replay) = true := by
                simp [succeeds, run, hunprotect, Except.isOk, Except.toBool]
              rw [decrypts, hread]
              exact (Bool.and_eq_true_iff.mp hdecrypts).2

theorem outcome (call : ReadCall) : call.Outcome protector := by
  cases call with
  | inOrder type fragment => exact outcome_inOrder hprotector hsuite hdatagram type fragment
  | placed type sequence fragment =>
      exact outcome_placed hprotector hsuite hdatagram hwindow type sequence fragment

end Outcome

end ReadCall

/-! ### Histories -/

/-- A record that has been decrypted, and whether at a place of its own. -/
structure Reading where
  placed : Bool
  place : Sequence
  deriving DecidableEq, Repr

/-- A protector after calls that read, and the records that have been decrypted, the latest
first. -/
structure ReadHistory where
  protector : Protector
  readings : List Reading

namespace ReadHistory

def step (history : ReadHistory) (call : ReadCall) : ReadHistory where
  protector := (call.run history.protector).2
  readings :=
    if call.decrypts history.protector then
      ⟨call.isPlaced, call.place history.protector⟩ :: history.readings
    else history.readings

def run (protector : Protector) (calls : List ReadCall) : ReadHistory :=
  calls.foldl step ⟨protector, []⟩

def places (history : ReadHistory) : List Sequence := history.readings.map Reading.place

theorem run_concat (protector : Protector) (calls : List ReadCall) (call : ReadCall) :
    run protector (calls ++ [call]) = (run protector calls).step call :=
  List.foldl_concat step ⟨protector, []⟩ call calls

/-! ### Marked places -/

/-- The window keeps the places of the records that were read at their own. -/
structure Marked (history : ReadHistory) : Prop where
  inUse : history.protector.InUse
  suite : history.protector.params.suite ∈ CipherSuite.catalog
  datagram : history.protector.params.version.isDatagram = true
  window : history.protector.config.replayWindow = true
  epoch : ∀ reading ∈ history.readings,
    reading.place.epoch = history.protector.read.sequence.epoch
  refused : ∀ reading ∈ history.readings, reading.placed = true →
    history.protector.read.replay.Refuses reading.place.number
  apart : history.readings.Pairwise fun later earlier =>
    later.placed = true → earlier.placed = true → later.place ≠ earlier.place

section Marked

variable {history : ReadHistory} (hmarked : history.Marked)
include hmarked

theorem Marked.outcome (call : ReadCall) : call.Outcome history.protector :=
  call.outcome hmarked.inUse hmarked.suite hmarked.datagram hmarked.window

theorem Marked.inUse_step (call : ReadCall) : (history.step call).protector.InUse := by
  cases call with
  | inOrder type fragment => exact hmarked.inUse.unprotect type fragment
  | placed type sequence fragment => exact hmarked.inUse.unprotectAt type sequence fragment

/-- A call at a place that passes the window reads none of the marked places. -/
theorem Marked.ne_of_check {place : Sequence}
    (hcheck : history.protector.read.replay.check place.number = .ok ()) {reading : Reading}
    (hmem : reading ∈ history.readings) (hplaced : reading.placed = true) :
    place ≠ reading.place := by
  rintro rfl
  exact ReplayWindow.not_refuses_of_check hcheck (hmarked.refused reading hmem hplaced)

theorem Marked.step (call : ReadCall) : (history.step call).Marked := by
  have hinUse := hmarked.inUse_step call
  cases hmarked.outcome call with
  | unmarked hafter hinOrder _ _ =>
      by_cases hdecrypts : call.decrypts history.protector = true
      · obtain ⟨hplaced, hplace⟩ := hinOrder hdecrypts
        refine ⟨hinUse, ?_, ?_, ?_, ?_, ?_, ?_⟩
        all_goals simp only [ReadHistory.step, hafter, hdecrypts, if_true]
        · exact hmarked.suite
        · exact hmarked.datagram
        · exact hmarked.window
        · refine List.forall_mem_cons.mpr ⟨?_, hmarked.epoch⟩
          rw [hplace]
          rfl
        · exact List.forall_mem_cons.mpr ⟨fun h => absurd h (by simp [hplaced]), hmarked.refused⟩
        · refine List.pairwise_cons.mpr ⟨fun _ _ h => ?_, hmarked.apart⟩
          exact absurd h (by simp [hplaced])
      · refine ⟨hinUse, ?_, ?_, ?_, ?_, ?_, ?_⟩
        all_goals simp only [ReadHistory.step, hafter, hdecrypts]
        · exact hmarked.suite
        · exact hmarked.datagram
        · exact hmarked.window
        · exact hmarked.epoch
        · exact hmarked.refused
        · exact hmarked.apart
  | marked hafter _ hepoch hcheck _ _ =>
      have hrefused (reading : Reading) (hmem : reading ∈ history.readings)
          (hplaced : reading.placed = true) :
          (history.protector.read.replay.update
            (call.place history.protector).number).Refuses reading.place.number :=
        (hmarked.refused reading hmem hplaced).update _
      refine ⟨hinUse, ?_, ?_, ?_, ?_, ?_, ?_⟩
      all_goals simp only [ReadHistory.step, hafter]
      · exact hmarked.suite
      · exact hmarked.datagram
      · exact hmarked.window
      · split
        · exact List.forall_mem_cons.mpr ⟨hepoch, hmarked.epoch⟩
        · exact hmarked.epoch
      · split
        · refine List.forall_mem_cons.mpr ⟨fun _ => ?_, hrefused⟩
          exact ReplayWindow.refuses_update_self _ _
        · exact hrefused
      · split
        · refine List.pairwise_cons.mpr ⟨fun reading hmem _ hplaced => ?_, hmarked.apart⟩
          exact hmarked.ne_of_check hcheck hmem hplaced
        · exact hmarked.apart

end Marked

section Run

variable {protector : Protector} (hreached : Protector.Reached protector)
  (hsuite : protector.params.suite ∈ CipherSuite.catalog)
  (hdatagram : protector.params.version.isDatagram = true)
  (hwindow : protector.config.replayWindow = true)
include hreached hsuite hdatagram hwindow

theorem marked_run (calls : List ReadCall) : (run protector calls).Marked := by
  induction calls using List.reverseRecOn with
  | nil =>
      exact ⟨Protector.inUse_of_reached hreached, hsuite, hdatagram, hwindow,
        fun _ hmem => (nomatch hmem), fun _ hmem => (nomatch hmem), .nil⟩
  | append_singleton calls call ih =>
      rw [run_concat]
      exact ih.step call

end Run

/-- Where every record was read at its own place, all of them are marked. -/
theorem placed_of_run {protector : Protector} {calls : List ReadCall}
    (hplaced : ∀ call ∈ calls, call.isPlaced = true) :
    ∀ reading ∈ (run protector calls).readings, reading.placed = true := by
  induction calls using List.reverseRecOn with
  | nil => exact fun _ hmem => nomatch hmem
  | append_singleton calls call ih =>
      have hcalls := ih fun other hmem => hplaced other (List.mem_append_left _ hmem)
      rw [run_concat]
      unfold step
      dsimp only
      split
      · refine List.forall_mem_cons.mpr ⟨?_, hcalls⟩
        exact hplaced call (List.mem_append_right _ List.mem_cons_self)
      · exact hcalls

/-! ### Records that are not behind the counter -/

/-- Whenever a call of the list succeeds, it is not below the counter that the calls before it have
left. -/
def NeverBehind (protector : Protector) (calls : List ReadCall) : Prop :=
  ∀ before call after, calls = before ++ call :: after →
    call.succeeds (run protector before).protector = true →
    (run protector before).protector.read.sequence.number
      ≤ (call.place (run protector before).protector).number

/-- The counter is ahead of all records, and each was ahead of those before it. -/
structure Ahead (history : ReadHistory) : Prop where
  below : ∀ reading ∈ history.readings,
    reading.place.number < history.protector.read.sequence.number
  nodup : history.places.Nodup

theorem Ahead.step {history : ReadHistory} (hahead : history.Ahead) (hmarked : history.Marked)
    {call : ReadCall}
    (hcounter : call.succeeds history.protector = true →
      history.protector.read.sequence.number ≤ (call.place history.protector).number) :
    (history.step call).Ahead := by
  -- the counter goes to a number past the place of the call, or it does not go back
  obtain ⟨number, hnumber, hforward, hbehind⟩ : ∃ number,
      (call.run history.protector).2.read.sequence.number = number
        ∧ history.protector.read.sequence.number ≤ number
        ∧ (call.decrypts history.protector = true →
          (call.place history.protector).number < number) := by
    cases hmarked.outcome call with
    | @unmarked number hafter hinOrder hforward hbehind =>
        refine ⟨number, by rw [hafter]; rfl, hforward, fun hdecrypts => ?_⟩
        rw [(hinOrder hdecrypts).2]
        exact hbehind hdecrypts
    | @marked number hafter hsucceeds _ _ hforward hbehind =>
        exact ⟨number, by rw [hafter]; rfl, UInt64.le_trans (hcounter hsucceeds) hforward, hbehind⟩
  have hkept (reading : Reading) (hmem : reading ∈ history.readings) :
      reading.place.number < number :=
    UInt64.lt_of_lt_of_le (hahead.below reading hmem) hforward
  by_cases hdecrypts : call.decrypts history.protector = true
  · have hcounter := hcounter (Bool.and_eq_true_iff.mp hdecrypts).1
    refine ⟨?_, ?_⟩
    all_goals simp only [ReadHistory.step, places, hdecrypts, if_true, hnumber]
    · exact List.forall_mem_cons.mpr ⟨hbehind hdecrypts, hkept⟩
    · refine List.nodup_cons.mpr ⟨fun hmem => ?_, hahead.nodup⟩
      obtain ⟨reading, hmem, hplace⟩ := List.mem_map.mp hmem
      have hlt := hahead.below reading hmem
      rw [hplace] at hlt
      exact UInt64.not_le.mpr hlt hcounter
  · refine ⟨?_, ?_⟩
    all_goals simp only [ReadHistory.step, places, hdecrypts, hnumber]
    · exact hkept
    · exact hahead.nodup

section Run

variable {protector : Protector} (hreached : Protector.Reached protector)
  (hsuite : protector.params.suite ∈ CipherSuite.catalog)
  (hdatagram : protector.params.version.isDatagram = true)
  (hwindow : protector.config.replayWindow = true)
include hreached hsuite hdatagram hwindow

theorem ahead_run {calls : List ReadCall} (hnever : NeverBehind protector calls) :
    (run protector calls).Ahead := by
  induction calls using List.reverseRecOn with
  | nil => exact ⟨fun _ hmem => (nomatch hmem), .nil⟩
  | append_singleton calls call ih =>
      rw [run_concat]
      have hearlier : NeverBehind protector calls := by
        intro before other after hcalls
        refine hnever before other (after ++ [call]) ?_
        rw [hcalls, List.append_assoc, List.cons_append]
      exact (ih hearlier).step (marked_run hreached hsuite hdatagram hwindow calls)
        (hnever calls call [] rfl)

/-- In whatever order a datagram receiver with a window is called, a place is read twice only if one
of the two records was read in order.  No place is read twice if every record comes with its place,
nor as long as no record is read below the counter. -/
theorem read_places_nodup_iff (calls : List ReadCall) :
    ((run protector calls).places.Nodup
        ↔ (run protector calls).readings.Pairwise fun later earlier =>
          later.placed = false ∨ earlier.placed = false → later.place ≠ earlier.place)
      ∧ ((∀ call ∈ calls, call.isPlaced = true) → (run protector calls).places.Nodup)
      ∧ (NeverBehind protector calls → (run protector calls).places.Nodup) := by
  have hmarked := marked_run hreached hsuite hdatagram hwindow calls
  have hiff : (run protector calls).places.Nodup
      ↔ (run protector calls).readings.Pairwise fun later earlier =>
        later.placed = false ∨ earlier.placed = false → later.place ≠ earlier.place := by
    rw [places, List.Nodup, List.pairwise_map]
    constructor
    · intro hnodup
      refine hnodup.imp ?_
      intro later earlier hne _
      exact hne
    · intro hmixed
      refine (hmarked.apart.and hmixed).imp ?_
      rintro later earlier ⟨hapart, hmixed⟩
      by_cases hboth : later.placed = true ∧ earlier.placed = true
      · exact hapart hboth.1 hboth.2
      · exact hmixed (by simpa only [Bool.not_eq_true, Decidable.not_and_iff_or_not] using hboth)
  refine ⟨hiff, fun hplaced => ?_, fun hnever => ?_⟩
  · have hall := @placed_of_run protector calls hplaced
    refine hiff.mpr (List.pairwise_iff_forall_sublist.mpr fun hsublist hinOrder => ?_)
    have hlater := hall _ (hsublist.subset List.mem_cons_self)
    have hearlier := hall _ (hsublist.subset (List.mem_cons_of_mem _ List.mem_cons_self))
    simp [hlater, hearlier] at hinOrder
  · exact (ahead_run hreached hsuite hdatagram hwindow hnever).nodup

end Run

/-- Two records without keys, with the same place. -/
def unkeyedCalls : List ReadCall :=
  [.placed .handshake ⟨0, 7⟩ [1], .placed .handshake ⟨0, 7⟩ [2]]

theorem unkeyedCalls_read_places :
    (run (nullShaEnd .server) unkeyedCalls).places = [⟨0, 7⟩]
      ∧ (run (nullShaEnd .server) unkeyedCalls).places.Nodup := by
  have hreached : Protector.Reached (nullShaEnd .server) := .created rfl
  have hplaced : ∀ call ∈ unkeyedCalls, call.isPlaced = true := by
    decide
  exact ⟨rfl, (read_places_nodup_iff hreached (by decide) rfl rfl unkeyedCalls).2.1 hplaced⟩

/-! ### Records that are read twice -/

section Again

variable {sender receiver : Protector} (hkeyed : Protector.KeyedAlike sender receiver)
  (hsuite : sender.params.suite ∈ CipherSuite.catalog)
  (hdatagram : sender.params.version.isDatagram = true)
  (hwindow : receiver.config.replayWindow = true)
include hkeyed

/-- What a sender protects is to be decrypted. -/
theorem decrypts_of_sentBy {datagram : Datagram} (hsent : datagram.SentBy sender)
    {call : ReadCall} (htype : call.type = datagram.record.type) {number : UInt64}
    {window : ReplayWindow}
    (hsucceeds : call.succeeds (receiver.readAt number window) = true) :
    call.decrypts (receiver.readAt number window) = true := by
  obtain ⟨⟨hread, -⟩, hpeers⟩ := hkeyed.pair
  obtain ⟨random, next, rest, hprotect⟩ := hsent
  obtain ⟨-, _, _, -, hrecord, -⟩ := Protector.protect_eq_ok_iff.mp hprotect
  have hreads : (receiver.readAt number window).reads13
      = (sender.writeAt datagram.number).writes13 := by
    change (receiver.read.isProtected && receiver.params.version.is13)
      = (sender.write.isProtected && sender.params.version.is13)
    rw [hread, hpeers.version]
  rw [ReadCall.decrypts, hsucceeds, hreads, htype, hrecord]
  cases h13 : (sender.writeAt datagram.number).writes13 with
  | true =>
      have houter : (sender.writeAt datagram.number).outerContent datagram.type datagram.plaintext
          = (.applicationData, _) := if_pos h13
      rw [houter]
      rfl
  | false => rfl

include hsuite hdatagram hwindow

/-- A record that is read in order leaves its place free, and is read again there. -/
theorem places_inOrder_placed {datagram : Datagram} (hsent : datagram.SentBy sender)
    (hepoch : datagram.record.sequence.epoch = sender.write.sequence.epoch)
    (hnumber : datagram.number ≤ maxDatagramNumber)
    (hfits : Protector.Fits receiver datagram.plaintext datagram.record) {window : ReplayWindow}
    (hcheck : window.check datagram.number = .ok ()) :
    (run (receiver.readAt datagram.number window)
        [.inOrder datagram.record.type datagram.record.fragment,
          .placed datagram.record.type datagram.record.sequence datagram.record.fragment]).places
      = [datagram.record.sequence, datagram.record.sequence] := by
  obtain ⟨⟨hread, hwrite⟩, hpeers⟩ := hkeyed.pair
  have hversion : (receiver.readAt datagram.number window).params.version.isDatagram = true := by
    rw [← hdatagram, ← hpeers.version]
    rfl
  have hstateless : (receiver.readAt datagram.number window).read.mode.transform.Stateless := by
    have hstateless := Direction.stateless_of_keyedFor hsuite hdatagram hwrite
    rwa [← hread] at hstateless
  have hplace : (receiver.readAt datagram.number window).read.sequence
      = datagram.record.sequence := by
    change (⟨receiver.read.sequence.epoch, datagram.record.sequence.number⟩ : Sequence)
      = datagram.record.sequence
    rw [hread, ← hepoch]
  -- wherever the counter is, the window lets the record pass
  have hplaced (number : UInt64) :
      ((receiver.readAt number window).unprotectAt datagram.record.type datagram.record.sequence
        datagram.record.fragment).1 = .ok (datagram.type, datagram.plaintext) :=
    unprotectAt_of_sentBy hkeyed hsuite hdatagram hwindow hsent hepoch hnumber hfits hcheck
  have hnext := hplaced datagram.number
  rw [← hplace] at hnext
  have hinOrder := Protector.unprotect_of_unprotectAt hversion hnext
  obtain ⟨number, hafter, -, -⟩ :=
    Protector.unprotect_moves hstateless datagram.record.type datagram.record.fragment
  have hfirst : (ReadCall.inOrder datagram.record.type datagram.record.fragment).decrypts
      (receiver.readAt datagram.number window) = true := by
    refine decrypts_of_sentBy hkeyed hsent rfl ?_
    rw [ReadCall.succeeds, ReadCall.run, hinOrder]
    rfl
  have hsecond : (ReadCall.placed datagram.record.type datagram.record.sequence
      datagram.record.fragment).decrypts (receiver.readAt number window) = true := by
    refine decrypts_of_sentBy hkeyed hsent rfl ?_
    rw [ReadCall.succeeds, ReadCall.run, hplaced]
    rfl
  have hmiddle : ((ReadCall.inOrder datagram.record.type datagram.record.fragment).run
      (receiver.readAt datagram.number window)).2 = receiver.readAt number window := hafter
  simp only [run, List.foldl, step, hfirst, hmiddle, hsecond, places, if_true, List.map,
    ReadCall.place, hplace]

end Again

theorem reached_nullShaReceiver : Protector.Reached nullShaReceiver := by
  have hcreated : Protector.Reached (nullShaEnd .server) := .created rfl
  exact hcreated.installedReadKeys nullShaKeys

/-- Some places are read twice. -/
theorem not_forall_read_places_nodup :
    ¬ ∀ (protector : Protector) (calls : List ReadCall), Protector.Reached protector →
      protector.params.suite ∈ CipherSuite.catalog → protector.params.version.isDatagram = true →
      protector.config.replayWindow = true → (run protector calls).places.Nodup := by
  intro h
  have hsuite : nullShaSender.params.suite ∈ CipherSuite.catalog := by
    decide
  have hsent : nullShaAlert.SentBy nullShaSender :=
    ⟨⟨fun _ => 0, 0⟩, (nullShaSender.protect .alert [2, 40] ⟨fun _ => 0, 0⟩).2.1, _, rfl⟩
  have hplaces := @places_inOrder_placed _ _ keyedAlike_nullSha hsuite rfl rfl _ hsent rfl
    (by decide) fits_nullShaAlert .empty (by decide)
  have hnodup := h nullShaReceiver
    [.inOrder nullShaAlert.record.type nullShaAlert.record.fragment,
      .placed nullShaAlert.record.type nullShaAlert.record.sequence nullShaAlert.record.fragment]
    reached_nullShaReceiver (by decide) rfl rfl
  rw [show nullShaReceiver = nullShaReceiver.readAt nullShaAlert.number .empty from rfl,
    hplaces] at hnodup
  exact absurd hnodup (by decide)

end ReadHistory

end RecordProtection
