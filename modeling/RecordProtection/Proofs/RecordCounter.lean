import RecordProtection.Proofs.ModeReset
import RecordProtection.Proofs.Reached
import RecordProtection.Proofs.SequenceBlock

/-!
# Record counters

The counter of a mode is the number of records that succeeded since it was last set, on top of where
it was set: only a reset or a move of the counter sets it, a record that fails leaves it alone, and
it stops at the largest number that the version can send.  Nothing here depends on the transform.
-/

namespace RecordProtection

/-! ### Counters in use -/

namespace Authenticator

/-- What a new authenticator can become while records are counted and the counter is set. -/
inductive Reached : Authenticator → Prop
  | withoutMac (version : ProtocolVersion) : Reached (withoutMac version)
  | withMac {version : ProtocolVersion} {hash : HashAlgorithm} {key : Bytes} {auth : Authenticator}
      (hauth : withMac version hash key = .ok auth) : Reached auth
  | advanced {auth next : Authenticator} (hauth : Reached auth)
      (hadvance : auth.advance = .ok next) : Reached next
  | enteredEpoch {auth : Authenticator} (hauth : Reached auth) (epoch : UInt16) :
      Reached (auth.enterEpoch epoch)
  | moved {auth next : Authenticator} {sequence : Sequence} (hauth : Reached auth)
      (hmove : auth.moveTo sequence = .ok next) : Reached next

theorem moveTo_of_le {auth : Authenticator} {sequence : Sequence}
    (hnumber : sequence.number ≤ maxDatagramNumber) :
    auth.moveTo sequence = .ok { auth with sequence := sequence } :=
  if_neg (UInt64.not_lt.mpr hnumber)

theorem toNat_maxNumber (auth : Authenticator) :
    auth.maxNumber.toNat = if auth.version.isDatagram then 2 ^ 48 - 1 else 2 ^ 64 - 1 := by
  unfold maxNumber
  split <;> rfl

theorem Reached.number_le {auth : Authenticator} (hauth : auth.Reached) :
    auth.sequence.number ≤ auth.maxNumber := by
  induction hauth with
  | withoutMac version => exact UInt64.zero_le
  | withMac hauth =>
      unfold Authenticator.withMac at hauth
      split at hauth
      · cases hauth
        exact UInt64.zero_le
      · cases hauth
  | advanced hauth hadvance => exact Authenticator.number_le_of_advance hadvance
  | enteredEpoch hauth epoch => exact UInt64.zero_le
  | @moved auth next sequence hauth hmove =>
      unfold moveTo at hmove
      split at hmove
      · cases hmove
      · rename_i hnumber
        cases hmove
        exact UInt64.le_trans (UInt64.not_lt.mp hnumber) (maxDatagramNumber_le_maxNumber auth)

theorem toNat_number_of_advance {auth next : Authenticator} (hadvance : auth.advance = .ok next) :
    next.sequence.number.toNat = auth.sequence.number.toNat + 1 := by
  obtain ⟨hnumber, rfl⟩ := advance_eq_ok_iff.mp hadvance
  exact toNat_number_after (UInt64.lt_iff_toNat_lt.mp hnumber)

end Authenticator

/-! ### Single calls -/

namespace ModeCall

/-- Where a call sets the counter; records only count. -/
def start? : ModeCall → Option UInt64
  | reset => some 0
  | place sequence => some sequence.number
  | _ => none

/-- Moves of the counter are checked before they are made. -/
def Allowed : ModeCall → Prop
  | place sequence => sequence.number ≤ maxDatagramNumber
  | _ => True

/-- What a call does to the counter, given its answer. -/
inductive Counted (auth : Authenticator) (call : ModeCall) :
    Except RecordError Bytes → Authenticator → Prop
  | succeeded {bytes : Bytes} {next : Authenticator} (hrecord : call.start? = none)
      (hadvance : auth.advance = .ok next) : Counted auth call (.ok bytes) next
  | failed {e : RecordError} (hrecord : call.start? = none) : Counted auth call (.error e) auth
  | started {bytes : Bytes} {sequence : Sequence} (hstart : call.start? = some sequence.number)
      (hallowed : call.Allowed → auth.Reached → { auth with sequence := sequence }.Reached) :
      Counted auth call (.ok bytes) { auth with sequence := sequence }

namespace Counted

variable {auth next : Authenticator} {call : ModeCall} {answer : Except RecordError Bytes}
  (hcounted : Counted auth call answer next)
include hcounted

theorem reached (hallowed : call.Allowed) (hauth : auth.Reached) : next.Reached := by
  cases hcounted with
  | succeeded _ hadvance => exact .advanced hauth hadvance
  | failed _ => exact hauth
  | started _ hreached => exact hreached hallowed hauth

theorem version : next.version = auth.version := by
  cases hcounted with
  | succeeded _ hadvance =>
      obtain ⟨-, rfl⟩ := Authenticator.advance_eq_ok_iff.mp hadvance
      rfl
  | failed _ => rfl
  | started _ _ => rfl

theorem eq_of_error {e : RecordError} (herror : answer = .error e) : next = auth := by
  subst herror
  cases hcounted
  rfl

theorem number_of_start {number : UInt64} (hstart : call.start? = some number) :
    next.sequence.number = number := by
  cases hcounted with
  | succeeded hrecord _ => exact absurd (hrecord.symm.trans hstart) nofun
  | failed hrecord => exact absurd (hrecord.symm.trans hstart) nofun
  | started hsequence _ => exact Option.some.inj (hsequence.symm.trans hstart)

theorem number_of_record (hrecord : call.start? = none) :
    next.sequence.number.toNat = auth.sequence.number.toNat + if answer.isOk then 1 else 0 := by
  cases hcounted with
  | succeeded _ hadvance => exact Authenticator.toNat_number_of_advance hadvance
  | failed _ => rfl
  | started hstart _ => exact absurd (hrecord.symm.trans hstart) nofun

/-- A counter at its end stays there, and the record fails. -/
theorem at_limit (hrecord : call.start? = none) (hlimit : auth.sequence.number = auth.maxNumber) :
    (∃ e, answer = .error e) ∧ next = auth := by
  cases hcounted with
  | succeeded _ hadvance =>
      obtain ⟨hnumber, -⟩ := Authenticator.advance_eq_ok_iff.mp hadvance
      exact absurd hlimit (UInt64.ne_of_lt hnumber)
  | failed _ => exact ⟨⟨_, rfl⟩, rfl⟩
  | started hstart _ => exact absurd (hrecord.symm.trans hstart) nofun

end Counted

theorem counted_reset (auth : Authenticator) (bytes : Bytes) :
    Counted auth .reset (.ok bytes) (auth.enterEpoch auth.sequence.epoch) :=
  .started rfl fun _ hauth => hauth.enteredEpoch _

theorem counted_place (auth : Authenticator) (sequence : Sequence) (bytes : Bytes) :
    Counted auth (.place sequence) (.ok bytes) { auth with sequence := sequence } :=
  .started rfl fun hallowed hauth => hauth.moved (Authenticator.moveTo_of_le hallowed)

end ModeCall

namespace StatefulMode

theorem counted_count {call : ModeCall} (hrecord : call.start? = none) (mode : StatefulMode)
    (result : Except RecordError Bytes) :
    call.Counted mode.auth (mode.count result).1 (mode.count result).2.auth := by
  cases result with
  | error e => exact .failed hrecord
  | ok bytes =>
      cases hadvance : mode.auth.advance with
      | error e =>
          simp only [count, hadvance]
          exact .failed hrecord
      | ok auth =>
          simp only [count, hadvance]
          exact .succeeded hrecord hadvance

theorem counted_step (mode : StatefulMode) (call : ModeCall) (random : RandomSource) :
    call.Counted mode.auth (mode.step call random).1 (mode.step call random).2.1.auth := by
  cases call with
  | encrypt type plaintext =>
      exact counted_count rfl
        { mode with
          transform := (mode.transform.encrypt mode.auth type plaintext random).2.1 } _
  | decrypt type record =>
      exact counted_count rfl
        { mode with transform := (mode.transform.decrypt mode.auth type record).2 } _
  | reset => exact ModeCall.counted_reset mode.auth []
  | place sequence => exact ModeCall.counted_place mode.auth sequence []

end StatefulMode

/-- A mode counts like the one that keeps a machine with it. -/
theorem CipherMode.counted_step (mode : CipherMode) (call : ModeCall) (random : RandomSource) :
    call.Counted mode.auth (mode.step call random).1 (mode.step call random).2.1.auth := by
  have hstate : StatefulMode.Represents ⟨mode.kind, .transform mode.transform, mode.auth⟩ mode :=
    ⟨rfl, .transform mode.transform, rfl⟩
  obtain ⟨hanswer, hnext, -⟩ := StatefulMode.simulates _ _ hstate call random
  have hcounted := StatefulMode.counted_step
    ⟨mode.kind, .transform mode.transform, mode.auth⟩ call random
  rwa [hanswer, hnext.auth] at hcounted

/-! ### Runs -/

namespace ModeCall

section Append

variable {σ : Type} (step : Step σ)

theorem length_answers (state : σ) (calls : List ModeCall) (random : RandomSource) :
    (answers step state calls random).length = calls.length := by
  induction calls generalizing state random with
  | nil => rfl
  | cons call calls ih => rw [answers, List.length_cons, ih, List.length_cons]

/-- The last call is made on what the others leave, the random bytes among it. -/
theorem exists_concat (state : σ) (calls : List ModeCall) (call : ModeCall)
    (random : RandomSource) :
    ∃ rest, after step state (calls ++ [call]) random
        = (step (after step state calls random) call rest).2.1
      ∧ answers step state (calls ++ [call]) random
        = answers step state calls random
          ++ [(step (after step state calls random) call rest).1] := by
  induction calls generalizing state random with
  | nil => exact ⟨random, rfl, rfl⟩
  | cons first calls ih =>
      obtain ⟨rest, hafter, hanswers⟩ :=
        ih (step state first random).2.1 (step state first random).2.2
      refine ⟨rest, hafter, ?_⟩
      rw [List.cons_append, answers, hanswers]
      rfl

end Append

/-- The last value that calls have set the counter to, or the one it had at first. -/
def startOf (number : UInt64) (calls : List ModeCall) : UInt64 :=
  (calls.reverse.findSome? start?).getD number

/-- How many calls have succeeded since the last one that has set the counter. -/
def successes (calls : List ModeCall) (answers : List (Except RecordError Bytes)) : Nat :=
  ((calls.zip answers).reverse.takeWhile fun answered => answered.1.start?.isNone).countP
    fun answered => answered.2.isOk

theorem startOf_concat (number : UInt64) (calls : List ModeCall) (call : ModeCall) :
    startOf number (calls ++ [call]) = call.start?.getD (startOf number calls) := by
  cases hstart : call.start? <;> simp [startOf, hstart]

theorem successes_concat {calls : List ModeCall} {answers : List (Except RecordError Bytes)}
    (hlength : answers.length = calls.length) (call : ModeCall)
    (answer : Except RecordError Bytes) :
    successes (calls ++ [call]) (answers ++ [answer])
      = if call.start? = none then
          successes calls answers + if answer.isOk then 1 else 0
        else 0 := by
  rw [successes, List.zip_append hlength.symm, List.zip_cons_cons, List.zip_nil_right,
    List.reverse_concat, List.takeWhile_cons]
  cases call.start? with
  | none => exact List.countP_cons
  | some number => rfl

/-- How a counter stands at the end of a run. -/
structure Counts {σ : Type} (step : Step σ) (auth : σ → Authenticator) (state : σ)
    (calls : List ModeCall) (random : RandomSource) : Prop where
  number_eq : (auth (after step state calls random)).sequence.number.toNat
    = (startOf (auth state).sequence.number calls).toNat
      + successes calls (answers step state calls random)
  number_le : (auth (after step state calls random)).sequence.number.toNat
    ≤ if (auth state).version.isDatagram then 2 ^ 48 - 1 else 2 ^ 64 - 1
  /-- A record that fails next leaves it alone. -/
  failed : ∀ call other e, (step (after step state calls random) call other).1 = .error e →
    auth (step (after step state calls random) call other).2.1
      = auth (after step state calls random)
  /-- At the largest number no record succeeds next. -/
  at_limit : ((auth (after step state calls random)).sequence.number.toNat
      = if (auth state).version.isDatagram then 2 ^ 48 - 1 else 2 ^ 64 - 1) →
    ∀ call other, call.start? = none →
      (∃ e, (step (after step state calls random) call other).1 = .error e)
        ∧ auth (step (after step state calls random) call other).2.1
          = auth (after step state calls random)

section Counts

variable {σ : Type} {step : Step σ} {auth : σ → Authenticator}
  (hstep : ∀ (state : σ) (call : ModeCall) (random : RandomSource),
    call.Counted (auth state) (step state call random).1 (auth (step state call random).2.1))
include hstep

theorem reached_after {calls : List ModeCall} (hallowed : ∀ call ∈ calls, call.Allowed) {state : σ}
    (hstate : (auth state).Reached) (random : RandomSource) :
    (auth (after step state calls random)).Reached := by
  induction calls generalizing state random with
  | nil => exact hstate
  | cons call calls ih =>
      have hnext := (hstep state call random).reached (hallowed call List.mem_cons_self) hstate
      exact ih (fun later hlater => hallowed later (List.mem_cons_of_mem call hlater)) hnext _

theorem version_after (state : σ) (calls : List ModeCall) (random : RandomSource) :
    (auth (after step state calls random)).version = (auth state).version := by
  induction calls generalizing state random with
  | nil => rfl
  | cons call calls ih => exact (ih _ _).trans (hstep state call random).version

theorem number_after (state : σ) (calls : List ModeCall) (random : RandomSource) :
    (auth (after step state calls random)).sequence.number.toNat
      = (startOf (auth state).sequence.number calls).toNat
        + successes calls (answers step state calls random) := by
  -- from the end of the run, where the last call either counts on or starts again
  induction calls using List.reverseRecOn with
  | nil => rfl
  | append_singleton calls call ih =>
      obtain ⟨rest, hafter, hanswers⟩ := exists_concat step state calls call random
      have hcounted := hstep (after step state calls random) call rest
      rw [hafter, hanswers, startOf_concat,
        successes_concat (length_answers step state calls random)]
      cases hstart : call.start? with
      | none =>
          rw [hcounted.number_of_record hstart, ih, if_pos rfl, Option.getD_none, Nat.add_assoc]
      | some number =>
          rw [hcounted.number_of_start hstart, if_neg nofun, Option.getD_some, Nat.add_zero]

theorem counts {calls : List ModeCall} (hallowed : ∀ call ∈ calls, call.Allowed) {state : σ}
    (hstate : (auth state).Reached) (random : RandomSource) :
    Counts step auth state calls random := by
  have hmax : (auth (after step state calls random)).maxNumber.toNat
      = if (auth state).version.isDatagram then 2 ^ 48 - 1 else 2 ^ 64 - 1 := by
    rw [Authenticator.toNat_maxNumber, version_after hstep state calls random]
  refine ⟨number_after hstep state calls random, ?_, ?_, ?_⟩
  · have hle := (reached_after hstep hallowed hstate random).number_le
    exact hmax ▸ UInt64.le_iff_toNat_le.mp hle
  · intro call other e herror
    exact (hstep _ call other).eq_of_error herror
  · intro hlimit call other hrecord
    exact (hstep _ call other).at_limit hrecord (UInt64.toNat_inj.mp (hlimit.trans hmax.symm))

end Counts

/-- The counter of every mode, whatever it holds and does, through every run: it is where it was
last set, plus the records that have succeeded since. -/
theorem records_counted {mode : CipherMode} (hmode : mode.auth.Reached) {state : StatefulMode}
    (hstate : state.auth.Reached) {calls : List ModeCall} (hallowed : ∀ call ∈ calls, call.Allowed)
    (random : RandomSource) :
    Counts CipherMode.step CipherMode.auth mode calls random
      ∧ Counts StatefulMode.step StatefulMode.auth state calls random :=
  ⟨counts CipherMode.counted_step hallowed hmode random,
    counts StatefulMode.counted_step hallowed hstate random⟩

/-- A datagram counter at its end. -/
def lastNumber : Authenticator := ⟨.dtls12, none, ⟨3, maxDatagramNumber⟩⟩

theorem reached_lastNumber : lastNumber.Reached :=
  .moved (.withoutMac .dtls12) (Authenticator.moveTo_of_le (UInt64.le_refl _))

/-- No alert gets through until a reset; the two after it count. -/
theorem lastNumber_counts :
    let mode : CipherMode := ⟨.null, .plain, lastNumber⟩
    let state : StatefulMode := ⟨.null, .transform .plain, lastNumber⟩
    let calls := [.encrypt .alert [2, 40], .reset, .encrypt .alert [2, 40], .decrypt .alert [1, 0]]
    answers CipherMode.step mode calls zeroRandom
        = [.error .sequenceOverflow, .ok [], .ok [2, 40], .ok [1, 0]]
      ∧ (after CipherMode.step mode calls zeroRandom).auth.sequence.number.toNat = 2
      ∧ (after StatefulMode.step state calls zeroRandom).auth.sequence.number.toNat = 2 := by
  intro mode state calls
  have hallowed : ∀ call ∈ calls, call.Allowed := by simp [calls, Allowed]
  obtain ⟨hmode, hstate⟩ := @records_counted mode reached_lastNumber state reached_lastNumber calls
    hallowed zeroRandom
  exact ⟨rfl, hmode.number_eq, hstate.number_eq⟩

end ModeCall

end RecordProtection
