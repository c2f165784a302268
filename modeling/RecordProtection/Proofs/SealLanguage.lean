import Mathlib.Data.List.DropRight
import RecordProtection.Proofs.SealPieces

/-!
# The calls that a machine takes

The calls so far tell whether a machine takes the next one.  What counts is the message under way:
the calls since the last reset, from the first start on.  Its payload ends the additional data, and
the tag ends the message.  A call that is not taken leaves no trace, and a reset takes every trace
away.
-/

namespace RecordProtection

/-! ### The message under way -/

namespace SealCall

def resets : SealCall → Bool
  | reset => true
  | _ => false

def starts : SealCall → Bool
  | start _ => true
  | _ => false

/-- An input that does not fit into its output brings no payload. -/
def bringsPayload : SealCall → Bool
  | process input room => input.length ≤ room
  | _ => false

def ends : SealCall → Bool
  | finalize | verify _ => true
  | _ => false

/-- The calls since the last reset, from the first start on. -/
def message (calls : List SealCall) : List SealCall :=
  (calls.rtakeWhile (!·.resets)).dropWhile (!·.starts)

def UnderWay (calls : List SealCall) : Prop :=
  message calls ≠ [] ∧ ∀ call ∈ message calls, call.ends = false

def BeforePayload (calls : List SealCall) : Prop :=
  ∀ call ∈ message calls, call.bringsPayload = false

/-- Whether a call may follow other calls. -/
def Allowed (calls : List SealCall) : SealCall → Prop
  | start _ => message calls = []
  | updateData _ => UnderWay calls ∧ BeforePayload calls
  | process input room => UnderWay calls ∧ input.length ≤ room
  | finalize | verify _ => UnderWay calls
  | reset => True

instance (calls : List SealCall) : Decidable (UnderWay calls) :=
  inferInstanceAs (Decidable (_ ∧ _))

instance (calls : List SealCall) : Decidable (BeforePayload calls) :=
  inferInstanceAs (Decidable (∀ call ∈ message calls, call.bringsPayload = false))

instance (calls : List SealCall) : DecidablePred (Allowed calls)
  | start _ => inferInstanceAs (Decidable (message calls = []))
  | updateData _ => inferInstanceAs (Decidable (_ ∧ _))
  | process _ _ => inferInstanceAs (Decidable (_ ∧ _))
  | finalize | verify _ => inferInstanceAs (Decidable (UnderWay calls))
  | reset => .isTrue trivial

@[simp]
theorem message_reset (calls : List SealCall) : message (calls ++ [reset]) = [] := by
  rw [message, List.rtakeWhile_concat_neg]
  · rfl
  · simp [resets]

section Concat

variable {calls : List SealCall} {call : SealCall}

theorem message_concat (hresets : call.resets = false) :
    message (calls ++ [call])
      = if message calls = [] then (if call.starts then [call] else [])
        else message calls ++ [call] := by
  have hkept : (!call.resets) = true := by
    rw [hresets]
    rfl
  rw [message, List.rtakeWhile_concat, if_pos hkept, List.dropWhile_append, ← message]
  simp only [List.isEmpty_iff]
  by_cases hnone : message calls = []
  · rw [if_pos hnone, if_pos hnone]
    cases hstarts : call.starts <;> simp [hstarts]
  · rw [if_neg hnone, if_neg hnone]

theorem message_start (hnone : message calls = []) (nonce : Bytes) :
    message (calls ++ [start nonce]) = [start nonce] := by
  rw [message_concat rfl, if_pos hnone]
  rfl

theorem message_concat_of_nil (hnone : message calls = []) (hstarts : call.starts = false) :
    message (calls ++ [call]) = [] := by
  by_cases hresets : call.resets = false
  · rw [message_concat hresets, if_pos hnone, hstarts]
    rfl
  · cases call with
    | reset => exact message_reset calls
    | start | updateData | process | finalize | verify => exact absurd rfl hresets

variable (hsome : message calls ≠ []) (hresets : call.resets = false)
include hsome hresets

theorem message_concat_ne_nil : message (calls ++ [call]) ≠ [] := by
  simp [message_concat hresets, hsome]

theorem underWay_concat : UnderWay (calls ++ [call]) ↔ UnderWay calls ∧ call.ends = false := by
  simp [UnderWay, message_concat hresets, hsome, or_imp, forall_and]

theorem beforePayload_concat :
    BeforePayload (calls ++ [call]) ↔ BeforePayload calls ∧ call.bringsPayload = false := by
  simp [BeforePayload, message_concat hresets, hsome, or_imp, forall_and]

end Concat

end SealCall

/-! ### Phases -/

namespace SealPhase

/-- Whether a machine in a phase takes a call.  A tag that is compared in vain is taken. -/
def Takes : SealPhase → SealCall → Prop
  | _, .reset => True
  | ready, .start _ => True
  | additionalData .., .updateData _ => True
  | additionalData .., .process input room | payload .., .process input room => input.length ≤ room
  | additionalData .., .finalize | payload .., .finalize => True
  | additionalData .., .verify _ | payload .., .verify _ => True
  | _, _ => False

/-- The calls that lead to a phase. -/
def Follows : SealPhase → List SealCall → Prop
  | ready, calls => SealCall.message calls = []
  | additionalData .., calls => SealCall.UnderWay calls ∧ SealCall.BeforePayload calls
  | payload .., calls => SealCall.UnderWay calls ∧ ¬ SealCall.BeforePayload calls
  | finished, calls => SealCall.message calls ≠ [] ∧ ¬ SealCall.UnderWay calls

variable {phase : SealPhase} {calls : List SealCall}

theorem Follows.takes_iff (h : phase.Follows calls) (call : SealCall) :
    phase.Takes call ↔ SealCall.Allowed calls call := by
  cases phase with
  | ready =>
      have hnone : SealCall.message calls = [] := h
      have hclosed : ¬ SealCall.UnderWay calls := fun hopen => hopen.1 hnone
      cases call <;> simp [Takes, SealCall.Allowed, hnone, hclosed]
  | additionalData mac length =>
      obtain ⟨hopen, hdata⟩ := h
      cases call <;> simp [Takes, SealCall.Allowed, hopen, hopen.1, hdata]
  | payload mac dataLength payloadLength =>
      obtain ⟨hopen, hpayload⟩ := h
      cases call <;> simp [Takes, SealCall.Allowed, hopen, hopen.1, hpayload]
  | finished =>
      obtain ⟨hsome, hclosed⟩ := h
      cases call <;> simp [Takes, SealCall.Allowed, hsome, hclosed]

/-- Calls that are not taken do not show in the phase. -/
theorem Follows.concat_of_not_takes (h : phase.Follows calls) {call : SealCall}
    (hcall : ¬ phase.Takes call) : phase.Follows (calls ++ [call]) := by
  have hresets : call.resets = false := by
    cases call with
    | reset => exact absurd (by cases phase <;> trivial) hcall
    | start | updateData | process | finalize | verify => rfl
  cases phase with
  | ready =>
      have hstarts : call.starts = false := by
        cases call with
        | start nonce => exact absurd trivial hcall
        | updateData | process | finalize | verify | reset => rfl
      exact SealCall.message_concat_of_nil h hstarts
  | additionalData mac length =>
      obtain ⟨hopen, hdata⟩ := h
      -- Only a second start and an input without room are left.
      have hkind : call.ends = false ∧ call.bringsPayload = false := by
        cases call <;> simp_all [Takes, SealCall.ends, SealCall.bringsPayload]
      exact ⟨(SealCall.underWay_concat hopen.1 hresets).mpr ⟨hopen, hkind.1⟩,
        (SealCall.beforePayload_concat hopen.1 hresets).mpr ⟨hdata, hkind.2⟩⟩
  | payload mac dataLength payloadLength =>
      obtain ⟨hopen, hpayload⟩ := h
      have hends : call.ends = false := by
        cases call <;> simp_all [Takes, SealCall.ends]
      refine ⟨(SealCall.underWay_concat hopen.1 hresets).mpr ⟨hopen, hends⟩, fun hdata => ?_⟩
      exact hpayload ((SealCall.beforePayload_concat hopen.1 hresets).mp hdata).1
  | finished =>
      obtain ⟨hsome, hclosed⟩ := h
      refine ⟨SealCall.message_concat_ne_nil hsome hresets, fun hopen => ?_⟩
      exact hclosed ((SealCall.underWay_concat hsome hresets).mp hopen).1

theorem finished_follows (hopen : SealCall.UnderWay calls) {call : SealCall}
    (hresets : call.resets = false) (hends : call.ends = true) :
    finished.Follows (calls ++ [call]) := by
  refine ⟨SealCall.message_concat_ne_nil hopen.1 hresets, fun hstill => ?_⟩
  have hnot := ((SealCall.underWay_concat hopen.1 hresets).mp hstill).2
  rw [hends] at hnot
  cases hnot

theorem payload_follows (hopen : SealCall.UnderWay calls) {input : Bytes} {room : Nat}
    (hroom : input.length ≤ room) (mac : Absorber Poly1305) (dataLength payloadLength : Nat) :
    (payload mac dataLength payloadLength).Follows (calls ++ [.process input room]) := by
  refine ⟨(SealCall.underWay_concat hopen.1 rfl).mpr ⟨hopen, rfl⟩, fun hdata => ?_⟩
  have hnot := ((SealCall.beforePayload_concat hopen.1 rfl).mp hdata).2
  simp [SealCall.bringsPayload, hroom] at hnot

end SealPhase

/-! ### What a call does to the machine -/

namespace SealMachine

variable {machine : SealMachine} {call : SealCall}

theorem run_of_not_takes (hcall : ¬ machine.phase.Takes call) :
    ∃ error, call.run machine = (.error error, machine) := by
  obtain ⟨cipher, forEncryption, phase⟩ := machine
  cases call with
  | start nonce =>
      cases phase with
      | ready => exact absurd trivial hcall
      | additionalData | payload | finished => exact ⟨_, rfl⟩
  | updateData data =>
      cases phase with
      | additionalData => exact absurd trivial hcall
      | ready | payload | finished => exact ⟨_, rfl⟩
  | process input room =>
      by_cases hroom : room < input.length
      · exact ⟨_, by rw [SealCall.run, process, if_pos hroom]⟩
      · cases phase with
        | additionalData | payload => exact absurd (Nat.le_of_not_lt hroom) hcall
        | ready | finished => exact ⟨_, by rw [SealCall.run, process, if_neg hroom]⟩
  | finalize | verify tag =>
      cases phase with
      | additionalData | payload => exact absurd trivial hcall
      | ready | finished => exact ⟨_, rfl⟩
  | reset => exact absurd (by cases phase <;> trivial) hcall

/-- The call that compares a tag finishes the message whatever it answers. -/
theorem run_verify (tag : Bytes) (hcall : machine.phase.Takes (.verify tag)) :
    ∃ expected, SealCall.finalize.run machine = (.ok expected, { machine with phase := .finished })
      ∧ (SealCall.verify tag).run machine
        = (if expected = tag then .ok [] else .error .badRecordMac,
          { machine with phase := .finished }) := by
  obtain ⟨cipher, forEncryption, phase⟩ := machine
  cases phase with
  | additionalData mac length =>
      refine ⟨closeMac mac length 0, rfl, ?_⟩
      by_cases hright : closeMac mac length 0 = tag <;>
        simp [SealCall.run, verify, finalize, hright, Except.map]
  | payload mac dataLength payloadLength =>
      refine ⟨closeMac mac dataLength payloadLength, rfl, ?_⟩
      by_cases hright : closeMac mac dataLength payloadLength = tag <;>
        simp [SealCall.run, verify, finalize, hright, Except.map]
  | ready | finished => cases hcall

/-- The machines that calls may lead to. -/
inductive Led (key : Bytes) (forEncryption : Bool) (calls : List SealCall) : SealMachine → Prop
  | intro (nonce : Bytes) (position : Nat) (phase : SealPhase) (hphase : phase.Follows calls) :
      Led key forEncryption calls ⟨.chacha20 key nonce position, forEncryption, phase⟩

namespace Led

variable {key : Bytes} {forEncryption : Bool} {calls : List SealCall}

theorem takes_iff (h : Led key forEncryption calls machine) (call : SealCall) :
    machine.phase.Takes call ↔ SealCall.Allowed calls call := by
  obtain ⟨nonce, position, phase, hphase⟩ := h
  exact hphase.takes_iff call

/-- A call that is taken succeeds, where it does not compare a tag. -/
theorem taken (h : Led key forEncryption calls machine) (hcall : machine.phase.Takes call) :
    Led key forEncryption (calls ++ [call]) (call.run machine).2
      ∧ ((∀ tag, call ≠ .verify tag) → ∃ output, (call.run machine).1 = .ok output) := by
  obtain ⟨nonce, position, phase, hphase⟩ := h
  cases call with
  | start next =>
      cases phase with
      | ready =>
          have hmessage := SealCall.message_start hphase next
          have hrun := run_start key nonce next position forEncryption
          rw [ready] at hrun
          rw [hrun]
          refine ⟨.intro _ _ _ ?_, fun _ => ⟨_, rfl⟩⟩
          simp [SealPhase.Follows, SealCall.UnderWay, SealCall.BeforePayload, hmessage,
            SealCall.ends, SealCall.bringsPayload]
      | additionalData | payload | finished => cases hcall
  | updateData data =>
      cases phase with
      | additionalData =>
          obtain ⟨hopen, hdata⟩ := hphase
          have hstill : SealCall.UnderWay (calls ++ [.updateData data]) :=
            (SealCall.underWay_concat hopen.1 rfl).mpr ⟨hopen, rfl⟩
          have hbefore : SealCall.BeforePayload (calls ++ [.updateData data]) :=
            (SealCall.beforePayload_concat hopen.1 rfl).mpr ⟨hdata, rfl⟩
          exact ⟨.intro _ _ _ ⟨hstill, hbefore⟩, fun _ => ⟨_, rfl⟩⟩
      | ready | payload | finished => cases hcall
  | process input room =>
      cases phase with
      | additionalData | payload =>
          have hroom : ¬ room < input.length := Nat.not_lt.mpr hcall
          rw [SealCall.run, process, if_neg hroom]
          exact ⟨.intro _ _ _ (SealPhase.payload_follows hphase.1 hcall _ _ _), fun _ => ⟨_, rfl⟩⟩
      | ready | finished => cases hcall
  | finalize =>
      cases phase with
      | additionalData | payload =>
          exact ⟨.intro _ _ _ (SealPhase.finished_follows hphase.1 rfl rfl), fun _ => ⟨_, rfl⟩⟩
      | ready | finished => cases hcall
  | verify tag =>
      obtain ⟨expected, -, hrun⟩ := run_verify tag hcall
      refine ⟨?_, fun hother => absurd rfl (hother tag)⟩
      rw [hrun]
      cases phase with
      | additionalData | payload =>
          exact .intro _ _ _ (SealPhase.finished_follows hphase.1 rfl rfl)
      | ready | finished => cases hcall
  | reset =>
      exact ⟨.intro _ _ _ (SealCall.message_reset calls), fun _ => ⟨_, rfl⟩⟩

theorem step (h : Led key forEncryption calls machine) (call : SealCall) :
    Led key forEncryption (calls ++ [call]) (call.run machine).2 := by
  by_cases hcall : machine.phase.Takes call
  · exact (h.taken hcall).1
  · obtain ⟨error, hrun⟩ := run_of_not_takes hcall
    rw [hrun]
    obtain ⟨nonce, position, phase, hphase⟩ := h
    exact .intro _ _ _ (hphase.concat_of_not_takes hcall)

theorem accepted_iff (h : Led key forEncryption calls machine) (call : SealCall) :
    (∃ output, (call.run machine).1 = .ok output)
      ↔ SealCall.Allowed calls call
        ∧ ∀ tag, call = .verify tag → (SealCall.finalize.run machine).1 = .ok tag := by
  rw [← h.takes_iff]
  by_cases hcall : machine.phase.Takes call
  swap
  · obtain ⟨error, hrun⟩ := run_of_not_takes hcall
    simp [hrun, hcall]
  by_cases hverify : ∃ tag, call = .verify tag
  · obtain ⟨tag, rfl⟩ := hverify
    obtain ⟨expected, hfinalize, hrun⟩ := run_verify tag hcall
    rw [hfinalize, hrun]
    by_cases hright : expected = tag
    · simp [hright, hcall]
    · simp [hright]
  · have hother : ∀ tag, call ≠ .verify tag := fun tag heq => hverify ⟨tag, heq⟩
    have htakes := (h.taken hcall).2 hother
    exact ⟨fun _ => ⟨hcall, fun tag heq => absurd heq (hother tag)⟩, fun _ => htakes⟩

theorem rejected (h : Led key forEncryption calls machine) {error : RecordError}
    (hrun : (call.run machine).1 = .error error) :
    ¬ SealCall.Allowed calls call ∧ (call.run machine).2 = machine
      ∨ ∃ tag, call = .verify tag ∧ SealCall.Allowed calls call ∧ error = .badRecordMac
        ∧ (call.run machine).2 = { machine with phase := .finished } := by
  rw [← h.takes_iff]
  by_cases hcall : machine.phase.Takes call
  swap
  · obtain ⟨other, hsame⟩ := run_of_not_takes hcall
    exact .inl ⟨hcall, congrArg Prod.snd hsame⟩
  by_cases hverify : ∃ tag, call = .verify tag
  · obtain ⟨tag, rfl⟩ := hverify
    obtain ⟨expected, -, hanswer⟩ := run_verify tag hcall
    rw [hanswer] at hrun ⊢
    refine .inr ⟨tag, rfl, hcall, ?_, rfl⟩
    by_cases hright : expected = tag
    · simp [hright] at hrun
    · simpa [hright] using hrun.symm
  · obtain ⟨output, hok⟩ := (h.taken hcall).2 fun tag heq => hverify ⟨tag, heq⟩
    rw [hok] at hrun
    cases hrun

end Led

theorem after_concat (machine : SealMachine) (calls : List SealCall) (call : SealCall) :
    machine.after (calls ++ [call]) = (call.run (machine.after calls)).2 := by
  rw [after, List.foldl_append]
  rfl

theorem led_after (key nonce : Bytes) (position : Nat) (forEncryption : Bool)
    (calls : List SealCall) :
    Led key forEncryption calls ((ready key nonce position forEncryption).after calls) := by
  induction calls using List.reverseRecOn with
  | nil => exact .intro _ _ _ rfl
  | append_singleton calls call ih =>
      rw [after_concat]
      exact ih.step call

/-! ### After a reset -/

/-- What the cipher of a machine that is ready was used for before does not show. -/
theorem answers_ready (key old other : Bytes) (position place : Nat) (forEncryption : Bool)
    (calls : List SealCall) :
    (ready key old position forEncryption).answers calls
      = (ready key other place forEncryption).answers calls := by
  -- A start makes the two machines equal, and every other call leaves both of them ready.
  induction calls generalizing old other position place with
  | nil => rfl
  | cons call calls ih =>
      cases call with
      | start nonce => rw [answers, answers, run_start, run_start]
      | updateData | finalize | verify => exact congrArg (_ :: ·) (ih old other position place)
      | process input room =>
          simp only [answers, SealCall.run, process]
          by_cases hroom : room < input.length
          · rw [if_pos hroom, if_pos hroom]
            exact congrArg (_ :: ·) (ih old other position place)
          · rw [if_neg hroom, if_neg hroom]
            exact congrArg (_ :: ·) (ih old other position place)
      | reset => exact congrArg (_ :: ·) (ih old other 0 0)

/-- The state of a machine after a reset is as it was built, but for what shows nowhere. -/
theorem Led.answers_reset {key : Bytes} {forEncryption : Bool} {calls : List SealCall}
    (h : Led key forEncryption calls machine) (nonce : Bytes) (position : Nat)
    (later : List SealCall) :
    machine.reset.answers later = (ready key nonce position forEncryption).answers later := by
  obtain ⟨old, place, phase, -⟩ := h
  exact answers_ready key old nonce 0 position forEncryption later

theorem create_eq_ready {engine : Engine} {key nonce : Bytes} {position : Nat}
    (hstream : engine.primitive = .stream (.chacha20 key nonce position))
    (hmachine : create engine = .ok machine) :
    machine = ready key nonce position engine.forEncryption := by
  have hcipher : engine.stream? = some (.chacha20 key nonce position) := by
    rw [Engine.stream?, hstream]
  unfold create at hmachine
  rw [hcipher] at hmachine
  split at hmachine
  · rename_i heq
    cases heq
    cases hmachine
    rfl
  · cases hmachine

/-- A machine takes exactly the calls that the calls before it allow, and of the tags that are
compared the right ones.  A call that it does not take leaves it as it is, but a wrong tag finishes
the message.  After a reset it answers like a new machine. -/
theorem takes_allowed_calls {engine : Engine} {key nonce : Bytes} {position : Nat}
    (hstream : engine.primitive = .stream (.chacha20 key nonce position))
    (hmachine : create engine = .ok machine) (calls : List SealCall) :
    (∀ call, (∃ output, (call.run (machine.after calls)).1 = .ok output)
        ↔ SealCall.Allowed calls call
          ∧ ∀ tag, call = .verify tag →
            (SealCall.finalize.run (machine.after calls)).1 = .ok tag)
      ∧ (∀ call error, (call.run (machine.after calls)).1 = .error error →
          ¬ SealCall.Allowed calls call ∧ (call.run (machine.after calls)).2 = machine.after calls
          ∨ ∃ tag, call = .verify tag ∧ SealCall.Allowed calls call ∧ error = .badRecordMac
            ∧ (call.run (machine.after calls)).2
              = { machine.after calls with phase := .finished })
      ∧ ∀ later, (machine.after (calls ++ [.reset])).answers later = machine.answers later := by
  have hbuilt := create_eq_ready hstream hmachine
  have hled := led_after key nonce position engine.forEncryption calls
  rw [← hbuilt] at hled
  refine ⟨hled.accepted_iff, fun call error hrun => hled.rejected hrun, fun later => ?_⟩
  calc (machine.after (calls ++ [.reset])).answers later
      = (machine.after calls).reset.answers later := by rw [after_concat]; rfl
    _ = (ready key nonce position engine.forEncryption).answers later :=
        hled.answers_reset nonce position later
    _ = machine.answers later := by rw [hbuilt]

/-- An input without room and late additional data leave a message as it is; its tag is still taken,
and a start only after the reset. -/
theorem takes_calls_between_rejected_ones :
    let engine : Engine :=
      ⟨.chacha20, true, Bytes.zeros 32, .stream (.ofChaCha20Key (Bytes.zeros 32))⟩
    let machine := ready (Bytes.zeros 32) (Bytes.zeros 12) 0 true
    let calls := [.start (Bytes.zeros 12), .process [1, 2] 2, .process [3] 0, .updateData [4]]
    Engine.create .chacha20 true (Bytes.zeros 32) = .ok engine
      ∧ create engine = .ok machine
      ∧ (∃ tag, (SealCall.finalize.run (machine.after calls)).1 = .ok tag)
      ∧ (¬ ∃ output, ((SealCall.updateData [4]).run (machine.after calls)).1 = .ok output)
      ∧ (machine.after (calls ++ [.reset])).answers calls = machine.answers calls := by
  intro engine machine calls
  have hstream : engine.primitive
      = .stream (.chacha20 (Bytes.zeros 32) (Bytes.zeros 12) 0) := rfl
  have hmachine : create engine = .ok machine := rfl
  obtain ⟨haccepted, -, hreset⟩ := takes_allowed_calls hstream hmachine calls
  have hfinalize : SealCall.Allowed calls .finalize := by decide
  have hupdate : ¬ SealCall.Allowed calls (.updateData [4]) := by decide
  refine ⟨rfl, hmachine, (haccepted .finalize).mpr ⟨hfinalize, fun tag heq => ?_⟩,
    fun htaken => ?_, hreset calls⟩
  · cases heq
  · exact hupdate ((haccepted _).mp htaken).1

end SealMachine

end RecordProtection
