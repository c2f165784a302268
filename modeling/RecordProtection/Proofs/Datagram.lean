import RecordProtection.Proofs.Placement
import RecordProtection.Proofs.ReplayWindow

/-!
# Datagrams in any order

The receiver reads each record as if it were the next one.  In whatever order the records arrive,
the window alone decides which of them are read: each one once, unless it has fallen behind.
-/

namespace RecordProtection

/-! ### Datagrams of an epoch -/

theorem lt_add_one_of_lt {number limit : UInt64} (hnumber : number < limit) :
    number < number + 1 := by
  have hlt := UInt64.lt_iff_toNat_lt.mp hnumber
  have hlimit := limit.toNat_lt
  rw [UInt64.lt_iff_toNat_lt, UInt64.toNat_add, UInt64.toNat_one, Nat.mod_eq_of_lt (by omega)]
  omega

structure Datagram where
  type : ContentType
  plaintext : Bytes
  record : ProtectedRecord

namespace Datagram

def number (datagram : Datagram) : UInt64 := datagram.record.sequence.number

/-- A datagram with a number of its own keeps the numbers of the others apart. -/
theorem number_inj_cons {sent : List Datagram} {datagram : Datagram}
    (hinj : ∀ first ∈ sent, ∀ second ∈ sent, first.number = second.number → first = second)
    (hnew : ∀ other ∈ sent, other.number ≠ datagram.number) :
    ∀ first ∈ datagram :: sent, ∀ second ∈ datagram :: sent,
      first.number = second.number → first = second := by
  intro first hfirst second hsecond heq
  rcases List.mem_cons.mp hfirst with rfl | hfirstSent
  · rcases List.mem_cons.mp hsecond with rfl | hsecondSent
    · rfl
    · exact absurd heq.symm (hnew second hsecondSent)
  · rcases List.mem_cons.mp hsecond with rfl | hsecondSent
    · exact absurd heq (hnew first hfirstSent)
    · exact hinj first hfirstSent second hsecondSent heq

/-- The datagram is what the sender makes of its content at its place. -/
def SentBy (datagram : Datagram) (sender : Protector) : Prop :=
  ∃ random next rest, (sender.writeAt datagram.number).protect datagram.type datagram.plaintext
    random = (.ok datagram.record, next, rest)

end Datagram

/-- The datagrams that a sender has protected in an epoch, the latest first, and the sender after
them.  Some of its attempts may have failed. -/
inductive Sends (start : Protector) : List Datagram → Protector → Prop
  | start : Sends start [] start
  | succeeded {sent : List Datagram} {sender next : Protector} {type : ContentType}
      {plaintext : Bytes} {random rest : RandomSource} {record : ProtectedRecord}
      (hsends : Sends start sent sender)
      (hprotect : sender.protect type plaintext random = (.ok record, next, rest)) :
      Sends start (⟨type, plaintext, record⟩ :: sent) next
  | failed {sent : List Datagram} {sender next : Protector} {type : ContentType}
      {plaintext : Bytes} {random rest : RandomSource} {e : RecordError}
      (hsends : Sends start sent sender)
      (hfailed : sender.protect type plaintext random = (.error e, next, rest)) :
      Sends start sent next

/-- Where a sender is after its datagrams. -/
structure SentState (start : Protector) (sent : List Datagram) (sender : Protector) : Prop where
  place : sender = start.writeAt sender.write.sequence.number
  sentBy : ∀ datagram ∈ sent, datagram.SentBy start
  epoch : ∀ datagram ∈ sent, datagram.record.sequence.epoch = start.write.sequence.epoch
  number_le : ∀ datagram ∈ sent, datagram.number ≤ maxDatagramNumber
  number_lt : ∀ datagram ∈ sent, datagram.number < sender.write.sequence.number
  number_inj : ∀ first ∈ sent, ∀ second ∈ sent, first.number = second.number → first = second

section Sent

variable {start sender next : Protector} (hwrite : start.write.mode.transform.Stateless)
  {sent : List Datagram} (hstate : SentState start sent sender) {type : ContentType}
  {plaintext : Bytes} {random rest : RandomSource}
include hwrite hstate

theorem sentState_of_failed {e : RecordError}
    (hfailed : sender.protect type plaintext random = (.error e, next, rest)) :
    SentState start sent next := by
  have hstateless : sender.write.mode.transform.Stateless := by
    rw [hstate.place]
    exact hwrite
  rw [Protector.eq_of_protect_error hstateless hfailed]
  exact hstate

theorem sentState_of_succeeded (hdatagram : start.write.mode.auth.version.isDatagram = true)
    {record : ProtectedRecord}
    (hprotect : sender.protect type plaintext random = (.ok record, next, rest)) :
    SentState start (⟨type, plaintext, record⟩ :: sent) next := by
  obtain ⟨-, fragment, mode, hencrypt, hrecord, hnext⟩ := Protector.protect_eq_ok_iff.mp hprotect
  have hstateless : sender.write.mode.transform.Stateless := by
    rw [hstate.place]
    exact hwrite
  have hversion : sender.write.mode.auth.version.isDatagram = true := by
    rw [hstate.place]
    exact hdatagram
  obtain ⟨hnumber, hmode⟩ := CipherMode.placed_of_encrypt hstateless hencrypt
  have hlimit : sender.write.sequence.number < maxDatagramNumber := by
    rw [Authenticator.maxNumber, if_pos hversion] at hnumber
    exact hnumber
  have hsuccessor := lt_add_one_of_lt hlimit
  have hplace : next.write.sequence.number = sender.write.sequence.number + 1 := by
    rw [hnext, hmode]
    rfl
  have hsequence : record.sequence = sender.write.sequence := by
    rw [hrecord]
  refine ⟨?_, ?_, ?_, ?_, ?_, ?_⟩
  · rw [hplace, hnext, hmode, hstate.place]
    rfl
  · refine List.forall_mem_cons.mpr ⟨?_, hstate.sentBy⟩
    refine ⟨random, next, rest, ?_⟩
    rwa [Datagram.number, hsequence, ← hstate.place]
  · refine List.forall_mem_cons.mpr ⟨?_, hstate.epoch⟩
    rw [hsequence, hstate.place]
    rfl
  · refine List.forall_mem_cons.mpr ⟨?_, hstate.number_le⟩
    rw [Datagram.number, hsequence]
    exact UInt64.le_of_lt hlimit
  · rw [hplace]
    refine List.forall_mem_cons.mpr ⟨?_, fun datagram hmem =>
      UInt64.lt_trans (hstate.number_lt datagram hmem) hsuccessor⟩
    rwa [Datagram.number, hsequence]
  · have hnew (other : Datagram) (hmem : other ∈ sent) :
        other.number ≠ record.sequence.number := by
      rw [hsequence]
      exact UInt64.ne_of_lt (hstate.number_lt other hmem)
    exact Datagram.number_inj_cons hstate.number_inj hnew

end Sent

theorem sentState_of_sends {start sender : Protector} {sent : List Datagram}
    (hwrite : start.write.mode.transform.Stateless)
    (hdatagram : start.write.mode.auth.version.isDatagram = true)
    (hsends : Sends start sent sender) : SentState start sent sender := by
  induction hsends with
  | start => exact ⟨rfl, by simp, by simp, by simp, by simp, by simp⟩
  | succeeded _ hprotect ih => exact sentState_of_succeeded hwrite ih hdatagram hprotect
  | failed _ hfailed ih => exact sentState_of_failed hwrite ih hfailed

/-! ### Deliveries -/

/-- The datagrams that a receiver has accepted, the latest first, and the receiver after them.  In
between, any calls may have failed. -/
inductive Receives (start : Protector) (sent : List Datagram) : List Datagram → Protector → Prop
  | start : Receives start sent [] start
  | accepted {accepted : List Datagram} {receiver next : Protector} {datagram : Datagram}
      {content : ContentType × Bytes} (hreceives : Receives start sent accepted receiver)
      (hsent : datagram ∈ sent)
      (haccepted : receiver.unprotectAt datagram.record.type datagram.record.sequence
        datagram.record.fragment = (.ok content, next)) :
      Receives start sent (datagram :: accepted) next
  | failed {accepted : List Datagram} {receiver next : Protector} {type : ContentType}
      {sequence : Sequence} {fragment : Bytes} {e : RecordError}
      (hreceives : Receives start sent accepted receiver)
      (hfailed : receiver.unprotectAt type sequence fragment = (.error e, next)) :
      Receives start sent accepted next

theorem Receives.delivered {start receiver : Protector} {sent accepted : List Datagram}
    (hreceives : Receives start sent accepted receiver) {datagram : Datagram}
    (hsent : datagram ∈ sent) {content : ContentType × Bytes}
    (haccepted : (receiver.unprotectAt datagram.record.type datagram.record.sequence
      datagram.record.fragment).1 = .ok content) :
    Receives start sent (datagram :: accepted)
      (receiver.unprotectAt datagram.record.type datagram.record.sequence
        datagram.record.fragment).2 :=
  hreceives.accepted hsent (Prod.ext haccepted rfl)

/-- Where a receiver is after deliveries. -/
structure ReceivedState (start : Protector) (sent accepted : List Datagram)
    (receiver : Protector) : Prop where
  place : ∃ number, receiver = start.readAt number receiver.read.replay
  tracks : receiver.read.replay.Tracks (accepted.map Datagram.number)
  subset : accepted ⊆ sent

theorem receivedState_of_receives {start receiver : Protector} {sent accepted : List Datagram}
    (hread : start.read.mode.transform.Stateless) (hempty : start.read.replay = .empty)
    (hdatagram : start.params.version.isDatagram = true)
    (hwindow : start.config.replayWindow = true)
    (hreceives : Receives start sent accepted receiver) :
    ReceivedState start sent accepted receiver := by
  induction hreceives with
  | start => exact ⟨⟨_, rfl⟩, hempty ▸ ReplayWindow.tracks_empty, List.nil_subset _⟩
  | @accepted accepted receiver next datagram content _ hsent haccepted ih =>
      obtain ⟨number, hplace⟩ := ih.place
      have hstateless : receiver.read.mode.transform.Stateless := by
        rw [hplace]
        exact hread
      obtain ⟨-, reached, rfl⟩ := Protector.readAt_of_unprotectAt_ok
        (by rw [hplace]; exact hdatagram) hstateless (by rw [hplace]; exact hwindow) haccepted
      refine ⟨⟨reached, ?_⟩, ReplayWindow.tracks_update ih.tracks datagram.number,
        List.cons_subset.mpr ⟨hsent, ih.subset⟩⟩
      rw [hplace]
      rfl
  | @failed accepted receiver next type sequence fragment e _ hfailed ih =>
      obtain ⟨number, hplace⟩ := ih.place
      have hstateless : receiver.read.mode.transform.Stateless := by
        rw [hplace]
        exact hread
      rw [Protector.eq_of_unprotectAt_error (by rw [hplace]; exact hdatagram) hstateless hfailed]
      exact ih

/-- A datagram that was not accepted yet and is not too far behind those that were. -/
def Datagram.Current (datagram : Datagram) (accepted : List Datagram) : Prop :=
  datagram ∉ accepted
    ∧ ∀ earlier ∈ accepted, earlier.number.toNat < datagram.number.toNat + ReplayWindow.width

theorem current_iff_fresh {sent accepted : List Datagram} (hsubset : accepted ⊆ sent)
    (hinj : ∀ first ∈ sent, ∀ second ∈ sent, first.number = second.number → first = second)
    {datagram : Datagram} (hsent : datagram ∈ sent) :
    datagram.Current accepted
      ↔ ReplayWindow.Fresh (accepted.map Datagram.number) datagram.number := by
  have hmem : datagram.number ∈ accepted.map Datagram.number ↔ datagram ∈ accepted := by
    rw [List.mem_map]
    constructor
    · rintro ⟨other, hother, heq⟩
      rwa [← hinj other (hsubset hother) datagram hsent heq]
    · exact fun hdatagram => ⟨datagram, hdatagram, rfl⟩
  simp only [Datagram.Current, ReplayWindow.Fresh, hmem, List.forall_mem_map]

section Delivery

variable {sender receiver : Protector} (hkeyed : Protector.KeyedAlike sender receiver)
  (hsuite : sender.params.suite ∈ CipherSuite.catalog)
  (hdatagram : sender.params.version.isDatagram = true)
  (hwindow : receiver.config.replayWindow = true)
include hkeyed hsuite hdatagram hwindow

/-- A receiver at any place reads a datagram that passes its window. -/
theorem unprotectAt_of_sentBy {number : UInt64} {window : ReplayWindow} {datagram : Datagram}
    (hsent : datagram.SentBy sender)
    (hepoch : datagram.record.sequence.epoch = sender.write.sequence.epoch)
    (hnumber : datagram.number ≤ maxDatagramNumber)
    (hfits : Protector.Fits receiver datagram.plaintext datagram.record)
    (hcheck : window.check datagram.number = .ok ()) :
    ((receiver.readAt number window).unprotectAt datagram.record.type datagram.record.sequence
      datagram.record.fragment).1 = .ok (datagram.type, datagram.plaintext) := by
  obtain ⟨⟨hread, hwrite⟩, hpeers⟩ := hkeyed.pair
  obtain ⟨random, next, rest, hprotect⟩ := hsent
  obtain ⟨-, hlawful, hheader, -⟩ := Direction.reliable_of_keyedFor hsuite hwrite
  have hmode : (receiver.readAt datagram.number window).read.mode
      = (sender.writeAt datagram.number).write.mode := by
    simp only [Protector.readAt, Protector.writeAt, Direction.sequence, hread]
  have hprotected : (receiver.readAt datagram.number window).read.isProtected
      = (sender.writeAt datagram.number).write.isProtected := by
    simp only [Protector.readAt, Protector.writeAt, hread]
  have hstep : Protector.InStep (sender.writeAt datagram.number)
      (receiver.readAt datagram.number window) :=
    ⟨hpeers.version, hprotected, hmode⟩
  have hfitsThere : Protector.Fits (receiver.readAt datagram.number window) datagram.plaintext
      datagram.record :=
    ⟨hfits.fragment, hfits.plaintext⟩
  have hunprotect := Protector.unprotect_protect hstep hlawful hheader hprotect hfitsThere
  have hversion : (receiver.readAt number window).params.version.isDatagram = true := by
    rw [← hdatagram, ← hpeers.version]
    rfl
  have hsame : datagram.record.sequence.epoch
      = (receiver.readAt number window).read.sequence.epoch := by
    rw [hepoch, ← hread]
    rfl
  have hpassed := Protector.unprotectAt_of_passed hversion hwindow hsame hcheck hnumber
    datagram.record.type datagram.record.fragment
  have hreached : (receiver.readAt number window).readAt datagram.record.sequence.number
      (receiver.readAt number window).read.replay = receiver.readAt datagram.number window :=
    Protector.readAt_readAt receiver number datagram.number window window
  rw [hpassed, hreached, hunprotect]

/-- Whatever has been delivered and has failed before: a datagram within the limits is read if it
was not accepted yet and is less than the width of the window below the highest accepted one, and
any other one is refused as replayed. -/
theorem unprotectAt_delivered {sentSender receivedReceiver : Protector}
    {sent accepted : List Datagram} (hsends : Sends sender sent sentSender)
    (hreceives : Receives receiver sent accepted receivedReceiver) {datagram : Datagram}
    (hsent : datagram ∈ sent) :
    (Protector.Fits receiver datagram.plaintext datagram.record → datagram.Current accepted →
        (receivedReceiver.unprotectAt datagram.record.type datagram.record.sequence
          datagram.record.fragment).1 = .ok (datagram.type, datagram.plaintext))
      ∧ (¬ datagram.Current accepted →
        (receivedReceiver.unprotectAt datagram.record.type datagram.record.sequence
          datagram.record.fragment).1 = .error (.replayedRecord datagram.number)) := by
  obtain ⟨⟨hread, hwrite⟩, hpeers⟩ := hkeyed.pair
  have hstateless := Direction.stateless_of_keyedFor hsuite hdatagram hwrite
  have hauth : sender.write.mode.auth.version.isDatagram = true := by
    rw [Direction.version_of_keyedFor hwrite]
    exact hdatagram
  have hempty : receiver.read.replay = .empty := by
    rw [hread]
    exact Direction.replay_of_keyedFor hwrite
  have hreceiver : receiver.params.version.isDatagram = true := by
    rw [hpeers.version]
    exact hdatagram
  have hsentState := sentState_of_sends hstateless hauth hsends
  have hreceived := receivedState_of_receives (hread ▸ hstateless) hempty hreceiver hwindow
    hreceives
  -- the receiver is the one under new keys at some place, so its window alone decides
  obtain ⟨number, hplace⟩ := hreceived.place
  have hfresh := current_iff_fresh hreceived.subset hsentState.number_inj hsent
  have hcheck := @ReplayWindow.check_eq _ _ hreceived.tracks datagram.number
  constructor
  · intro hfits hcurrent
    rw [if_pos (hfresh.mp hcurrent)] at hcheck
    rw [hplace]
    exact unprotectAt_of_sentBy hkeyed hsuite hdatagram hwindow (hsentState.sentBy datagram hsent)
      (hsentState.epoch datagram hsent) (hsentState.number_le datagram hsent) hfits hcheck
  · intro hstale
    rw [if_neg (hstale ∘ hfresh.mpr)] at hcheck
    have hsame : datagram.record.sequence.epoch = receivedReceiver.read.sequence.epoch := by
      rw [hsentState.epoch datagram hsent, hplace, ← hread]
      rfl
    rw [Protector.unprotectAt_of_replayed (hplace ▸ hreceiver) (hplace ▸ hwindow) hsame hcheck]

end Delivery

/-! ### Two datagrams, the wrong way round -/

/-- Keys of a suite that only authenticates. -/
def nullShaKeys : TrafficKeys where
  macKey := Secret.ofBytes "mac key" (Bytes.zeros 20)
  key := Secret.ofBytes "key" []
  iv := Secret.ofBytes "iv" []

def nullShaEnd (role : Role) : Protector :=
  Protector.create ⟨.dtls12, role, CipherSuite.plain 0x0002 "TLS_RSA_WITH_NULL_SHA" (some .sha1)⟩ {}

def nullShaSender : Protector := ((nullShaEnd .client).installWriteKeys nullShaKeys).2

def nullShaReceiver : Protector := ((nullShaEnd .server).installReadKeys nullShaKeys).2

/-- An alert and its MAC. -/
def nullShaAlert : Datagram where
  type := .alert
  plaintext := [2, 40]
  record := ⟨.alert, .dtls12, ⟨1, 0⟩,
    [2, 40] ++ nullShaSender.write.mode.auth.computeMac .alert [2, 40]⟩

theorem keyedAlike_nullSha : Protector.KeyedAlike nullShaSender nullShaReceiver := by
  have hpeers : Protector.Peers (nullShaEnd .client) (nullShaEnd .server) := ⟨rfl, rfl, rfl⟩
  have hwrite : (nullShaEnd .client).installWriteKeys nullShaKeys = (.ok (), nullShaSender) := rfl
  have hread : (nullShaEnd .server).installReadKeys nullShaKeys = (.ok (), nullShaReceiver) := rfl
  exact .installKeys hpeers rfl hwrite hread

/-- A handshake message behind the alert. -/
def nullShaHandshake : Datagram where
  type := .handshake
  plaintext := [1, 2, 3]
  record := ⟨.handshake, .dtls12, ⟨1, 1⟩,
    [1, 2, 3] ++ (nullShaSender.writeAt 1).write.mode.auth.computeMac .handshake [1, 2, 3]⟩

theorem sends_nullSha : Sends nullShaSender [nullShaHandshake, nullShaAlert]
    ((nullShaSender.protect .alert [2, 40] ⟨fun _ => 0, 0⟩).2.1.protect .handshake [1, 2, 3]
      ⟨fun _ => 0, 0⟩).2.1 := by
  have hfirst : nullShaSender.protect .alert [2, 40] ⟨fun _ => 0, 0⟩
      = (.ok nullShaAlert.record, _, _) := rfl
  have hsecond : (nullShaSender.protect .alert [2, 40] ⟨fun _ => 0, 0⟩).2.1.protect .handshake
      [1, 2, 3] ⟨fun _ => 0, 0⟩ = (.ok nullShaHandshake.record, _, _) := rfl
  exact (Sends.start.succeeded hfirst).succeeded hsecond

theorem fits_nullShaAlert :
    Protector.Fits nullShaReceiver nullShaAlert.plaintext nullShaAlert.record := by
  refine ⟨?_, by decide⟩
  have hlength : nullShaAlert.record.fragment.length = 22 := by
    decide +kernel
  rw [hlength]
  decide

theorem fits_nullShaHandshake :
    Protector.Fits nullShaReceiver nullShaHandshake.plaintext nullShaHandshake.record := by
  refine ⟨?_, by decide⟩
  have hlength : nullShaHandshake.record.fragment.length = 23 := by
    decide +kernel
  rw [hlength]
  decide

namespace Datagram

def deliver (datagram : Datagram) (receiver : Protector) :
    Except RecordError (ContentType × Bytes) × Protector :=
  receiver.unprotectAt datagram.record.type datagram.record.sequence datagram.record.fragment

/-- The second datagram comes first and the first one still passes the window behind it.  Then both
are refused. -/
theorem nullSha_are_read_once :
    (nullShaHandshake.deliver nullShaReceiver).1 = .ok (.handshake, [1, 2, 3])
      ∧ (nullShaAlert.deliver (nullShaHandshake.deliver nullShaReceiver).2).1
        = .ok (.alert, [2, 40])
      ∧ let receiver := (nullShaAlert.deliver (nullShaHandshake.deliver nullShaReceiver).2).2
        (nullShaHandshake.deliver receiver).1 = .error (.replayedRecord 1)
          ∧ (nullShaAlert.deliver receiver).1 = .error (.replayedRecord 0) := by
  have hsuite : nullShaSender.params.suite ∈ CipherSuite.catalog := by
    decide
  have hhandshake : nullShaHandshake ∈ [nullShaHandshake, nullShaAlert] := List.mem_cons_self
  have halert : nullShaAlert ∈ [nullShaHandshake, nullShaAlert] :=
    List.mem_cons_of_mem _ List.mem_cons_self
  have hdelivered {accepted : List Datagram} {receiver : Protector} {datagram : Datagram}
      (hreceives : Receives nullShaReceiver [nullShaHandshake, nullShaAlert] accepted receiver) :=
    @unprotectAt_delivered _ _ keyedAlike_nullSha hsuite rfl rfl _ _ _ _ sends_nullSha hreceives
      datagram
  have hbehind : nullShaAlert.Current [nullShaHandshake] := by
    refine ⟨?_, by decide⟩
    intro hmem
    cases List.mem_singleton.mp hmem
  have hfirst := (hdelivered .start hhandshake).1 fits_nullShaHandshake (by simp [Current])
  have hahead := Receives.start.delivered hhandshake hfirst
  have hsecond := (hdelivered hahead halert).1 fits_nullShaAlert hbehind
  have hboth := hahead.delivered halert hsecond
  exact ⟨hfirst, hsecond, (hdelivered hboth hhandshake).2 (by simp [Current]),
    (hdelivered hboth halert).2 (by simp [Current])⟩

end Datagram

end RecordProtection
