import RecordProtection.Proofs.Coupling
import Mathlib.Logic.Function.Basic

/-!
# Connections in order

Both ends protect records and update their keys as they like, and everything arrives in order.  Each
end stays coupled to its peer in its own direction, whatever happens in the other one.  A list of
actions that can be carried out from keyed ends leads to a connection of this kind.
-/

namespace RecordProtection

/-- Both ends, what each of them has sent and its peer has not received yet, and whether the peer
has refused a record under the current keys. -/
structure Connection where
  ends : Role → Endpoint
  sent : Role → List Item
  refused : Role → Bool

namespace Connection

open Function (update)

/-- An end has become `sender` and sends an item. -/
def send (connection : Connection) (role : Role) (sender : Endpoint) (item : Item) : Connection :=
  { connection with
    ends := update connection.ends role sender
    sent := update connection.sent role (connection.sent role ++ [item]) }

/-- The peer of an end has become `receiver` by the item that comes next, and leaves the others. -/
def receive (connection : Connection) (role : Role) (receiver : Endpoint) (items : List Item)
    (refused : Bool) : Connection where
  ends := update connection.ends role.peer receiver
  sent := update connection.sent role items
  refused := update connection.refused role refused

/-- Either end protects a record or updates its write keys, or its peer receives the item that comes
next. -/
inductive Step (connection : Connection) : Connection → Prop
  | protect {role : Role} {type : ContentType} {plaintext : Bytes} {random rest : RandomSource}
      {record : ProtectedRecord} {next : Protector}
      (hprotect : (connection.ends role).protector.protect type plaintext random
        = (.ok record, next, rest)) :
      Step connection (connection.send role { connection.ends role with protector := next }
        (.record type plaintext record))
  | updateKeys {role : Role} {next : Protector} {moved : HkdfSchedule}
      (hupdate : (connection.ends role).protector.updateWriteKeys (connection.ends role).schedule
        = (.ok (), next, moved)) :
      Step connection (connection.send role ⟨next, moved⟩ .keyUpdate)
  | deliver {role : Role} {type : ContentType} {plaintext : Bytes} {record : ProtectedRecord}
      {items : List Item} {result : Except RecordError (ContentType × Bytes)} {next : Protector}
      (hsent : connection.sent role = .record type plaintext record :: items)
      (hunprotect : (connection.ends role.peer).protector.unprotect record.type record.fragment
        = (result, next)) :
      Step connection (connection.receive role
        { connection.ends role.peer with protector := next } items
        (connection.refused role || decide ((connection.ends role.peer).protector.fragmentLimit
          < record.fragment.length)))
  | follow {role : Role} {items : List Item} {result : Except RecordError Unit} {next : Protector}
      {moved : HkdfSchedule} (hsent : connection.sent role = .keyUpdate :: items)
      (hupdate : (connection.ends role.peer).protector.updateReadKeys
        (connection.ends role.peer).schedule = (result, next, moved)) :
      Step connection (connection.receive role ⟨next, moved⟩ items false)

/-- Two ends that nothing has been sent between. -/
def fresh (client server : Endpoint) : Connection where
  ends
    | .client => client
    | .server => server
  sent _ := []
  refused _ := false

/-- Both ends have got their keys from one key block, or under version 1.3 from schedules that hold
the same secrets, and have taken any steps since. -/
inductive Reached : Connection → Prop
  | keyBlock {version : ProtocolVersion} {suite : CipherSuite} {config : Config}
      {block : KeyBlock} {client server : Protector} {schedule : HkdfSchedule}
      (hsuite : suite ∈ CipherSuite.catalog)
      (hclient : (Protector.create ⟨version, .client, suite⟩ config).installKeyBlock block
        = (.ok (), client))
      (hserver : (Protector.create ⟨version, .server, suite⟩ config).installKeyBlock block
        = (.ok (), server)) :
      Reached (fresh ⟨client, schedule⟩ ⟨server, schedule⟩)
  | trafficSecrets {version : ProtocolVersion} {suite : CipherSuite} {config : Config}
      {clientSchedule serverSchedule : HkdfSchedule} {stage : TrafficStage}
      {client server : Protector} (hsuite : suite ∈ CipherSuite.catalog)
      (hagrees : clientSchedule.Agrees serverSchedule)
      (hclient : (Protector.create ⟨version, .client, suite⟩ config).installTrafficSecrets
        clientSchedule stage = (.ok (), client))
      (hserver : (Protector.create ⟨version, .server, suite⟩ config).installTrafficSecrets
        serverSchedule stage = (.ok (), server)) :
      Reached (fresh ⟨client, clientSchedule⟩ ⟨server, serverSchedule⟩)
  | step {connection next : Connection} (hreached : Reached connection)
      (hstep : Step connection next) : Reached next

/-- Each end is coupled to its peer in its direction. -/
def Invariant (connection : Connection) : Prop :=
  ∀ role, (connection.ends role).protector.params.role = role
    ∧ Coupled (connection.ends role) (connection.ends role.peer) (connection.sent role)
      (connection.refused role)

theorem peer_ne (role : Role) : role.peer ≠ role := by
  cases role <;> decide

theorem invariant_of_both {connection : Connection} (role : Role)
    (hrole : (connection.ends role).protector.params.role = role)
    (hown : Coupled (connection.ends role) (connection.ends role.peer) (connection.sent role)
      (connection.refused role))
    (hpeer : Coupled (connection.ends role.peer) (connection.ends role)
      (connection.sent role.peer) (connection.refused role.peer)) :
    Invariant connection := by
  have hpeerRole : (connection.ends role.peer).protector.params.role = role.peer := by
    rw [hown.peers.role, hrole]
  intro other
  by_cases hsame : other = role
  · subst hsame
    exact ⟨hrole, hown⟩
  · obtain rfl : other = role.peer := by
      revert hsame
      cases other <;> cases role <;> decide
    refine ⟨hpeerRole, ?_⟩
    rwa [Protector.peer_peer]

theorem invariant_send {connection : Connection} {role : Role} {sender : Endpoint} {item : Item}
    (hrole : sender.protector.params.role = role)
    (hown : Coupled sender (connection.ends role.peer) (connection.sent role ++ [item])
      (connection.refused role))
    (hpeer : Coupled (connection.ends role.peer) sender (connection.sent role.peer)
      (connection.refused role.peer)) :
    Invariant (connection.send role sender item) := by
  refine invariant_of_both role ?_ ?_ ?_ <;>
    simp only [send, Function.update_self, Function.update_of_ne (peer_ne role)]
  · exact hrole
  · exact hown
  · exact hpeer

theorem invariant_receive {connection : Connection} {role : Role} {receiver : Endpoint}
    {items : List Item} {refused : Bool}
    (hrole : (connection.ends role).protector.params.role = role)
    (hown : Coupled (connection.ends role) receiver items refused)
    (hpeer : Coupled receiver (connection.ends role) (connection.sent role.peer)
      (connection.refused role.peer)) :
    Invariant (connection.receive role receiver items refused) := by
  refine invariant_of_both role ?_ ?_ ?_ <;>
    simp only [receive, Function.update_self, Function.update_of_ne (peer_ne role),
      Function.update_of_ne (peer_ne role).symm]
  · exact hrole
  · exact hown
  · exact hpeer

theorem invariant_step {connection next : Connection} (hinvariant : Invariant connection)
    (hstep : Step connection next) : Invariant next := by
  cases hstep with
  | @protect role type plaintext random rest record protector hprotect =>
      obtain ⟨hrole, hown⟩ := hinvariant role
      obtain ⟨-, hpeer⟩ := hinvariant role.peer
      rw [Protector.peer_peer] at hpeer
      obtain ⟨-, fragment, mode, -, -, hnext⟩ := Protector.protect_eq_ok_iff.mp hprotect
      refine invariant_send ?_ (hown.protect hprotect) ?_
      · rw [hnext]
        exact hrole
      · subst hnext
        exact hpeer.congr_receiver rfl rfl rfl (.refl _ _)
  | @updateKeys role protector moved hupdate =>
      obtain ⟨hrole, hown⟩ := hinvariant role
      obtain ⟨hpeerRole, hpeer⟩ := hinvariant role.peer
      rw [Protector.peer_peer] at hpeer
      obtain ⟨write, secret, hnext, hmoved⟩ := Protector.updateWriteKeys_frame hupdate
      refine invariant_send ?_ (hown.updateKeys hupdate) ?_
      · rw [hnext]
        exact hrole
      · subst hnext hmoved
        refine hpeer.congr_receiver rfl rfl rfl ?_
        rw [hpeerRole, hrole]
        exact HkdfSchedule.shares_withTrafficSecret _ _ _
  | @deliver role type plaintext record items result protector hsent hunprotect =>
      obtain ⟨hrole, hown⟩ := hinvariant role
      obtain ⟨-, hpeer⟩ := hinvariant role.peer
      rw [Protector.peer_peer] at hpeer
      obtain ⟨mode, hframe, -⟩ :=
        (connection.ends role.peer).protector.unprotect_frame record.type record.fragment
      rw [hsent] at hown
      have hdelivered := hown.deliver
      rw [hunprotect] at hframe hdelivered
      refine invariant_receive hrole hdelivered ?_
      have hnext : protector = _ := hframe
      subst hnext
      exact hpeer.congr_sender rfl rfl rfl (.refl _ _)
  | @follow role items result protector moved hsent hupdate =>
      obtain ⟨hrole, hown⟩ := hinvariant role
      obtain ⟨hpeerRole, hpeer⟩ := hinvariant role.peer
      rw [Protector.peer_peer] at hpeer
      rw [hsent] at hown
      -- the update of the receiver is the one that the coupling promises
      obtain ⟨_, _, hfollow, hfollowed⟩ := hown.follow
      rw [hupdate] at hfollow
      cases hfollow
      obtain ⟨read, secret, hnext, hmoved⟩ := Protector.updateReadKeys_frame hupdate
      refine invariant_receive hrole hfollowed ?_
      subst hnext hmoved
      refine hpeer.congr_sender rfl rfl rfl ?_
      rw [hpeerRole, Protector.peer_peer]
      exact HkdfSchedule.shares_withTrafficSecret _ _ _

theorem invariant_fresh {client server : Endpoint}
    (hclient : client.protector.params.role = .client)
    (hpeers : Protector.Peers client.protector server.protector)
    (hconfig : server.protector.config = client.protector.config)
    (hsuite : client.protector.params.suite ∈ CipherSuite.catalog)
    (hagrees : client.schedule.Agrees server.schedule)
    (htoServer : Protector.KeyedPair client.protector server.protector)
    (htoClient : Protector.KeyedPair server.protector client.protector) :
    Invariant (fresh client server) := by
  have hserverSuite : server.protector.params.suite ∈ CipherSuite.catalog := by
    rw [hpeers.suite]
    exact hsuite
  refine invariant_of_both .client hclient ?_ ?_
  · exact .of_keyedPair hpeers hconfig hsuite (hagrees.shares _) htoServer
  · exact .of_keyedPair hpeers.symm hconfig.symm hserverSuite (hagrees.symm.shares _) htoClient

theorem invariant_of_reached {connection : Connection} (hreached : Reached connection) :
    Invariant connection := by
  induction hreached with
  | @keyBlock version suite config block client server schedule hsuite hclient hserver =>
      have hpeers : Protector.Peers (Protector.create ⟨version, .client, suite⟩ config)
          (Protector.create ⟨version, .server, suite⟩ config) :=
        ⟨rfl, rfl, rfl⟩
      have hclientParams := Protector.params_of_installKeyBlock hclient
      have hserverParams := Protector.params_of_installKeyBlock hserver
      refine invariant_fresh (by rw [hclientParams]; rfl) (hpeers.congr hclientParams hserverParams)
        ?_ (by rw [hclientParams]; exact hsuite) ⟨rfl, rfl, rfl, rfl⟩
        (Protector.keyedPair_of_installKeyBlock hpeers rfl hclient hserver)
        (Protector.keyedPair_of_installKeyBlock hpeers.symm rfl hserver hclient)
      rw [Protector.config_of_installKeyBlock hserver, Protector.config_of_installKeyBlock hclient]
      rfl
  | @trafficSecrets version suite config clientSchedule serverSchedule stage client server hsuite
      hagrees hclient hserver =>
      have hpeers : Protector.Peers (Protector.create ⟨version, .client, suite⟩ config)
          (Protector.create ⟨version, .server, suite⟩ config) :=
        ⟨rfl, rfl, rfl⟩
      have hclientParams := Protector.params_of_installTrafficSecrets hclient
      have hserverParams := Protector.params_of_installTrafficSecrets hserver
      refine invariant_fresh (by rw [hclientParams]; rfl) (hpeers.congr hclientParams hserverParams)
        ?_ (by rw [hclientParams]; exact hsuite) hagrees
        (Protector.keyedPair_of_installTrafficSecrets hpeers hagrees hclient hserver)
        (Protector.keyedPair_of_installTrafficSecrets hpeers.symm hagrees.symm hserver hclient)
      rw [Protector.config_of_installTrafficSecrets hserver,
        Protector.config_of_installTrafficSecrets hclient]
      rfl
  | step _ hstep ih => exact invariant_step ih hstep

/-- In every run, the receiver of a direction can follow the key update that comes next. -/
theorem updateReadKeys_next {connection : Connection} (hreached : Reached connection) {role : Role}
    {items : List Item} (hsent : connection.sent role = .keyUpdate :: items) :
    ((connection.ends role.peer).protector.updateReadKeys
      (connection.ends role.peer).schedule).1 = .ok () := by
  obtain ⟨-, hcoupled⟩ := invariant_of_reached hreached role
  rw [hsent] at hcoupled
  obtain ⟨next, moved, hupdate, -⟩ := hcoupled.follow
  rw [hupdate]

/-! ### Runs -/

/-- What can happen next: an end sends, or its peer receives the item that comes next. -/
inductive Action where
  | protect (role : Role) (type : ContentType) (plaintext : Bytes) (random : RandomSource)
  | updateKeys (role : Role)
  | receive (role : Role)

def perform (connection : Connection) : Action → Option Connection
  | .protect role type plaintext random =>
      match (connection.ends role).protector.protect type plaintext random with
      | (.ok record, next, _) =>
          some (connection.send role { connection.ends role with protector := next }
            (.record type plaintext record))
      | (.error _, _, _) => none
  | .updateKeys role =>
      match (connection.ends role).protector.updateWriteKeys (connection.ends role).schedule with
      | (.ok (), next, moved) => some (connection.send role ⟨next, moved⟩ .keyUpdate)
      | (.error _, _, _) => none
  | .receive role =>
      let { protector, schedule } := connection.ends role.peer
      match connection.sent role with
      | [] => none
      | .record _ _ record :: items =>
          some (connection.receive role
            ⟨(protector.unprotect record.type record.fragment).2, schedule⟩ items
            (connection.refused role
              || decide (protector.fragmentLimit < record.fragment.length)))
      | .keyUpdate :: items =>
          let (_, next, moved) := protector.updateReadKeys schedule
          some (connection.receive role ⟨next, moved⟩ items false)

def run (connection : Connection) (actions : List Action) : Option Connection :=
  actions.foldlM perform connection

theorem step_of_perform {connection next : Connection} {action : Action}
    (hperform : connection.perform action = some next) : Step connection next := by
  cases action with
  | protect role type plaintext random =>
      rw [perform] at hperform
      split at hperform
      · rename_i record sender rest hprotect
        cases hperform
        exact .protect hprotect
      · cases hperform
  | updateKeys role =>
      rw [perform] at hperform
      split at hperform
      · rename_i sender moved hupdate
        cases hperform
        exact .updateKeys hupdate
      · cases hperform
  | receive role =>
      simp only [perform] at hperform
      split at hperform
      · cases hperform
      · rename_i hsent
        cases hperform
        exact .deliver hsent rfl
      · rename_i hsent
        cases hperform
        exact .follow hsent rfl

theorem reached_run {connection next : Connection} {actions : List Action}
    (hreached : Reached connection) (hrun : connection.run actions = some next) : Reached next := by
  induction actions generalizing connection with
  | nil =>
      cases hrun
      exact hreached
  | cons action actions ih =>
      obtain ⟨middle, hperform, hrest⟩ := Option.bind_eq_some_iff.mp hrun
      exact ih (hreached.step (step_of_perform hperform)) hrest

/-- Whatever is observed at the end of a run is observed of a connection that is reached. -/
theorem exists_of_run {α : Type} {connection : Connection} {actions : List Action}
    {observe : Connection → α} {observed : α} (hreached : Reached connection)
    (hrun : (connection.run actions).map observe = some observed) :
    ∃ last, Reached last ∧ connection.run actions = some last ∧ observe last = observed := by
  obtain ⟨last, hlast, hobserved⟩ := Option.map_eq_some_iff.mp hrun
  exact ⟨last, reached_run hreached hlast, hlast, hobserved⟩

/-! ### Records that come next -/

/-- The record that an end has to receive next: what was protected in it, and what was sent. -/
def front (connection : Connection) (role : Role) :
    Option (ContentType × Bytes × ProtectedRecord) :=
  match connection.sent role with
  | .record type plaintext record :: _ => some (type, plaintext, record)
  | _ => none

theorem front_eq_some_iff {connection : Connection} {role : Role} {type : ContentType}
    {plaintext : Bytes} {record : ProtectedRecord} :
    connection.front role = some (type, plaintext, record)
      ↔ ∃ items, connection.sent role = .record type plaintext record :: items := by
  unfold front
  split
  · rename_i other content sent items hsent
    simp [hsent]
  · rename_i hother
    constructor
    · nofun
    · rintro ⟨items, hsent⟩
      exact absurd hsent (hother type plaintext record items)

/-! ### Ends under a secret of zeros -/

def chaChaSuite : CipherSuite :=
  CipherSuite.aead13 0x1303 "TLS_CHACHA20_POLY1305_SHA256" .chacha20 32 .chaCha20Poly1305 12 16
    .sha256

def zeroSecret : Secret := Secret.ofBytes "application traffic secret" (Bytes.zeros 32)

/-- A schedule that holds traffic secrets of zeros for both ends. -/
def zeroSchedule : HkdfSchedule where
  version := .tls13
  suite := chaChaSuite
  early := zeroSecret
  handshake := none
  master := none
  handshakeTraffic := .empty
  applicationTraffic := ⟨some zeroSecret, some zeroSecret⟩
  exporter := none
  resumption := none

def zeroScheduleKey : Bytes := [
    10, 194, 8, 67, 59, 0, 124, 197, 55, 96, 200, 194, 235, 160, 156, 66, 241, 234, 179, 57, 13,
    208, 16, 168, 148, 85, 78, 229, 148, 240, 215, 198]

def zeroScheduleIV : Bytes := [63, 34, 251, 182, 28, 20, 18, 230, 146, 152, 109, 100]

def zeroScheduleKeys : TrafficKeys where
  macKey := Secret.ofBytes "mac key" []
  key := Secret.ofBytes "traffic key" zeroScheduleKey
  iv := Secret.ofBytes "traffic iv" zeroScheduleIV

theorem trafficKeys_zeroSchedule : zeroSchedule.trafficKeys zeroSecret = .ok zeroScheduleKeys := by
  decide +kernel

def zeroScheduleMode : CipherMode where
  kind := .chaCha20Poly1305
  transform := .aead ⟨chaCha20Poly1305 zeroScheduleKey, .masked zeroScheduleIV⟩
  auth := .withoutMac .tls13

theorem cipherMode_zeroScheduleKeys (forEncryption : Bool) :
    zeroScheduleKeys.cipherMode chaChaSuite .tls13 forEncryption = .ok zeroScheduleMode := by
  cases forEncryption <;> rfl

/-- An end of version 1.3 with traffic keys from a secret of zeros in both directions. -/
def zeroScheduleEnd (config : Config) (role : Role) : Protector where
  params := ⟨.tls13, role, chaChaSuite⟩
  config := config
  write := Direction.install zeroScheduleMode 3
  read := Direction.install zeroScheduleMode 3

theorem installTrafficSecrets_zeroSchedule (config : Config) (role : Role) :
    (Protector.create ⟨.tls13, role, chaChaSuite⟩ config).installTrafficSecrets
      zeroSchedule .application = (.ok (), zeroScheduleEnd config role) := by
  have hsecret (role : Role) :
      zeroSchedule.trafficSecret role .application = .ok zeroSecret := by
    cases role <;> rfl
  have hkeys := cipherMode_zeroScheduleKeys
  simp only [Protector.installTrafficSecrets, Protector.stageModes, Protector.create, hsecret,
    trafficKeys_zeroSchedule, hkeys, bind, Except.bind, pure, Except.pure]
  rfl

def zeroScheduleEnds (config : Config) : Connection :=
  fresh ⟨zeroScheduleEnd config .client, zeroSchedule⟩
    ⟨zeroScheduleEnd config .server, zeroSchedule⟩

theorem reached_zeroScheduleEnds (config : Config) : Reached (zeroScheduleEnds config) := by
  have hsuite : chaChaSuite ∈ CipherSuite.catalog := by
    decide
  exact .trafficSecrets hsuite ⟨rfl, rfl, rfl, rfl⟩
    (installTrafficSecrets_zeroSchedule config .client)
    (installTrafficSecrets_zeroSchedule config .server)

def zeroRandom : RandomSource := ⟨fun _ => 0, 0⟩

/-- Settings that allow just as much padding as version 1.3 expects. -/
def fullConfig : Config := { maxRecordSize := 241, tls13Padding := 239 }

/-- Settings that allow one byte more. -/
def paddedConfig : Config := { maxRecordSize := 241, tls13Padding := 240 }

/-- Whatever has happened, every record that is to come fits where the padding does, and then none
has been refused.  The receiver of a direction that has refused no record under the current keys
reads the next one exactly as it was protected, if the record fits.  It can always follow a key
update that comes next, and reads on from there. -/
theorem unprotect_next {connection : Connection} (hreached : Reached connection) (role : Role) :
    (¬ (connection.ends role).protector.config.PadsBeyondLimit
          (connection.ends role).protector.params →
        connection.refused role = false
          ∧ ∀ item ∈ connection.sent role,
            item.Fits (connection.ends role.peer).protector.fragmentLimit)
      ∧ (∀ type plaintext record items,
        connection.sent role = .record type plaintext record :: items →
        connection.refused role = false →
        record.fragment.length ≤ (connection.ends role.peer).protector.fragmentLimit →
        ((connection.ends role.peer).protector.unprotect record.type record.fragment).1
          = .ok (type, plaintext))
      ∧ ∀ items, connection.sent role = .keyUpdate :: items →
        ((connection.ends role.peer).protector.updateReadKeys
          (connection.ends role.peer).schedule).1 = .ok () := by
  obtain ⟨-, hcoupled⟩ := invariant_of_reached hreached role
  refine ⟨fun hpads => ⟨?_, hcoupled.fits hpads⟩, ?_, ?_⟩
  · cases hvalue : connection.refused role with
    | false => rfl
    | true => exact absurd (hcoupled.pads hvalue) hpads
  · intro type plaintext record items hsent hrefused hshort
    rw [hsent, hrefused] at hcoupled
    exact hcoupled.unprotect_eq_ok hshort
  · intro items hsent
    exact updateReadKeys_next hreached hsent

/-- Records that take all the size there is, and others, with a key update between them. -/
def updatingActions : List Action := [
  .protect .client .applicationData (List.replicate 241 0x61) zeroRandom,
  .protect .server .handshake [1, 2, 3] zeroRandom,
  .receive .client,
  .protect .client .applicationData [4, 5] zeroRandom,
  .updateKeys .client,
  .protect .client .alert [2, 40] zeroRandom,
  .receive .client,
  .receive .client]

/-- The first record fits under one of the settings and is refused under the other.  The record
after the key update is read in any case. -/
theorem zeroScheduleEnds_read_after_update :
    (∃ connection record, (zeroScheduleEnds fullConfig).run updatingActions = some connection
        ∧ connection.front .client = some (.alert, [2, 40], record)
        ∧ ((connection.ends .server).protector.unprotect record.type record.fragment).1
          = .ok (.alert, [2, 40]))
      ∧ ∃ connection record, (zeroScheduleEnds paddedConfig).run updatingActions = some connection
        ∧ connection.front .client = some (.alert, [2, 40], record)
        ∧ ((connection.ends .server).protector.unprotect record.type record.fragment).1
          = .ok (.alert, [2, 40]) := by
  constructor
  · have hrun : ((zeroScheduleEnds fullConfig).run updatingActions).map (fun connection =>
        (decide ((connection.ends .client).protector.config.PadsBeyondLimit
          (connection.ends .client).protector.params),
        (connection.front .client).map fun next => (next.1, next.2.1)))
        = some (false, some (.alert, [2, 40])) := by
      decide +kernel
    obtain ⟨connection, hreached, hrun, hobserved⟩ :=
      exists_of_run (reached_zeroScheduleEnds _) hrun
    obtain ⟨hpads, hfront⟩ := Prod.mk.inj hobserved
    obtain ⟨⟨type, plaintext, record⟩, hfront, hcontent⟩ := Option.map_eq_some_iff.mp hfront
    obtain ⟨rfl, rfl⟩ := Prod.mk.inj hcontent
    obtain ⟨items, hsent⟩ := front_eq_some_iff.mp hfront
    obtain ⟨hfits, hreads, -⟩ := unprotect_next hreached .client
    obtain ⟨hrefused, hshort⟩ := hfits (of_decide_eq_false hpads)
    rw [hsent] at hshort
    exact ⟨connection, record, hrun, hfront,
      hreads _ _ _ _ hsent hrefused (hshort _ List.mem_cons_self)⟩
  · have hrun : ((zeroScheduleEnds paddedConfig).run updatingActions).map (fun connection =>
        (connection.refused .client, (connection.front .client).map fun next =>
          (next.1, next.2.1, decide (next.2.2.fragment.length
            ≤ (connection.ends .server).protector.fragmentLimit))))
        = some (false, some (.alert, [2, 40], true)) := by
      decide +kernel
    obtain ⟨connection, hreached, hrun, hobserved⟩ :=
      exists_of_run (reached_zeroScheduleEnds _) hrun
    obtain ⟨hrefused, hfront⟩ := Prod.mk.inj hobserved
    obtain ⟨⟨type, plaintext, record⟩, hfront, hcontent⟩ := Option.map_eq_some_iff.mp hfront
    obtain ⟨rfl, hcontent⟩ := Prod.mk.inj hcontent
    obtain ⟨rfl, hshort⟩ := Prod.mk.inj hcontent
    obtain ⟨items, hsent⟩ := front_eq_some_iff.mp hfront
    exact ⟨connection, record, hrun, hfront, (unprotect_next hreached .client).2.1 _ _ _ _ hsent
      hrefused (of_decide_eq_true hshort)⟩

/-- The second record comes behind one that is too long. -/
def refusedActions : List Action := [
  .protect .client .applicationData (Bytes.zeros 241) zeroRandom,
  .protect .client .applicationData [] zeroRandom,
  .receive .client]

/-- Not all records that are not too long are read: one that follows a longer one is not. -/
theorem not_forall_unprotect_next :
    ¬ ∀ (connection : Connection) (role : Role) (type : ContentType) (plaintext : Bytes)
      (record : ProtectedRecord) (items : List Item), Reached connection →
      (connection.ends role).protector.config.validate
        = .ok (connection.ends role).protector.config →
      connection.sent role = .record type plaintext record :: items →
      record.fragment.length ≤ (connection.ends role.peer).protector.fragmentLimit →
      ((connection.ends role.peer).protector.unprotect record.type record.fragment).1
        = .ok (type, plaintext) := by
  intro h
  have hrun : ((zeroScheduleEnds paddedConfig).run refusedActions).map (fun connection =>
      ((connection.ends .client).protector.config, (connection.front .client).map fun next =>
        (decide (next.2.2.fragment.length ≤ (connection.ends .server).protector.fragmentLimit),
          decide (((connection.ends .server).protector.unprotect next.2.2.type
            next.2.2.fragment).1 = .error .badRecordMac))))
      = some (paddedConfig, some (true, true)) := by
    decide +kernel
  obtain ⟨connection, hreached, -, hobserved⟩ := exists_of_run (reached_zeroScheduleEnds _) hrun
  obtain ⟨hconfig, hfront⟩ := Prod.mk.inj hobserved
  obtain ⟨⟨type, plaintext, record⟩, hfront, hobserved⟩ := Option.map_eq_some_iff.mp hfront
  obtain ⟨hshort, hfailure⟩ := Prod.mk.inj hobserved
  obtain ⟨items, hsent⟩ := front_eq_some_iff.mp hfront
  have hread := h connection .client type plaintext record items hreached (by rw [hconfig]; rfl)
    hsent (of_decide_eq_true hshort)
  rw [show ((connection.ends Role.client.peer).protector.unprotect record.type record.fragment).1
    = .error .badRecordMac from of_decide_eq_true hfailure] at hread
  cases hread

end Connection

end RecordProtection
