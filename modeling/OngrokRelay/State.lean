import OngrokRelay.Store

/-
  The server's in-memory state and the ownership of client sessions (`state.rs`).

  `AppState` holds what the mutexes guard and the store; what never changes
  while the server runs is in `RelayConfig`, with the token hash (BLAKE3) as a
  parameter. A listener of the task map is represented by its port. `closed`
  lists the connections the server has itself closed.

  Everything a section of the code asks of its surroundings (the next frame, the
  clock, fresh event ids, whether a write, a bind or a store call succeeds) is
  read from an `Env`, so that a result about every `Env` is a result about
  every behaviour of them.
-/

namespace OngrokRelay

structure RelayConfig where
  publicHost : String
  httpDomain : Option String
  tcpPortStart : UInt16
  tcpPortEnd : UInt16
  hashToken : String → TokenHash

/-- A handle to a client's connection, numbered. -/
inductive ClientSession
  | quic (connection : Nat)
  | yamux (session : Nat)
  deriving DecidableEq

structure ActiveSession where
  id : TunnelId
  tokenKind : TokenKind
  connection : ClientSession
  deriving DecidableEq

structure AppState where
  tokens : TokenState
  services : BTreeMap ServiceId ServiceDefinition := ∅
  nodes : BTreeMap NodeId NodeRecord := ∅
  sessions : BTreeMap NodeId ActiveSession := ∅
  tcpIngressTasks : BTreeMap ServiceId UInt16 := ∅
  store : ServiceStore := {}
  closed : List ClientSession := []
  deriving DecidableEq

/-- The id and clock reading one `record_event` draws, and what its store call
comes to. -/
structure EventStamp where
  eventId : EventId
  occurredAtUnixMs : Int64
  put : Outcome

structure Env where
  input : Except String Frame := .error "failed to read control frame length"
  write : Outcome := .ok ()
  now : Int64 := 0
  replyTime : Int64 := 0
  event : Option NodeId → EventStamp := fun _ => ⟨⟨0#128⟩, 0, .ok ()⟩
  put : Outcome := .ok ()
  delete : Outcome := .ok ()
  putNode : NodeId → Outcome := fun _ => .ok ()
  putMetric : Outcome := .ok ()
  putTokens : Outcome := .ok ()
  bind : UInt16 → Outcome := fun _ => .ok ()

def authenticateToken (cfg : RelayConfig) (st : AppState) (token : String) : Option TokenKind :=
  st.tokens.authenticate (cfg.hashToken token)

def ClientSession.close (connection : ClientSession) (st : AppState) : AppState :=
  { st with closed := connection :: st.closed }

/-- The locked section of `activate_session`: the new state and the entry it
displaced. -/
def insertSession (nodeId : NodeId) (session : ActiveSession) (st : AppState) :
    AppState × Option ActiveSession :=
  ({ st with sessions := st.sessions.insert nodeId session }, st.sessions[nodeId]?)

/-- The displaced session's connection is closed, if one was displaced. -/
def closeReplaced (replaced : Option ActiveSession) (st : AppState) : AppState :=
  match replaced with
  | some previous => previous.connection.close st
  | none => st

def activateSession (nodeId : NodeId) (sessionId : TunnelId) (tokenKind : TokenKind)
    (connection : ClientSession) (st : AppState) : AppState :=
  let (st, replaced) := insertSession nodeId ⟨sessionId, tokenKind, connection⟩ st
  closeReplaced replaced st

/-- Reject an impostor while allowing persisted records created before node keys existed. -/
def validateNodeIdentity (nodes : BTreeMap NodeId NodeRecord) (nodeId : NodeId)
    (publicKey : PublicKey) : Outcome :=
  match nodes[nodeId]?.bind NodeRecord.publicKey with
  | some existingKey =>
    if existingKey = publicKey then .ok ()
    else .error "node public key does not match persisted identity"
  | none => .ok ()

/-- A failure to persist the event is logged and otherwise ignored. -/
def recordEvent (env : Env) (kind : EventKind) (nodeId : Option NodeId)
    (serviceId : Option ServiceId) (tokenKind : Option TokenKind) (st : AppState) : AppState :=
  let stamp := env.event nodeId
  let event : ControlEvent :=
    ⟨stamp.eventId, stamp.occurredAtUnixMs, kind, nodeId, serviceId, tokenKind⟩
  { st with store := commit stamp.put (ServiceStore.putEvent event) st.store }

/-! ## What the sections leave alone -/

section
variable (env : Env) (kind : EventKind) (nodeId : Option NodeId) (serviceId : Option ServiceId)
  (tokenKind : Option TokenKind) (st : AppState)

@[simp] theorem recordEvent_tokens :
    (recordEvent env kind nodeId serviceId tokenKind st).tokens = st.tokens := rfl
@[simp] theorem recordEvent_services :
    (recordEvent env kind nodeId serviceId tokenKind st).services = st.services := rfl
@[simp] theorem recordEvent_nodes :
    (recordEvent env kind nodeId serviceId tokenKind st).nodes = st.nodes := rfl
@[simp] theorem recordEvent_sessions :
    (recordEvent env kind nodeId serviceId tokenKind st).sessions = st.sessions := rfl
@[simp] theorem recordEvent_tasks :
    (recordEvent env kind nodeId serviceId tokenKind st).tcpIngressTasks = st.tcpIngressTasks := rfl

/-- Recording an event changes the event table and nothing else. -/
theorem recordEvent_eq : ∃ events, recordEvent env kind nodeId serviceId tokenKind st =
    { st with store := { st.store with events } } := by
  cases h : (env.event nodeId).put with
  | ok _ => simp only [recordEvent, h, commit]; exact ⟨_, rfl⟩
  | error e => simp only [recordEvent, h, commit]; exact ⟨st.store.events, rfl⟩

@[simp] theorem recordEvent_store_services :
    (recordEvent env kind nodeId serviceId tokenKind st).store.services = st.store.services := by
  obtain ⟨events, h⟩ := recordEvent_eq env kind nodeId serviceId tokenKind st
  rw [h]

@[simp] theorem recordEvent_store_nodes :
    (recordEvent env kind nodeId serviceId tokenKind st).store.nodes = st.store.nodes := by
  obtain ⟨events, h⟩ := recordEvent_eq env kind nodeId serviceId tokenKind st
  rw [h]

@[simp] theorem recordEvent_store_metrics :
    (recordEvent env kind nodeId serviceId tokenKind st).store.metrics = st.store.metrics := by
  obtain ⟨events, h⟩ := recordEvent_eq env kind nodeId serviceId tokenKind st
  rw [h]

@[simp] theorem recordEvent_store_tokens :
    (recordEvent env kind nodeId serviceId tokenKind st).store.tokens = st.store.tokens := by
  obtain ⟨events, h⟩ := recordEvent_eq env kind nodeId serviceId tokenKind st
  rw [h]

end

section
variable (replaced : Option ActiveSession) (st : AppState)

@[simp] theorem closeReplaced_sessions : (closeReplaced replaced st).sessions = st.sessions := by
  cases replaced <;> rfl
@[simp] theorem closeReplaced_services : (closeReplaced replaced st).services = st.services := by
  cases replaced <;> rfl
@[simp] theorem closeReplaced_nodes : (closeReplaced replaced st).nodes = st.nodes := by
  cases replaced <;> rfl
@[simp] theorem closeReplaced_tokens : (closeReplaced replaced st).tokens = st.tokens := by
  cases replaced <;> rfl
@[simp] theorem closeReplaced_store : (closeReplaced replaced st).store = st.store := by
  cases replaced <;> rfl
@[simp] theorem closeReplaced_tasks :
    (closeReplaced replaced st).tcpIngressTasks = st.tcpIngressTasks := by
  cases replaced <;> rfl

end

end OngrokRelay
