import OngrokRelay.Domain
import OngrokRelay.Transition

/-
  The client's connection: `run_quic` under its timer and the fallback to
  TCP/TLS Yamux (`main.rs` of the client).

  `run_once_with_fallback` wraps the whole of `run_quic` in one 5-second timer. A
  session's control point is the await `run_quic` is suspended at, so an event
  either completes that await or is the timer. `run_yamux` is represented by its
  start and its result.

  1. `acked_registered`: a session whose heartbeat was acknowledged has sent its
     RegisterNode, and is past connecting.
  2. `timer_step`: wherever the session is, the timer drops it and starts the
     fallback.
  3. `timer_harmless_iff`: so the timer is harmless in a run exactly when it fires
     only while the connection is being established.
  4. `timer_drops_session`: it fires after an acknowledged heartbeat as well.

  Correspondence (Rust ↔ Lean):
    `heartbeat_snapshot`         ↔ `heartbeatSnapshot`
    the awaits of `run_quic`     ↔ `QuicPc`
    `run_quic`                   ↔ `QuicSession.completes`, `QuicSession.reads`
    `run_once_with_fallback`     ↔ `Client.step`
-/

namespace OngrokRelay

open Transition

/-- What the machine says when a heartbeat is made: the clock, and what `sysinfo` has
refreshed. The share of the memory that is used comes as the float it is rounded to. -/
structure Measurements where
  nowUnixMs : Int64 := 0
  globalCpuUsage : UInt32 := 0
  totalMemory : UInt64 := 0
  usedPercent : UInt32 := 0
  loadAverageOne : UInt32 := 0
  totalReceived : List UInt64 := []
  totalTransmitted : List UInt64 := []

def heartbeatSnapshot (sequence : UInt64) (system : Measurements) : HeartbeatSnapshot where
  sequence := sequence
  sentAtUnixMs := system.nowUnixMs
  cpuPercent := some system.globalCpuUsage
  memoryPercent := if 0 < system.totalMemory then some system.usedPercent else none
  loadAverage := some system.loadAverageOne
  networkRxBytes := some (system.totalReceived.foldl (· + ·) 0)
  networkTxBytes := some (system.totalTransmitted.foldl (· + ·) 0)

structure ClientConfig where
  token : String
  nodeId : NodeId
  metadata : NodeMetadata
  publicKey : PublicKey
  service : Option ServiceDefinition
  once : Bool
  /-- What is measured for the heartbeat of a number. -/
  measures : UInt64 → Measurements

def ClientConfig.snapshot (cfg : ClientConfig) (sequence : UInt64) : HeartbeatSnapshot :=
  heartbeatSnapshot sequence (cfg.measures sequence)

/-- A heartbeat carries its number. -/
@[simp] theorem ClientConfig.snapshot_sequence (cfg : ClientConfig) (sequence : UInt64) :
    (cfg.snapshot sequence).sequence = sequence := rfl

/-- The await `run_quic` is suspended at. -/
inductive QuicPc
  | connect
  | openStream
  | sendHello
  | readHello
  | sendAuth
  | readAuth
  | sendNode
  | sendService (service : ServiceDefinition)
  | readService
  | storeService
  | sendHeartbeat (sequence : UInt64)
  | readAck (sequence : UInt64)
  | sendGoodbye
  | sleep (sequence : UInt64)
  | join
  deriving DecidableEq

structure QuicSession where
  pc : QuicPc
  sent : List Frame := []
  acks : Nat := 0
  deriving DecidableEq

/-- `run_quic` after an await: suspended at the next one, or returned. -/
inductive Poll
  | pending (session : QuicSession)
  | ready (result : Except String Unit)
  deriving DecidableEq

namespace QuicSession

/-- The frame is written, and `run_quic` suspends at the next await. -/
def wrote (s : QuicSession) (frame : Frame) (pc : QuicPc) : Poll :=
  .pending { s with sent := s.sent ++ [frame], pc }

def goto (s : QuicSession) (pc : QuicPc) : Poll := .pending { s with pc }

/-- An await other than a read completes. -/
def completed (cfg : ClientConfig) (s : QuicSession) : Poll :=
  match s.pc with
  | .connect => s.goto .openStream
  | .openStream => s.goto .sendHello
  | .sendHello => s.wrote (.hello protocolVersion) .readHello
  | .sendAuth => s.wrote (.auth cfg.token cfg.nodeId) .readAuth
  | .sendNode =>
    s.wrote (.registerNode cfg.metadata cfg.publicKey)
      (match cfg.service with
        | some service => .sendService service
        | none => .sendHeartbeat 1)
  | .sendService service => s.wrote (.registerService service) .readService
  | .storeService => s.goto (.sendHeartbeat 1)
  | .sendHeartbeat sequence => s.wrote (.heartbeat (cfg.snapshot sequence)) (.readAck sequence)
  | .sendGoodbye => s.wrote .goodbye .join
  | .sleep sequence => s.goto (.sendHeartbeat (sequence + 1))
  | .join => .ready (.ok ())
  | .readHello | .readAuth | .readService | .readAck _ => .pending s

/-- The locks, the sleep and the join of the data task cannot fail `run_quic`. -/
def completes (cfg : ClientConfig) (s : QuicSession) (result : Except String Unit) : Poll :=
  match result, s.pc with
  | .ok _, _ => s.completed cfg
  | .error _, .storeService | .error _, .sleep _ | .error _, .join => s.completed cfg
  | .error _, .readHello | .error _, .readAuth | .error _, .readService
  | .error _, .readAck _ => .pending s
  | .error e, _ => .ready (.error e)

/-- A read completes with a frame. -/
def received (cfg : ClientConfig) (s : QuicSession) (frame : Frame) : Poll :=
  match s.pc, frame with
  | .readHello, .hello version =>
    if version = protocolVersion then s.goto .sendAuth
    else .ready (.error "server sent an invalid Hello response")
  | .readHello, .error message => .ready (.error s!"server rejected protocol: {message}")
  | .readHello, _ => .ready (.error "server sent an invalid Hello response")
  | .readAuth, .authAccepted _ => s.goto .sendNode
  | .readAuth, .authRejected => .ready (.error "server rejected token")
  | .readAuth, _ => .ready (.error "server sent an invalid auth response")
  | .readService, .registerServiceAccepted _ => s.goto .storeService
  | .readService, .error message => .ready (.error s!"server rejected service: {message}")
  | .readService, _ => .ready (.error "server sent an invalid service registration response")
  | .readAck sequence, .heartbeatAck ack _ =>
    if ack = sequence then
      .pending { s with
        acks := s.acks + 1
        pc := if cfg.once then .sendGoodbye else .sleep sequence }
    else .ready (.error "server sent an invalid heartbeat acknowledgement")
  | .readAck _, _ => .ready (.error "server sent an invalid heartbeat acknowledgement")
  | _, _ => .pending s

def reads (cfg : ClientConfig) (s : QuicSession) (input : Except String Frame) : Poll :=
  match input, s.pc with
  | .ok frame, _ => s.received cfg frame
  | .error e, .readHello | .error e, .readAuth | .error e, .readService
  | .error e, .readAck _ => .ready (.error e)
  | .error _, _ => .pending s

end QuicSession

/-- `run_once_with_fallback`: inside the timer, in the fallback, or returned. -/
inductive Client
  | quic (session : QuicSession)
  | yamux
  | returned (result : Except String Unit)
  deriving DecidableEq

inductive ClientEvent
  | completes (result : Except String Unit)
  | reads (input : Except String Frame)
  | timer
  deriving DecidableEq

/-- What the wrapped future comes to: an error starts the fallback as well. -/
def Poll.resolve : Poll → Client
  | pending session => .quic session
  | ready (.ok _) => .returned (.ok ())
  | ready (.error _) => .yamux

namespace Client

def start : Client := .quic { pc := .connect }

def step (cfg : ClientConfig) : Client → ClientEvent → Client
  -- the future is dropped at whatever await it is suspended at
  | quic _, .timer => .yamux
  | quic session, .completes result => (session.completes cfg result).resolve
  | quic session, .reads input => (session.reads cfg input).resolve
  | yamux, .completes result => .returned result
  | client, _ => client

/-- `run_quic` has registered its node and accepted a HeartbeatAck. -/
def Established (cfg : ClientConfig) : Client → Prop
  | quic session =>
    .registerNode cfg.metadata cfg.publicKey ∈ session.sent ∧ 0 < session.acks
  | _ => False

instance (cfg : ClientConfig) : ∀ client : Client, Decidable (client.Established cfg)
  | quic session => inferInstanceAs (Decidable
      (.registerNode cfg.metadata cfg.publicKey ∈ session.sent ∧ 0 < session.acks))
  | yamux => inferInstanceAs (Decidable False)
  | returned _ => inferInstanceAs (Decidable False)

/-- The QUIC connection is still being established. -/
def Connecting : Client → Prop
  | quic session => session.pc = .connect
  | _ => False

/-- `run_quic` is running, under the timer. -/
def InSession : Client → Prop
  | quic _ => True
  | _ => False

end Client

/-- What the event does is harmless if it is the timer: an established session
goes on, and the fallback starts only while connecting. -/
def TimerHarmless (cfg : ClientConfig) (client : Client) (event : ClientEvent) : Prop :=
  event = .timer →
    (client.Established cfg → client.step cfg event = client) ∧
    (client ≠ .yamux → client.step cfg event = .yamux → client.Connecting)

/-- The timer fires on a session only while it connects. -/
def TimerWhileConnecting (client : Client) (event : ClientEvent) : Prop :=
  event = .timer → client.InSession → client.Connecting

/-! ## What an acknowledged session has done -/

/-- The await comes after the write of RegisterNode. -/
def QuicPc.afterRegister : QuicPc → Bool
  | .connect | .openStream | .sendHello | .readHello | .sendAuth | .readAuth | .sendNode => false
  | _ => true

/-- Past its write RegisterNode is sent, and before it nothing is acknowledged. -/
def SessionInv (cfg : ClientConfig) (s : QuicSession) : Prop :=
  (s.pc.afterRegister = true → .registerNode cfg.metadata cfg.publicKey ∈ s.sent) ∧
  (0 < s.acks → s.pc.afterRegister = true)

def ClientInv (cfg : ClientConfig) : Client → Prop
  | .quic session => SessionInv cfg session
  | _ => True

theorem clientInv_resolve {cfg : ClientConfig} {poll : Poll}
    (h : ∀ session, poll = .pending session → SessionInv cfg session) :
    ClientInv cfg poll.resolve := by
  cases poll with
  | pending session => exact h session rfl
  | ready result => cases result <;> trivial

section
variable {cfg : ClientConfig} {s : QuicSession}

/-- An await that writes nothing leads past RegisterNode only from past it. -/
theorem SessionInv.goto (h : SessionInv cfg s) {pc : QuicPc}
    (hpc : pc.afterRegister = s.pc.afterRegister) :
    ∀ session, s.goto pc = .pending session → SessionInv cfg session := by
  intro session hpoll
  cases hpoll
  exact ⟨fun hp => h.1 (hpc ▸ hp), fun ha => hpc.trans (h.2 ha)⟩

/-- A write leads past RegisterNode from past it, or is the write of RegisterNode. -/
theorem SessionInv.wrote (h : SessionInv cfg s) {frame : Frame} {pc : QuicPc}
    (hpc : pc.afterRegister = s.pc.afterRegister ∨
      pc.afterRegister = true ∧ frame = .registerNode cfg.metadata cfg.publicKey) :
    ∀ session, s.wrote frame pc = .pending session → SessionInv cfg session := by
  intro session hpoll
  cases hpoll
  rcases hpc with hpc | ⟨hpc, rfl⟩
  · exact ⟨fun hp => List.mem_append_left _ (h.1 (hpc ▸ hp)), fun ha => hpc.trans (h.2 ha)⟩
  · exact ⟨fun _ => List.mem_append_right _ (List.mem_singleton.mpr rfl), fun _ => hpc⟩

theorem SessionInv.completed (h : SessionInv cfg s) :
    ∀ session, s.completed cfg = .pending session → SessionInv cfg session := by
  unfold QuicSession.completed
  cases hpc : s.pc with
  | connect | openStream | storeService | sleep sequence =>
    exact h.goto (by rw [hpc]; rfl)
  | sendHello | sendAuth | sendService service | sendHeartbeat sequence | sendGoodbye =>
    exact h.wrote (.inl (by rw [hpc]; rfl))
  | sendNode =>
    -- the write of RegisterNode itself, with or without a service to publish after it
    refine h.wrote (.inr ⟨?_, rfl⟩)
    cases cfg.service <;> rfl
  | join =>
    intro session hpoll
    cases hpoll
  | readHello | readAuth | readService | readAck sequence =>
    intro session hpoll
    cases hpoll
    exact h

theorem SessionInv.completes (h : SessionInv cfg s) (result : Except String Unit) :
    ∀ session, s.completes cfg result = .pending session → SessionInv cfg session := by
  cases result with
  | ok _ => exact h.completed
  | error e =>
    unfold QuicSession.completes
    cases hpc : s.pc with
    | storeService | sleep sequence | join => exact h.completed
    | readHello | readAuth | readService | readAck sequence =>
      -- some other event completes a read
      intro session hpoll
      cases hpoll
      exact h
    | connect | openStream | sendHello | sendAuth | sendNode | sendService service
    | sendHeartbeat sequence | sendGoodbye =>
      intro session hpoll
      cases hpoll

theorem SessionInv.received (h : SessionInv cfg s) (frame : Frame) :
    ∀ session, s.received cfg frame = .pending session → SessionInv cfg session := by
  unfold QuicSession.received
  cases hpc : s.pc with
  | readHello =>
    cases frame with
    | hello version =>
      simp only
      split
      · exact h.goto (by rw [hpc]; rfl)
      · intro session hpoll
        cases hpoll
    | _ =>
      intro session hpoll
      cases hpoll
  | readAuth =>
    cases frame with
    | authAccepted kind => exact h.goto (by rw [hpc]; rfl)
    | _ =>
      intro session hpoll
      cases hpoll
  | readService =>
    cases frame with
    | registerServiceAccepted service => exact h.goto (by rw [hpc]; rfl)
    | _ =>
      intro session hpoll
      cases hpoll
  | readAck sequence =>
    cases frame with
    | heartbeatAck ack time =>
      simp only
      split
      · -- the acknowledgement is read past RegisterNode
        intro session hpoll
        cases hpoll
        refine ⟨fun _ => h.1 (by rw [hpc]; rfl), fun _ => ?_⟩
        show QuicPc.afterRegister (if cfg.once then .sendGoodbye else .sleep sequence) = true
        split <;> rfl
      · intro session hpoll
        cases hpoll
    | _ =>
      intro session hpoll
      cases hpoll
  | _ =>
    intro session hpoll
    cases hpoll
    exact h

theorem SessionInv.reads (h : SessionInv cfg s) (input : Except String Frame) :
    ∀ session, s.reads cfg input = .pending session → SessionInv cfg session := by
  unfold QuicSession.reads
  split
  · exact h.received _
  iterate 4
    · intro session hpoll
      cases hpoll
  · intro session hpoll
    cases hpoll
    exact h

end

theorem clientInv_step (cfg : ClientConfig) (client : Client) (event : ClientEvent)
    (h : ClientInv cfg client) : ClientInv cfg (client.step cfg event) := by
  -- only the QUIC session has an invariant to keep
  cases client with
  | quic session =>
    cases event with
    | timer => trivial
    | completes result => exact clientInv_resolve (h.completes result)
    | reads input => exact clientInv_resolve (h.reads input)
  | yamux => cases event <;> trivial
  | returned result => cases event <;> trivial

theorem clientInv_start (cfg : ClientConfig) : ClientInv cfg Client.start :=
  ⟨fun h => (by cases h), fun h => by cases h⟩

/-- **An acknowledged session has registered its node** and is past connecting. -/
theorem acked_registered {cfg : ClientConfig} {session : QuicSession}
    (h : ClientInv cfg (.quic session)) (hacks : 0 < session.acks) :
    (Client.quic session).Established cfg ∧ ¬(Client.quic session).Connecting := by
  have hafter := h.2 hacks
  refine ⟨⟨h.1 hafter, hacks⟩, fun hconnect => ?_⟩
  have hpc : session.pc = .connect := hconnect
  rw [hpc] at hafter
  cases hafter

/-- Wherever `run_quic` is, the timer drops it and starts the fallback. -/
theorem timer_step (cfg : ClientConfig) {client : Client} (h : client.InSession) :
    client.step cfg .timer = .yamux := by
  cases client with
  | quic session => rfl
  | yamux => cases h
  | returned result => cases h

theorem timerHarmless_iff (cfg : ClientConfig) (client : Client) (event : ClientEvent)
    (h : ClientInv cfg client) :
    TimerHarmless cfg client event ↔ TimerWhileConnecting client event := by
  constructor
  · intro hharmless htimer hsession
    cases htimer
    apply (hharmless rfl).2 ?_ (timer_step cfg hsession)
    intro hyamux
    rw [hyamux] at hsession
    exact hsession
  · intro hconnecting htimer
    cases htimer
    cases client with
    | quic session =>
      have hconnect := hconnecting rfl trivial
      refine ⟨fun hestablished => ?_, fun _ _ => hconnect⟩
      exact absurd hconnect (acked_registered h hestablished.2).2
    | yamux => exact ⟨fun _ => rfl, fun hne => absurd rfl hne⟩
    | returned result => exact ⟨fun _ => rfl, fun _ h => by cases h⟩

/-- **The timer is harmless in a run** exactly when it fires on the session only
while the connection is being established. -/
theorem timer_harmless_iff (cfg : ClientConfig) (events : List ClientEvent) :
    EveryStep (Client.step cfg) (TimerHarmless cfg) Client.start events ↔
      EveryStep (Client.step cfg) TimerWhileConnecting Client.start events :=
  everyStep_congr (clientInv_step cfg) (timerHarmless_iff cfg) (clientInv_start cfg) events

/-! ## A session that outlives the timer -/

namespace LongSession

def config : ClientConfig where
  token := "user"
  nodeId := ⟨7⟩
  metadata := ⟨"host", "linux", "x86_64", "0.1.0", {}⟩
  publicKey := 5
  service := none
  once := false
  measures _ := {}

/-- The session is set up, its first heartbeat is acknowledged, and the timer
fires while it sleeps until the next. -/
def events : List ClientEvent :=
  [.completes (.ok ()), .completes (.ok ()), .completes (.ok ()),
    .reads (.ok (.hello protocolVersion)), .completes (.ok ()),
    .reads (.ok (.authAccepted .user)), .completes (.ok ()), .completes (.ok ()),
    .reads (.ok (.heartbeatAck 1 0)), .timer]

end LongSession

open LongSession in
/-- **The timer ends an established session** and starts the fallback. -/
theorem timer_drops_session :
    (run (Client.step config) Client.start (events.take 9)).Established config ∧
    run (Client.step config) Client.start events = .yamux ∧
    ¬∀ (cfg : ClientConfig) (events : List ClientEvent),
      EveryStep (Client.step cfg) (TimerHarmless cfg) Client.start events := by
  refine ⟨by decide, rfl, fun h => ?_⟩
  obtain ⟨-, -, -, -, -, -, -, -, -, htimer, -⟩ := h config events
  have hconnecting := (htimer rfl).2 (by decide) rfl
  cases hconnecting

end OngrokRelay
