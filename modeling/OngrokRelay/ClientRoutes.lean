import OngrokRelay.Advertised
import OngrokRelay.ClientRetry
import OngrokRelay.DataStream

/-
  What a client connects to on behalf of its relay (`run_quic`, `run_yamux`,
  `accept_data_streams`, `accept_yamux_data_streams`, `handle_data_stream`).

  A session that has registered starts a data task: it owns the map from the
  service the server accepted to the local address, and starts a handler for
  every stream the server opens. Sessions come and go in the retry loop; a data
  task is detached when its session ends with an error, and its handlers are
  detached from the start, so any number of them run beside the session. The
  server may send any frame on any stream at any time.

  1. `DataTask.Confined`: the routes of a data task and the targets of its
     handlers are the one local address of the command line.
  2. `confined_next`, `client_confined`: every event keeps it, so whatever the
     server does the client connects to nothing else.
  3. `data_tasks_outlive`: data tasks are only ever added, and a client that
     does not run once never stops one: each accepts streams until its
     connection ends.

  Correspondence (Rust ↔ Lean):
    `local_services` and its insertion  ↔ `localServices`
    `data_task`                         ↔ `DataTask`
    `accept_data_streams`               ↔ the events `inbound` and `closed`
    `handle_data_stream`                ↔ `DataStream.handlerStep`
    `data_task.abort()`                 ↔ `stopsData`
-/

namespace OngrokRelay

open Interleaving Transition

/-- A data task: its map, whether its loop still accepts, and the streams it has
accepted. Of each stream only the handler is run. -/
structure DataTask where
  routes : BTreeMap ServiceId String
  accepting : Bool := true
  streams : List DataStream := []
  deriving DecidableEq

/-- The client with its data tasks; `accepted` is the service in the reply that
is about to be stored. -/
structure RoutedClient where
  client : RetryClient := .start
  accepted : Option ServiceId := none
  tasks : List DataTask := []
  deriving DecidableEq

inductive RouteEvent
  | client (e : ClientEvent)
  | inbound (k : Nat)
  | closed (k : Nat)
  | sends (k j : Nat) (frame : Frame)
  | handler (k j : Nat) (env : DataEnv)

/-- A stream the server has opened and not written to. -/
def inboundStream : DataStream := { tunnelId := ⟨0⟩, serviceId := ⟨0⟩ }

/-- The accepted id is inserted with the address of the command line. -/
def localServices (cfg : ClientConfig) (accepted : Option ServiceId) :
    BTreeMap ServiceId String :=
  match cfg.service, accepted with
  | some service, some serviceId =>
    (∅ : BTreeMap ServiceId String).insert serviceId service.localAddress
  | _, _ => ∅

/-- The session goes on to its heartbeats: `tokio::spawn` of the data task. -/
def spawnsData (before after : Option QuicSession) : Bool :=
  match before, after with
  | some s, some s' => (s.pc == .sendNode || s.pc == .storeService) && s'.pc == .sendHeartbeat 1
  | _, _ => false

/-- The session has said Goodbye: `data_task.abort()`. -/
def stopsData (before after : Option QuicSession) : Bool :=
  match before, after with
  | some s, some s' => s.pc == .sendGoodbye && s'.pc == .join
  | _, _ => false

def acceptedBy (before : Option QuicSession) (e : ClientEvent) (accepted : Option ServiceId) :
    Option ServiceId :=
  match before, e with
  | some s, .reads (.ok (.registerServiceAccepted service)) =>
    if s.pc = .readService then some service.serviceId else accepted
  | _, _ => accepted

namespace RoutedClient

def clientStep (cfg : ClientConfig) (c : RoutedClient) (e : ClientEvent) : RoutedClient :=
  let before := c.client.session?
  let client := c.client.step cfg e
  let after := client.session?
  { client
    accepted := acceptedBy before e c.accepted
    tasks :=
      if spawnsData before after then c.tasks ++ [{ routes := localServices cfg c.accepted }]
      else if stopsData before after then
        c.tasks.modify (c.tasks.length - 1) fun task => { task with accepting := false }
      else c.tasks }

end RoutedClient

namespace DataTask

def inbound (task : DataTask) : DataTask :=
  if task.accepting then { task with streams := task.streams ++ [inboundStream] } else task

def closed (task : DataTask) : DataTask := { task with accepting := false }

/-- A frame of the server on stream `j`. -/
def sends (j : Nat) (frame : Frame) (task : DataTask) : DataTask :=
  { task with
    streams := task.streams.modify j fun d => { d with toClient := d.toClient ++ [frame] } }

/-- The handler of stream `j` goes on; it looks services up in the map of its task. -/
def handler (j : Nat) (env : DataEnv) (task : DataTask) : DataTask :=
  { task with
    streams := task.streams.modify j fun d =>
      d.handlerStep { env with localServices := task.routes } }

end DataTask

namespace RoutedClient

def next (cfg : ClientConfig) (c : RoutedClient) : RouteEvent → RoutedClient
  | .client e => c.clientStep cfg e
  | .inbound k => { c with tasks := c.tasks.modify k DataTask.inbound }
  | .closed k => { c with tasks := c.tasks.modify k DataTask.closed }
  | .sends k j frame => { c with tasks := c.tasks.modify k (DataTask.sends j frame) }
  | .handler k j env => { c with tasks := c.tasks.modify k (DataTask.handler j env) }

end RoutedClient

/-! ## One data task -/

/-- The local target of the command line. -/
def ClientConfig.Target (cfg : ClientConfig) (localAddress : String) : Prop :=
  ∃ service, cfg.service = some service ∧ localAddress = service.localAddress

/-- The map of a data task: one id for the service of the command line, nothing
without one. -/
def ClientConfig.Routes (cfg : ClientConfig) (routes : BTreeMap ServiceId String) : Prop :=
  match cfg.service with
  | none => routes = ∅
  | some service => ∃ serviceId : ServiceId,
      routes = (∅ : BTreeMap ServiceId String).insert serviceId service.localAddress

/-- A handler that connects connects to the target. -/
def DataStream.Confined (cfg : ClientConfig) (d : DataStream) : Prop :=
  ∀ tunnelId localAddress, d.handler = .connect tunnelId localAddress → cfg.Target localAddress

structure DataTask.Confined (cfg : ClientConfig) (task : DataTask) : Prop where
  routes : cfg.Routes task.routes
  streams : ∀ d ∈ task.streams, d.Confined cfg

section
variable {cfg : ClientConfig}

theorem ClientConfig.Routes.target {routes : BTreeMap ServiceId String} (h : cfg.Routes routes)
    {serviceId : ServiceId} {localAddress : String}
    (hroute : routes[serviceId]? = some localAddress) : cfg.Target localAddress := by
  unfold Routes at h
  split at h
  · rw [h, BTreeMap.get_empty] at hroute
    cases hroute
  · rename_i service hservice
    obtain ⟨accepted, rfl⟩ := h
    obtain ⟨-, rfl⟩ | ⟨-, hroute⟩ := BTreeMap.get_insert_some.mp hroute
    · exact ⟨service, hservice, rfl⟩
    · rw [BTreeMap.get_empty] at hroute
      cases hroute

/-- A handler comes to connect by its lookup only. -/
theorem handlerStep_connect {d : DataStream} {env : DataEnv} {tunnelId : TunnelId}
    {localAddress : String} (h : (d.handlerStep env).handler = .connect tunnelId localAddress) :
    ∃ serviceId : ServiceId, env.localServices[serviceId]? = some localAddress := by
  unfold DataStream.handlerStep at h
  split at h
  · rename_i hpc
    split at h
    · cases h
    · rw [hpc] at h
      cases h
    · cases h
    · cases h
  · rename_i asked serviceId hpc
    simp only [DataStream.lookedUp] at h
    split at h
    · rename_i found hfound
      cases h
      exact ⟨serviceId, hfound⟩
    · cases h
  · split at h <;> cases h
  · split at h <;> cases h
  · split at h <;> cases h
  · rename_i hpc
    rw [hpc] at h
    cases h
  · rename_i hpc
    rw [hpc] at h
    cases h

theorem DataTask.Confined.inbound {task : DataTask} (h : task.Confined cfg) :
    task.inbound.Confined cfg := by
  unfold DataTask.inbound
  split
  · refine ⟨h.routes, fun d hd => ?_⟩
    rcases List.mem_append.mp hd with hd | hd
    · exact h.streams d hd
    · rw [List.mem_singleton.mp hd]
      intro tunnelId localAddress hconnect
      cases hconnect
  · exact h

theorem DataTask.Confined.sends {task : DataTask} (h : task.Confined cfg) (j : Nat)
    (frame : Frame) : (task.sends j frame).Confined cfg := by
  refine ⟨h.routes, fun d hd => ?_⟩
  rcases mem_modify hd with hold | ⟨before, hold, rfl⟩
  · exact h.streams d hold
  · exact h.streams before hold

theorem DataTask.Confined.handler {task : DataTask} (h : task.Confined cfg) (j : Nat)
    (env : DataEnv) : (task.handler j env).Confined cfg := by
  refine ⟨h.routes, fun d hd => ?_⟩
  rcases mem_modify hd with hold | ⟨before, -, rfl⟩
  · exact h.streams d hold
  · intro tunnelId localAddress hconnect
    obtain ⟨serviceId, hroute⟩ := handlerStep_connect hconnect
    exact h.routes.target hroute

end

/-! ## The session -/

/-- A session that publishes has a service, and one that stores has its id. -/
structure QuicSession.Publishes (cfg : ClientConfig) (accepted : Option ServiceId)
    (s : QuicSession) : Prop where
  service : s.pc.publishing → cfg.service.isSome
  accepted : s.pc = .storeService → accepted.isSome

section
variable {cfg : ClientConfig}

/-- Where a session of the loop comes from: it is a new one, it is as it was, or
an await of it has completed. -/
theorem session_step {c : RetryClient} {e : ClientEvent} {s' : QuicSession}
    (h : (c.step cfg e).session? = some s') :
    s'.pc = .connect ∨ s'.pc = .openStream ∨ ∃ s, c.session? = some s ∧
      (s' = s ∨ (∃ result, e = .completes result ∧ s.completes cfg result = .pending s') ∨
        ∃ input, e = .reads input ∧ s.reads cfg input = .pending s') := by
  have hfinished (result : Except String Unit) : (c.finished cfg result).session? = none := by
    unfold RetryClient.finished
    split
    · rfl
    · split <;> rfl
  have hresolve {poll : Poll} {s : QuicSession} (hpoll : poll.resolve = .quic s) :
      poll = .pending s := by
    unfold Poll.resolve at hpoll
    split at hpoll <;> cases hpoll
    rfl
  unfold RetryClient.step at h
  split at h
  · rename_i s hphase
    have hbefore : c.session? = some s := by rw [RetryClient.session?, hphase]
    split at h
    · rename_i s'' hclient
      cases h
      refine .inr (.inr ⟨s, hbefore, .inr ?_⟩)
      cases e with
      | completes result => exact .inl ⟨result, rfl, hresolve hclient⟩
      | reads input => exact .inr ⟨input, rfl, hresolve hclient⟩
      | timer => cases hclient
    · cases h
    · rw [hfinished] at h
      cases h
  · rename_i hphase
    split at h
    · cases h
    · rw [hfinished] at h
      cases h
    · rw [RetryClient.session?, hphase] at h
      cases h
  · rename_i hphase
    split at h
    · cases h
      exact .inr (.inl rfl)
    · rw [hfinished] at h
      cases h
    · rw [RetryClient.session?, hphase] at h
      cases h
  · rename_i s hphase
    have hbefore : c.session? = some s := by rw [RetryClient.session?, hphase]
    have hpolled {poll : Poll} (hpoll : (c.polled cfg poll).session? = some s') :
        poll = .pending s' := by
      cases poll with
      | pending s'' => cases hpoll; rfl
      | ready result =>
        rw [RetryClient.polled, hfinished] at hpoll
        cases hpoll
    refine .inr (.inr ⟨s, hbefore, ?_⟩)
    split at h
    · rename_i result
      exact .inr (.inl ⟨result, rfl, hpolled h⟩)
    · rename_i input
      exact .inr (.inr ⟨input, rfl, hpolled h⟩)
    · rw [hbefore] at h
      cases h
      exact .inl rfl
  · rename_i hphase
    split at h
    · cases h
      exact .inl rfl
    · rw [RetryClient.session?, hphase] at h
      cases h
  · rename_i hphase
    rw [RetryClient.session?, hphase] at h
    cases h

/-- A session does not come to store what it was sent but by a read. -/
theorem completed_not_storing {s s' : QuicSession} (hpoll : s.completed cfg = .pending s')
    (hstore : s'.pc = .storeService) : s' = s := by
  unfold QuicSession.completed QuicSession.goto QuicSession.wrote at hpoll
  cases hat : s.pc with
  | sendNode =>
    simp only [hat] at hpoll
    cases hpoll
    cases hservice : cfg.service <;> simp only [hservice] at hstore <;> cases hstore
  | join =>
    simp only [hat] at hpoll
    cases hpoll
  | readHello | readAuth | readService | readAck sequence =>
    simp only [hat] at hpoll
    cases hpoll
    rfl
  | _ =>
    simp only [hat] at hpoll
    cases hpoll
    cases hstore

theorem QuicSession.Publishes.completes {s s' : QuicSession} {accepted : Option ServiceId}
    {result : Except String Unit} (h : s.Publishes cfg accepted)
    (hpoll : s.completes cfg result = .pending s') : s'.Publishes cfg accepted := by
  have hpoll := QuicSession.completed_of_completes hpoll
  refine ⟨fun hpc => ?_, fun hstore => ?_⟩
  · rcases QuicSession.completed_publishing hpoll hpc with hold | hservice
    · exact h.service hold
    · exact hservice
  · rw [completed_not_storing hpoll hstore] at hstore
    exact h.accepted hstore

/-- A session comes to store what the reply to RegisterService has accepted. -/
theorem received_storing {s s' : QuicSession} {frame : Frame} (hreading : s.pc.reading)
    (hpoll : s.received cfg frame = .pending s') (hstore : s'.pc = .storeService) :
    s.pc = .readService ∧ ∃ service, frame = .registerServiceAccepted service := by
  unfold QuicSession.received at hpoll
  cases hat : s.pc with
  | readService =>
    cases frame with
    | registerServiceAccepted service => exact ⟨rfl, service, rfl⟩
    | _ =>
      simp only [hat] at hpoll
      cases hpoll
  | readHello =>
    cases frame with
    | hello version =>
      simp only [hat] at hpoll
      split at hpoll
      · cases hpoll
        cases hstore
      · cases hpoll
    | _ =>
      simp only [hat] at hpoll
      cases hpoll
  | readAuth =>
    cases frame with
    | authAccepted kind =>
      simp only [hat] at hpoll
      cases hpoll
      cases hstore
    | _ =>
      simp only [hat] at hpoll
      cases hpoll
  | readAck sequence =>
    cases frame with
    | heartbeatAck ack serverTime =>
      simp only [hat] at hpoll
      split at hpoll
      · cases hpoll
        cases honce : cfg.once <;> simp only [honce] at hstore <;> cases hstore
      · cases hpoll
    | _ =>
      simp only [hat] at hpoll
      cases hpoll
  | _ =>
    rw [hat] at hreading
    cases hreading

theorem received_idle {s s' : QuicSession} {frame : Frame} (hreading : s.pc.reading = false)
    (hpoll : s.received cfg frame = .pending s') : s' = s := by
  unfold QuicSession.received at hpoll
  cases hat : s.pc with
  | readHello | readAuth | readService | readAck sequence =>
    rw [hat] at hreading
    cases hreading
  | _ =>
    simp only [hat] at hpoll
    cases hpoll
    rfl

theorem acceptedBy_isSome {before : Option QuicSession} {e : ClientEvent}
    {accepted : Option ServiceId} (h : accepted.isSome) : (acceptedBy before e accepted).isSome := by
  unfold acceptedBy
  split
  · split
    · rfl
    · exact h
  · exact h

theorem QuicSession.Publishes.reads {s s' : QuicSession} {accepted : Option ServiceId}
    {input : Except String Frame} (h : s.Publishes cfg accepted)
    (hpoll : s.reads cfg input = .pending s') :
    s'.Publishes cfg (acceptedBy (some s) (.reads input) accepted) := by
  have hsame : s.Publishes cfg (acceptedBy (some s) (.reads input) accepted) :=
    ⟨h.service, fun hstore => acceptedBy_isSome (h.accepted hstore)⟩
  cases input with
  | error e =>
    rw [QuicSession.reads_error hpoll]
    exact hsame
  | ok frame =>
    have hpoll : s.received cfg frame = .pending s' := hpoll
    cases hreading : s.pc.reading with
    | false =>
      rw [received_idle hreading hpoll]
      exact hsame
    | true =>
      refine ⟨fun hpc => h.service (QuicSession.received_publishing hreading hpoll hpc), ?_⟩
      intro hstore
      obtain ⟨hpc, service, rfl⟩ := received_storing hreading hpoll hstore
      simp only [acceptedBy, hpc, if_pos]
      rfl

/-- A data task that a session starts has the map of the command line. -/
theorem QuicSession.Publishes.routes {s s' : QuicSession} {accepted : Option ServiceId}
    {result : Except String Unit} (h : s.Publishes cfg accepted)
    (hpoll : s.completes cfg result = .pending s')
    (hspawns : spawnsData (some s) (some s') = true) : cfg.Routes (localServices cfg accepted) := by
  simp only [spawnsData, Bool.and_eq_true, Bool.or_eq_true, beq_iff_eq] at hspawns
  obtain ⟨hbefore, hafter⟩ := hspawns
  unfold ClientConfig.Routes localServices
  cases hservice : cfg.service with
  | none => rfl
  | some service =>
    cases haccepted : accepted with
    | some serviceId => exact ⟨serviceId, rfl⟩
    | none =>
      -- a client with a service publishes it before its first heartbeat
      rcases hbefore with hnode | hstoring
      · have hpoll := QuicSession.completed_of_completes hpoll
        simp only [QuicSession.completed, hnode, hservice, QuicSession.wrote] at hpoll
        cases hpoll
        cases hafter
      · have hsome := h.accepted hstoring
        rw [haccepted] at hsome
        cases hsome

end

/-! ## The client and all its data tasks -/

structure RoutedClient.Confined (cfg : ClientConfig) (c : RoutedClient) : Prop where
  session : ∀ s ∈ c.client.session?, s.Publishes cfg c.accepted
  tasks : ∀ task ∈ c.tasks, task.Confined cfg

section
variable {cfg : ClientConfig}

theorem reads_idle {s s' : QuicSession} {input : Except String Frame}
    (hreading : s.pc.reading = false) (hpoll : s.reads cfg input = .pending s') : s' = s := by
  cases input with
  | ok frame => exact received_idle hreading hpoll
  | error e => exact QuicSession.reads_error hpoll

/-- The data task that a step of the loop starts has the map of the command line. -/
theorem spawned_routes {c : RetryClient} {e : ClientEvent} {s s' : QuicSession}
    {accepted : Option ServiceId} (h : s.Publishes cfg accepted) (hbefore : c.session? = some s)
    (hafter : (c.step cfg e).session? = some s')
    (hspawns : spawnsData (some s) (some s') = true) : cfg.Routes (localServices cfg accepted) := by
  have hpcs := hspawns
  simp only [spawnsData, Bool.and_eq_true, Bool.or_eq_true, beq_iff_eq] at hpcs
  obtain ⟨hold, hnew⟩ := hpcs
  have hmoved : s' ≠ s := by
    rintro rfl
    rcases hold with hold | hold <;> rw [hnew] at hold <;> cases hold
  have hreading : s.pc.reading = false := by
    rcases hold with hold | hold <;> rw [hold] <;> rfl
  rcases session_step hafter with hpc | hpc | ⟨_, hs, hmove⟩
  · rw [hnew] at hpc
    cases hpc
  · rw [hnew] at hpc
    cases hpc
  · rw [hbefore] at hs
    cases hs
    rcases hmove with hsame | ⟨result, rfl, hpoll⟩ | ⟨input, rfl, hpoll⟩
    · exact absurd hsame hmoved
    · exact h.routes hpoll hspawns
    · exact absurd (reads_idle hreading hpoll) hmoved

theorem clientStep_confined {c : RoutedClient} (h : c.Confined cfg) (e : ClientEvent) :
    (c.clientStep cfg e).Confined cfg := by
  have hsession : ∀ s' ∈ (c.client.step cfg e).session?,
      s'.Publishes cfg (acceptedBy c.client.session? e c.accepted) := by
    intro s' hs'
    rcases session_step hs' with hpc | hpc | ⟨s, hs, hmove⟩
    · exact ⟨fun hp => (by rw [hpc] at hp; cases hp), fun hp => (by rw [hpc] at hp; cases hp)⟩
    · exact ⟨fun hp => (by rw [hpc] at hp; cases hp), fun hp => (by rw [hpc] at hp; cases hp)⟩
    · have hbefore := h.session s hs
      rw [hs]
      rcases hmove with rfl | ⟨result, rfl, hpoll⟩ | ⟨input, rfl, hpoll⟩
      · exact ⟨hbefore.service, fun hp => acceptedBy_isSome (hbefore.accepted hp)⟩
      · exact hbefore.completes hpoll
      · exact hbefore.reads hpoll
  refine ⟨hsession, fun task htask => ?_⟩
  simp only [RoutedClient.clientStep] at htask
  split at htask
  · rename_i hspawns
    rcases List.mem_append.mp htask with htask | htask
    · exact h.tasks task htask
    · rw [List.mem_singleton.mp htask]
      refine ⟨?_, fun d hd => by cases hd⟩
      cases hbefore : c.client.session? with
      | none => rw [hbefore] at hspawns; cases hspawns
      | some s =>
        cases hafter : (c.client.step cfg e).session? with
        | none => rw [hbefore, hafter] at hspawns; cases hspawns
        | some s' =>
          rw [hbefore, hafter] at hspawns
          exact spawned_routes (h.session s hbefore) hbefore hafter hspawns
  · split at htask
    · rcases mem_modify htask with hold | ⟨before, hold, rfl⟩
      · exact h.tasks task hold
      · exact ⟨(h.tasks before hold).routes, (h.tasks before hold).streams⟩
    · exact h.tasks task htask

theorem confined_next {c : RoutedClient} (h : c.Confined cfg) (e : RouteEvent) :
    (c.next cfg e).Confined cfg := by
  have htasks {f : DataTask → DataTask} (hf : ∀ task, task.Confined cfg → (f task).Confined cfg)
      (k : Nat) : RoutedClient.Confined cfg { c with tasks := c.tasks.modify k f } := by
    refine ⟨h.session, fun task htask => ?_⟩
    rcases mem_modify htask with hold | ⟨before, hold, rfl⟩
    · exact h.tasks task hold
    · exact hf before (h.tasks before hold)
  cases e with
  | client e => exact clientStep_confined h e
  | inbound k => exact htasks (fun task htask => htask.inbound) k
  | closed k => exact @htasks DataTask.closed (fun task htask => ⟨htask.routes, htask.streams⟩) k
  | sends k j frame => exact htasks (fun task htask => htask.sends j frame) k
  | handler k j env => exact htasks (fun task htask => htask.handler j env) k

theorem confined_start : RoutedClient.Confined cfg {} := by
  refine ⟨fun s hs => ?_, fun task htask => by cases htask⟩
  cases hs
  exact ⟨fun hp => (by cases hp), fun hp => (by cases hp)⟩

end

/-- **A client connects to its one local target.** Whatever replies, frames and
streams the server sends, through any number of sessions on either transport,
failures, retries and timers: every data task routes one id to the local address
of the command line, or nothing when no service is given, and every handler that
connects connects there. -/
theorem client_confined (cfg : ClientConfig) (events : List RouteEvent) :
    EveryState (RoutedClient.next cfg)
      (fun c => ∀ task ∈ c.tasks, cfg.Routes task.routes ∧
        ∀ d ∈ task.streams, ∀ tunnelId localAddress,
          d.handler = .connect tunnelId localAddress → cfg.Target localAddress) {} events := by
  have hall : EveryState (RoutedClient.next cfg) (RoutedClient.Confined cfg) {} events :=
    everyState_of_step (fun c e h => @confined_next cfg c h e) confined_start events
  exact hall.mono fun c h task htask =>
    ⟨(h.tasks task htask).routes, fun d hd => (h.tasks task htask).streams d hd⟩

/-! ## The data tasks of old sessions -/

/-- The event is not the end of a connection. -/
def RouteEvent.ofClient : RouteEvent → Bool
  | .closed _ => false
  | _ => true

/-- Every data task accepts, and no session is about to say Goodbye. -/
structure RoutedClient.Serving (c : RoutedClient) : Prop where
  session : ∀ s ∈ c.client.session?, s.pc ≠ .sendGoodbye
  tasks : ∀ task ∈ c.tasks, task.accepting = true

section
variable {cfg : ClientConfig}

theorem completed_not_goodbye {s s' : QuicSession} (hpoll : s.completed cfg = .pending s')
    (hgoodbye : s'.pc = .sendGoodbye) : s' = s := by
  unfold QuicSession.completed QuicSession.goto QuicSession.wrote at hpoll
  cases hat : s.pc with
  | sendNode =>
    simp only [hat] at hpoll
    cases hpoll
    cases hservice : cfg.service <;> simp only [hservice] at hgoodbye <;> cases hgoodbye
  | join =>
    simp only [hat] at hpoll
    cases hpoll
  | readHello | readAuth | readService | readAck sequence =>
    simp only [hat] at hpoll
    cases hpoll
    rfl
  | _ =>
    simp only [hat] at hpoll
    cases hpoll
    cases hgoodbye

/-- Goodbye is the answer to an acknowledgement, of a client that runs once. -/
theorem received_not_goodbye {s s' : QuicSession} {frame : Frame} (honce : cfg.once = false)
    (hpoll : s.received cfg frame = .pending s') (hgoodbye : s'.pc = .sendGoodbye) : s' = s := by
  unfold QuicSession.received at hpoll
  cases hat : s.pc with
  | readService =>
    cases frame with
    | registerServiceAccepted service =>
      simp only [hat] at hpoll
      cases hpoll
      cases hgoodbye
    | _ =>
      simp only [hat] at hpoll
      cases hpoll
  | readHello =>
    cases frame with
    | hello version =>
      simp only [hat] at hpoll
      split at hpoll
      · cases hpoll
        cases hgoodbye
      · cases hpoll
    | _ =>
      simp only [hat] at hpoll
      cases hpoll
  | readAuth =>
    cases frame with
    | authAccepted kind =>
      simp only [hat] at hpoll
      cases hpoll
      cases hgoodbye
    | _ =>
      simp only [hat] at hpoll
      cases hpoll
  | readAck sequence =>
    cases frame with
    | heartbeatAck ack serverTime =>
      simp only [hat, honce] at hpoll
      split at hpoll
      · cases hpoll
        cases hgoodbye
      · cases hpoll
    | _ =>
      simp only [hat] at hpoll
      cases hpoll
  | _ =>
    simp only [hat] at hpoll
    cases hpoll
    rfl

theorem clientStep_serving (honce : cfg.once = false) {c : RoutedClient} (h : c.Serving)
    (e : ClientEvent) : (c.clientStep cfg e).Serving := by
  refine ⟨fun s' hs' hgoodbye => ?_, fun task htask => ?_⟩
  · rcases session_step hs' with hpc | hpc | ⟨s, hs, hmove⟩
    · rw [hgoodbye] at hpc
      cases hpc
    · rw [hgoodbye] at hpc
      cases hpc
    · have hsame : s' = s := by
        rcases hmove with hsame | ⟨result, rfl, hpoll⟩ | ⟨input, rfl, hpoll⟩
        · exact hsame
        · exact completed_not_goodbye (QuicSession.completed_of_completes hpoll) hgoodbye
        · cases input with
          | ok frame => exact received_not_goodbye honce hpoll hgoodbye
          | error e => exact QuicSession.reads_error hpoll
      exact h.session s hs (hsame ▸ hgoodbye)
  · simp only [RoutedClient.clientStep] at htask
    split at htask
    · rcases List.mem_append.mp htask with htask | htask
      · exact h.tasks task htask
      · rw [List.mem_singleton.mp htask]
    · split at htask
      · rename_i hstops
        cases hbefore : c.client.session? with
        | none => rw [hbefore] at hstops; cases hstops
        | some s =>
          -- only a session at Goodbye stops its data task
          have hgoodbye : s.pc = .sendGoodbye := by
            rw [hbefore] at hstops
            unfold stopsData at hstops
            split at hstops
            · rename_i heq _
              cases heq
              simp only [Bool.and_eq_true, beq_iff_eq] at hstops
              exact hstops.1
            · cases hstops
          exact absurd hgoodbye (h.session s hbefore)
      · exact h.tasks task htask

theorem serving_next (honce : cfg.once = false) {c : RoutedClient} (h : c.Serving)
    {e : RouteEvent} (he : e.ofClient) : (c.next cfg e).Serving := by
  have htasks {f : DataTask → DataTask} (hf : ∀ task, (f task).accepting = task.accepting)
      (k : Nat) : RoutedClient.Serving { c with tasks := c.tasks.modify k f } := by
    refine ⟨h.session, fun task htask => ?_⟩
    rcases mem_modify htask with hold | ⟨before, hold, rfl⟩
    · exact h.tasks task hold
    · rw [hf]
      exact h.tasks before hold
  cases e with
  | client e => exact clientStep_serving honce h e
  | inbound k =>
    refine htasks (fun task => ?_) k
    unfold DataTask.inbound
    split <;> rfl
  | closed k => cases he
  | sends k j frame => exact @htasks (DataTask.sends j frame) (fun task => rfl) k
  | handler k j env => exact @htasks (DataTask.handler j env) (fun task => rfl) k

end

/-- The data tasks of the one are those of the other, each in its place with its map, and
those that have been started since. -/
def RoutedClient.TasksKept (c c' : RoutedClient) : Prop :=
  c.tasks.map DataTask.routes <+: c'.tasks.map DataTask.routes

theorem map_routes_modify (tasks : List DataTask) (k : Nat) {f : DataTask → DataTask}
    (hf : ∀ task, (f task).routes = task.routes) :
    (tasks.modify k f).map DataTask.routes = tasks.map DataTask.routes := by
  refine List.ext_getElem? fun i => ?_
  rw [List.getElem?_map, List.getElem?_map, List.getElem?_modify]
  cases tasks[i]? with
  | none => rfl
  | some task =>
    by_cases hk : k = i
    · simp [hk, hf]
    · simp [hk]

/-- No event takes a data task away. -/
theorem tasksKept_next (cfg : ClientConfig) (c : RoutedClient) (e : RouteEvent) :
    c.TasksKept (c.next cfg e) := by
  have hmodify {f : DataTask → DataTask} (k : Nat) (hf : ∀ task, (f task).routes = task.routes) :
      c.tasks.map DataTask.routes <+: (c.tasks.modify k f).map DataTask.routes := by
    rw [map_routes_modify c.tasks k hf]
  cases e with
  | client e =>
    simp only [RoutedClient.TasksKept, RoutedClient.next, RoutedClient.clientStep]
    split
    · rw [List.map_append]
      exact List.prefix_append _ _
    · split
      · exact hmodify _ fun task => rfl
      · exact List.prefix_rfl
  | inbound k =>
    refine hmodify k fun task => ?_
    unfold DataTask.inbound
    split <;> rfl
  | closed k | sends k j frame | handler k j env => exact hmodify k fun task => rfl

/-- **A data task outlives its session.** No data task is ever taken away; and a client that
does not run once never stops one: in every run in which no connection ends, all data tasks
that its sessions have started accept streams. -/
theorem data_tasks_outlive (cfg : ClientConfig) (honce : cfg.once = false)
    (events : List RouteEvent) (hevents : ∀ e ∈ events, e.ofClient) :
    EveryState (RoutedClient.next cfg) (fun c => ∀ task ∈ c.tasks, task.accepting = true) {}
      events ∧
    EveryPair (RoutedClient.next cfg) RoutedClient.TasksKept {} events := by
  have hstart : RoutedClient.Serving {} := by
    refine ⟨fun s hs => ?_, fun task htask => by cases htask⟩
    cases hs
    exact fun hpc => by cases hpc
  have hsteps : EveryStep (RoutedClient.next cfg) (fun _ e => e.ofClient = true) {} events :=
    everyStep_of_labels hevents
  have hall : EveryState (RoutedClient.next cfg) RoutedClient.Serving {} events :=
    everyState_of_everyStep (fun c e h he => @serving_next cfg honce c h e he) hstart hsteps
  have hkept (c : RoutedClient) (e : RouteEvent) (_ : True) :
      True ∧ c.TasksKept (c.next cfg e) := ⟨trivial, tasksKept_next cfg c e⟩
  refine ⟨hall.mono fun c h => h.tasks, ?_⟩
  have hrefl (c : RoutedClient) : c.TasksKept c := List.prefix_rfl
  have htrans (c d f : RoutedClient) (hcd : c.TasksKept d) (hdf : d.TasksKept f) :
      c.TasksKept f := List.IsPrefix.trans hcd hdf
  exact everyPair_of_step hrefl htrans hkept trivial events

/-- The timer drops a QUIC session, a session over TCP/TLS is set up after it, and
the relay opens a stream on the QUIC connection. -/
def droppedSession : List RouteEvent :=
  LongSession.events.map .client ++
    [.client (.completes (.ok ())), .client (.completes (.ok ())), .client (.completes (.ok ())),
      .client (.completes (.ok ())), .client (.reads (.ok (.hello protocolVersion))),
      .client (.completes (.ok ())), .client (.reads (.ok (.authAccepted .user))),
      .client (.completes (.ok ())), .inbound 0]

example : (run (RoutedClient.next LongSession.config) {} droppedSession).tasks =
    [{ routes := ∅, streams := [inboundStream] }, { routes := ∅ }] := by decide +kernel

theorem data_tasks_outlive_dropped :
    EveryState (RoutedClient.next LongSession.config)
      (fun c => ∀ task ∈ c.tasks, task.accepting = true) {} droppedSession ∧
    EveryPair (RoutedClient.next LongSession.config) RoutedClient.TasksKept {} droppedSession :=
  data_tasks_outlive LongSession.config rfl droppedSession (by decide)

end OngrokRelay
