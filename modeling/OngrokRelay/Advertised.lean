import OngrokRelay.Lockstep

/-
  What the directory advertises and what the clients can serve.

  Every control session of the pool has a client at its other end; API requests and
  revocations run as they do in `ControlPlane`. A client that is restarted or that
  reconnects is a new connection, with `local_services` empty: a session's map is
  filled from the replies to its own RegisterService.

  `published` records which services the server has accepted over a session.

  1. `FleetInv.next`: a session and its client stay paired whatever the others do, and what
     has been accepted is on its way to the client or in its `local_services`.
  2. `accepted_served`: a service of the directory that the server has accepted over the
     active session is not unknown to the client, once the reply has been read.
  3. `leased_unserved`: one that an earlier session of the node has left there is.
     `posted_unserved`: and so is one that `POST /v1/services` has created.
-/

namespace OngrokRelay

open Interleaving Transition

/-! ## Server and clients together -/

/-- A client's session with its handler's place in the pool. -/
structure FleetClient where
  task : Nat
  process : ClientConfig
  client : SessionClient
  published : List ServiceDefinition := []

structure Fleet where
  plane : ControlPlane
  clients : List FleetClient := []

inductive FleetEvent
  | connects (process : ClientConfig) (peer : Peer) (transport : TransportKind)
  /-- A section of the handler of a client. -/
  | serves (k : Nat) (env : Env)
  | acts (k : Nat) (act : ClientAct)
  /-- A task that is not a control session. -/
  | plane (e : Event Env ControlTask)

def ControlTask.isSession : ControlTask → Bool
  | .session _ => true
  | _ => false

def Frame.accepted : Frame → Option ServiceDefinition
  | .registerServiceAccepted service => some service
  | _ => none

/-- The services of the acceptances among the frames. -/
def acceptances (frames : List Frame) : List ServiceDefinition := frames.filterMap Frame.accepted

/-- The server has accepted the service over the session, and its client has read and
stored every acceptance. -/
def FleetClient.Informed (c : FleetClient) (session : QuicSession)
    (serviceId : ServiceId) : Prop :=
  (∃ service ∈ c.published, service.serviceId = serviceId) ∧
    acceptances c.client.toClient = [] ∧ session.pc ≠ .storeService

/-- The await belongs to the publication of the configured service. -/
def QuicPc.publishing : QuicPc → Bool
  | .sendService _ | .readService | .storeService => true
  | _ => false

namespace Fleet

/-- The event is not one of a control session. -/
def offSession (f : Fleet) : Event Env ControlTask → Bool
  | .run i _ => !(f.plane.tasks[i]?.any ControlTask.isSession)
  | .spawn task => !task.isSession

def next (cfg : RelayConfig) (f : Fleet) : FleetEvent → Fleet
  | .plane e => if f.offSession e then { f with plane := f.plane.next cfg e } else f
  | .connects process peer transport =>
    let link := ControlLink.begin peer transport
    if f.plane.opens (.session link.server) then
      { plane := f.plane.next cfg (.spawn (.session link.server))
        clients := f.clients ++ [⟨f.plane.tasks.length, process, link.client, []⟩] }
    else f
  | .acts k act =>
    match f.clients[k]? with
    | none => f
    | some c =>
      let client := c.client.act c.process act
      { f with clients := f.clients.set k { c with client } }
  | .serves k env =>
    match f.clients[k]? with
    | none => f
    | some c =>
      match f.plane.tasks[c.task]? with
      | some (.session task) =>
        match c.client.input task env with
        | none => f
        | some (env, toServer) =>
          let sent := task.sends cfg env f.plane.shared
          { plane := f.plane.next cfg (.run c.task env)
            clients := f.clients.set k { c with
              client := { c.client with
                toServer
                toClient := c.client.toClient ++ sent }
              published := c.published ++ acceptances sent } }
      | _ => f

/-- What some run from some start of the server, without clients, comes to. -/
def Reached (cfg : RelayConfig) (f : Fleet) : Prop :=
  ∃ (env : Env) (adminHash userHash : TokenHash) (store : ServiceStore) (st : AppState)
    (events : List FleetEvent),
    start env adminHash userHash store = .ok st ∧ f = run (next cfg) ⟨⟨st, []⟩, []⟩ events

/-- The client is behind this entry of the sessions map, and its program runs. -/
def Behind (f : Fleet) (nodeId : NodeId) (entry : ActiveSession) (c : FleetClient)
    (session : QuicSession) : Prop :=
  c ∈ f.clients ∧ c.client.program = .pending session ∧
    ∃ s, f.plane.tasks[c.task]? = some (.session (.live s)) ∧ s.nodeId = nodeId ∧ s.entry = entry

/-- The service is advertised: it is in the directory, and its node is online with an
active session. -/
def Advertises (f : Fleet) (service : ServiceDefinition) (entry : ActiveSession) : Prop :=
  f.plane.shared.services[service.serviceId]? = some service ∧
    f.plane.shared.sessions[service.nodeId]? = some entry ∧
    f.plane.shared.nodes[service.nodeId]?.any fun node => node.status == .online

/-- The client behind every advertised service knows it. -/
def Servable (f : Fleet) : Prop :=
  ∀ (service : ServiceDefinition) (entry : ActiveSession) (c : FleetClient) (session : QuicSession),
    f.Advertises service entry → f.Behind service.nodeId entry c session →
    c.client.localServices[service.serviceId]?.isSome

end Fleet

/-! ## What the server has accepted reaches the client -/

/-- What the server has accepted is in `local_services`, is being stored or is on its
way; what is in `local_services` is served where the client publishes. -/
structure FleetClient.Holds (c : FleetClient) (session : QuicSession) : Prop where
  accepted : ∀ service ∈ c.published, (c.client.localServices[service.serviceId]?).isSome ∨
    (session.pc = .storeService ∧ c.client.accepted = some service) ∨
    service ∈ acceptances c.client.toClient
  configured : session.pc.publishing → c.process.service.isSome
  address : ∀ (id : ServiceId) (localAddress : String),
    c.client.localServices[id]? = some localAddress →
    ∃ published, c.process.service = some published ∧ localAddress = published.localAddress

section
variable {cfg : ClientConfig} {s s' : QuicSession}

theorem QuicSession.completed_publishing (h : s.completed cfg = .pending s')
    (hpc : s'.pc.publishing) : s.pc.publishing ∨ cfg.service.isSome := by
  unfold QuicSession.completed at h
  cases hat : s.pc with
  | sendNode =>
    simp only [hat] at h
    cases h
    cases hservice : cfg.service with
    | none =>
      simp only [hservice] at hpc
      cases hpc
    | some service => exact .inr rfl
  | sendService service | readService | storeService => exact .inl rfl
  | join =>
    simp only [hat] at h
    cases h
  | connect | openStream | sendHello | sendAuth | sendHeartbeat sequence | sendGoodbye
  | sleep sequence =>
    simp only [hat] at h
    cases h
    cases hpc
  | readHello | readAuth | readAck sequence =>
    simp only [hat] at h
    cases h
    rw [hat] at hpc
    cases hpc

/-- An acceptance that is expected is stored next. -/
theorem QuicSession.received_accepted {frame : Frame} {service : ServiceDefinition}
    (hexpects : s.pc.expects frame) (haccepted : frame.accepted = some service)
    (h : s.received cfg frame = .pending s') : s.pc = .readService ∧ s'.pc = .storeService := by
  cases frame with
  | registerServiceAccepted accepted =>
    cases hat : s.pc with
    | readService =>
      simp only [QuicSession.received, hat] at h
      cases h
      exact ⟨rfl, rfl⟩
    | _ =>
      rw [hat] at hexpects
      cases hexpects
  | _ => cases haccepted

theorem QuicSession.received_publishing {frame : Frame} (hreading : s.pc.reading)
    (h : s.received cfg frame = .pending s') (hpc : s'.pc.publishing) : s.pc.publishing := by
  unfold QuicSession.received at h
  cases hat : s.pc with
  | readService => rfl
  | readHello =>
    cases frame with
    | hello version =>
      simp only [hat] at h
      split at h
      · cases h
        cases hpc
      · cases h
    | _ =>
      simp only [hat] at h
      cases h
  | readAuth =>
    cases frame with
    | authAccepted kind =>
      simp only [hat] at h
      cases h
      cases hpc
    | _ =>
      simp only [hat] at h
      cases h
  | readAck sequence =>
    cases frame with
    | heartbeatAck ack serverTime =>
      simp only [hat] at h
      split at h
      · cases h
        cases honce : cfg.once <;> simp only [honce] at hpc <;> cases hpc
      · cases h
    | _ =>
      simp only [hat] at h
      cases h
  | _ =>
    rw [hat] at hreading
    cases hreading

end

/-- **An await other than a read** stores what was accepted, or leaves the map alone. -/
theorem FleetClient.Holds.completes {c : FleetClient} {session session' : QuicSession}
    (h : c.Holds session) (hnext : session.completed c.process = .pending session')
    (queue : List Frame) :
    FleetClient.Holds { c with client := { c.client with
      program := .pending session'
      localServices := c.client.stored c.process session
      toServer := queue } } session' := by
  have hconfigured : session'.pc.publishing → c.process.service.isSome := by
    intro hpc
    rcases QuicSession.completed_publishing hnext hpc with hold | hservice
    · exact h.configured hold
    · exact hservice
  by_cases hstoring : session.pc = .storeService
  · obtain ⟨published, hpublished⟩ := Option.isSome_iff_exists.mp
      (h.configured (by rw [hstoring]; rfl))
    cases haccepted : c.client.accepted with
    | none =>
      have hsame : c.client.stored c.process session = c.client.localServices := by
        simp only [SessionClient.stored, hstoring, haccepted]
      refine ⟨fun service hservice => ?_, hconfigured, fun id localAddress hget => ?_⟩
      · rcases h.accepted service hservice with hheld | ⟨-, hother⟩ | hqueued
        · exact .inl (by rw [hsame]; exact hheld)
        · rw [haccepted] at hother
          cases hother
        · exact .inr (.inr hqueued)
      · rw [hsame] at hget
        exact h.address id localAddress hget
    | some accepted =>
      have hinsert : c.client.stored c.process session =
          c.client.localServices.insert accepted.serviceId published.localAddress := by
        simp only [SessionClient.stored, hstoring, haccepted, hpublished]
      refine ⟨fun service hservice => ?_, hconfigured, fun id localAddress hget => ?_⟩
      · rw [hinsert, BTreeMap.get_insert]
        split
        · exact .inl rfl
        · rename_i hother
          rcases h.accepted service hservice with hheld | ⟨-, hsame⟩ | hqueued
          · exact .inl hheld
          · rw [haccepted] at hsame
            cases hsame
            exact absurd rfl hother
          · exact .inr (.inr hqueued)
      · rw [hinsert] at hget
        rcases BTreeMap.get_insert_some.mp hget with ⟨-, hnew⟩ | ⟨-, hold⟩
        · exact ⟨published, hpublished, hnew.symm⟩
        · exact h.address id localAddress hold
  · have hsame : c.client.stored c.process session = c.client.localServices := by
      unfold SessionClient.stored
      split
      · rename_i hpc _ _
        exact absurd hpc hstoring
      · rfl
    refine ⟨fun service hservice => ?_, hconfigured, fun id localAddress hget => ?_⟩
    · rw [hsame]
      rcases h.accepted service hservice with hheld | ⟨hpc, -⟩ | hqueued
      · exact .inl hheld
      · exact absurd hpc hstoring
      · exact .inr (.inr hqueued)
    · rw [hsame] at hget
      exact h.address id localAddress hget

/-- **A read** takes an acceptance from the queue to be stored next. -/
theorem FleetClient.Holds.received {c : FleetClient} {session session' : QuicSession}
    (h : c.Holds session) {frame : Frame} {rest : List Frame} (hreading : session.pc.reading)
    (hqueue : c.client.toClient = frame :: rest) (hexpects : session.pc.expects frame)
    (hnext : session.received c.process frame = .pending session') :
    FleetClient.Holds { c with client := { c.client with
      program := .pending session'
      accepted := c.client.accepts session frame
      toClient := rest } } session' := by
  refine ⟨fun service hservice => ?_,
    fun hpc => h.configured (QuicSession.received_publishing hreading hnext hpc), h.address⟩
  rcases h.accepted service hservice with hheld | ⟨hpc, -⟩ | hqueued
  · exact .inl hheld
  · rw [hpc] at hreading
    cases hreading
  · rw [hqueue, acceptances, List.filterMap_cons] at hqueued
    cases haccepted : frame.accepted with
    | none =>
      rw [haccepted] at hqueued
      exact .inr (.inr hqueued)
    | some accepted =>
      rw [haccepted] at hqueued
      rcases List.mem_cons.mp hqueued with rfl | hqueued
      · obtain ⟨hpc, hpc'⟩ := QuicSession.received_accepted hexpects haccepted hnext
        refine .inr (.inl ⟨hpc', ?_⟩)
        cases frame with
        | registerServiceAccepted _ =>
          cases haccepted
          simp only [SessionClient.accepts, hpc]
        | _ => cases haccepted
      · exact .inr (.inr hqueued)

/-- What the server sends is on its way. -/
theorem FleetClient.Holds.sent {c : FleetClient} {session : QuicSession} (h : c.Holds session)
    (queue sent : List Frame) :
    FleetClient.Holds { c with
      client := { c.client with
        toServer := queue
        toClient := c.client.toClient ++ sent }
      published := c.published ++ acceptances sent } session := by
  refine ⟨fun service hservice => ?_, h.configured, h.address⟩
  rcases List.mem_append.mp hservice with hold | hnew
  · rcases h.accepted service hold with hheld | hstoring | hqueued
    · exact .inl hheld
    · exact .inr (.inl hstoring)
    · refine .inr (.inr ?_)
      rw [acceptances, List.filterMap_append]
      exact List.mem_append_left _ hqueued
  · refine .inr (.inr ?_)
    rw [acceptances, List.filterMap_append]
    exact List.mem_append_right _ hnew

/-! ## The invariant of the fleet -/

/-- A client and its handler are paired, and what the server has accepted reaches the
client. -/
structure FleetClient.InOrder (c : FleetClient) (task : SessionTask) : Prop where
  paired : ControlLink.Paired ⟨task, c.client⟩
  holds : ∀ session, c.client.program = .pending session → c.Holds session

/-- Every client has a handler of its own. -/
structure FleetInv (f : Fleet) : Prop where
  handled : ∀ (k : Nat) (c : FleetClient), f.clients[k]? = some c →
    ∃ task, f.plane.tasks[c.task]? = some (.session task) ∧ c.InOrder task
  distinct : ∀ (j k : Nat) (c d : FleetClient), f.clients[j]? = some c → f.clients[k]? = some d →
    c.task = d.task → j = k

/-- An await of the client keeps its session in order. -/
theorem FleetClient.InOrder.act {c : FleetClient} {task : SessionTask} (h : c.InOrder task)
    (cfg : RelayConfig) (act : ClientAct) :
    FleetClient.InOrder { c with client := c.client.act c.process act } task := by
  refine ⟨h.paired.act cfg act, fun session' hsession' => ?_⟩
  cases hprogram : c.client.program with
  | ready result =>
    simp only [SessionClient.act, hprogram] at hsession'
    cases hsession'
  | pending session =>
    have hholds := h.holds session hprogram
    cases act with
    | completes result =>
      simp only [SessionClient.act, hprogram] at hsession' ⊢
      rw [hsession']
      exact hholds.completes (QuicSession.completed_of_completes hsession') _
    | delivers =>
      simp only [SessionClient.act, hprogram] at hsession' ⊢
      split at hsession'
      · rename_i hreading
        rw [if_pos hreading]
        cases hqueue : c.client.toClient with
        | nil =>
          rw [hqueue] at hsession'
          simp only [hprogram] at hsession' ⊢
          cases hsession'
          exact hholds
        | cons frame rest =>
          simp only [hqueue] at hsession' ⊢
          have hexpects := (hqueue ▸ h.paired session hprogram).expected.1
          rw [hsession']
          exact hholds.received hreading hqueue hexpects hsession'
      · rename_i hreading
        rw [if_neg hreading]
        rw [hprogram] at hsession'
        cases hsession'
        exact hholds
    | fails e =>
      simp only [SessionClient.act, hprogram] at hsession' ⊢
      obtain rfl := QuicSession.reads_error hsession'
      exact ⟨hholds.accepted, hholds.configured, hholds.address⟩

/-- A section of the handler keeps its session in order. -/
theorem FleetClient.InOrder.serve {c : FleetClient} {task : SessionTask} (h : c.InOrder task)
    (cfg : RelayConfig) {env env' : Env} {st : AppState} {toServer : List Frame}
    (hinput : c.client.input task env = some (env', toServer)) :
    FleetClient.InOrder { c with
      client := { c.client with
        toServer
        toClient := c.client.toClient ++ task.sends cfg env' st }
      published := c.published ++ acceptances (task.sends cfg env' st) }
      (task.step cfg env' st).2 := by
  refine ⟨?_, fun session hsession => (h.holds session hsession).sent _ _⟩
  have hpaired := h.paired.serve cfg c.process env st
  simp only [ControlLink.next, hinput] at hpaired
  exact hpaired

namespace FleetInv

variable {cfg : RelayConfig} {f : Fleet}

/-- The handlers stay where they are when the other tasks move on. -/
theorem off (h : FleetInv f) {plane : ControlPlane}
    (htasks : ∀ (i : Nat) (task : SessionTask), f.plane.tasks[i]? = some (.session task) →
      plane.tasks[i]? = some (.session task)) :
    FleetInv { f with plane } where
  handled k c hc := by
    obtain ⟨task, htask, horder⟩ := h.handled k c hc
    exact ⟨task, htasks c.task task htask, horder⟩
  distinct := h.distinct

/-- An event that is not one of a session moves no handler. -/
theorem plane (h : FleetInv f) {e : Event Env ControlTask} (he : f.offSession e) :
    FleetInv { f with plane := f.plane.next cfg e } := by
  refine h.off fun i task htask => ?_
  rcases ControlPlane.next_cases cfg f.plane e with
    hsame | ⟨j, env, other, rfl, -, hnext⟩ | ⟨joined, rfl, -, hnext⟩
  · rw [hsame]
    exact htask
  · have hij : j ≠ i := by
      rintro rfl
      simp only [Fleet.offSession, htask, Option.any_some, ControlTask.isSession] at he
      cases he
    rw [hnext, List.getElem?_set_ne hij]
    exact htask
  · rw [hnext, List.getElem?_append_left (List.getElem?_eq_some_iff.mp htask).1]
    exact htask

/-- A client goes on, with its handler or without it; no other handler moves. -/
theorem set (h : FleetInv f) {k : Nat} {c c' : FleetClient} (hc : f.clients[k]? = some c)
    {plane : ControlPlane} {task' : SessionTask} (htask : c'.task = c.task)
    (hown : plane.tasks[c.task]? = some (.session task')) (horder : c'.InOrder task')
    (hothers : ∀ i, i ≠ c.task → plane.tasks[i]? = f.plane.tasks[i]?) :
    FleetInv ⟨plane, f.clients.set k c'⟩ := by
  -- the client at each place, as it was
  have hwas : ∀ (j : Nat) (d : FleetClient), (f.clients.set k c')[j]? = some d →
      ∃ d', f.clients[j]? = some d' ∧ d'.task = d.task := by
    intro j d hd
    rcases getElem?_set_some hd with ⟨rfl, rfl⟩ | ⟨-, hd⟩
    · exact ⟨c, hc, htask.symm⟩
    · exact ⟨d, hd, rfl⟩
  refine ⟨fun j d hd => ?_, fun i j d e hd he heq => ?_⟩
  · rcases getElem?_set_some hd with ⟨rfl, rfl⟩ | ⟨hkj, hd⟩
    · rw [htask]
      exact ⟨task', hown, horder⟩
    · obtain ⟨task, hat, hd'⟩ := h.handled j d hd
      have hne : d.task ≠ c.task := fun heq => hkj (h.distinct k j c d hc hd heq.symm)
      rw [hothers d.task hne]
      exact ⟨task, hat, hd'⟩
  · obtain ⟨d', hd', hdtask⟩ := hwas i d hd
    obtain ⟨e', he', hetask⟩ := hwas j e he
    exact h.distinct i j d' e' hd' he' (by rw [hdtask, hetask, heq])

/-- A client that has just connected has a new handler. -/
theorem connects (h : FleetInv f) (process : ClientConfig) (peer : Peer)
    (transport : TransportKind) : FleetInv (f.next cfg (.connects process peer transport)) := by
  simp only [Fleet.next]
  split
  · rename_i hopens
    have hplane : f.plane.next cfg (.spawn (.session (ControlLink.begin peer transport).server)) =
        ⟨f.plane.shared, f.plane.tasks ++ [.session (ControlLink.begin peer transport).server]⟩ := by
      simp only [ControlPlane.next, if_pos hopens]
    have hbefore : ∀ (k : Nat) (c : FleetClient), f.clients[k]? = some c →
        c.task < f.plane.tasks.length := by
      intro k c hc
      obtain ⟨task, htask, -⟩ := h.handled k c hc
      exact (List.getElem?_eq_some_iff.mp htask).1
    rw [hplane]
    refine ⟨fun k c hc => ?_, fun j k c d hc hd heq => ?_⟩
    · rcases getElem?_append_some hc with hc | ⟨-, rfl⟩
      · obtain ⟨task, htask, horder⟩ := h.handled k c hc
        refine ⟨task, ?_, horder⟩
        rw [List.getElem?_append_left (hbefore k c hc)]
        exact htask
      · refine ⟨_, List.getElem?_concat_length, ?_, ?_⟩
        · exact ControlLink.begin_paired peer transport
        · intro session hsession
          refine ⟨fun service hservice => absurd hservice List.not_mem_nil, fun hpc => ?_,
            fun id localAddress hget => ?_⟩
          · cases transport <;> cases hsession <;> cases hpc
          · simp only [ControlLink.begin, BTreeMap.get_empty] at hget
            cases hget
    · rcases getElem?_append_some hc with hc | ⟨rfl, rfl⟩
      · rcases getElem?_append_some hd with hd | ⟨-, rfl⟩
        · exact h.distinct j k c d hc hd heq
        · exact absurd heq (Nat.ne_of_lt (hbefore j c hc))
      · rcases getElem?_append_some hd with hd | ⟨rfl, -⟩
        · exact absurd heq.symm (Nat.ne_of_lt (hbefore k d hd))
        · rfl
  · exact h

/-- **Every event keeps sessions and clients together.** -/
theorem next (h : FleetInv f) (cfg : RelayConfig) (event : FleetEvent) :
    FleetInv (f.next cfg event) := by
  cases event with
  | connects process peer transport => exact h.connects process peer transport
  | plane e =>
    simp only [Fleet.next]
    split
    · rename_i he
      exact h.plane he
    · exact h
  | acts k act =>
    simp only [Fleet.next]
    split
    · exact h
    · rename_i c hc
      obtain ⟨task, htask, horder⟩ := h.handled k c hc
      exact h.set hc rfl htask (horder.act cfg act) fun i _ => rfl
  | serves k env =>
    simp only [Fleet.next]
    split
    · exact h
    · rename_i c hc
      split
      · rename_i task htask
        obtain ⟨task', htask', horder⟩ := h.handled k c hc
        rw [htask] at htask'
        cases htask'
        split
        · exact h
        · rename_i fed toServer hinput
          have hlt : c.task < f.plane.tasks.length := (List.getElem?_eq_some_iff.mp htask).1
          have hplane : f.plane.next cfg (.run c.task fed) =
              ⟨((ControlTask.session task).step cfg fed f.plane.shared).1, f.plane.tasks.set c.task
                ((ControlTask.session task).step cfg fed f.plane.shared).2⟩ :=
            f.plane.advance_eq fed htask
          rw [hplane]
          refine h.set hc rfl (List.getElem?_set_self hlt) (horder.serve cfg hinput) fun i hi => ?_
          exact List.getElem?_set_ne (Ne.symm hi)
      · exact h

end FleetInv

/-- Where a fleet comes to, every client is paired with its handler. -/
theorem Fleet.Reached.inv {cfg : RelayConfig} {f : Fleet} (h : f.Reached cfg) : FleetInv f := by
  obtain ⟨env, adminHash, userHash, store, st, events, -, rfl⟩ := h
  refine run_of_step (fun f event h => h.next cfg event) ⟨fun k c hc => ?_, fun j k c d hc => ?_⟩ events
  · cases hc
  · cases hc

/-! ## What is advertised -/

/-- An OpenStream for the service is connected to the address that the client behind the
session publishes. -/
def Fleet.Serves (f : Fleet) : Prop :=
  ∀ (service : ServiceDefinition) (entry : ActiveSession) (c : FleetClient) (session : QuicSession),
    f.Advertises service entry → f.Behind service.nodeId entry c session →
    c.Informed session service.serviceId →
    ∃ published, c.process.service = some published ∧ ∀ tunnelId : TunnelId,
      DataStream.lookedUp c.client.localServices tunnelId service.serviceId =
        .connect tunnelId published.localAddress

/-- **What the server has accepted over the active session, its client serves.** -/
theorem accepted_served (cfg : RelayConfig) (f : Fleet) (hreached : f.Reached cfg) : f.Serves := by
  rintro service entry c session - ⟨hmem, hsession, -⟩ ⟨⟨accepted, hpublished, hid⟩, hqueue, hstored⟩
  obtain ⟨k, hk⟩ := List.mem_iff_getElem?.mp hmem
  obtain ⟨task, -, horder⟩ := hreached.inv.handled k c hk
  have hholds := horder.holds session hsession
  have hheld : c.client.localServices[service.serviceId]?.isSome := by
    rcases hholds.accepted accepted hpublished with hheld | ⟨hpc, -⟩ | hqueued
    · rw [← hid]
      exact hheld
    · exact absurd hpc hstored
    · rw [hqueue] at hqueued
      cases hqueued
  obtain ⟨localAddress, hget⟩ := Option.isSome_iff_exists.mp hheld
  obtain ⟨published, hservice, rfl⟩ := hholds.address _ _ hget
  refine ⟨published, hservice, fun tunnelId => ?_⟩
  simp only [DataStream.lookedUp, hget]

namespace Sample

/-- A client of node 7 with what it publishes. -/
def publisher (service : Option ServiceDefinition) : ClientConfig :=
  { LongSession.config with
    service }

def web : ServiceDefinition := service 1 "web" 7 .http none

/-- The entry of the directory for it. -/
def leasedWeb : ServiceDefinition := { web with publicHost := some "web.apps.test" }

/-- The handler of the `k`-th client, between two frames. -/
def handler (k : Nat) (sessionId : BitVec 128) : LiveSession where
  peer := ⟨k, ⟨sessionId⟩, "203.0.113.7", 40000⟩
  transport := .quic
  kind := .user
  hash := hashToken "user"
  nodeId := ⟨7⟩
  registeredNode := true
  accepted := true

/-- The `k`-th client connects and registers its node, and its service when it has one. -/
def enters (k : Nat) (sessionId : BitVec 128) (service : Option ServiceDefinition) :
    List FleetEvent :=
  let completes (n : Nat) : List FleetEvent := List.replicate n (.acts k (.completes (.ok ())))
  let serves (n : Nat) : List FleetEvent := List.replicate n (.serves k { input := .ok .goodbye })
  .connects (publisher service) (handler k sessionId).peer .quic ::
    completes 3 ++ serves 1 ++ [.acts k .delivers] ++ completes 1 ++ serves 1 ++
    [.acts k .delivers] ++ completes 2 ++ serves 7 ++
    (if service.isSome then serves 7 ++ [.acts k .delivers] ++ completes 1 else [])

/-- The connection of the `k`-th client breaks. -/
def leaves (k : Nat) : FleetEvent := .serves k { input := .error "connection lost" }

def fleet (events : List FleetEvent) : Fleet := run (Fleet.next config) ⟨⟨started, []⟩, []⟩ events

theorem fleet_reached (events : List FleetEvent) : (fleet events).Reached config :=
  ⟨{}, hashToken "admin", hashToken "user", {}, started, events, started_ok, rfl⟩

end Sample

/-- A published service is connected to the address that its client has for it. -/
theorem accepted_served_web :
    let f := Sample.fleet (Sample.enters 0 1 (some Sample.web))
    ∃ entry c session, f.Advertises Sample.leasedWeb entry ∧ f.Behind ⟨7⟩ entry c session ∧
      c.Informed session ⟨1⟩ ∧ c.process.service = some Sample.web ∧
      ∀ tunnelId : TunnelId, DataStream.lookedUp c.client.localServices tunnelId ⟨1⟩ =
        .connect tunnelId "127.0.0.1:3000" := by
  intro f
  let c := f.clients.get ⟨0, by decide +kernel⟩
  let session : QuicSession :=
    { pc := .sendHeartbeat 1
      sent := [.hello protocolVersion, .auth "user" ⟨7⟩, .registerNode Sample.metadata 5,
        .registerService Sample.web] }
  have hadvertises : f.Advertises Sample.leasedWeb (Sample.handler 0 1).entry :=
    ⟨by decide +kernel, by decide +kernel, by decide +kernel⟩
  have hbehind : f.Behind ⟨7⟩ (Sample.handler 0 1).entry c session :=
    ⟨List.get_mem _ _, by decide +kernel, Sample.handler 0 1, by decide +kernel, rfl, rfl⟩
  have hpublished : c.published = [Sample.leasedWeb] := by decide +kernel
  have hinformed : c.Informed session ⟨1⟩ :=
    ⟨⟨Sample.leasedWeb, by rw [hpublished]; exact List.mem_singleton_self _, rfl⟩,
      by decide +kernel, by decide⟩
  have hservice : c.process.service = some Sample.web := by decide +kernel
  obtain ⟨published, hprocess, hserved⟩ := accepted_served Sample.config f (Sample.fleet_reached _)
    Sample.leasedWeb (Sample.handler 0 1).entry c session hadvertises hbehind hinformed
  rw [hservice] at hprocess
  cases hprocess
  exact ⟨_, c, session, hadvertises, hbehind, hinformed, hservice, hserved⟩

/-- A service that is advertised and that the client behind its session does not have. -/
theorem Fleet.not_servable {f : Fleet} {service : ServiceDefinition} {entry : ActiveSession}
    {c : FleetClient} {session : QuicSession} (hadvertises : f.Advertises service entry)
    (hbehind : f.Behind service.nodeId entry c session)
    (hunknown : c.client.localServices[service.serviceId]? = none) : ¬f.Servable := by
  intro h
  have hknown := h service entry c session hadvertises hbehind
  rw [hunknown] at hknown
  cases hknown

/-- **A restarted client that publishes nothing** registers its node; the service that
an earlier session of the node has left in the directory is unknown to it. -/
theorem leased_unserved :
    let f := Sample.fleet (Sample.enters 0 1 (some Sample.web) ++ [Sample.leaves 0] ++
      Sample.enters 1 2 none)
    f.Reached Sample.config ∧ ¬f.Servable := by
  intro f
  refine ⟨Sample.fleet_reached _, ?_⟩
  let c := f.clients.get ⟨1, by decide +kernel⟩
  let session : QuicSession :=
    { pc := .readAck 1
      sent := [.hello protocolVersion, .auth "user" ⟨7⟩, .registerNode Sample.metadata 5,
        .heartbeat (LongSession.config.snapshot 1)] }
  have hadvertises : f.Advertises Sample.leasedWeb (Sample.handler 1 2).entry :=
    ⟨by decide +kernel, by decide +kernel, by decide +kernel⟩
  have hbehind : f.Behind ⟨7⟩ (Sample.handler 1 2).entry c session :=
    ⟨List.get_mem _ _, by decide +kernel, Sample.handler 1 2, by decide +kernel, rfl, rfl⟩
  exact Fleet.not_servable hadvertises hbehind (by decide +kernel)

/-- **A service that `POST /v1/services` has created** for a node is unknown to its client,
which reads of no service but its own. -/
theorem posted_unserved :
    let f := Sample.fleet (Sample.enters 0 1 none ++
      .plane (.spawn (.service (.register ⟨7⟩ (.lock Sample.web)))) ::
        List.replicate 4 (.plane (.run 1 {})))
    f.Reached Sample.config ∧ ¬f.Servable := by
  intro f
  refine ⟨Sample.fleet_reached _, ?_⟩
  let c := f.clients.get ⟨0, by decide +kernel⟩
  let session : QuicSession :=
    { pc := .readAck 1
      sent := [.hello protocolVersion, .auth "user" ⟨7⟩, .registerNode Sample.metadata 5,
        .heartbeat (LongSession.config.snapshot 1)] }
  have hadvertises : f.Advertises Sample.leasedWeb (Sample.handler 0 1).entry :=
    ⟨by decide +kernel, by decide +kernel, by decide +kernel⟩
  have hbehind : f.Behind ⟨7⟩ (Sample.handler 0 1).entry c session :=
    ⟨List.get_mem _ _, by decide +kernel, Sample.handler 0 1, by decide +kernel, rfl, rfl⟩
  exact Fleet.not_servable hadvertises hbehind (by decide +kernel)

end OngrokRelay
