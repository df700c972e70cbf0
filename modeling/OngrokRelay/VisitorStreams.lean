import OngrokRelay.ControlPlane

/-
  Whom a visitor's stream is opened with (`open_client_stream` before it has a stream).

  The service is looked up under one lock and the session of its node under another, and
  between the two, as before and after them, the control plane goes on: services come and
  go, sessions activate and end, tokens are replaced. A visit keeps copies of what it has
  found.

  1. `LiveSession.step_accepted`: a session is accepted in the section in which its key is
     checked.
  2. `Vouched`: of every session, that it has authenticated, and that its key has been
     checked if it is accepted. `recorded_run`: so it is in every run.
  3. `visitor_streams_authorized`: the session a stream is opened with is one of the node
     whose service was looked up.

  Correspondence (Rust ↔ Lean):
    `open_client_stream`, to its stream   ↔ `Visit.step`
    the accept loops of both ingresses    ↔ `ReceptionEvent.accepts`
-/

namespace OngrokRelay

open Interleaving Transition

/-! ## Visits -/

/-- The await `open_client_stream` is suspended at until it has a stream. -/
inductive VisitPc
  | services
  | sessions (service : ServiceDefinition)
  | opening (service : ServiceDefinition) (session : ActiveSession)
  | streaming (service : ServiceDefinition) (session : ActiveSession)
  | failed (reason : String)
  deriving DecidableEq

structure Visit where
  serviceId : ServiceId
  pc : VisitPc := .services
  deriving DecidableEq

/-- What the opening of a stream comes to. -/
inductive OpenResult
  | opened
  | failed
  | timedOut
  deriving DecidableEq

def ClientSession.transportName : ClientSession → String
  | .quic _ => "QUIC"
  | .yamux _ => "Yamux"

namespace Visit

def step (st : AppState) (result : OpenResult) (v : Visit) : Visit :=
  match v.pc with
  | .services =>
    match st.services[v.serviceId]? with
    | none => { v with pc := .failed "service is no longer registered" }
    | some service => { v with pc := .sessions service }
  | .sessions service =>
    match st.sessions[service.nodeId]? with
    | none => { v with pc := .failed "service node is offline" }
    | some session => { v with pc := .opening service session }
  | .opening service session =>
    let transport := session.connection.transportName
    match result with
    | .opened => { v with pc := .streaming service session }
    | .failed => { v with pc := .failed s!"failed to open {transport} client data stream" }
    | .timedOut =>
      { v with pc := .failed s!"timed out while opening {transport} client data stream" }
  | .streaming _ _ | .failed _ => v

/-- The service that the visit has found. -/
def service? (v : Visit) : Option ServiceDefinition :=
  match v.pc with
  | .sessions service | .opening service _ | .streaming service _ => some service
  | _ => none

/-- The session that its stream is opened with. -/
def session? (v : Visit) : Option ActiveSession :=
  match v.pc with
  | .opening _ session | .streaming _ session => some session
  | _ => none

end Visit

/-- A server with its visits. -/
structure Reception where
  plane : ControlPlane
  visits : List Visit := []

inductive ReceptionEvent
  | control (e : Event Env ControlTask)
  | accepts (serviceId : ServiceId)
  | visit (i : Nat) (result : OpenResult)

namespace Reception

def next (cfg : RelayConfig) (r : Reception) : ReceptionEvent → Reception
  | .control e => { r with plane := r.plane.next cfg e }
  | .accepts serviceId => { r with visits := r.visits ++ [{ serviceId }] }
  | .visit i result => { r with visits := r.visits.modify i (Visit.step r.plane.shared result) }

/-- The server has just started. -/
def begin (st : AppState) : Reception := { plane := ⟨st, []⟩ }

end Reception

/-! ## How a session is accepted -/

namespace LiveSession

theorem accepted_fail (s : LiveSession) (e : String) : (s.fail e).accepted = s.accepted := by
  unfold fail
  split <;> rfl

theorem accepted_replied (s : LiveSession) (env : Env) : (s.replied env).accepted = s.accepted := by
  unfold replied
  split
  · exact s.accepted_fail _
  · rfl

theorem accepted_read (s : LiveSession) (env : Env) : (s.read env).accepted = s.accepted := by
  unfold read
  split
  · exact s.accepted_fail _
  · split
    · exact s.accepted_fail _
    · rfl
  · split
    · exact s.accepted_replied env
    · rfl
  · rfl
  · rfl
  · rfl
  · exact s.accepted_replied env

/-- **A session is accepted** in the section in which its key is checked. -/
theorem step_accepted {cfg : RelayConfig} {env : Env} {st : AppState} {s : LiveSession}
    (h : (s.step cfg env st).2.accepted = true) (hnot : s.accepted = false) :
    ∃ metadata publicKey, s.pc = .registerNode (.identity metadata publicKey) ∧
      validateNodeIdentity st.nodes s.nodeId publicKey = .ok () := by
  -- every other section leaves the flag
  have hkept (s' : LiveSession) (hs' : s'.accepted = s.accepted) (h : s'.accepted = true) :
      False := by
    rw [hs', hnot] at h
    cases h
  unfold step at h
  split at h
  · exact (hkept _ (s.accepted_read env) h).elim
  · rename_i pc hpc
    cases pc with
    | identity metadata publicKey =>
      simp only [registerNodeStep] at h
      cases hidentity : validateNodeIdentity st.nodes s.nodeId publicKey with
      | error e =>
        simp only [hidentity, Prod.map_snd, afterRegisterNode] at h
        exact (hkept _ (s.accepted_fail e) h).elim
      | ok _ => exact ⟨metadata, publicKey, hpc, hidentity⟩
    | put node =>
      simp only [registerNodeStep] at h
      cases hput : env.putNode node.nodeId with
      | error e =>
        simp only [hput, Prod.map_snd, afterRegisterNode] at h
        exact (hkept _ (s.accepted_fail e) h).elim
      | ok _ =>
        simp only [hput] at h
        exact (hkept _ rfl h).elim
    | done result =>
      cases result with
      | ok _ => exact (hkept _ rfl h).elim
      | error e => exact (hkept _ (s.accepted_fail e) h).elim
    | activate metadata publicKey | close replaced metadata publicKey | insertNode node
    | event => exact (hkept _ rfl h).elim
  · simp only [Prod.map_snd, afterRegisterService] at h
    split at h
    · exact (hkept _ (s.accepted_replied env) h).elim
    · exact (hkept _ rfl h).elim
  · simp only [Prod.map_snd, afterUnregisterService] at h
    split at h
    · exact (hkept _ rfl h).elim
    · exact (hkept _ (s.accepted_fail _) h).elim
    · exact (hkept _ rfl h).elim
  · simp only [Prod.map_snd, afterHeartbeat] at h
    split at h
    · exact (hkept _ (s.accepted_replied env) h).elim
    · exact (hkept _ (s.accepted_fail _) h).elim
    · exact (hkept _ rfl h).elim
  · simp only [Prod.map_snd, afterCleanUp] at h
    split at h <;> exact (hkept _ rfl h).elim
  · exact (hkept _ rfl h).elim

end LiveSession

/-! ## What vouches for a session -/

namespace LiveSession

theorem Keeps.trans {a b c : LiveSession} (h : Keeps a b) (h' : Keeps b c) : Keeps a c :=
  ⟨h'.peer.trans h.peer, h'.transport.trans h.transport, h'.kind.trans h.kind,
    h'.hash.trans h.hash, h'.nodeId.trans h.nodeId, fun ha => h'.accepted (h.accepted ha)⟩

/-- The session has the key of its RegisterNode checked, and it is the node's. -/
def Checks (st : AppState) (s : LiveSession) : Prop :=
  ∃ metadata publicKey, s.pc = .registerNode (.identity metadata publicKey) ∧
    validateNodeIdentity st.nodes s.nodeId publicKey = .ok ()

/-- The section is the Auth of the session, as no other task has the session id of its peer:
the frame names the node, and its token is one of the server's at that moment. -/
def Authenticates (cfg : RelayConfig) (s : LiveSession) (r : Reception) (e : ReceptionEvent) :
    Prop :=
  ∃ i env token, e = .control (.run i env) ∧
    r.plane.tasks[i]? = some (.session (.auth s.peer s.transport)) ∧
    env.input = .ok (.auth token s.nodeId) ∧ cfg.hashToken token = s.hash ∧
    authenticateToken cfg r.plane.shared token = some s.kind

/-- The section is the check of the session's key against the record of its node, and it
passes. -/
def PassesCheck (s : LiveSession) (r : Reception) (e : ReceptionEvent) : Prop :=
  ∃ i env s', e = .control (.run i env) ∧ r.plane.tasks[i]? = some (.session (.live s')) ∧
    s'.Keeps s ∧ s'.Checks r.plane.shared

end LiveSession

/-- What the frame of an accepted Auth has said, and what the session takes from it. -/
theorem SessionTask.auth_live {cfg : RelayConfig} {env : Env} {st : AppState} {peer : Peer}
    {transport : TransportKind} {s : LiveSession}
    (h : (SessionTask.step cfg env st (.auth peer transport)).2 = .live s) :
    (s.peer = peer ∧ s.transport = transport ∧ s.accepted = false) ∧
    ∃ token, env.input = .ok (.auth token s.nodeId) ∧ cfg.hashToken token = s.hash ∧
      authenticateToken cfg st token = some s.kind := by
  simp only [step] at h
  split at h
  · cases h
  · cases h
  · rename_i token nodeId _ hinput _
    cases hkind : authenticateToken cfg st token with
    | none =>
      simp only [hkind] at h
      cases h
    | some kind =>
      simp only [hkind] at h
      cases h
      exact ⟨⟨rfl, rfl, rfl⟩, token, hinput, rfl, hkind⟩
  · cases h

section
variable (cfg : RelayConfig) (st : AppState) (events : List ReceptionEvent)

/-- What has come before a session: in its Auth section its token was one of the two, and if
it is accepted its key has been checked. -/
structure Vouched (s : LiveSession) : Prop where
  authenticated : OnceStep (Reception.next cfg) (s.Authenticates cfg) (.begin st) events
  checked : s.accepted = true → OnceStep (Reception.next cfg) s.PassesCheck (.begin st) events

/-- What has come before a visit. -/
structure Recorded (r : Reception) : Prop where
  vouched : ∀ s, .session (.live s) ∈ r.plane.tasks → Vouched cfg st events s
  found : ∀ v ∈ r.visits, ∀ service, v.service? = some service →
    Once (Reception.next cfg)
      (fun r => r.plane.shared.services[v.serviceId]? = some service) (.begin st) events
  owned : ∀ v ∈ r.visits, ∀ session, v.session? = some session → ∃ service,
    v.service? = some service ∧ ∃ task ∈ r.plane.tasks, task.Owns service.nodeId session

end

section
variable {cfg : RelayConfig} {st : AppState} {events : List ReceptionEvent}

theorem Vouched.later {s : LiveSession} (h : Vouched cfg st events s) (e : ReceptionEvent) :
    Vouched cfg st (events ++ [e]) s :=
  ⟨h.authenticated.later e, fun haccepted => (h.checked haccepted).later e⟩

/-- A session that moves on is vouched for by what has vouched for it, or by the section it
has just run. -/
theorem Vouched.step {s : LiveSession} (h : Vouched cfg st events s) {i : Nat}
    (hs : (run (Reception.next cfg) (.begin st) events).plane.tasks[i]? =
      some (.session (.live s))) (env : Env) :
    Vouched cfg st (events ++ [.control (.run i env)])
      (s.step cfg env (run (Reception.next cfg) (.begin st) events).plane.shared).2 := by
  have hkeeps := s.step_keeps cfg env (run (Reception.next cfg) (.begin st) events).plane.shared
  refine ⟨(h.authenticated.later _).mono fun r e => ?_, fun haccepted => ?_⟩
  · rintro ⟨j, env', token, he, htask, hinput, hhash, hkind⟩
    refine ⟨j, env', token, he, ?_, ?_, ?_, ?_⟩
    · rw [hkeeps.peer, hkeeps.transport]
      exact htask
    · rw [hkeeps.nodeId]
      exact hinput
    · rw [hkeeps.hash]
      exact hhash
    · rw [hkeeps.kind]
      exact hkind
  · cases hbefore : s.accepted with
    | true =>
      refine ((h.checked hbefore).later _).mono fun r e => ?_
      rintro ⟨j, env', s', he, hs', hkept, hchecks⟩
      exact ⟨j, env', s', he, hs', hkept.trans hkeeps, hchecks⟩
    | false => exact .now ⟨i, env, s, rfl, hs, hkeeps, LiveSession.step_accepted haccepted hbefore⟩

/-- The control plane of a reception is one that the server has reached. -/
theorem Reception.plane_run (cfg : RelayConfig) (events : List ReceptionEvent) (r : Reception) :
    ∃ control, (run (Reception.next cfg) r events).plane =
      run (ControlPlane.next cfg) r.plane control := by
  induction events generalizing r with
  | nil => exact ⟨[], rfl⟩
  | cons e events ih =>
    obtain ⟨control, hcontrol⟩ := ih (r.next cfg e)
    cases e with
    | control e => exact ⟨e :: control, hcontrol⟩
    | accepts serviceId | visit i result => exact ⟨control, hcontrol⟩

/-- The owner of an entry stays in the pool. -/
theorem ControlPlane.owner_next {p : ControlPlane} {nodeId : NodeId} {entry : ActiveSession}
    (h : ∃ task ∈ p.tasks, task.Owns nodeId entry) (e : Event Env ControlTask) :
    ∃ task ∈ (p.next cfg e).tasks, task.Owns nodeId entry := by
  obtain ⟨task, htask, howns⟩ := h
  rcases p.next_cases cfg e with he | ⟨i, env, moved, -, hmoved, he⟩ | ⟨joined, -, -, he⟩
  · rw [he]
    exact ⟨task, htask, howns⟩
  · rw [he]
    obtain ⟨j, hj⟩ := List.mem_iff_getElem?.mp htask
    obtain ⟨k, owner, hk, howner⟩ := SessionsOwned.set_owner hmoved env ⟨j, task, hj, howns⟩
    exact ⟨owner, List.mem_of_getElem? hk, howner⟩
  · rw [he]
    exact ⟨task, List.mem_append_left _ htask, howns⟩

/-- A session that comes out of a section is vouched for. -/
theorem Vouched.moved
    (h : ∀ s, .session (.live s) ∈ (run (Reception.next cfg) (.begin st) events).plane.tasks →
      Vouched cfg st events s) {i : Nat} {task : ControlTask}
    (htask : (run (Reception.next cfg) (.begin st) events).plane.tasks[i]? = some task) {env : Env}
    {s : LiveSession}
    (hs : (task.step cfg env (run (Reception.next cfg) (.begin st) events).plane.shared).2 =
      .session (.live s)) : Vouched cfg st (events ++ [.control (.run i env)]) s := by
  cases task with
  | session task =>
    cases task with
    | live session =>
      obtain rfl := ControlTask.step_live hs
      exact (h session (List.mem_of_getElem? htask)).step htask env
    | auth peer transport =>
      -- the token it has presented is the server's at this moment
      obtain ⟨⟨rfl, rfl, hnot⟩, token, hinput, hhash, hkind⟩ :=
        SessionTask.auth_live (ControlTask.session.inj hs)
      refine ⟨.now ⟨i, env, token, rfl, htask, hinput, hhash, hkind⟩, fun haccepted => ?_⟩
      rw [hnot] at haccepted
      cases haccepted
    | hello peer transport =>
      rcases SessionTask.hello_cases cfg env
        (run (Reception.next cfg) (.begin st) events).plane.shared peer transport with
        hstep | ⟨reason, hstep⟩ <;> rw [ControlTask.step, hstep] at hs <;> cases hs
    | refused peer reason => cases hs
  | service task | replace kind hash pc => cases hs

/-- A section of the control plane. -/
theorem Recorded.control (h : Recorded cfg st events (run (Reception.next cfg) (.begin st) events))
    (e : Event Env ControlTask) :
    Recorded cfg st (events ++ [.control e])
      ((run (Reception.next cfg) (.begin st) events).next cfg (.control e)) := by
  refine ⟨fun s hs => ?_, fun v hv service hservice => (h.found v hv service hservice).later _,
    fun v hv session hsession => ?_⟩
  · have hvouched := h.vouched
    have hmoved := @Vouched.moved cfg st events hvouched
    generalize run (Reception.next cfg) (.begin st) events = r at hs hvouched hmoved
    simp only [Reception.next] at hs
    rcases r.plane.next_cases cfg e with he | ⟨i, env, task, rfl, htask, he⟩ | ⟨task, -, hopens, he⟩
    · rw [he] at hs
      exact (hvouched s hs).later _
    · rw [he] at hs
      rcases List.mem_or_eq_of_mem_set hs with hs | hs
      · exact (hvouched s hs).later _
      · exact hmoved htask hs.symm
    · rw [he] at hs
      rcases List.mem_append.mp hs with hs | hs
      · exact (hvouched s hs).later _
      · -- a session joins before its handshake
        rw [← List.mem_singleton.mp hs] at hopens
        cases hopens
  · obtain ⟨service, hservice, howner⟩ := h.owned v hv session hsession
    exact ⟨service, hservice, ControlPlane.owner_next howner e⟩

/-- What one section of a visit finds. -/
theorem Visit.step_found {st : AppState} {result : OpenResult} {v : Visit}
    {service : ServiceDefinition} (h : (v.step st result).service? = some service) :
    v.service? = some service ∨ st.services[v.serviceId]? = some service := by
  unfold step at h
  split at h
  · split at h
    · cases h
    · rename_i found hfound
      cases h
      exact .inr hfound
  · rename_i found hpc
    left
    rw [service?, hpc]
    split at h
    · cases h
    · exact h
  · rename_i found session hpc
    left
    rw [service?, hpc]
    cases result with
    | opened => exact h
    | failed | timedOut => cases h
  · exact .inl h
  · exact .inl h

theorem Visit.step_session {st : AppState} {result : OpenResult} {v : Visit}
    {session : ActiveSession} (h : (v.step st result).session? = some session) :
    (v.session? = some session ∧ (v.step st result).service? = v.service?) ∨
    ∃ service, (v.step st result).service? = some service ∧
      st.sessions[service.nodeId]? = some session := by
  unfold step at h ⊢
  split at h
  · split at h <;> cases h
  · rename_i found hpc
    split at h
    · cases h
    · rename_i entry hentry
      cases h
      exact .inr ⟨found, rfl, hentry⟩
  · rename_i found entry hpc
    cases result with
    | opened =>
      cases h
      exact .inl ⟨by rw [session?, hpc], by rw [service?, service?, hpc]⟩
    | failed | timedOut => cases h
  · exact .inl ⟨h, rfl⟩
  · rename_i hpc
    rw [session?, hpc] at h
    cases h

theorem Visit.step_serviceId (st : AppState) (result : OpenResult) (v : Visit) :
    (v.step st result).serviceId = v.serviceId := by
  unfold step
  split
  · split <;> rfl
  · split <;> rfl
  · split <;> rfl
  · rfl
  · rfl

/-- A section of a visit. -/
theorem Recorded.visit (h : Recorded cfg st events (run (Reception.next cfg) (.begin st) events))
    (howned : SessionsOwned (run (Reception.next cfg) (.begin st) events).plane) (i : Nat)
    (result : OpenResult) :
    Recorded cfg st (events ++ [.visit i result])
      ((run (Reception.next cfg) (.begin st) events).next cfg (.visit i result)) := by
  refine ⟨fun s hs => (h.vouched s hs).later _, fun v hv service hservice => ?_,
    fun v hv session hsession => ?_⟩
  · rcases mem_modify hv with hv | ⟨u, hu, rfl⟩
    · exact (h.found v hv service hservice).later _
    · rw [Visit.step_serviceId]
      rcases Visit.step_found hservice with hfound | hfound
      · exact (h.found u hu service hfound).later _
      · exact (Once.now hfound).later _
  · rcases mem_modify hv with hv | ⟨u, hu, rfl⟩
    · exact h.owned v hv session hsession
    · rcases Visit.step_session hsession with ⟨hsession, hsame⟩ | ⟨service, hservice, hentry⟩
      · rw [hsame]
        exact h.owned u hu session hsession
      · obtain ⟨j, task, htask, howns⟩ := howned.owned service.nodeId session hentry
        exact ⟨service, hservice, task, List.mem_of_getElem? htask, howns⟩

end

/-- **What has come before**, in every run. -/
theorem recorded_run {cfg : RelayConfig} {env : Env} {adminHash userHash : TokenHash}
    {store : ServiceStore} {st : AppState} (hstart : start env adminHash userHash store = .ok st)
    (events : List ReceptionEvent) :
    Recorded cfg st events (run (Reception.next cfg) (.begin st) events) := by
  refine run_history (I := Recorded cfg st) ?_ (fun events e h => ?_) events
  · refine ⟨fun s hs => ?_, fun v hv => ?_, fun v hv => ?_⟩
    · cases hs
    · cases hv
    · cases hv
  · cases e with
    | control e => exact h.control e
    | accepts serviceId =>
      refine ⟨fun s hs => (h.vouched s hs).later _, fun v hv service hservice => ?_,
        fun v hv session hsession => ?_⟩
      · rcases List.mem_append.mp hv with hv | hv
        · exact (h.found v hv service hservice).later _
        · rw [List.mem_singleton.mp hv] at hservice
          cases hservice
      · rcases List.mem_append.mp hv with hv | hv
        · exact h.owned v hv session hsession
        · rw [List.mem_singleton.mp hv] at hsession
          cases hsession
    | visit i result =>
      obtain ⟨control, hcontrol⟩ := Reception.plane_run cfg events (.begin st)
      have hreached : ControlPlane.Reached cfg (run (Reception.next cfg) (.begin st) events).plane :=
        ⟨env, adminHash, userHash, store, st, control, hstart, hcontrol⟩
      exact h.visit hreached.sessionsOwned i result

/-- **Whom a visitor's stream is opened with.** In every run of the control plane and of any
number of visits, a visit that opens a stream for a service has found the service in the
directory, and the session is that of a task which has authenticated, in its Auth section,
with what was then a token of the server, has claimed the node of the service there, and has
had its key checked against the record of that node. -/
theorem visitor_streams_authorized (cfg : RelayConfig) (env : Env) (adminHash userHash : TokenHash)
    (store : ServiceStore) (st : AppState) (hstart : start env adminHash userHash store = .ok st)
    (events : List ReceptionEvent) (v : Visit)
    (hv : v ∈ (run (Reception.next cfg) (.begin st) events).visits) (session : ActiveSession)
    (hsession : v.session? = some session) :
    ∃ service, v.service? = some service ∧
      Once (Reception.next cfg) (fun r => r.plane.shared.services[v.serviceId]? = some service)
        (.begin st) events ∧
      ∃ s : LiveSession, .session (.live s) ∈
          (run (Reception.next cfg) (.begin st) events).plane.tasks ∧
        s.nodeId = service.nodeId ∧ s.entry = session ∧
        OnceStep (Reception.next cfg) (s.Authenticates cfg) (.begin st) events ∧
        OnceStep (Reception.next cfg) s.PassesCheck (.begin st) events := by
  have h := @recorded_run cfg env adminHash userHash store st hstart events
  obtain ⟨service, hservice, task, htask, s, rfl, haccepted, hnode, hentry⟩ :=
    h.owned v hv session hsession
  have hvouched := h.vouched s htask
  exact ⟨service, hservice, h.found v hv service hservice, s, htask, hnode, hentry,
    hvouched.authenticated, hvouched.checked haccepted⟩

namespace Sample

/-- A node connects and registers, and announces a service. -/
def announces : List (Event Env ControlTask) :=
  connects 0 1 7 ++ registers 0 ++
    .run 0 { input := .ok (.registerService (service 9 "api" 7 .tcp (some 20000))) } ::
    List.replicate 7 (.run 0 {})

/-- A visitor comes for it. -/
def receives : List ReceptionEvent :=
  announces.map .control ++
    [.accepts ⟨9⟩, .visit 0 .opened, .visit 0 .opened, .visit 0 .opened]

def visitor : Visit :=
  ⟨⟨9⟩, .streaming { service 9 "api" 7 .tcp (some 20000) with publicHost := some "relay.test" }
    ⟨⟨1⟩, .user, .quic 0⟩⟩

end Sample

theorem visitor_streams_authorized_receives :
    ∃ service, Sample.visitor.service? = some service ∧
      Once (Reception.next Sample.config)
        (fun r => r.plane.shared.services[Sample.visitor.serviceId]? = some service)
        (.begin Sample.started) Sample.receives ∧
      ∃ s : LiveSession, .session (.live s) ∈ (run (Reception.next Sample.config)
          (.begin Sample.started) Sample.receives).plane.tasks ∧
        s.nodeId = service.nodeId ∧ s.entry = ⟨⟨1⟩, .user, .quic 0⟩ ∧
        OnceStep (Reception.next Sample.config) (s.Authenticates Sample.config)
          (.begin Sample.started) Sample.receives ∧
        OnceStep (Reception.next Sample.config) s.PassesCheck (.begin Sample.started)
          Sample.receives := by
  have hv : Sample.visitor ∈
      (run (Reception.next Sample.config) (.begin Sample.started) Sample.receives).visits := by
    decide +kernel
  exact visitor_streams_authorized Sample.config {} _ _ {} Sample.started Sample.started_ok
    Sample.receives Sample.visitor hv ⟨⟨1⟩, .user, .quic 0⟩ rfl

end OngrokRelay
