import OngrokRelay.ControlPlane

/-
  What a session can do before its RegisterNode has passed its checks.

  The node's public key is checked in the RegisterNode arm alone; every other
  arm acts on the node id the client claimed in Auth. The RegisterService arm
  asks whether the node is registered, the Heartbeat and UnregisterService arms
  do not.

  1. `LiveSession.step_early`: a session that has not passed the checks stands
     where it has written nothing, and writes nothing in a section whose frame
     finds nothing of the claimed node.
  2. `identity_gate`: so in every run whose frames find nothing, no session
     changes anything before it has passed.
  3. `claimed_node_is_touched`: a session that has only claimed a node id
     withdraws a service of that node and marks it heard.
-/

namespace OngrokRelay

open Interleaving Transition ControlPlane

/-- The maps and tables the gate protects are as they were. -/
structure Untouched (before after : AppState) : Prop where
  services : after.services = before.services
  nodes : after.nodes = before.nodes
  tasks : after.tcpIngressTasks = before.tcpIngressTasks
  storedServices : after.store.services = before.store.services
  storedNodes : after.store.nodes = before.store.nodes
  storedMetrics : after.store.metrics = before.store.metrics

/-- No RegisterNode of the session has passed its checks. -/
def SessionTask.unproved : SessionTask → Bool
  | live s => !s.accepted
  | hello _ _ | auth _ _ | refused _ _ => true

/-- A section of a session before it has passed changes nothing. -/
def GateHolds (cfg : RelayConfig) (p : ControlPlane) : Event Env ControlTask → Prop
  | .run i env => ∀ task : SessionTask, p.tasks[i]? = some (.session task) → task.unproved →
      Untouched p.shared (p.next cfg (.run i env)).shared
  | .spawn _ => True

namespace LiveSession

/-- A heartbeat or a withdrawal is about to find nothing of the node. -/
def findsNothing (s : LiveSession) (st : AppState) : Bool :=
  match s.pc with
  | .heartbeat _ (.nodes _) => st.nodes[s.nodeId]?.isNone
  | .unregisterService serviceId .lock => !ownedBy st.services serviceId s.nodeId
  | _ => true

end LiveSession

/-- The task's next section is not one in which a session that has not passed
the checks finds something of the node it claims. -/
def ControlTask.gated (st : AppState) : ControlTask → Bool
  | session (.live s) => s.accepted || s.findsNothing st
  | _ => true

def Gated (p : ControlPlane) : Event Env ControlTask → Prop
  | .run i _ => ∀ task ∈ p.tasks[i]?, task.gated p.shared
  | .spawn _ => True

instance (p : ControlPlane) : ∀ e : Event Env ControlTask, Decidable (Gated p e)
  | .run i _ => inferInstanceAs (Decidable (∀ task ∈ p.tasks[i]?, task.gated p.shared))
  | .spawn _ => inferInstanceAs (Decidable True)

/-! ## A session that has not passed the checks -/

/-- The session has written nothing since its handshake. -/
def SessionPc.early : SessionPc → Bool
  | .loop | .finished _ => true
  | .registerNode (.identity _ _) => true
  | .unregisterService _ .lock => true
  | .heartbeat _ (.nodes _) => true
  | .ending .check _ => true
  | _ => false

namespace LiveSession

/-- The session has registered nothing and written nothing. -/
def Early (s : LiveSession) : Prop := s.registeredNode = false ∧ s.pc.early

theorem fail_early {s : LiveSession} (h : s.registeredNode = false) (e : String) :
    (s.fail e).Early := by
  unfold fail
  split <;> exact ⟨h, rfl⟩

theorem replied_early {s : LiveSession} (h : s.registeredNode = false) (env : Env) :
    (s.replied env).Early := by
  unfold replied
  split
  · exact fail_early h _
  · exact ⟨h, rfl⟩

theorem read_early {s : LiveSession} (h : s.registeredNode = false) (env : Env) :
    (s.read env).Early := by
  unfold read
  split
  · exact fail_early h _
  · split
    · exact fail_early h _
    · exact ⟨h, rfl⟩
  · -- RegisterService is the one arm that asks
    rw [h, Bool.not_false, Bool.true_or, if_pos rfl]
    exact replied_early h env
  · exact ⟨h, rfl⟩
  · exact ⟨h, rfl⟩
  · exact ⟨h, rfl⟩
  · exact replied_early h env

/-- **One section before the gate.** -/
theorem step_early (cfg : RelayConfig) (env : Env) {st : AppState} {s : LiveSession}
    (h : s.Early) (hfinds : s.findsNothing st)
    (hinactive : sessionActive st s.nodeId s.peer.sessionId = false) :
    (s.step cfg env st).1 = st ∧
      ((s.step cfg env st).2.accepted = false → (s.step cfg env st).2.Early) := by
  obtain ⟨hregistered, hearly⟩ := h
  unfold step
  unfold findsNothing at hfinds
  cases hpc : s.pc with
  | loop => exact ⟨rfl, fun _ => read_early hregistered env⟩
  | finished result => exact ⟨rfl, fun _ => ⟨hregistered, by rw [hpc]; rfl⟩⟩
  | registerNode pc =>
    cases pc with
    | identity metadata publicKey =>
      -- a check that passes ends the session's time before the gate
      simp only [registerNodeStep]
      cases validateNodeIdentity st.nodes s.nodeId publicKey with
      | error e => exact ⟨rfl, fun _ => fail_early hregistered e⟩
      | ok _ => exact ⟨rfl, fun h => by cases h⟩
    | activate metadata publicKey | close replaced metadata publicKey | insertNode node | put node
    | event | done result =>
      rw [hpc] at hearly
      cases hearly
  | registerService pc =>
    rw [hpc] at hearly
    cases hearly
  | unregisterService serviceId pc =>
    cases pc with
    | lock =>
      simp only [hpc, Bool.not_eq_true'] at hfinds
      simp only [unregisterStep, hfinds, Bool.false_eq_true, if_false]
      exact ⟨rfl, fun _ => ⟨hregistered, rfl⟩⟩
    | deleteRow | event | abort | done result =>
      rw [hpc] at hearly
      cases hearly
  | heartbeat sequence pc =>
    cases pc with
    | nodes snapshot =>
      simp only [hpc, Option.isNone_iff_eq_none] at hfinds
      simp only [heartbeatStep, hfinds]
      exact ⟨rfl, fun _ => replied_early hregistered env⟩
    | putNode node metric | putMetric metric | done result =>
      rw [hpc] at hearly
      cases hearly
  | ending pc result =>
    cases pc with
    | check =>
      -- the test does not find the session, so the clean-up ends here
      simp only [cleanUpStep, hinactive, Bool.false_eq_true, if_false]
      exact ⟨rfl, fun _ => ⟨hregistered, rfl⟩⟩
    | remove | markOffline | put node | event | done result' =>
      rw [hpc] at hearly
      cases hearly

end LiveSession

/-! ## Whole runs -/

/-- The sessions map has no entry of a session that has not passed the checks. -/
theorem SessionsOwned.inactive {p : ControlPlane} (h : SessionsOwned p) {i : Nat}
    {s : LiveSession} (hs : p.tasks[i]? = some (.session (.live s))) (hunproved : s.accepted = false) :
    sessionActive p.shared s.nodeId s.peer.sessionId = false := by
  unfold sessionActive
  cases hentry : p.shared.sessions[s.nodeId]? with
  | none => rfl
  | some entry =>
    rw [Option.any_some]
    refine beq_eq_false_iff_ne.mpr fun hid => ?_
    obtain ⟨j, _, htask, owner, rfl, haccepted, -, rfl⟩ := h.owned s.nodeId entry hentry
    have hij := h.distinct j i _ _ s.peer.sessionId htask hs (congrArg some hid) rfl
    subst hij
    rw [hs] at htask
    cases htask
    rw [hunproved] at haccepted
    cases haccepted

/-- Every session that has not passed the checks has written nothing. -/
structure BehindGate (p : ControlPlane) : Prop where
  owned : SessionsOwned p
  early : ∀ (i : Nat) (s : LiveSession), p.tasks[i]? = some (.session (.live s)) →
    s.accepted = false → s.Early

/-- One section of a task that stands behind the gate, or of one that has passed it. -/
theorem BehindGate.step {p : ControlPlane} (h : BehindGate p) {i : Nat} {task : ControlTask}
    (htask : p.tasks[i]? = some task) (hgated : task.gated p.shared) (cfg : RelayConfig)
    (env : Env) :
    (∀ session : SessionTask, task = .session session → session.unproved →
      (task.step cfg env p.shared).1 = p.shared) ∧
    ∀ s : LiveSession, (task.step cfg env p.shared).2 = .session (.live s) → s.accepted = false →
      s.Early := by
  cases task with
  | service task | replace kind hash pc =>
    refine ⟨fun _ h => ?_, fun s hs => ?_⟩
    · cases h
    · cases hs
  | session session =>
    cases session with
    | refused peer reason =>
      refine ⟨fun _ _ _ => rfl, fun s hs => ?_⟩
      cases hs
    | hello peer transport =>
      rcases SessionTask.hello_cases cfg env p.shared peer transport with
        hstep | ⟨reason, hstep⟩ <;>
        rw [ControlTask.step, hstep] <;> exact ⟨fun _ _ _ => rfl, fun s hs => by cases hs⟩
    | auth peer transport =>
      rcases SessionTask.auth_cases cfg env p.shared peer transport with
        ⟨reason, hstep⟩ | ⟨token, nodeId, kind, -, hstep⟩
      · rw [ControlTask.step, hstep]
        exact ⟨fun _ _ _ => rfl, fun s hs => by cases hs⟩
      · -- a session that has just authenticated has registered and written nothing
        rw [ControlTask.step, hstep]
        refine ⟨fun _ _ _ => rfl, fun s hs _ => ?_⟩
        cases hs
        exact ⟨rfl, rfl⟩
    | live session =>
      cases haccepted : session.accepted with
      | true =>
        refine ⟨fun _ hs hunproved => ?_, fun s hs hnot => ?_⟩
        · cases hs
          simp [SessionTask.unproved, haccepted] at hunproved
        · have hkept := (session.step_keeps cfg env p.shared).accepted haccepted
          rw [ControlTask.step_live hs, hnot] at hkept
          cases hkept
      | false =>
        have hfinds : session.findsNothing p.shared := by
          simpa [ControlTask.gated, haccepted] using hgated
        obtain ⟨hst, hearly⟩ := LiveSession.step_early cfg env
          (h.early i session htask haccepted) hfinds (h.owned.inactive htask haccepted)
        refine ⟨fun _ _ _ => hst, fun s hs => ?_⟩
        rw [← ControlTask.step_live hs]
        exact hearly

theorem BehindGate.next {cfg : RelayConfig} {p : ControlPlane} {e : Event Env ControlTask}
    (h : BehindGate p) (hgated : Gated p e) : BehindGate (p.next cfg e) := by
  refine ⟨h.owned.next e, fun j s hs hunproved => ?_⟩
  rcases p.next_cases cfg e with he | ⟨i, env, task, rfl, htask, he⟩ | ⟨task, rfl, hopens, he⟩
  · rw [he] at hs
    exact h.early j s hs hunproved
  · rw [he] at hs
    rcases getElem?_set_some hs with ⟨-, hs⟩ | ⟨-, hs⟩
    · exact (h.step htask (hgated task htask) cfg env).2 s hs.symm hunproved
    · exact h.early j s hs hunproved
  · rw [he] at hs
    rcases getElem?_append_some hs with hs | ⟨-, rfl⟩
    · exact h.early j s hs hunproved
    · cases hopens

theorem BehindGate.holds {cfg : RelayConfig} {p : ControlPlane} {e : Event Env ControlTask}
    (h : BehindGate p) (hgated : Gated p e) : GateHolds cfg p e := by
  cases e with
  | spawn task => trivial
  | run i env =>
    intro session htask hunproved
    have hst := (h.step htask (hgated _ htask) cfg env).1 session rfl hunproved
    have hnext : (p.next cfg (.run i env)).shared = p.shared := by
      rw [ControlPlane.next, p.advance_eq env htask]
      exact hst
    rw [hnext]
    exact ⟨rfl, rfl, rfl, rfl, rfl, rfl⟩

/-- **The identity gate** holds in every run from a start of the server in which
no session, before it has passed the checks of RegisterNode, sends a Heartbeat
that finds a record of the claimed node or an UnregisterService that finds a
service of it. -/
theorem identity_gate (cfg : RelayConfig) {env : Env} {adminHash userHash : TokenHash}
    {store : ServiceStore} {st : AppState} (hstart : start env adminHash userHash store = .ok st)
    (events : List (Event Env ControlTask))
    (hgated : EveryStep (ControlPlane.next cfg) Gated ⟨st, []⟩ events) :
    EveryStep (ControlPlane.next cfg) (GateHolds cfg) ⟨st, []⟩ events := by
  have hreached : Reached cfg ⟨st, []⟩ :=
    ⟨env, adminHash, userHash, store, st, [], hstart, rfl⟩
  refine everyStep_of_invariant (P := BehindGate) (fun p e hp he => hp.next he)
    (fun p e hp he => hp.holds he) ⟨hreached.sessionsOwned, fun i s hs => ?_⟩ hgated
  cases hs

/-! ## A node id that is only claimed -/

namespace ClaimedNode

/-- Node 7 registers and publishes a service. -/
def published : List (Event Env ControlTask) :=
  Sample.connects 0 11 7 ++ Sample.registers 0 ++
    [.run 0 { input := .ok (.registerService (Sample.service 1 "api" 7 .http none)) },
      .run 0 {}, .run 0 {}, .run 0 {}]

def snapshot : HeartbeatSnapshot := ⟨1, 0, none, none, none, none, none⟩

def heartbeat (i : Nat) : Event Env ControlTask := .run i { input := .ok (.heartbeat snapshot) }

def unregister (i : Nat) : Event Env ControlTask := .run i { input := .ok (.unregisterService ⟨1⟩) }

/-- A second session claims the same node and withdraws the service. -/
def claimed : List (Event Env ControlTask) := published ++ Sample.connects 1 12 7 ++ [unregister 1]

/-- The second session, about to withdraw the service. -/
def claimant : LiveSession where
  peer := ⟨1, ⟨12⟩, "203.0.113.7", 40000⟩
  transport := .quic
  kind := .user
  hash := Sample.hashToken "user"
  nodeId := ⟨7⟩
  pc := .unregisterService ⟨1⟩ .lock

/-- The second session claims a node that has no record and publishes nothing. -/
def unknown : List (Event Env ControlTask) :=
  published ++ Sample.connects 1 12 9 ++ [heartbeat 1, .run 1 {}, unregister 1, .run 1 {}]

end ClaimedNode

open ClaimedNode in
/-- **A session that has only claimed a node id withdraws a service of the node.** -/
theorem claimed_node_is_touched :
    ¬∀ (cfg : RelayConfig) (env : Env) (adminHash userHash : TokenHash) (store : ServiceStore)
      (st : AppState), start env adminHash userHash store = .ok st →
      ∀ events : List (Event Env ControlTask),
        EveryStep (ControlPlane.next cfg) (GateHolds cfg) ⟨st, []⟩ events := by
  intro h
  have hsteps := h Sample.config {} _ _ {} Sample.started Sample.started_ok (claimed ++ [.run 1 {}])
  obtain ⟨-, hlast, -⟩ := everyStep_append.mp hsteps
  have htask : (Sample.reached claimed).tasks[1]? = some (.session (.live claimant)) := by
    decide +kernel
  have hservices := (hlast (.live claimant) htask rfl).services
  have hbefore : (Sample.reached claimed).shared.services[(⟨1⟩ : ServiceId)]?.isSome := by
    decide +kernel
  have hafter : ((Sample.reached claimed).next Sample.config
      (.run 1 {})).shared.services[(⟨1⟩ : ServiceId)]?.isSome = false := by decide +kernel
  have hsame := congrArg (fun services : Services => services[(⟨1⟩ : ServiceId)]?.isSome) hservices
  exact Bool.false_ne_true (hafter.symm.trans (hsame.trans hbefore))

open ClaimedNode in
theorem identity_gate_unknown :
    EveryStep (ControlPlane.next Sample.config) (GateHolds Sample.config) ⟨Sample.started, []⟩
      unknown :=
  identity_gate Sample.config Sample.started_ok unknown (by decide +kernel)

end OngrokRelay
