import OngrokRelay.ControlPlane

/-
  Whether the entries of the sessions map can be used.

  `activate_session` puts an entry into the map and closes the connection of the
  entry it displaces, whoever that entry belongs to. A session may send
  RegisterNode at any time and any number of times, so the entry displaced can
  be its own, and the entry made can be that of a connection that an earlier
  RegisterNode or a token replacement has closed.

  1. `ControlTask.step_closed`, `ControlTask.step_closes`: which connections one
     section closes, and which it leaves to be closed by the next one.
  2. `Usable.next`: no entry's connection is closed or about to be, while RegisterNode
     enters only sessions that are not listed and have not been taken from the map.
  3. `listed_usable`: the runs in which it enters no other.
  4. `activation_dooms`: an activation of any other session leaves an entry whose
     connection is closed or about to be.
  5. `listed_usable_repeated`: a session that sends RegisterNode twice.
-/

namespace OngrokRelay

open Interleaving Transition ControlPlane

/-! ## Connections and the sections that close them -/

/-- The connection of a session that has not been refused. -/
def ControlTask.handle : ControlTask → Option ClientSession
  | .session (.hello peer transport) | .session (.auth peer transport) =>
    some (transport.session peer.connection)
  | .session (.live s) => some s.entry.connection
  | _ => none

def SessionPc.closes : SessionPc → List ClientSession
  | .registerNode (.close replaced _ _) => replaced.toList.map ActiveSession.connection
  | _ => []

def ReplacePc.closes : ReplacePc → List ClientSession
  | .close disconnected => disconnected.map fun entry => entry.2.connection
  | _ => []

/-- The connections that the task's next section closes. -/
def ControlTask.closes : ControlTask → List ClientSession
  | .session (.live s) => s.pc.closes
  | .replace _ _ pc => pc.closes
  | _ => []

/-- A session about to activate has nothing to close yet. -/
theorem SessionPc.closes_of_isActivate {pc : SessionPc} (h : pc.isActivate) : pc.closes = [] := by
  cases pc with
  | registerNode pc =>
    cases pc with
    | close replaced metadata publicKey => cases h
    | identity metadata publicKey | activate metadata publicKey | insertNode node | put node | event
    | done result => rfl
  | loop | registerService pc | unregisterService serviceId pc | heartbeat sequence pc
  | ending pc result | finished result => rfl

theorem SessionPc.Outset.closes {pc : SessionPc} (h : pc.Outset) : pc.closes = [] := by
  cases h <;> rfl

namespace LiveSession

variable (s : LiveSession)

/-- What a session has to close next is what its RegisterNode has displaced. -/
theorem step_closes (cfg : RelayConfig) (env : Env) (st : AppState) :
    (s.step cfg env st).2.pc.closes =
      if s.pc.isActivate then st.sessions[s.nodeId]?.toList.map ActiveSession.connection else [] := by
  unfold step
  split
  · rename_i hpc
    rw [(s.read_outset env).closes, hpc]
    rfl
  · rename_i pc hpc
    rw [hpc]
    simp only [Prod.map_snd, SessionPc.isActivate]
    cases pc with
    | identity metadata publicKey =>
      simp only [registerNodeStep]
      split
      · exact (s.fail_outset _).closes
      · rfl
    | put node =>
      simp only [registerNodeStep]
      split
      · exact (s.fail_outset _).closes
      · rfl
    | done result =>
      cases result with
      | error e => exact (s.fail_outset e).closes
      | ok _ => rfl
    | activate metadata publicKey | close replaced metadata publicKey | insertNode node | event => rfl
  · rename_i pc hpc
    rw [hpc]
    simp only [Prod.map_snd, afterRegisterService]
    split
    · exact (s.replied_outset env).closes
    · rfl
  · rename_i serviceId pc hpc
    rw [hpc]
    simp only [Prod.map_snd, afterUnregisterService]
    split
    · rfl
    · exact (s.fail_outset _).closes
    · rfl
  · rename_i sequence pc hpc
    rw [hpc]
    simp only [Prod.map_snd, afterHeartbeat]
    split
    · exact (s.replied_outset env).closes
    · exact (s.fail_outset _).closes
    · rfl
  · rename_i pc result hpc
    rw [hpc]
    simp only [Prod.map_snd, afterCleanUp]
    split <;> rfl
  · rename_i hpc
    rw [hpc]
    rfl

end LiveSession

/-- The section that activates enters the session into the map. -/
theorem LiveSession.step_activate {s : LiveSession} (h : s.pc.isActivate) (cfg : RelayConfig)
    (env : Env) (st : AppState) :
    (s.step cfg env st).1.sessions = st.sessions.insert s.nodeId s.entry := by
  unfold step
  split
  case h_2 pc hpc =>
    have hactivate : pc.isActivate = true := by
      rw [hpc] at h
      exact h
    simp only [Prod.map_fst, id]
    rw [(registerNodeStep_maps ..).2.1, if_pos hactivate]
    rfl
  all_goals
    rename_i hpc
    rw [hpc] at h
    cases h

/-- A section of a replacement leaves to be closed what it has swept. -/
theorem replaceStep_closes (kind : TokenKind) (hash : Option TokenHash) (env : Env) (st : AppState)
    (pc : ReplacePc) : (replaceStep kind hash env st pc).2.closes =
      if pc.isSweep then (disconnectKind kind st).2.map (fun entry => entry.2.connection) else [] := by
  cases pc with
  | write =>
    simp only [replaceStep]
    split <;> rfl
  | put nodes =>
    cases nodes with
    | nil => rfl
    | cons node rest =>
      simp only [replaceStep]
      split <;> rfl
  | sweep | close disconnected | markOffline nodeIds | event node rest | done result => rfl

theorem mem_close {disconnected : List (NodeId × ActiveSession)} {st : AppState}
    {connection : ClientSession} :
    connection ∈ (disconnected.foldl (fun st entry => entry.2.connection.close st) st).closed ↔
      connection ∈ st.closed ∨ connection ∈ disconnected.map fun entry => entry.2.connection := by
  induction disconnected generalizing st with
  | nil => simp
  | cons entry rest ih =>
    rw [List.foldl_cons, ih]
    simp only [ClientSession.close, List.mem_cons, List.map_cons]
    tauto

/-- **The connections closed** after one section are those closed before and
those the task was about to close. -/
theorem ControlTask.step_closed (cfg : RelayConfig) (env : Env) (st : AppState)
    (task : ControlTask) (connection : ClientSession) :
    connection ∈ (task.step cfg env st).1.closed ↔
      connection ∈ st.closed ∨ connection ∈ task.closes := by
  have hquiet {st' : AppState} (h : st'.closed = st.closed) :
      connection ∈ st'.closed ↔ connection ∈ st.closed ∨ connection ∈ ([] : List ClientSession) := by
    rw [h]
    simp
  cases task with
  | session task =>
    cases task with
    | live s =>
      show connection ∈ (s.step cfg env st).1.closed ↔
        connection ∈ st.closed ∨ connection ∈ s.pc.closes
      unfold LiveSession.step
      split
      · rename_i hpc
        rw [hpc]
        exact hquiet rfl
      · rename_i pc hpc
        rw [hpc]
        cases pc with
        | close replaced metadata publicKey =>
          cases replaced with
          | none => exact hquiet rfl
          | some previous =>
            simp only [Prod.map_fst, id, registerNodeStep, closeReplaced, ClientSession.close,
              SessionPc.closes, Option.toList_some, List.map_cons, List.map_nil, List.mem_cons,
              List.not_mem_nil, or_false]
            exact or_comm
        | identity metadata publicKey =>
          simp only [Prod.map_fst, id, registerNodeStep]
          split <;> exact hquiet rfl
        | put node =>
          simp only [Prod.map_fst, id, registerNodeStep]
          split <;> exact hquiet rfl
        | activate metadata publicKey | insertNode node | event | done result => exact hquiet rfl
      · rename_i pc hpc
        rw [hpc]
        exact hquiet (registerStep_off cfg s.nodeId env st pc).closed
      · rename_i serviceId pc hpc
        rw [hpc]
        exact hquiet (unregisterStep_off serviceId s.nodeId env st pc).closed
      · rename_i sequence pc hpc
        rw [hpc]
        exact hquiet (heartbeatStep_off ..).closed
      · rename_i pc result hpc
        rw [hpc]
        exact hquiet (cleanUpStep_off ..).closed
      · rename_i hpc
        rw [hpc]
        exact hquiet rfl
    | hello peer transport | auth peer transport | refused peer reason => exact hquiet rfl
  | service task => exact hquiet (task.step_off cfg env st).closed
  | replace kind hash pc =>
    cases pc with
    | write =>
      simp only [step, Prod.map_fst, id, replaceStep, writeToken]
      cases env.putTokens <;> exact hquiet rfl
    | close disconnected => exact mem_close
    | markOffline nodeIds => exact hquiet (OffNodes.markAllOffline nodeIds st).closed
    | put nodes =>
      cases nodes with
      | nil => exact hquiet rfl
      | cons node rest =>
        simp only [step, Prod.map_fst, id, replaceStep]
        split <;> exact hquiet rfl
    | sweep | event node rest | done result => exact hquiet rfl

/-- **The connections to be closed** by the task's next section were listed, and
their entry has just been displaced or swept. -/
theorem ControlTask.step_closes {cfg : RelayConfig} {env : Env} {st : AppState} {task : ControlTask}
    {connection : ClientSession} (h : connection ∈ (task.step cfg env st).2.closes) :
    ∃ (nodeId : NodeId) (entry : ActiveSession), st.sessions[nodeId]? = some entry ∧
      entry.connection = connection ∧
      ((∃ s, task = .session (.live s) ∧ s.pc.isActivate ∧ s.nodeId = nodeId) ∨
        ∃ kind hash, task = .replace kind hash .sweep ∧
          (task.step cfg env st).1.sessions[nodeId]? = none) := by
  cases task with
  | service task => cases h
  | session task =>
    cases task with
    | live s =>
      have hcloses : connection ∈ (s.step cfg env st).2.pc.closes := h
      rw [s.step_closes cfg env st] at hcloses
      split at hcloses
      · rename_i hactivate
        obtain ⟨entry, hentry, rfl⟩ := List.mem_map.mp hcloses
        exact ⟨s.nodeId, entry, Option.mem_toList.mp hentry, rfl, .inl ⟨s, rfl, hactivate, rfl⟩⟩
      · cases hcloses
    | hello peer transport =>
      rcases SessionTask.hello_cases cfg env st peer transport with hstep | ⟨reason, hstep⟩ <;>
        rw [step, hstep] at h <;> cases h
    | auth peer transport =>
      rcases SessionTask.auth_cases cfg env st peer transport with
        ⟨reason, hstep⟩ | ⟨token, nodeId, kind, -, hstep⟩ <;> rw [step, hstep] at h <;> cases h
    | refused peer reason => cases h
  | replace kind hash pc =>
    have hcloses : connection ∈ (replaceStep kind hash env st pc).2.closes := h
    rw [replaceStep_closes] at hcloses
    cases pc with
    | sweep =>
      obtain ⟨⟨nodeId, entry⟩, hentry, rfl⟩ := List.mem_map.mp hcloses
      obtain ⟨hlisted, hkind⟩ := mem_disconnectKind.mp hentry
      refine ⟨nodeId, entry, hlisted, rfl, .inr ⟨kind, hash, rfl, ?_⟩⟩
      show (disconnectKind kind st).1.sessions[nodeId]? = none
      rw [disconnectKind_get, hlisted]
      simp [hkind]
    | write | close disconnected | markOffline nodeIds | put nodes | event node rest
    | done result => cases hcloses

/-- A task that has a connection has had it from the start. -/
theorem ControlTask.step_handle {cfg : RelayConfig} {env : Env} {st : AppState} {task : ControlTask}
    {handle : ClientSession} (h : (task.step cfg env st).2.handle = some handle) :
    task.handle = some handle := by
  cases task with
  | service task | replace kind hash pc => cases h
  | session task =>
    cases task with
    | live s =>
      have hkeeps := s.step_keeps cfg env st
      simp only [step, SessionTask.step, Prod.map_snd, ControlTask.handle, LiveSession.entry,
        hkeeps.peer, hkeeps.transport] at h
      exact h
    | hello peer transport =>
      rcases SessionTask.hello_cases cfg env st peer transport with hstep | ⟨reason, hstep⟩
      · rw [step, hstep] at h
        exact h
      · rw [step, hstep] at h
        cases h
    | auth peer transport =>
      rcases SessionTask.auth_cases cfg env st peer transport with
        ⟨reason, hstep⟩ | ⟨token, nodeId, kind, -, hstep⟩
      · rw [step, hstep] at h
        cases h
      · rw [step, hstep] at h
        exact h
    | refused peer reason => cases h

/-! ## The condition -/

/-- The session is not listed and has not been taken from the map: its own entry
is not there, and its connection is neither closed nor about to be. -/
def ControlPlane.entitled (p : ControlPlane) (s : LiveSession) : Bool :=
  !(p.shared.sessions[s.nodeId]?.any fun entry => entry.connection == s.entry.connection) &&
    !p.shared.closed.contains s.entry.connection &&
    p.tasks.all fun task => !task.closes.contains s.entry.connection

/-- A RegisterNode that enters its session into the map enters an entitled one. -/
def EntersEntitled (p : ControlPlane) : Event Env ControlTask → Bool
  | .run i _ =>
    match p.tasks[i]? with
    | some (.session (.live s)) => !s.pc.isActivate || p.entitled s
    | _ => true
  | .spawn _ => true

/-- A connection that joins is not one that a task of the pool has. -/
def NewConnection (p : ControlPlane) : Event Env ControlTask → Bool
  | .spawn (.session (.hello peer transport)) =>
    p.tasks.all fun task => task.handle != some (transport.session peer.connection)
  | _ => true

/-- The server has not closed the connection of any entry of the sessions map. -/
def ListedOpen (p : ControlPlane) : Prop :=
  ∀ (nodeId : NodeId) (entry : ActiveSession), p.shared.sessions[nodeId]? = some entry →
    entry.connection ∉ p.shared.closed

theorem ControlPlane.entitled_iff {p : ControlPlane} {s : LiveSession} : p.entitled s = true ↔
    (∀ entry, p.shared.sessions[s.nodeId]? = some entry → entry.connection ≠ s.entry.connection) ∧
    s.entry.connection ∉ p.shared.closed ∧ ∀ task ∈ p.tasks, s.entry.connection ∉ task.closes := by
  simp only [entitled, Bool.and_eq_true, Bool.not_eq_true', Bool.eq_false_iff, ne_eq,
    Option.any_eq_true, beq_iff_eq, not_exists, not_and, List.contains_iff_mem, List.all_eq_true,
    and_assoc]

/-! ## The invariant -/

/-- Every entry is that of one task, no two tasks have one connection, and no
entry's connection is closed or about to be. -/
structure Usable (p : ControlPlane) : Prop where
  owned : SessionsOwned p
  distinct : ∀ (i j : Nat) (t u : ControlTask) (handle : ClientSession), p.tasks[i]? = some t →
    p.tasks[j]? = some u → t.handle = some handle → u.handle = some handle → i = j
  listedOpen : ListedOpen p
  kept : ∀ (nodeId : NodeId) (entry : ActiveSession) (task : ControlTask),
    p.shared.sessions[nodeId]? = some entry → task ∈ p.tasks → entry.connection ∉ task.closes

namespace Usable

variable {cfg : RelayConfig} {p : ControlPlane}

/-- Two entries with one connection are the same node's. -/
theorem node_eq (h : Usable p) {nodeId other : NodeId} {entry entry' : ActiveSession}
    (hentry : p.shared.sessions[nodeId]? = some entry)
    (hentry' : p.shared.sessions[other]? = some entry') (hconn : entry.connection = entry'.connection) :
    nodeId = other := by
  obtain ⟨i, _, hi, s, rfl, -, rfl, rfl⟩ := h.owned.owned nodeId entry hentry
  obtain ⟨j, _, hj, s', rfl, -, rfl, rfl⟩ := h.owned.owned other entry' hentry'
  obtain rfl := h.distinct i j _ _ s.entry.connection hi hj rfl (congrArg some hconn.symm)
  rw [hi] at hj
  cases hj
  rfl

theorem run (h : Usable p) {i : Nat} {task : ControlTask} (htask : p.tasks[i]? = some task)
    (env : Env) (hentitled : ∀ s, task = .session (.live s) → s.pc.isActivate → p.entitled s) :
    Usable ⟨(task.step cfg env p.shared).1, p.tasks.set i (task.step cfg env p.shared).2⟩ where
  owned := h.owned.run htask env
  distinct j k t u handle ht hu hth huh := by
    have hold {n : Nat} {v : ControlTask}
        (hv : (p.tasks.set i (task.step cfg env p.shared).2)[n]? = some v)
        (hvh : v.handle = some handle) : ∃ w, p.tasks[n]? = some w ∧ w.handle = some handle := by
      rcases getElem?_set_some hv with ⟨rfl, rfl⟩ | ⟨-, hv⟩
      · exact ⟨task, htask, ControlTask.step_handle hvh⟩
      · exact ⟨v, hv, hvh⟩
    obtain ⟨t', ht', hth'⟩ := hold ht hth
    obtain ⟨u', hu', huh'⟩ := hold hu huh
    exact h.distinct j k t' u' handle ht' hu' hth' huh'
  listedOpen nodeId entry hentry hafter := by
    have hmem := List.mem_of_getElem? htask
    rcases (task.step_closed cfg env p.shared entry.connection).mp hafter with hclosed | hcloses
    · rcases (task.step_sessions cfg env p.shared).entry hentry with hold | ⟨s, rfl, hs, rfl, rfl⟩
      · exact h.listedOpen nodeId entry hold hclosed
      · exact (entitled_iff.mp (hentitled s rfl hs)).2.1 hclosed
    · rcases (task.step_sessions cfg env p.shared).entry hentry with hold | ⟨s, rfl, hs, rfl, rfl⟩
      · exact h.kept nodeId entry task hold hmem hcloses
      · exact (entitled_iff.mp (hentitled s rfl hs)).2.2 _ hmem hcloses
  kept nodeId entry u hentry hu hcloses := by
    rcases List.mem_or_eq_of_mem_set hu with hother | rfl
    · rcases (task.step_sessions cfg env p.shared).entry hentry with hold | ⟨s, rfl, hs, rfl, rfl⟩
      · exact h.kept nodeId entry u hold hother hcloses
      · exact (entitled_iff.mp (hentitled s rfl hs)).2.2 u hother hcloses
    · -- what has just been displaced or swept was the entry of its node, and of no other
      obtain ⟨other, entry', hlisted, hconn, hgone⟩ := ControlTask.step_closes hcloses
      rcases hgone with ⟨s, rfl, hs, rfl⟩ | ⟨kind, hash, rfl, hnone⟩
      · have hdistinct := (entitled_iff.mp (hentitled s rfl hs)).1 entry' hlisted
        have hentry : (p.shared.sessions.insert s.nodeId s.entry)[nodeId]? = some entry := by
          rw [← s.step_activate hs cfg env p.shared]
          exact hentry
        rcases BTreeMap.get_insert_some.mp hentry with ⟨-, rfl⟩ | ⟨hne, hold⟩
        · exact hdistinct hconn
        · exact hne (h.node_eq hlisted hold hconn)
      · rcases (ControlTask.step_sessions cfg env p.shared _).entry hentry with hold | ⟨s, hs, -⟩
        · obtain rfl := h.node_eq hlisted hold hconn
          exact absurd (hnone.symm.trans hentry) (by simp)
        · cases hs

theorem spawn (h : Usable p) {task : ControlTask} (hopens : p.opens task)
    (hnew : NewConnection p (.spawn task)) : Usable ⟨p.shared, p.tasks ++ [task]⟩ where
  owned := h.owned.spawn hopens
  distinct i j t u handle ht hu hth huh := by
    have hfresh {k : Nat} {old : ControlTask} (hold : p.tasks[k]? = some old)
        (hhandle : old.handle = some handle) : task.handle ≠ some handle := by
      intro htask
      cases task with
      | session task =>
        cases task with
        | hello peer transport =>
          have hne := List.all_eq_true.mp hnew old (List.mem_of_getElem? hold)
          rw [hhandle, ← htask] at hne
          simp [ControlTask.handle] at hne
        | auth peer transport | live s | refused peer reason => cases hopens
      | service task | replace kind hash pc => cases htask
    rcases getElem?_append_some ht with hold | ⟨hi, rfl⟩
    · rcases getElem?_append_some hu with hold' | ⟨-, rfl⟩
      · exact h.distinct i j t u handle hold hold' hth huh
      · exact absurd huh (hfresh hold hth)
    · rcases getElem?_append_some hu with hold | ⟨hj, -⟩
      · exact absurd hth (hfresh hold huh)
      · rw [hi, hj]
  listedOpen := h.listedOpen
  kept nodeId entry u hentry hu hcloses := by
    rcases List.mem_append.mp hu with hu | hu
    · exact h.kept nodeId entry u hentry hu hcloses
    · -- a task that joins has nothing to close
      obtain rfl := List.mem_singleton.mp hu
      cases u with
      | service task => cases hcloses
      | session task =>
        cases task with
        | live s => cases hopens
        | hello peer transport | auth peer transport | refused peer reason => cases hcloses
      | replace kind hash pc =>
        cases pc with
        | close disconnected => cases hopens
        | write | sweep | markOffline nodeIds | put nodes | event node rest | done result =>
          cases hcloses

theorem next (h : Usable p) (e : Event Env ControlTask) (hnew : NewConnection p e)
    (hentitled : EntersEntitled p e) : Usable (p.next cfg e) := by
  rcases p.next_cases cfg e with he | ⟨i, env, task, rfl, htask, he⟩ | ⟨task, rfl, hopens, he⟩
  · rw [he]
    exact h
  · rw [he]
    refine h.run htask env fun s hs hactivate => ?_
    subst hs
    simp only [EntersEntitled, htask, hactivate, Bool.not_true, Bool.false_or] at hentitled
    exact hentitled
  · rw [he]
    exact h.spawn hopens hnew

end Usable

theorem start_usable (cfg : RelayConfig) {env : Env} {adminHash userHash : TokenHash} {store : ServiceStore}
    {st : AppState} (hstart : start env adminHash userHash store = .ok st) : Usable ⟨st, []⟩ := by
  have hreached : Reached cfg ⟨st, []⟩ := ⟨env, adminHash, userHash, store, st, [], hstart, rfl⟩
  obtain ⟨-, -, hsessions⟩ := start_ok hstart
  have hnone (nodeId : NodeId) (entry : ActiveSession) : st.sessions[nodeId]? ≠ some entry := by
    rw [hsessions, BTreeMap.get_empty]
    exact fun h => by cases h
  refine ⟨hreached.sessionsOwned, fun i j t u handle ht => ?_, fun nodeId entry hentry => ?_,
    fun nodeId entry task hentry => ?_⟩
  · cases ht
  · exact absurd hentry (hnone nodeId entry)
  · exact absurd hentry (hnone nodeId entry)

/-! ## Any run -/

/-- **Listed sessions are usable** in every state of every run in which RegisterNode
enters entitled sessions only. -/
theorem listed_usable {cfg : RelayConfig} {env : Env} {adminHash userHash : TokenHash}
    {store : ServiceStore} {st : AppState} (hstart : start env adminHash userHash store = .ok st)
    (events : List (Event Env ControlTask))
    (hnew : EveryStep (ControlPlane.next cfg) (fun p e => NewConnection p e) ⟨st, []⟩ events)
    (hentitled : EveryStep (ControlPlane.next cfg) (fun p e => EntersEntitled p e) ⟨st, []⟩ events) :
    EveryState (ControlPlane.next cfg) ListedOpen ⟨st, []⟩ events := by
  have hnext : ∀ p e, Usable p → (NewConnection p e = true ∧ EntersEntitled p e = true) →
      Usable (p.next cfg e) := fun p e hp he => hp.next e he.1 he.2
  exact (everyState_of_everyStep hnext (start_usable cfg hstart) (hnew.and hentitled)).mono
    fun p hp => hp.listedOpen

/-- The session that takes a node over is listed, and the one it displaces is not. -/
theorem listed_usable_successor :
    EveryState (ControlPlane.next Sample.config) ListedOpen ⟨Sample.started, []⟩
      (Sample.connects 0 1 7 ++ Sample.registers 0 ++ Sample.connects 1 2 7 ++ Sample.registers 1) :=
  listed_usable Sample.started_ok _ (by decide +kernel) (by decide +kernel)

/-- **The condition is no stronger than it has to be.** A session that is entered
without being entitled is listed with a connection that is closed, or that the
next section of some task closes. -/
theorem activation_dooms (cfg : RelayConfig) {p : ControlPlane} {i : Nat} {s : LiveSession}
    (hs : p.tasks[i]? = some (.session (.live s))) (hactivate : s.pc.isActivate)
    (hnot : p.entitled s = false) (env : Env) :
    (p.next cfg (.run i env)).shared.sessions[s.nodeId]? = some s.entry ∧
      (s.entry.connection ∈ (p.next cfg (.run i env)).shared.closed ∨
        ∃ task ∈ (p.next cfg (.run i env)).tasks, s.entry.connection ∈ task.closes) := by
  have hnext : p.next cfg (.run i env) = ⟨(s.step cfg env p.shared).1,
      p.tasks.set i (.session (.live (s.step cfg env p.shared).2))⟩ := p.advance_eq env hs
  have hlt : i < p.tasks.length := (List.getElem?_eq_some_iff.mp hs).1
  rw [hnext]
  refine ⟨by rw [s.step_activate hactivate cfg env p.shared, BTreeMap.get_insert, if_pos rfl], ?_⟩
  by_cases hclosed : s.entry.connection ∈ p.shared.closed
  · exact .inl ((ControlTask.step_closed cfg env p.shared (.session (.live s)) _).mpr (.inl hclosed))
  · right
    by_cases hcloses : ∃ task ∈ p.tasks, s.entry.connection ∈ task.closes
    · obtain ⟨task, htask, hmem⟩ := hcloses
      obtain ⟨j, hj⟩ := List.mem_iff_getElem?.mp htask
      have hij : i ≠ j := by
        rintro rfl
        rw [hs] at hj
        cases hj
        have hnone : s.pc.closes = [] := SessionPc.closes_of_isActivate hactivate
        rw [ControlTask.closes, hnone] at hmem
        cases hmem
      exact ⟨task, List.mem_iff_getElem?.mpr ⟨j, by rw [List.getElem?_set_ne hij, hj]⟩, hmem⟩
    · have hlisted : ∃ entry, p.shared.sessions[s.nodeId]? = some entry ∧
          entry.connection = s.entry.connection := by
        by_contra hnone
        push Not at hnone hcloses
        rw [entitled_iff.mpr ⟨hnone, hclosed, hcloses⟩] at hnot
        cases hnot
      obtain ⟨entry, hentry, hconn⟩ := hlisted
      refine ⟨_, List.mem_iff_getElem?.mpr ⟨i, List.getElem?_set_self hlt⟩, ?_⟩
      show s.entry.connection ∈ (s.step cfg env p.shared).2.pc.closes
      rw [s.step_closes cfg env p.shared, if_pos hactivate, hentry]
      exact List.mem_map.mpr ⟨entry, List.mem_cons_self, hconn⟩

/-- One session sends RegisterNode twice. It is listed, and the server has closed
its connection. -/
theorem listed_closed :
    let p := Sample.reached (Sample.connects 0 1 7 ++ Sample.registers 0 ++ Sample.registers 0)
    Reached Sample.config p ∧ p.shared.sessions[(⟨7⟩ : NodeId)]? = some ⟨⟨1⟩, .user, .quic 0⟩ ∧
      p.shared.closed = [.quic 0] ∧ ¬ListedOpen p := by
  intro p
  have hlisted : p.shared.sessions[(⟨7⟩ : NodeId)]? = some ⟨⟨1⟩, .user, .quic 0⟩ := by
    decide +kernel
  have hclosed : p.shared.closed = [.quic 0] := by decide +kernel
  refine ⟨Sample.reached_ok _, hlisted, hclosed, fun hopen => ?_⟩
  have hnot := hopen ⟨7⟩ _ hlisted
  rw [hclosed] at hnot
  exact hnot List.mem_cons_self

end OngrokRelay
