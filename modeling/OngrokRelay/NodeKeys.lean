import OngrokRelay.ControlPlane

/-
  The key recorded for a node.

  A RegisterNode compares its key with the recorded one in one critical section
  and writes the record in a later one, the activation of its session standing
  between them. Two first registrations of a node may both find no key.

  1. `ControlTask.step_keys`: one section leaves every recorded key as it is,
     passes an identity check, or inserts the record of a RegisterNode.
  2. `KeysAgree.run`: the keys of the registrations that are past their check
     agree with each other and with the recorded key, as long as no check passes
     while a registration of the node with another key is past its own.
  3. `keys_pinned`: in such a run a recorded key stays, and a RegisterNode with
     another key changes neither sessions nor nodes.
  4. `second_key_overwrites`: without the condition the second of two first
     registrations replaces the key of the first.
-/

namespace OngrokRelay

open Interleaving Transition ControlPlane

/-- The key the nodes map records for a node. -/
def recordedKey (nodes : BTreeMap NodeId NodeRecord) (nodeId : NodeId) : Option PublicKey :=
  nodes[nodeId]?.bind NodeRecord.publicKey

/-! ## The keys of a RegisterNode -/

/-- The key of a RegisterNode that is past its check and has yet to insert its
record. -/
def RegisterNodePc.pendingKey : RegisterNodePc → Option PublicKey
  | .activate _ publicKey => some publicKey
  | .close _ _ publicKey => some publicKey
  | .insertNode node => node.publicKey
  | _ => none

/-- The key a RegisterNode came with, as long as it needs it. -/
def RegisterNodePc.ownKey : RegisterNodePc → Option PublicKey
  | .identity _ publicKey => some publicKey
  | .put node => node.publicKey
  | pc => pc.pendingKey

/-- A record about to be inserted has a key. -/
def RegisterNodePc.keyed : RegisterNodePc → Bool
  | .insertNode node => node.publicKey.isSome
  | _ => true

namespace LiveSession

def pendingKey (s : LiveSession) : Option PublicKey :=
  match s.pc with
  | .registerNode pc => pc.pendingKey
  | _ => none

def ownKey (s : LiveSession) : Option PublicKey :=
  match s.pc with
  | .registerNode pc => pc.ownKey
  | _ => none

def keyed (s : LiveSession) : Bool :=
  match s.pc with
  | .registerNode pc => pc.keyed
  | _ => true

/-- The key of a RegisterNode whose identity check passes now. -/
def checking (s : LiveSession) (st : AppState) : Option PublicKey :=
  match s.pc with
  | .registerNode (.identity _ publicKey) =>
    if (validateNodeIdentity st.nodes s.nodeId publicKey).isOk then some publicKey else none
  | _ => none

end LiveSession

namespace ControlTask

/-- The key the task is about to record for the node. -/
def pendingKey (nodeId : NodeId) : ControlTask → Option PublicKey
  | session (.live s) => if s.nodeId = nodeId then s.pendingKey else none
  | _ => none

/-- A session records keys for its own node only. -/
theorem pendingKey_other {nodeId : NodeId} {s : LiveSession} (h : s.nodeId ≠ nodeId) :
    (session (.live s)).pendingKey nodeId = none := if_neg h

def keyed : ControlTask → Bool
  | session (.live s) => s.keyed
  | _ => true

end ControlTask

/-! ## The condition and the property -/

/-- No identity check passes while a registration of the node with another key
is past its own check. -/
def Unraced (p : ControlPlane) : Event Env ControlTask → Bool
  | .run i _ =>
    match p.tasks[i]? with
    | some (.session (.live s)) =>
      match s.checking p.shared with
      | some publicKey => p.tasks.all fun task =>
          (task.pendingKey s.nodeId).all fun pending => pending == publicKey
      | none => true
    | _ => true
  | .spawn _ => true

/-- A section of a RegisterNode whose key is not the recorded one changes neither
sessions nor nodes. -/
def RefusesOtherKey (cfg : RelayConfig) (p : ControlPlane) : Event Env ControlTask → Prop
  | .run i env => ∀ (s : LiveSession) (publicKey recorded : PublicKey),
      p.tasks[i]? = some (.session (.live s)) → s.ownKey = some publicKey →
      recordedKey p.shared.nodes s.nodeId = some recorded → publicKey ≠ recorded →
      (p.next cfg (.run i env)).shared.sessions = p.shared.sessions ∧
      (p.next cfg (.run i env)).shared.nodes = p.shared.nodes
  | .spawn _ => True

/-! ## What one section does to the keys -/

theorem recordedKey_insert (nodes : BTreeMap NodeId NodeRecord) (nodeId other : NodeId)
    (node : NodeRecord) : recordedKey (nodes.insert nodeId node) other =
      if nodeId = other then node.publicKey else recordedKey nodes other := by
  unfold recordedKey
  rw [BTreeMap.get_insert]
  split <;> rfl

/-- A record that keeps its key may be written back. -/
theorem recordedKey_update {nodes : BTreeMap NodeId NodeRecord} {nodeId : NodeId}
    {node : NodeRecord} (h : nodes[nodeId]? = some node) (node' : NodeRecord)
    (hkey : node'.publicKey = node.publicKey) (other : NodeId) :
    recordedKey (nodes.insert nodeId node') other = recordedKey nodes other := by
  rw [recordedKey_insert]
  split
  · rename_i heq
    subst heq
    rw [recordedKey, h, hkey]
    rfl
  · rfl

theorem markOffline_keys (nodeId other : NodeId) (st : AppState) :
    recordedKey (markOffline nodeId st).1.nodes other = recordedKey st.nodes other := by
  unfold recordedKey
  rw [markOffline_get]
  split
  · cases st.nodes[other]? <;> rfl
  · rfl

theorem markAllOffline_keys (nodeIds : List NodeId) (other : NodeId) (st : AppState) :
    recordedKey (markAllOffline nodeIds st).1.nodes other = recordedKey st.nodes other := by
  unfold recordedKey
  rw [(markAllOffline_spec nodeIds st).2 other]
  split
  · cases st.nodes[other]? <;> rfl
  · rfl

theorem heartbeatStep_keys (nodeId : NodeId) (env : Env) (st : AppState) (pc : HeartbeatPc)
    (other : NodeId) :
    recordedKey (heartbeatStep nodeId env st pc).1.nodes other = recordedKey st.nodes other := by
  cases pc with
  | nodes snapshot =>
    simp only [heartbeatStep]
    cases hget : st.nodes[nodeId]? with
    | none => rfl
    | some node =>
      exact recordedKey_update hget (node.heard env.now (roundTrip env.now snapshot)) rfl other
  | putNode node metric =>
    simp only [heartbeatStep]
    cases env.putNode node.nodeId <;> rfl
  | putMetric metric | done result => rfl

theorem cleanUpStep_keys (transport : TransportKind) (nodeId : NodeId) (sessionId : TunnelId)
    (env : Env) (st : AppState) (pc : CleanUpPc) (other : NodeId) :
    recordedKey (cleanUpStep transport nodeId sessionId env st pc).1.nodes other =
      recordedKey st.nodes other := by
  rw [(cleanUpStep_maps transport nodeId sessionId env st pc).2.2]
  split
  · exact markOffline_keys nodeId other st
  · rfl

theorem replaceStep_keys (kind : TokenKind) (hash : Option TokenHash) (env : Env) (st : AppState)
    (pc : ReplacePc) (other : NodeId) :
    recordedKey (replaceStep kind hash env st pc).1.nodes other = recordedKey st.nodes other := by
  cases pc with
  | write =>
    simp only [replaceStep, writeToken]
    cases env.putTokens <;> rfl
  | close disconnected =>
    simp only [replaceStep, (close_frame disconnected st).2.2]
  | markOffline nodeIds => exact markAllOffline_keys nodeIds other st
  | put nodes =>
    cases nodes with
    | nil => rfl
    | cons node rest =>
      simp only [replaceStep]
      cases env.putNode node.nodeId <;> rfl
  | sweep | event node rest | done result => rfl

namespace LiveSession

theorem outset_pendingKey {s : LiveSession} (h : s.pc.Outset) :
    s.pendingKey = none ∧ s.keyed := by
  unfold pendingKey keyed
  generalize s.pc = pc at h
  cases h <;> exact ⟨rfl, rfl⟩

/-- What one section of a session does to the keys. -/
inductive KeyStep (s : LiveSession) (st : AppState) : AppState × LiveSession → Prop
  | quiet {st' : AppState} {s' : LiveSession}
      (keys : ∀ nodeId, recordedKey st'.nodes nodeId = recordedKey st.nodes nodeId)
      (pending : ∀ publicKey, s'.pendingKey = some publicKey → s.pendingKey = some publicKey)
      (keyed : s'.keyed) : KeyStep s st (st', s')
  | checked {s' : LiveSession} {publicKey : PublicKey} (check : s.checking st = some publicKey)
      (pending : s'.pendingKey = some publicKey) (keyed : s'.keyed) : KeyStep s st (st, s')
  | inserted {st' : AppState} {s' : LiveSession} {node : NodeRecord}
      (pc : s.pc = .registerNode (.insertNode node))
      (nodes : st'.nodes = st.nodes.insert s.nodeId node)
      (pending : s'.pendingKey = none) (keyed : s'.keyed) : KeyStep s st (st', s')

/-- **What one section of a session does to the keys.** -/
theorem step_keys (cfg : RelayConfig) (env : Env) (st : AppState) (s : LiveSession) :
    KeyStep s st (s.step cfg env st) := by
  have idle {st' : AppState} {s' : LiveSession}
      (keys : ∀ nodeId, recordedKey st'.nodes nodeId = recordedKey st.nodes nodeId)
      (h : s'.pendingKey = none ∧ s'.keyed) : KeyStep s st (st', s') :=
    .quiet keys (fun publicKey hp => by rw [h.1] at hp; cases hp) h.2
  unfold step
  split
  · exact idle (fun _ => rfl) (outset_pendingKey (s.read_outset env))
  · rename_i pc hpc
    cases pc with
    | identity metadata publicKey =>
      simp only [registerNodeStep]
      cases hidentity : validateNodeIdentity st.nodes s.nodeId publicKey with
      | error e => exact idle (fun _ => rfl) (outset_pendingKey (s.fail_outset e))
      | ok _ =>
        refine @KeyStep.checked s st _ publicKey ?_ rfl rfl
        simp only [checking, hpc, hidentity]
        rfl
    | activate metadata publicKey =>
      refine .quiet (fun _ => rfl) (fun key hkey => ?_) rfl
      simp only [pendingKey, hpc]
      exact hkey
    | close replaced metadata publicKey =>
      refine .quiet (fun nodeId => ?_) (fun key hkey => ?_) rfl
      · exact congrArg (recordedKey · nodeId) (closeReplaced_nodes replaced st)
      · simp only [pendingKey, hpc]
        exact hkey
    | insertNode node => exact .inserted hpc rfl rfl rfl
    | put node =>
      simp only [registerNodeStep]
      cases env.putNode node.nodeId with
      | error e => exact idle (fun _ => rfl) (outset_pendingKey (s.fail_outset e))
      | ok _ => exact idle (fun _ => rfl) ⟨rfl, rfl⟩
    | event => exact idle (fun _ => rfl) ⟨rfl, rfl⟩
    | done result =>
      cases result with
      | ok _ => exact idle (fun _ => rfl) ⟨rfl, rfl⟩
      | error e => exact idle (fun _ => rfl) (outset_pendingKey (s.fail_outset e))
  · rename_i pc _
    refine idle (fun nodeId => congrArg (recordedKey · nodeId)
      (registerStep_off cfg s.nodeId env st pc).nodes) ?_
    simp only [afterRegisterService]
    split
    · exact outset_pendingKey (s.replied_outset env)
    · exact ⟨rfl, rfl⟩
  · rename_i serviceId pc _
    refine idle (fun nodeId => congrArg (recordedKey · nodeId)
      (unregisterStep_off serviceId s.nodeId env st pc).nodes) ?_
    simp only [afterUnregisterService]
    split
    · exact ⟨rfl, rfl⟩
    · exact outset_pendingKey (s.fail_outset _)
    · exact ⟨rfl, rfl⟩
  · rename_i pc _
    refine idle (heartbeatStep_keys s.nodeId env st pc) ?_
    simp only [afterHeartbeat]
    split
    · exact outset_pendingKey (s.replied_outset env)
    · exact outset_pendingKey (s.fail_outset _)
    · exact ⟨rfl, rfl⟩
  · rename_i pc _ _
    refine idle (cleanUpStep_keys s.transport s.nodeId s.peer.sessionId env st pc) ?_
    simp only [afterCleanUp]
    split <;> exact ⟨rfl, rfl⟩
  · rename_i hpc
    exact idle (fun _ => rfl) (by simp only [pendingKey, keyed, hpc]; exact ⟨trivial, trivial⟩)

end LiveSession

/-! ## Keys that agree -/

/-- The keys of the registrations past their check agree with the recorded ones
and with each other. -/
structure KeysAgree (p : ControlPlane) : Prop where
  recorded : ∀ task ∈ p.tasks, ∀ (nodeId : NodeId) (pending recorded : PublicKey),
    task.pendingKey nodeId = some pending → recordedKey p.shared.nodes nodeId = some recorded →
    pending = recorded
  pending : ∀ t ∈ p.tasks, ∀ u ∈ p.tasks, ∀ (nodeId : NodeId) (k k' : PublicKey),
    t.pendingKey nodeId = some k → u.pendingKey nodeId = some k' → k = k'
  keyed : ∀ task ∈ p.tasks, task.keyed

/-- What one section of a task does to the keys of one node. -/
inductive ControlTask.KeyStep (task : ControlTask) (p : ControlPlane) (nodeId : NodeId) :
    AppState × ControlTask → Prop
  | quiet {st' : AppState} {task' : ControlTask}
      (keys : recordedKey st'.nodes nodeId = recordedKey p.shared.nodes nodeId)
      (pending : ∀ publicKey, task'.pendingKey nodeId = some publicKey →
        task.pendingKey nodeId = some publicKey) : KeyStep task p nodeId (st', task')
  | checked {st' : AppState} {task' : ControlTask} {publicKey : PublicKey}
      (keys : recordedKey st'.nodes nodeId = recordedKey p.shared.nodes nodeId)
      (pending : task'.pendingKey nodeId = some publicKey)
      (known : ∀ recorded, recordedKey p.shared.nodes nodeId = some recorded → publicKey = recorded)
      (others : ∀ other ∈ p.tasks, ∀ k, other.pendingKey nodeId = some k → k = publicKey) :
    KeyStep task p nodeId (st', task')
  | inserted {st' : AppState} {task' : ControlTask} {publicKey : PublicKey}
      (was : task.pendingKey nodeId = some publicKey)
      (keys : recordedKey st'.nodes nodeId = some publicKey)
      (pending : task'.pendingKey nodeId = none) : KeyStep task p nodeId (st', task')

/-- A check that passes finds the key itself, or none. -/
theorem known_of_validate {nodes : BTreeMap NodeId NodeRecord} {nodeId : NodeId}
    {publicKey recorded : PublicKey} (h : (validateNodeIdentity nodes nodeId publicKey).isOk)
    (hrecorded : recordedKey nodes nodeId = some recorded) : publicKey = recorded := by
  unfold recordedKey at hrecorded
  simp only [validateNodeIdentity, hrecorded] at h
  split at h
  · rename_i heq
    exact heq.symm
  · cases h

namespace KeysAgree

variable {cfg : RelayConfig} {p : ControlPlane} {i : Nat} {env : Env} {task : ControlTask}

/-- **One section** of a task that meets the condition. -/
theorem keyStep (h : KeysAgree p) (cfg : RelayConfig) (htask : p.tasks[i]? = some task)
    (hunraced : Unraced p (.run i env)) (nodeId : NodeId) :
    task.KeyStep p nodeId (task.step cfg env p.shared) ∧ (task.step cfg env p.shared).2.keyed := by
  cases task with
  | service task =>
    exact ⟨.quiet (congrArg (recordedKey · nodeId) (task.step_off cfg env p.shared).nodes)
      fun _ hp => (by cases hp), rfl⟩
  | replace kind hash pc =>
    exact ⟨.quiet (replaceStep_keys kind hash env p.shared pc nodeId) fun _ hp => (by cases hp), rfl⟩
  | session task =>
    cases task with
    | hello peer transport =>
      rcases SessionTask.hello_cases cfg env p.shared peer transport with hstep | ⟨reason, hstep⟩ <;>
        simp only [ControlTask.step, hstep] <;>
        exact ⟨.quiet rfl fun _ hp => (by cases hp), rfl⟩
    | auth peer transport =>
      rcases SessionTask.auth_cases cfg env p.shared peer transport with
        ⟨reason, hstep⟩ | ⟨token, claimed, kind, -, hstep⟩ <;>
        simp only [ControlTask.step, hstep]
      · exact ⟨.quiet rfl fun _ hp => (by cases hp), rfl⟩
      · -- a session that has just authenticated has no RegisterNode yet
        refine ⟨.quiet rfl fun _ hp => ?_, rfl⟩
        simp only [ControlTask.pendingKey] at hp
        split at hp <;> cases hp
    | refused peer reason => exact ⟨.quiet rfl fun _ hp => (by cases hp), rfl⟩
    | live s =>
      have hstep := s.step_keys cfg env p.shared
      have hnodeId := (s.step_keeps cfg env p.shared).nodeId
      simp only [ControlTask.step, SessionTask.step]
      generalize s.step cfg env p.shared = result at hstep hnodeId
      cases hstep with
      | @quiet st' s' keys pending keyed =>
        have hnode : s'.nodeId = s.nodeId := hnodeId
        refine ⟨.quiet (keys nodeId) fun publicKey hp => ?_, keyed⟩
        simp only [ControlTask.pendingKey, hnode] at hp ⊢
        split at hp
        · rename_i heq
          rw [if_pos heq]
          exact pending publicKey hp
        · cases hp
      | @checked s' publicKey check pending keyed =>
        have hnode : s'.nodeId = s.nodeId := hnodeId
        refine ⟨?_, keyed⟩
        by_cases heq : s.nodeId = nodeId
        · subst heq
          refine @ControlTask.KeyStep.checked _ _ _ _ _ publicKey rfl ?_ (fun recorded hrecorded => ?_)
            (fun other hother k hk => ?_)
          · simp only [ControlTask.pendingKey, hnode, if_true]
            exact pending
          · unfold LiveSession.checking at check
            split at check
            · split at check
              · rename_i hvalid
                cases check
                exact known_of_validate hvalid hrecorded
              · cases check
            · cases check
          · -- the condition, at the check that passes
            simp only [Unraced, htask, check] at hunraced
            have hall := List.all_eq_true.mp hunraced other hother
            rw [hk] at hall
            exact beq_iff_eq.mp hall
        · refine .quiet rfl fun k hk => ?_
          rw [ControlTask.pendingKey_other (hnode ▸ heq)] at hk
          cases hk
      | @inserted st' s' node pc nodes pending keyed =>
        have hnode : s'.nodeId = s.nodeId := hnodeId
        refine ⟨?_, keyed⟩
        have hkeyed := h.keyed _ (List.mem_of_getElem? htask)
        simp only [ControlTask.keyed, LiveSession.keyed, pc] at hkeyed
        obtain ⟨publicKey, hkey⟩ := Option.isSome_iff_exists.mp hkeyed
        by_cases heq : s.nodeId = nodeId
        · subst heq
          refine @ControlTask.KeyStep.inserted _ _ _ _ _ publicKey ?_ ?_ ?_
          · simp only [ControlTask.pendingKey, LiveSession.pendingKey, pc, if_true]
            exact hkey
          · simp only [id, nodes, recordedKey_insert, if_true, hkey]
          · simp only [ControlTask.pendingKey, hnode, if_true, pending]
        · refine .quiet ?_ fun k hk => ?_
          · simp only [id, nodes, recordedKey_insert, if_neg heq]
          · rw [ControlTask.pendingKey_other (hnode ▸ heq)] at hk
            cases hk

/-- A recorded key stays. -/
theorem keeps (h : KeysAgree p) (htask : p.tasks[i]? = some task)
    (hunraced : Unraced p (.run i env)) {nodeId : NodeId} {publicKey : PublicKey}
    (hrecorded : recordedKey p.shared.nodes nodeId = some publicKey) :
    recordedKey (task.step cfg env p.shared).1.nodes nodeId = some publicKey := by
  have hstep := (h.keyStep cfg htask hunraced nodeId).1
  generalize task.step cfg env p.shared = result at hstep
  cases hstep with
  | quiet keys _ => exact keys.trans hrecorded
  | checked keys _ _ _ => exact keys.trans hrecorded
  | inserted was keys _ =>
    rw [keys, h.recorded task (List.mem_of_getElem? htask) nodeId _ publicKey was hrecorded]

theorem run (h : KeysAgree p) (htask : p.tasks[i]? = some task)
    (hunraced : Unraced p (.run i env)) :
    KeysAgree ⟨(task.step cfg env p.shared).1, p.tasks.set i (task.step cfg env p.shared).2⟩ := by
  have hmem := List.mem_of_getElem? htask
  have hin {u : ControlTask} (hu : u ∈ p.tasks.set i (task.step cfg env p.shared).2) :
      u ∈ p.tasks ∨ u = (task.step cfg env p.shared).2 := List.mem_or_eq_of_mem_set hu
  have hstep (nodeId : NodeId) := h.keyStep cfg htask hunraced nodeId
  generalize task.step cfg env p.shared = result at hin hstep
  obtain ⟨st', task'⟩ := result
  -- what the task now has pending it had before, or has just checked against everyone else
  have hagree {nodeId : NodeId} {u : ControlTask} {k k' : PublicKey} (hu : u ∈ p.tasks)
      (hk : task'.pendingKey nodeId = some k) (hk' : u.pendingKey nodeId = some k') : k = k' := by
    cases (hstep nodeId).1 with
    | quiet keys pending => exact h.pending task hmem u hu nodeId k k' (pending k hk) hk'
    | checked keys pending known others =>
      rw [pending] at hk
      cases hk
      exact (others u hu k' hk').symm
    | inserted was keys pending =>
      rw [pending] at hk
      cases hk
  refine ⟨fun u hu nodeId k recorded hk hrecorded => ?_, fun t ht u hu nodeId k k' hk hk' => ?_,
    fun u hu => ?_⟩
  · have hstep' := (hstep nodeId).1
    rcases hin hu with hu | rfl
    · cases hstep' with
      | quiet keys _ => exact h.recorded u hu nodeId k recorded hk (keys.symm.trans hrecorded)
      | checked keys _ _ _ => exact h.recorded u hu nodeId k recorded hk (keys.symm.trans hrecorded)
      | @inserted _ _ publicKey was keys _ =>
        rw [keys] at hrecorded
        cases hrecorded
        exact h.pending u hu task hmem nodeId k _ hk was
    · cases hstep' with
      | quiet keys pending =>
        exact h.recorded task hmem nodeId k recorded (pending k hk) (keys.symm.trans hrecorded)
      | checked keys pending known _ =>
        rw [pending] at hk
        cases hk
        exact known recorded (keys.symm.trans hrecorded)
      | inserted was keys pending =>
        rw [pending] at hk
        cases hk
  · rcases hin ht with hold | rfl <;> rcases hin hu with hold' | rfl
    · exact h.pending t hold u hold' nodeId k k' hk hk'
    · exact (hagree hold hk' hk).symm
    · exact hagree hold' hk hk'
    · rw [hk] at hk'
      exact Option.some.inj hk'
  · rcases hin hu with hu | rfl
    · exact h.keyed u hu
    · exact (hstep ⟨0⟩).2

theorem spawn (h : KeysAgree p) (hopens : p.opens task) :
    KeysAgree ⟨p.shared, p.tasks ++ [task]⟩ := by
  have hnone (nodeId : NodeId) : task.pendingKey nodeId = none ∧ task.keyed := by
    cases task with
    | session session =>
      cases session with
      | live s => cases hopens
      | hello peer transport | auth peer transport | refused peer reason => exact ⟨rfl, rfl⟩
    | service task | replace kind hash pc => exact ⟨rfl, rfl⟩
  have hold {u : ControlTask} {nodeId : NodeId} {k : PublicKey} (hu : u ∈ p.tasks ++ [task])
      (hk : u.pendingKey nodeId = some k) : u ∈ p.tasks := by
    rcases List.mem_append.mp hu with hu | hu
    · exact hu
    · rw [List.mem_singleton.mp hu, (hnone nodeId).1] at hk
      cases hk
  refine ⟨fun u hu nodeId k recorded hk => h.recorded u (hold hu hk) nodeId k recorded hk,
    fun t ht u hu nodeId k k' hk hk' =>
      h.pending t (hold ht hk) u (hold hu hk') nodeId k k' hk hk', fun u hu => ?_⟩
  rcases List.mem_append.mp hu with hu | hu
  · exact h.keyed u hu
  · rw [List.mem_singleton.mp hu]
    exact (hnone ⟨0⟩).2

theorem next (h : KeysAgree p) {e : Event Env ControlTask} (hunraced : Unraced p e) :
    KeysAgree (p.next cfg e) := by
  rcases p.next_cases cfg e with he | ⟨i, env, task, rfl, htask, he⟩ | ⟨task, rfl, hopens, he⟩
  · rw [he]
    exact h
  · rw [he]
    exact h.run htask hunraced
  · rw [he]
    exact h.spawn hopens

/-- A recorded key stays, over any event. -/
theorem next_keeps (h : KeysAgree p) {e : Event Env ControlTask} (hunraced : Unraced p e)
    {nodeId : NodeId} {publicKey : PublicKey}
    (hrecorded : recordedKey p.shared.nodes nodeId = some publicKey) :
    recordedKey (p.next cfg e).shared.nodes nodeId = some publicKey := by
  rcases p.next_cases cfg e with he | ⟨i, env, task, rfl, htask, he⟩ | ⟨task, rfl, hopens, he⟩
  · rw [he]
    exact hrecorded
  · rw [he]
    exact h.keeps htask hunraced hrecorded
  · rw [he]
    exact hrecorded

/-- A RegisterNode with another key changes nothing. -/
theorem refuses (h : KeysAgree p) (e : Event Env ControlTask) : RefusesOtherKey cfg p e := by
  cases e with
  | spawn task => trivial
  | run i env =>
    intro s publicKey recorded htask hown hrecorded hne
    have hnext : p.next cfg (.run i env) = ⟨(s.step cfg env p.shared).1,
        p.tasks.set i (.session (.live (s.step cfg env p.shared).2))⟩ := p.advance_eq env htask
    rw [hnext]
    -- past its check the key would be the recorded one
    have hpending (hpending : s.pendingKey = some publicKey) : False :=
      hne (h.recorded _ (List.mem_of_getElem? htask) s.nodeId publicKey recorded
        (by simp only [ControlTask.pendingKey, if_true, hpending]) hrecorded)
    unfold LiveSession.ownKey at hown
    unfold LiveSession.pendingKey at hpending
    unfold LiveSession.step
    split at hown
    · rename_i pc hpc
      simp only [hpc] at hpending ⊢
      obtain ⟨-, hsessions, hnodes, -⟩ := registerNodeStep_maps s.peer s.transport
        (s.transport.session s.peer.connection) s.kind s.nodeId env p.shared pc
      cases pc with
      | identity metadata k => exact ⟨hsessions, hnodes rfl⟩
      | put node => exact ⟨hsessions, hnodes rfl⟩
      | activate metadata k | close replaced metadata k | insertNode node => exact (hpending hown).elim
      | event | done result => cases hown
    · cases hown

end KeysAgree

/-- **Node keys are pinned** in every run in which no identity check passes while
a registration of the node with another key is past its own: a recorded key
stays, and a RegisterNode with another key changes nothing. -/
theorem keys_pinned (cfg : RelayConfig) (st : AppState) (earlier later : List (Event Env ControlTask))
    (hunraced : EveryStep (next cfg) (fun p e => Unraced p e) ⟨st, []⟩ (earlier ++ later)) :
    (∀ (nodeId : NodeId) (publicKey : PublicKey),
      recordedKey (run (next cfg) ⟨st, []⟩ earlier).shared.nodes nodeId = some publicKey →
      recordedKey (run (next cfg) ⟨st, []⟩ (earlier ++ later)).shared.nodes nodeId =
        some publicKey) ∧
    EveryStep (next cfg) (RefusesOtherKey cfg) ⟨st, []⟩ (earlier ++ later) := by
  have hinit : KeysAgree ⟨st, []⟩ := by
    refine ⟨fun u hu => ?_, fun u hu => ?_, fun u hu => ?_⟩ <;> cases hu
  have hkeep (p : ControlPlane) (e : Event Env ControlTask) (h : KeysAgree p) (he : Unraced p e) :
      KeysAgree (p.next cfg e) := h.next he
  refine ⟨fun nodeId publicKey hrecorded => ?_,
    everyStep_of_invariant hkeep (fun p e h _ => h.refuses e) hinit hunraced⟩
  obtain ⟨hearlier, hlater⟩ := everyStep_append.mp hunraced
  rw [run_append]
  have hmid := (everyState_of_everyStep hkeep hinit hearlier).last
  exact (everyState_of_everyStep
    (P := fun p => KeysAgree p ∧ recordedKey p.shared.nodes nodeId = some publicKey)
    (fun p e h he => ⟨h.1.next he, h.1.next_keeps he h.2⟩) ⟨hmid, hrecorded⟩ hlater).last.2

/-! ## Two first registrations -/

namespace TwoKeys

/-- Two sessions claim node 7 and send a RegisterNode, with the keys 5 and 6. -/
def announced : List (Event Env ControlTask) :=
  Sample.connects 0 11 7 ++ Sample.connects 1 12 7 ++
    [.run 0 { input := .ok (.registerNode Sample.metadata 5) },
      .run 1 { input := .ok (.registerNode Sample.metadata 6) }]

/-- Both pass their checks, and the first inserts its record. -/
def earlier : List (Event Env ControlTask) :=
  announced ++ [.run 0 {}, .run 1 {}, .run 0 {}, .run 0 {}, .run 0 {}]

/-- The second inserts its own. -/
def later : List (Event Env ControlTask) := [.run 1 {}, .run 1 {}, .run 1 {}]

/-- The first is done before the second is checked. -/
def orderly : List (Event Env ControlTask) := announced ++ List.replicate 4 (.run 0 {})

end TwoKeys

open TwoKeys in
/-- **The second key overwrites the first.** -/
theorem second_key_overwrites :
    recordedKey (Sample.reached earlier).shared.nodes ⟨7⟩ = some 5 ∧
    recordedKey (Sample.reached (earlier ++ later)).shared.nodes ⟨7⟩ = some 6 ∧
    ¬∀ (cfg : RelayConfig) (env : Env) (adminHash userHash : TokenHash) (store : ServiceStore)
      (st : AppState) (earlier later : List (Event Env ControlTask)),
      start env adminHash userHash store = .ok st →
      (∀ (nodeId : NodeId) (publicKey : PublicKey),
        recordedKey (run (next cfg) ⟨st, []⟩ earlier).shared.nodes nodeId = some publicKey →
        recordedKey (run (next cfg) ⟨st, []⟩ (earlier ++ later)).shared.nodes nodeId =
          some publicKey) ∧
      EveryStep (next cfg) (RefusesOtherKey cfg) ⟨st, []⟩ (earlier ++ later) := by
  have hfirst : recordedKey (Sample.reached earlier).shared.nodes ⟨7⟩ = some 5 := by decide +kernel
  have hsecond : recordedKey (Sample.reached (earlier ++ later)).shared.nodes ⟨7⟩ = some 6 := by
    decide +kernel
  refine ⟨hfirst, hsecond, fun h => ?_⟩
  have hkept := (h Sample.config {} _ _ {} Sample.started earlier later Sample.started_ok).1 ⟨7⟩ 5
    hfirst
  change recordedKey (Sample.reached (earlier ++ later)).shared.nodes ⟨7⟩ = some 5 at hkept
  rw [hsecond] at hkept
  exact absurd hkept (by decide)

open TwoKeys in
theorem keys_pinned_orderly :
    recordedKey (run (next Sample.config) ⟨Sample.started, []⟩ orderly).shared.nodes ⟨7⟩ = some 5 ∧
    recordedKey (run (next Sample.config) ⟨Sample.started, []⟩
      (orderly ++ List.replicate 6 (.run 1 {}))).shared.nodes ⟨7⟩ = some 5 := by
  have hrecorded : recordedKey (run (next Sample.config) ⟨Sample.started, []⟩
      orderly).shared.nodes ⟨7⟩ = some 5 := by decide +kernel
  exact ⟨hrecorded, (keys_pinned Sample.config Sample.started orderly
    (List.replicate 6 (.run 1 {})) (by decide +kernel)).1 ⟨7⟩ 5 hrecorded⟩

end OngrokRelay
