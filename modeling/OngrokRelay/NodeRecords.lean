import OngrokRelay.ControlPlane

/-
  The nodes table under concurrent sessions and token replacements.

  A RegisterNode, a heartbeat, a clean-up and a replacement each change records
  of the nodes map under its lock and store copies of them once the lock is
  released, the clean-up over Yamux alone before. Until then the task owes the
  table its copies, and a copy may be out of date when it gets there.

  1. `ControlTask.step_nodes`: one section does one of four things to the map,
     the table and what its task has yet to store.
  2. `NodesInOrder.next`: every node has its record in the table, or a task that
     is still to store it, as long as no store call writes another record while
     nobody is left to store the right one.
  3. `durable_nodes`: under that condition the table is the map whenever no task
     is at work on a node.
  4. `stale_heartbeat`: without it, it is not. A heartbeat whose store call
     comes after a replacement brings the node back online on the disk.
-/

namespace OngrokRelay

open Interleaving Transition

/-! ## What a task has yet to store -/

def RegisterNodePc.pendingNodes : RegisterNodePc → List NodeRecord
  | .put node => [node]
  | _ => []

def HeartbeatPc.pendingNodes : HeartbeatPc → List NodeRecord
  | .putNode node _ => [node]
  | _ => []

def CleanUpPc.pendingNodes : CleanUpPc → List NodeRecord
  | .put node => [node]
  | _ => []

def ReplacePc.pendingNodes : ReplacePc → List NodeRecord
  | .put nodes => nodes
  | .event _ rest => rest
  | _ => []

namespace SessionPc

def pendingNodes : SessionPc → List NodeRecord
  | .registerNode pc => pc.pendingNodes
  | .heartbeat _ pc => pc.pendingNodes
  | .ending pc _ => pc.pendingNodes
  | _ => []

/-- A record about to be inserted is that of the session's node. -/
def Filed (nodeId : NodeId) : SessionPc → Prop
  | .registerNode (.insertNode node) => node.nodeId = nodeId
  | _ => True

/-- Inside a RegisterNode, a heartbeat or a clean-up. -/
def busy : SessionPc → Bool
  | .registerNode _ | .heartbeat _ _ | .ending _ _ => true
  | _ => false

theorem idle_of_not_busy {pc : SessionPc} (h : pc.busy = false) (nodeId : NodeId) :
    pc.pendingNodes = [] ∧ pc.Filed nodeId := by
  cases pc with
  | registerNode pc | heartbeat sequence pc | ending pc result => cases h
  | loop | registerService pc | unregisterService serviceId pc | finished result =>
    exact ⟨rfl, trivial⟩

end SessionPc

namespace ControlTask

/-- The copies of records that the task has yet to store. -/
def pendingNodes : ControlTask → List NodeRecord
  | session (.live s) => s.pc.pendingNodes
  | replace _ _ pc => pc.pendingNodes
  | _ => []

/-- The record that the next section stores, if it is a store call of one. -/
def nodeCall : ControlTask → Option NodeRecord
  | session (.live s) => s.pc.pendingNodes.head?
  | replace _ _ (.put nodes) => nodes.head?
  | _ => none

def Filed : ControlTask → Prop
  | session (.live s) => s.pc.Filed s.nodeId
  | _ => True

/-- At work on a node: inside a RegisterNode, a heartbeat, a clean-up or the
replacement of a token. -/
def busy : ControlTask → Bool
  | session (.live s) => s.pc.busy
  | replace _ _ (.done _) => false
  | replace _ _ _ => true
  | _ => false

theorem idle_of_not_busy {task : ControlTask} (h : task.busy = false) :
    task.pendingNodes = [] ∧ task.Filed := by
  cases task with
  | session task =>
    cases task with
    | live s => exact SessionPc.idle_of_not_busy h s.nodeId
    | hello peer transport | auth peer transport | refused peer reason => exact ⟨rfl, trivial⟩
  | service task => exact ⟨rfl, trivial⟩
  | replace kind hash pc =>
    cases pc with
    | done result => exact ⟨rfl, trivial⟩
    | write | sweep | close disconnected | markOffline nodeIds | put nodes | event node rest =>
      cases h

end ControlTask

/-- Every call into the store succeeds. -/
structure Env.StoreSucceeds (env : Env) : Prop where
  put : env.put = .ok ()
  delete : env.delete = .ok ()
  putNode : ∀ nodeId, env.putNode nodeId = .ok ()
  putMetric : env.putMetric = .ok ()
  putTokens : env.putTokens = .ok ()
  event : ∀ nodeId, (env.event nodeId).put = .ok ()

/-- Every record is filed under its own id. -/
def NodesFiled (nodes : BTreeMap NodeId NodeRecord) : Prop :=
  ∀ (nodeId : NodeId) (node : NodeRecord), nodes[nodeId]? = some node → node.nodeId = nodeId

/-! ## One section -/

/-- What one section does to the map, to the table and to what its task has yet
to store. -/
inductive NodeEffect (st st' : AppState) (call : Option NodeRecord)
    (pending pending' : List NodeRecord) : Prop
  | quiet (nodes : st'.nodes = st.nodes) (rows : st'.store.nodes = st.store.nodes)
      (same : pending' = pending)
  | updated (rows : st'.store.nodes = st.store.nodes) (was : pending = [])
      (current : ∀ node ∈ pending', st'.nodes[node.nodeId]? = some node)
      (change : ∀ nodeId, st'.nodes[nodeId]? = st.nodes[nodeId]? ∨
        ∃ node ∈ pending', node.nodeId = nodeId)
  | stored (node : NodeRecord) (isCall : call = some node) (nodes : st'.nodes = st.nodes)
      (rows : st'.store.nodes = st.store.nodes.insert node.nodeId.text node)
      (was : pending = node :: pending')
  | written (node : NodeRecord) (nodes : st'.nodes = st.nodes.insert node.nodeId node)
      (rows : st'.store.nodes = st.store.nodes.insert node.nodeId.text node)
      (was : pending = []) (now : pending' = [])

/-- One record changes and its copy is taken. -/
theorem NodeEffect.updated_one {st st' : AppState} {call : Option NodeRecord} (node : NodeRecord)
    (nodes : st'.nodes = st.nodes.insert node.nodeId node)
    (rows : st'.store.nodes = st.store.nodes) : NodeEffect st st' call [] [node] := by
  refine .updated rows rfl (fun other hother => ?_) (fun nodeId => ?_)
  · rw [List.mem_singleton.mp hother, nodes, BTreeMap.get_insert_self]
  · by_cases hid : node.nodeId = nodeId
    · exact .inr ⟨node, List.mem_singleton_self node, hid⟩
    · exact .inl (by rw [nodes, BTreeMap.get_insert_ne _ _ hid])

/-- The copies taken are the records that the listed nodes then have. -/
theorem mem_markAllOffline {nodeIds : List NodeId} {st : AppState} {node : NodeRecord} :
    node ∈ (markAllOffline nodeIds st).2 ↔
      ∃ nodeId ∈ nodeIds, (markAllOffline nodeIds st).1.nodes[nodeId]? = some node := by
  induction nodeIds generalizing st with
  | nil => simp [markAllOffline]
  | cons nodeId rest ih =>
    -- the first node's copy is its record to the end, since a second mark changes nothing
    have hfirst : (markAllOffline (nodeId :: rest) st).1.nodes[nodeId]? =
        (markOffline nodeId st).2 := by
      rw [(markAllOffline_spec (nodeId :: rest) st).2 nodeId, if_pos List.mem_cons_self]
      unfold markOffline
      cases st.nodes[nodeId]? <;> rfl
    simp only [markAllOffline, List.mem_append, Option.mem_toList, ih, List.mem_cons,
      exists_eq_or_imp] at hfirst ⊢
    rw [hfirst]

theorem NodesFiled.markAllOffline {st : AppState} (h : NodesFiled st.nodes)
    (nodeIds : List NodeId) : NodesFiled (markAllOffline nodeIds st).1.nodes := by
  intro nodeId node hnode
  rw [(markAllOffline_spec nodeIds st).2 nodeId] at hnode
  split at hnode
  · obtain ⟨old, hold, rfl⟩ := Option.map_eq_some_iff.mp hnode
    exact h nodeId old hold
  · exact h nodeId node hnode

section
variable {env : Env} (henv : env.StoreSucceeds) (st : AppState)

include henv

theorem putNode_rows (node : NodeRecord) :
    (putNode env node st).store.nodes = st.store.nodes.insert node.nodeId.text node := by
  simp only [putNode, henv.putNode, commit_ok, ServiceStore.putNode]

theorem registerNodeStep_nodes (peer : Peer) (transport : TransportKind)
    (clientSession : ClientSession) (kind : TokenKind) (nodeId : NodeId) (pc : RegisterNodePc)
    (hfiled : (SessionPc.registerNode pc).Filed nodeId) :
    NodeEffect st (registerNodeStep peer transport clientSession kind nodeId env st pc).1
      pc.pendingNodes.head? pc.pendingNodes
      (registerNodeStep peer transport clientSession kind nodeId env st pc).2.pendingNodes ∧
    (SessionPc.registerNode
      (registerNodeStep peer transport clientSession kind nodeId env st pc).2).Filed nodeId := by
  cases pc with
  | identity metadata publicKey =>
    simp only [registerNodeStep]
    cases validateNodeIdentity st.nodes nodeId publicKey <;> exact ⟨.quiet rfl rfl rfl, trivial⟩
  | close replaced metadata publicKey =>
    exact ⟨.quiet (closeReplaced_nodes replaced st)
      (congrArg ServiceStore.nodes (closeReplaced_store replaced st)) rfl, rfl⟩
  | insertNode node =>
    obtain rfl : node.nodeId = nodeId := hfiled
    exact ⟨.updated_one node rfl rfl, trivial⟩
  | put node =>
    simp only [registerNodeStep, henv.putNode]
    exact ⟨.stored node rfl rfl (putNode_rows henv _ node) rfl, trivial⟩
  | event => exact ⟨.quiet rfl (recordEvent_store_nodes ..) rfl, trivial⟩
  | activate metadata publicKey | done result => exact ⟨.quiet rfl rfl rfl, trivial⟩

theorem heartbeatStep_nodes (hfiled : NodesFiled st.nodes) (nodeId : NodeId) (pc : HeartbeatPc) :
    NodeEffect st (heartbeatStep nodeId env st pc).1 pc.pendingNodes.head? pc.pendingNodes
      (heartbeatStep nodeId env st pc).2.pendingNodes := by
  cases pc with
  | nodes snapshot =>
    simp only [heartbeatStep]
    cases hnode : st.nodes[nodeId]? with
    | none => exact .quiet rfl rfl rfl
    | some node =>
      obtain rfl := hfiled nodeId node hnode
      exact .updated_one (node.heard env.now (roundTrip env.now snapshot)) rfl rfl
  | putNode node metric =>
    simp only [heartbeatStep, henv.putNode]
    exact .stored node rfl rfl (putNode_rows henv _ node) rfl
  | putMetric metric =>
    refine .quiet rfl ?_ rfl
    simp only [heartbeatStep, putMetric, henv.putMetric, commit_ok, ServiceStore.putMetric]
  | done result => exact .quiet rfl rfl rfl

theorem cleanUpStep_nodes (hfiled : NodesFiled st.nodes) (transport : TransportKind)
    (nodeId : NodeId) (sessionId : TunnelId) (pc : CleanUpPc) :
    NodeEffect st (cleanUpStep transport nodeId sessionId env st pc).1 pc.pendingNodes.head?
      pc.pendingNodes (cleanUpStep transport nodeId sessionId env st pc).2.pendingNodes := by
  cases pc with
  | check =>
    simp only [cleanUpStep]
    split <;> exact .quiet rfl rfl rfl
  | markOffline =>
    simp only [cleanUpStep, markOffline]
    cases hnode : st.nodes[nodeId]? with
    | none => exact .quiet rfl rfl rfl
    | some node =>
      obtain rfl := hfiled nodeId node hnode
      cases transport with
      | quic => exact .updated_one node.offline rfl rfl
      | tcpTlsYamux =>
        -- the record is stored before the lock is released
        simp only [henv.putNode]
        refine .written node.offline rfl ?_ rfl rfl
        rw [recordEvent_store_nodes]
        exact putNode_rows henv _ node.offline
  | put node =>
    simp only [cleanUpStep, henv.putNode]
    exact .stored node rfl rfl (putNode_rows henv _ node) rfl
  | event => exact .quiet rfl (recordEvent_store_nodes ..) rfl
  | remove | done result => exact .quiet rfl rfl rfl

theorem replaceStep_nodes (hfiled : NodesFiled st.nodes) (kind : TokenKind)
    (hash : Option TokenHash) (pc : ReplacePc) :
    NodeEffect st (replaceStep kind hash env st pc).1 (ControlTask.replace kind hash pc).nodeCall
      pc.pendingNodes (replaceStep kind hash env st pc).2.pendingNodes := by
  cases pc with
  | write =>
    simp only [replaceStep, writeToken, henv.putTokens]
    exact .quiet rfl rfl rfl
  | close disconnected =>
    simp only [replaceStep]
    rw [close_eq]
    exact .quiet rfl rfl rfl
  | markOffline nodeIds =>
    have hrows : (markAllOffline nodeIds st).1.store.nodes = st.store.nodes := by
      rw [markAllOffline_eq]
    refine .updated hrows rfl (fun node hnode => ?_) fun nodeId => ?_
    · obtain ⟨nodeId, -, hget⟩ := mem_markAllOffline.mp hnode
      rw [hfiled.markAllOffline nodeIds nodeId node hget]
      exact hget
    · have hget := (markAllOffline_spec nodeIds st).2 nodeId
      by_cases hmem : nodeId ∈ nodeIds
      · cases hold : st.nodes[nodeId]? with
        | none =>
          refine .inl (hget.trans ?_)
          rw [if_pos hmem, hold]
          rfl
        | some node =>
          rw [if_pos hmem, hold] at hget
          exact .inr ⟨node.offline, mem_markAllOffline.mpr ⟨nodeId, hmem, hget⟩,
            hfiled nodeId node hold⟩
      · exact .inl (hget.trans (if_neg hmem))
  | put nodes =>
    cases nodes with
    | nil => exact .quiet rfl rfl rfl
    | cons node rest =>
      simp only [replaceStep, henv.putNode]
      exact .stored node rfl rfl (putNode_rows henv _ node) rfl
  | event node rest => exact .quiet rfl (recordEvent_store_nodes ..) rfl
  | sweep | done result => exact .quiet rfl rfl rfl

end

/-- A session that has nothing in hand has nothing to store. -/
theorem SessionPc.Outset.pendingNodes {pc : SessionPc} (h : pc.Outset) (nodeId : NodeId) :
    pc.pendingNodes = [] ∧ pc.Filed nodeId := by
  cases h <;> exact ⟨rfl, trivial⟩

namespace LiveSession

theorem afterRegisterNode_pending (s : LiveSession) (pc : RegisterNodePc) (nodeId : NodeId)
    (hfiled : (SessionPc.registerNode pc).Filed nodeId) :
    (s.afterRegisterNode pc).pc.pendingNodes = pc.pendingNodes ∧
    (s.afterRegisterNode pc).pc.Filed nodeId := by
  unfold afterRegisterNode
  split
  · exact ⟨rfl, trivial⟩
  · exact (s.fail_outset _).pendingNodes nodeId
  · exact ⟨rfl, trivial⟩
  · exact ⟨rfl, hfiled⟩

theorem afterHeartbeat_pending (s : LiveSession) (env : Env) (sequence : UInt64)
    (pc : HeartbeatPc) (nodeId : NodeId) :
    (s.afterHeartbeat env sequence pc).pc.pendingNodes = pc.pendingNodes ∧
    (s.afterHeartbeat env sequence pc).pc.Filed nodeId := by
  unfold afterHeartbeat
  split
  · exact (s.replied_outset env).pendingNodes nodeId
  · exact (s.fail_outset _).pendingNodes nodeId
  · exact ⟨rfl, trivial⟩

theorem afterCleanUp_pending (s : LiveSession) (result : Outcome) (pc : CleanUpPc)
    (nodeId : NodeId) :
    (s.afterCleanUp result pc).pc.pendingNodes = pc.pendingNodes ∧
    (s.afterCleanUp result pc).pc.Filed nodeId := by
  unfold afterCleanUp
  split <;> exact ⟨rfl, trivial⟩

theorem afterRegisterService_pending (s : LiveSession) (env : Env) (pc : RegisterPc)
    (nodeId : NodeId) : (s.afterRegisterService env pc).pc.pendingNodes = [] ∧
      (s.afterRegisterService env pc).pc.Filed nodeId := by
  unfold afterRegisterService
  split
  · exact (s.replied_outset env).pendingNodes nodeId
  · exact ⟨rfl, trivial⟩

theorem afterUnregisterService_pending (s : LiveSession) (serviceId : ServiceId)
    (pc : UnregisterPc) (nodeId : NodeId) :
    (s.afterUnregisterService serviceId pc).pc.pendingNodes = [] ∧
      (s.afterUnregisterService serviceId pc).pc.Filed nodeId := by
  unfold afterUnregisterService
  split
  · exact ⟨rfl, trivial⟩
  · exact (s.fail_outset _).pendingNodes nodeId
  · exact ⟨rfl, trivial⟩

/-- **What one section of a session does to the nodes.** -/
theorem step_nodes (cfg : RelayConfig) {env : Env} (henv : env.StoreSucceeds) {st : AppState}
    {s : LiveSession} (hnodes : NodesFiled st.nodes) (hfiled : s.pc.Filed s.nodeId) :
    NodeEffect st (s.step cfg env st).1 s.pc.pendingNodes.head? s.pc.pendingNodes
      (s.step cfg env st).2.pc.pendingNodes ∧ (s.step cfg env st).2.pc.Filed s.nodeId := by
  unfold step
  split
  · rename_i hpc
    obtain ⟨hpending, hread⟩ := (s.read_outset env).pendingNodes s.nodeId
    rw [hpc, hpending]
    exact ⟨.quiet rfl rfl rfl, hread⟩
  · rename_i pc hpc
    rw [hpc] at hfiled ⊢
    obtain ⟨heffect, hnext⟩ := registerNodeStep_nodes henv st s.peer s.transport
      (s.transport.session s.peer.connection) s.kind s.nodeId pc hfiled
    obtain ⟨hpending, hafter⟩ := s.afterRegisterNode_pending _ s.nodeId hnext
    exact ⟨by rw [Prod.map_snd, hpending]; exact heffect, hafter⟩
  · rename_i pc hpc
    have hoff := registerStep_off cfg s.nodeId env st pc
    obtain ⟨hpending, hafter⟩ := s.afterRegisterService_pending env
      (registerStep cfg s.nodeId env st pc).2 s.nodeId
    rw [hpc, Prod.map_snd, hpending]
    exact ⟨.quiet hoff.nodes hoff.storedNodes rfl, hafter⟩
  · rename_i serviceId pc hpc
    have hoff := unregisterStep_off serviceId s.nodeId env st pc
    obtain ⟨hpending, hafter⟩ := s.afterUnregisterService_pending serviceId
      (unregisterStep serviceId s.nodeId env st pc).2 s.nodeId
    rw [hpc, Prod.map_snd, hpending]
    exact ⟨.quiet hoff.nodes hoff.storedNodes rfl, hafter⟩
  · rename_i sequence pc hpc
    rw [hpc]
    obtain ⟨hpending, hafter⟩ := s.afterHeartbeat_pending env sequence
      (heartbeatStep s.nodeId env st pc).2 s.nodeId
    exact ⟨by rw [Prod.map_snd, hpending]; exact heartbeatStep_nodes henv st hnodes s.nodeId pc,
      hafter⟩
  · rename_i pc result hpc
    rw [hpc]
    obtain ⟨hpending, hafter⟩ := s.afterCleanUp_pending result
      (cleanUpStep s.transport s.nodeId s.peer.sessionId env st pc).2 s.nodeId
    refine ⟨?_, hafter⟩
    rw [Prod.map_snd, hpending]
    exact cleanUpStep_nodes henv st hnodes s.transport s.nodeId s.peer.sessionId pc
  · rename_i result hpc
    rw [hpc] at hfiled ⊢
    exact ⟨.quiet rfl rfl rfl, hfiled⟩

end LiveSession

/-- **What one section does to the nodes.** -/
theorem ControlTask.step_nodes (cfg : RelayConfig) {env : Env} (henv : env.StoreSucceeds)
    {st : AppState} {task : ControlTask} (hnodes : NodesFiled st.nodes) (hfiled : task.Filed) :
    NodeEffect st (task.step cfg env st).1 task.nodeCall task.pendingNodes
      (task.step cfg env st).2.pendingNodes ∧ (task.step cfg env st).2.Filed := by
  cases task with
  | session task =>
    cases task with
    | live s =>
      obtain ⟨heffect, hafter⟩ := LiveSession.step_nodes cfg henv hnodes hfiled
      refine ⟨heffect, ?_⟩
      rw [← (s.step_keeps cfg env st).nodeId] at hafter
      exact hafter
    | hello peer transport =>
      rcases SessionTask.hello_cases cfg env st peer transport with hstep | ⟨reason, hstep⟩ <;>
        rw [step, hstep] <;> exact ⟨.quiet rfl rfl rfl, trivial⟩
    | auth peer transport =>
      rcases SessionTask.auth_cases cfg env st peer transport with
        ⟨reason, hstep⟩ | ⟨token, nodeId, kind, -, hstep⟩ <;>
        rw [step, hstep] <;> exact ⟨.quiet rfl rfl rfl, trivial⟩
    | refused peer reason => exact ⟨.quiet rfl rfl rfl, trivial⟩
  | service task =>
    have hoff := task.step_off cfg env st
    exact ⟨.quiet hoff.nodes hoff.storedNodes rfl, trivial⟩
  | replace kind hash pc => exact ⟨replaceStep_nodes henv st hnodes kind hash pc, trivial⟩

/-! ## Obligations -/

/-- The table holds, under the printed id of every node, its record in the map,
and nothing else. -/
structure NodesAgree (st : AppState) : Prop where
  filed : NodesFiled st.nodes
  rows : ∀ (key : String) (node : NodeRecord), st.store.nodes[key]? = some node ↔
    ∃ nodeId : NodeId, key = nodeId.text ∧ st.nodes[nodeId]? = some node

def NodeAgrees (st : AppState) (nodeId : NodeId) : Prop :=
  st.store.nodes[nodeId.text]? = st.nodes[nodeId]?

/-- The task is still to store the record that the node now has. -/
def OwesNode (st : AppState) (task : ControlTask) (nodeId : NodeId) : Prop :=
  ∃ node ∈ task.pendingNodes, node.nodeId = nodeId ∧ st.nodes[nodeId]? = some node

instance (st : AppState) (task : ControlTask) (nodeId : NodeId) :
    Decidable (OwesNode st task nodeId) :=
  inferInstanceAs (Decidable (∃ node ∈ task.pendingNodes,
    node.nodeId = nodeId ∧ st.nodes[nodeId]? = some node))

/-- Every node has its record in the table, or a task that is to store it. -/
structure NodesInOrder (p : ControlPlane) : Prop where
  nodes : NodesFiled p.shared.nodes
  printed : ∀ (key : String) (node : NodeRecord),
    p.shared.store.nodes[key]? = some node → ∃ nodeId : NodeId, key = nodeId.text
  filed : ∀ task ∈ p.tasks, task.Filed
  rows : Covered (NodeAgrees p.shared) (OwesNode p.shared) p.tasks

/-- A store call writes the record that the node now has, or another task is
still to store that one. -/
def StoresLatest (p : ControlPlane) : Event Env ControlTask → Prop
  | .run i _ => ∀ task ∈ p.tasks[i]?, ∀ node ∈ task.nodeCall,
      p.shared.nodes[node.nodeId]? = some node ∨
        ∃ other ∈ p.others i, OwesNode p.shared other node.nodeId
  | .spawn _ => True

instance (p : ControlPlane) : ∀ e : Event Env ControlTask, Decidable (StoresLatest p e)
  | .run i _ => inferInstanceAs (Decidable (∀ task ∈ p.tasks[i]?, ∀ node ∈ task.nodeCall,
      p.shared.nodes[node.nodeId]? = some node ∨
        ∃ other ∈ p.others i, OwesNode p.shared other node.nodeId))
  | .spawn _ => inferInstanceAs (Decidable True)

/-- The store calls of the section succeed. -/
def CallsSucceed : Event Env ControlTask → Prop
  | .run _ env => env.StoreSucceeds
  | .spawn _ => True

/-- When no task is at work on a node, the table is the map. -/
def FollowsMemory (p : ControlPlane) : Prop :=
  (∀ task ∈ p.tasks, task.busy = false) → NodesAgree p.shared

section
variable {p : ControlPlane} {i : Nat} {task task' : ControlTask} {st' : AppState}

/-- Every record is still filed under its own id. -/
theorem NodeEffect.filed {st : AppState} {call : Option NodeRecord}
    {pending pending' : List NodeRecord} (he : NodeEffect st st' call pending pending')
    (h : NodesFiled st.nodes) : NodesFiled st'.nodes := by
  intro nodeId node hnode
  cases he with
  | quiet nodes rows same | stored record isCall nodes rows was =>
    rw [nodes] at hnode
    exact h nodeId node hnode
  | updated rows was current change =>
    rcases change nodeId with hkept | ⟨record, hrecord, rfl⟩
    · exact h nodeId node (hkept ▸ hnode)
    · rw [current record hrecord] at hnode
      cases hnode
      rfl
  | written record nodes rows was now =>
    rw [nodes] at hnode
    rcases BTreeMap.get_insert_some.mp hnode with ⟨hid, rfl⟩ | ⟨-, hold⟩
    · exact hid
    · exact h nodeId node hold

/-- Every row is still found under a printed id. -/
theorem NodeEffect.printed {st : AppState} {call : Option NodeRecord}
    {pending pending' : List NodeRecord} (he : NodeEffect st st' call pending pending')
    (h : ∀ (key : String) (node : NodeRecord),
      st.store.nodes[key]? = some node → ∃ nodeId : NodeId, key = nodeId.text) :
    ∀ (key : String) (node : NodeRecord),
      st'.store.nodes[key]? = some node → ∃ nodeId : NodeId, key = nodeId.text := by
  intro key node hnode
  cases he with
  | quiet nodes rows same | updated rows was current change =>
    rw [rows] at hnode
    exact h key node hnode
  | stored record isCall nodes rows was | written record nodes rows was now =>
    rw [rows] at hnode
    rcases BTreeMap.get_insert_some.mp hnode with ⟨hkey, -⟩ | ⟨-, hold⟩
    · exact ⟨record.nodeId, hkey.symm⟩
    · exact h key node hold

theorem NodesInOrder.rows_set (h : NodesInOrder p) (ht : p.tasks[i]? = some task)
    (he : NodeEffect p.shared st' task.nodeCall task.pendingNodes task'.pendingNodes)
    (hlatest : ∀ node ∈ task.nodeCall, p.shared.nodes[node.nodeId]? = some node ∨
      ∃ other ∈ p.others i, OwesNode p.shared other node.nodeId) :
    Covered (NodeAgrees st') (OwesNode st') (p.tasks.set i task') := by
  cases he with
  | quiet nodes rows same =>
    refine h.rows.set ht (fun k hk => ?_) (fun k j u _ _ hu => ?_)
    · rcases hk with hk | hk
      · exact .inl (by simpa only [NodeAgrees, nodes, rows] using hk)
      · exact .inr (.inl (by simpa only [OwesNode, nodes, same] using hk))
    · exact .inr (.inr (by simpa only [OwesNode, nodes] using hu))
  | updated rows was current change =>
    -- a changed node is owed for by the task that changed it, the others are as they were
    have hnew {record : NodeRecord} (hrecord : record ∈ task'.pendingNodes) :
        OwesNode st' task' record.nodeId := ⟨record, hrecord, rfl, current record hrecord⟩
    refine h.rows.set ht (fun k hk => ?_) (fun k j u _ _ hu => ?_)
    · rcases change k with hkept | ⟨record, hrecord, rfl⟩
      · rcases hk with hk | ⟨record, hrecord, -⟩
        · exact .inl (by simpa only [NodeAgrees, rows, hkept] using hk)
        · rw [was] at hrecord
          cases hrecord
      · exact .inr (.inl (hnew hrecord))
    · rcases change k with hkept | ⟨record, hrecord, rfl⟩
      · exact .inr (.inr (by simpa only [OwesNode, hkept] using hu))
      · exact .inr (.inl (hnew hrecord))
  | stored record isCall nodes rows was =>
    have hrow (k : NodeId) : st'.store.nodes[k.text]? =
        if record.nodeId = k then some record else p.shared.store.nodes[k.text]? := by
      rw [rows, BTreeMap.get_insert]
      simp only [UuidId.text_inj]
    refine h.rows.set ht (fun k hk => ?_) (fun k j u _ _ hu => ?_)
    · by_cases hid : record.nodeId = k
      · subst hid
        -- the record stored is the one the node has, or another task is to store that
        rcases hlatest record isCall with hcurrent | ⟨u, hu, howes⟩
        · exact .inl (by rw [NodeAgrees, hrow, if_pos rfl, nodes, hcurrent])
        · obtain ⟨j, hj, hu⟩ := Pool.mem_others.mp hu
          exact .inr (.inr ⟨j, u, hj, hu, by simpa only [OwesNode, nodes] using howes⟩)
      · rcases hk with hk | ⟨other, hother, hk, hget⟩
        · exact .inl (by rw [NodeAgrees, hrow, if_neg hid, nodes]; exact hk)
        · rw [was] at hother
          rcases List.mem_cons.mp hother with rfl | hother
          · exact absurd hk hid
          · exact .inr (.inl ⟨other, hother, hk, by rw [nodes]; exact hget⟩)
    · exact .inr (.inr (by simpa only [OwesNode, nodes] using hu))
  | written record nodes rows was now =>
    have hrow (k : NodeId) : NodeAgrees st' k ↔ record.nodeId = k ∨ NodeAgrees p.shared k := by
      rw [NodeAgrees, rows, nodes, BTreeMap.get_insert, BTreeMap.get_insert]
      simp only [UuidId.text_inj]
      by_cases hid : record.nodeId = k <;> simp [hid, NodeAgrees]
    refine h.rows.set ht (fun k hk => ?_) (fun k j u _ _ hu => ?_)
    · rcases hk with hk | ⟨other, hother, -⟩
      · exact .inl ((hrow k).mpr (.inr hk))
      · rw [was] at hother
        cases hother
    · by_cases hid : record.nodeId = k
      · exact .inl ((hrow k).mpr (.inl hid))
      · refine .inr (.inr ?_)
        simpa only [OwesNode, nodes, BTreeMap.get_insert_ne _ _ hid] using hu

end

/-- A task that joins has yet to take its first copy. -/
theorem ControlPlane.opens_filed {p : ControlPlane} {task : ControlTask} (h : p.opens task) :
    task.Filed := by
  cases task with
  | session task =>
    cases task with
    | live s => cases h
    | hello peer transport | auth peer transport | refused peer reason => trivial
  | service task | replace kind hash pc => trivial

/-- **One event.** -/
theorem NodesInOrder.next {cfg : RelayConfig} {p : ControlPlane} (h : NodesInOrder p)
    {e : Event Env ControlTask} (hcalls : CallsSucceed e) (hlatest : StoresLatest p e) :
    NodesInOrder (p.next cfg e) := by
  rcases p.next_cases cfg e with he | ⟨i, env, task, rfl, htask, he⟩ | ⟨task, -, hopens, he⟩
  · rw [he]
    exact h
  · obtain ⟨heffect, hfiled⟩ :=
      task.step_nodes cfg hcalls h.nodes (h.filed task (List.mem_of_getElem? htask))
    rw [he]
    refine ⟨heffect.filed h.nodes, heffect.printed h.printed, fun t ht => ?_,
      h.rows_set htask heffect (hlatest task htask)⟩
    rcases List.mem_or_eq_of_mem_set ht with ht | rfl
    · exact h.filed t ht
    · exact hfiled
  · rw [he]
    refine ⟨h.nodes, h.printed, fun t ht => ?_, fun k => ?_⟩
    · rcases List.mem_append.mp ht with ht | ht
      · exact h.filed t ht
      · rw [List.mem_singleton.mp ht]
        exact ControlPlane.opens_filed hopens
    · exact (h.rows k).imp_right fun ⟨t, ht, hk⟩ => ⟨t, List.mem_append_left [task] ht, hk⟩

theorem NodesInOrder.of_agree {p : ControlPlane} (h : NodesAgree p.shared)
    (hidle : ∀ task ∈ p.tasks, task.busy = false) : NodesInOrder p := by
  obtain ⟨hprinted, hrows⟩ := (BTreeMap.renamed_iff fun _ _ => UuidId.text_injective).mp h.rows
  exact ⟨h.filed, hprinted,
    fun task htask => (ControlTask.idle_of_not_busy (hidle task htask)).2, fun k => .inl (hrows k)⟩

/-- When no task is at work on a node, nothing is owed. -/
theorem NodesInOrder.followsMemory {p : ControlPlane} (h : NodesInOrder p) : FollowsMemory p := by
  intro hidle
  have hrows : ∀ nodeId, NodeAgrees p.shared nodeId :=
    h.rows.settled fun task htask nodeId howes => by
      obtain ⟨node, hnode, -⟩ := howes
      rw [(ControlTask.idle_of_not_busy (hidle task htask)).1] at hnode
      cases hnode
  exact ⟨h.nodes, (BTreeMap.renamed_iff fun _ _ => UuidId.text_injective).mpr ⟨h.printed, hrows⟩⟩

/-- **Durable node records follow memory** in every run whose store calls write
the latest record, or leave another task to write it. -/
theorem durable_nodes (cfg : RelayConfig) (p : ControlPlane) (events : List (Event Env ControlTask))
    (hstart : NodesAgree p.shared) (hidle : ∀ task ∈ p.tasks, task.busy = false)
    (hcalls : ∀ e ∈ events, CallsSucceed e)
    (hlatest : EveryStep (ControlPlane.next cfg) StoresLatest p events) :
    EveryState (ControlPlane.next cfg) FollowsMemory p events := by
  have hrun := everyState_of_everyStep (P := NodesInOrder)
    (C := fun p e => CallsSucceed e ∧ StoresLatest p e)
    (fun p e hp he => hp.next he.1 he.2) (NodesInOrder.of_agree hstart hidle)
    (hlatest.and_labels hcalls)
  exact hrun.mono fun p hp => hp.followsMemory

/-! ## A start -/

theorem loadOrInitialize_nodes (adminHash userHash : TokenHash) (outcome : Outcome)
    (store : ServiceStore) :
    (store.loadOrInitializeTokens adminHash userHash outcome).1.nodes = store.nodes := by
  unfold ServiceStore.loadOrInitializeTokens
  cases store.tokens with
  | some tokens => rfl
  | none => cases outcome <;> rfl

/-- The server starts with the records of its table. -/
theorem start_nodesAgree {env : Env} {adminHash userHash : TokenHash} {store : ServiceStore}
    {st : AppState} (hrows : ∀ (key : String) (node : NodeRecord),
      store.nodes[key]? = some node → key = node.nodeId.text)
    (h : start env adminHash userHash store = .ok st) : NodesAgree st := by
  obtain ⟨store', tokens, tasks, hload, rfl⟩ := start_spec h
  have hstored : store'.nodes = store.nodes := by
    rw [← loadOrInitialize_nodes adminHash userHash env.putTokens store, hload]
  refine ⟨fun nodeId node hnode => (BTreeMap.ofValues_some hnode).2, fun key node => ?_⟩
  simp only [hstored]
  constructor
  · intro hnode
    refine ⟨node.nodeId, hrows key node hnode, ?_⟩
    refine BTreeMap.ofValues_of_mem (BTreeMap.mem_values_iff.mpr ⟨key, hnode⟩) fun other hother hid => ?_
    -- two records of one node would be one row
    obtain ⟨key', hother⟩ := BTreeMap.mem_values_iff.mp hother
    rw [hrows key node hnode] at hnode
    rw [hrows key' other hother, hid, hnode] at hother
    exact (Option.some.inj hother).symm
  · rintro ⟨nodeId, rfl, hnode⟩
    obtain ⟨hmem, rfl⟩ := BTreeMap.ofValues_some hnode
    obtain ⟨key, hkey⟩ := BTreeMap.mem_values_iff.mp hmem
    rw [hrows key node hkey] at hkey
    exact hkey

/-! ## A heartbeat that a replacement overtakes -/

namespace StaleHeartbeat

/-- The session of node 7 registers, and a heartbeat comes. -/
def heard : List (Event Env ControlTask) :=
  Sample.connects 0 11 7 ++ Sample.registers 0 ++
    [.run 0 { input := .ok (.heartbeat ⟨1, 0, none, none, none, none, none⟩) }, .run 0 { now := 5 }]

/-- The user token is replaced. -/
def replaced : List (Event Env ControlTask) :=
  .spawn (.replace .user (some 9) .write) :: List.replicate 7 (.run 1 {})

/-- The heartbeat's two store calls, and the end of the session's stream. -/
def acknowledged : List (Event Env ControlTask) := List.replicate 3 (.run 0 {})

theorem calls_succeed : ∀ e ∈ heard ++ replaced ++ acknowledged, CallsSucceed e := by
  have hsucceeds (input : Except String Frame) (now : Int64) :
      Env.StoreSucceeds { input, now } := ⟨rfl, rfl, fun _ => rfl, rfl, rfl, fun _ => rfl⟩
  simp [heard, replaced, acknowledged, Sample.connects, Sample.registers, CallsSucceed, hsucceeds]

theorem started_agrees : NodesAgree Sample.started :=
  start_nodesAgree (fun key node h => by simp at h) Sample.started_ok

end StaleHeartbeat

open StaleHeartbeat in
/-- **A heartbeat brings a node back on the disk** that a replacement has marked
offline. -/
theorem stale_heartbeat : ¬∀ (cfg : RelayConfig) (p : ControlPlane)
    (events : List (Event Env ControlTask)), NodesAgree p.shared →
    (∀ task ∈ p.tasks, task.busy = false) → (∀ e ∈ events, CallsSucceed e) →
    EveryState (ControlPlane.next cfg) FollowsMemory p events := by
  intro h
  have hlast := (h Sample.config ⟨Sample.started, []⟩ (heard ++ replaced ++ acknowledged)
    started_agrees (fun task htask => by cases htask) calls_succeed).last
  have hagree : NodesAgree (Sample.reached (heard ++ replaced ++ acknowledged)).shared :=
    hlast (by decide +kernel)
  have hmemory : (Sample.reached (heard ++ replaced ++ acknowledged)).shared.nodes[
      (⟨7⟩ : NodeId)]?.map NodeRecord.status = some .offline := by decide +kernel
  have hdisk : (Sample.reached (heard ++ replaced ++ acknowledged)).shared.store.nodes[
      (⟨7⟩ : NodeId).text]?.map NodeRecord.status = some .online := by decide +kernel
  obtain ⟨node, hnode, hstatus⟩ := Option.map_eq_some_iff.mp hmemory
  rw [(hagree.rows _ node).mpr ⟨⟨7⟩, rfl, hnode⟩, Option.map_some, hstatus] at hdisk
  cases hdisk

open StaleHeartbeat in
theorem durable_nodes_orderly :
    NodesAgree (Sample.reached (heard ++ acknowledged ++ replaced)).shared := by
  have hcalls : ∀ e ∈ heard ++ acknowledged ++ replaced, CallsSucceed e := by
    intro e he
    refine calls_succeed e ?_
    simp only [List.mem_append] at he ⊢
    tauto
  exact (durable_nodes Sample.config ⟨Sample.started, []⟩ (heard ++ acknowledged ++ replaced)
    started_agrees (fun task htask => by cases htask) hcalls (by decide +kernel)).last
    (by decide +kernel)

end OngrokRelay
