import OngrokRelay.NodeRecords
import OngrokRelay.TokenHistory

/-
  What the records of nodes and metrics are, in memory and on disk, over the whole life of a
  database.

  A record is checked in one section, filed in another and stored in a third, by tasks that
  the end of the process may stop between any two. A record that its task has in hand is
  therefore part of the invariant.

  1. `SameRecords`: what no directory operation and no token change touches.
  2. `ControlTask.step_sound`: one section keeps the records, and what its task has in hand.
  3. `records_sound`: so they are sound in every run with any number of restarts, and no row
     of a node is ever removed.
-/

namespace OngrokRelay

open Interleaving Transition

/-! ## Sound records -/

/-- The bound of a round trip, in milliseconds. -/
def longestRoundTrip : UInt32 := 3600000

structure NodeRecord.Sound (node : NodeRecord) : Prop where
  metadata : node.metadata.metadata.validate = .ok ()
  rtt : ∀ rttMs, node.rttMs = some rttMs → rttMs ≤ longestRoundTrip

/-- A metric of a node with a row of its own. -/
structure NodeMetric.Sound (store : ServiceStore) (metric : NodeMetric) : Prop where
  rtt : ∀ rttMs, metric.rttMs = some rttMs → rttMs ≤ longestRoundTrip
  node : metric.nodeId.text ∈ store.nodes

structure ServiceStore.Sound (store : ServiceStore) : Prop where
  nodes : ∀ (key : String) (node : NodeRecord), store.nodes[key]? = some node → node.Sound
  metrics : ∀ (key : String) (metric : NodeMetric), store.metrics[key]? = some metric →
    metric.Sound store

structure AppState.Sound (st : AppState) : Prop where
  store : st.store.Sound
  filed : NodesFiled st.nodes
  nodes : ∀ (nodeId : NodeId) (node : NodeRecord), st.nodes[nodeId]? = some node → node.Sound

theorem roundTrip_le (now : Int64) (snapshot : HeartbeatSnapshot) :
    roundTrip now snapshot ≤ longestRoundTrip := by
  unfold roundTrip
  generalize (saturatingSub now snapshot.sentAtUnixMs).toInt = elapsed
  have hle : (max 0 (min 3600000 elapsed)).toNat ≤ 3600000 := by omega
  rw [UInt32.le_iff_toNat_le, UInt32.toNat_ofNat_of_lt' (by rw [UInt32.size]; omega)]
  exact hle

theorem NodeRecord.Sound.offline {node : NodeRecord} (h : node.Sound) : node.offline.Sound :=
  ⟨h.metadata, h.rtt⟩

theorem NodeRecord.Sound.heard {node : NodeRecord} (h : node.Sound) (now : Int64)
    (snapshot : HeartbeatSnapshot) : (node.heard now (roundTrip now snapshot)).Sound := by
  refine ⟨h.metadata, fun rttMs hrtt => ?_⟩
  cases hrtt
  exact roundTrip_le now snapshot

/-! ## What leaves the records alone -/

structure SameRecords (st st' : AppState) : Prop where
  nodes : st'.nodes = st.nodes
  rows : st'.store.nodes = st.store.nodes
  metrics : st'.store.metrics = st.store.metrics

/-- No row of a node is removed. -/
def RowsKept (st st' : AppState) : Prop := ∀ key ∈ st.store.nodes, key ∈ st'.store.nodes

theorem SameRecords.rowsKept {st st' : AppState} (h : SameRecords st st') : RowsKept st st' := by
  intro key hkey
  rw [h.rows]
  exact hkey

theorem SameRecords.sound {st st' : AppState} (h : SameRecords st st') (hst : st.Sound) :
    st'.Sound := by
  refine ⟨⟨fun key node hnode => ?_, fun key metric hmetric => ?_⟩, ?_, fun nodeId node hnode => ?_⟩
  · rw [h.rows] at hnode
    exact hst.store.nodes key node hnode
  · rw [h.metrics] at hmetric
    have hsound := hst.store.metrics key metric hmetric
    exact ⟨hsound.rtt, h.rowsKept _ hsound.node⟩
  · rw [h.nodes]
    exact hst.filed
  · rw [h.nodes] at hnode
    exact hst.nodes nodeId node hnode

namespace SameRecords

theorem refl (st : AppState) : SameRecords st st := ⟨rfl, rfl, rfl⟩

theorem putService (env : Env) (service : ServiceDefinition) (st : AppState) :
    SameRecords st (putService env service st) := by
  unfold OngrokRelay.putService
  cases env.put <;> exact ⟨rfl, rfl, rfl⟩

theorem deleteRow (env : Env) (serviceId : ServiceId) (st : AppState) :
    SameRecords st (deleteRow env serviceId st) := by
  unfold OngrokRelay.deleteRow
  cases env.delete <;> exact ⟨rfl, rfl, rfl⟩

theorem recordEvent (env : Env) (kind : EventKind) (nodeId : Option NodeId)
    (serviceId : Option ServiceId) (tokenKind : Option TokenKind) (st : AppState) :
    SameRecords st (recordEvent env kind nodeId serviceId tokenKind st) :=
  ⟨rfl, recordEvent_store_nodes .., recordEvent_store_metrics ..⟩

end SameRecords

theorem registerStep_records (cfg : RelayConfig) (nodeId : NodeId) (env : Env) (st : AppState)
    (pc : RegisterPc) : SameRecords st (registerStep cfg nodeId env st pc).1 := by
  cases pc with
  | lock service =>
    simp only [registerStep, registerLocked]
    cases admitService cfg st.services service nodeId <;> exact ⟨rfl, rfl, rfl⟩
  | put service =>
    simp only [registerStep]
    split <;> exact .putService env service st
  | lookUp service =>
    simp only [registerStep]
    split
    · exact .refl st
    · split <;> exact .refl st
  | bind service port =>
    simp only [registerStep]
    split <;> exact .refl st
  | deleteRow service =>
    simp only [registerStep]
    split <;> exact .deleteRow env service.serviceId st
  | event service => exact .recordEvent env _ _ _ _ st
  | insertTask service port | rollBack service | done result => exact ⟨rfl, rfl, rfl⟩

theorem unregisterStep_records (serviceId : ServiceId) (nodeId : NodeId) (env : Env)
    (st : AppState) (pc : UnregisterPc) :
    SameRecords st (unregisterStep serviceId nodeId env st pc).1 := by
  cases pc with
  | lock =>
    simp only [unregisterStep]
    split <;> exact ⟨rfl, rfl, rfl⟩
  | deleteRow =>
    simp only [unregisterStep]
    split <;> exact .deleteRow env serviceId st
  | event => exact .recordEvent env _ _ _ _ st
  | abort | done result => exact ⟨rfl, rfl, rfl⟩

theorem ServiceTask.step_records (cfg : RelayConfig) (env : Env) (st : AppState)
    (task : ServiceTask) : SameRecords st (task.step cfg env st).1 := by
  cases task with
  | register nodeId pc => exact registerStep_records cfg nodeId env st pc
  | unregister serviceId nodeId pc => exact unregisterStep_records serviceId nodeId env st pc
  | delete serviceId pc =>
    cases pc with
    | remove =>
      simp only [step, deleteStep]
      cases st.services[serviceId]? <;> exact ⟨rfl, rfl, rfl⟩
    | deleteRow nodeId =>
      simp only [step, deleteStep]
      split <;> exact .deleteRow env serviceId st
    | event nodeId => exact .recordEvent env _ _ _ _ st
    | abort nodeId | done response => exact ⟨rfl, rfl, rfl⟩
  | patch serviceId pc =>
    cases pc with
    | lock metadata =>
      cases metadata with
      | none => exact .refl st
      | some metadata =>
        simp only [step, patchStep]
        cases metadata.validate with
        | error e => exact .refl st
        | ok _ =>
          simp only [patchLocked]
          cases st.services[serviceId]? <;> exact ⟨rfl, rfl, rfl⟩
    | put updated =>
      simp only [step, patchStep]
      split <;> exact .putService env updated st
    | view updated | done response => exact .refl st

/-! ## What changes them -/

section
variable {st : AppState} (env : Env)

theorem AppState.Sound.insertNode (h : st.Sound) {node : NodeRecord} (hnode : node.Sound)
    {nodeId : NodeId} (hid : node.nodeId = nodeId) : (insertNode nodeId node st).Sound := by
  refine ⟨h.store, fun other record hrecord => ?_, fun other record hrecord => ?_⟩
  · rcases BTreeMap.get_insert_some.mp hrecord with ⟨rfl, rfl⟩ | ⟨-, hrecord⟩
    · exact hid
    · exact h.filed other record hrecord
  · rcases BTreeMap.get_insert_some.mp hrecord with ⟨-, rfl⟩ | ⟨-, hrecord⟩
    · exact hnode
    · exact h.nodes other record hrecord

theorem rowsKept_putNode (node : NodeRecord) (st : AppState) : RowsKept st (putNode env node st) := by
  intro key hkey
  unfold putNode
  cases env.putNode node.nodeId with
  | error e => exact hkey
  | ok _ => exact Std.ExtTreeMap.mem_insert.mpr (.inr hkey)

theorem AppState.Sound.putNode (h : st.Sound) {node : NodeRecord} (hnode : node.Sound) :
    (putNode env node st).Sound := by
  have hkept := rowsKept_putNode env node st
  unfold OngrokRelay.putNode at hkept ⊢
  cases hput : env.putNode node.nodeId with
  | error e => exact h
  | ok _ =>
    rw [hput] at hkept
    refine ⟨⟨fun key row hrow => ?_, fun key metric hmetric => ?_⟩, h.filed, h.nodes⟩
    · rcases BTreeMap.get_insert_some.mp hrow with ⟨-, rfl⟩ | ⟨-, hrow⟩
      · exact hnode
      · exact h.store.nodes key row hrow
    · have hsound := h.store.metrics key metric hmetric
      exact ⟨hsound.rtt, hkept _ hsound.node⟩

theorem AppState.Sound.putMetric (h : st.Sound) {metric : NodeMetric}
    (hmetric : metric.Sound st.store) : (putMetric env metric st).Sound := by
  unfold OngrokRelay.putMetric
  cases env.putMetric with
  | error e => exact h
  | ok _ =>
    refine ⟨⟨h.store.nodes, fun key stored hstored => ?_⟩, h.filed, h.nodes⟩
    -- the table holds the new metric and those of the old ones it has not pruned
    simp only [commit, ServiceStore.putMetric, Std.ExtTreeMap.getElem?_filter'] at hstored
    rcases BTreeMap.get_insert_some.mp (Option.filter_eq_some_iff.mp hstored).1 with
      ⟨-, rfl⟩ | ⟨-, hstored⟩
    · exact ⟨hmetric.rtt, hmetric.node⟩
    · exact ⟨(h.store.metrics key stored hstored).rtt, (h.store.metrics key stored hstored).node⟩

end

/-! ## What a task has in hand -/

def RegisterNodePc.InHand (nodeId : NodeId) : RegisterNodePc → Prop
  | .identity metadata _ | .activate metadata _ | .close _ metadata _ =>
    metadata.metadata.validate = .ok ()
  | .insertNode node => node.Sound ∧ node.nodeId = nodeId
  | .put node => node.Sound
  | .event | .done _ => True

def HeartbeatPc.InHand (store : ServiceStore) : HeartbeatPc → Prop
  | .putNode node metric => node.Sound ∧ metric.nodeId = node.nodeId ∧
    ∀ rttMs, metric.rttMs = some rttMs → rttMs ≤ longestRoundTrip
  | .putMetric metric => metric.Sound store
  | .nodes _ | .done _ => True

def CleanUpPc.InHand : CleanUpPc → Prop
  | .put node => node.Sound
  | _ => True

def SessionPc.InHand (store : ServiceStore) (nodeId : NodeId) : SessionPc → Prop
  | .registerNode pc => pc.InHand nodeId
  | .heartbeat _ pc => pc.InHand store
  | .ending pc _ => pc.InHand
  | _ => True

/-- What the task is about to file or to store is sound. -/
def ControlTask.InHand (store : ServiceStore) : ControlTask → Prop
  | session (.live s) => s.pc.InHand store s.nodeId
  | replace _ _ pc => ∀ node ∈ pc.pendingNodes, node.Sound
  | _ => True

/-- The rows that are there for one task stay there for the others. -/
theorem ControlTask.InHand.kept {st st' : AppState} {task : ControlTask}
    (h : task.InHand st.store) (hkept : RowsKept st st') : task.InHand st'.store := by
  cases task with
  | session task =>
    cases task with
    | live s =>
      simp only [ControlTask.InHand] at h ⊢
      cases hpc : s.pc with
      | heartbeat sequence pc =>
        rw [hpc] at h
        cases pc with
        | putMetric metric => exact ⟨h.rtt, hkept _ h.node⟩
        | nodes snapshot | putNode node metric | done result => exact h
      | loop | registerNode pc | registerService pc | unregisterService serviceId pc
      | ending pc result | finished result =>
        rw [hpc] at h
        exact h
    | hello peer transport | auth peer transport | refused peer reason => trivial
  | service task => trivial
  | replace kind hash pc => exact h

/-! ## One section -/

/-- The section leaves the records sound and the rows of nodes in place. -/
structure LeavesSound (st st' : AppState) : Prop where
  sound : st'.Sound
  kept : RowsKept st st'

theorem SameRecords.leavesSound {st st' : AppState} (h : SameRecords st st') (hst : st.Sound) :
    LeavesSound st st' := ⟨h.sound hst, h.rowsKept⟩

section
variable {st : AppState} (h : st.Sound) (env : Env)

include h

theorem registerNodeStep_sound (peer : Peer) (transport : TransportKind)
    (clientSession : ClientSession) (kind : TokenKind) {nodeId : NodeId} {pc : RegisterNodePc}
    (hpc : pc.InHand nodeId) :
    LeavesSound st (registerNodeStep peer transport clientSession kind nodeId env st pc).1 ∧
    (registerNodeStep peer transport clientSession kind nodeId env st pc).2.InHand nodeId := by
  have hsame {st' : AppState} (hsame : SameRecords st st') : LeavesSound st st' :=
    hsame.leavesSound h
  cases pc with
  | identity metadata publicKey =>
    simp only [registerNodeStep]
    cases validateNodeIdentity st.nodes nodeId publicKey with
    | error e => exact ⟨hsame (.refl st), trivial⟩
    | ok _ => exact ⟨hsame (.refl st), hpc⟩
  | activate metadata publicKey => exact ⟨hsame ⟨rfl, rfl, rfl⟩, hpc⟩
  | close replaced metadata publicKey =>
    have hstore := closeReplaced_store replaced st
    refine ⟨hsame ⟨closeReplaced_nodes replaced st, congrArg ServiceStore.nodes hstore,
      congrArg ServiceStore.metrics hstore⟩, ⟨hpc, fun rttMs hrtt => ?_⟩, rfl⟩
    cases hrtt
  | insertNode node => exact ⟨⟨h.insertNode hpc.1 hpc.2, fun _ hkey => hkey⟩, hpc.1⟩
  | put node =>
    simp only [registerNodeStep]
    split <;> exact ⟨⟨h.putNode env hpc, rowsKept_putNode env node st⟩, trivial⟩
  | event => exact ⟨hsame (.recordEvent ..), trivial⟩
  | done result => exact ⟨hsame (.refl st), trivial⟩

theorem heartbeatStep_sound (nodeId : NodeId) {pc : HeartbeatPc} (hpc : pc.InHand st.store) :
    LeavesSound st (heartbeatStep nodeId env st pc).1 ∧
    (heartbeatStep nodeId env st pc).2.InHand (heartbeatStep nodeId env st pc).1.store := by
  cases pc with
  | nodes snapshot =>
    simp only [heartbeatStep]
    cases hnode : st.nodes[nodeId]? with
    | none => exact ⟨(SameRecords.refl st).leavesSound h, trivial⟩
    | some node =>
      have hheard := (h.nodes nodeId node hnode).heard env.now snapshot
      have hid : node.nodeId = nodeId := h.filed nodeId node hnode
      exact ⟨⟨h.insertNode hheard hid, fun _ hkey => hkey⟩, hheard, hid.symm, hheard.rtt⟩
  | putNode node metric =>
    obtain ⟨hnode, hid, hrtt⟩ := hpc
    have hleaves : LeavesSound st (putNode env node st) :=
      ⟨h.putNode env hnode, rowsKept_putNode env node st⟩
    simp only [heartbeatStep]
    split
    · exact ⟨hleaves, trivial⟩
    · -- the metric comes after the row of its node
      rename_i hput
      refine ⟨hleaves, hrtt, ?_⟩
      rw [hid, putNode, hput]
      exact Std.ExtTreeMap.mem_insert_self
  | putMetric metric =>
    refine ⟨⟨h.putMetric env hpc, ?_⟩, trivial⟩
    intro key hkey
    simp only [heartbeatStep, putMetric]
    cases env.putMetric <;> exact hkey
  | done result => exact ⟨(SameRecords.refl st).leavesSound h, trivial⟩

theorem cleanUpStep_sound (transport : TransportKind) (nodeId : NodeId) (sessionId : TunnelId)
    {pc : CleanUpPc} (hpc : pc.InHand) :
    LeavesSound st (cleanUpStep transport nodeId sessionId env st pc).1 ∧
    (cleanUpStep transport nodeId sessionId env st pc).2.InHand := by
  cases pc with
  | check =>
    simp only [cleanUpStep]
    split <;> exact ⟨(SameRecords.refl st).leavesSound h, trivial⟩
  | remove => exact ⟨SameRecords.leavesSound ⟨rfl, rfl, rfl⟩ h, trivial⟩
  | markOffline =>
    simp only [cleanUpStep, markOffline]
    cases hnode : st.nodes[nodeId]? with
    | none => exact ⟨(SameRecords.refl st).leavesSound h, trivial⟩
    | some node =>
      have hoffline := (h.nodes nodeId node hnode).offline
      have hmarked : (insertNode nodeId node.offline st).Sound :=
        h.insertNode hoffline (h.filed nodeId node hnode)
      cases transport with
      | quic => exact ⟨⟨hmarked, fun _ hkey => hkey⟩, hoffline⟩
      | tcpTlsYamux =>
        have hput := hmarked.putNode env hoffline
        have hkept := rowsKept_putNode env node.offline (insertNode nodeId node.offline st)
        simp only
        split
        · exact ⟨⟨hput, hkept⟩, trivial⟩
        · have hevent := (SameRecords.recordEvent env .nodeOffline (some nodeId) none none
            (putNode env node.offline (insertNode nodeId node.offline st))).leavesSound hput
          exact ⟨⟨hevent.sound, fun key hkey => hevent.kept key (hkept key hkey)⟩, trivial⟩
  | put node =>
    simp only [cleanUpStep]
    split <;> exact ⟨⟨h.putNode env hpc, rowsKept_putNode env node st⟩, trivial⟩
  | event => exact ⟨(SameRecords.recordEvent ..).leavesSound h, trivial⟩
  | done result => exact ⟨(SameRecords.refl st).leavesSound h, trivial⟩

theorem replaceStep_sound (kind : TokenKind) (hash : Option TokenHash) {pc : ReplacePc}
    (hpc : ∀ node ∈ pc.pendingNodes, node.Sound) :
    LeavesSound st (replaceStep kind hash env st pc).1 ∧
    ∀ node ∈ (replaceStep kind hash env st pc).2.pendingNodes, node.Sound := by
  cases pc with
  | write =>
    simp only [replaceStep, writeToken]
    cases env.putTokens <;>
      exact ⟨SameRecords.leavesSound ⟨rfl, rfl, rfl⟩ h, fun node hnode => by cases hnode⟩
  | sweep => exact ⟨SameRecords.leavesSound ⟨rfl, rfl, rfl⟩ h, fun node hnode => by cases hnode⟩
  | close disconnected =>
    simp only [replaceStep]
    rw [close_eq]
    exact ⟨SameRecords.leavesSound ⟨rfl, rfl, rfl⟩ h, fun node hnode => by cases hnode⟩
  | markOffline nodeIds =>
    have hstore : (markAllOffline nodeIds st).1.store = st.store := by rw [markAllOffline_eq]
    have hnodes (nodeId : NodeId) (node : NodeRecord)
        (hnode : (markAllOffline nodeIds st).1.nodes[nodeId]? = some node) : node.Sound := by
      rw [(markAllOffline_spec nodeIds st).2 nodeId] at hnode
      split at hnode
      · obtain ⟨old, hold, rfl⟩ := Option.map_eq_some_iff.mp hnode
        exact (h.nodes nodeId old hold).offline
      · exact h.nodes nodeId node hnode
    refine ⟨⟨⟨hstore ▸ h.store, h.filed.markAllOffline nodeIds, hnodes⟩, fun key hkey => ?_⟩,
      fun node hnode => ?_⟩
    · rw [show (replaceStep kind hash env st (.markOffline nodeIds)).1.store = st.store from hstore]
      exact hkey
    · obtain ⟨nodeId, -, hget⟩ := mem_markAllOffline.mp hnode
      exact hnodes nodeId node hget
  | put nodes =>
    cases nodes with
    | nil => exact ⟨(SameRecords.refl st).leavesSound h, fun node hnode => by cases hnode⟩
    | cons node rest =>
      obtain ⟨hnode, hrest⟩ := List.forall_mem_cons.mp hpc
      simp only [replaceStep]
      split
      · exact ⟨⟨h.putNode env hnode, rowsKept_putNode env node st⟩, fun node hnode => by cases hnode⟩
      · exact ⟨⟨h.putNode env hnode, rowsKept_putNode env node st⟩, hrest⟩
  | event node rest => exact ⟨(SameRecords.recordEvent ..).leavesSound h, hpc⟩
  | done result => exact ⟨(SameRecords.refl st).leavesSound h, hpc⟩

end

section
variable {cfg : RelayConfig} {st : AppState} {env : Env}

theorem LiveSession.fail_inHand (s : LiveSession) (e : String) (store : ServiceStore)
    (nodeId : NodeId) : (s.fail e).pc.InHand store nodeId := by
  unfold fail
  split <;> trivial

theorem LiveSession.replied_inHand (s : LiveSession) (env : Env) (store : ServiceStore)
    (nodeId : NodeId) : (s.replied env).pc.InHand store nodeId := by
  unfold replied
  split
  · exact s.fail_inHand _ store nodeId
  · trivial

theorem LiveSession.read_inHand (s : LiveSession) (env : Env) (store : ServiceStore)
    (nodeId : NodeId) : (s.read env).pc.InHand store nodeId := by
  unfold read
  split
  · exact s.fail_inHand _ store nodeId
  · split
    · exact s.fail_inHand _ store nodeId
    · -- the metadata has just been checked
      rename_i hvalid
      exact hvalid
  · split
    · exact s.replied_inHand env store nodeId
    · trivial
  · trivial
  · trivial
  · trivial
  · exact s.replied_inHand env store nodeId

theorem LiveSession.step_sound (h : st.Sound) {s : LiveSession} (hs : s.pc.InHand st.store s.nodeId) :
    LeavesSound st (s.step cfg env st).1 ∧
    (s.step cfg env st).2.pc.InHand (s.step cfg env st).1.store s.nodeId := by
  unfold step
  split
  · exact ⟨(SameRecords.refl st).leavesSound h, s.read_inHand env st.store s.nodeId⟩
  · rename_i pc hpc
    rw [hpc] at hs
    obtain ⟨hleaves, hnext⟩ := registerNodeStep_sound h env s.peer s.transport
      (s.transport.session s.peer.connection) s.kind hs
    refine ⟨hleaves, ?_⟩
    simp only [Prod.map_snd, afterRegisterNode]
    generalize (registerNodeStep s.peer s.transport (s.transport.session s.peer.connection) s.kind
      s.nodeId env st pc).2 = next at hnext
    split
    · trivial
    · exact s.fail_inHand _ _ s.nodeId
    · exact hnext
    · exact hnext
  · rename_i pc hpc
    refine ⟨(registerStep_records cfg s.nodeId env st pc).leavesSound h, ?_⟩
    simp only [Prod.map_snd, afterRegisterService]
    split
    · exact s.replied_inHand env _ s.nodeId
    · trivial
  · rename_i serviceId pc hpc
    refine ⟨(unregisterStep_records serviceId s.nodeId env st pc).leavesSound h, ?_⟩
    simp only [Prod.map_snd, afterUnregisterService]
    split
    · trivial
    · exact s.fail_inHand _ _ s.nodeId
    · trivial
  · rename_i sequence pc hpc
    rw [hpc] at hs
    obtain ⟨hleaves, hnext⟩ := heartbeatStep_sound h env s.nodeId hs
    refine ⟨hleaves, ?_⟩
    simp only [Prod.map_snd, Prod.map_fst, id, afterHeartbeat]
    generalize (heartbeatStep s.nodeId env st pc).2 = next at hnext
    split
    · exact s.replied_inHand env _ s.nodeId
    · exact s.fail_inHand _ _ s.nodeId
    · exact hnext
  · rename_i pc result hpc
    rw [hpc] at hs
    obtain ⟨hleaves, hnext⟩ := cleanUpStep_sound h env s.transport s.nodeId s.peer.sessionId hs
    refine ⟨hleaves, ?_⟩
    simp only [Prod.map_snd, afterCleanUp]
    generalize (cleanUpStep s.transport s.nodeId s.peer.sessionId env st pc).2 = next at hnext
    split
    · trivial
    · trivial
    · exact hnext
  · exact ⟨(SameRecords.refl st).leavesSound h, hs⟩

/-- **One section** keeps the records sound, and leaves its task with sound ones. -/
theorem ControlTask.step_sound (h : st.Sound) {task : ControlTask} (htask : task.InHand st.store) :
    LeavesSound st (task.step cfg env st).1 ∧
    (task.step cfg env st).2.InHand (task.step cfg env st).1.store := by
  cases task with
  | session task =>
    cases task with
    | live s =>
      obtain ⟨hleaves, hnext⟩ := @LiveSession.step_sound cfg st env h s htask
      rw [← (s.step_keeps cfg env st).nodeId] at hnext
      exact ⟨hleaves, hnext⟩
    | hello peer transport =>
      rcases SessionTask.hello_cases cfg env st peer transport with hstep | ⟨reason, hstep⟩ <;>
        rw [step, hstep] <;> exact ⟨(SameRecords.refl st).leavesSound h, trivial⟩
    | auth peer transport =>
      rcases SessionTask.auth_cases cfg env st peer transport with
        ⟨reason, hstep⟩ | ⟨_, _, _, _, hstep⟩ <;>
        rw [step, hstep] <;> exact ⟨(SameRecords.refl st).leavesSound h, trivial⟩
    | refused peer reason => exact ⟨(SameRecords.refl st).leavesSound h, trivial⟩
  | service task => exact ⟨(task.step_records cfg env st).leavesSound h, trivial⟩
  | replace kind hash pc => exact replaceStep_sound h env kind hash htask

end

theorem ControlPlane.opens_inHand {p : ControlPlane} {task : ControlTask} (h : p.opens task)
    (store : ServiceStore) : task.InHand store := by
  cases task with
  | session task =>
    cases task with
    | hello peer transport => trivial
    | auth peer transport | live s | refused peer reason => cases h
  | service task => trivial
  | replace kind hash pc =>
    cases pc with
    | write => exact fun node hnode => by cases hnode
    | sweep | close disconnected | markOffline nodeIds | put nodes | event node rest
    | done result => cases h

/-! ## Whole runs -/

/-- The records are sound, and so is what the tasks have in hand. -/
structure Server.Sound (s : Server) : Prop where
  store : s.store.Sound
  running : ∀ p, s = .running p → p.shared.Sound ∧ ∀ task ∈ p.tasks, task.InHand p.shared.store

theorem loadOrInitialize_rows (adminHash userHash : TokenHash) (outcome : Outcome)
    (store : ServiceStore) :
    (store.loadOrInitializeTokens adminHash userHash outcome).1.nodes = store.nodes ∧
    (store.loadOrInitializeTokens adminHash userHash outcome).1.metrics = store.metrics := by
  unfold ServiceStore.loadOrInitializeTokens
  split
  · exact ⟨rfl, rfl⟩
  · split <;> exact ⟨rfl, rfl⟩

theorem ServiceStore.Sound.loadOrInitialize {store : ServiceStore} (h : store.Sound)
    (adminHash userHash : TokenHash) (outcome : Outcome) :
    (store.loadOrInitializeTokens adminHash userHash outcome).1.Sound := by
  obtain ⟨hnodes, hmetrics⟩ := loadOrInitialize_rows adminHash userHash outcome store
  refine ⟨fun key node hnode => ?_, fun key metric hmetric => ?_⟩
  · rw [hnodes] at hnode
    exact h.nodes key node hnode
  · rw [hmetrics] at hmetric
    have hsound := h.metrics key metric hmetric
    refine ⟨hsound.rtt, ?_⟩
    rw [hnodes]
    exact hsound.node

/-- A start finds sound records and leaves them so. -/
theorem start_sound {env : Env} {adminHash userHash : TokenHash} {store : ServiceStore}
    (h : store.Sound) {st : AppState} (hstart : start env adminHash userHash store = .ok st) :
    st.Sound := by
  obtain ⟨store', tokens, tasks, hload, rfl⟩ := start_spec hstart
  have hstore := h.loadOrInitialize adminHash userHash env.putTokens
  rw [hload] at hstore
  have hloaded (nodeId : NodeId) (node : NodeRecord) (hnode : store.loadNodes[nodeId]? = some node) :
      node.Sound ∧ node.nodeId = nodeId := by
    obtain ⟨hmem, hid⟩ := BTreeMap.ofValues_some hnode
    obtain ⟨key, hrow⟩ := BTreeMap.mem_values_iff.mp hmem
    exact ⟨h.nodes key node hrow, hid⟩
  exact ⟨hstore, fun nodeId node hnode => (hloaded nodeId node hnode).2,
    fun nodeId node hnode => (hloaded nodeId node hnode).1⟩

/-- Every row of a node that one database has, the other has too. -/
def NodesStored (store store' : ServiceStore) : Prop := ∀ key ∈ store.nodes, key ∈ store'.nodes

theorem start_store {env : Env} {adminHash userHash : TokenHash} {store : ServiceStore}
    {st : AppState} (hstart : start env adminHash userHash store = .ok st) :
    st.store = (store.loadOrInitializeTokens adminHash userHash env.putTokens).1 := by
  obtain ⟨store', tokens, tasks, hload, rfl⟩ := start_spec hstart
  rw [hload]

/-- **One event**: a section, a new task, or the end of the process and a start. -/
theorem Server.Sound.next {s : Server} (h : s.Sound) (cfg : RelayConfig) (e : ServerEvent) :
    (s.next cfg e).Sound ∧ NodesStored s.store (s.next cfg e).store := by
  cases e with
  | restart env adminHash userHash =>
    have hsound := h.store.loadOrInitialize adminHash userHash env.putTokens
    have hrows := (loadOrInitialize_rows adminHash userHash env.putTokens s.store).1
    have hkept : NodesStored s.store
        (s.store.loadOrInitializeTokens adminHash userHash env.putTokens).1 := by
      intro key hkey
      rw [hrows]
      exact hkey
    simp only [Server.next]
    split
    · rename_i st hstart
      rw [← start_store hstart] at hsound hkept
      refine ⟨⟨hsound, fun p hp => ?_⟩, hkept⟩
      cases hp
      exact ⟨start_sound h.store hstart, fun task htask => by cases htask⟩
    · exact ⟨⟨hsound, fun p hp => by cases hp⟩, hkept⟩
  | control e =>
    cases s with
    | stopped store => exact ⟨h, fun key hkey => hkey⟩
    | running p =>
      obtain ⟨hst, htasks⟩ := h.running p rfl
      have hnext : (p.next cfg e).shared.Sound ∧ RowsKept p.shared (p.next cfg e).shared ∧
          ∀ task ∈ (p.next cfg e).tasks, task.InHand (p.next cfg e).shared.store := by
        rcases p.next_cases cfg e with he | ⟨i, env, task, -, htask, he⟩ | ⟨task, -, hopens, he⟩
        · rw [he]
          exact ⟨hst, fun key hkey => hkey, htasks⟩
        · rw [he]
          obtain ⟨hleaves, hown⟩ := @ControlTask.step_sound cfg p.shared env hst task
            (htasks task (List.mem_of_getElem? htask))
          refine ⟨hleaves.sound, hleaves.kept, fun u hu => ?_⟩
          rcases List.mem_or_eq_of_mem_set hu with hu | rfl
          · exact (htasks u hu).kept hleaves.kept
          · exact hown
        · rw [he]
          refine ⟨hst, fun key hkey => hkey, fun u hu => ?_⟩
          rcases List.mem_append.mp hu with hu | hu
          · exact htasks u hu
          · -- a task joins with empty hands
            rw [List.mem_singleton.mp hu]
            exact ControlPlane.opens_inHand hopens p.shared.store
      obtain ⟨hsound, hkept, hhands⟩ := hnext
      refine ⟨⟨hsound.store, fun q hq => ?_⟩, hkept⟩
      cases hq
      exact ⟨hsound, hhands⟩

/-- **Records stay sound**: whatever the sessions send and whenever the process ends, every
record of a node, in memory and on disk, has metadata that has been checked and no round
trip above the bound, and every metric belongs to a node with a row; and no row of a node
that is there at one moment is gone at a later one. -/
theorem records_sound (cfg : RelayConfig) (store : ServiceStore) (hstore : store.Sound)
    (events : List ServerEvent) :
    EveryState (Server.next cfg)
      (fun s => s.store.Sound ∧ ∀ p, s = .running p → p.shared.Sound) (.stopped store) events ∧
    EveryPair (Server.next cfg) (fun s s' => NodesStored s.store s'.store) (.stopped store)
      events := by
  have hstart : (Server.stopped store).Sound := ⟨hstore, fun p hp => by cases hp⟩
  have hstep (s : Server) (e : ServerEvent) (h : s.Sound) := h.next cfg e
  constructor
  · refine (everyState_of_step (fun s e h => (hstep s e h).1) hstart events).mono fun s h => ?_
    exact ⟨h.store, fun p hp => (h.running p hp).1⟩
  · exact everyPair_of_step (fun s key hkey => hkey)
      (fun s t u hst htu key hkey => htu key (hst key hkey)) hstep hstart events

/-- A new database. -/
theorem ServiceStore.empty_sound : ({} : ServiceStore).Sound where
  nodes key node hnode := by
    rw [BTreeMap.get_empty] at hnode
    cases hnode
  metrics key metric hmetric := by
    rw [BTreeMap.get_empty] at hmetric
    cases hmetric

namespace Sample

/-- A node registers and sends a heartbeat. -/
def heartbeats : List (Event Env ControlTask) :=
  connects 0 1 7 ++ registers 0 ++
    [.run 0 { input := .ok (.heartbeat ⟨1, 9, none, none, none, none, none⟩) },
      .run 0 { now := 12 }, .run 0 {}]

/-- The process ends before the metric is stored, and starts again. -/
def cutsShort : List ServerEvent :=
  .restart {} (hashToken "admin") (hashToken "user") :: heartbeats.map .control ++
    [.restart {} (hashToken "admin") (hashToken "user")]

end Sample

theorem records_sound_cutShort :
    EveryState (Server.next Sample.config)
      (fun s => s.store.Sound ∧ ∀ p, s = .running p → p.shared.Sound) (.stopped {})
      Sample.cutsShort ∧
    EveryPair (Server.next Sample.config) (fun s s' => NodesStored s.store s'.store) (.stopped {})
      Sample.cutsShort ∧
    (⟨7⟩ : NodeId).text ∈ (run (Server.next Sample.config) (.stopped {}) Sample.cutsShort).store.nodes :=
  have hsound := records_sound Sample.config {} ServiceStore.empty_sound Sample.cutsShort
  ⟨hsound.1, hsound.2, by decide +kernel⟩

end OngrokRelay
