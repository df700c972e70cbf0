import OngrokRelay.Encoding
import OngrokRelay.Store

/-
  Node records from before nodes had keys, read by the server that has them
  (`store.rs`).

  The record of such a node has every field but the key, and the key is marked
  `default`. The format writes fields and no names: the reader takes the length of
  the old record's hostname for the tag of the key, and every field after it for
  another one.

  Correspondence (Rust ↔ Lean):
    `NodeRecord` without `public_key`   ↔ `LegacyNodeRecord`
    the table of nodes                  ↔ `NodeTable`
    `ServiceStore::load_nodes`          ↔ `loadNodes`
    `ServiceStore::put_node`            ↔ `NodeTable.putNode`

  1. `LegacyNodeRecord.unreadable`: no old record is read as itself without a key.
  2. `LegacyNodeRecord.refused`: one whose hostname has two bytes is not read at all.
  3. `Represents.load`: a table without them is loaded as the nodes of its store.
  4. `node_table_loads_iff`: and one with any of them is not.
-/

namespace OngrokRelay

open Postcard Encoding

/-! ## The old record -/

structure LegacyNodeRecord where
  nodeId : NodeId
  metadata : NodeMetadata
  publicIp : String
  sourcePort : UInt16
  transport : TransportKind
  status : NodeStatus
  connectedAtUnixMs : Int64
  lastHeartbeatAtUnixMs : Option Int64
  rttMs : Option UInt32
  deriving DecidableEq

namespace LegacyNodeRecord

def fields (node : LegacyNodeRecord) : NodeFields :=
  (node.metadata, node.publicIp, node.sourcePort, node.transport, node.status,
    node.connectedAtUnixMs, node.lastHeartbeatAtUnixMs, node.rttMs)

def encode (node : LegacyNodeRecord) : List UInt8 :=
  uuid.encode node.nodeId ++ nodeFields.encode node.fields

/-- The record it stands for. -/
def upgrade (node : LegacyNodeRecord) : NodeRecord where
  nodeId := node.nodeId
  publicKey := none
  metadata := node.metadata
  publicIp := node.publicIp
  sourcePort := node.sourcePort
  transport := node.transport
  status := node.status
  connectedAtUnixMs := node.connectedAtUnixMs
  lastHeartbeatAtUnixMs := node.lastHeartbeatAtUnixMs
  rttMs := node.rttMs

/-- The tag of the missing key takes a byte. -/
theorem encode_upgrade (node : LegacyNodeRecord) :
    nodeRecord.encode node.upgrade =
      uuid.encode node.nodeId ++ 0 :: nodeFields.encode node.fields := rfl

/-- **No old record is read as itself without a key**: it has too few bytes. -/
theorem unreadable (node : LegacyNodeRecord) :
    nodeRecord.fromBytes node.encode ≠ .ok node.upgrade := by
  intro h
  have hlen := nodeRecord.length_le_of_fromBytes h
  rw [encode_upgrade, encode, List.length_append, List.length_append, List.length_cons] at hlen
  omega

end LegacyNodeRecord

/-- Whatever follows its identifier, the record read has it. -/
theorem nodeId_of_fromBytes {nodeId : NodeId} {rest : List UInt8} {node : NodeRecord}
    (h : nodeRecord.fromBytes (uuid.encode nodeId ++ rest) = .ok node) : node.nodeId = nodeId := by
  have hlen : (uuid.encode nodeId).length < addressSpace := by
    rw [uuid_length]
    decide
  rw [nodeRecord, Codec.equiv_fromBytes, Codec.pair_fromBytes _ _ hlen] at h
  obtain ⟨fields, hfields, rfl⟩ := map_ok h
  obtain ⟨read, -, rfl⟩ := map_ok hfields
  rfl

namespace LegacyNodeRecord

/-- **An old record whose hostname has two bytes is not read at all**: their number
is no tag of an option. -/
theorem refused {node : LegacyNodeRecord} (h : 2 ≤ node.metadata.hostname.utf8ByteSize) :
    nodeRecord.fromBytes node.encode = .error .badOption := by
  have hlen : (uuid.encode node.nodeId).length < addressSpace := by
    rw [uuid_length]
    decide
  obtain ⟨b, tail, hhead, hb⟩ := pushVarint_head 8 h
  obtain ⟨rest, hrest⟩ : ∃ rest, nodeFields.encode node.fields =
      text.encode node.metadata.hostname ++ rest := ⟨_, List.append_assoc ..⟩
  rw [text_encode, hhead, List.cons_append, List.cons_append] at hrest
  rw [encode, nodeRecord, Codec.equiv_fromBytes, Codec.pair_fromBytes _ _ hlen, hrest,
    Codec.pair_error _ _ (decodeOption_badOption bytes32 hb _)]
  rfl

end LegacyNodeRecord

/-! ## The table -/

/-- A row that `put_node` has written, before or after the change. -/
inductive NodeRow
  | current (node : NodeRecord)
  | legacy (node : LegacyNodeRecord)
  deriving DecidableEq

namespace NodeRow

/-- The record the row is for. -/
def record : NodeRow → NodeRecord
  | .current node => node
  | .legacy node => node.upgrade

def bytes : NodeRow → List UInt8
  | .current node => nodeRecord.encode node
  | .legacy node => node.encode

def isLegacy : NodeRow → Bool
  | .current _ => false
  | .legacy _ => true

theorem bytes_nodeId (row : NodeRow) :
    ∃ rest, row.bytes = uuid.encode row.record.nodeId ++ rest := by
  cases row with
  | current node => exact ⟨_, rfl⟩
  | legacy node => exact ⟨_, rfl⟩

/-- A row is read as the record it is for exactly when it is none of the old ones. -/
theorem fromBytes_bytes_iff {row : NodeRow} (h : row.bytes.length < addressSpace) :
    nodeRecord.fromBytes row.bytes = .ok row.record ↔ row.isLegacy = false := by
  cases row with
  | current node => exact ⟨fun _ => rfl, fun _ => nodeRecord.fromBytes_encode h⟩
  | legacy node => exact ⟨fun hread => absurd hread node.unreadable, fun hnew => by cases hnew⟩

end NodeRow

/-- The table of nodes: under the identifier of each its row, in bytes that fit into
memory. -/
structure NodeTable where
  rows : BTreeMap String NodeRow := ∅
  keyed : ∀ (key : String) (row : NodeRow), rows[key]? = some row → key = row.record.nodeId.text
  fits : ∀ (key : String) (row : NodeRow), rows[key]? = some row →
    row.bytes.length < addressSpace

/-- The loop of `load_nodes` over the values in key order. -/
def loadNodes : BTreeMap NodeId NodeRecord → List (List UInt8) →
    Except String (BTreeMap NodeId NodeRecord)
  | nodes, [] => .ok nodes
  | nodes, value :: rest =>
    match nodeRecord.fromBytes value with
    | .error _ => .error "failed to decode node record"
    | .ok node => loadNodes (nodes.insert node.nodeId node) rest

/-- The load of values succeeds when each is read, and inserts what is read. -/
theorem loadNodes_ok_iff {nodes loaded : BTreeMap NodeId NodeRecord} {values : List (List UInt8)} :
    loadNodes nodes values = .ok loaded ↔ ∃ read : List NodeRecord,
      values.map nodeRecord.fromBytes = read.map .ok ∧
        loaded = read.foldl (fun nodes node => nodes.insert node.nodeId node) nodes := by
  induction values generalizing nodes with
  | nil =>
    constructor
    · intro h
      cases h
      exact ⟨[], rfl, rfl⟩
    · rintro ⟨read, hread, rfl⟩
      rw [List.map_nil, eq_comm, List.map_eq_nil_iff] at hread
      rw [hread]
      rfl
  | cons value values ih =>
    rw [loadNodes, List.map_cons]
    cases hvalue : nodeRecord.fromBytes value with
    | error e =>
      constructor
      · intro h
        cases h
      · rintro ⟨read, hread, -⟩
        cases read with
        | nil => cases hread
        | cons node read => cases (List.cons.inj hread).1
    | ok node =>
      constructor
      · intro h
        obtain ⟨read, hread, hloaded⟩ := ih.mp h
        exact ⟨node :: read, by rw [hread, List.map_cons], hloaded⟩
      · rintro ⟨read, hread, hloaded⟩
        cases read with
        | nil => cases hread
        | cons node' read =>
          obtain ⟨hnode, hrest⟩ := List.cons.inj hread
          cases hnode
          exact ih.mpr ⟨read, hrest, hloaded⟩

/-- One value that is not read stops the loop. -/
theorem loadNodes_error {nodes : BTreeMap NodeId NodeRecord} {values : List (List UInt8)}
    {value : List UInt8} {e : Postcard.Error} (hvalue : value ∈ values)
    (h : nodeRecord.fromBytes value = .error e) :
    loadNodes nodes values = .error "failed to decode node record" := by
  induction values generalizing nodes with
  | nil => cases hvalue
  | cons other values ih =>
    rw [loadNodes]
    cases hread : nodeRecord.fromBytes other with
    | error e' => rfl
    | ok node =>
      rcases List.mem_cons.mp hvalue with rfl | hvalue
      · rw [h] at hread
        cases hread
      · exact ih hvalue

namespace NodeTable

/-- The records the rows are for. -/
def nodes (table : NodeTable) : BTreeMap String NodeRecord :=
  table.rows.map fun _ row => row.record

/-- The map that a load of all of them would make. -/
def records (table : NodeTable) : BTreeMap NodeId NodeRecord :=
  BTreeMap.ofValues NodeRecord.nodeId ((BTreeMap.values table.rows).map NodeRow.record)

def load (table : NodeTable) : Except String (BTreeMap NodeId NodeRecord) :=
  loadNodes ∅ ((BTreeMap.values table.rows).map NodeRow.bytes)

instance : EmptyCollection NodeTable where
  emptyCollection :=
    { keyed := fun key row h => by
        rw [BTreeMap.get_empty] at h
        cases h
      fits := fun key row h => by
        rw [BTreeMap.get_empty] at h
        cases h }

/-- `put_node`, of the version that writes such a row. -/
def putNode (table : NodeTable) (row : NodeRow) (h : row.bytes.length < addressSpace) :
    NodeTable where
  rows := table.rows.insert row.record.nodeId.text row
  keyed key row' hrow := by
    obtain ⟨rfl, rfl⟩ | ⟨-, hrow⟩ := BTreeMap.get_insert_some.mp hrow
    · rfl
    · exact table.keyed key row' hrow
  fits key row' hrow := by
    obtain ⟨-, rfl⟩ | ⟨-, hrow⟩ := BTreeMap.get_insert_some.mp hrow
    · exact h
    · exact table.fits key row' hrow

theorem values_nodes (table : NodeTable) :
    BTreeMap.values table.nodes = (BTreeMap.values table.rows).map NodeRow.record := by
  rw [BTreeMap.values, nodes, Std.ExtTreeMap.toList_map, BTreeMap.values, List.map_map,
    List.map_map]
  rfl

/-- The table holds the nodes of a store of records. -/
def Represents (table : NodeTable) (store : ServiceStore) : Prop := table.nodes = store.nodes

/-- Writing a node to both keeps them the same. -/
theorem Represents.putNode {table : NodeTable} {store : ServiceStore}
    (h : table.Represents store) (row : NodeRow) (hfits : row.bytes.length < addressSpace) :
    (table.putNode row hfits).Represents (store.putNode row.record) := by
  apply Std.ExtTreeMap.ext_getElem?
  intro key
  show ((table.rows.insert _ _).map _)[key]? = (store.nodes.insert _ _)[key]?
  rw [← h, Std.ExtTreeMap.getElem?_map, BTreeMap.get_insert, BTreeMap.get_insert, nodes,
    Std.ExtTreeMap.getElem?_map]
  split <;> rfl

theorem Represents.records {table : NodeTable} {store : ServiceStore}
    (h : table.Represents store) : table.records = store.loadNodes := by
  rw [ServiceStore.loadNodes, ← h, values_nodes, NodeTable.records]

/-- No two rows are for one node. -/
theorem row_unique {table : NodeTable} {row row' : NodeRow} (h : row ∈ BTreeMap.values table.rows)
    (h' : row' ∈ BTreeMap.values table.rows) (hid : row.record.nodeId = row'.record.nodeId) :
    row = row' := by
  obtain ⟨key, hkey⟩ := BTreeMap.mem_values_iff.mp h
  obtain ⟨key', hkey'⟩ := BTreeMap.mem_values_iff.mp h'
  rw [table.keyed key row hkey, hid, ← table.keyed key' row' hkey', hkey'] at hkey
  cases hkey
  rfl

theorem get_records {table : NodeTable} {row : NodeRow} (h : row ∈ BTreeMap.values table.rows) :
    table.records[row.record.nodeId]? = some row.record := by
  refine BTreeMap.ofValues_of_mem (List.mem_map_of_mem h) fun node hnode hid => ?_
  obtain ⟨row', hrow', rfl⟩ := List.mem_map.mp hnode
  rw [row_unique hrow' h hid]

/-- **What a load gives for a row is what is read from it.** -/
theorem get_load {table : NodeTable} {loaded : BTreeMap NodeId NodeRecord} {row : NodeRow}
    {node : NodeRecord} (hload : table.load = .ok loaded)
    (hrow : row ∈ BTreeMap.values table.rows)
    (hnode : loaded[row.record.nodeId]? = some node) :
    nodeRecord.fromBytes row.bytes = .ok node := by
  obtain ⟨read, hall, rfl⟩ := loadNodes_ok_iff.mp hload
  obtain ⟨hmem, hid⟩ := BTreeMap.ofValues_some hnode
  have hvalue : .ok node ∈ ((BTreeMap.values table.rows).map NodeRow.bytes).map
      nodeRecord.fromBytes := by
    rw [hall]
    exact List.mem_map_of_mem hmem
  obtain ⟨value, hvalue, hread⟩ := List.mem_map.mp hvalue
  obtain ⟨row', hrow', rfl⟩ := List.mem_map.mp hvalue
  obtain ⟨rest, hbytes⟩ := row'.bytes_nodeId
  have hid' := nodeId_of_fromBytes (hbytes ▸ hread)
  rwa [row_unique hrow hrow' (hid.symm.trans hid')]

theorem load_refused {table : NodeTable} {node : LegacyNodeRecord}
    (hrow : .legacy node ∈ BTreeMap.values table.rows)
    (h : 2 ≤ node.metadata.hostname.utf8ByteSize) :
    table.load = .error "failed to decode node record" :=
  loadNodes_error (List.mem_map_of_mem hrow) (LegacyNodeRecord.refused h)

theorem load_ok_iff {table : NodeTable} : table.load = .ok table.records ↔
    ∀ row ∈ BTreeMap.values table.rows, row.isLegacy = false := by
  constructor
  · intro hload row hrow
    obtain ⟨key, hkey⟩ := BTreeMap.mem_values_iff.mp hrow
    exact (NodeRow.fromBytes_bytes_iff (table.fits key row hkey)).mp
      (get_load hload hrow (get_records hrow))
  · intro hnew
    refine loadNodes_ok_iff.mpr ⟨(BTreeMap.values table.rows).map NodeRow.record, ?_, rfl⟩
    rw [List.map_map, List.map_map]
    refine List.map_congr_left fun row hrow => ?_
    obtain ⟨key, hkey⟩ := BTreeMap.mem_values_iff.mp hrow
    exact (NodeRow.fromBytes_bytes_iff (table.fits key row hkey)).mpr (hnew row hrow)

/-- **The bytes written for the nodes of a store are loaded as these nodes.** -/
theorem Represents.load {table : NodeTable} {store : ServiceStore} (h : table.Represents store)
    (hnew : ∀ row ∈ BTreeMap.values table.rows, row.isLegacy = false) :
    table.load = .ok store.loadNodes := by
  rw [load_ok_iff.mpr hnew, h.records]

end NodeTable

/-- **No old record is read as itself, and the nodes of a table are loaded exactly
when none of them is an old one.** -/
theorem node_table_loads_iff (node : LegacyNodeRecord) (table : NodeTable) :
    nodeRecord.fromBytes node.encode ≠ .ok node.upgrade ∧
      (table.load = .ok table.records ↔
        ∀ row ∈ BTreeMap.values table.rows, row.isLegacy = false) :=
  ⟨node.unreadable, NodeTable.load_ok_iff⟩

namespace Sample

def legacyNode : LegacyNodeRecord where
  nodeId := ⟨1⟩
  metadata :=
    { hostname := "web-1"
      os := "linux"
      arch := "x86_64"
      clientVersion := "0.1.0"
      metadata := {} }
  publicIp := "192.0.2.1"
  sourcePort := 50000
  transport := .quic
  status := .offline
  connectedAtUnixMs := 1700000000000
  lastHeartbeatAtUnixMs := none
  rttMs := none

/-- A database with one node from before the change. -/
def legacyTable : NodeTable := NodeTable.putNode ∅ (.legacy legacyNode) (by decide +kernel)

end Sample

/-- With such a node the server does not start. -/
theorem legacy_table_refused :
    Sample.legacyTable.load = .error "failed to decode node record" ∧
      ¬∀ table : NodeTable, table.load = .ok table.records := by
  have hrow : .legacy Sample.legacyNode ∈ BTreeMap.values Sample.legacyTable.rows :=
    BTreeMap.mem_values_iff.mpr ⟨_, BTreeMap.get_insert_self ..⟩
  have hload := NodeTable.load_refused hrow (by decide)
  refine ⟨hload, fun hall => ?_⟩
  have hsome := hall Sample.legacyTable
  rw [hload] at hsome
  cases hsome

end OngrokRelay
