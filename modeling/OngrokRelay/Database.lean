import OngrokRelay.Api
import OngrokRelay.NodeUpgrade
import OngrokRelay.Transition

/-
  The database under the store: tables of bytes (`store.rs`).

  A record is written with `to_allocvec` under a printed key and read with
  `from_bytes`; the store of records, which the rest of the development reads
  and writes, is what these tables are taken to hold. This module is that step:
  the tables of bytes, each call on them as the source makes it, and the proof
  that through any calls, failed ones among them, every read of the bytes
  decodes and gives what the same read of the records gives.

  1. `encoded`: the table of bytes of some records; `encoded_insert`,
     `encoded_erase`, `encoded_prune`: what the calls do to it. `AtMost`: how
     long a record can be.
  2. `Refines`: each table is the encoding of its records, and these fit into
     memory. `refines_apply`: every call keeps it.
  3. `database_reads`: after any calls every read succeeds and agrees.
  4. `unreadable_metric_stays`: on tables of any bytes, the retention leaves a
     row that is no metric, and the history it is in cannot be read.

  Correspondence (Rust ↔ Lean):
    `Database`, with `ServiceStore::open`    ↔ `Database`, and `∅`
    `put`, `put_node`, `put_event`           ↔ `Call` with `apply`
    `put_metric` and its retention           ↔ `putMetric`, `expired`
    `load_or_initialize_tokens`              ↔ `loadOrInitializeTokens`
    `load_services`, `load_nodes`            ↔ `loadServices`, `OngrokRelay.loadNodes`
    `metrics_for_node`, `recent_events`      ↔ `metricsForNode`, `recentEvents`
-/

namespace OngrokRelay

open Postcard Std Transition

namespace Encoding

open Postcard.Codec

def eventKind : Codec EventKind :=
  enumeration [.nodeOnline, .nodeOffline, .serviceRegistered, .serviceDeleted, .tokenRotated,
    .tokenRevoked] (by decide) (by decide) fun kind => by cases kind <;> decide

def nodeMetric : Codec NodeMetric :=
  (uuid.pair (i64.pair ((option u32).pair heartbeatSnapshot))).equiv
    { toFun := fun (nodeId, recordedAtUnixMs, rttMs, snapshot) =>
        { nodeId, recordedAtUnixMs, rttMs, snapshot }
      invFun m := (m.nodeId, m.recordedAtUnixMs, m.rttMs, m.snapshot)
      left_inv _ := rfl
      right_inv _ := rfl }

def controlEvent : Codec ControlEvent :=
  (uuid.pair (i64.pair (eventKind.pair ((option uuid).pair
    ((option uuid).pair (option tokenKind)))))).equiv
    { toFun := fun (eventId, occurredAtUnixMs, kind, nodeId, serviceId, tokenKind) =>
        { eventId, occurredAtUnixMs, kind, nodeId, serviceId, tokenKind }
      invFun e := (e.eventId, e.occurredAtUnixMs, e.kind, e.nodeId, e.serviceId, e.tokenKind)
      left_inv _ := rfl
      right_inv _ := rfl }

def tokenState : Codec TokenState :=
  ((option bytes32).pair (option bytes32)).equiv
    { toFun := fun (adminHash, userHash) => { adminHash, userHash }
      invFun tokens := (tokens.adminHash, tokens.userHash)
      left_inv _ := rfl
      right_inv _ := rfl }

end Encoding

/-! ## How long a record is -/

section
open Codec
variable {α β : Type}

/-- No value takes more than `n` bytes. -/
def AtMost (c : Codec α) (n : Nat) : Prop := ∀ v, (c.encode v).length ≤ n

theorem AtMost.pair {c : Codec α} {d : Codec β} {m n : Nat} (hc : AtMost c m) (hd : AtMost d n) :
    AtMost (c.pair d) (m + n) := by
  intro v
  show (c.encode v.1 ++ d.encode v.2).length ≤ m + n
  rw [List.length_append]
  exact Nat.add_le_add (hc v.1) (hd v.2)

theorem AtMost.equiv {c : Codec α} {n : Nat} (hc : AtMost c n) (e : α ≃ β) :
    AtMost (c.equiv e) n := fun v => hc (e.symm v)

theorem AtMost.option {c : Codec α} {n : Nat} (hc : AtMost c n) : AtMost (option c) (n + 1) := by
  intro v
  cases v with
  | none => exact Nat.le_add_left 1 n
  | some v => exact Nat.succ_le_succ (hc v)

theorem pushVarint_le (k n : Nat) : (pushVarint k n).length ≤ k + 1 := by
  induction k generalizing n with
  | zero => exact Nat.le_refl 1
  | succ k ih =>
    rw [pushVarint]
    split
    · exact Nat.le_add_left 1 (k + 1)
    · exact Nat.succ_le_succ (ih _)

theorem atMost_varint (k extra : Nat) (h : extra ≤ 7) : AtMost (varint k extra h) (k + 1) :=
  fun v => pushVarint_le k v

theorem atMost_enumeration [DecidableEq α] {variants : List α}
    (hn : variants.length ≤ 2 ^ (7 * 4 + 4)) (distinct : variants.Nodup)
    (complete : ∀ v, v ∈ variants) : AtMost (enumeration variants hn distinct complete) 5 :=
  fun _ => pushVarint_le 4 _

theorem atMost_byteArray (n : Nat) : AtMost (array byte n) n := by
  intro v
  show (v.1.flatMap fun b => [b]).length ≤ n
  rw [List.flatMap_singleton', v.2]

namespace Encoding

theorem atMost_uuid {kind : IdKind} : AtMost (@uuid kind) 17 :=
  fun id => Nat.le_of_eq (uuid_length id)

theorem atMost_bytes32 : AtMost bytes32 32 := (atMost_byteArray 32).equiv _

theorem atMost_i64 : AtMost i64 10 := (atMost_varint 9 1 (by decide)).equiv _

theorem atMost_u64 : AtMost u64 10 := (atMost_varint 9 1 (by decide)).equiv _

theorem atMost_u32 : AtMost u32 5 := (atMost_varint 4 4 (by decide)).equiv _

theorem atMost_f32 : AtMost f32 4 := (atMost_byteArray 4).equiv _

theorem atMost_heartbeatSnapshot : AtMost heartbeatSnapshot 57 :=
  (atMost_u64.pair (atMost_i64.pair (atMost_f32.option.pair (atMost_f32.option.pair
    (atMost_f32.option.pair (atMost_u64.option.pair atMost_u64.option)))))).equiv _

theorem atMost_nodeMetric : AtMost nodeMetric 90 :=
  (atMost_uuid.pair (atMost_i64.pair (atMost_u32.option.pair atMost_heartbeatSnapshot))).equiv _

theorem atMost_controlEvent : AtMost controlEvent 74 :=
  (atMost_uuid.pair (atMost_i64.pair ((atMost_enumeration _ _ _).pair (atMost_uuid.option.pair
    (atMost_uuid.option.pair (atMost_enumeration _ _ _).option))))).equiv _

theorem atMost_tokenState : AtMost tokenState 66 :=
  (atMost_bytes32.option.pair atMost_bytes32.option).equiv _

end Encoding

end

open Encoding ServiceStore

namespace Database

/-! ## Tables -/

/-- `TableDefinition<&str, &[u8]>`. -/
abbrev Table := BTreeMap String (List UInt8)

/-- `from_bytes` under the caller's context. -/
def read {α : Type} (c : Codec α) (context : String) (value : List UInt8) : Except String α :=
  (c.fromBytes value).mapError fun _ => context

def readAll {α : Type} (c : Codec α) (context : String) : List (List UInt8) →
    Except String (List α)
  | [] => .ok []
  | value :: values =>
    match read c context value, readAll c context values with
    | .error e, _ => .error e
    | .ok _, .error e => .error e
    | .ok v, .ok vs => .ok (v :: vs)

/-- The bytes of some records. -/
def encoded {α : Type} (c : Codec α) (records : BTreeMap String α) : Table :=
  records.map fun _ => c.encode

/-- What each record is written as fits into memory. -/
def Fits {α : Type} (c : Codec α) (records : BTreeMap String α) : Prop :=
  ∀ (key : String) (v : α), records[key]? = some v → (c.encode v).length < addressSpace

section
variable {α : Type} {c : Codec α} {context : String} {records : BTreeMap String α}

theorem read_encode {v : α} (h : (c.encode v).length < addressSpace) :
    read c context (c.encode v) = .ok v := by
  rw [read, c.fromBytes_encode h]
  rfl

theorem readAll_encode {vs : List α} (h : ∀ v ∈ vs, (c.encode v).length < addressSpace) :
    readAll c context (vs.map c.encode) = .ok vs := by
  induction vs with
  | nil => rfl
  | cons v vs ih =>
    rw [List.map_cons, readAll, read_encode (h v List.mem_cons_self),
      ih fun w hw => h w (List.mem_cons_of_mem v hw)]

/-- All values are read, or some value is not a record. -/
theorem readAll_error_iff {values : List (List UInt8)} : (∃ e, readAll c context values = .error e) ↔
    ∃ value ∈ values, ∃ e, c.fromBytes value = .error e := by
  induction values with
  | nil => simp [readAll]
  | cons value values ih =>
    rw [readAll, read]
    cases hvalue : c.fromBytes value with
    | error e => simpa [Except.mapError] using .inl ⟨e, hvalue⟩
    | ok v =>
      simp only [List.mem_cons, exists_eq_or_imp, hvalue, reduceCtorEq, exists_false, false_or, ← ih,
        Except.mapError]
      cases readAll c context values <;> simp

theorem values_encoded : BTreeMap.values (encoded c records) =
    (BTreeMap.values records).map c.encode := by
  rw [BTreeMap.values, encoded, ExtTreeMap.toList_map, BTreeMap.values, List.map_map, List.map_map]
  rfl

theorem get_encoded (key : String) :
    (encoded c records)[key]? = (records[key]?).map c.encode := ExtTreeMap.getElem?_map

theorem encoded_insert (key : String) (v : α) :
    encoded c (records.insert key v) = (encoded c records).insert key (c.encode v) := by
  apply ExtTreeMap.ext_getElem?
  intro a
  rw [get_encoded, BTreeMap.get_insert, BTreeMap.get_insert, get_encoded]
  split <;> rfl

theorem encoded_erase (key : String) :
    encoded c (records.erase key) = (encoded c records).erase key := by
  apply ExtTreeMap.ext_getElem?
  intro a
  rw [get_encoded, BTreeMap.get_erase, BTreeMap.get_erase, get_encoded]
  split <;> rfl

theorem Fits.insert (h : Fits c records) {key : String} {v : α}
    (hv : (c.encode v).length < addressSpace) : Fits c (records.insert key v) := by
  intro a w hw
  obtain ⟨-, rfl⟩ | ⟨-, hw⟩ := BTreeMap.get_insert_some.mp hw
  · exact hv
  · exact h a w hw

theorem Fits.erase (h : Fits c records) {key : String} : Fits c (records.erase key) :=
  fun a w hw => h a w (BTreeMap.get_erase_some.mp hw).2

theorem Fits.readAll (h : Fits c records) :
    readAll c context (BTreeMap.values (encoded c records)) = .ok (BTreeMap.values records) := by
  rw [values_encoded]
  refine readAll_encode fun v hv => ?_
  obtain ⟨key, hkey⟩ := BTreeMap.mem_values_iff.mp hv
  exact h key v hkey

end

end Database

/-- The tables of the database. A new one has all of them, empty. -/
structure Database where
  services : Database.Table := ∅
  nodes : Database.Table := ∅
  metrics : Database.Table := ∅
  tokens : Database.Table := ∅
  events : Database.Table := ∅
  deriving DecidableEq

namespace Database

/-! ## The calls -/

def tokenStateKey : String := "state"

/-- `to_allocvec` of the record, inserted under the key. -/
def insertRecord {α : Type} (c : Codec α) (key : String) (v : α) (table : Table) : Table :=
  table.insert key (c.encode v)

/-- The keys of the metrics before the cutoff; a row that is no metric is not among them. -/
def expired (cutoff : Int64) (table : Table) : List String :=
  table.toList.filterMap fun entry =>
    match nodeMetric.fromBytes entry.2 with
    | .ok stored => if stored.recordedAtUnixMs < cutoff then some entry.1 else none
    | .error _ => none

def pruneMetrics (cutoff : Int64) (table : Table) : Table :=
  (expired cutoff table).foldl (fun table key => table.erase key) table

def putMetric (metric : NodeMetric) (db : Database) : Database :=
  let cutoff := saturatingSub metric.recordedAtUnixMs metricRetentionMs
  { db with
    metrics := pruneMetrics cutoff (insertRecord nodeMetric (metricKey metric) metric db.metrics) }

/-- The calls that write. -/
inductive Call
  | put (service : ServiceDefinition)
  | delete (serviceId : ServiceId)
  | putNode (node : NodeRecord)
  | putMetric (metric : NodeMetric)
  | putEvent (event : ControlEvent)
  | putTokens (tokens : TokenState)

/-- What a call writes in its transaction. -/
def Call.write (db : Database) : Call → Database
  | .put service =>
    { db with services :=
        insertRecord serviceDefinition service.serviceId.text service db.services }
  | .delete serviceId => { db with services := db.services.erase serviceId.text }
  | .putNode node => { db with nodes := insertRecord nodeRecord node.nodeId.text node db.nodes }
  | .putMetric metric => db.putMetric metric
  | .putEvent event =>
    { db with events := insertRecord controlEvent (eventKey event) event db.events }
  | .putTokens tokens =>
    { db with tokens := insertRecord tokenState tokenStateKey tokens db.tokens }

/-- The same call on the store of records. -/
def Call.writeRecord (store : ServiceStore) : Call → ServiceStore
  | .put service => store.put service
  | .delete serviceId => store.delete serviceId
  | .putNode node => store.putNode node
  | .putMetric metric => store.putMetric metric
  | .putEvent event => store.putEvent event
  | .putTokens tokens => store.putTokens tokens

/-- What the call writes fits into memory: the texts of a service or a node may
be of any length, the other records are small. -/
def Call.fits : Call → Prop
  | .put service => (serviceDefinition.encode service).length < addressSpace
  | .putNode node => (nodeRecord.encode node).length < addressSpace
  | .delete _ | .putMetric _ | .putEvent _ | .putTokens _ => True

instance (call : Call) : Decidable call.fits := by
  cases call <;> unfold Call.fits <;> infer_instance

/-- A call commits its transaction or fails. -/
def apply (db : Database) (call : Outcome × Call) : Database :=
  commit call.1 (fun db => call.2.write db) db

def applyRecord (store : ServiceStore) (call : Outcome × Call) : ServiceStore :=
  commit call.1 (fun store => call.2.writeRecord store) store

/-! ## The reads -/

def loadServices (db : Database) : Except String (BTreeMap ServiceId ServiceDefinition) :=
  (readAll serviceDefinition "failed to decode service record" (BTreeMap.values db.services)).map
    (BTreeMap.ofValues ServiceDefinition.serviceId)

def metricsForNode (db : Database) (nodeId : NodeId) : Except String (List NodeMetric) :=
  readAll nodeMetric "failed to decode node metric"
    ((db.metrics.toList.filter fun entry =>
      (nodeId.text.toList ++ [':']).isPrefixOf entry.1.toList).map Prod.snd)

def recentEvents (db : Database) (limit : Nat) : Except String (List ControlEvent) :=
  (readAll controlEvent "failed to decode control event" (BTreeMap.values db.events)).map
    fun events => (events.mergeSort fun a b =>
      decide (b.occurredAtUnixMs ≤ a.occurredAtUnixMs)).take limit

def loadOrInitializeTokens (initialAdminHash initialUserHash : TokenHash) (outcome : Outcome)
    (db : Database) : Database × Except String TokenState :=
  match db.tokens[tokenStateKey]? with
  | some value => (db, read tokenState "failed to decode token state" value)
  | none =>
    let tokens : TokenState := ⟨some initialAdminHash, some initialUserHash⟩
    match outcome with
    | .ok _ => (db.apply (outcome, .putTokens tokens), .ok tokens)
    | .error e => (db, .error e)

/-! ## The refinement -/

theorem AtMost.fits {α : Type} {c : Codec α} {n : Nat} (h : AtMost c n) (hn : n < addressSpace)
    (v : α) : (c.encode v).length < addressSpace := Nat.lt_of_le_of_lt (h v) hn

/-- The bytes of the one row of the token table. -/
def encodedTokens : Option TokenState → Table
  | none => ∅
  | some tokens => (∅ : Table).insert tokenStateKey (tokenState.encode tokens)

/-- **Each table holds the bytes of its records**, and these fit into memory. -/
structure Refines (db : Database) (store : ServiceStore) : Prop where
  services : db.services = encoded serviceDefinition store.services
  nodes : db.nodes = encoded nodeRecord store.nodes
  metrics : db.metrics = encoded nodeMetric store.metrics
  tokens : db.tokens = encodedTokens store.tokens
  events : db.events = encoded controlEvent store.events
  fitServices : Fits serviceDefinition store.services
  fitNodes : Fits nodeRecord store.nodes
  fitMetrics : Fits nodeMetric store.metrics
  fitEvents : Fits controlEvent store.events

theorem encoded_empty {α : Type} (c : Codec α) : encoded c ∅ = ∅ := by
  apply ExtTreeMap.ext_getElem?
  intro key
  rw [get_encoded, BTreeMap.get_empty, BTreeMap.get_empty]
  rfl

theorem Fits.empty {α : Type} (c : Codec α) : Fits c ∅ := by
  intro key v hv
  rw [BTreeMap.get_empty] at hv
  cases hv

/-- A new database is an empty store. -/
theorem refines_empty : Refines {} {} where
  services := (encoded_empty _).symm
  nodes := (encoded_empty _).symm
  metrics := (encoded_empty _).symm
  tokens := rfl
  events := (encoded_empty _).symm
  fitServices := Fits.empty _
  fitNodes := Fits.empty _
  fitMetrics := Fits.empty _
  fitEvents := Fits.empty _

theorem get_foldl_erase (keys : List String) (table : Table) (a : String) :
    (keys.foldl (fun table key => table.erase key) table)[a]? =
      if a ∈ keys then none else table[a]? := by
  induction keys generalizing table with
  | nil => simp
  | cons key keys ih =>
    rw [List.foldl_cons, ih, BTreeMap.get_erase]
    by_cases hkey : key = a
    · simp [hkey]
    · by_cases hmem : a ∈ keys <;> simp [hmem, hkey, Ne.symm hkey]

/-- **The retention on the bytes is the retention on the records.** The keys
collected are those of the expired metrics, as every row here is a metric. -/
theorem encoded_prune {cutoff : Int64} {records : BTreeMap String NodeMetric}
    (h : Fits nodeMetric records) : pruneMetrics cutoff (encoded nodeMetric records) =
      encoded nodeMetric
        (records.filter fun _ stored => !decide (stored.recordedAtUnixMs < cutoff)) := by
  have hexpired (key : String) : key ∈ expired cutoff (encoded nodeMetric records) ↔
      ∃ stored, records[key]? = some stored ∧ stored.recordedAtUnixMs < cutoff := by
    rw [expired, List.mem_filterMap]
    constructor
    · rintro ⟨⟨key', value⟩, hmem, hsome⟩
      rw [ExtTreeMap.mem_toList_iff_getElem?_eq_some, get_encoded, Option.map_eq_some_iff] at hmem
      obtain ⟨stored, hstored, rfl⟩ := hmem
      simp only [nodeMetric.fromBytes_encode (h key' stored hstored)] at hsome
      split at hsome
      · rename_i hlt
        cases hsome
        exact ⟨stored, hstored, hlt⟩
      · cases hsome
    · rintro ⟨stored, hstored, hlt⟩
      refine ⟨(key, nodeMetric.encode stored), ?_, ?_⟩
      · rw [ExtTreeMap.mem_toList_iff_getElem?_eq_some, get_encoded, hstored]
        rfl
      · simp only [nodeMetric.fromBytes_encode (h key stored hstored), if_pos hlt]
  apply ExtTreeMap.ext_getElem?
  intro key
  rw [pruneMetrics, get_foldl_erase, get_encoded, get_encoded, ExtTreeMap.getElem?_filter']
  cases hstored : records[key]? with
  | none => simp
  | some stored =>
    by_cases hlt : stored.recordedAtUnixMs < cutoff
    · rw [if_pos ((hexpired key).mpr ⟨stored, hstored, hlt⟩)]
      simp [hlt]
    · have hkeep : (!decide (stored.recordedAtUnixMs < cutoff)) = true := by
        rw [decide_eq_false hlt]
        rfl
      rw [if_neg fun hmem => ?_, Option.filter_some, if_pos hkeep]
      obtain ⟨stored', hstored', hlt'⟩ := (hexpired key).mp hmem
      rw [hstored] at hstored'
      cases hstored'
      exact hlt hlt'

theorem insertRecord_encoded {α : Type} {c : Codec α} {records : BTreeMap String α}
    {table : Table} (h : table = encoded c records) (key : String) (v : α) :
    insertRecord c key v table = encoded c (records.insert key v) := by
  rw [h, insertRecord, encoded_insert]

theorem insertRecord_tokens (stored : Option TokenState) (tokens : TokenState) :
    insertRecord tokenState tokenStateKey tokens (encodedTokens stored) =
      encodedTokens (some tokens) := by
  apply ExtTreeMap.ext_getElem?
  intro key
  rw [insertRecord, encodedTokens, BTreeMap.get_insert, BTreeMap.get_insert]
  split
  · rfl
  · rename_i hkey
    cases stored with
    | none => rfl
    | some old => rw [encodedTokens, BTreeMap.get_insert, if_neg hkey]

/-- **Every call keeps the refinement**, whether it commits or fails. -/
theorem refines_apply {db : Database} {store : ServiceStore} (h : Refines db store)
    (call : Outcome × Call) (hfits : call.2.fits) :
    Refines (db.apply call) (applyRecord store call) := by
  obtain ⟨outcome, call⟩ := call
  unfold apply applyRecord
  cases outcome with
  | error e => exact h
  | ok u =>
    rw [commit_ok, commit_ok]
    cases call with
    | put service =>
      refine { h with services := ?_, fitServices := h.fitServices.insert hfits }
      exact insertRecord_encoded h.services _ service
    | delete serviceId =>
      refine { h with services := ?_, fitServices := h.fitServices.erase }
      show db.services.erase _ = encoded serviceDefinition (store.services.erase _)
      rw [h.services, encoded_erase]
    | putNode node =>
      refine { h with nodes := ?_, fitNodes := h.fitNodes.insert hfits }
      exact insertRecord_encoded h.nodes _ node
    | putMetric metric =>
      have hinserted : Fits nodeMetric (store.metrics.insert (metricKey metric) metric) :=
        h.fitMetrics.insert (AtMost.fits atMost_nodeMetric (by decide) metric)
      refine { h with metrics := ?_, fitMetrics := ?_ }
      · show pruneMetrics _ (insertRecord nodeMetric _ _ db.metrics) = _
        rw [insertRecord_encoded h.metrics, encoded_prune hinserted]
        rfl
      · intro key v hv
        have hv : ((store.metrics.insert (metricKey metric) metric).filter
          fun _ stored => !decide (stored.recordedAtUnixMs <
            saturatingSub metric.recordedAtUnixMs metricRetentionMs))[key]? = some v := hv
        rw [ExtTreeMap.getElem?_filter', Option.filter_eq_some_iff] at hv
        exact hinserted key v hv.1
    | putEvent event =>
      refine { h with events := ?_, fitEvents := h.fitEvents.insert ?_ }
      · exact insertRecord_encoded h.events _ event
      · exact AtMost.fits atMost_controlEvent (by decide) event
    | putTokens tokens =>
      refine { h with tokens := ?_ }
      show insertRecord tokenState tokenStateKey tokens db.tokens = _
      rw [h.tokens, insertRecord_tokens]
      rfl

section
variable {db : Database} {store : ServiceStore} (h : Refines db store)
include h

theorem Refines.loadServices : db.loadServices = .ok store.loadServices := by
  rw [Database.loadServices, h.services, h.fitServices.readAll]
  rfl

theorem Refines.loadNodes :
    OngrokRelay.loadNodes ∅ (BTreeMap.values db.nodes) = .ok store.loadNodes := by
  have hread : (BTreeMap.values db.nodes).map nodeRecord.fromBytes =
      (BTreeMap.values store.nodes).map .ok := by
    rw [h.nodes, values_encoded, List.map_map]
    refine List.map_congr_left fun node hnode => ?_
    obtain ⟨key, hkey⟩ := BTreeMap.mem_values_iff.mp hnode
    rw [Function.comp_apply]
    exact nodeRecord.fromBytes_encode (h.fitNodes key node hkey)
  exact loadNodes_ok_iff.mpr ⟨BTreeMap.values store.nodes, hread, by
    rw [ServiceStore.loadNodes, BTreeMap.ofValues]⟩

theorem Refines.metricsForNode (nodeId : NodeId) :
    db.metricsForNode nodeId = .ok (store.metricsForNode nodeId) := by
  have hrows : (db.metrics.toList.filter fun entry =>
      (nodeId.text.toList ++ [':']).isPrefixOf entry.1.toList).map Prod.snd =
      (store.metricsForNode nodeId).map nodeMetric.encode := by
    rw [h.metrics, encoded, ExtTreeMap.toList_map, List.filter_map, List.map_map,
      ServiceStore.metricsForNode, List.map_map]
    simp only [Function.comp_def]
  rw [Database.metricsForNode, hrows]
  refine readAll_encode fun m hm => ?_
  rw [ServiceStore.metricsForNode] at hm
  obtain ⟨⟨key, _⟩, hentry, rfl⟩ := List.mem_map.mp hm
  exact h.fitMetrics key _
    (ExtTreeMap.mem_toList_iff_getElem?_eq_some.mp (List.mem_filter.mp hentry).1)

theorem Refines.recentEvents (limit : Nat) :
    db.recentEvents limit = .ok (store.recentEvents limit) := by
  rw [Database.recentEvents, h.events, h.fitEvents.readAll]
  rfl

/-- The first load stores the configured hashes, a later one reads the stored ones. -/
theorem Refines.loadOrInitializeTokens (initialAdminHash initialUserHash : TokenHash)
    (outcome : Outcome) :
    (db.loadOrInitializeTokens initialAdminHash initialUserHash outcome).2 =
      (store.loadOrInitializeTokens initialAdminHash initialUserHash outcome).2 ∧
    Refines (db.loadOrInitializeTokens initialAdminHash initialUserHash outcome).1
      (store.loadOrInitializeTokens initialAdminHash initialUserHash outcome).1 := by
  unfold Database.loadOrInitializeTokens ServiceStore.loadOrInitializeTokens
  rw [h.tokens]
  cases htokens : store.tokens with
  | some tokens =>
    rw [encodedTokens, BTreeMap.get_insert_self]
    exact ⟨read_encode (AtMost.fits atMost_tokenState (by decide) tokens), h⟩
  | none =>
    rw [encodedTokens, BTreeMap.get_empty]
    cases outcome with
    | error e => exact ⟨rfl, h⟩
    | ok u =>
      exact ⟨rfl, refines_apply h
        (.ok u, .putTokens ⟨some initialAdminHash, some initialUserHash⟩) trivial⟩

end

theorem refines_run {db : Database} {store : ServiceStore} (h : Refines db store)
    (calls : List (Outcome × Call)) (hfits : ∀ call ∈ calls, call.2.fits) :
    Refines (run apply db calls) (run applyRecord store calls) := by
  induction calls generalizing db store with
  | nil => exact h
  | cons call calls ih =>
    rw [run_cons, run_cons]
    exact ih (refines_apply h call (hfits call List.mem_cons_self))
      fun c hc => hfits c (List.mem_cons_of_mem call hc)

/-- **The store of records is what the bytes hold.** After any calls on a new
database, committed or failed, every read decodes every row it meets and gives
what the same read of the records gives. -/
theorem database_reads (calls : List (Outcome × Call)) (hfits : ∀ call ∈ calls, call.2.fits) :
    (run apply {} calls).loadServices = .ok (run applyRecord {} calls).loadServices ∧
    OngrokRelay.loadNodes ∅ (BTreeMap.values (run apply {} calls).nodes) =
      .ok (run applyRecord {} calls).loadNodes ∧
    (∀ nodeId, (run apply {} calls).metricsForNode nodeId =
      .ok ((run applyRecord {} calls).metricsForNode nodeId)) ∧
    (∀ limit, (run apply {} calls).recentEvents limit =
      .ok ((run applyRecord {} calls).recentEvents limit)) ∧
    ∀ initialAdminHash initialUserHash outcome,
      ((run apply {} calls).loadOrInitializeTokens initialAdminHash initialUserHash outcome).2 =
        ((run applyRecord {} calls).loadOrInitializeTokens initialAdminHash initialUserHash
          outcome).2 := by
  have h := refines_run refines_empty calls hfits
  exact ⟨h.loadServices, h.loadNodes, h.metricsForNode, h.recentEvents,
    fun initialAdminHash initialUserHash outcome =>
      (h.loadOrInitializeTokens initialAdminHash initialUserHash outcome).1⟩

/-- A service, a failed removal of it, an event, tokens and a metric. -/
def sampleCalls : List (Outcome × Call) :=
  [(.ok (), .put (Sample.service 1 "api" 7 .tcp none)), (.error "no space", .delete ⟨1⟩),
    (.ok (), .putEvent ⟨⟨1⟩, 5, .serviceRegistered, some ⟨7⟩, some ⟨1⟩, none⟩),
    (.ok (), .putTokens ⟨some 1, none⟩),
    (.ok (), .putMetric ⟨⟨7⟩, 10, some 12, ⟨1, 9, none, none, none, none, none⟩⟩)]

theorem database_reads_sample :
    (run apply {} sampleCalls).loadServices = .ok (run applyRecord {} sampleCalls).loadServices ∧
    (run apply {} sampleCalls).recentEvents 200 =
      .ok ((run applyRecord {} sampleCalls).recentEvents 200) := by
  have h := database_reads sampleCalls (by decide +kernel)
  exact ⟨h.1, h.2.2.2.1 200⟩

/-! ## A row that is no record -/

theorem mem_expired {cutoff : Int64} {table : Table} {key : String} {value : List UInt8}
    (hrow : table[key]? = some value) (h : key ∈ expired cutoff table) :
    ∃ stored, nodeMetric.fromBytes value = .ok stored := by
  obtain ⟨⟨key', value'⟩, hmem, hsome⟩ := List.mem_filterMap.mp h
  rw [ExtTreeMap.mem_toList_iff_getElem?_eq_some] at hmem
  cases hread : nodeMetric.fromBytes value' with
  | error e => simp only [hread] at hsome; cases hsome
  | ok stored =>
    simp only [hread] at hsome
    split at hsome
    · cases hsome
      rw [hrow] at hmem
      cases hmem
      exact ⟨stored, hread⟩
    · cases hsome

/-- The key a call writes a metric under. -/
def Call.slot : Call → Option String
  | .putMetric metric => some (metricKey metric)
  | _ => none

/-- A call leaves a metric row that cannot be read, unless it writes under its key. -/
theorem apply_unreadable {db : Database} {key : String} {value : List UInt8}
    (hbad : ∀ stored, nodeMetric.fromBytes value ≠ .ok stored)
    (hrow : db.metrics[key]? = some value) (call : Outcome × Call)
    (hkey : call.2.slot ≠ some key) :
    (db.apply call).metrics[key]? = some value := by
  obtain ⟨outcome, call⟩ := call
  unfold apply
  cases outcome with
  | error e => exact hrow
  | ok u =>
    rw [commit_ok]
    cases call with
    | putMetric metric =>
      have hinserted : (insertRecord nodeMetric (metricKey metric) metric db.metrics)[key]? =
          some value := by
        rw [insertRecord, BTreeMap.get_insert_ne _ _ fun heq => hkey (congrArg some heq), hrow]
      show (pruneMetrics _ _)[key]? = _
      rw [pruneMetrics, get_foldl_erase, if_neg fun hmem => ?_, hinserted]
      obtain ⟨stored, hstored⟩ := mem_expired hinserted hmem
      exact hbad stored hstored
    | put _ | delete _ | putNode _ | putEvent _ | putTokens _ => exact hrow

/-- **The retention never removes what it cannot read.** A metric row that is no
metric survives every call but one that writes under its key, and while it is
there the history of the node it is filed under cannot be read. -/
theorem unreadable_metric_stays (db : Database) (nodeId : NodeId) (key : String)
    (value : List UInt8) (hrow : db.metrics[key]? = some value)
    (hbad : ∀ stored, nodeMetric.fromBytes value ≠ .ok stored)
    (hnode : nodeId.text.toList ++ [':'] <+: key.toList) (calls : List (Outcome × Call))
    (hkey : ∀ call ∈ calls, call.2.slot ≠ some key) :
    EveryState apply (fun db => db.metrics[key]? = some value ∧
      ∃ e, db.metricsForNode nodeId = .error e) db calls := by
  have hstep (db : Database) (call : Outcome × Call) (hrow : db.metrics[key]? = some value)
      (hcall : call.2.slot ≠ some key) : (db.apply call).metrics[key]? = some value :=
    apply_unreadable hbad hrow call hcall
  refine (everyState_of_everyStep hstep hrow (everyStep_of_labels hkey)).mono fun db hrow =>
    ⟨hrow, ?_⟩
  refine readAll_error_iff.mpr ⟨value, List.mem_map.mpr ⟨(key, value), ?_, rfl⟩, ?_⟩
  · exact List.mem_filter.mpr ⟨ExtTreeMap.mem_toList_iff_getElem?_eq_some.mpr hrow,
      List.isPrefixOf_iff_prefix.mpr hnode⟩
  · cases hread : nodeMetric.fromBytes value with
    | error e => exact ⟨e, rfl⟩
    | ok stored => exact absurd hread (hbad stored)

/-- A metric row cut off after its first byte. -/
def cutOff : Database :=
  { metrics := (∅ : Table).insert "00000000-0000-0000-0000-000000000007:1" [16] }

theorem unreadable_metric_stays_cutOff :
    EveryState apply (fun db => db.metrics["00000000-0000-0000-0000-000000000007:1"]? = some [16] ∧
      ∃ e, db.metricsForNode ⟨7⟩ = .error e) cutOff sampleCalls := by
  refine unreadable_metric_stays cutOff ⟨7⟩ "00000000-0000-0000-0000-000000000007:1" [16]
    (by decide +kernel) (fun stored h => ?_) (by decide +kernel) sampleCalls (by decide +kernel)
  have hread : nodeMetric.fromBytes [16] = .error .unexpectedEnd := by rfl
  rw [hread] at h
  cases h

end Database
end OngrokRelay
