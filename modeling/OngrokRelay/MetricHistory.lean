import OngrokRelay.Api
import OngrokRelay.StoreKeys
import Mathlib.Data.List.Induction

/-
  The metrics of a node (`put_metric` and `metrics_for_node` of `store.rs`).

  Every insertion is followed by a removal, in the same transaction, of what is
  older than the retention before the inserted time, whichever node it is of and
  whether or not the new time is the latest so far. So a metric outlives the
  calls after it and its own exactly when none of them is later than it by more
  than the retention, and none of them took its key.

  1. `Retained`: that a call's metric outlives the calls from its own on.
  2. `retained_snoc`: what one more call leaves of it.
  3. `metrics_iff`: the table after any calls, key by key.
  4. `metricsForNode_exact`: a node's history is its retained metrics, in order.
-/

namespace OngrokRelay

open ServiceStore

/-- Two metrics that are stored under one key. -/
def SameSlot (a b : NodeMetric) : Prop :=
  a.nodeId = b.nodeId ∧ a.recordedAtUnixMs = b.recordedAtUnixMs ∧
    a.snapshot.sequence = b.snapshot.sequence

instance (a b : NodeMetric) : Decidable (SameSlot a b) := inferInstanceAs (Decidable (_ ∧ _))

/-- What a call at the time of `later` leaves in the table. -/
def Within (later m : NodeMetric) : Prop :=
  later.recordedAtUnixMs.toInt - metricRetentionMs.toInt ≤ m.recordedAtUnixMs.toInt

instance (later m : NodeMetric) : Decidable (Within later m) := inferInstanceAs (Decidable (_ ≤ _))

/-- One of the calls stored `m`, no later one stored under the same key, and none
from that one on was later than `m` by more than the retention. -/
def Retained (calls : List NodeMetric) (m : NodeMetric) : Prop :=
  ∃ before after, calls = before ++ m :: after ∧ (∀ later ∈ after, ¬SameSlot later m) ∧
    ∀ later ∈ m :: after, Within later m

/-- Earlier, or at the same time with a smaller sequence number. -/
def Precedes (a b : NodeMetric) : Prop :=
  a.recordedAtUnixMs < b.recordedAtUnixMs ∨
    a.recordedAtUnixMs = b.recordedAtUnixMs ∧ a.snapshot.sequence < b.snapshot.sequence

/-- The store after these calls of `put_metric`. -/
def putMetrics (store : ServiceStore) (calls : List NodeMetric) : ServiceStore :=
  calls.foldl (fun store m => store.putMetric m) store

/-! ## One call -/

theorem Within.self (m : NodeMetric) : Within m m :=
  Int.sub_le_self _ (by decide)

theorem Retained.mem {calls : List NodeMetric} {m : NodeMetric} (h : Retained calls m) :
    m ∈ calls := by
  obtain ⟨before, after, rfl, -⟩ := h
  exact List.mem_append_right before List.mem_cons_self

/-- What one more call leaves: its own metric, and of the others those whose key
it does not take and that are not too old for it. -/
theorem retained_snoc {calls : List NodeMetric} {c m : NodeMetric} :
    Retained (calls ++ [c]) m ↔
      Within c m ∧ (c = m ∨ ¬SameSlot c m ∧ Retained calls m) := by
  constructor
  · rintro ⟨before, after, hcalls, hslot, hwithin⟩
    rcases List.eq_nil_or_concat after with rfl | ⟨after, last, rfl⟩
    · obtain ⟨-, hlast⟩ := List.append_inj' hcalls rfl
      obtain rfl := List.singleton_inj.mp hlast
      exact ⟨Within.self c, .inl rfl⟩
    · rw [List.concat_eq_append] at hcalls hslot hwithin
      rw [← List.cons_append, ← List.append_assoc] at hcalls
      obtain ⟨rfl, hlast⟩ := List.append_inj' hcalls rfl
      obtain rfl := List.singleton_inj.mp hlast
      refine ⟨hwithin c (by simp), .inr ⟨hslot c (by simp), before, after, rfl, ?_, ?_⟩⟩
      · intro later hlater
        exact hslot later (List.mem_append_left _ hlater)
      · intro later hlater
        rw [← List.cons_append] at hwithin
        exact hwithin later (List.mem_append_left _ hlater)
  · rintro ⟨hc, rfl | ⟨hslot, before, after, rfl, hafter, hwithin⟩⟩
    · exact ⟨calls, [], rfl, by simp, by simpa using hc⟩
    · refine ⟨before, after ++ [c], by simp, ?_, ?_⟩
      · intro later hlater
        rcases List.mem_append.mp hlater with hlater | hlater
        · exact hafter later hlater
        · rw [List.mem_singleton.mp hlater]
          exact hslot
      · intro later hlater
        rw [← List.cons_append] at hlater
        rcases List.mem_append.mp hlater with hlater | hlater
        · exact hwithin later hlater
        · rw [List.mem_singleton.mp hlater]
          exact hc

/-- The subtraction does not saturate for a time that is not before the epoch. -/
theorem cutoff_toInt {t : Int64} (h : 0 ≤ t.toInt) :
    (saturatingSub t metricRetentionMs).toInt = t.toInt - metricRetentionMs.toInt := by
  have hlt := t.toInt_lt
  have hretention : metricRetentionMs.toInt = 259200000 := by decide
  rw [saturatingSub, hretention, Int64.toInt_ofInt_of_le (by omega) (by omega)]
  omega

/-- One call, key by key. -/
theorem putMetric_some {store : ServiceStore} {c m : NodeMetric} {key : String}
    (hc : 0 ≤ c.recordedAtUnixMs.toInt) :
    (store.putMetric c).metrics[key]? = some m ↔ Within c m ∧
      (metricKey c = key ∧ c = m ∨ metricKey c ≠ key ∧ store.metrics[key]? = some m) := by
  rw [ServiceStore.putMetric, Std.ExtTreeMap.getElem?_filter', Option.filter_eq_some_iff,
    BTreeMap.get_insert_some, and_comm, Bool.not_eq_true', decide_eq_false_iff_not,
    Int64.lt_iff_toInt_lt, cutoff_toInt hc, Int.not_lt, Within]

/-! ## Any calls -/

section
variable {store : ServiceStore} {calls : List NodeMetric} (hempty : store.metrics = ∅)
  (htimes : ∀ m ∈ calls, 0 ≤ m.recordedAtUnixMs.toInt)
include hempty htimes

/-- **The table after any calls**: under the key of each retained metric that
metric, and nothing else. -/
theorem metrics_iff {key : String} {m : NodeMetric} :
    (putMetrics store calls).metrics[key]? = some m ↔ key = metricKey m ∧ Retained calls m := by
  induction calls using List.reverseRecOn with
  | nil =>
    rw [putMetrics, List.foldl_nil, hempty, BTreeMap.get_empty]
    refine iff_of_false (by simp) ?_
    rintro ⟨-, h⟩
    exact absurd h.mem List.not_mem_nil
  | append_singleton calls c ih =>
    have hc := htimes c (by simp)
    have hcalls : ∀ m ∈ calls, 0 ≤ m.recordedAtUnixMs.toInt :=
      fun m hm => htimes m (List.mem_append_left _ hm)
    rw [putMetrics, List.foldl_append, List.foldl_cons, List.foldl_nil, putMetric_some hc,
      retained_snoc]
    have hold := ih hcalls
    rw [putMetrics] at hold
    rw [hold]
    constructor
    · rintro ⟨hwithin, ⟨rfl, rfl⟩ | ⟨hne, rfl, hm⟩⟩
      · exact ⟨rfl, hwithin, .inl rfl⟩
      · rw [Ne, metricKey_inj hc (hcalls m hm.mem)] at hne
        exact ⟨rfl, hwithin, .inr ⟨hne, hm⟩⟩
    · rintro ⟨rfl, hwithin, rfl | ⟨hslot, hm⟩⟩
      · exact ⟨hwithin, .inl ⟨rfl, rfl⟩⟩
      · refine ⟨hwithin, .inr ⟨?_, rfl, hm⟩⟩
        rw [Ne, metricKey_inj hc (hcalls m hm.mem)]
        exact hslot

/-- **A node's history is exact.** After any calls with times not before the
epoch it is the retained metrics of the node, each once, ordered by time and
sequence number. -/
theorem metricsForNode_exact (nodeId : NodeId) :
    (∀ m : NodeMetric, m ∈ (putMetrics store calls).metricsForNode nodeId ↔
      m.nodeId = nodeId ∧ Retained calls m) ∧
    ((putMetrics store calls).metricsForNode nodeId).Pairwise Precedes := by
  have hentry (entry : String × NodeMetric) : entry ∈ (putMetrics store calls).metrics.toList ↔
      entry.1 = metricKey entry.2 ∧ Retained calls entry.2 := by
    rw [Std.ExtTreeMap.mem_toList_iff_getElem?_eq_some, metrics_iff hempty htimes]
  have hnode (entry : String × NodeMetric) (h : entry ∈ (putMetrics store calls).metrics.toList) :
      (nodeId.text.toList ++ [':']).isPrefixOf entry.1.toList = true ↔
        entry.2.nodeId = nodeId := by
    obtain ⟨hkey, hm⟩ := (hentry entry).mp h
    rw [hkey, metricKey_node (htimes _ hm.mem)]
  constructor
  · intro m
    rw [metricsForNode, List.mem_map]
    constructor
    · rintro ⟨entry, hmem, rfl⟩
      obtain ⟨hmem, hbegins⟩ := List.mem_filter.mp hmem
      exact ⟨(hnode entry hmem).mp hbegins, ((hentry entry).mp hmem).2⟩
    · rintro ⟨hid, hm⟩
      have hmem := (hentry (metricKey m, m)).mpr ⟨rfl, hm⟩
      exact ⟨_, List.mem_filter.mpr ⟨hmem, (hnode _ hmem).mpr hid⟩, rfl⟩
  · have hordered := Std.ExtTreeMap.ordered_keys_toList (t := (putMetrics store calls).metrics)
    rw [metricsForNode, List.pairwise_map]
    refine (hordered.filter _).imp_of_mem ?_
    intro a b ha hb hlt
    obtain ⟨ha, hbegins⟩ := List.mem_filter.mp ha
    have hida := (hnode a ha).mp hbegins
    obtain ⟨hb, hbegins⟩ := List.mem_filter.mp hb
    have hidb := (hnode b hb).mp hbegins
    obtain ⟨hkeya, hma⟩ := (hentry a).mp ha
    obtain ⟨hkeyb, hmb⟩ := (hentry b).mp hb
    rw [compare_lt_iff, hkeya, hkeyb,
      metricKey_lt_iff (htimes _ hma.mem) (htimes _ hmb.mem), hida, hidb] at hlt
    -- both are of the node, so it is the rest of the keys that decides
    exact (hlt.resolve_left (BitVec.lt_irrefl _)).2

end

namespace Sample

def metric (nodeId : NodeId) (recordedAtUnixMs : Int64) (sequence : UInt64) : NodeMetric :=
  ⟨nodeId, recordedAtUnixMs, some 12, ⟨sequence, recordedAtUnixMs, none, none, none, none, none⟩⟩

/-- Out of order and of two nodes. The third call, of the other node, is three days
and a millisecond later than the second; the last takes the key of the first. -/
def history : List NodeMetric :=
  [metric ⟨1⟩ 1800000000000 7, metric ⟨1⟩ 1799740800000 3, metric ⟨2⟩ 1800000000001 2,
    metric ⟨1⟩ 1799740800001 4, metric ⟨1⟩ 1800000000000 5, metric ⟨1⟩ 1800000000000 7]

end Sample

theorem metricsForNode_exact_sample :
    (∀ m : NodeMetric, m ∈ (putMetrics {} Sample.history).metricsForNode ⟨1⟩ ↔
        m.nodeId = ⟨1⟩ ∧ Retained Sample.history m) ∧
      Sample.metric ⟨1⟩ 1799740800001 4 ∈ (putMetrics {} Sample.history).metricsForNode ⟨1⟩ ∧
      ((putMetrics {} Sample.history).metricsForNode ⟨1⟩).Pairwise Precedes := by
  have hempty : ({} : ServiceStore).metrics = ∅ := rfl
  have htimes : ∀ m ∈ Sample.history, 0 ≤ m.recordedAtUnixMs.toInt := by decide
  have h := metricsForNode_exact hempty htimes ⟨1⟩
  exact ⟨h.1, (h.1 _).mpr ⟨rfl, Sample.history.take 3, Sample.history.drop 4, rfl, by decide,
    by decide⟩, h.2⟩

end OngrokRelay
