import OngrokRelay.Api
import OngrokRelay.Ranking
import OngrokRelay.StoreKeys
import Mathlib.Data.List.Induction
import Mathlib.Data.Int.Order.Basic
import Mathlib.Data.List.Nodup
import Mathlib.Data.List.Pairwise

/-
  The newest events (`put_event` and `recent_events` of `store.rs`).

  The table is in ascending order of time and identifier. It is sorted by the
  time alone, latest first, with a stable sort, and cut off after the limit. So
  events of one millisecond come out with the oldest first, and where the cut
  falls among them it is the newest that are dropped.

  1. `events_iff`, `values_events_perm`: the table after any calls.
  2. `recentEvents_sorted`: the order in which its events come out.
  3. `newestFirst_take_iff`: a cut of that order has the newest first exactly
     when no event of it shares its millisecond.
  4. `recentEvents_newestFirst_iff`: when that is so, in terms of the calls.
-/

namespace OngrokRelay

open ServiceStore

/-- When an event occurred. -/
def ControlEvent.millis (e : ControlEvent) : Int := e.occurredAtUnixMs.toInt

/-- Later, or at the same time with a greater identifier. -/
def Newer (a b : ControlEvent) : Prop :=
  b.millis < a.millis ∨ a.millis = b.millis ∧ b.eventId.bits < a.eventId.bits

instance (a b : ControlEvent) : Decidable (Newer a b) := inferInstanceAs (Decidable (_ ∨ _))

/-- What `recent_events` is to return of these events. -/
structure NewestFirst (events : List ControlEvent) (limit : Nat) (result : List ControlEvent) :
    Prop where
  length : result.length = min limit events.length
  stored : ∀ e ∈ result, e ∈ events
  descending : result.Pairwise Newer
  omitted : ∀ e ∈ events, e ∉ result → ∀ r ∈ result, Newer r e

/-- The store after these calls of `put_event`. -/
def putEvents (store : ServiceStore) (calls : List ControlEvent) : ServiceStore :=
  calls.foldl (fun store e => store.putEvent e) store

/-! ## The table -/

section
variable {store : ServiceStore} {calls : List ControlEvent} (hempty : store.events = ∅)
  (hdistinct : (calls.map ControlEvent.eventId).Nodup)
include hempty hdistinct

theorem events_iff {key : String} {e : ControlEvent} :
    (putEvents store calls).events[key]? = some e ↔ key = eventKey e ∧ e ∈ calls := by
  induction calls using List.reverseRecOn with
  | nil =>
    rw [putEvents, List.foldl_nil, hempty, BTreeMap.get_empty]
    simp
  | append_singleton calls c ih =>
    rw [List.map_append, List.nodup_append] at hdistinct
    have hold := ih hdistinct.1
    rw [putEvents] at hold
    rw [putEvents, List.foldl_append, List.foldl_cons, List.foldl_nil, ServiceStore.putEvent,
      BTreeMap.get_insert_some, hold, List.mem_append, List.mem_singleton]
    constructor
    · rintro (⟨rfl, rfl⟩ | ⟨-, rfl, he⟩)
      · exact ⟨rfl, .inr rfl⟩
      · exact ⟨rfl, .inl he⟩
    · rintro ⟨rfl, he | rfl⟩
      · -- its key is not the new one, which has another identifier in it
        refine .inr ⟨fun hkey => ?_, rfl, he⟩
        exact hdistinct.2.2 e.eventId (List.mem_map_of_mem he) c.eventId (by simp)
          (eventKey_injective hkey).symm
      · exact .inl ⟨rfl, rfl⟩

theorem values_events_perm : (BTreeMap.values (putEvents store calls).events).Perm calls := by
  refine (List.perm_ext_iff_of_nodup ?_ (List.Nodup.of_map _ hdistinct)).mpr fun e => ?_
  · refine BTreeMap.values_pairwise fun k k' v w hkeys hv hw hvw => hkeys ?_
    rw [((events_iff hempty hdistinct).mp hv).1, ((events_iff hempty hdistinct).mp hw).1, hvw]
  · simp only [BTreeMap.mem_values_iff, events_iff hempty hdistinct, exists_eq_left]

variable (htimes : ∀ e ∈ calls, 0 ≤ e.millis)
include htimes

theorem values_events_ordered : (BTreeMap.values (putEvents store calls).events).Pairwise
    fun a b => a.millis = b.millis → a.eventId.bits < b.eventId.bits := by
  rw [BTreeMap.values, List.pairwise_map]
  refine (Std.ExtTreeMap.ordered_keys_toList (t := (putEvents store calls).events)).imp_of_mem ?_
  intro a b ha hb hlt htie
  obtain ⟨hkeya, ha⟩ := (events_iff hempty hdistinct).mp
    (Std.ExtTreeMap.mem_toList_iff_getElem?_eq_some.mp ha)
  obtain ⟨hkeyb, hb⟩ := (events_iff hempty hdistinct).mp
    (Std.ExtTreeMap.mem_toList_iff_getElem?_eq_some.mp hb)
  rw [compare_lt_iff, hkeya, hkeyb, eventKey_lt_iff (htimes _ ha) (htimes _ hb),
    Int64.lt_iff_toInt_lt] at hlt
  exact (hlt.resolve_left fun h => absurd htie (Int.ne_of_lt h)).2

end

/-! ## The order -/

theorem recentEvents_eq (store : ServiceStore) (limit : Nat) : store.recentEvents limit =
    (Ranking.byRank ControlEvent.millis (BTreeMap.values store.events)).take limit := by
  unfold recentEvents Ranking.byRank
  congr
  funext a b
  exact decide_eq_decide.mpr Int64.le_iff_toInt_le

/-- How events come out: the latest first, those of one millisecond oldest first. -/
def ComesBefore (a b : ControlEvent) : Prop :=
  b.millis < a.millis ∨ a.millis = b.millis ∧ a.eventId.bits < b.eventId.bits

theorem ComesBefore.untied {a b : ControlEvent} (h : ComesBefore a b) (hnewer : Newer a b) :
    a.millis ≠ b.millis := by
  intro htie
  rcases h with h | ⟨-, h⟩
  · omega
  · rcases hnewer with hnewer | ⟨-, hnewer⟩
    · omega
    · exact BitVec.lt_asymm h hnewer

section
variable {sorted : List ControlEvent} {limit : Nat} (hsorted : sorted.Pairwise ComesBefore)
include hsorted

theorem ComesBefore.ranked : Ranking.Ranked ControlEvent.millis sorted :=
  hsorted.imp fun h => by
    rcases h with h | ⟨h, -⟩ <;> omega

/-- **A cut of that order has the newest first** exactly when no event of it
shares its millisecond with another one. -/
theorem newestFirst_take_iff {events : List ControlEvent} (hperm : sorted.Perm events) :
    NewestFirst events limit (sorted.take limit) ↔
      ∀ c ∈ sorted.take limit, ∀ e ∈ sorted, c ≠ e → c.millis ≠ e.millis := by
  have hcut := List.take_append_drop limit sorted
  have hparts := hcut ▸ hsorted
  rw [List.pairwise_append] at hparts
  constructor
  · intro h c hc e he hne
    by_cases hreturned : e ∈ sorted.take limit
    · have hboth := hparts.1.and h.descending
      have hapart : (sorted.take limit).Pairwise fun a b => a.millis ≠ b.millis :=
        hboth.imp fun hab => hab.1.untied hab.2
      have : Std.Symm fun a b : ControlEvent => a.millis ≠ b.millis := ⟨fun _ _ => Ne.symm⟩
      exact hapart.forall hc hreturned hne
    · have homitted : e ∈ sorted.drop limit := by
        rw [← hcut, List.mem_append] at he
        exact he.resolve_left hreturned
      exact (hparts.2.2 c hc e homitted).untied (h.omitted e (hperm.mem_iff.mp he) hreturned c hc)
  · intro huntied
    have hnewer {c e : ControlEvent} (hc : c ∈ sorted.take limit) (he : e ∈ sorted)
        (hbefore : ComesBefore c e) : Newer c e := by
      refine .inl (hbefore.resolve_right fun htie => ?_)
      refine huntied c hc e he (fun heq => ?_) htie.1
      rw [heq] at htie
      exact BitVec.lt_irrefl _ htie.2
    refine ⟨?_, ?_, ?_, ?_⟩
    · rw [List.length_take, hperm.length_eq]
    · intro e he
      exact hperm.mem_iff.mp (List.mem_of_mem_take he)
    · exact hparts.1.imp_of_mem fun ha hb => hnewer ha (List.mem_of_mem_take hb)
    · intro e he homitted r hr
      rw [← hperm.mem_iff] at he
      have hdrop : e ∈ sorted.drop limit := by
        rw [← hcut, List.mem_append] at he
        exact he.resolve_left homitted
      exact hnewer hr he (hparts.2.2 r hr e hdrop)

end

/-! ## The newest events -/

section
variable {store : ServiceStore} {calls : List ControlEvent} (hempty : store.events = ∅)
  (hdistinct : (calls.map ControlEvent.eventId).Nodup) (htimes : ∀ e ∈ calls, 0 ≤ e.millis)
include hempty hdistinct htimes

theorem recentEvents_sorted :
    (Ranking.byRank ControlEvent.millis (BTreeMap.values (putEvents store calls).events)).Pairwise
      ComesBefore := by
  refine (Ranking.byRank_pairwise _ _ (values_events_ordered hempty hdistinct htimes)).imp ?_
  intro a b h
  exact h.imp_right fun htie => ⟨htie.1, htie.2 htie.1⟩

/-- **The newest events are returned first**, whatever the limit, exactly when no
two events share a millisecond that fewer than `limit` events are later than. -/
theorem recentEvents_newestFirst_iff (limit : Nat) :
    NewestFirst calls limit ((putEvents store calls).recentEvents limit) ↔
      ∀ a ∈ calls, ∀ b ∈ calls, a ≠ b → a.millis = b.millis →
        limit ≤ calls.countP fun e => decide (a.millis < e.millis) := by
  have hsorted := recentEvents_sorted hempty hdistinct htimes
  have hperm := (Ranking.byRank_perm ControlEvent.millis _).trans
    (values_events_perm hempty hdistinct)
  rw [recentEvents_eq, newestFirst_take_iff hsorted hperm,
    Ranking.take_untied_iff (ComesBefore.ranked hsorted)]
  simp only [hperm.mem_iff, hperm.countP_eq]

end

namespace Sample

def event (eventId : EventId) (occurredAtUnixMs : Int64) : ControlEvent :=
  ⟨eventId, occurredAtUnixMs, .nodeOffline, none, none, none⟩

/-- The events of one millisecond are older than the two that are asked for. -/
def recorded : List ControlEvent := [event ⟨1⟩ 10, event ⟨2⟩ 10, event ⟨3⟩ 30, event ⟨4⟩ 20]

end Sample

theorem recentEvents_newestFirst_iff_sample :
    NewestFirst Sample.recorded 2 ((putEvents {} Sample.recorded).recentEvents 2) :=
  (recentEvents_newestFirst_iff rfl (by decide) (by decide) 2).mpr (by decide)

/-- Of two events of one millisecond it is the older one that is returned. -/
theorem recentEvents_drops_newest :
    (putEvents {} [Sample.event ⟨1⟩ 10, Sample.event ⟨2⟩ 10]).recentEvents 1 =
        [Sample.event ⟨1⟩ 10] ∧
      ¬NewestFirst [Sample.event ⟨1⟩ 10, Sample.event ⟨2⟩ 10] 1
        ((putEvents {} [Sample.event ⟨1⟩ 10, Sample.event ⟨2⟩ 10]).recentEvents 1) := by
  have hvalues : BTreeMap.values (putEvents {} [Sample.event ⟨1⟩ 10, Sample.event ⟨2⟩ 10]).events =
      [Sample.event ⟨1⟩ 10, Sample.event ⟨2⟩ 10] := by decide +kernel
  have hresult : (putEvents {} [Sample.event ⟨1⟩ 10, Sample.event ⟨2⟩ 10]).recentEvents 1 =
      [Sample.event ⟨1⟩ 10] := by
    rw [recentEvents, hvalues, List.mergeSort_of_pairwise (by decide)]
    rfl
  refine ⟨hresult, fun h => ?_⟩
  rw [hresult] at h
  have hnewer := h.omitted (Sample.event ⟨2⟩ 10) (by decide) (by decide) _
    (List.mem_singleton_self _)
  exact absurd hnewer (by decide)

end OngrokRelay
