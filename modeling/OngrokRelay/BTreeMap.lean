import Mathlib.Tactic.Common

/-
  An ordered finite map: the tree map of the standard library under the order
  of its keys, with the few laws about its values in key order that a
  program iterating over `values()` needs.

  1. `mem_values_iff`: the values are those some key maps to.
  2. `find_values_some`, `find_values_none`, `any_values_iff`: searching them.
  3. `ofValues`: a map rebuilt from values that carry their own key;
     `ofValues_some` and `ofValues_of_mem` are what it holds.
  4. `renamed_iff`: a map that is another one with its keys renamed.
-/

open Std

/-- A map ordered by its keys. -/
abbrev BTreeMap (α β : Type) [Ord α] : Type := ExtTreeMap α β compare

namespace BTreeMap

variable {α β : Type} [Ord α] [TransOrd α]

/-- The values, in the order of their keys. -/
def values (m : BTreeMap α β) : List β := m.toList.map Prod.snd

/-- The map of a list of values that carry their own key; a later value replaces
an earlier one. -/
def ofValues (key : β → α) (vs : List β) : BTreeMap α β :=
  vs.foldl (fun m v => m.insert (key v) v) ∅

@[simp] theorem get_empty (a : α) : (∅ : BTreeMap α β)[a]? = none := ExtTreeMap.getElem?_empty

variable [LawfulEqOrd α]

theorem mem_values_iff {m : BTreeMap α β} {v : β} : v ∈ values m ↔ ∃ k : α, m[k]? = some v := by
  simp only [values, List.mem_map, Prod.exists, ExtTreeMap.mem_toList_iff_getElem?_eq_some,
    exists_eq_right]

theorem any_values_iff {m : BTreeMap α β} {p : β → Bool} :
    (values m).any p = true ↔ ∃ (k : α) (v : β), m[k]? = some v ∧ p v = true := by
  simp only [List.any_eq_true, mem_values_iff]
  constructor
  · intro h
    obtain ⟨v, ⟨k, hk⟩, hp⟩ := h
    exact ⟨k, v, hk, hp⟩
  · intro h
    obtain ⟨k, v, hk, hp⟩ := h
    exact ⟨v, ⟨k, hk⟩, hp⟩

theorem find_values_some {m : BTreeMap α β} {p : β → Bool} {v : β}
    (h : (values m).find? p = some v) : (∃ k : α, m[k]? = some v) ∧ p v = true :=
  ⟨mem_values_iff.mp (List.mem_of_find?_eq_some h), List.find?_some h⟩

theorem find_values_none {m : BTreeMap α β} {p : β → Bool} :
    (values m).find? p = none ↔ ∀ (k : α) (v : β), m[k]? = some v → p v = false := by
  simp only [List.find?_eq_none, mem_values_iff, Bool.not_eq_true]
  exact ⟨fun h k v hk => h v ⟨k, hk⟩, fun h v ⟨k, hk⟩ => h k v hk⟩

/-- The value found is the one under the least key of those that fit. -/
theorem find_values_least {m : BTreeMap α β} {p : β → Bool} {v : β}
    (h : (values m).find? p = some v) : ∃ k : α, m[k]? = some v ∧ p v = true ∧
      ∀ (k' : α) (w : β), m[k']? = some w → p w = true → compare k' k ≠ .lt := by
  rw [values, List.find?_map, Option.map_eq_some_iff] at h
  obtain ⟨⟨k, _⟩, hfind, rfl⟩ := h
  obtain ⟨hp, before, after, hsplit, hbefore⟩ := List.find?_eq_some_iff_append.mp hfind
  have hget : m[k]? = some _ := ExtTreeMap.mem_toList_iff_getElem?_eq_some.mp
    (hsplit ▸ List.mem_append_right before List.mem_cons_self)
  refine ⟨k, hget, hp, fun k' w hw hpw hlt => ?_⟩
  have hmem := ExtTreeMap.mem_toList_iff_getElem?_eq_some.mpr hw
  have hordered : m.toList.Pairwise fun a b => compare a.1 b.1 = .lt :=
    ExtTreeMap.ordered_keys_toList
  rw [hsplit] at hmem hordered
  rcases List.mem_append.mp hmem with hmem | hmem
  · -- an entry before the one found does not fit
    have hno := hbefore _ hmem
    simp [hpw] at hno
  · rcases List.mem_cons.mp hmem with heq | hmem
    · cases heq
      rw [compare_self] at hlt
      cases hlt
    · -- an entry after it has a greater key
      have hgt := (List.pairwise_cons.mp (List.pairwise_append.mp hordered).2.1).1 _ hmem
      have htrans := TransCmp.lt_trans hlt hgt
      rw [compare_self] at htrans
      cases htrans

/-- What holds of any two entries under different keys holds of any two values
at different places. -/
theorem values_pairwise {m : BTreeMap α β} {R : β → β → Prop}
    (h : ∀ (k k' : α) (v w : β), k ≠ k' → m[k]? = some v → m[k']? = some w → R v w) :
    (values m).Pairwise R := by
  have hkeys : m.toList.Pairwise fun a b => ¬compare a.1 b.1 = .eq := ExtTreeMap.distinct_keys_toList
  refine List.pairwise_map.mpr (hkeys.imp_of_mem fun {a b} ha hb hne => ?_)
  exact h a.1 b.1 a.2 b.2 (fun heq => hne (Std.compare_eq_iff_eq.mpr heq))
    (ExtTreeMap.mem_toList_iff_getElem?_eq_some.mp ha)
    (ExtTreeMap.mem_toList_iff_getElem?_eq_some.mp hb)

variable [DecidableEq α]

theorem get_insert (m : BTreeMap α β) (k a : α) (v : β) :
    (m.insert k v)[a]? = if k = a then some v else m[a]? := by
  simp only [ExtTreeMap.getElem?_insert, Std.compare_eq_iff_eq]

theorem get_erase (m : BTreeMap α β) (k a : α) :
    (m.erase k)[a]? = if k = a then none else m[a]? := by
  simp only [ExtTreeMap.getElem?_erase, Std.compare_eq_iff_eq]

@[simp] theorem get_insert_self (m : BTreeMap α β) (k : α) (v : β) :
    (m.insert k v)[k]? = some v := by rw [get_insert, if_pos rfl]

@[simp] theorem get_erase_self (m : BTreeMap α β) (k : α) : (m.erase k)[k]? = none := by
  rw [get_erase, if_pos rfl]

theorem get_insert_ne (m : BTreeMap α β) {k a : α} (v : β) (h : k ≠ a) :
    (m.insert k v)[a]? = m[a]? := by rw [get_insert, if_neg h]

theorem get_erase_ne (m : BTreeMap α β) {k a : α} (h : k ≠ a) : (m.erase k)[a]? = m[a]? := by
  rw [get_erase, if_neg h]

/-- An entry after an insertion is the new one or an old one under another key. -/
theorem get_insert_some {m : BTreeMap α β} {k a : α} {v w : β} :
    (m.insert k v)[a]? = some w ↔ (k = a ∧ v = w) ∨ (k ≠ a ∧ m[a]? = some w) := by
  rw [get_insert]
  by_cases h : k = a <;> simp [h]

theorem get_erase_some {m : BTreeMap α β} {k a : α} {w : β} :
    (m.erase k)[a]? = some w ↔ k ≠ a ∧ m[a]? = some w := by
  rw [get_erase]
  by_cases h : k = a <;> simp [h]

/-- An insertion changes nothing exactly when the entry is there already. -/
theorem insert_eq_self_iff {m : BTreeMap α β} {k : α} {v : β} :
    m.insert k v = m ↔ m[k]? = some v := by
  constructor
  · intro h
    rw [← h, get_insert_self]
  · intro h
    apply ExtTreeMap.ext_getElem?
    intro a
    rw [get_insert]
    split
    · rename_i hka
      rw [← hka, h]
    · rfl

/-- A removal changes nothing exactly when there is no such entry. -/
theorem erase_eq_self_iff {m : BTreeMap α β} {k : α} : m.erase k = m ↔ m[k]? = none := by
  constructor
  · intro h
    rw [← h, get_erase_self]
  · intro h
    apply ExtTreeMap.ext_getElem?
    intro a
    rw [get_erase]
    split
    · rename_i hka
      rw [← hka, h]
    · rfl

/-- An insertion and the removal of its key come to the removal alone. -/
theorem erase_insert (m : BTreeMap α β) (k : α) (v : β) : (m.insert k v).erase k = m.erase k := by
  apply ExtTreeMap.ext_getElem?
  intro a
  simp only [get_erase, get_insert]
  split <;> rfl

/-- The entry of a key becomes `v`, which may be none. -/
def assign (m : BTreeMap α β) (k : α) : Option β → BTreeMap α β
  | some v => m.insert k v
  | none => m.erase k

theorem get_assign (m : BTreeMap α β) (k a : α) (v : Option β) :
    (assign m k v)[a]? = if k = a then v else m[a]? := by
  cases v with
  | some v => exact get_insert m k a v
  | none => exact get_erase m k a

/-- Every entry of a rebuilt map is a listed value under its own key. -/
theorem ofValues_some {key : β → α} {vs : List β} {k : α} {v : β}
    (h : (ofValues key vs)[k]? = some v) : v ∈ vs ∧ key v = k := by
  suffices hfold : ∀ (ws : List β) (m : BTreeMap α β),
      (ws.foldl (fun m v => m.insert (key v) v) m)[k]? = some v →
        (v ∈ ws ∧ key v = k) ∨ m[k]? = some v by
    rcases hfold vs ∅ h with h | h
    · exact h
    · simp at h
  intro ws
  induction ws with
  | nil => intro m h; exact .inr h
  | cons w ws ih =>
    intro m h
    rcases ih _ h with ⟨hv, hk⟩ | h
    · exact .inl ⟨List.mem_cons_of_mem w hv, hk⟩
    · rcases get_insert_some.mp h with ⟨hk, rfl⟩ | ⟨_, h⟩
      · exact .inl ⟨List.mem_cons_self, hk⟩
      · exact .inr h

/-- A listed value is an entry of the rebuilt map when no other listed value has
its key. -/
theorem ofValues_of_mem {key : β → α} {vs : List β} {v : β} (hv : v ∈ vs)
    (hunique : ∀ w ∈ vs, key w = key v → w = v) : (ofValues key vs)[key v]? = some v := by
  suffices hfold : ∀ (ws : List β) (m : BTreeMap α β), (∀ w ∈ ws, key w = key v → w = v) →
      (v ∈ ws ∨ m[key v]? = some v) →
        (ws.foldl (fun m v => m.insert (key v) v) m)[key v]? = some v from
    hfold vs ∅ hunique (.inl hv)
  intro ws
  induction ws with
  | nil =>
    intro m _ h
    exact h.resolve_left (List.not_mem_nil)
  | cons w ws ih =>
    intro m hws h
    refine ih _ (fun w' hw' => hws w' (List.mem_cons_of_mem w hw')) ?_
    -- the value is the one just inserted, one still to come, or one no insertion displaces
    by_cases hkey : key w = key v
    · obtain rfl := hws w List.mem_cons_self hkey
      exact .inr (get_insert_self _ _ _)
    · rcases h with h | h
      · rcases List.mem_cons.mp h with rfl | h
        · exact absurd rfl hkey
        · exact .inl h
      · exact .inr ((get_insert_ne _ _ hkey).trans h)

omit [LawfulEqOrd α] [DecidableEq α] in
/-- The key of a listed value is a key of the rebuilt map, whatever else has that key. -/
theorem mem_ofValues {key : β → α} {vs : List β} {v : β} (hv : v ∈ vs) :
    key v ∈ ofValues key vs := by
  suffices hfold : ∀ (ws : List β) (m : BTreeMap α β), (v ∈ ws ∨ key v ∈ m) →
      key v ∈ ws.foldl (fun m v => m.insert (key v) v) m from hfold vs ∅ (.inl hv)
  intro ws
  induction ws with
  | nil => exact fun m h => h.resolve_left List.not_mem_nil
  | cons w ws ih =>
    intro m h
    refine ih _ ?_
    rcases h with h | h
    · rcases List.mem_cons.mp h with rfl | h
      · exact .inr ExtTreeMap.mem_insert_self
      · exact .inl h
    · exact .inr (ExtTreeMap.mem_insert.mpr (.inr h))

omit [LawfulEqOrd α] [DecidableEq α] in
/-- **A map is another one with its keys renamed** exactly when it has no other
keys, and under each of them what the other map has under the key itself. -/
theorem renamed_iff {κ : Type} [Ord κ] [TransOrd κ] {f : κ → α} (hf : Function.Injective f)
    {m : BTreeMap κ β} {renamed : BTreeMap α β} :
    (∀ (a : α) (v : β), renamed[a]? = some v ↔ ∃ k : κ, a = f k ∧ m[k]? = some v) ↔
      (∀ (a : α) (v : β), renamed[a]? = some v → ∃ k : κ, a = f k) ∧
      ∀ k : κ, renamed[f k]? = m[k]? := by
  constructor
  · intro h
    refine ⟨fun a v hv => ?_, fun k => Option.ext fun v => ?_⟩
    · obtain ⟨k, hk, -⟩ := (h a v).mp hv
      exact ⟨k, hk⟩
    · rw [h]
      constructor
      · rintro ⟨k', hk, hv⟩
        rw [hf hk]
        exact hv
      · intro hv
        exact ⟨k, rfl, hv⟩
  · rintro ⟨hkeys, hget⟩ a v
    constructor
    · intro hv
      obtain ⟨k, rfl⟩ := hkeys a v hv
      exact ⟨k, rfl, (hget k).symm.trans hv⟩
    · rintro ⟨k, rfl, hv⟩
      exact (hget k).trans hv

end BTreeMap
