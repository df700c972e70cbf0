import Mathlib.Tactic.Common

/-
  A map that holds several values under one name, as the list of its entries. The
  values of a name stand in their order; the order between names says nothing.

  1. `getAll_remove`, `getAll_insert`: what each operation does to a name.
  2. `getAll_removeAll`: a list of names removed one after the other.
  3. `removeAll_eq_self`: removing what is not there changes nothing.
-/

namespace FieldMap

variable {κ β : Type} [DecidableEq κ]

/-- The values of a name. -/
def getAll (m : List (κ × β)) (name : κ) : List β :=
  (m.filter fun entry => entry.1 = name).map Prod.snd

def remove (m : List (κ × β)) (name : κ) : List (κ × β) := m.filter fun entry => entry.1 ≠ name

/-- One value in place of all there are: where the first one stood, or at the end. -/
def insert : List (κ × β) → κ → β → List (κ × β)
  | [], name, v => [(name, v)]
  | entry :: m, name, v =>
    if entry.1 = name then (name, v) :: remove m name else entry :: insert m name v

def removeAll (m : List (κ × β)) (names : List κ) : List (κ × β) := names.foldl remove m

theorem mem_getAll {m : List (κ × β)} {name : κ} {v : β} :
    v ∈ getAll m name ↔ (name, v) ∈ m := by
  simp only [getAll, List.mem_map, List.mem_filter, decide_eq_true_eq, Prod.exists]
  constructor
  · rintro ⟨_, _, ⟨hmem, rfl⟩, rfl⟩
    exact hmem
  · intro hmem
    exact ⟨name, v, ⟨hmem, rfl⟩, rfl⟩

theorem getAll_remove (m : List (κ × β)) (name k : κ) :
    getAll (remove m name) k = if k = name then [] else getAll m k := by
  rw [getAll, remove, List.filter_filter]
  split
  · rename_i h
    rw [List.filter_eq_nil_iff.mpr, List.map_nil]
    intro entry _
    simp [h]
  · rename_i h
    rw [getAll]
    congr 1
    refine List.filter_congr fun entry _ => ?_
    by_cases hk : entry.1 = k
    · simp [hk, h]
    · simp [hk]

theorem getAll_insert (m : List (κ × β)) (name k : κ) (v : β) :
    getAll (insert m name v) k = if k = name then [v] else getAll m k := by
  induction m with
  | nil =>
    by_cases h : k = name
    · simp [insert, getAll, h]
    · simp [insert, getAll, h, Ne.symm h]
  | cons entry m ih =>
    have hcons (e : κ × β) (l : List (κ × β)) :
        getAll (e :: l) k = (if e.1 = k then [e.2] else []) ++ getAll l k := by
      by_cases h : e.1 = k <;> simp [getAll, h]
    unfold insert
    split
    · rename_i hname
      rw [hcons, hcons, getAll_remove]
      by_cases h : k = name
      · simp [h]
      · rw [if_neg h, if_neg h, if_neg (Ne.symm h), hname, if_neg (Ne.symm h)]
    · rename_i hname
      rw [hcons, hcons, ih]
      by_cases h : k = name
      · rw [if_pos h, if_pos h, h, if_neg hname, List.nil_append]
      · rw [if_neg h, if_neg h]

/-- **A list of names removed**: nothing is left of these, and the others are as
they were. -/
theorem getAll_removeAll (m : List (κ × β)) (names : List κ) (k : κ) :
    getAll (removeAll m names) k = if k ∈ names then [] else getAll m k := by
  induction names generalizing m with
  | nil => simp [removeAll]
  | cons name names ih =>
    have hstep := ih (remove m name)
    rw [removeAll] at hstep
    rw [removeAll, List.foldl_cons, hstep, getAll_remove]
    by_cases hrest : k ∈ names
    · rw [if_pos hrest, if_pos (List.mem_cons_of_mem name hrest)]
    · simp only [List.mem_cons, hrest, or_false, if_false]

theorem remove_eq_self {m : List (κ × β)} {name : κ} (h : getAll m name = []) :
    remove m name = m := by
  rw [remove, List.filter_eq_self]
  intro entry hentry
  refine decide_eq_true fun hname => ?_
  have hmem : entry.2 ∈ getAll m name := mem_getAll.mpr (hname ▸ hentry)
  rw [h] at hmem
  cases hmem

theorem removeAll_eq_self {m : List (κ × β)} {names : List κ}
    (h : ∀ name ∈ names, getAll m name = []) : removeAll m names = m := by
  induction names with
  | nil => rfl
  | cons name names ih =>
    rw [removeAll, List.foldl_cons, remove_eq_self (h name List.mem_cons_self)]
    exact ih fun other hother => h other (List.mem_cons_of_mem name hother)

end FieldMap
