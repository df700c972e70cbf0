import Mathlib.Data.List.Chain
import Mathlib.Tactic.Common

/-
  A row of cells through which items are handed on in order.

  The first cell is the exit, the last one the entry. An item moves from a cell to the
  next one towards the exit; a cell that is ended takes nothing more. A cell is ended
  once what feeds it is ended and empty, or because it has been cut off.

  1. `Sound`: the row holds what was put in, in order, and an end follows an end.
     Every move keeps it: `Sound.put`, `Sound.hand`, `Sound.finish`, `Sound.cut`.
  2. `Sound.arrived`, `Sound.complete`: what has arrived at the exit is a prefix of what
     was put in, and all of it when the exit is ended and no cell was cut off.
  3. `potential_hand`, `potential_finish`: a row without new items comes to rest.
-/

namespace Conveyor

variable {α : Type*}

/-- A place that holds items in order. -/
structure Cell (α : Type*) where
  items : List α
  ended : Bool
  cut : Bool

/-- What a row holds, the items nearest to its exit first. -/
def held (row : List (Cell α)) : List α := row.flatMap Cell.items

/-- What an end of the first cell says of the one that feeds it. -/
def Follows (c d : Cell α) : Prop := c.ended = true → c.cut = true ∨ d.ended = true ∧ d.items = []

structure Sound (sent : List α) (row : List (Cell α)) : Prop where
  held : held row = sent
  follows : row.IsChain Follows

/-- An upper bound on the moves of a row into which nothing more is put: every item moves
through every boundary before it, every cell is ended once. -/
def potential : List (Cell α) → Nat
  | [] => 0
  | c :: row => (if c.ended then 0 else 1) + (held row).length + potential row

@[simp] theorem held_nil : held ([] : List (Cell α)) = [] := rfl

@[simp] theorem held_cons (c : Cell α) (row : List (Cell α)) :
    held (c :: row) = c.items ++ held row := rfl

@[simp] theorem held_append (front back : List (Cell α)) :
    held (front ++ back) = held front ++ held back := List.flatMap_append

@[simp] theorem potential_nil : potential ([] : List (Cell α)) = 0 := rfl

@[simp] theorem potential_cons (c : Cell α) (row : List (Cell α)) :
    potential (c :: row) = (if c.ended then 0 else 1) + (held row).length + potential row := rfl

/-! ## Replacing cells -/

/-- A cell may be replaced when what its neighbours say of it still holds. -/
theorem follows_replace {front back : List (Cell α)} {c c' : Cell α}
    (h : (front ++ c :: back).IsChain Follows) (hbefore : ∀ b, Follows b c → Follows b c')
    (hafter : ∀ d ∈ back.head?, Follows c d → Follows c' d) :
    (front ++ c' :: back).IsChain Follows := by
  rw [List.isChain_split] at h ⊢
  obtain ⟨hfront, hback⟩ := h
  refine ⟨?_, ?_⟩
  · rw [List.isChain_append] at hfront ⊢
    obtain ⟨hf, -, hlast⟩ := hfront
    refine ⟨hf, List.isChain_singleton c', fun b hb d hd => ?_⟩
    obtain rfl := Option.mem_some_iff.mp hd
    exact hbefore b (hlast b hb c (Option.mem_some_iff.mpr rfl))
  · cases back with
    | nil => exact List.isChain_singleton c'
    | cons d back =>
      rw [List.isChain_cons_cons] at hback ⊢
      exact ⟨hafter d (Option.mem_some_iff.mpr rfl) hback.1, hback.2⟩

/-- Nothing has to be said of a cell that is not ended but to the cell before it. -/
theorem follows_of_open {b c : Cell α} (h : Follows b c) (hopen : c.ended = false) :
    b.ended = true → b.cut = true := by
  intro hb
  rcases h hb with hcut | ⟨hended, -⟩
  · exact hcut
  · rw [hopen] at hended
    cases hended

/-! ## The moves -/

variable {sent : List α} {back : List (Cell α)} {c d : Cell α} (front : List (Cell α))

/-- New items are put in at the entry. -/
theorem Sound.put (h : Sound sent (front ++ [c])) (hopen : c.ended = false) (xs : List α) :
    Sound (sent ++ xs) (front ++ [{ c with items := c.items ++ xs }]) := by
  refine ⟨?_, follows_replace h.follows (fun b hb hended => .inl (follows_of_open hb hopen hended))
    fun d _ hd hended => hd hended⟩
  have hheld := h.held
  simp only [held_append, held_cons, held_nil, List.append_nil] at hheld ⊢
  rw [← hheld, List.append_assoc]

/-- The first `n` items of a cell go on to the next one. -/
theorem Sound.hand (h : Sound sent (front ++ c :: d :: back)) (hopen : c.ended = false) (n : Nat) :
    Sound sent (front ++ { c with items := c.items ++ d.items.take n } ::
      { d with items := d.items.drop n } :: back) := by
  refine ⟨?_, ?_⟩
  · have hheld := h.held
    simp only [held_append, held_cons] at hheld ⊢
    rw [← hheld, List.append_assoc, ← List.append_assoc (d.items.take n), List.take_append_drop]
  · have hc : (front ++ { c with items := c.items ++ d.items.take n } :: d :: back).IsChain
        Follows :=
      follows_replace h.follows (fun b hb hended => .inl (follows_of_open hb hopen hended))
        fun e _ he hended => he hended
    rw [List.append_cons] at hc ⊢
    refine follows_replace hc (fun b hb hended => ?_) fun e _ he hended => he hended
    rcases hb hended with hcut | ⟨hd, hnil⟩
    · exact .inl hcut
    · exact .inr ⟨hd, by simp only [hnil, List.drop_nil]⟩

/-- A cell is ended when the cell behind it is, and is empty. -/
theorem Sound.finish (h : Sound sent (front ++ c :: d :: back))
    (hend : d.ended = true ∧ d.items = []) :
    Sound sent (front ++ { c with ended := true } :: d :: back) := by
  refine ⟨by simpa only [held_append, held_cons] using h.held, ?_⟩
  have hfollows := h.follows
  rw [List.isChain_append_cons_cons] at hfollows ⊢
  obtain ⟨hfront, -, hback⟩ := hfollows
  refine ⟨?_, fun _ => .inr hend, hback⟩
  exact follows_replace hfront (fun b hb hended => (hb hended).imp_right fun ⟨_, hnil⟩ => ⟨rfl, hnil⟩)
    fun e he => absurd he (by simp)

/-- The entry is ended at any time. -/
theorem Sound.close (h : Sound sent (front ++ [c])) :
    Sound sent (front ++ [{ c with ended := true }]) := by
  refine ⟨by simpa only [held_append, held_cons] using h.held, ?_⟩
  have hfollows := h.follows
  rw [List.isChain_append] at hfollows ⊢
  obtain ⟨hfront, -, hlast⟩ := hfollows
  refine ⟨hfront, List.isChain_singleton _, fun b hb e he => ?_⟩
  obtain rfl := Option.mem_some_iff.mp he
  exact fun hended => (hlast b hb c (Option.mem_some_iff.mpr rfl) hended).imp_right
    fun ⟨_, hnil⟩ => ⟨rfl, hnil⟩

/-- A cell is cut off from those behind it, ended or not. -/
theorem Sound.cut (h : Sound sent (front ++ c :: back)) (ended : Bool)
    (hended : c.ended = true → ended = true) :
    Sound sent (front ++ { c with ended := ended, cut := true } :: back) :=
  ⟨by simpa only [held_append, held_cons] using h.held,
    follows_replace h.follows
      (fun b hb hb' => (hb hb').imp_right fun ⟨hc, hnil⟩ => ⟨hended hc, hnil⟩)
      fun _ _ _ _ => .inl rfl⟩

/-! ## What arrives -/

/-- **Nothing is lost, doubled or reordered** on the way to the exit. -/
theorem Sound.arrived (h : Sound sent (d :: back)) : d.items <+: sent :=
  ⟨Conveyor.held back, h.held⟩

/-- Behind an ended cell no item is left, when no cell is cut off. -/
theorem held_of_ended (h : (d :: back).IsChain Follows) (hended : d.ended = true)
    (hcut : ∀ e ∈ d :: back, e.cut = false) :
    held back = [] ∧ ∀ e ∈ d :: back, e.ended = true := by
  induction back generalizing d with
  | nil => exact ⟨rfl, by simpa using hended⟩
  | cons e back ih =>
    rw [List.isChain_cons_cons] at h
    obtain ⟨hfollows, hback⟩ := h
    rcases hfollows hended with hd | ⟨he, hnil⟩
    · rw [hcut d List.mem_cons_self] at hd
      cases hd
    · obtain ⟨hheld, hall⟩ := ih hback he fun x hx => hcut x (List.mem_cons_of_mem d hx)
      refine ⟨by rw [held_cons, hnil, hheld]; rfl, fun x hx => ?_⟩
      rcases List.mem_cons.mp hx with rfl | hx
      · exact hended
      · exact hall x hx

/-- **An ended exit has everything**, or some cell was cut off. -/
theorem Sound.complete (h : Sound sent (d :: back)) (hended : d.ended = true)
    (hcut : ∀ e ∈ d :: back, e.cut = false) :
    d.items = sent ∧ ∀ e ∈ d :: back, e.ended = true := by
  obtain ⟨hheld, hall⟩ := held_of_ended h.follows hended hcut
  refine ⟨?_, hall⟩
  have hsent := h.held
  rwa [held_cons, hheld, List.append_nil] at hsent

/-! ## Coming to rest -/

theorem potential_append (back : List (Cell α)) :
    potential (front ++ back) =
      potential front + front.length * (held back).length + potential back := by
  induction front with
  | nil => simp
  | cons c front ih =>
    simp only [List.cons_append, potential_cons, ih, held_append, List.length_append,
      List.length_cons, Nat.add_mul]
    omega

/-- A move of at least one item lessens what is left to do. -/
theorem potential_hand (back : List (Cell α)) (c d : Cell α) {n : Nat} (hn : n ≠ 0)
    (hitems : d.items ≠ []) :
    potential (front ++ { c with items := c.items ++ d.items.take n } ::
        { d with items := d.items.drop n } :: back) <
      potential (front ++ c :: d :: back) := by
  have hpos := List.length_pos_iff.mpr hitems
  have hheld : (held ({ c with items := c.items ++ d.items.take n } ::
      { d with items := d.items.drop n } :: back)).length = (held (c :: d :: back)).length := by
    simp only [held_cons, List.length_append, List.length_take, List.length_drop]
    omega
  rw [potential_append, potential_append, hheld]
  simp only [potential_cons, held_cons, List.length_append, List.length_drop]
  omega

theorem potential_finish (back : List (Cell α)) (c : Cell α) (hopen : c.ended = false) :
    potential (front ++ { c with ended := true } :: back) < potential (front ++ c :: back) := by
  rw [potential_append, potential_append]
  simp only [potential_cons, held_cons, hopen, if_true, Bool.false_eq_true, if_false]
  omega

end Conveyor
