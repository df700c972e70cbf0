import Mathlib.Data.List.Forall2
import Mathlib.Tactic.Common

/-
  Items cut out of a stream that arrives in pieces.

  A `Splitter` says what is at the front of a buffer: nothing whole yet, an item, or
  a fault. Its laws are that more input behind a whole item or a fault changes
  neither, and that an item takes room. A receiver appends each piece to what it has
  kept, takes every whole item off and keeps the rest.

  1. `drain`, `feed`: the receiver, for one piece and for many.
  2. `feed_written`: whatever the pieces, it has received the items whose encodings
     are in whole, and keeps what there is of the next one.
  3. `receive_incomplete`, `receive_fault`: what it has received of a stream that ends
     anyhow, and which of the items before a fault it has lost.
-/

namespace Framing

inductive Front (σ α ε : Type)
  | incomplete
  | item (a : α) (rest : List σ)
  | fault (e : ε) (rest : List σ)

/-- The same front with more input behind it. -/
def Front.append {σ α ε : Type} : Front σ α ε → List σ → Front σ α ε
  | .incomplete, _ => .incomplete
  | .item a rest, more => .item a (rest ++ more)
  | .fault e rest, more => .fault e (rest ++ more)

structure Splitter (σ α ε : Type) where
  front : List σ → Front σ α ε
  front_nil : front [] = .incomplete
  item_shorter : ∀ {xs a rest}, front xs = .item a rest → rest.length < xs.length
  front_append : ∀ {xs}, front xs ≠ .incomplete → ∀ more, front (xs ++ more) = (front xs).append more

namespace Splitter

variable {σ α ε : Type} (s : Splitter σ α ε)

theorem item_append {s : Splitter σ α ε} {xs rest : List σ} {a : α} (h : s.front xs = .item a rest)
    (more : List σ) : s.front (xs ++ more) = .item a (rest ++ more) := by
  have hwhole : s.front xs ≠ .incomplete := by
    rw [h]
    intro hnone
    cases hnone
  rw [s.front_append hwhole, h, Front.append]

theorem fault_append {s : Splitter σ α ε} {xs rest : List σ} {e : ε}
    (h : s.front xs = .fault e rest) (more : List σ) :
    s.front (xs ++ more) = .fault e (rest ++ more) := by
  have hwhole : s.front xs ≠ .incomplete := by
    rw [h]
    intro hnone
    cases hnone
  rw [s.front_append hwhole, h, Front.append]

/-! ## The receiver -/

/-- The whole items of a buffer and what is left of it. A fault takes the items
before it along. -/
def drain (xs : List σ) : Except ε (List α) × List σ :=
  match _ : s.front xs with
  | .incomplete => (.ok [], xs)
  | .fault e rest => (.error e, rest)
  | .item a rest => ((drain rest).1.map (a :: ·), (drain rest).2)
termination_by xs.length
decreasing_by all_goals exact s.item_shorter ‹_›

/-- A buffer and the pieces that come in after it. -/
def feed (xs : List σ) : List (List σ) → Except ε (List α) × List σ
  | [] => (.ok [], xs)
  | piece :: pieces =>
    match s.drain (xs ++ piece) with
    | (.error e, rest) => (.error e, rest)
    | (.ok items, rest) => ((feed rest pieces).1.map (items ++ ·), (feed rest pieces).2)

variable {s}

theorem drain_eq (xs : List σ) : s.drain xs =
    match s.front xs with
    | .incomplete => (.ok [], xs)
    | .fault e rest => (.error e, rest)
    | .item a rest => ((s.drain rest).1.map (a :: ·), (s.drain rest).2) := by
  rw [drain]
  split
  all_goals
    rename_i hfront
    rw [hfront]

/-! ## What a writer has written -/

variable (s) in
/-- At the front of whatever follows, these symbols are the item. -/
def Written (a : α) (xs : List σ) : Prop := ∀ rest, s.front (xs ++ rest) = .item a rest

/-- How far a receiver has come with items and their encodings: the first `n` are
in, and of the next there is less than the whole. -/
structure Progress (s : Splitter σ α ε) (items : List α) (encoded : List (List σ)) (xs : List σ)
    (got : Except ε (List α) × List σ) (n : Nat) : Prop where
  items : got.1 = .ok (items.take n)
  kept : xs = (encoded.take n).flatten ++ got.2
  incomplete : s.front got.2 = .incomplete

/-- **A buffer that begins a stream of items gives those that are in it whole.** -/
theorem drain_written {items : List α} {encoded : List (List σ)}
    (hwritten : List.Forall₂ s.Written items encoded) {xs ys : List σ}
    (h : xs ++ ys = encoded.flatten) : ∃ n, Progress s items encoded xs (s.drain xs) n := by
  induction hwritten generalizing xs with
  | nil =>
    obtain ⟨rfl, -⟩ := List.append_eq_nil_iff.mp h
    rw [drain_eq, s.front_nil]
    exact ⟨0, ⟨rfl, rfl, s.front_nil⟩⟩
  | @cons a bytes items encoded hfirst _ ih =>
    rw [List.flatten_cons] at h
    rw [drain_eq]
    cases hfront : s.front xs with
    | incomplete => exact ⟨0, ⟨rfl, rfl, hfront⟩⟩
    | fault e rest =>
      have hwhole := fault_append hfront ys
      rw [h, hfirst] at hwhole
      cases hwhole
    | item a' rest =>
      have hwhole := item_append hfront ys
      rw [h, hfirst] at hwhole
      obtain ⟨rfl, hrest⟩ := Front.item.inj hwhole
      obtain ⟨n, hitems, hkept, hincomplete⟩ := ih hrest.symm
      have hxs : xs = bytes ++ rest := List.append_cancel_right
        (h.trans (by rw [hrest, List.append_assoc]))
      refine ⟨n + 1, ⟨?_, ?_, hincomplete⟩⟩
      · show (s.drain rest).1.map (a :: ·) = _
        rw [hitems]
        rfl
      · show xs = (bytes :: encoded.take n).flatten ++ (s.drain rest).2
        rw [hxs, List.flatten_cons, List.append_assoc, ← hkept]

/-- **So do the pieces of one, one after the other.** -/
theorem feed_written {items : List α} {encoded : List (List σ)}
    (hwritten : List.Forall₂ s.Written items encoded) {pieces : List (List σ)} {xs ys : List σ}
    (hxs : s.front xs = .incomplete) (h : xs ++ pieces.flatten ++ ys = encoded.flatten) :
    ∃ n, Progress s items encoded (xs ++ pieces.flatten) (s.feed xs pieces) n := by
  induction pieces generalizing items encoded xs with
  | nil => exact ⟨0, ⟨rfl, List.append_nil _, hxs⟩⟩
  | cons piece pieces ih =>
    rw [List.flatten_cons, ← List.append_assoc] at h
    obtain ⟨n, hprogress⟩ := drain_written hwritten ((List.append_assoc ..).symm.trans h)
    rcases hdrain : s.drain (xs ++ piece) with ⟨got, rest⟩
    rw [hdrain] at hprogress
    obtain ⟨rfl, hkept, hincomplete⟩ := hprogress
    have hrest : rest ++ pieces.flatten ++ ys = (encoded.drop n).flatten := by
      rw [hkept, ← List.take_append_drop n encoded, List.flatten_append,
        List.take_append_drop] at h
      simp only [List.append_assoc] at h ⊢
      exact List.append_cancel_left h
    obtain ⟨m, hitems, hkept', hincomplete'⟩ := ih (List.forall₂_drop n hwritten) hincomplete hrest
    rw [feed, hdrain]
    refine ⟨n + m, ⟨?_, ?_, hincomplete'⟩⟩
    · show (s.feed rest pieces).1.map (items.take n ++ ·) = _
      rw [hitems, List.take_add]
      rfl
    · show _ = _ ++ (s.feed rest pieces).2
      rw [List.flatten_cons, ← List.append_assoc, hkept, List.append_assoc, hkept', List.take_add,
        List.flatten_append, List.append_assoc]

/-- All of it is received, and nothing kept, when no more is to come. -/
theorem Progress.complete {items : List α} {encoded : List (List σ)}
    (hwritten : List.Forall₂ s.Written items encoded) {xs : List σ}
    {got : Except ε (List α) × List σ} {n : Nat} (h : Progress s items encoded xs got n)
    (hxs : xs = encoded.flatten) : got = (.ok items, []) := by
  obtain ⟨hitems, hkept, hincomplete⟩ := h
  rw [hxs, ← List.take_append_drop n encoded, List.flatten_append, List.take_append_drop] at hkept
  have hrest := List.append_cancel_left hkept
  have hmore := List.forall₂_drop n hwritten
  cases hitems' : items.drop n with
  | nil =>
    rw [hitems', List.forall₂_nil_left_iff] at hmore
    rw [hmore] at hrest
    refine Prod.ext (hitems.trans ?_) hrest.symm
    rw [List.take_of_length_le (List.drop_eq_nil_iff.mp hitems')]
  | cons a more =>
    rw [hitems', List.forall₂_cons_left_iff] at hmore
    obtain ⟨bytes, rest, hfirst, -, hencoded⟩ := hmore
    rw [hencoded, List.flatten_cons] at hrest
    rw [← hrest, hfirst] at hincomplete
    cases hincomplete

/-- What is kept is less than the next item's encoding. -/
theorem Progress.kept_lt {items : List α} {encoded : List (List σ)}
    (hwritten : List.Forall₂ s.Written items encoded) {xs ys : List σ}
    {got : Except ε (List α) × List σ} {n : Nat} (h : Progress s items encoded xs got n)
    (hxs : xs ++ ys = encoded.flatten) {bytes : List σ} (hbytes : encoded[n]? = some bytes) :
    got.2.length < bytes.length := by
  obtain ⟨-, hkept, hincomplete⟩ := h
  refine Nat.lt_of_not_le fun hle => ?_
  obtain ⟨hn, hget⟩ := List.getElem?_eq_some_iff.mp hbytes
  have hmore := List.forall₂_drop n hwritten
  rw [List.drop_eq_getElem_cons hn, hget, List.forall₂_cons_right_iff] at hmore
  obtain ⟨a, items', hnext, -, -⟩ := hmore
  have hrest : got.2 ++ ys = bytes ++ (encoded.drop (n + 1)).flatten := by
    rw [hkept, ← List.take_append_drop n encoded, List.flatten_append, List.take_append_drop,
      List.append_assoc] at hxs
    rw [List.append_cancel_left hxs, List.drop_eq_getElem_cons hn, hget, List.flatten_cons]
  have hfront : got.2 = bytes ++ got.2.drop bytes.length := by
    have htake := congrArg (List.take bytes.length) hrest
    rw [List.take_append_of_le_length hle, List.take_left] at htake
    conv_lhs => rw [← List.take_append_drop bytes.length got.2, htake]
  rw [hfront, hnext] at hincomplete
  cases hincomplete

/-! ## Any stream, with a fault or without -/

variable (s) in
/-- The items are at the front of the buffer, one after the other, and then the tail. -/
inductive Cut : List σ → List α → List σ → Prop
  | nil (xs : List σ) : Cut xs [] xs
  | cons {xs rest tail : List σ} {a : α} {items : List α} (h : s.front xs = .item a rest)
      (hrest : Cut rest items tail) : Cut xs (a :: items) tail

variable (s) in
/-- No item is at the front. -/
def Ends (xs : List σ) : Prop := ∀ a rest, s.front xs ≠ .item a rest

theorem ends_incomplete {xs : List σ} (h : s.front xs = .incomplete) : s.Ends xs := by
  intro a rest hitem
  rw [h] at hitem
  cases hitem

theorem ends_fault {xs rest : List σ} {e : ε} (h : s.front xs = .fault e rest) : s.Ends xs := by
  intro a rest' hitem
  rw [h] at hitem
  cases hitem

/-- Every stream is some items and what no item is at the front of. -/
theorem exists_cut (s : Splitter σ α ε) (xs : List σ) :
    ∃ items tail, s.Cut xs items tail ∧ s.Ends tail := by
  induction hn : xs.length using Nat.strongRecOn generalizing xs with
  | _ n ih =>
    cases hfront : s.front xs with
    | incomplete => exact ⟨[], xs, .nil xs, ends_incomplete hfront⟩
    | fault e rest => exact ⟨[], xs, .nil xs, ends_fault hfront⟩
    | item a rest =>
      obtain ⟨items, tail, hcut, hends⟩ := ih rest.length (hn ▸ s.item_shorter hfront) rest rfl
      exact ⟨a :: items, tail, .cons hfront hcut, hends⟩

namespace Cut

variable {xs mid tail : List σ} {items items' : List α}

theorem append (h : s.Cut xs items tail) (more : List σ) :
    s.Cut (xs ++ more) items (tail ++ more) := by
  induction h with
  | nil xs => exact .nil _
  | cons hfront _ ih => exact .cons (item_append hfront more) ih

theorem trans (h : s.Cut xs items mid) (h' : s.Cut mid items' tail) :
    s.Cut xs (items ++ items') tail := by
  induction h with
  | nil xs => exact h'
  | cons hfront _ ih => exact .cons hfront (ih h')

/-- A cut to the end goes on from where a shorter one stops. -/
theorem rest (h : s.Cut xs items mid) (hall : s.Cut xs items' tail) (hends : s.Ends tail) :
    ∃ more, items' = items ++ more ∧ s.Cut mid more tail := by
  induction h generalizing items' with
  | nil xs => exact ⟨items', rfl, hall⟩
  | cons hfront _ ih =>
    cases hall with
    | nil => exact absurd hfront (hends _ _)
    | cons hfront' hrest =>
      rw [hfront] at hfront'
      obtain ⟨rfl, rfl⟩ := Front.item.inj hfront'
      obtain ⟨more, rfl, hmore⟩ := ih hrest
      exact ⟨more, rfl, hmore⟩

theorem of_ends (h : s.Cut xs items tail) (hends : s.Ends xs) : items = [] ∧ tail = xs := by
  cases h with
  | nil => exact ⟨rfl, rfl⟩
  | cons hfront => exact absurd hfront (hends _ _)

/-- There is one cut to the end. -/
theorem unique {tail' : List σ} (h : s.Cut xs items tail) (hends : s.Ends tail)
    (h' : s.Cut xs items' tail') (hends' : s.Ends tail') : items = items' ∧ tail = tail' := by
  obtain ⟨more, rfl, hmore⟩ := h.rest h' hends'
  obtain ⟨rfl, rfl⟩ := hmore.of_ends hends
  exact ⟨(List.append_nil _).symm, rfl⟩

theorem drain_incomplete (h : s.Cut xs items tail) (hfront : s.front tail = .incomplete) :
    s.drain xs = (.ok items, tail) := by
  induction h with
  | nil xs => rw [drain_eq, hfront]
  | cons hitem _ ih =>
    rw [drain_eq, hitem]
    simp only [ih hfront, Except.map]

theorem drain_fault (h : s.Cut xs items tail) {e : ε} {rest : List σ}
    (hfront : s.front tail = .fault e rest) : s.drain xs = (.error e, rest) := by
  induction h with
  | nil xs => rw [drain_eq, hfront]
  | cons hitem _ ih =>
    rw [drain_eq, hitem]
    simp only [ih hfront, Except.map]

end Cut

variable (s) in
/-- What a receiver has when it stops: the items of the pieces before a fault, and the
fault. Those that came with it are not among them. -/
def receive (xs : List σ) : List (List σ) → List α × Option ε
  | [] => ([], none)
  | piece :: pieces =>
    match s.drain (xs ++ piece) with
    | (.error e, _) => ([], some e)
    | (.ok items, rest) => (items ++ (receive rest pieces).1, (receive rest pieces).2)

variable (s) in
/-- A piece ends where the items are in and what follows them is not, as far as can be
told. -/
def Boundary (xs : List σ) (pieces : List (List σ)) (items : List α) : Prop :=
  ∃ before after, pieces = before ++ after ∧
    ∃ part, s.Cut (xs ++ before.flatten) items part ∧ s.front part = .incomplete

/-- A piece that is received leaves the rest of the boundary to the others. -/
theorem boundary_cons {xs piece kept : List σ} {pieces : List (List σ)} {items more : List α}
    (hxs : s.front xs = .incomplete) (hcut : s.Cut (xs ++ piece) items kept)
    (hkept : s.front kept = .incomplete) :
    s.Boundary xs (piece :: pieces) (items ++ more) ↔ s.Boundary kept pieces more := by
  constructor
  · rintro ⟨before, after, hpieces, part, hpart, hincomplete⟩
    cases before with
    | nil =>
      -- no items are in before the first piece
      rw [List.flatten_nil, List.append_nil] at hpart
      obtain ⟨hnone, -⟩ := hpart.of_ends (ends_incomplete hxs)
      obtain ⟨-, rfl⟩ := List.append_eq_nil_iff.mp hnone
      exact ⟨[], pieces, rfl, kept, by simpa using .nil kept, hkept⟩
    | cons first before =>
      obtain ⟨rfl, rfl⟩ := List.cons.inj hpieces
      rw [List.flatten_cons, ← List.append_assoc] at hpart
      obtain ⟨more', heq, hmore⟩ :=
        (hcut.append before.flatten).rest hpart (ends_incomplete hincomplete)
      cases List.append_cancel_left heq
      exact ⟨before, after, rfl, part, hmore, hincomplete⟩
  · rintro ⟨before, after, rfl, part, hpart, hincomplete⟩
    refine ⟨piece :: before, after, rfl, part, ?_, hincomplete⟩
    rw [List.flatten_cons, ← List.append_assoc]
    exact (hcut.append before.flatten).trans hpart

/-- **Without a fault** a receiver has every item of the stream. -/
theorem receive_incomplete {xs tail : List σ} {pieces : List (List σ)} {items : List α}
    (hxs : s.front xs = .incomplete) (hcut : s.Cut (xs ++ pieces.flatten) items tail)
    (htail : s.front tail = .incomplete) : s.receive xs pieces = (items, none) := by
  induction pieces generalizing xs items with
  | nil =>
    rw [List.flatten_nil, List.append_nil] at hcut
    obtain ⟨rfl, -⟩ := hcut.of_ends (ends_incomplete hxs)
    rfl
  | cons piece pieces ih =>
    rw [List.flatten_cons, ← List.append_assoc] at hcut
    obtain ⟨first, kept, hfirst, hends⟩ := s.exists_cut (xs ++ piece)
    obtain ⟨more, rfl, hmore⟩ := (hfirst.append pieces.flatten).rest hcut (ends_incomplete htail)
    cases hkept : s.front kept with
    | item a rest => exact absurd hkept (hends a rest)
    | fault e rest =>
      -- more input does not mend a fault
      have hfault := fault_append hkept pieces.flatten
      obtain ⟨-, rfl⟩ := hmore.of_ends (ends_fault hfault)
      rw [htail] at hfault
      cases hfault
    | incomplete =>
      rw [receive, hfirst.drain_incomplete hkept]
      simp only [ih hkept hmore]

/-- **With a fault** it stops at the fault, and has the items before it if and only if
some piece ends between them and the fault. -/
theorem receive_fault {xs tail rest : List σ} {pieces : List (List σ)} {items : List α} {e : ε}
    (hxs : s.front xs = .incomplete) (hcut : s.Cut (xs ++ pieces.flatten) items tail)
    (htail : s.front tail = .fault e rest) : (s.receive xs pieces).2 = some e ∧
      ((s.receive xs pieces).1 = items ↔ s.Boundary xs pieces items) := by
  induction pieces generalizing xs items with
  | nil =>
    rw [List.flatten_nil, List.append_nil] at hcut
    obtain ⟨-, rfl⟩ := hcut.of_ends (ends_incomplete hxs)
    rw [hxs] at htail
    cases htail
  | cons piece pieces ih =>
    rw [List.flatten_cons, ← List.append_assoc] at hcut
    obtain ⟨first, kept, hfirst, hends⟩ := s.exists_cut (xs ++ piece)
    cases hkept : s.front kept with
    | item a rest => exact absurd hkept (hends a rest)
    | fault e' rest' =>
      have hfault := fault_append hkept pieces.flatten
      obtain ⟨rfl, rfl⟩ :=
        hcut.unique (ends_fault htail) (hfirst.append pieces.flatten) (ends_fault hfault)
      rw [htail] at hfault
      cases hfault
      rw [receive, hfirst.drain_fault hkept]
      refine ⟨rfl, ?_, ?_⟩
      · rintro rfl
        exact ⟨[], piece :: pieces, rfl, xs, by simpa using .nil xs, hxs⟩
      · rintro ⟨before, after, hpieces, part, hpart, hincomplete⟩
        cases before with
        | nil =>
          rw [List.flatten_nil, List.append_nil] at hpart
          exact (hpart.of_ends (ends_incomplete hxs)).1.symm
        | cons first' before =>
          obtain ⟨rfl, rfl⟩ := List.cons.inj hpieces
          rw [List.flatten_cons, ← List.append_assoc] at hpart
          have hfault' := fault_append hkept before.flatten
          obtain ⟨-, rfl⟩ := hpart.unique (ends_incomplete hincomplete)
            (hfirst.append before.flatten) (ends_fault hfault')
          rw [hincomplete] at hfault'
          cases hfault'
    | incomplete =>
      obtain ⟨more, rfl, hmore⟩ := (hfirst.append pieces.flatten).rest hcut (ends_fault htail)
      obtain ⟨hfault, hiff⟩ := ih hkept hmore
      rw [receive, hfirst.drain_incomplete hkept]
      refine ⟨hfault, ?_⟩
      rw [boundary_cons hxs hfirst hkept, ← hiff]
      exact List.append_right_inj first

end Splitter
end Framing
