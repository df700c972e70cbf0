import OngrokRelay.Transition

/-
  Interleavings of tasks over shared state.

  A task is a value that says where its program is and what its locals hold. One
  call of `step` runs it through one atomic section: what it does under one
  lock, or one call into something outside. `ε` is what the environment decides
  in that section. A pool is the shared state with the tasks, and an event
  either runs a section of one task or starts a task; a finished task stays in
  the pool and its sections change nothing.

  1. `advance_cases`: all that running one section can do to a pool.
  2. `next_shared`: what every section preserves of the shared state, every
     event preserves.
  3. `solo`, `alone`: a task that nothing interrupts. `solo_rel`: what its sections
     leave in relation, it does. `solo_exits`: one that runs another inside it
     comes, alone, to where the inner one alone comes to.
  4. `Covered.set`: the proof rule for obligations. Every key is in order or some
     task still owes the section that puts it in order; when no task owes
     anything, every key is in order.
-/

namespace Interleaving

structure Pool (σ τ : Type*) where
  shared : σ
  tasks : List τ

inductive Event (ε τ : Type*)
  | run (i : Nat) (env : ε)
  | spawn (t : τ)

variable {σ τ ε : Type*} (step : ε → σ → τ → σ × τ)

/-- Task `i` runs one atomic section; no task, no effect. -/
def Pool.advance (p : Pool σ τ) (i : Nat) (env : ε) : Pool σ τ :=
  match p.tasks[i]? with
  | some t => ⟨(step env p.shared t).1, p.tasks.set i (step env p.shared t).2⟩
  | none => p

def Pool.next (p : Pool σ τ) : Event ε τ → Pool σ τ
  | .run i env => p.advance step i env
  | .spawn t => { p with tasks := p.tasks ++ [t] }

/-- The other tasks of the pool. -/
def Pool.others (p : Pool σ τ) (i : Nat) : List τ := p.tasks.eraseIdx i

theorem Pool.mem_others {p : Pool σ τ} {i : Nat} {u : τ} :
    u ∈ p.others i ↔ ∃ j, j ≠ i ∧ p.tasks[j]? = some u := List.mem_eraseIdx_iff_getElem?

/-- A task run alone: one section after another, the environment constant. -/
def solo (env : ε) : Nat → σ × τ → σ × τ
  | 0, c => c
  | n + 1, c => solo env n (step env c.1 c.2)

@[simp] theorem solo_zero (env : ε) (c : σ × τ) : solo step env 0 c = c := rfl

@[simp] theorem solo_succ (env : ε) (n : Nat) (s : σ) (t : τ) :
    solo step env (n + 1) (s, t) = solo step env n (step env s t) := rfl

theorem solo_add (env : ε) (m n : Nat) (c : σ × τ) :
    solo step env (m + n) c = solo step env n (solo step env m c) := by
  induction m generalizing c with
  | zero => rw [Nat.zero_add]; rfl
  | succ m ih => rw [Nat.add_right_comm]; exact ih _

/-- What every section leaves in relation, a task run alone leaves in relation. -/
theorem solo_rel {R : σ → σ → Prop} (hrefl : ∀ s, R s s)
    (htrans : ∀ a b c, R a b → R b c → R a c) (env : ε)
    (hstep : ∀ s t, R s (step env s t).1) (n : Nat) (s : σ) (t : τ) :
    R s (solo step env n (s, t)).1 := by
  induction n generalizing s t with
  | zero => exact hrefl s
  | succ n ih => exact htrans s _ _ (hstep s t) (ih (step env s t).1 (step env s t).2)

/-- A task run alone through sections with environments of their own. -/
def alone (c : σ × τ) (envs : List ε) : σ × τ :=
  Transition.run (fun c env => step env c.1 c.2) c envs

@[simp] theorem alone_nil (c : σ × τ) : alone step c [] = c := rfl

@[simp] theorem alone_cons (s : σ) (t : τ) (env : ε) (envs : List ε) :
    alone step (s, t) (env :: envs) = alone step (step env s t) envs := rfl

theorem alone_append (c : σ × τ) (envs envs' : List ε) :
    alone step c (envs ++ envs') = alone step (alone step c envs) envs' :=
  Transition.run_append _ c envs envs'

theorem alone_replicate (env : ε) (n : Nat) (c : σ × τ) :
    alone step c (List.replicate n env) = solo step env n c := by
  induction n generalizing c with
  | zero => rfl
  | succ n ih => exact ih _

variable {step}

/-- **A task inside a task.** If the outer task runs the inner one section by
section and leaves it by `exit` in the section in which it is done, then alone
it comes to where the inner task alone comes to. -/
theorem solo_exits {τ' : Type*} (step : ε → σ → τ → σ × τ) (step' : ε → σ → τ' → σ × τ')
    (wrap exit : τ → τ') (done : τ → Bool) (env : ε)
    (hstep : ∀ s t, done t = false → step' env s (wrap t) = ((step env s t).1,
      if done (step env s t).2 then exit (step env s t).2 else wrap (step env s t).2))
    (hdone : ∀ s t, done t = true → step env s t = (s, t)) (n : Nat) :
    ∀ s t, done t = false → done (solo step env n (s, t)).2 = true →
      ∃ m, solo step' env m (s, wrap t) =
        ((solo step env n (s, t)).1, exit (solo step env n (s, t)).2) := by
  have hstay (n : Nat) : ∀ s t, done t = true → solo step env n (s, t) = (s, t) := by
    induction n with
    | zero => intro s t _; rfl
    | succ n ih => intro s t ht; rw [solo_succ, hdone s t ht]; exact ih s t ht
  -- induction on the sections of the inner task, of which the last one exits
  induction n with
  | zero => intro s t ht hend; rw [solo_zero, ht] at hend; cases hend
  | succ n ih =>
    intro s t ht hend
    cases hnext : done (step env s t).2 with
    | true =>
      refine ⟨1, ?_⟩
      rw [solo_succ, solo_zero, hstep s t ht, if_pos hnext, solo_succ]
      rw [show step env s t = ((step env s t).1, (step env s t).2) from rfl, hstay n _ _ hnext]
    | false =>
      obtain ⟨m, hm⟩ := ih (step env s t).1 (step env s t).2 hnext hend
      refine ⟨m + 1, ?_⟩
      rw [solo_succ, hstep s t ht, if_neg (by rw [hnext]; decide)]
      exact hm

/-- What a list of tasks holds after one of them has moved on. -/
theorem getElem?_set_some {ts : List τ} {i j : Nat} {t' u : τ} (h : (ts.set i t')[j]? = some u) :
    (i = j ∧ u = t') ∨ (i ≠ j ∧ ts[j]? = some u) := by
  by_cases hij : i = j
  · subst hij
    have hlt : i < (ts.set i t').length := (List.getElem?_eq_some_iff.mp h).1
    rw [List.length_set] at hlt
    rw [List.getElem?_set_self hlt] at h
    exact .inl ⟨rfl, (Option.some.inj h).symm⟩
  · rw [List.getElem?_set_ne hij] at h
    exact .inr ⟨hij, h⟩

/-- What a list of tasks holds after one has joined. -/
theorem getElem?_append_some {ts : List τ} {j : Nat} {t u : τ} (h : (ts ++ [t])[j]? = some u) :
    ts[j]? = some u ∨ (j = ts.length ∧ u = t) := by
  rw [List.getElem?_append] at h
  split at h
  · exact .inl h
  · right
    rename_i hlt
    cases hsub : j - ts.length with
    | zero =>
      rw [hsub] at h
      exact ⟨by omega, (Option.some.inj h).symm⟩
    | succ n =>
      rw [hsub] at h
      cases h

/-- What a list of tasks holds after one of them has changed. -/
theorem mem_modify {ts : List τ} {i : Nat} {f : τ → τ} {u : τ} (h : u ∈ ts.modify i f) :
    u ∈ ts ∨ ∃ t ∈ ts, u = f t := by
  obtain ⟨j, hj⟩ := List.mem_iff_getElem?.mp h
  rw [List.getElem?_modify] at hj
  obtain ⟨t, ht, hu⟩ := Option.map_eq_some_iff.mp hj
  split at hu
  · exact .inr ⟨t, List.mem_of_getElem? ht, hu.symm⟩
  · exact .inl (hu ▸ List.mem_of_getElem? ht)

theorem Pool.advance_eq {p : Pool σ τ} {i : Nat} {t : τ} (env : ε) (h : p.tasks[i]? = some t) :
    p.advance step i env = ⟨(step env p.shared t).1, p.tasks.set i (step env p.shared t).2⟩ := by
  simp only [Pool.advance, h]

/-- **Inversion of one event.** Either nothing happens, or some task of the pool
runs one section, or a task is added. -/
theorem Pool.advance_cases (step : ε → σ → τ → σ × τ) (p : Pool σ τ) (i : Nat) (env : ε) :
    (p.tasks[i]? = none ∧ p.advance step i env = p) ∨
    ∃ t, p.tasks[i]? = some t ∧
      p.advance step i env = ⟨(step env p.shared t).1, p.tasks.set i (step env p.shared t).2⟩ := by
  cases h : p.tasks[i]? with
  | none => exact .inl ⟨rfl, by simp only [Pool.advance, h]⟩
  | some t => exact .inr ⟨t, rfl, p.advance_eq env h⟩

/-- The sections of one task in a row are those of the task alone. -/
theorem Pool.run_solo (step : ε → σ → τ → σ × τ) (env : ε) {i : Nat} (n : Nat) :
    ∀ {p : Pool σ τ} {t : τ}, p.tasks[i]? = some t →
      Transition.run (Pool.next step) p (List.replicate n (.run i env)) =
        ⟨(solo step env n (p.shared, t)).1, p.tasks.set i (solo step env n (p.shared, t)).2⟩ := by
  induction n with
  | zero =>
    intro p t ht
    obtain ⟨hlt, rfl⟩ := List.getElem?_eq_some_iff.mp ht
    simp only [List.replicate_zero, Transition.run_nil, solo_zero, List.set_getElem_self]
  | succ n ih =>
    intro p t ht
    have hlt : i < p.tasks.length := (List.getElem?_eq_some_iff.mp ht).1
    have hnext := @Pool.advance_eq _ _ _ step p i t env ht
    rw [List.replicate_succ, Transition.run_cons, Pool.next, hnext,
      ih (List.getElem?_set_self hlt), List.set_set, solo_succ]

/-- What every section preserves of the shared state, every event preserves. -/
theorem next_shared {I : σ → Prop} (hstep : ∀ env s t, I s → I (step env s t).1)
    (p : Pool σ τ) (e : Event ε τ) (h : I p.shared) : I (p.next step e).shared := by
  cases e with
  | spawn t => exact h
  | run i env =>
    rcases p.advance_cases step i env with ⟨_, he⟩ | ⟨t, _, he⟩
    · simpa only [Pool.next, he] using h
    · simpa only [Pool.next, he] using hstep env p.shared t h

/-- Every key is in order, or some task still has to put it in order. -/
def Covered {κ : Type*} (ok : κ → Prop) (owes : τ → κ → Prop) (ts : List τ) : Prop :=
  ∀ k, ok k ∨ ∃ t ∈ ts, owes t k

/-- When no task owes anything, every key is in order. -/
theorem Covered.settled {κ : Type*} {ok : κ → Prop} {owes : τ → κ → Prop} {ts : List τ}
    (h : Covered ok owes ts) (hdone : ∀ t ∈ ts, ∀ k, ¬owes t k) (k : κ) : ok k := by
  rcases h k with h | ⟨t, ht, howes⟩
  · exact h
  · exact absurd howes (hdone t ht k)

/-- **Obligations.** When task `i` moves on, what was in order or owed by it must
be in order, owed by its new state or owed by another task, and what another
task owed it must still owe. -/
theorem Covered.set {κ : Type*} {ok ok' : κ → Prop} {owes owes' : τ → κ → Prop} {ts : List τ}
    {i : Nat} {t t' : τ} (h : Covered ok owes ts) (ht : ts[i]? = some t)
    (own : ∀ k, ok k ∨ owes t k →
      ok' k ∨ owes' t' k ∨ ∃ j u, j ≠ i ∧ ts[j]? = some u ∧ owes' u k)
    (other : ∀ k j u, j ≠ i → ts[j]? = some u → owes u k → ok' k ∨ owes' t' k ∨ owes' u k) :
    Covered ok' owes' (ts.set i t') := by
  have hlt : i < ts.length := (List.getElem?_eq_some_iff.mp ht).1
  have hself : t' ∈ ts.set i t' := List.mem_iff_getElem?.mpr ⟨i, List.getElem?_set_self hlt⟩
  have hother {j : Nat} {u : τ} (hij : j ≠ i) (hj : ts[j]? = some u) : u ∈ ts.set i t' :=
    List.mem_iff_getElem?.mpr ⟨j, by rw [List.getElem?_set_ne (Ne.symm hij), hj]⟩
  have howned (k : κ) (hk : ok k ∨ owes t k) : ok' k ∨ ∃ u ∈ ts.set i t', owes' u k := by
    rcases own k hk with h | h | ⟨j, u, hij, hj, h⟩
    · exact .inl h
    · exact .inr ⟨t', hself, h⟩
    · exact .inr ⟨u, hother hij hj, h⟩
  intro k
  rcases h k with hk | ⟨u, hu, howes⟩
  · exact howned k (.inl hk)
  · -- the debt was that of the task that moved, or of one that stands where it stood
    obtain ⟨j, hj⟩ := List.mem_iff_getElem?.mp hu
    by_cases hij : j = i
    · subst hij
      rw [ht] at hj
      cases hj
      exact howned k (.inr howes)
    · rcases other k j u hij hj howes with h | h | h
      · exact .inl h
      · exact .inr ⟨t', hself, h⟩
      · exact .inr ⟨u, hother hij hj, h⟩

end Interleaving
