import OngrokRelay.ServiceTasks

/-
  Memory, disk and listeners under concurrent directory operations.

  Every operation changes the services map under its lock and only then calls
  the store and the task map, so until it does, it owes the store the value it
  left in memory and, after a removal, owes the listener its end. The map is
  in order at an id when its row and its listener agree with it.

  1. `step_effect`: one section does one of five things to the three
     structures and to what its task owes.
  2. `InOrder.step`: every id stays in order or owed for, as long as no store
     call writes a value memory has given up while nobody is left to write the
     current one, and no listener is opened for a service that is gone while
     nobody is left to close it.
  3. `quiescent_agrees`: under that condition memory, disk and listeners agree
     once every operation has returned.
  4. `patch_resurrects`: without it they do not. A patch whose store call comes
     after a deletion brings the deleted row back.
-/

namespace OngrokRelay

open Interleaving Transition

namespace ServiceTask

/-- What the next section writes to the services table, if it is a store call. -/
def storeCall : ServiceTask → Option (ServiceId × Option ServiceDefinition)
  | register _ (.put service) => some (service.serviceId, some service)
  | register _ (.deleteRow service) => some (service.serviceId, none)
  | unregister serviceId _ .deleteRow => some (serviceId, none)
  | delete serviceId (.deleteRow _) => some (serviceId, none)
  | patch _ (.put updated) => some (updated.serviceId, some updated)
  | _ => none

/-- What the task has yet to write to the services table. -/
def pendingWrite : ServiceTask → Option (ServiceId × Option ServiceDefinition)
  | delete serviceId (.abort _) => some (serviceId, none)
  | task => task.storeCall

/-- The listener the task has yet to close. -/
def pendingAbort : ServiceTask → Option ServiceId
  | unregister serviceId _ .deleteRow => some serviceId
  | unregister serviceId _ .event => some serviceId
  | unregister serviceId _ .abort => some serviceId
  | delete serviceId (.abort _) => some serviceId
  | _ => none

/-- The service whose listener the next section enters into the task map. -/
def opensListener : ServiceTask → Option ServiceId
  | register _ (.insertTask service _) => some service.serviceId
  | _ => none

/-- A registration whose calls all succeed is never about to roll back. -/
def Underway : ServiceTask → Prop
  | register _ (.put service) => service.protocol = .tcp → service.publicPort.isSome
  | register _ (.lookUp service) => service.publicPort.isSome
  | register _ (.rollBack _) => False
  | register _ (.deleteRow _) => False
  | _ => True

theorem underway_of_fresh {task : ServiceTask} (h : task.fresh) : task.Underway := by
  cases task with
  | register nodeId pc => cases pc <;> trivial
  | unregister | delete | patch => trivial

end ServiceTask

/-- Every store call on services and every bind succeeds. -/
structure Env.Succeeds (env : Env) : Prop where
  put : env.put = .ok ()
  delete : env.delete = .ok ()
  bind : ∀ port, env.bind port = .ok ()

theorem Env.succeeds_default : ({} : Env).Succeeds := ⟨rfl, rfl, fun _ => rfl⟩

/-- What one section does to the three structures and to what its task owes. -/
inductive Effect (st : AppState) (task : ServiceTask) (st' : AppState) (task' : ServiceTask) :
    Prop
  | quiet (services : st'.services = st.services)
      (rows : st'.store.services = st.store.services)
      (tasks : st'.tcpIngressTasks = st.tcpIngressTasks)
      (write : task'.pendingWrite = task.pendingWrite)
      (abort : task'.pendingAbort = task.pendingAbort)
  | updated (id : ServiceId) (entry : Option ServiceDefinition)
      (services : st'.services = BTreeMap.assign st.services id entry)
      (rows : st'.store.services = st.store.services)
      (tasks : st'.tcpIngressTasks = st.tcpIngressTasks)
      (noWrite : task.pendingWrite = none) (noAbort : task.pendingAbort = none)
      (write : task'.pendingWrite = some (id, entry))
      (abort : entry = none → task'.pendingAbort = some id)
  | stored (id : ServiceId) (entry : Option ServiceDefinition)
      (call : task.storeCall = some (id, entry))
      (services : st'.services = st.services)
      (rows : st'.store.services = BTreeMap.assign st.store.services id.text entry)
      (tasks : st'.tcpIngressTasks = st.tcpIngressTasks)
      (was : task.pendingWrite = some (id, entry))
      (abort : task'.pendingAbort = task.pendingAbort)
  | closed (id : ServiceId)
      (services : st'.services = st.services)
      (rows : st'.store.services = st.store.services)
      (tasks : st'.tcpIngressTasks = st.tcpIngressTasks.erase id)
      (write : task'.pendingWrite = task.pendingWrite)
      (was : task.pendingAbort = some id)
  | opened (id : ServiceId) (port : UInt16)
      (opens : task.opensListener = some id)
      (services : st'.services = st.services)
      (rows : st'.store.services = st.store.services)
      (tasks : st'.tcpIngressTasks = st.tcpIngressTasks.insert id port)
      (write : task'.pendingWrite = task.pendingWrite)
      (abort : task'.pendingAbort = task.pendingAbort)

/-- **One section, one effect.** -/
theorem ServiceTask.step_effect (cfg : RelayConfig) {env : Env} (henv : env.Succeeds)
    {st : AppState} {task : ServiceTask} (hkeys : KeysMatch st.services)
    (htask : task.Underway) :
    Effect st task (task.step cfg env st).1 (task.step cfg env st).2 := by
  cases task with
  | register nodeId pc =>
    cases pc with
    | lock service =>
      simp only [step, registerStep, registerLocked]
      cases hok : admitService cfg st.services service nodeId with
      | error e => exact .quiet rfl rfl rfl rfl rfl
      | ok admitted =>
        -- from here on the task owes the row of what it has inserted
        exact .updated admitted.serviceId (some admitted) rfl rfl rfl rfl rfl rfl
          fun h => by cases h
    | put service =>
      simp only [step, registerStep, henv.put]
      refine .stored service.serviceId (some service) rfl rfl ?_ rfl rfl ?_
      · simp only [putService, henv.put, commit_ok, ServiceStore.put]; rfl
      · simp only [Prod.map_snd]
        split <;> rfl
    | lookUp service =>
      obtain ⟨port, hport⟩ := Option.isSome_iff_exists.mp htask
      simp only [step, registerStep, hport]
      split <;> exact .quiet rfl rfl rfl rfl rfl
    | bind service port =>
      simp only [step, registerStep, henv.bind]
      exact .quiet rfl rfl rfl rfl rfl
    | insertTask service port =>
      exact .opened service.serviceId port rfl rfl rfl rfl rfl rfl
    | rollBack service => exact htask.elim
    | deleteRow service => exact htask.elim
    | event service => exact .quiet rfl (by simp [step, registerStep]) rfl rfl rfl
    | done result => exact .quiet rfl rfl rfl rfl rfl
  | unregister serviceId nodeId pc =>
    cases pc with
    | lock =>
      simp only [step, unregisterStep]
      split
      · exact .updated serviceId none rfl rfl rfl rfl rfl rfl fun _ => rfl
      · exact .quiet rfl rfl rfl rfl rfl
    | deleteRow =>
      simp only [step, unregisterStep, henv.delete]
      refine .stored serviceId none rfl rfl ?_ rfl rfl rfl
      simp only [Prod.map_fst, id, deleteRow, henv.delete, commit_ok, ServiceStore.delete]
      rfl
    | event => exact .quiet rfl (by simp [step, unregisterStep]) rfl rfl rfl
    | abort => exact .closed serviceId rfl rfl rfl rfl rfl
    | done result => exact .quiet rfl rfl rfl rfl rfl
  | delete serviceId pc =>
    cases pc with
    | remove =>
      simp only [step, deleteStep]
      split
      · exact .quiet rfl rfl rfl rfl rfl
      · exact .updated serviceId none rfl rfl rfl rfl rfl rfl fun _ => rfl
    | abort nodeId => exact .closed serviceId rfl rfl rfl rfl rfl
    | deleteRow nodeId =>
      simp only [step, deleteStep, henv.delete]
      refine .stored serviceId none rfl rfl ?_ rfl rfl rfl
      simp only [Prod.map_fst, id, deleteRow, henv.delete, commit_ok, ServiceStore.delete]
      rfl
    | event nodeId => exact .quiet rfl (by simp [step, deleteStep]) rfl rfl rfl
    | done response => exact .quiet rfl rfl rfl rfl rfl
  | patch serviceId pc =>
    cases pc with
    | lock metadata =>
      cases metadata with
      | none => exact .quiet rfl rfl rfl rfl rfl
      | some metadata =>
        simp only [step, patchStep]
        cases hvalid : metadata.validate with
        | error e => exact .quiet rfl rfl rfl rfl rfl
        | ok _ =>
          simp only [patchLocked]
          cases hget : st.services[serviceId]? with
          | none => exact .quiet rfl rfl rfl rfl rfl
          | some service =>
            -- the copy is stored under its own id, which is the id it was found under
            have hid : service.serviceId = serviceId := hkeys serviceId service hget
            exact .updated serviceId (some { service with metadata }) rfl rfl rfl rfl rfl
              (by simp only [Prod.map_snd, pendingWrite, storeCall, hid]) fun h => by cases h
    | put updated =>
      simp only [step, patchStep, henv.put]
      refine .stored updated.serviceId (some updated) rfl rfl ?_ rfl rfl rfl
      simp only [Prod.map_fst, id, putService, henv.put, commit_ok, ServiceStore.put]
      rfl
    | view updated => exact .quiet rfl rfl rfl rfl rfl
    | done response => exact .quiet rfl rfl rfl rfl rfl

/-! ## Obligations -/

/-- Memory, disk and listeners agree: the rows are the entries of the directory
under their printed ids, and only services of the directory have listeners. -/
structure Agrees (st : AppState) : Prop where
  key : KeysMatch st.services
  rows : ∀ (key : String) (s : ServiceDefinition), st.store.services[key]? = some s ↔
    ∃ id : ServiceId, key = id.text ∧ st.services[id]? = some s
  listeners : ∀ id : ServiceId, id ∈ st.tcpIngressTasks → id ∈ st.services

def RowAgrees (st : AppState) (id : ServiceId) : Prop :=
  st.store.services[id.text]? = st.services[id]?

def ListenerAgrees (st : AppState) (id : ServiceId) : Prop :=
  id ∈ st.tcpIngressTasks → id ∈ st.services

/-- The task will write to the store what memory now holds under the id. -/
def OwesRow (st : AppState) (task : ServiceTask) (id : ServiceId) : Prop :=
  task.pendingWrite = some (id, st.services[id]?)

def OwesAbort (task : ServiceTask) (id : ServiceId) : Prop := task.pendingAbort = some id

instance (st : AppState) (task : ServiceTask) (id : ServiceId) : Decidable (OwesRow st task id) :=
  inferInstanceAs (Decidable (task.pendingWrite = some (id, st.services[id]?)))

instance (task : ServiceTask) (id : ServiceId) : Decidable (OwesAbort task id) :=
  inferInstanceAs (Decidable (task.pendingAbort = some id))

/-- Every id is in order or owed for. -/
structure InOrder (p : Pool AppState ServiceTask) : Prop where
  key : KeysMatch p.shared.services
  printed : ∀ (key : String) (s : ServiceDefinition),
    p.shared.store.services[key]? = some s → ∃ id : ServiceId, key = id.text
  underway : ∀ task ∈ p.tasks, task.Underway
  rows : Covered (RowAgrees p.shared) (OwesRow p.shared) p.tasks
  listeners : Covered (ListenerAgrees p.shared) OwesAbort p.tasks

/-- No store call writes what memory has given up, and no listener is opened for
a service that is gone, unless another task is still to make up for it. -/
def OrderlySection (p : Pool AppState ServiceTask) (i : Nat) (task : ServiceTask) : Prop :=
  (∀ call ∈ task.storeCall, call.2 = p.shared.services[call.1]? ∨
    ∃ other ∈ p.others i, OwesRow p.shared other call.1) ∧
  (∀ id ∈ task.opensListener, id ∈ p.shared.services ∨
    ∃ other ∈ p.others i, OwesAbort other id)

/-- The section the event runs is orderly. -/
def Orderly (p : Pool AppState ServiceTask) : Event Env ServiceTask → Prop
  | .run i _ => ∀ task ∈ p.tasks[i]?, OrderlySection p i task
  | .spawn _ => True

instance (p : Pool AppState ServiceTask) (i : Nat) (task : ServiceTask) :
    Decidable (OrderlySection p i task) :=
  inferInstanceAs (Decidable ((∀ call ∈ task.storeCall, call.2 = p.shared.services[call.1]? ∨
    ∃ other ∈ p.others i, OwesRow p.shared other call.1) ∧
  (∀ id ∈ task.opensListener, id ∈ p.shared.services ∨ ∃ other ∈ p.others i, OwesAbort other id)))

instance (p : Pool AppState ServiceTask) : ∀ e : Event Env ServiceTask, Decidable (Orderly p e)
  | .run i _ => inferInstanceAs (Decidable (∀ task ∈ p.tasks[i]?, OrderlySection p i task))
  | .spawn _ => inferInstanceAs (Decidable True)

/-- An operation starts from the beginning, and its calls succeed. -/
def Regular : Event Env ServiceTask → Prop
  | .run _ env => env.Succeeds
  | .spawn task => task.fresh

section
variable {cfg : RelayConfig} {p : Pool AppState ServiceTask} {i : Nat}
  {task task' : ServiceTask} {st' : AppState}

/-- A section that leaves the directory, the rows and its own debt alone. -/
theorem InOrder.rows_kept (h : InOrder p) (ht : p.tasks[i]? = some task)
    (services : st'.services = p.shared.services)
    (rows : st'.store.services = p.shared.store.services)
    (write : task'.pendingWrite = task.pendingWrite) :
    Covered (RowAgrees st') (OwesRow st') (p.tasks.set i task') := by
  refine h.rows.set ht (fun k hk => ?_) (fun k j u _ _ hu => ?_)
  · rcases hk with hk | hk
    · exact .inl (by simpa only [RowAgrees, services, rows] using hk)
    · exact .inr (.inl (by simpa only [OwesRow, services, write] using hk))
  · exact .inr (.inr (by simpa only [OwesRow, services] using hu))

theorem InOrder.rows_set (h : InOrder p) (ht : p.tasks[i]? = some task)
    (he : Effect p.shared task st' task') (ho : OrderlySection p i task) :
    Covered (RowAgrees st') (OwesRow st') (p.tasks.set i task') := by
  cases he with
  | quiet services rows tasks write abort => exact h.rows_kept ht services rows write
  | closed id services rows tasks write was => exact h.rows_kept ht services rows write
  | opened id port opens services rows tasks write abort =>
    exact h.rows_kept ht services rows write
  | updated id entry services rows tasks noWrite noAbort write abort =>
    -- at the changed id the task now owes the new value, elsewhere nothing changed
    have hnew (k : ServiceId) (hk : id = k) : OwesRow st' task' k := by
      subst hk
      rw [OwesRow, write, services, BTreeMap.get_assign, if_pos rfl]
    have hold (k : ServiceId) (hk : id ≠ k) : st'.services[k]? = p.shared.services[k]? := by
      rw [services, BTreeMap.get_assign, if_neg hk]
    refine h.rows.set ht (fun k hk => ?_) (fun k j u _ _ hu => ?_)
    · by_cases hid : id = k
      · exact .inr (.inl (hnew k hid))
      · rcases hk with hk | hk
        · exact .inl (by simpa only [RowAgrees, rows, hold k hid] using hk)
        · rw [OwesRow, noWrite] at hk
          cases hk
    · by_cases hid : id = k
      · exact .inr (.inl (hnew k hid))
      · exact .inr (.inr (by simpa only [OwesRow, hold k hid] using hu))
  | stored id entry call services rows tasks was abort =>
    have hrow (k : ServiceId) : st'.store.services[k.text]? =
        if id = k then entry else p.shared.store.services[k.text]? := by
      rw [rows, BTreeMap.get_assign]
      simp only [UuidId.text_inj]
    refine h.rows.set ht (fun k hk => ?_) (fun k j u _ _ hu => ?_)
    · by_cases hid : id = k
      · subst hid
        -- the row written is what memory holds, or another task still owes that
        rcases ho.1 _ call with hcurrent | ⟨u, hu, howes⟩
        · exact .inl (by rw [RowAgrees, hrow, if_pos rfl, services]; exact hcurrent)
        · obtain ⟨j, hj, hu⟩ := Pool.mem_others.mp hu
          exact .inr (.inr ⟨j, u, hj, hu, by simpa only [OwesRow, services] using howes⟩)
      · rcases hk with hk | hk
        · exact .inl (by rw [RowAgrees, hrow, if_neg hid, services]; exact hk)
        · rw [OwesRow, was] at hk
          exact absurd (congrArg Prod.fst (Option.some.inj hk)) hid
    · exact .inr (.inr (by simpa only [OwesRow, services] using hu))

/-- A section that leaves the directory, the listeners and its own debt alone. -/
theorem InOrder.listeners_kept (h : InOrder p) (ht : p.tasks[i]? = some task)
    (services : st'.services = p.shared.services)
    (tasks : st'.tcpIngressTasks = p.shared.tcpIngressTasks)
    (abort : task'.pendingAbort = task.pendingAbort) :
    Covered (ListenerAgrees st') OwesAbort (p.tasks.set i task') := by
  refine h.listeners.set ht (fun k hk => ?_) (fun k j u _ _ hu => .inr (.inr hu))
  rcases hk with hk | hk
  · exact .inl (by simpa only [ListenerAgrees, services, tasks] using hk)
  · exact .inr (.inl (by simpa only [OwesAbort, abort] using hk))

theorem InOrder.listeners_set (h : InOrder p) (ht : p.tasks[i]? = some task)
    (he : Effect p.shared task st' task') (ho : OrderlySection p i task) :
    Covered (ListenerAgrees st') OwesAbort (p.tasks.set i task') := by
  cases he with
  | quiet services rows tasks write abort => exact h.listeners_kept ht services tasks abort
  | stored id entry call services rows tasks was abort =>
    exact h.listeners_kept ht services tasks abort
  | updated id entry services rows tasks noWrite noAbort write abort =>
    refine h.listeners.set ht (fun k hk => ?_) (fun k j u _ _ hu => .inr (.inr hu))
    rcases hk with hk | hk
    · cases hentry : entry with
      | none =>
        -- a removal leaves its own task owing the listener's end
        by_cases hid : id = k
        · subst hid
          exact .inr (.inl (abort hentry))
        · refine .inl fun hmem => ?_
          rw [tasks] at hmem
          have hk := hk hmem
          rw [services, hentry]
          simpa [BTreeMap.assign, hid] using hk
      | some service =>
        refine .inl fun hmem => ?_
        rw [tasks] at hmem
        rw [services, hentry]
        simpa [BTreeMap.assign] using Or.inr (hk hmem)
    · rw [OwesAbort, noAbort] at hk
      cases hk
  | closed id services rows tasks write was =>
    refine h.listeners.set ht (fun k hk => ?_) (fun k j u _ _ hu => .inr (.inr hu))
    by_cases hid : id = k
    · -- no listener is left to disagree
      subst hid
      refine .inl fun hmem => ?_
      rw [tasks] at hmem
      simp at hmem
    · rcases hk with hk | hk
      · refine .inl fun hmem => ?_
        rw [tasks] at hmem
        rw [services]
        exact hk (Std.ExtTreeMap.mem_of_mem_erase hmem)
      · rw [OwesAbort, was] at hk
        exact absurd (Option.some.inj hk) hid
  | opened id port opens services rows tasks write abort =>
    refine h.listeners.set ht (fun k hk => ?_) (fun k j u _ _ hu => .inr (.inr hu))
    by_cases hid : id = k
    · -- the service is there, or whoever removed it is still to close the listener
      subst hid
      rcases ho.2 _ opens with hserved | ⟨u, hu, howes⟩
      · exact .inl fun _ => by rw [services]; exact hserved
      · obtain ⟨j, hj, hu⟩ := Pool.mem_others.mp hu
        exact .inr (.inr ⟨j, u, hj, hu, howes⟩)
    · rcases hk with hk | hk
      · refine .inl fun hmem => ?_
        rw [tasks] at hmem
        rw [services]
        exact hk (by simpa [hid] using hmem)
      · exact .inr (.inl (by simpa only [OwesAbort, abort] using hk))

theorem Effect.printed {st : AppState} (he : Effect st task st' task')
    (h : ∀ (key : String) (s : ServiceDefinition),
      st.store.services[key]? = some s → ∃ id : ServiceId, key = id.text) :
    ∀ (key : String) (s : ServiceDefinition),
      st'.store.services[key]? = some s → ∃ id : ServiceId, key = id.text := by
  intro key s hs
  cases he with
  | stored id entry call services rows tasks was abort =>
    rw [rows, BTreeMap.get_assign] at hs
    by_cases hkey : id.text = key
    · exact ⟨id, hkey.symm⟩
    · rw [if_neg hkey] at hs
      exact h key s hs
  | quiet services rows | closed id services rows | opened id port opens services rows
  | updated id entry services rows =>
    rw [rows] at hs
    exact h key s hs

end

theorem ServiceTask.step_underway (cfg : RelayConfig) {env : Env} (henv : env.Succeeds)
    (st : AppState) {task : ServiceTask} (htask : task.Underway) :
    (task.step cfg env st).2.Underway := by
  cases task with
  | register nodeId pc =>
    cases pc with
    | lock service =>
      simp only [step, registerStep, registerLocked]
      cases hok : admitService cfg st.services service nodeId with
      | error e => trivial
      | ok admitted =>
        -- an admitted TCP service has a port
        intro htcp
        have haddr := (admitService_spec hok).address
        simp only [WellAddressed, htcp] at haddr
        obtain ⟨-, port, hport, -⟩ := haddr
        rw [hport]; rfl
    | put service =>
      simp only [step, registerStep, henv.put, Prod.map_snd]
      split
      · rename_i htcp; exact htask htcp
      · trivial
    | lookUp service =>
      obtain ⟨port, hport⟩ := Option.isSome_iff_exists.mp htask
      simp only [step, registerStep, hport]
      split <;> trivial
    | bind service port => simp only [step, registerStep, henv.bind]; trivial
    | insertTask service port | event service | done result => trivial
    | rollBack service | deleteRow service => exact htask.elim
  | unregister | delete | patch => trivial

/-- **One event.** -/
theorem InOrder.next {cfg : RelayConfig} {p : Pool AppState ServiceTask} (h : InOrder p)
    {e : Event Env ServiceTask} (hregular : Regular e) (ho : Orderly p e) :
    InOrder (p.next (ServiceTask.step cfg) e) := by
  cases e with
  | spawn task =>
    have hmem : ∀ t ∈ p.tasks, t ∈ p.tasks ++ [task] := fun t => List.mem_append_left [task]
    refine ⟨h.key, h.printed, fun t ht => ?_, fun k => ?_, fun k => ?_⟩
    · rcases List.mem_append.mp ht with ht | ht
      · exact h.underway t ht
      · rw [List.mem_singleton.mp ht]; exact ServiceTask.underway_of_fresh hregular
    · exact (h.rows k).imp_right fun ⟨t, ht, hk⟩ => ⟨t, hmem t ht, hk⟩
    · exact (h.listeners k).imp_right fun ⟨t, ht, hk⟩ => ⟨t, hmem t ht, hk⟩
  | run i env =>
    rcases p.advance_cases (ServiceTask.step cfg) i env with ⟨_, he⟩ | ⟨task, ht, he⟩
    · simpa only [Pool.next, he] using h
    · have htask := h.underway task (List.mem_of_getElem? ht)
      have heffect := ServiceTask.step_effect cfg hregular h.key htask
      have hsection := ho task ht
      simp only [Pool.next, he]
      refine ⟨h.key.change (task.step_change cfg env p.shared), heffect.printed h.printed,
        fun t hmem => ?_, h.rows_set ht heffect hsection, h.listeners_set ht heffect hsection⟩
      rcases List.mem_or_eq_of_mem_set hmem with hmem | rfl
      · exact h.underway t hmem
      · exact ServiceTask.step_underway cfg hregular p.shared htask

theorem ServiceTask.returned_owes_nothing {task : ServiceTask} (h : task.returned) :
    task.pendingWrite = none ∧ task.pendingAbort = none := by
  cases task with
  | register nodeId pc => cases pc <;> first | exact ⟨rfl, rfl⟩ | cases h
  | unregister serviceId nodeId pc => cases pc <;> first | exact ⟨rfl, rfl⟩ | cases h
  | delete serviceId pc => cases pc <;> first | exact ⟨rfl, rfl⟩ | cases h
  | patch serviceId pc => cases pc <;> first | exact ⟨rfl, rfl⟩ | cases h

theorem InOrder.of_agrees {p : Pool AppState ServiceTask} (h : Agrees p.shared)
    (hfresh : ∀ task ∈ p.tasks, task.fresh) : InOrder p := by
  obtain ⟨hprinted, hrows⟩ := (BTreeMap.renamed_iff fun _ _ => UuidId.text_injective).mp h.rows
  exact ⟨h.key, hprinted, fun task ht => ServiceTask.underway_of_fresh (hfresh task ht),
    fun k => .inl (hrows k), fun k => .inl (h.listeners k)⟩

/-- Once every operation has returned, nothing is owed. -/
theorem InOrder.agrees {p : Pool AppState ServiceTask} (h : InOrder p)
    (hdone : ∀ task ∈ p.tasks, task.returned) : Agrees p.shared := by
  have hrows : ∀ id, RowAgrees p.shared id := h.rows.settled fun task ht id howes => by
    rw [OwesRow, (ServiceTask.returned_owes_nothing (hdone task ht)).1] at howes
    cases howes
  have hlisteners : ∀ id, ListenerAgrees p.shared id :=
    h.listeners.settled fun task ht id howes => by
      rw [OwesAbort, (ServiceTask.returned_owes_nothing (hdone task ht)).2] at howes
      cases howes
  exact ⟨h.key, (BTreeMap.renamed_iff fun _ _ => UuidId.text_injective).mpr ⟨h.printed, hrows⟩,
    hlisteners⟩

/-- **Memory, disk and listeners agree once every operation has returned**, in
every run whose sections are all orderly. -/
theorem quiescent_agrees (cfg : RelayConfig) (p : Pool AppState ServiceTask)
    (events : List (Event Env ServiceTask)) (hstart : Agrees p.shared)
    (hfresh : ∀ task ∈ p.tasks, task.fresh) (hregular : ∀ e ∈ events, Regular e)
    (horderly : EveryStep (Pool.next (ServiceTask.step cfg)) Orderly p events)
    (hdone : ∀ task ∈ (run (Pool.next (ServiceTask.step cfg)) p events).tasks, task.returned) :
    Agrees (run (Pool.next (ServiceTask.step cfg)) p events).shared := by
  have hrun := everyState_of_everyStep (P := InOrder) (C := fun p e => Regular e ∧ Orderly p e)
    (fun p e hp he => hp.next he.1 he.2) (InOrder.of_agrees hstart hfresh)
    (horderly.and_labels hregular)
  exact hrun.last.agrees hdone

/-! ## A patch that a deletion overtakes -/

namespace Overtaken

def initial : Pool AppState ServiceTask := ⟨{ tokens := ⟨none, none⟩ }, []⟩

def service : ServiceDefinition := Sample.service 1 "api" 7 .http none

/-- A registration runs to its end. Then a patch takes its locked section, a
deletion runs to its end, and only then the patch calls the store. -/
def events : List (Event Env ServiceTask) :=
  [.spawn (.register ⟨7⟩ (.lock service)), .run 0 {}, .run 0 {}, .run 0 {},
    .spawn (.patch ⟨1⟩ (.lock (some {}))), .spawn (.delete ⟨1⟩ .remove),
    .run 1 {}, .run 2 {}, .run 2 {}, .run 2 {}, .run 2 {}, .run 1 {}, .run 1 {}]

/-- The same operations, the patch's store call before the deletion. -/
def orderlyEvents : List (Event Env ServiceTask) :=
  [.spawn (.register ⟨7⟩ (.lock service)), .run 0 {}, .run 0 {}, .run 0 {},
    .spawn (.patch ⟨1⟩ (.lock (some {}))), .spawn (.delete ⟨1⟩ .remove),
    .run 1 {}, .run 1 {}, .run 2 {}, .run 2 {}, .run 2 {}, .run 2 {}, .run 1 {}]

theorem initial_agrees : Agrees initial.shared := by
  refine ⟨fun id s hs => ?_, fun key s => ?_, fun id hid => ?_⟩
  · simp [initial] at hs
  · simp [initial]
  · simp [initial] at hid

end Overtaken

open Overtaken in
/-- **A deleted service comes back to the disk.** -/
theorem patch_resurrects : ∃ (p : Pool AppState ServiceTask) (events : List (Event Env ServiceTask)),
    Agrees p.shared ∧ (∀ task ∈ p.tasks, task.fresh) ∧ (∀ e ∈ events, Regular e) ∧
    (∀ task ∈ (run (Pool.next (ServiceTask.step Sample.config)) p events).tasks, task.returned) ∧
    ¬Agrees (run (Pool.next (ServiceTask.step Sample.config)) p events).shared := by
  refine ⟨initial, events, initial_agrees, by simp [initial], ?_, by decide +kernel, fun h => ?_⟩
  · simp [events, Regular, Env.succeeds_default, ServiceTask.fresh]
  · have hrow : (run (Pool.next (ServiceTask.step Sample.config)) initial
        events).shared.store.services[(⟨1⟩ : ServiceId).text]?.isSome := by decide +kernel
    have hempty : (run (Pool.next (ServiceTask.step Sample.config)) initial
        events).shared.services = ∅ := by decide +kernel
    obtain ⟨s, hs⟩ := Option.isSome_iff_exists.mp hrow
    obtain ⟨id, -, hid⟩ := (h.rows _ s).mp hs
    rw [hempty, BTreeMap.get_empty] at hid
    cases hid

open Overtaken in
theorem quiescent_agrees_orderly :
    Agrees (run (Pool.next (ServiceTask.step Sample.config)) initial orderlyEvents).shared :=
  quiescent_agrees Sample.config initial orderlyEvents initial_agrees (by simp [initial])
    (by simp [orderlyEvents, Regular, Env.succeeds_default, ServiceTask.fresh])
    (by decide +kernel) (by decide +kernel)

end OngrokRelay
