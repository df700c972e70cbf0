import OngrokRelay.ControlPlane
import OngrokRelay.Restart

/-
  What a withdrawal or a patch whose store call fails leaves behind.

  All three operations change the directory first. The store then refuses, and none of them
  changes the directory back: the row of the entry stays, and with it, where the service is
  unregistered, its listener.

  1. `RowsMatch.iff_eq`: a services table is that of one directory.
  2. `unregister_failed`, `delete_failed`, `patch_failed`: the directory that each
     operation leaves over the table.
  3. `failed_entryOp_iff`: memory and disk agree after a reported failure exactly when the
     operation changes no entry.
  4. `deletion_unstored`: a deletion that the store refuses.
-/

namespace OngrokRelay

/-- A table is that of one directory at most. -/
theorem RowsMatch.iff_eq {services services' : Services} {rows : BTreeMap String ServiceDefinition}
    (h : RowsMatch services rows) : RowsMatch services' rows ↔ services' = services := by
  obtain ⟨-, hget⟩ := (BTreeMap.renamed_iff fun _ _ => UuidId.text_injective).mp h
  constructor
  · intro h'
    obtain ⟨-, hget'⟩ := (BTreeMap.renamed_iff fun _ _ => UuidId.text_injective).mp h'
    apply Std.ExtTreeMap.ext_getElem?
    intro id
    rw [← hget' id, hget id]
  · rintro rfl
    exact h

/-- Directory, services table and listeners are of one mind. -/
structure Consistent (st : AppState) : Prop where
  rows : RowsMatch st.services st.store.services
  listeners : Serves st.services st.tcpIngressTasks

section
variable {env : Env} {st : AppState} {serviceId : ServiceId} {e : String}

theorem erase_ne {services : Services} {s : ServiceDefinition}
    (hs : services[serviceId]? = some s) : services.erase serviceId ≠ services := by
  intro h
  rw [BTreeMap.erase_eq_self_iff.mp h] at hs
  cases hs

/-- The entry is gone, and its row and its listener are not. -/
theorem unregister_failed (hdelete : env.delete = .error e) {nodeId : NodeId}
    (howned : ownedBy st.services serviceId nodeId) :
    unregisterService env serviceId nodeId st =
      ({ st with services := st.services.erase serviceId }, .error e) := by
  simp only [unregisterService, howned, if_true, hdelete, deleteRow, removeService, commit_error]

/-- The entry and its listener are gone, and its row is not. -/
theorem delete_failed (hdelete : env.delete = .error e) {service : ServiceDefinition}
    (hservice : st.services[serviceId]? = some service) :
    deleteService env serviceId st =
      (abortTask serviceId (removeService serviceId st), ⟨500, .error "failed to delete service"⟩) := by
  simp only [deleteService, hservice, hdelete, deleteRow, commit_error, abortTask, removeService]

/-- The entry has the new metadata, and its row has the old. -/
theorem patch_failed (hput : env.put = .error e) {metadata : Metadata}
    (hmetadata : metadata.validate = .ok ()) {service : ServiceDefinition}
    (hservice : st.services[serviceId]? = some service) :
    patchService env serviceId (some metadata) st =
      ({ st with services := st.services.insert serviceId { service with metadata } },
        ⟨500, .error "failed to update service"⟩) := by
  simp only [patchService, hmetadata, patchLocked, hservice, hput, putService, commit_error]

end

/-! ## The three operations -/

inductive EntryOp
  | unregister (serviceId : ServiceId) (nodeId : NodeId)
  | delete (serviceId : ServiceId)
  | patch (serviceId : ServiceId) (metadata : Option Metadata)

namespace EntryOp

/-- The operation, run to its end, and whether it reports that a store call failed. -/
def run (env : Env) (st : AppState) : EntryOp → AppState × Bool
  | unregister serviceId nodeId =>
    (unregisterService env serviceId nodeId st).map id fun result => !result.isOk
  | delete serviceId =>
    (deleteService env serviceId st).map id fun response => response.status == 500
  | patch serviceId metadata =>
    (patchService env serviceId metadata st).map id fun response => response.status == 500

/-- The operation removes an entry, or gives one metadata that it does not have. -/
def Changes (services : Services) : EntryOp → Prop
  | unregister serviceId nodeId => ownedBy services serviceId nodeId
  | delete serviceId => services[serviceId]?.isSome
  | patch serviceId metadata => ∃ new service, metadata = some new ∧ new.validate = .ok () ∧
      services[serviceId]? = some service ∧ service.metadata ≠ new

end EntryOp

/-- What is left over an unchanged table agrees with it when it is the directory it was. -/
theorem Consistent.services_eq {st st' : AppState} (h : Consistent st) (h' : Consistent st')
    (hrows : st'.store.services = st.store.services) : st'.services = st.services := by
  have hmatch := h'.rows
  rw [hrows] at hmatch
  exact h.rows.iff_eq.mp hmatch

section
variable {env : Env} {e e' : String} {st : AppState} {serviceId : ServiceId}

theorem failed_unregister_iff (hdelete : env.delete = .error e) (hst : Consistent st)
    (nodeId : NodeId) :
    let result := (EntryOp.unregister serviceId nodeId).run env st
    (result.2 = true → Consistent result.1) ↔ ¬ownedBy st.services serviceId nodeId := by
  intro result
  by_cases howned : ownedBy st.services serviceId nodeId
  · have hresult : result = ({ st with services := st.services.erase serviceId }, true) := by
      simp only [result, EntryOp.run, unregister_failed hdelete howned]
      rfl
    rw [hresult]
    refine iff_of_false (fun hkept => ?_) (not_not.mpr howned)
    obtain ⟨service, hservice, -⟩ := (Option.any_eq_true _ _).mp howned
    exact erase_ne hservice (hst.services_eq (hkept rfl) rfl)
  · have hresult : result = (st, false) := by
      simp only [result, EntryOp.run, unregisterService, howned, Bool.false_eq_true, if_false]
      rfl
    rw [hresult]
    exact iff_of_true (fun hreported => by cases hreported) howned

theorem failed_delete_iff (hdelete : env.delete = .error e) (hst : Consistent st) :
    let result := (EntryOp.delete serviceId).run env st
    (result.2 = true → Consistent result.1) ↔ ¬st.services[serviceId]?.isSome := by
  intro result
  cases hservice : st.services[serviceId]? with
  | some service =>
    have hresult : result = (abortTask serviceId (removeService serviceId st), true) := by
      simp only [result, EntryOp.run, delete_failed hdelete hservice]
      rfl
    rw [hresult]
    refine iff_of_false (fun hkept => ?_) (not_not.mpr rfl)
    exact erase_ne hservice (hst.services_eq (hkept rfl) rfl)
  | none =>
    have hresult : result = (st, false) := by
      simp only [result, EntryOp.run, deleteService, hservice]
      rfl
    rw [hresult]
    exact iff_of_true (fun hreported => by cases hreported) Bool.false_ne_true

theorem failed_patch_iff (hput : env.put = .error e) (hst : Consistent st)
    (metadata : Option Metadata) :
    let result := (EntryOp.patch serviceId metadata).run env st
    (result.2 = true → Consistent result.1) ↔
      ¬(EntryOp.patch serviceId metadata).Changes st.services := by
  intro result
  have hquiet (hreported : result.2 = false)
      (hsame : ¬(EntryOp.patch serviceId metadata).Changes st.services) :
      (result.2 = true → Consistent result.1) ↔
        ¬(EntryOp.patch serviceId metadata).Changes st.services :=
    iff_of_true (fun h => by rw [hreported] at h; cases h) hsame
  cases metadata with
  | none =>
    refine hquiet rfl ?_
    rintro ⟨new, service, hnew, -⟩
    cases hnew
  | some new =>
    cases hvalid : new.validate with
    | error invalid =>
      refine hquiet ?_ ?_
      · simp only [result, EntryOp.run, patchService, hvalid]
        rfl
      · rintro ⟨new', service, hnew, hvalid', -⟩
        cases hnew
        rw [hvalid] at hvalid'
        cases hvalid'
    | ok _ =>
      cases hservice : st.services[serviceId]? with
      | none =>
        refine hquiet ?_ ?_
        · simp only [result, EntryOp.run, patchService, hvalid, patchLocked, hservice]
          rfl
        · rintro ⟨new', service, -, -, hservice', -⟩
          rw [hservice] at hservice'
          cases hservice'
      | some service =>
        have hresult : result = ({ st with
            services := st.services.insert serviceId { service with metadata := new } }, true) := by
          simp only [result, EntryOp.run, patch_failed hput hvalid hservice]
          rfl
        rw [hresult]
        by_cases hmetadata : service.metadata = new
        · -- the entry is put back as it is
          have hentry : st.services[serviceId]? = some { service with metadata := new } := by
            rw [hservice, ← hmetadata]
          rw [BTreeMap.insert_eq_self_iff.mpr hentry]
          refine iff_of_true (fun _ => hst) ?_
          rintro ⟨new', service', hnew, -, hservice', hne⟩
          cases hnew
          rw [hservice] at hservice'
          cases hservice'
          exact hne hmetadata
        · refine iff_of_false (fun hkept => ?_)
            (not_not.mpr ⟨new, service, rfl, hvalid, hservice, hmetadata⟩)
          have hentry := BTreeMap.insert_eq_self_iff.mp (hst.services_eq (hkept rfl) rfl)
          rw [hservice] at hentry
          exact hmetadata (congrArg ServiceDefinition.metadata (Option.some.inj hentry))

end

/-- **A reported failure** leaves directory, table and listeners as consistent as they were
exactly when the operation is not one that changes an entry. -/
theorem failed_entryOp_iff {env : Env} {e e' : String} (hput : env.put = .error e)
    (hdelete : env.delete = .error e') {st : AppState} (hst : Consistent st) (op : EntryOp) :
    ((op.run env st).2 = true → Consistent (op.run env st).1) ↔ ¬op.Changes st.services := by
  cases op with
  | unregister serviceId nodeId => exact failed_unregister_iff hdelete hst nodeId
  | delete serviceId => exact failed_delete_iff hdelete hst
  | patch serviceId metadata => exact failed_patch_iff hput hst metadata

/-! ## A deletion that the store refuses -/

namespace Refused

/-- Node 7 has registered and published an HTTP service. -/
def events : List (Interleaving.Event Env ControlTask) :=
  Sample.connects 0 11 7 ++ Sample.registers 0 ++
    .run 0 { input := .ok (.registerService (Sample.service 1 "web" 7 .http none)) } ::
      List.replicate 6 (.run 0 {})

def entry : ServiceDefinition :=
  { Sample.service 1 "web" 7 .http none with publicHost := some "web.apps.test" }

/-- The store refuses every write. -/
def env : Env where
  put := .error "disk full"
  delete := .error "disk full"

theorem consistent : Consistent (Sample.reached events).shared := by
  have hservices : (Sample.reached events).shared.services =
      (∅ : Services).insert entry.serviceId entry := by decide +kernel
  have hrows : (Sample.reached events).shared.store.services =
      (∅ : BTreeMap String ServiceDefinition).insert entry.serviceId.text entry := by decide +kernel
  have htasks : (Sample.reached events).shared.tcpIngressTasks = ∅ := by decide +kernel
  have hempty : RowsMatch ∅ ∅ := fun key s => by simp
  refine ⟨?_, fun id port => ?_⟩
  · rw [hservices, hrows]
    exact hempty.insert entry
  · rw [hservices, htasks, BTreeMap.get_empty]
    refine iff_of_false (fun h => by cases h) ?_
    rintro ⟨s, hs, hleases⟩
    rcases BTreeMap.get_insert_some.mp hs with ⟨-, rfl⟩ | ⟨-, hs⟩
    · cases hleases
    · rw [BTreeMap.get_empty] at hs
      cases hs

end Refused

open Refused in
/-- **A deletion that the store refuses** has removed the service: it is answered by an
error, and the next start has the service again. -/
theorem deletion_unstored :
    ControlPlane.Reached Sample.config (Sample.reached events) ∧
      Consistent (Sample.reached events).shared ∧
      ((EntryOp.delete ⟨1⟩).run env (Sample.reached events).shared).2 = true ∧
      ¬Consistent ((EntryOp.delete ⟨1⟩).run env (Sample.reached events).shared).1 := by
  have hreported : ((EntryOp.delete ⟨1⟩).run env (Sample.reached events).shared).2 = true := by
    decide +kernel
  have hservices : ((EntryOp.delete ⟨1⟩).run env (Sample.reached events).shared).1.services = ∅ := by
    decide +kernel
  have hrow : ((EntryOp.delete ⟨1⟩).run env
      (Sample.reached events).shared).1.store.services[entry.serviceId.text]? = some entry := by
    decide +kernel
  refine ⟨Sample.reached_ok events, consistent, hreported, fun h => ?_⟩
  obtain ⟨id, -, hs⟩ := (h.rows _ _).mp hrow
  rw [hservices, BTreeMap.get_empty] at hs
  cases hs

open Refused in
/-- A patch with the metadata that the service has fails and does no harm. -/
theorem failed_patch_same :
    ((EntryOp.patch ⟨1⟩ (some entry.metadata)).run env (Sample.reached events).shared).2 = true ∧
      Consistent ((EntryOp.patch ⟨1⟩ (some entry.metadata)).run env
        (Sample.reached events).shared).1 := by
  have hreported : ((EntryOp.patch ⟨1⟩ (some entry.metadata)).run env
      (Sample.reached events).shared).2 = true := by decide +kernel
  have hentry : (Sample.reached events).shared.services[(⟨1⟩ : ServiceId)]? = some entry := by
    decide +kernel
  have hput : env.put = .error "disk full" := rfl
  have hdelete : env.delete = .error "disk full" := rfl
  refine ⟨hreported, (failed_entryOp_iff hput hdelete consistent _).mpr ?_ hreported⟩
  rintro ⟨new, service, hnew, -, hservice, hne⟩
  cases hnew
  rw [hentry] at hservice
  cases hservice
  exact hne rfl

end OngrokRelay
