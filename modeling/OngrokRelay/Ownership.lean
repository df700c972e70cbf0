import OngrokRelay.ControlPlane

/-
  What a registration does to the services of other nodes.

  The id a registration is stored under is the one its node already has for the
  name, else the one the peer has chosen. Nothing asks whose service is stored
  under the id.

  1. `registerService_footprint`: a registration touches one entry, one row and
     one listener, those of the id it is stored under.
  2. `others_kept_iff`: it leaves the other nodes' services alone exactly when
     it is refused or its id is none of theirs.
  3. `registration_takes_over`: a node takes over a service of another by its id.
-/

namespace OngrokRelay

open Interleaving Transition ControlPlane

/-- The services of all nodes but one are as they were: their entries, their
rows, their port leases and their listeners. -/
structure OthersKept (nodeId : NodeId) (before after : AppState) : Prop where
  services : ∀ (id : ServiceId) (s : ServiceDefinition), before.services[id]? = some s →
    s.nodeId ≠ nodeId → after.services[id]? = some s
  rows : ∀ (key : String) (s : ServiceDefinition), before.store.services[key]? = some s →
    s.nodeId ≠ nodeId → after.store.services[key]? = some s
  /-- A port that is leased finds no new lessee. -/
  leased : ∀ (id : ServiceId) (s : ServiceDefinition) (port : UInt16),
    before.services[id]? = some s → s.nodeId ≠ nodeId → leases port s →
    ∀ (id' : ServiceId) (s' : ServiceDefinition), id' ≠ id → after.services[id']? = some s' →
      leases port s' → before.services[id']? = some s'
  listeners : ∀ (id : ServiceId) (s : ServiceDefinition), before.services[id]? = some s →
    s.nodeId ≠ nodeId → after.tcpIngressTasks[id]? = before.tcpIngressTasks[id]?

/-- All that a registration of `admitted` touches. -/
structure Footprint (env : Env) (admitted : ServiceDefinition) (before after : AppState) : Prop where
  services : ∃ v : Option ServiceDefinition, (∀ s, v = some s → s = admitted) ∧
    ∀ id : ServiceId, after.services[id]? =
      if admitted.serviceId = id then v else before.services[id]?
  rows : env.put = .ok () → ∃ v : Option ServiceDefinition, (∀ s, v = some s → s = admitted) ∧
    ∀ key : String, after.store.services[key]? =
      if admitted.serviceId.text = key then v else before.store.services[key]?
  rowsKept : env.put ≠ .ok () → after.store.services = before.store.services
  listeners : ∀ id : ServiceId, admitted.serviceId ≠ id →
    after.tcpIngressTasks[id]? = before.tcpIngressTasks[id]?

section
variable (cfg : RelayConfig) (env : Env) (service : ServiceDefinition) (nodeId : NodeId)
  (st : AppState)

/-- **What a registration touches.** -/
theorem registerService_footprint :
    ((∃ e, admitService cfg st.services service nodeId = .error e) ∧
      (registerService cfg env service nodeId st).1 = st) ∨
    ∃ admitted, admitService cfg st.services service nodeId = .ok admitted ∧
      Footprint env admitted st (registerService cfg env service nodeId st).1 := by
  have hinsert (s : ServiceDefinition) (id : ServiceId) :
      (st.services.insert s.serviceId s)[id]? =
        if s.serviceId = id then some s else st.services[id]? := BTreeMap.get_insert _ _ _ _
  have hcases := registerService_cases cfg env service nodeId st
  generalize registerService cfg env service nodeId st = result at hcases
  cases hcases with
  | @refused e h => exact .inl ⟨⟨e, h⟩, rfl⟩
  | @notStored admitted e h hput =>
    refine .inr ⟨admitted, h, ⟨some admitted, fun s hs => (Option.some.inj hs).symm, hinsert admitted⟩,
      fun hok => ?_, fun _ => rfl, fun _ _ => rfl⟩
    rw [hput] at hok
    cases hok
  | @stored admitted h hput hserved =>
    refine .inr ⟨admitted, h, ⟨some admitted, fun s hs => (Option.some.inj hs).symm, hinsert admitted⟩,
      fun _ => ⟨some admitted, fun s hs => (Option.some.inj hs).symm, fun key => ?_⟩,
      fun hne => absurd hput hne, fun _ _ => rfl⟩
    simp only [recordEvent_store_services, putService, hput, commit_ok, ServiceStore.put,
      BTreeMap.get_insert, insertService]
  | @listening admitted port h hput htcp hport hserved hbind =>
    refine .inr ⟨admitted, h, ⟨some admitted, fun s hs => (Option.some.inj hs).symm, hinsert admitted⟩,
      fun _ => ⟨some admitted, fun s hs => (Option.some.inj hs).symm, fun key => ?_⟩,
      fun hne => absurd hput hne, fun id hid => BTreeMap.get_insert_ne _ _ hid⟩
    simp only [recordEvent_store_services, insertTask, putService, hput, commit_ok,
      ServiceStore.put, BTreeMap.get_insert, insertService]
  | @rolledBack admitted port e e' h hput htcp hport hserved hbind =>
    -- the entry is gone, the row as well unless the delete fails
    refine .inr ⟨admitted, h, ⟨none, fun s hs => (by cases hs), fun id => ?_⟩, fun _ => ?_,
      fun hne => absurd hput hne, fun _ _ => rfl⟩
    · show ((st.services.insert admitted.serviceId admitted).erase admitted.serviceId)[id]? = _
      rw [BTreeMap.get_erase, hinsert]
      split <;> rfl
    · cases hdelete : env.delete with
      | ok _ =>
        refine ⟨none, fun s hs => (by cases hs), fun key => ?_⟩
        simp only [deleteRow, hdelete, removeService, putService, hput, commit_ok,
          ServiceStore.put, ServiceStore.delete, BTreeMap.get_erase, BTreeMap.get_insert,
          insertService]
        split <;> rfl
      | error _ =>
        refine ⟨some admitted, fun s hs => (Option.some.inj hs).symm, fun key => ?_⟩
        simp only [deleteRow, hdelete, removeService, putService, hput, commit_ok, commit_error,
          ServiceStore.put, BTreeMap.get_insert, insertService]

end

/-- The directory holds another node's service under the id. -/
def ForeignEntry (st : AppState) (id : ServiceId) (nodeId : NodeId) : Prop :=
  ∃ s, st.services[id]? = some s ∧ s.nodeId ≠ nodeId

/-- The store holds another node's service under the id. -/
def ForeignRow (st : AppState) (id : ServiceId) (nodeId : NodeId) : Prop :=
  ∃ s, st.store.services[id.text]? = some s ∧ s.nodeId ≠ nodeId

/-- The registration reaches its insert, under an id that is another node's in
the directory, or in the store that then takes its row. -/
def TakesOver (cfg : RelayConfig) (env : Env) (service : ServiceDefinition) (nodeId : NodeId)
    (st : AppState) : Prop :=
  Admissible cfg st.services service nodeId ∧
    (ForeignEntry st (storedId st.services service nodeId) nodeId ∨
      env.put = .ok () ∧ ForeignRow st (storedId st.services service nodeId) nodeId)

theorem OthersKept.refl (nodeId : NodeId) (st : AppState) : OthersKept nodeId st st :=
  ⟨fun _ _ hs _ => hs, fun _ _ hs _ => hs, fun _ _ _ _ _ _ _ _ _ hs' _ => hs', fun _ _ _ _ => rfl⟩

theorem takesOver_not_kept {cfg : RelayConfig} {env : Env} {service : ServiceDefinition}
    {nodeId : NodeId} {st : AppState} (hnode : service.nodeId = nodeId)
    (h : TakesOver cfg env service nodeId st) :
    ¬OthersKept nodeId st (registerService cfg env service nodeId st).1 := by
  intro hkept
  obtain ⟨hadmissible, hforeign⟩ := h
  obtain ⟨admitted, hadmitted⟩ := admits_iff.mpr hadmissible
  rcases registerService_footprint cfg env service nodeId st with ⟨⟨e, he⟩, -⟩ | ⟨_, hok, hprint⟩
  · rw [hadmitted] at he
    cases he
  · rw [hadmitted] at hok
    cases hok
    have hspec := admitService_spec hadmitted
    -- what is stored under the id is the request's own node's, or nothing
    have hown {v : Option ServiceDefinition} (hv : ∀ s, v = some s → s = admitted)
        {s : ServiceDefinition} (hs : v = some s) : s.nodeId = nodeId := by
      rw [hv s hs, hspec.serviceNode, hnode]
    rcases hforeign with ⟨s, hs, hne⟩ | ⟨hput, s, hs, hne⟩
    · obtain ⟨v, hv, hget⟩ := hprint.services
      have hafter := hkept.services _ s hs hne
      rw [hget, if_pos hspec.serviceId] at hafter
      exact hne (hown hv hafter)
    · obtain ⟨v, hv, hget⟩ := hprint.rows hput
      have hafter := hkept.rows _ s hs hne
      rw [hget, if_pos (congrArg UuidId.text hspec.serviceId)] at hafter
      exact hne (hown hv hafter)

theorem kept_of_not_takesOver {cfg : RelayConfig} {env : Env} {service : ServiceDefinition}
    {nodeId : NodeId} {st : AppState} (hkeys : KeysMatch st.services)
    (h : ¬TakesOver cfg env service nodeId st) :
    OthersKept nodeId st (registerService cfg env service nodeId st).1 := by
  rcases registerService_footprint cfg env service nodeId st with
    ⟨-, hst⟩ | ⟨admitted, hadmitted, hprint⟩
  · rw [hst]
    exact .refl nodeId st
  · have hspec := admitService_spec hadmitted
    have hadmissible := admits_iff.mp ⟨admitted, hadmitted⟩
    have hentry {id : ServiceId} {s : ServiceDefinition} (hs : st.services[id]? = some s)
        (hne : s.nodeId ≠ nodeId) : admitted.serviceId ≠ id := by
      intro hid
      rw [← hid, hspec.serviceId] at hs
      exact h ⟨hadmissible, .inl ⟨s, hs, hne⟩⟩
    obtain ⟨v, hv, hget⟩ := hprint.services
    refine ⟨fun id s hs hne => ?_, fun key s hs hne => ?_,
      fun id s port hs hne hlease id' s' hid hs' hlease' => ?_,
      fun id s hs hne => hprint.listeners id (hentry hs hne)⟩
    · -- another node's entry is under another id
      rw [hget, if_neg (hentry hs hne), hs]
    · by_cases hput : env.put = .ok ()
      · obtain ⟨w, -, hrow⟩ := hprint.rows hput
        have hkey : admitted.serviceId.text ≠ key := by
          intro hkey
          rw [← hkey, hspec.serviceId] at hs
          exact h ⟨hadmissible, .inr ⟨hput, s, hs, hne⟩⟩
        rw [hrow, if_neg hkey, hs]
      · rw [hprint.rowsKept hput, hs]
    · rw [hget] at hs'
      by_cases hid' : admitted.serviceId = id'
      · -- the new entry was given a port that no other entry leases
        rw [if_pos hid'] at hs'
        rw [hv s' hs'] at hlease'
        have hfree := hspec.leaseFree port hlease'
        have hleased : portLeased st.services admitted.serviceId port = true :=
          portLeased_iff.mpr ⟨id, s, hs, (hkeys id s hs).trans_ne (hid'.trans_ne hid).symm, hlease⟩
        rw [hfree] at hleased
        cases hleased
      · rw [if_neg hid'] at hs'
        exact hs'

/-- **The services of other nodes** are as they were after a registration, in
every control plane reached, exactly when it does not take one of them over. -/
theorem others_kept_iff {cfg : RelayConfig} {p : ControlPlane} (hreached : Reached cfg p) (env : Env)
    {service : ServiceDefinition} {nodeId : NodeId} (hnode : service.nodeId = nodeId) :
    OthersKept nodeId p.shared (registerService cfg env service nodeId p.shared).1 ↔
      ¬TakesOver cfg env service nodeId p.shared :=
  ⟨fun hkept htakes => takesOver_not_kept hnode htakes hkept,
    fun h => kept_of_not_takesOver hreached.keysMatch h⟩

/-! ## A service taken over by its id -/

namespace TakenOver

/-- Node 7 has published a service under the id 1, and node 8 has registered. -/
def events : List (Event Env ControlTask) :=
  Sample.connects 0 11 7 ++ Sample.registers 0 ++
    [.run 0 { input := .ok (.registerService (Sample.service 1 "api" 7 .http none)) },
      .run 0 {}, .run 0 {}, .run 0 {}] ++
    Sample.connects 1 12 8 ++ Sample.registers 1

/-- Node 8 asks for the same id under another name. -/
def service : ServiceDefinition := Sample.service 1 "web" 8 .http none

end TakenOver

open TakenOver in
/-- **A node takes over the service of another by its id.** -/
theorem registration_takes_over :
    (Sample.reached events).shared.services[(⟨1⟩ : ServiceId)]?.map ServiceDefinition.nodeId =
      some ⟨7⟩ ∧
    (registerService Sample.config {} service ⟨8⟩
      (Sample.reached events).shared).1.services[(⟨1⟩ : ServiceId)]?.map
        ServiceDefinition.nodeId = some ⟨8⟩ ∧
    ¬∀ (cfg : RelayConfig) (p : ControlPlane) (env : Env) (service : ServiceDefinition)
      (nodeId : NodeId), Reached cfg p → service.nodeId = nodeId →
      OthersKept nodeId p.shared (registerService cfg env service nodeId p.shared).1 := by
  have hbefore : (Sample.reached events).shared.services[(⟨1⟩ : ServiceId)]?.map
      ServiceDefinition.nodeId = some ⟨7⟩ := by decide +kernel
  have hafter : (registerService Sample.config {} service ⟨8⟩
      (Sample.reached events).shared).1.services[(⟨1⟩ : ServiceId)]?.map
        ServiceDefinition.nodeId = some ⟨8⟩ := by decide +kernel
  refine ⟨hbefore, hafter, fun h => ?_⟩
  obtain ⟨s, hs, hnode⟩ := Option.map_eq_some_iff.mp hbefore
  have hkept := (h Sample.config _ {} service ⟨8⟩ (Sample.reached_ok events) rfl).services
    ⟨1⟩ s hs (by rw [hnode]; decide)
  rw [hkept, Option.map_some, hnode] at hafter
  cases hafter

open TakenOver in
theorem others_kept_own_id :
    OthersKept ⟨8⟩ (Sample.reached events).shared (registerService Sample.config {}
        (Sample.service 2 "web" 8 .http none) ⟨8⟩ (Sample.reached events).shared).1 ↔
      ¬TakesOver Sample.config {} (Sample.service 2 "web" 8 .http none) ⟨8⟩
        (Sample.reached events).shared :=
  others_kept_iff (Sample.reached_ok events) {} rfl

end OngrokRelay
