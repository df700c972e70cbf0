import OngrokRelay.ControlPlane

/-
  What a registration that fails leaves behind.

  `register_service` fails at nine places. Up to the insert nothing has changed;
  a store that refuses the row leaves the insert in the directory, and the
  branch for a port that cannot be bound removes entry and row whether the
  registration made them or replaced them.

  1. `admitService_resolved`: the definition a registration inserts, computed
     from the request and the directory.
  2. `failed_registration_iff`: a registration that fails leaves no trace exactly
     when it is not one of those two kinds.
  3. `failed_registration_withdraws`: a node that publishes a name as TCP while the
     port is taken loses the HTTP service it had under the name.
-/

namespace OngrokRelay

open Interleaving

/-- Directory, services table and listeners are as they were. -/
structure NoTrace (before after : AppState) : Prop where
  services : after.services = before.services
  rows : after.store.services = before.store.services
  listeners : after.tcpIngressTasks = before.tcpIngressTasks

/-- The definition a request stands for: under the id its name has with the
node, at the address of its protocol. -/
def resolved (cfg : RelayConfig) (services : Services) (service : ServiceDefinition)
    (nodeId : NodeId) : ServiceDefinition :=
  let service := reusePrevious services nodeId service
  match service.protocol with
  | .tcp =>
    { service with
      publicPort := wantedPort cfg services service
      publicHost := some cfg.publicHost }
  | .http | .https =>
    { service with
      publicHost := cfg.httpDomain.map fun domain => service.serviceName ++ "." ++ domain
      publicPort := none }

/-- The registration fails with something changed: it is admissible, and the
store refuses a row that the directory does not hold yet, or the port of an id
without a listener cannot be bound while there is an entry or a row to lose. -/
def LeavesTrace (cfg : RelayConfig) (env : Env) (service : ServiceDefinition) (nodeId : NodeId)
    (st : AppState) : Prop :=
  let id := storedId st.services service nodeId
  Admissible cfg st.services service nodeId ∧
    (env.put ≠ .ok () ∧ st.services[id]? ≠ some (resolved cfg st.services service nodeId) ∨
      env.put = .ok () ∧ service.protocol = .tcp ∧ id ∉ st.tcpIngressTasks ∧
        (∃ port, wantedPort cfg st.services (reusePrevious st.services nodeId service) = some port ∧
          env.bind port ≠ .ok ()) ∧
        (st.services[id]? ≠ none ∨ st.store.services[id.text]? ≠ none))

/-- **What a registration inserts**, computed from the request. -/
theorem admitService_resolved {cfg : RelayConfig} {services : Services}
    {service admitted : ServiceDefinition} {nodeId : NodeId}
    (h : admitService cfg services service nodeId = .ok admitted) :
    admitted = resolved cfg services service nodeId := by
  unfold admitService at h
  split at h
  · cases h
  · split at h
    · cases h
    · split at h
      · cases h
      · unfold assignAddress at h
        unfold resolved
        split at h
        · rename_i hproto
          simp only [hproto]
          split at h
          · cases h
          · rename_i port hport
            rw [hport]
            -- of the two checks of the port, neither changes the definition
            split at h
            · cases h
            · split at h
              · cases h
              · cases h
                rw [hproto]
        all_goals
          rename_i hproto
          simp only [hproto]
          split at h
          · cases h
          · rename_i domain hdomain
            cases h
            rw [hdomain, hproto]
            rfl

section
variable {cfg : RelayConfig} {env : Env} {service admitted : ServiceDefinition} {nodeId : NodeId}
  {st : AppState}

/-- Without the row, the insert stays: a trace unless the entry was there. -/
theorem notStored_noTrace_iff (h : admitService cfg st.services service nodeId = .ok admitted) :
    NoTrace st (insertService admitted st) ↔
      st.services[storedId st.services service nodeId]? =
        some (resolved cfg st.services service nodeId) := by
  rw [← admitService_resolved h, ← (admitService_spec h).serviceId, ← BTreeMap.insert_eq_self_iff]
  exact ⟨fun htrace => htrace.services, fun hsame => ⟨hsame, rfl, rfl⟩⟩

/-- The removal leaves no trace when there was nothing to remove. -/
theorem rolledBack_noTrace_iff (h : admitService cfg st.services service nodeId = .ok admitted)
    (hput : env.put = .ok ()) (hdelete : env.delete = .ok ()) :
    NoTrace st (deleteRow env admitted.serviceId (removeService admitted.serviceId
        (putService env admitted (insertService admitted st)))) ↔
      st.services[storedId st.services service nodeId]? = none ∧
        st.store.services[(storedId st.services service nodeId).text]? = none := by
  have hservices : (deleteRow env admitted.serviceId (removeService admitted.serviceId
      (putService env admitted (insertService admitted st)))).services =
        st.services.erase admitted.serviceId := BTreeMap.erase_insert _ _ _
  have hrows : (deleteRow env admitted.serviceId (removeService admitted.serviceId
      (putService env admitted (insertService admitted st)))).store.services =
        st.store.services.erase admitted.serviceId.text := by
    simp only [deleteRow, removeService, putService, insertService, hput, hdelete, commit_ok,
      ServiceStore.put, ServiceStore.delete, BTreeMap.erase_insert]
  rw [← (admitService_spec h).serviceId, ← BTreeMap.erase_eq_self_iff, ← BTreeMap.erase_eq_self_iff]
  constructor
  · intro htrace
    exact ⟨hservices.symm.trans htrace.services, hrows.symm.trans htrace.rows⟩
  · intro hsame
    exact ⟨hservices.trans hsame.1, hrows.trans hsame.2, rfl⟩

end

/-- **A failed registration leaves no trace**, in any state of the server,
exactly when it is not one that fails with something changed. -/
theorem failed_registration_iff (cfg : RelayConfig) (env : Env) (hdelete : env.delete = .ok ())
    (service : ServiceDefinition) (nodeId : NodeId) (st : AppState) :
    (∀ e, (registerService cfg env service nodeId st).2 = .error e →
      NoTrace st (registerService cfg env service nodeId st).1) ↔
    ¬LeavesTrace cfg env service nodeId st := by
  have hcases := registerService_cases cfg env service nodeId st
  generalize registerService cfg env service nodeId st = result at hcases
  have hport {admitted : ServiceDefinition} {port : UInt16}
      (h : admitService cfg st.services service nodeId = .ok admitted)
      (htcp : admitted.protocol = .tcp) (hport : admitted.publicPort = some port) :
      wantedPort cfg st.services (reusePrevious st.services nodeId service) = some port := by
    rw [← (admitService_spec h).port ((admitService_spec h).protocol.symm.trans htcp), hport]
  cases hcases with
  | @refused e h =>
    refine iff_of_true (fun _ _ => ⟨rfl, rfl, rfl⟩) fun htrace => ?_
    obtain ⟨admitted, hok⟩ := admits_iff.mpr htrace.1
    rw [h] at hok
    cases hok
  | @notStored admitted e h hput =>
    have hiff := notStored_noTrace_iff h
    have hadmissible := admits_iff.mp ⟨admitted, h⟩
    constructor
    · intro hall htrace
      obtain ⟨-, ⟨-, hother⟩ | ⟨hok, -⟩⟩ := htrace
      · exact hother (hiff.mp (hall e rfl))
      · rw [hput] at hok
        cases hok
    · intro htrace _ _
      refine hiff.mpr (Classical.not_not.mp fun hother => htrace ⟨hadmissible, .inl ⟨?_, hother⟩⟩)
      rw [hput]
      exact fun hok => by cases hok
  | @stored admitted h hput hserved =>
    refine iff_of_true (fun e he => by cases he) fun htrace => ?_
    obtain ⟨-, ⟨hfails, -⟩ | ⟨-, htcp, hunserved, -⟩⟩ := htrace
    · exact hfails hput
    · rw [← (admitService_spec h).serviceId] at hunserved
      exact hunserved (hserved ((admitService_spec h).protocol.trans htcp))
  | @listening admitted port h hput htcp hpublic hserved hbind =>
    refine iff_of_true (fun e he => by cases he) fun htrace => ?_
    obtain ⟨-, ⟨hfails, -⟩ | ⟨-, -, -, ⟨port', hwanted, hfails⟩, -⟩⟩ := htrace
    · exact hfails hput
    · rw [hport h htcp hpublic] at hwanted
      cases hwanted
      exact hfails hbind
  | @rolledBack admitted port e e' h hput htcp hpublic hserved hbind =>
    have hiff := rolledBack_noTrace_iff h hput hdelete
    have hspec := admitService_spec h
    have hadmissible := admits_iff.mp ⟨admitted, h⟩
    constructor
    · intro hall htrace
      obtain ⟨hentry, hrow⟩ := hiff.mp (hall e' rfl)
      obtain ⟨-, ⟨hfails, -⟩ | ⟨-, -, -, -, hlost | hlost⟩⟩ := htrace
      · exact hfails hput
      · exact hlost hentry
      · exact hlost hrow
    · intro htrace _ _
      have hlost := fun hlost => htrace ⟨hadmissible, .inr ⟨hput, hspec.protocol.symm.trans htcp,
        hspec.serviceId ▸ hserved, ⟨port, hport h htcp hpublic, by rw [hbind]; exact fun hok => by cases hok⟩,
        hlost⟩⟩
      exact hiff.mpr ⟨Classical.not_not.mp fun hentry => hlost (.inl hentry),
        Classical.not_not.mp fun hrow => hlost (.inr hrow)⟩

/-! ## A service lost to a port that was taken -/

namespace Withdrawn

/-- Node 7 has registered and published a name as HTTP. -/
def events : List (Event Env ControlTask) :=
  Sample.connects 0 11 7 ++ Sample.registers 0 ++
    [.run 0 { input := .ok (.registerService (Sample.service 1 "api" 7 .http none)) },
      .run 0 {}, .run 0 {}, .run 0 {}]

/-- It publishes the name again, as TCP. -/
def service : ServiceDefinition := Sample.service 2 "api" 7 .tcp none

/-- Every port is taken. -/
def env : Env := { bind := fun _ => .error "address in use" }

end Withdrawn

open Withdrawn in
/-- **A port that is taken costs the node the service it had.** -/
theorem failed_registration_withdraws :
    (registerService Sample.config env service ⟨7⟩ (Sample.reached events).shared).2 =
      .error "failed to activate TCP relay port" ∧
    (Sample.reached events).shared.services[(⟨1⟩ : ServiceId)]?.isSome ∧
    ¬∀ (cfg : RelayConfig) (p : ControlPlane) (env : Env) (service : ServiceDefinition)
      (nodeId : NodeId) (e : String), ControlPlane.Reached cfg p → env.delete = .ok () →
      (registerService cfg env service nodeId p.shared).2 = .error e →
      NoTrace p.shared (registerService cfg env service nodeId p.shared).1 := by
  have hfails : (registerService Sample.config env service ⟨7⟩ (Sample.reached events).shared).2 =
      .error "failed to activate TCP relay port" := by decide +kernel
  have hbefore : (Sample.reached events).shared.services[(⟨1⟩ : ServiceId)]?.isSome := by
    decide +kernel
  have hafter : (registerService Sample.config env service ⟨7⟩
      (Sample.reached events).shared).1.services[(⟨1⟩ : ServiceId)]?.isSome = false := by
    decide +kernel
  refine ⟨hfails, hbefore, fun h => ?_⟩
  have htrace := h Sample.config _ env service ⟨7⟩ _ (Sample.reached_ok events) rfl hfails
  rw [htrace.services, hbefore] at hafter
  cases hafter

open Withdrawn in
theorem failed_registration_fresh :
    (∀ e, (registerService Sample.config env service ⟨7⟩ Sample.started).2 = .error e →
      NoTrace Sample.started (registerService Sample.config env service ⟨7⟩ Sample.started).1) ↔
    ¬LeavesTrace Sample.config env service ⟨7⟩ Sample.started :=
  failed_registration_iff Sample.config env rfl service ⟨7⟩ Sample.started

end OngrokRelay
