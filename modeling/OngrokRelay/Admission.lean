import OngrokRelay.Directory

/-
  What registration decides: when `register_service` gets as far as its insert,
  and what it then inserts.

  1. `admitService_spec`: an admitted definition has a valid name that no other
     node uses, valid metadata, the id the name already has with its node (else
     the requested one), and an address of the form its protocol calls for, on
     a port no other service leases.
  2. `admits_iff`: exactly which requests are admitted, in terms of the request
     and the directory.
  3. `registerService_cases`: how a registration ends, with the state it leaves.
-/

namespace OngrokRelay

theorem leases_iff {port : UInt16} {service : ServiceDefinition} :
    leases port service = true ↔ service.protocol = .tcp ∧ service.publicPort = some port := by
  simp only [leases, Bool.and_eq_true, beq_iff_eq]

theorem nameTaken_iff {services : Services} {service : ServiceDefinition} {nodeId : NodeId} :
    nameTaken services service nodeId = true ↔ ∃ (id : ServiceId) (existing : ServiceDefinition),
      services[id]? = some existing ∧
      existing.serviceName = service.serviceName ∧ existing.nodeId ≠ nodeId := by
  simp only [nameTaken, BTreeMap.any_values_iff, Bool.and_eq_true, beq_iff_eq, bne_iff_ne]

theorem portLeased_iff {services : Services} {serviceId : ServiceId} {port : UInt16} :
    portLeased services serviceId port = true ↔ ∃ (id : ServiceId) (existing : ServiceDefinition),
      services[id]? = some existing ∧
      existing.serviceId ≠ serviceId ∧ leases port existing = true := by
  simp only [portLeased, BTreeMap.any_values_iff, Bool.and_eq_true, bne_iff_ne]

theorem previousService_some {services : Services} {service previous : ServiceDefinition}
    {nodeId : NodeId} (h : previousService services service nodeId = some previous) :
    (∃ id : ServiceId, services[id]? = some previous) ∧ previous.nodeId = nodeId ∧
      previous.serviceName = service.serviceName := by
  obtain ⟨hmem, hp⟩ := BTreeMap.find_values_some h
  simp only [Bool.and_eq_true, beq_iff_eq] at hp
  exact ⟨hmem, hp⟩

theorem previousService_none {services : Services} {service : ServiceDefinition}
    {nodeId : NodeId} (h : previousService services service nodeId = none) {id : ServiceId}
    {existing : ServiceDefinition} (he : services[id]? = some existing)
    (hnode : existing.nodeId = nodeId) : existing.serviceName ≠ service.serviceName := by
  have hp := BTreeMap.find_values_none.mp h id existing he
  intro hname
  simp [hnode, hname] at hp

/-- The id a registration is stored under. -/
def storedId (services : Services) (service : ServiceDefinition) (nodeId : NodeId) : ServiceId :=
  (reusePrevious services nodeId service).serviceId

/-! Reusing an entry of the node changes the id and the port only. -/

section
variable (services : Services) (nodeId : NodeId) (service : ServiceDefinition)

@[simp] theorem reusePrevious_serviceName :
    (reusePrevious services nodeId service).serviceName = service.serviceName := by
  unfold reusePrevious; split <;> rfl
@[simp] theorem reusePrevious_nodeId :
    (reusePrevious services nodeId service).nodeId = service.nodeId := by
  unfold reusePrevious; split <;> rfl
@[simp] theorem reusePrevious_protocol :
    (reusePrevious services nodeId service).protocol = service.protocol := by
  unfold reusePrevious; split <;> rfl
@[simp] theorem reusePrevious_metadata :
    (reusePrevious services nodeId service).metadata = service.metadata := by
  unfold reusePrevious; split <;> rfl
@[simp] theorem reusePrevious_localAddress :
    (reusePrevious services nodeId service).localAddress = service.localAddress := by
  unfold reusePrevious; split <;> rfl

end

/-- The address has the form its protocol calls for. -/
def WellAddressed (cfg : RelayConfig) (service : ServiceDefinition) : Prop :=
  match service.protocol with
  | .tcp => service.publicHost = some cfg.publicHost ∧
      ∃ port, service.publicPort = some port ∧ cfg.tcpPortStart ≤ port ∧ port ≤ cfg.tcpPortEnd
  | .http | .https => service.publicPort = none ∧
      ∃ domain, cfg.httpDomain = some domain ∧
        service.publicHost = some (service.serviceName ++ "." ++ domain)

/-- What registration guarantees of a definition it inserts for a request. -/
structure Admitted (cfg : RelayConfig) (services : Services) (service : ServiceDefinition)
    (nodeId : NodeId) (admitted : ServiceDefinition) : Prop where
  name : validateServiceName service.serviceName = .ok ()
  metadata : service.metadata.validate = .ok ()
  nameFree : nameTaken services service nodeId = false
  serviceName : admitted.serviceName = service.serviceName
  serviceMetadata : admitted.metadata = service.metadata
  serviceNode : admitted.nodeId = service.nodeId
  protocol : admitted.protocol = service.protocol
  serviceId : admitted.serviceId = storedId services service nodeId
  address : WellAddressed cfg admitted
  port : service.protocol = .tcp →
    admitted.publicPort = wantedPort cfg services (reusePrevious services nodeId service)
  leaseFree : ∀ port, leases port admitted = true →
    portLeased services admitted.serviceId port = false

theorem assignAddress_spec {cfg : RelayConfig} {services : Services}
    {service admitted : ServiceDefinition}
    (h : assignAddress cfg services service = .ok admitted) :
    admitted = { service with publicHost := admitted.publicHost, publicPort := admitted.publicPort } ∧
    WellAddressed cfg admitted ∧
    (service.protocol = .tcp → admitted.publicPort = wantedPort cfg services service) ∧
    ∀ port, leases port admitted = true → portLeased services service.serviceId port = false := by
  unfold assignAddress at h
  split at h
  · rename_i hproto
    -- what is left of the TCP branch: a port, in the range, leased by nobody else
    split at h
    · cases h
    · rename_i port hport
      split at h
      · cases h
      · rename_i hrange
        split at h
        · cases h
        · rename_i hleased
          cases h
          simp only [not_or, UInt16.not_lt] at hrange
          refine ⟨rfl, ?_, fun _ => hport.symm, fun p hp => ?_⟩
          · simp only [WellAddressed, hproto]
            exact ⟨trivial, port, rfl, hrange.1, hrange.2⟩
          · obtain ⟨-, hp⟩ := leases_iff.mp hp
            cases hp
            exact Bool.eq_false_iff.mpr hleased
  all_goals
    rename_i hproto
    split at h
    · cases h
    · rename_i domain hdomain
      cases h
      refine ⟨rfl, ?_, fun ht => ?_, fun p hp => ?_⟩
      · simp only [WellAddressed, hproto]
        exact ⟨trivial, domain, hdomain, rfl⟩
      · rw [hproto] at ht; cases ht
      · -- an HTTP service has no port to lease
        rw [leases_iff] at hp
        simp at hp

/-- **What is inserted.** -/
theorem admitService_spec {cfg : RelayConfig} {services : Services}
    {service admitted : ServiceDefinition} {nodeId : NodeId}
    (h : admitService cfg services service nodeId = .ok admitted) :
    Admitted cfg services service nodeId admitted := by
  unfold admitService at h
  split at h
  · cases h
  · rename_i hname
    split at h
    · cases h
    · rename_i hmeta
      split at h
      · cases h
      · rename_i hfree
        obtain ⟨heq, haddr, hport, hlease⟩ := assignAddress_spec h
        refine ⟨hname, hmeta, Bool.eq_false_iff.mpr hfree, ?_, ?_, ?_, ?_, ?_, haddr, ?_, ?_⟩
        · rw [heq]; simp
        · rw [heq]; simp
        · rw [heq]; simp
        · rw [heq]; simp
        · rw [heq]; rfl
        · intro ht; exact hport (by simpa using ht)
        · intro p hp
          have hid : admitted.serviceId = (reusePrevious services nodeId service).serviceId := by
            rw [heq]
          rw [hid]; exact hlease p hp

/-- What a request must meet for its registration to reach the insert. -/
structure Admissible (cfg : RelayConfig) (services : Services) (service : ServiceDefinition)
    (nodeId : NodeId) : Prop where
  name : validateServiceName service.serviceName = .ok ()
  metadata : service.metadata.validate = .ok ()
  nameFree : nameTaken services service nodeId = false
  tcp : service.protocol = .tcp →
    ∃ port, wantedPort cfg services (reusePrevious services nodeId service) = some port ∧
      cfg.tcpPortStart ≤ port ∧ port ≤ cfg.tcpPortEnd ∧
      portLeased services (storedId services service nodeId) port = false
  hosted : service.protocol ≠ .tcp → cfg.httpDomain.isSome

theorem assignAddress_ok {cfg : RelayConfig} {services : Services} {service : ServiceDefinition}
    (htcp : service.protocol = .tcp → ∃ port, wantedPort cfg services service = some port ∧
      cfg.tcpPortStart ≤ port ∧ port ≤ cfg.tcpPortEnd ∧
      portLeased services service.serviceId port = false)
    (hosted : service.protocol ≠ .tcp → cfg.httpDomain.isSome) :
    ∃ admitted, assignAddress cfg services service = .ok admitted := by
  unfold assignAddress
  cases hproto : service.protocol with
  | tcp =>
    obtain ⟨port, hport, hlow, hhigh, hleased⟩ := htcp hproto
    have hrange : ¬(port < cfg.tcpPortStart ∨ port > cfg.tcpPortEnd) := by
      simp only [not_or, gt_iff_lt, UInt16.not_lt]
      exact ⟨hlow, hhigh⟩
    simp only [hport, if_neg hrange, hleased, Bool.false_eq_true, if_false]
    exact ⟨_, rfl⟩
  | http | https =>
    obtain ⟨domain, hdomain⟩ := Option.isSome_iff_exists.mp (hosted (by rw [hproto]; decide))
    simp only [hdomain]
    exact ⟨_, rfl⟩

/-- **Which requests are admitted.** -/
theorem admits_iff {cfg : RelayConfig} {services : Services} {service : ServiceDefinition}
    {nodeId : NodeId} : (∃ admitted, admitService cfg services service nodeId = .ok admitted) ↔
      Admissible cfg services service nodeId := by
  constructor
  · intro hok
    obtain ⟨admitted, h⟩ := hok
    have hspec := admitService_spec h
    refine ⟨hspec.name, hspec.metadata, hspec.nameFree, fun ht => ?_, fun ht => ?_⟩
    · have haddr := hspec.address
      simp only [WellAddressed, hspec.protocol, ht] at haddr
      obtain ⟨-, port, hport, hlow, hhigh⟩ := haddr
      refine ⟨port, by rw [← hspec.port ht, hport], hlow, hhigh, ?_⟩
      rw [← hspec.serviceId]
      exact hspec.leaseFree port (leases_iff.mpr ⟨hspec.protocol.trans ht, hport⟩)
    · have haddr := hspec.address
      cases hproto : service.protocol with
      | tcp => exact absurd hproto ht
      | http | https =>
        simp only [WellAddressed, hspec.protocol, hproto] at haddr
        obtain ⟨-, domain, hdomain, -⟩ := haddr
        rw [hdomain]; rfl
  · intro h
    unfold admitService
    simp only [h.name, h.metadata, h.nameFree, Bool.false_eq_true, if_false]
    exact assignAddress_ok (by simpa [storedId] using h.tcp) (by simpa using h.hosted)

/-- How a registration ends: the state it leaves and what it returns. -/
inductive Registers (cfg : RelayConfig) (env : Env) (service : ServiceDefinition)
    (nodeId : NodeId) (st : AppState) : AppState × Except String ServiceDefinition → Prop
  | refused {e : String} (h : admitService cfg st.services service nodeId = .error e) :
    Registers cfg env service nodeId st (st, .error e)
  | notStored {admitted : ServiceDefinition} {e : String}
      (h : admitService cfg st.services service nodeId = .ok admitted)
      (hput : env.put = .error e) :
    Registers cfg env service nodeId st (insertService admitted st, .error e)
  | stored {admitted : ServiceDefinition}
      (h : admitService cfg st.services service nodeId = .ok admitted) (hput : env.put = .ok ())
      (hserved : admitted.protocol = .tcp → admitted.serviceId ∈ st.tcpIngressTasks) :
    Registers cfg env service nodeId st
      (recordEvent env .serviceRegistered (some nodeId) (some admitted.serviceId) none
        (putService env admitted (insertService admitted st)), .ok admitted)
  | listening {admitted : ServiceDefinition} {port : UInt16}
      (h : admitService cfg st.services service nodeId = .ok admitted) (hput : env.put = .ok ())
      (htcp : admitted.protocol = .tcp) (hport : admitted.publicPort = some port)
      (hserved : admitted.serviceId ∉ st.tcpIngressTasks) (hbind : env.bind port = .ok ()) :
    Registers cfg env service nodeId st
      (recordEvent env .serviceRegistered (some nodeId) (some admitted.serviceId) none
        (insertTask admitted.serviceId port
          (putService env admitted (insertService admitted st))), .ok admitted)
  | rolledBack {admitted : ServiceDefinition} {port : UInt16} {e e' : String}
      (h : admitService cfg st.services service nodeId = .ok admitted) (hput : env.put = .ok ())
      (htcp : admitted.protocol = .tcp) (hport : admitted.publicPort = some port)
      (hserved : admitted.serviceId ∉ st.tcpIngressTasks) (hbind : env.bind port = .error e) :
    Registers cfg env service nodeId st
      (deleteRow env admitted.serviceId (removeService admitted.serviceId
        (putService env admitted (insertService admitted st))), .error e')

/-- **How a registration ends.** -/
theorem registerService_cases (cfg : RelayConfig) (env : Env) (service : ServiceDefinition)
    (nodeId : NodeId) (st : AppState) :
    Registers cfg env service nodeId st (registerService cfg env service nodeId st) := by
  unfold registerService registerLocked
  cases h : admitService cfg st.services service nodeId with
  | error e => exact .refused h
  | ok admitted =>
    cases hput : env.put with
    | error e =>
      have hst : putService env admitted (insertService admitted st) = insertService admitted st := by
        simp only [putService, hput, commit_error]
      simp only [hst]
      exact .notStored h hput
    | ok _ =>
      by_cases htcp : admitted.protocol = .tcp
      · -- an admitted TCP service has a port, so only the listener decides
        have haddr := (admitService_spec h).address
        simp only [WellAddressed, htcp] at haddr
        obtain ⟨-, port, hport, -⟩ := haddr
        simp only [if_pos htcp, ensureTcpIngress, hport]
        by_cases hserved : admitted.serviceId ∈ st.tcpIngressTasks
        · have hc : (putService env admitted (insertService admitted st)).tcpIngressTasks.contains
              admitted.serviceId = true := Std.ExtTreeMap.mem_iff_contains.mp hserved
          simp only [hc, if_true]
          exact .stored h hput fun _ => hserved
        · have hc : (putService env admitted (insertService admitted st)).tcpIngressTasks.contains
              admitted.serviceId = false :=
            Bool.eq_false_iff.mpr fun hc => hserved (Std.ExtTreeMap.mem_iff_contains.mpr hc)
          simp only [hc, Bool.false_eq_true, if_false]
          cases hbind : env.bind port with
          | ok _ => exact .listening h hput htcp hport hserved hbind
          | error e =>
            cases hdel : env.delete with
            | ok _ => exact .rolledBack h hput htcp hport hserved hbind
            | error e' => exact .rolledBack h hput htcp hport hserved hbind
      · simp only [if_neg htcp]
        exact .stored h hput fun ht => absurd ht htcp

end OngrokRelay
