import OngrokRelay.ServiceTasks

/-
  The well-formed directory: names and metadata within their bounds, every
  service under its own id, no name and no leased port held twice, every
  address of the form its protocol calls for.

  1. `WellFormed.change`: no section of any operation breaks it.
  2. `directory_wellFormed`: it holds in every state of every interleaving.

  One insert may replace the entry under a rewritten id. That is where the
  uniqueness of names is used: the entry whose id is taken over is the only one
  of that name, so no second entry of the name remains.
-/

namespace OngrokRelay

open Interleaving Transition

structure WellFormed (cfg : RelayConfig) (services : Services) : Prop where
  key : KeysMatch services
  name : ∀ (id : ServiceId) (s : ServiceDefinition), services[id]? = some s →
    validateServiceName s.serviceName = .ok ()
  nameUnique : ∀ (id id' : ServiceId) (s s' : ServiceDefinition), services[id]? = some s →
    services[id']? = some s' → s.serviceName = s'.serviceName → id = id'
  metadata : ∀ (id : ServiceId) (s : ServiceDefinition), services[id]? = some s →
    s.metadata.validate = .ok ()
  address : ∀ (id : ServiceId) (s : ServiceDefinition), services[id]? = some s →
    WellAddressed cfg s
  portUnique : ∀ (id id' : ServiceId) (s s' : ServiceDefinition) (port : UInt16),
    services[id]? = some s → services[id']? = some s' → leases port s = true →
    leases port s' = true → id = id'

namespace WellFormed

variable {cfg : RelayConfig} {services : Services}

theorem empty (cfg : RelayConfig) : WellFormed cfg ∅ := by
  have hno (id : ServiceId) (s : ServiceDefinition) : (∅ : Services)[id]? ≠ some s := by
    rw [BTreeMap.get_empty]; simp
  exact {
    key := fun id s hs => absurd hs (hno id s)
    name := fun id s hs => absurd hs (hno id s)
    nameUnique := fun id _ s _ hs => absurd hs (hno id s)
    metadata := fun id s hs => absurd hs (hno id s)
    address := fun id s hs => absurd hs (hno id s)
    portUnique := fun id _ s _ _ hs => absurd hs (hno id s) }

/-- A removal makes no two entries clash. -/
theorem erase (h : WellFormed cfg services) (removed : ServiceId) :
    WellFormed cfg (services.erase removed) := by
  have old {id : ServiceId} {s : ServiceDefinition}
      (hs : (services.erase removed)[id]? = some s) : services[id]? = some s :=
    (BTreeMap.get_erase_some.mp hs).2
  exact {
    key := fun id s hs => h.key id s (old hs)
    name := fun id s hs => h.name id s (old hs)
    nameUnique := fun id id' s s' hs hs' => h.nameUnique id id' s s' (old hs) (old hs')
    metadata := fun id s hs => h.metadata id s (old hs)
    address := fun id s hs => h.address id s (old hs)
    portUnique := fun id id' s s' port hs hs' =>
      h.portUnique id id' s s' port (old hs) (old hs') }

/-- An insertion keeps the directory well formed when the new entry is, and no
entry under another id holds its name or its port. -/
theorem insert (h : WellFormed cfg services) {service : ServiceDefinition} {id : ServiceId}
    (hkey : service.serviceId = id) (hname : validateServiceName service.serviceName = .ok ())
    (hmetadata : service.metadata.validate = .ok ()) (haddress : WellAddressed cfg service)
    (hnameFree : ∀ (id' : ServiceId) (s : ServiceDefinition), services[id']? = some s →
      s.serviceName = service.serviceName → id' = id)
    (hportFree : ∀ (id' : ServiceId) (s : ServiceDefinition) (port : UInt16),
      services[id']? = some s → leases port service = true → leases port s = true → id' = id) :
    WellFormed cfg (services.insert id service) := by
  refine ⟨?_, ?_, ?_, ?_, ?_, ?_⟩
  · intro id' s hs
    rcases BTreeMap.get_insert_some.mp hs with ⟨rfl, rfl⟩ | ⟨_, hs⟩
    · exact hkey
    · exact h.key id' s hs
  · intro id' s hs
    rcases BTreeMap.get_insert_some.mp hs with ⟨rfl, rfl⟩ | ⟨_, hs⟩
    · exact hname
    · exact h.name id' s hs
  · intro id₁ id₂ s₁ s₂ hs₁ hs₂ heq
    rcases BTreeMap.get_insert_some.mp hs₁ with ⟨rfl, rfl⟩ | ⟨_, hs₁⟩ <;>
      rcases BTreeMap.get_insert_some.mp hs₂ with ⟨rfl, rfl⟩ | ⟨_, hs₂⟩
    · rfl
    · exact (hnameFree id₂ s₂ hs₂ heq.symm).symm
    · exact hnameFree id₁ s₁ hs₁ heq
    · exact h.nameUnique id₁ id₂ s₁ s₂ hs₁ hs₂ heq
  · intro id' s hs
    rcases BTreeMap.get_insert_some.mp hs with ⟨rfl, rfl⟩ | ⟨_, hs⟩
    · exact hmetadata
    · exact h.metadata id' s hs
  · intro id' s hs
    rcases BTreeMap.get_insert_some.mp hs with ⟨rfl, rfl⟩ | ⟨_, hs⟩
    · exact haddress
    · exact h.address id' s hs
  · intro id₁ id₂ s₁ s₂ port hs₁ hs₂ hp₁ hp₂
    rcases BTreeMap.get_insert_some.mp hs₁ with ⟨rfl, rfl⟩ | ⟨_, hs₁⟩ <;>
      rcases BTreeMap.get_insert_some.mp hs₂ with ⟨rfl, rfl⟩ | ⟨_, hs₂⟩
    · rfl
    · exact (hportFree id₂ s₂ port hs₂ hp₁ hp₂).symm
    · exact hportFree id₁ s₁ port hs₁ hp₂ hp₁
    · exact h.portUnique id₁ id₂ s₁ s₂ port hs₁ hs₂ hp₁ hp₂

/-- The only entry that can hold an admitted name is the one whose id the
registration takes over. -/
theorem storedId_of_name (h : WellFormed cfg services) {service : ServiceDefinition}
    {nodeId : NodeId} (hfree : nameTaken services service nodeId = false) {id : ServiceId}
    {s : ServiceDefinition} (hs : services[id]? = some s)
    (hname : s.serviceName = service.serviceName) : id = storedId services service nodeId := by
  have hnode : s.nodeId = nodeId := by
    by_contra hne
    have htaken : nameTaken services service nodeId = true :=
      nameTaken_iff.mpr ⟨id, s, hs, hname, hne⟩
    rw [hfree] at htaken
    cases htaken
  unfold storedId reusePrevious
  cases hprev : previousService services service nodeId with
  | none => exact absurd hname (previousService_none hprev hs hnode)
  | some previous =>
    -- the entry found is of that name, and names are unique
    obtain ⟨⟨id', hs'⟩, -, hname'⟩ := previousService_some hprev
    have hid : id = id' := h.nameUnique id id' s previous hs hs' (hname.trans hname'.symm)
    exact hid.trans (h.key id' previous hs').symm

theorem register (h : WellFormed cfg services) {service admitted : ServiceDefinition}
    {nodeId : NodeId} (hok : admitService cfg services service nodeId = .ok admitted) :
    WellFormed cfg (services.insert admitted.serviceId admitted) := by
  have hspec := admitService_spec hok
  refine h.insert rfl (hspec.serviceName ▸ hspec.name) (hspec.serviceMetadata ▸ hspec.metadata)
    hspec.address ?_ ?_
  · intro id s hs hname
    rw [hspec.serviceId]
    exact h.storedId_of_name hspec.nameFree hs (hname.trans hspec.serviceName)
  · intro id s port hs hadmitted hold
    by_contra hne
    have hleased : portLeased services admitted.serviceId port = true :=
      portLeased_iff.mpr ⟨id, s, hs, by rw [h.key id s hs]; exact hne, hold⟩
    rw [hspec.leaseFree port hadmitted] at hleased
    cases hleased

theorem patch (h : WellFormed cfg services) {id : ServiceId} {service : ServiceDefinition}
    {metadata : Metadata} (hs : services[id]? = some service)
    (hvalid : metadata.validate = .ok ()) :
    WellFormed cfg (services.insert id { service with metadata }) :=
  h.insert (h.key id service hs) (h.name id service hs) hvalid (h.address id service hs)
    (fun id' s hs' hname => h.nameUnique id' id s service hs' hs hname)
    (fun id' s port hs' hp hp' => h.portUnique id' id s service port hs' hs hp' hp)

/-- **No section of any operation breaks the directory.** -/
theorem change (h : WellFormed cfg services) {services' : Services}
    (hc : DirectoryChange cfg services services') : WellFormed cfg services' := by
  cases hc with
  | kept => exact h
  | registered hok => exact h.register hok
  | removed serviceId => exact h.erase serviceId
  | patched hs hvalid => exact h.patch hs hvalid

/-- An HTTP or HTTPS service is announced under its name in the domain. -/
theorem hosted (h : WellFormed cfg services) {id : ServiceId} {s : ServiceDefinition}
    (hs : services[id]? = some s) (hproto : s.protocol ≠ .tcp) :
    ∃ domain, cfg.httpDomain = some domain ∧
      s.publicHost = some (s.serviceName ++ "." ++ domain) := by
  have haddress := h.address id s hs
  cases hs' : s.protocol with
  | tcp => exact absurd hs' hproto
  | http | https =>
    simp only [WellAddressed, hs'] at haddress
    exact haddress.2

/-- Two HTTP or HTTPS services have different hosts. -/
theorem hostUnique (h : WellFormed cfg services) {id id' : ServiceId} {s s' : ServiceDefinition}
    (hs : services[id]? = some s) (hs' : services[id']? = some s') (hproto : s.protocol ≠ .tcp)
    (hproto' : s'.protocol ≠ .tcp) (hhost : s.publicHost = s'.publicHost) : id = id' := by
  obtain ⟨domain, hdomain, hs₁⟩ := h.hosted hs hproto
  obtain ⟨domain', hdomain', hs₂⟩ := h.hosted hs' hproto'
  rw [hdomain] at hdomain'
  cases hdomain'
  rw [hs₁, hs₂] at hhost
  have hname : s.serviceName = s'.serviceName := by simpa using hhost
  exact h.nameUnique id id' s s' hs hs' hname

end WellFormed

/-- What the directory promises its readers: it is well formed, and no two HTTP
or HTTPS services share a host. -/
def DirectoryLaw (cfg : RelayConfig) (services : Services) : Prop :=
  WellFormed cfg services ∧
  ∀ (id id' : ServiceId) (s s' : ServiceDefinition), services[id]? = some s →
    services[id']? = some s' → s.protocol ≠ .tcp → s'.protocol ≠ .tcp →
    s.publicHost = s'.publicHost → id = id'

theorem WellFormed.law {cfg : RelayConfig} {services : Services} (h : WellFormed cfg services) :
    DirectoryLaw cfg services :=
  ⟨h, fun _ _ _ _ hs hs' => h.hostUnique hs hs'⟩

/-- **The directory stays well formed** in every state of every interleaving of
registrations, withdrawals, deletions and patches, whatever the store calls
and the binds come to. -/
theorem directory_wellFormed (cfg : RelayConfig) (p : Pool AppState ServiceTask)
    (h : WellFormed cfg p.shared.services) (events : List (Event Env ServiceTask)) :
    EveryState (Pool.next (ServiceTask.step cfg)) (fun p => DirectoryLaw cfg p.shared.services)
      p events := by
  have hstep (p : Pool AppState ServiceTask) (e : Event Env ServiceTask)
      (hp : WellFormed cfg p.shared.services) :
      WellFormed cfg (p.next (ServiceTask.step cfg) e).shared.services :=
    next_shared (I := fun st => WellFormed cfg st.services)
      (fun env st task hst => hst.change (task.step_change cfg env st)) p e hp
  exact (everyState_of_step hstep h events).mono fun p hp => hp.law

/-- Two nodes race for one name. -/
theorem directory_wellFormed_race :
    EveryState (Pool.next (ServiceTask.step Sample.config))
      (fun p => DirectoryLaw Sample.config p.shared.services)
      ⟨{ tokens := ⟨none, none⟩ },
        [.register ⟨7⟩ (.lock (Sample.service 1 "api" 7 .http none)),
          .register ⟨8⟩ (.lock (Sample.service 2 "api" 8 .tcp none))]⟩
      [.run 0 {}, .run 1 {}, .run 0 {}, .run 0 {}] :=
  directory_wellFormed Sample.config _ (WellFormed.empty Sample.config) _

end OngrokRelay
