import OngrokRelay.Admission
import OngrokRelay.ControlPlane

/-
  The port of a TCP service that asks for none.

  `first_available_tcp_port` looks for a port in the directory, and nowhere else; that a
  socket of the host has it shows when it is bound, and no other port is then tried.

  1. `firstAvailableTcpPort_some`, `firstAvailableTcpPort_least`,
     `firstAvailableTcpPort_none`: the least port of the range that no service leases.
  2. `registers_first`: a new service is admitted at that port, and at no other.
  3. `allocation_complete_iff`: it gets a free port whenever there is one exactly when
     the first unleased port is free, or none is.
  4. `first_port_taken`: a socket on the first port of the range.
-/

namespace OngrokRelay

open Interleaving

/-! ## The first unleased port -/

theorem mem_portRange {start stop port : UInt16} :
    port ∈ portRange start stop ↔ start ≤ port ∧ port ≤ stop := by
  simp only [portRange, List.mem_map, List.mem_range'_1, UInt16.le_iff_toNat_le]
  constructor
  · rintro ⟨n, ⟨hlow, hhigh⟩, rfl⟩
    have hstop : stop.toNat < UInt16.size := stop.toNat_lt
    rw [UInt16.toNat_ofNat_of_lt' (by omega)]
    omega
  · rintro ⟨hlow, hhigh⟩
    exact ⟨port.toNat, ⟨hlow, by omega⟩, UInt16.ofNat_toNat⟩

theorem portRange_sorted (start stop : UInt16) : (portRange start stop).Pairwise (· < ·) := by
  refine List.pairwise_map.mpr ?_
  have hstop : stop.toNat < UInt16.size := stop.toNat_lt
  refine (List.pairwise_lt_range').imp_of_mem fun {m n} hm hn hlt => ?_
  have hm' := List.mem_range'_1.mp hm
  have hn' := List.mem_range'_1.mp hn
  rw [UInt16.lt_iff_toNat_lt, UInt16.toNat_ofNat_of_lt' (by omega),
    UInt16.toNat_ofNat_of_lt' (by omega)]
  exact hlt

/-- Some service of the directory leases the port. -/
def Leased (services : Services) (port : UInt16) : Prop :=
  ∃ (id : ServiceId) (s : ServiceDefinition), services[id]? = some s ∧ leases port s

section
variable {cfg : RelayConfig} {services : Services}

theorem firstAvailableTcpPort_some {port : UInt16}
    (h : firstAvailableTcpPort cfg services = some port) :
    cfg.tcpPortStart ≤ port ∧ port ≤ cfg.tcpPortEnd ∧ ¬Leased services port := by
  obtain ⟨hlow, hhigh⟩ := mem_portRange.mp (List.mem_of_find?_eq_some h)
  have hunleased := List.find?_some h
  rw [Bool.not_eq_true', Bool.eq_false_iff] at hunleased
  exact ⟨hlow, hhigh, fun hleased => hunleased (BTreeMap.any_values_iff.mpr hleased)⟩

/-- It comes before every other that is unleased: the range is listed in ascending order. -/
theorem firstAvailableTcpPort_least {port other : UInt16}
    (h : firstAvailableTcpPort cfg services = some port) (hlow : cfg.tcpPortStart ≤ other)
    (hlt : other < port) : Leased services other := by
  obtain ⟨-, hhigh, -⟩ := firstAvailableTcpPort_some h
  have hrange := mem_portRange.mpr ⟨hlow, UInt16.le_trans (UInt16.le_of_lt hlt) hhigh⟩
  obtain ⟨-, before, after, hsplit, hbefore⟩ := List.find?_eq_some_iff_append.mp h
  have hsorted := portRange_sorted cfg.tcpPortStart cfg.tcpPortEnd
  rw [hsplit] at hrange hsorted
  rcases List.mem_append.mp hrange with hmem | hmem
  · have hleased := hbefore other hmem
    rw [Bool.not_not] at hleased
    exact BTreeMap.any_values_iff.mp hleased
  · -- the ports from the one that is found on are not below it
    rcases List.mem_cons.mp hmem with rfl | hmem
    · exact absurd hlt (UInt16.lt_irrefl other)
    · have habove := (List.pairwise_cons.mp (List.pairwise_append.mp hsorted).2.1).1 other hmem
      exact absurd (UInt16.lt_trans habove hlt) (UInt16.lt_irrefl port)

theorem firstAvailableTcpPort_none (h : firstAvailableTcpPort cfg services = none) {port : UInt16}
    (hlow : cfg.tcpPortStart ≤ port) (hhigh : port ≤ cfg.tcpPortEnd) : Leased services port := by
  have hleased := List.find?_eq_none.mp h port (mem_portRange.mpr ⟨hlow, hhigh⟩)
  rw [Bool.not_eq_true', Bool.not_eq_false] at hleased
  exact BTreeMap.any_values_iff.mp hleased

end

/-! ## A new service -/

/-- A valid TCP service that asks for no port, under a name that nobody uses. -/
structure NewTcp (services : Services) (service : ServiceDefinition) : Prop where
  protocol : service.protocol = .tcp
  publicPort : service.publicPort = none
  name : validateServiceName service.serviceName = .ok ()
  metadata : service.metadata.validate = .ok ()
  unused : ∀ (id : ServiceId) (s : ServiceDefinition), services[id]? = some s →
    s.serviceName ≠ service.serviceName

/-- The port is in the range, no service leases it and no socket has it. -/
structure FreePort (cfg : RelayConfig) (env : Env) (services : Services) (port : UInt16) : Prop where
  low : cfg.tcpPortStart ≤ port
  high : port ≤ cfg.tcpPortEnd
  unleased : ¬Leased services port
  unoccupied : env.bind port = .ok ()

section
variable {cfg : RelayConfig} {env : Env} {st : AppState} {services : Services}
  {service : ServiceDefinition}

theorem NewTcp.reusePrevious_eq (h : NewTcp services service) :
    reusePrevious services service.nodeId service = service := by
  unfold reusePrevious
  split
  · rename_i previous hprevious
    obtain ⟨⟨id, hid⟩, -, hname⟩ := previousService_some hprevious
    exact absurd hname (h.unused id previous hid)
  · rfl

/-- What is admitted has the first unleased port. -/
theorem NewTcp.admitted_port (h : NewTcp services service) {admitted : ServiceDefinition}
    (hadmitted : admitService cfg services service service.nodeId = .ok admitted) :
    admitted.protocol = .tcp ∧ admitted.publicPort = firstAvailableTcpPort cfg services := by
  have hspec := admitService_spec hadmitted
  refine ⟨hspec.protocol.trans h.protocol, ?_⟩
  rw [hspec.port h.protocol, h.reusePrevious_eq, wantedPort, h.publicPort]

/-- It is admitted when there is one. -/
theorem NewTcp.admits (h : NewTcp services service) {port : UInt16}
    (hfirst : firstAvailableTcpPort cfg services = some port) :
    ∃ admitted, admitService cfg services service service.nodeId = .ok admitted := by
  obtain ⟨hlow, hhigh, hunleased⟩ := firstAvailableTcpPort_some hfirst
  refine admits_iff.mpr ⟨h.name, h.metadata, ?_, fun _ => ⟨port, ?_, hlow, hhigh, ?_⟩, fun hne =>
    absurd h.protocol hne⟩
  · refine Bool.eq_false_iff.mpr fun htaken => ?_
    obtain ⟨id, other, hother, hname, -⟩ := nameTaken_iff.mp htaken
    exact h.unused id other hother hname
  · rw [h.reusePrevious_eq, wantedPort, h.publicPort, hfirst]
  · refine Bool.eq_false_iff.mpr fun hleased => ?_
    obtain ⟨id, other, hother, -, hport⟩ := portLeased_iff.mp hleased
    exact hunleased ⟨id, other, hother, hport⟩

end

/-- A free port is found when there is one: the registration succeeds and leases one,
and it fails only when there is none. -/
def AllocationComplete (cfg : RelayConfig) (env : Env) (service : ServiceDefinition)
    (st : AppState) : Prop :=
  let result := (registerService cfg env service service.nodeId st).2
  ((∃ port, FreePort cfg env st.services port) → ∃ registered port, result = .ok registered ∧
    registered.publicPort = some port ∧ FreePort cfg env st.services port) ∧
  ∀ e, result = .error e → ¬∃ port, FreePort cfg env st.services port

/-- **A new service** gets the first unleased port when that is free; when it is not, the
registration succeeds only if a listener runs under the id already. -/
theorem registers_first {cfg : RelayConfig} {env : Env} (hput : env.put = .ok ())
    {service : ServiceDefinition} {st : AppState} (hnew : NewTcp st.services service)
    {first : UInt16} (hfirst : firstAvailableTcpPort cfg st.services = some first) :
    (∃ registered, (registerService cfg env service service.nodeId st).2 = .ok registered ∧
      registered.publicPort = some first) ∨
    env.bind first ≠ .ok () ∧ ∃ e, (registerService cfg env service service.nodeId st).2 = .error e := by
  have hcases := registerService_cases cfg env service service.nodeId st
  generalize registerService cfg env service service.nodeId st = result at hcases ⊢
  cases hcases with
  | refused hrefused =>
    obtain ⟨admitted, hadmitted⟩ := hnew.admits hfirst
    rw [hrefused] at hadmitted
    cases hadmitted
  | notStored _ hput' =>
    rw [hput] at hput'
    cases hput'
  | stored hadmitted => exact .inl ⟨_, rfl, (hnew.admitted_port hadmitted).2.trans hfirst⟩
  | listening hadmitted => exact .inl ⟨_, rfl, (hnew.admitted_port hadmitted).2.trans hfirst⟩
  | rolledBack hadmitted _ _ hport _ hbind =>
    have hsame := hport.symm.trans ((hnew.admitted_port hadmitted).2.trans hfirst)
    cases hsame
    refine .inr ⟨fun hok => ?_, _, rfl⟩
    rw [hbind] at hok
    cases hok

/-- **When the allocation is complete**: the first unleased port of the range is free, or
no port is. -/
theorem allocation_complete_iff (cfg : RelayConfig) (env : Env) (hput : env.put = .ok ())
    {service : ServiceDefinition} {st : AppState} (hnew : NewTcp st.services service) :
    AllocationComplete cfg env service st ↔
      ∀ first, firstAvailableTcpPort cfg st.services = some first →
        (∃ port, FreePort cfg env st.services port) → env.bind first = .ok () := by
  unfold AllocationComplete
  cases hfirst : firstAvailableTcpPort cfg st.services with
  | none =>
    -- every port of the range is leased
    have hnone : ¬∃ port, FreePort cfg env st.services port := by
      rintro ⟨port, hfree⟩
      exact hfree.unleased (firstAvailableTcpPort_none hfirst hfree.low hfree.high)
    exact iff_of_true ⟨fun hfree => absurd hfree hnone, fun _ _ => hnone⟩ fun first h => by cases h
  | some first =>
    obtain ⟨hlow, hhigh, hunleased⟩ := firstAvailableTcpPort_some hfirst
    rcases registers_first hput hnew hfirst with ⟨registered, hok, hport⟩ | ⟨hbind, e, herror⟩
    · rw [hok]
      constructor
      · rintro ⟨hfound, -⟩ _ ⟨⟩ hfree
        obtain ⟨registered', port, hsame, hport', hfree'⟩ := hfound hfree
        cases hsame
        rw [hport] at hport'
        cases hport'
        exact hfree'.unoccupied
      · intro hunoccupied
        refine ⟨fun hfree => ⟨registered, first, rfl, hport, ?_⟩, fun e he => by cases he⟩
        exact ⟨hlow, hhigh, hunleased, hunoccupied first rfl hfree⟩
    · rw [herror]
      constructor
      · rintro ⟨-, hfails⟩ _ - hfree
        exact absurd hfree (hfails e rfl)
      · intro hunoccupied
        have hnone : ¬∃ port, FreePort cfg env st.services port :=
          fun hfree => hbind (hunoccupied first rfl hfree)
        exact ⟨fun hfree => absurd hfree hnone, fun _ _ => hnone⟩

namespace Sample

/-- Node 7 has registered. -/
def entered : ControlPlane := reached (connects 0 11 7 ++ registers 0)

def asks : ServiceDefinition := service 1 "web" 7 .tcp none

theorem entered_empty : entered.shared.services = ∅ := by decide +kernel

theorem asks_new : NewTcp entered.shared.services asks := by
  refine ⟨rfl, rfl, by decide, by decide, fun id s hs => ?_⟩
  rw [entered_empty, BTreeMap.get_empty] at hs
  cases hs

/-- Another program of the host listens on the port. -/
def occupies (port : UInt16) : Env where
  bind asked := if asked = port then .error "address in use" else .ok ()

end Sample

/-- The second port of the range is taken, which is in nobody's way. -/
theorem allocation_complete_second :
    AllocationComplete Sample.config (Sample.occupies 20001) Sample.asks Sample.entered.shared := by
  refine (allocation_complete_iff Sample.config (Sample.occupies 20001) rfl Sample.asks_new).mpr ?_
  have hfirst : firstAvailableTcpPort Sample.config Sample.entered.shared.services = some 20000 := by
    decide +kernel
  intro first h _
  rw [hfirst] at h
  cases h
  rfl

/-- **The first port of the range is taken**, and the second is neither leased nor taken:
the registration fails. -/
theorem first_port_taken :
    ControlPlane.Reached Sample.config Sample.entered ∧
      FreePort Sample.config (Sample.occupies 20000) Sample.entered.shared.services 20001 ∧
      (registerService Sample.config (Sample.occupies 20000) Sample.asks ⟨7⟩
        Sample.entered.shared).2 = .error "failed to activate TCP relay port" ∧
      ¬AllocationComplete Sample.config (Sample.occupies 20000) Sample.asks
        Sample.entered.shared := by
  have hfails : (registerService Sample.config (Sample.occupies 20000) Sample.asks ⟨7⟩
      Sample.entered.shared).2 = .error "failed to activate TCP relay port" := by decide +kernel
  have hfree : FreePort Sample.config (Sample.occupies 20000) Sample.entered.shared.services 20001 := by
    refine ⟨by decide, by decide, ?_, by decide⟩
    rintro ⟨id, s, hs, -⟩
    rw [Sample.entered_empty, BTreeMap.get_empty] at hs
    cases hs
  exact ⟨Sample.reached_ok _, hfree, hfails, fun hcomplete => hcomplete.2 _ hfails ⟨20001, hfree⟩⟩

end OngrokRelay
