import OngrokRelay.Config
import Mathlib.Data.List.Nodup
import Mathlib.Data.List.Pairwise

/-
  Which of the server's own listeners can get in each other's way
  (`validate_run_options` of `config.rs` and `ensure_tcp_ingress` of `relay.rs`).

  The options are accepted when no two configured listeners have the same
  address. A listener on the wildcard address takes its port on every address of
  its family, and the ports of the lease range are bound on the wildcard address
  later on: neither is looked at.

  1. `listenerClash_none_iff`: what the check says of the configured listeners.
  2. `mem_leased`, `leased_pairwise`: the sockets of the lease range.
  3. `conflicts_iff`: how two different addresses come to conflict.
  4. `sockets_apart_iff`: when the sockets of accepted options do not conflict.
-/

namespace OngrokRelay

/-! ## Addresses -/

namespace SocketAddr

def port : SocketAddr → UInt16
  | .v4 _ port => port
  | .v6 _ port _ _ => port

/-- `0.0.0.0` or `::`. -/
def Unspecified : SocketAddr → Prop
  | .v4 ip _ => ip = 0
  | .v6 ip _ _ _ => ip = 0

def SameFamily : SocketAddr → SocketAddr → Prop
  | .v4 _ _, .v4 _ _ => True
  | .v6 _ _ _ _, .v6 _ _ _ _ => True
  | _, _ => False

def SameIp : SocketAddr → SocketAddr → Prop
  | .v4 ip _, .v4 ip' _ => ip = ip'
  | .v6 ip _ _ _, .v6 ip' _ _ _ => ip = ip'
  | _, _ => False

/-- The same port, which is not left to the system to choose. -/
def SamePort (a b : SocketAddr) : Prop := a.port = b.port ∧ a.port ≠ 0

/-- They cannot both be bound: the same port on the same IP, or on all IPs of the
family for one of them. -/
def Conflicts (a b : SocketAddr) : Prop :=
  SamePort a b ∧ (SameIp a b ∨ SameFamily a b ∧ (a.Unspecified ∨ b.Unspecified))

/-- Two IPv6 addresses that differ in flow information or scope at most. -/
def SameButScope : SocketAddr → SocketAddr → Prop
  | .v6 ip port _ _, .v6 ip' port' _ _ => ip = ip' ∧ port = port'
  | _, _ => False

instance : ∀ a : SocketAddr, Decidable a.Unspecified
  | .v4 ip _ => inferInstanceAs (Decidable (ip = 0))
  | .v6 ip _ _ _ => inferInstanceAs (Decidable (ip = 0))

instance : ∀ a b : SocketAddr, Decidable (SameFamily a b)
  | .v4 _ _, .v4 _ _ => .isTrue trivial
  | .v6 _ _ _ _, .v6 _ _ _ _ => .isTrue trivial
  | .v4 _ _, .v6 _ _ _ _ => .isFalse id
  | .v6 _ _ _ _, .v4 _ _ => .isFalse id

instance : ∀ a b : SocketAddr, Decidable (SameIp a b)
  | .v4 ip _, .v4 ip' _ => inferInstanceAs (Decidable (ip = ip'))
  | .v6 ip _ _ _, .v6 ip' _ _ _ => inferInstanceAs (Decidable (ip = ip'))
  | .v4 _ _, .v6 _ _ _ _ => .isFalse id
  | .v6 _ _ _ _, .v4 _ _ => .isFalse id

instance (a b : SocketAddr) : Decidable (SamePort a b) := inferInstanceAs (Decidable (_ ∧ _))

instance (a b : SocketAddr) : Decidable (Conflicts a b) := inferInstanceAs (Decidable (_ ∧ _))

instance : ∀ a b : SocketAddr, Decidable (SameButScope a b)
  | .v4 _ _, .v4 _ _ => .isFalse id
  | .v6 ip port _ _, .v6 ip' port' _ _ => inferInstanceAs (Decidable (ip = ip' ∧ port = port'))
  | .v4 _ _, .v6 _ _ _ _ => .isFalse id
  | .v6 _ _ _ _, .v4 _ _ => .isFalse id

/-- **How two different addresses conflict**: on one port, where one of them takes
it on all IPs or both are one IPv6 address in two scopes. -/
theorem conflicts_iff {a b : SocketAddr} (hne : a ≠ b) : Conflicts a b ↔
    SamePort a b ∧ SameFamily a b ∧ (a.Unspecified ∨ b.Unspecified) ∨
      SamePort a b ∧ SameButScope a b := by
  constructor
  · rintro ⟨hport, hip | ⟨hfamily, hall⟩⟩
    · refine .inr ⟨hport, ?_⟩
      match a, b, hport, hip with
      | .v4 ip port, .v4 ip' port', hport, hip =>
        -- one IP and one port are one IPv4 address
        obtain rfl : ip = ip' := hip
        obtain rfl : port = port' := hport.1
        exact absurd rfl hne
      | .v6 ip port _ _, .v6 ip' port' _ _, hport, hip => exact ⟨hip, hport.1⟩
    · exact .inl ⟨hport, hfamily, hall⟩
  · rintro (⟨hport, hall⟩ | ⟨hport, hscope⟩)
    · exact ⟨hport, .inr hall⟩
    · refine ⟨hport, .inl ?_⟩
      match a, b, hscope with
      | .v6 _ _ _ _, .v6 _ _ _ _, hscope => exact hscope.1

end SocketAddr

open SocketAddr

/-! ## The sockets of the options -/

/-- The listeners that are bound at the start. -/
def RunOptions.configured (options : RunOptions) : List SocketAddr :=
  options.apiListen :: options.tcpTlsListen ::
    (options.httpListen.toList ++ options.httpsListen.toList)

/-- The sockets that services may be given, on the wildcard address. -/
def RunOptions.leased (options : RunOptions) : List SocketAddr :=
  (List.range' options.tcpPortStart.toNat
    (options.tcpPortEnd.toNat + 1 - options.tcpPortStart.toNat)).map
      fun port => .v4 0 (UInt16.ofNat port)

def RunOptions.tcpSockets (options : RunOptions) : List SocketAddr :=
  options.configured ++ options.leased

theorem listenerClash_none_iff {listeners : List (String × SocketAddr)} :
    listenerClash listeners = none ↔ (listeners.map Prod.snd).Pairwise fun a b =>
      a = .wildcard ∨ b = .wildcard ∨ a ≠ b := by
  induction listeners with
  | nil => simp [listenerClash]
  | cons listener rest ih =>
    obtain ⟨name, left⟩ := listener
    rw [List.map_cons, List.pairwise_cons, ← ih, listenerClash]
    by_cases hwild : left = .wildcard
    · rw [if_pos hwild, and_iff_right fun b _ => .inl hwild]
    · rw [if_neg hwild]
      cases hfind : rest.find? fun right => right.2 != .wildcard && left == right.2 with
      | some right =>
        refine iff_of_false (by simp) fun h => ?_
        have hsame := List.find?_some hfind
        rw [Bool.and_eq_true, bne_iff_ne, beq_iff_eq] at hsame
        have hapart := h.1 right.2 (List.mem_map_of_mem (List.mem_of_find?_eq_some hfind))
        rcases hapart with hleft | hright | hne
        · exact hwild hleft
        · exact hsame.1 hright
        · exact hne hsame.2
      | none =>
        refine (and_iff_right fun b hb => ?_).symm
        obtain ⟨right, hright, rfl⟩ := List.mem_map.mp hb
        have hno := List.find?_eq_none.mp hfind right hright
        rw [Bool.and_eq_true, bne_iff_ne, beq_iff_eq, not_and] at hno
        by_cases hright : right.2 = .wildcard
        · exact .inr (.inl hright)
        · exact .inr (.inr (hno hright))

/-- What is said of every two listeners, an absent one under its stand-in, holds of
the configured ones. -/
theorem configured_sublist (options : RunOptions) :
    options.configured.Sublist (options.tcpListeners.map Prod.snd) := by
  unfold RunOptions.configured RunOptions.tcpListeners
  refine .cons_cons _ (.cons_cons _ ?_)
  cases options.httpListen with
  | none =>
    refine .cons _ ?_
    cases options.httpsListen with
    | none => exact List.nil_sublist _
    | some https => exact .refl _
  | some http =>
    refine .cons_cons _ ?_
    cases options.httpsListen with
    | none => exact List.nil_sublist _
    | some https => exact .refl _

/-- **The check** finds no two configured listeners with one address, unless its
port is left to the system. -/
theorem accepted_configured {options : RunOptions} (h : validateRunOptions options = .ok ()) :
    options.configured.Pairwise fun a b => a = .wildcard ∨ b = .wildcard ∨ a ≠ b := by
  have hnone : listenerClash options.tcpListeners = none := by
    unfold validateRunOptions at h
    split at h
    · cases h
    · split at h
      · cases h
      · split at h
        · cases h
        · split at h
          · cases h
          · assumption
  exact (listenerClash_none_iff.mp hnone).sublist (configured_sublist options)

/-! ## The lease range -/

section
variable {options : RunOptions}

theorem port_toNat {n : Nat} {last : UInt16} (h : n ≤ last.toNat) : (UInt16.ofNat n).toNat = n := by
  rw [UInt16.toNat_ofNat', Nat.mod_eq_of_lt (Nat.lt_of_le_of_lt h last.toNat_lt)]

theorem mem_leased {a : SocketAddr} : a ∈ options.leased ↔
    ∃ port, options.tcpPortStart ≤ port ∧ port ≤ options.tcpPortEnd ∧ a = .v4 0 port := by
  simp only [RunOptions.leased, List.mem_map, List.mem_range'_1, UInt16.le_iff_toNat_le]
  constructor
  · rintro ⟨n, hn, rfl⟩
    have hlast : n ≤ options.tcpPortEnd.toNat := by omega
    have hnat := port_toNat hlast
    exact ⟨UInt16.ofNat n, by omega, by omega, rfl⟩
  · rintro ⟨port, hstart, hport, rfl⟩
    exact ⟨port.toNat, by omega, by rw [UInt16.ofNat_toNat]⟩

/-- Each port of the range is bound once. -/
theorem leased_pairwise : options.leased.Pairwise fun a b => ¬Conflicts a b := by
  rw [RunOptions.leased, List.pairwise_map]
  refine (List.pairwise_lt_range' _).imp_of_mem ?_
  intro n m hn hm hlt hconflict
  rw [List.mem_range'_1] at hn hm
  have hports : (UInt16.ofNat n).toNat = (UInt16.ofNat m).toNat := congrArg _ hconflict.1.1
  have hlast : n ≤ options.tcpPortEnd.toNat ∧ m ≤ options.tcpPortEnd.toNat := by omega
  rw [port_toNat hlast.1, port_toNat hlast.2] at hports
  omega

end

/-! ## Sockets apart -/

/-- What keeps the sockets of accepted options apart. -/
structure Separated (options : RunOptions) : Prop where
  /-- No IPv4 listener has a port of the lease range. -/
  leases : ∀ ip port, .v4 ip port ∈ options.configured → port ≠ 0 →
    port < options.tcpPortStart ∨ options.tcpPortEnd < port
  /-- A listener on all addresses has its port to itself. -/
  wildcards : options.configured.Pairwise fun a b =>
    SameFamily a b → a.Unspecified ∨ b.Unspecified → ¬SamePort a b
  /-- Nor is an IPv6 address configured in two scopes. -/
  scopes : options.configured.Pairwise fun a b => SameButScope a b → ¬SamePort a b

section
variable {options : RunOptions}

/-- A listener against the lease range, where each socket is on all addresses. -/
theorem apart_leased_iff : (∀ a ∈ options.configured, ∀ b ∈ options.leased, ¬Conflicts a b) ↔
    ∀ ip port, .v4 ip port ∈ options.configured → port ≠ 0 →
      port < options.tcpPortStart ∨ options.tcpPortEnd < port := by
  constructor
  · intro h ip port hmem hport
    by_contra hrange
    rw [not_or, UInt16.not_lt, UInt16.not_lt] at hrange
    have hleased := mem_leased.mpr ⟨port, hrange.1, hrange.2, rfl⟩
    exact h _ hmem _ hleased ⟨⟨rfl, hport⟩, .inr ⟨trivial, .inr rfl⟩⟩
  · intro h a ha b hb hconflict
    obtain ⟨port, hstart, hend, rfl⟩ := mem_leased.mp hb
    match a, ha, hconflict with
    | .v4 ip port', ha, hconflict =>
      obtain rfl : port' = port := hconflict.1.1
      rcases h ip port' ha hconflict.1.2 with hlt | hlt
      · exact UInt16.not_lt.mpr hstart hlt
      · exact UInt16.not_lt.mpr hend hlt
    | .v6 _ _ _ _, _, hconflict =>
      rcases hconflict.2 with hip | ⟨hfamily, -⟩
      · exact hip
      · exact hfamily

/-- The configured listeners of accepted options among themselves. -/
theorem apart_configured_iff (h : validateRunOptions options = .ok ()) :
    (options.configured.Pairwise fun a b => ¬Conflicts a b) ↔
      (options.configured.Pairwise fun a b =>
        SameFamily a b → a.Unspecified ∨ b.Unspecified → ¬SamePort a b) ∧
      options.configured.Pairwise fun a b => SameButScope a b → ¬SamePort a b := by
  have hiff {a b : SocketAddr} (hab : a = .wildcard ∨ b = .wildcard ∨ a ≠ b) : ¬Conflicts a b ↔
      (SameFamily a b → a.Unspecified ∨ b.Unspecified → ¬SamePort a b) ∧
        (SameButScope a b → ¬SamePort a b) := by
    by_cases hsame : SamePort a b
    · have hne : a ≠ b := by
        rcases hab with rfl | rfl | hne
        · exact absurd rfl hsame.2
        · exact absurd hsame.1 hsame.2
        · exact hne
      rw [conflicts_iff hne]
      tauto
    · exact iff_of_true (fun hconflict => hsame hconflict.1)
        ⟨fun _ _ => hsame, fun _ => hsame⟩
  have haccepted := accepted_configured h
  rw [← List.pairwise_and_iff]
  constructor
  · intro hapart
    exact (haccepted.and hapart).imp fun hab => (hiff hab.1).mp hab.2
  · intro hseparated
    exact (haccepted.and hseparated).imp fun hab => (hiff hab.1).mpr hab.2

end

/-- **The sockets of accepted options do not conflict** exactly when no IPv4
listener is in the lease range, no listener on all addresses shares its port, and
no IPv6 address is configured in two scopes. -/
theorem sockets_apart_iff {options : RunOptions} (h : validateRunOptions options = .ok ()) :
    (options.tcpSockets.Pairwise fun a b => ¬Conflicts a b) ↔ Separated options := by
  rw [RunOptions.tcpSockets, List.pairwise_append, apart_configured_iff h, apart_leased_iff,
    and_iff_right leased_pairwise]
  constructor
  · rintro ⟨⟨hwildcards, hscopes⟩, hleases⟩
    exact ⟨hleases, hwildcards, hscopes⟩
  · intro hseparated
    exact ⟨⟨hseparated.wildcards, hseparated.scopes⟩, hseparated.leases⟩

/-- The sockets of the default options do not conflict. -/
theorem sockets_apart_iff_default :
    validateRunOptions {} = .ok () ∧
      ({} : RunOptions).tcpSockets.Pairwise fun a b => ¬Conflicts a b := by
  have hok : validateRunOptions {} = .ok () := by decide
  refine ⟨hok, (sockets_apart_iff hok).mpr ⟨?_, by decide, by decide⟩⟩
  intro ip port hmem _
  simp only [RunOptions.configured, Option.toList_none, List.append_nil, List.mem_cons,
    List.not_mem_nil, or_false] at hmem
  rcases hmem with heq | heq
  · cases heq
    exact .inl (by decide)
  · cases heq
    exact .inl (by decide)

/-- The control API on a port of the lease range is accepted. -/
theorem sockets_conflict_leased :
    let options : RunOptions := { apiListen := .v4 0x7f000001 20000 }
    validateRunOptions options = .ok () ∧
      .v4 0x7f000001 20000 ∈ options.configured ∧ .v4 0 20000 ∈ options.leased ∧
      Conflicts (.v4 0x7f000001 20000) (.v4 0 20000) ∧
      ¬options.tcpSockets.Pairwise fun a b => ¬Conflicts a b := by
  intro options
  have hapi : .v4 0x7f000001 20000 ∈ options.configured := List.mem_cons_self
  have hleased : .v4 0 20000 ∈ options.leased :=
    mem_leased.mpr ⟨20000, by decide, by decide, rfl⟩
  have hconflict : Conflicts (.v4 0x7f000001 20000) (.v4 0 20000) := by decide
  refine ⟨by decide, hapi, hleased, hconflict, fun hapart => ?_⟩
  rw [RunOptions.tcpSockets, List.pairwise_append] at hapart
  exact hapart.2.2 _ hapi _ hleased hconflict

end OngrokRelay
