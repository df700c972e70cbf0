import OngrokRelay.State

/-
  The options of `ongrok-relay-server run` (`config.rs`): what the server reads
  of them, and the check it makes before it starts.

  Correspondence (Rust ↔ Lean):
    `RunOptions`            ↔ `RunOptions`
    `validate_run_options`  ↔ `validateRunOptions`
    `AppState { .. }`       ↔ `RunOptions.relayConfig`
-/

namespace OngrokRelay

inductive SocketAddr
  | v4 (ip : BitVec 32) (port : UInt16)
  | v6 (ip : BitVec 128) (port : UInt16) (flowinfo scopeId : UInt32)
  deriving DecidableEq

/-- `0.0.0.0:0`, which stands for a listener that is not configured. -/
def SocketAddr.wildcard : SocketAddr := .v4 0 0

structure RunOptions where
  apiListen : SocketAddr := .v4 0x7f000001 8080
  tcpTlsListen : SocketAddr := .v4 0 443
  httpListen : Option SocketAddr := none
  httpsListen : Option SocketAddr := none
  httpDomain : Option String := none
  publicHost : String := "localhost"
  tcpPortStart : UInt16 := 20000
  tcpPortEnd : UInt16 := 30000

inductive RunOptionsError
  | portRange
  | domainRequired
  | domain
  | sameAddress (left right : String) (address : SocketAddr)
  deriving DecidableEq

/-- The text of an error, given how an address is printed. -/
def RunOptionsError.message (print : SocketAddr → String) : RunOptionsError → String
  | .portRange => "tcp port start must not exceed tcp port end"
  | .domainRequired => "--http-domain is required when --http-listen or --https-listen is configured"
  | .domain => "--http-domain must be a non-empty hostname without whitespace"
  | .sameAddress left right address =>
    left ++ " and " ++ right ++ " listeners use the same TCP address " ++ print address

/-- `char::is_whitespace`: the property `White_Space`. -/
def isWhitespace (c : Char) : Bool :=
  let n := c.toNat
  9 ≤ n && n ≤ 13 || n == 0x20 || n == 0x85 || n == 0xa0 || n == 0x1680 ||
    0x2000 ≤ n && n ≤ 0x200a || n == 0x2028 || n == 0x2029 || n == 0x202f || n == 0x205f ||
    n == 0x3000

def RunOptions.tcpListeners (options : RunOptions) : List (String × SocketAddr) :=
  [("api", options.apiListen), ("tcp-tls", options.tcpTlsListen),
    ("http", options.httpListen.getD .wildcard), ("https", options.httpsListen.getD .wildcard)]

/-- The first two configured listeners that share an address. -/
def listenerClash : List (String × SocketAddr) → Option RunOptionsError
  | [] => none
  | (leftName, left) :: rest =>
    if left = .wildcard then listenerClash rest
    else
      match rest.find? fun right => right.2 != .wildcard && left == right.2 with
      | some (rightName, _) => some (.sameAddress leftName rightName left)
      | none => listenerClash rest

def validateRunOptions (options : RunOptions) : Except RunOptionsError Unit :=
  if options.tcpPortStart > options.tcpPortEnd then .error .portRange
  else if (options.httpListen.isSome || options.httpsListen.isSome) != options.httpDomain.isSome then
    .error .domainRequired
  else if options.httpDomain.any fun domain =>
      domain.isEmpty || 253 < domain.utf8ByteSize || domain.toList.any isWhitespace then
    .error .domain
  else
    match listenerClash options.tcpListeners with
    | some e => .error e
    | none => .ok ()

/-- What the running server keeps of its options. -/
def RunOptions.relayConfig (options : RunOptions) (hashToken : String → TokenHash) :
    RelayConfig where
  publicHost := options.publicHost
  httpDomain := options.httpDomain
  tcpPortStart := options.tcpPortStart
  tcpPortEnd := options.tcpPortEnd
  hashToken := hashToken

/-- An accepted domain is not empty. -/
theorem validateRunOptions_domain {options : RunOptions} {domain : String}
    (h : validateRunOptions options = .ok ()) (hdomain : options.httpDomain = some domain) :
    domain ≠ "" := by
  unfold validateRunOptions at h
  split at h
  · cases h
  · split at h
    · cases h
    · split at h
      · cases h
      · rename_i hbad
        intro hempty
        rw [hdomain, hempty] at hbad
        exact hbad (by decide)

end OngrokRelay
