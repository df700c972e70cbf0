import OngrokRelay.State

/-
  The service directory: port leases and their listeners (`relay.rs`), and the
  operations that register, withdraw and annotate services (`server.rs`).

  Each operation is its locked sections and store calls in the order of the
  source, run one after another; `ServiceTasks` runs the same sections
  interleaved with those of other operations.

  Correspondence (Rust ↔ Lean):
    `first_available_tcp_port`              ↔ `firstAvailableTcpPort`
    `ensure_tcp_ingress`                    ↔ `ensureTcpIngress`
    `register_service`, up to the insert    ↔ `admitService`
    `register_service`                      ↔ `registerService`
    `unregister_service`                    ↔ `unregisterService`
    `DELETE /v1/services/{id}`              ↔ `deleteService`
    `PATCH /v1/services/{id}`               ↔ `patchService`
-/

namespace OngrokRelay

abbrev Services := BTreeMap ServiceId ServiceDefinition

/-! ## Port leases -/

/-- `start..=end` in ascending order, up to the end of the `u16` range. -/
def portRange (start stop : UInt16) : List UInt16 :=
  (List.range' start.toNat (stop.toNat + 1 - start.toNat)).map UInt16.ofNat

/-- Some TCP service leases the port. -/
def leases (port : UInt16) (service : ServiceDefinition) : Bool :=
  service.protocol == .tcp && service.publicPort == some port

def firstAvailableTcpPort (cfg : RelayConfig) (services : Services) : Option UInt16 :=
  (portRange cfg.tcpPortStart cfg.tcpPortEnd).find? fun port =>
    !(BTreeMap.values services).any (leases port)

/-! ## Registration -/

/-- The name is in use by a service of another node. -/
def nameTaken (services : Services) (service : ServiceDefinition) (nodeId : NodeId) : Bool :=
  (BTreeMap.values services).any fun existing =>
    existing.serviceName == service.serviceName && existing.nodeId != nodeId

/-- The node's own service of that name. -/
def previousService (services : Services) (service : ServiceDefinition) (nodeId : NodeId) :
    Option ServiceDefinition :=
  (BTreeMap.values services).find? fun existing =>
    existing.nodeId == nodeId && existing.serviceName == service.serviceName

/-- A node that publishes a name again keeps the service's id, and from TCP to
TCP its port. -/
def reusePrevious (services : Services) (nodeId : NodeId) (service : ServiceDefinition) :
    ServiceDefinition :=
  match previousService services service nodeId with
  | some previous =>
    { service with
      serviceId := previous.serviceId
      publicPort :=
        if previous.protocol == .tcp && service.protocol == .tcp then previous.publicPort
        else service.publicPort }
  | none => service

/-- A TCP service under another id leases the port. -/
def portLeased (services : Services) (serviceId : ServiceId) (port : UInt16) : Bool :=
  (BTreeMap.values services).any fun existing =>
    existing.serviceId != serviceId && leases port existing

/-- The port a TCP service asks for: the one it names, or the first free one. -/
def wantedPort (cfg : RelayConfig) (services : Services) (service : ServiceDefinition) :
    Option UInt16 :=
  match service.publicPort with
  | some port => some port
  | none => firstAvailableTcpPort cfg services

def assignAddress (cfg : RelayConfig) (services : Services) (service : ServiceDefinition) :
    Except String ServiceDefinition :=
  match service.protocol with
  | .tcp =>
    match wantedPort cfg services service with
    | none => .error "no TCP relay ports are available"
    | some port =>
      if port < cfg.tcpPortStart ∨ port > cfg.tcpPortEnd then
        .error s!"TCP port {port} is outside the configured relay range"
      else if portLeased services service.serviceId port then
        .error s!"TCP port {port} is already leased"
      else .ok { service with publicPort := some port, publicHost := some cfg.publicHost }
  | .http | .https =>
    match cfg.httpDomain with
    | none => .error "HTTP/HTTPS ingress is not configured on this relay"
    | some domain =>
      .ok { service with
        publicHost := some (service.serviceName ++ "." ++ domain)
        publicPort := none }

/-- The checks of `register_service` on the directory it has locked, and the
definition it then inserts. -/
def admitService (cfg : RelayConfig) (services : Services) (service : ServiceDefinition)
    (nodeId : NodeId) : Except String ServiceDefinition :=
  match validateServiceName service.serviceName with
  | .error e => .error e.message
  | .ok _ =>
    match service.metadata.validate with
    | .error e => .error e.message
    | .ok _ =>
      if nameTaken services service nodeId then .error "service name is already in use"
      else assignAddress cfg services (reusePrevious services nodeId service)

def insertService (service : ServiceDefinition) (st : AppState) : AppState :=
  { st with services := st.services.insert service.serviceId service }

/-- The locked section of `register_service`. -/
def registerLocked (cfg : RelayConfig) (service : ServiceDefinition) (nodeId : NodeId)
    (st : AppState) : AppState × Except String ServiceDefinition :=
  match admitService cfg st.services service nodeId with
  | .error e => (st, .error e)
  | .ok admitted => (insertService admitted st, .ok admitted)

def putService (env : Env) (service : ServiceDefinition) (st : AppState) : AppState :=
  { st with store := commit env.put (ServiceStore.put service) st.store }

def deleteRow (env : Env) (serviceId : ServiceId) (st : AppState) : AppState :=
  { st with store := commit env.delete (ServiceStore.delete serviceId) st.store }

def removeService (serviceId : ServiceId) (st : AppState) : AppState :=
  { st with services := st.services.erase serviceId }

/-- The listener enters the task map; one it displaces is aborted with it. -/
def insertTask (serviceId : ServiceId) (port : UInt16) (st : AppState) : AppState :=
  { st with tcpIngressTasks := st.tcpIngressTasks.insert serviceId port }

/-- The task is removed from the map and aborted, which closes its listener. -/
def abortTask (serviceId : ServiceId) (st : AppState) : AppState :=
  { st with tcpIngressTasks := st.tcpIngressTasks.erase serviceId }

def ensureTcpIngress (env : Env) (service : ServiceDefinition) (st : AppState) :
    AppState × Outcome :=
  match service.publicPort with
  | none => (st, .error "TCP service has no assigned public port")
  | some port =>
    -- a listener already running under the id counts, whatever its port
    if st.tcpIngressTasks.contains service.serviceId then (st, .ok ())
    else match env.bind port with
      | .error _ => (st, .error s!"failed to bind TCP ingress at 0.0.0.0:{port}")
      | .ok _ => (insertTask service.serviceId port st, .ok ())

def registerService (cfg : RelayConfig) (env : Env) (service : ServiceDefinition)
    (nodeId : NodeId) (st : AppState) : AppState × Except String ServiceDefinition :=
  match registerLocked cfg service nodeId st with
  | (st, .error e) => (st, .error e)
  | (st, .ok service) =>
    let st := putService env service st
    match env.put with
    | .error e => (st, .error e)
    | .ok _ =>
      let registered (st : AppState) : AppState :=
        recordEvent env .serviceRegistered (some nodeId) (some service.serviceId) none st
      if service.protocol = .tcp then
        match ensureTcpIngress env service st with
        | (st, .ok _) => (registered st, .ok service)
        | (st, .error _) =>
          -- the entry it replaced, if there was one, does not come back
          let st := deleteRow env service.serviceId (removeService service.serviceId st)
          match env.delete with
          | .error e => (st, .error e)
          | .ok _ => (st, .error "failed to activate TCP relay port")
      else (registered st, .ok service)

/-! ## Withdrawal and annotation -/

/-- The directory holds the service, and for that node. -/
def ownedBy (services : Services) (serviceId : ServiceId) (nodeId : NodeId) : Bool :=
  services[serviceId]?.any fun service => service.nodeId == nodeId

def unregisterService (env : Env) (serviceId : ServiceId) (nodeId : NodeId) (st : AppState) :
    AppState × Outcome :=
  if ownedBy st.services serviceId nodeId then
    let st := deleteRow env serviceId (removeService serviceId st)
    match env.delete with
    -- the listener goes on
    | .error e => (st, .error e)
    | .ok _ =>
      let st := recordEvent env .serviceDeleted (some nodeId) (some serviceId) none st
      (abortTask serviceId st, .ok ())
  else (st, .ok ())

structure ServiceView where
  service : ServiceDefinition
  status : ServiceStatus
  transport : Option TransportKind
  lastHeartbeatAtUnixMs : Option Int64
  rttMs : Option UInt32
  deriving DecidableEq

/-- A service as the control API shows it, with the state of its node. -/
def serviceView (nodes : BTreeMap NodeId NodeRecord) (service : ServiceDefinition) :
    ServiceView :=
  let node := nodes[service.nodeId]?
  { service
    status := if node.any (fun n => n.status == .online) then .online else .offline
    transport := node.map NodeRecord.transport
    lastHeartbeatAtUnixMs := node.bind NodeRecord.lastHeartbeatAtUnixMs
    rttMs := node.bind NodeRecord.rttMs }

inductive ApiBody
  | error (text : String)
  | deleted (serviceId : ServiceId)
  | view (view : ServiceView)
  deriving DecidableEq

structure ApiResponse where
  status : Nat
  body : ApiBody
  deriving DecidableEq

def deleteService (env : Env) (serviceId : ServiceId) (st : AppState) : AppState × ApiResponse :=
  match st.services[serviceId]? with
  | none => (st, ⟨404, .error "service not found"⟩)
  | some service =>
    -- here the listener is closed before the store is called
    let st := deleteRow env serviceId (abortTask serviceId (removeService serviceId st))
    match env.delete with
    | .error _ => (st, ⟨500, .error "failed to delete service"⟩)
    | .ok _ =>
      (recordEvent env .serviceDeleted (some service.nodeId) (some serviceId) none st,
        ⟨200, .deleted serviceId⟩)

/-- The locked section of a patch: the entry takes the new metadata, and a copy
of it is kept for the store. -/
def patchLocked (serviceId : ServiceId) (metadata : Metadata) (st : AppState) :
    AppState × Option ServiceDefinition :=
  match st.services[serviceId]? with
  | none => (st, none)
  | some service =>
    let updated := { service with metadata }
    ({ st with services := st.services.insert serviceId updated }, some updated)

/-- A decoded patch request; its body may leave the metadata out. -/
def patchService (env : Env) (serviceId : ServiceId) (metadata : Option Metadata)
    (st : AppState) : AppState × ApiResponse :=
  match metadata with
  | none => (st, ⟨400, .error "metadata is required"⟩)
  | some metadata =>
    match metadata.validate with
    | .error _ => (st, ⟨400, .error "invalid service metadata"⟩)
    | .ok _ =>
      match patchLocked serviceId metadata st with
      | (st, none) => (st, ⟨404, .error "service not found"⟩)
      | (st, some updated) =>
        let st := putService env updated st
        match env.put with
        | .error _ => (st, ⟨500, .error "failed to update service"⟩)
        | .ok _ => (st, ⟨200, .view (serviceView st.nodes updated)⟩)

/-! ## Sample values

A relay with two ports and a domain, for the runs on fixed inputs. -/

namespace Sample

/-- The characters of a token as the digits of one number. -/
def hashToken (token : String) : TokenHash :=
  BitVec.ofNat 256 (token.toList.foldl (fun n c => n * 0x110000 + c.toNat + 1) 0)

def config : RelayConfig where
  publicHost := "relay.test"
  httpDomain := some "apps.test"
  tcpPortStart := 20000
  tcpPortEnd := 20001
  hashToken := hashToken

def service (id : BitVec 128) (name : String) (node : BitVec 128) (protocol : Protocol)
    (port : Option UInt16) : ServiceDefinition where
  serviceId := ⟨id⟩
  serviceName := name
  nodeId := ⟨node⟩
  protocol := protocol
  localAddress := "127.0.0.1:3000"
  publicHost := none
  publicPort := port
  metadata := {}

end Sample

end OngrokRelay
