import OngrokRelay.Domain
import OngrokRelay.Postcard

/-
  The bytes of the domain types: what `serde` derives for them, in postcard.

  A newtype is written as what it holds, a struct as its fields in the order of
  their declaration, without names, and an enumeration as the index of its variant
  and the fields of it. An identifier is a byte string of sixteen, a key an array of
  thirty-two. An attribute such as `default` is for a field that the format reports
  as missing, and this one reports none.

  Correspondence (Rust ↔ Lean):
    `Uuid`, `[u8; 32]`              ↔ `uuid`, `bytes32`
    `TransportKind`, `NodeStatus`   ↔ `transportKind`, `nodeStatus`
    `TokenKind`, `Protocol`         ↔ `tokenKind`, `protocol`
    `Metadata`, `NodeMetadata`      ↔ `metadata`, `nodeMetadata`
    `NodeRecord`                    ↔ `nodeRecord`
    `ServiceDefinition`             ↔ `serviceDefinition`
    `HeartbeatSnapshot`             ↔ `heartbeatSnapshot`
    `Frame`                         ↔ `frame`
-/

namespace OngrokRelay
namespace Encoding

open Postcard Postcard.Codec

/-! ## Identifiers and keys -/

def uuid {kind : IdKind} : Codec (UuidId kind) :=
  bytes.refine
    (fun bs => if bs.length = 16 then some ⟨BitVec.ofNat 128 (Bytes.ofBigEndian bs)⟩ else none)
    (fun id => Bytes.bigEndian 16 id.bits.toNat) .custom
    (fun id => by
      have hlt : id.bits.toNat < 256 ^ 16 := id.bits.isLt
      rw [if_pos (Bytes.bigEndian_length ..), Bytes.ofBigEndian_bigEndian hlt, BitVec.ofNat_toNat,
        BitVec.setWidth_eq])
    fun bs id h => by
      split at h
      · rename_i hlen
        cases h
        have hbits : (BitVec.ofNat 128 (Bytes.ofBigEndian bs)).toNat = Bytes.ofBigEndian bs := by
          rw [BitVec.toNat_ofNat]
          exact Nat.mod_eq_of_lt (Nat.lt_of_lt_of_eq (Bytes.ofBigEndian_lt hlen) (by decide))
        show (bytes.encode (Bytes.bigEndian 16 (BitVec.ofNat 128 _).toNat)).length ≤ _
        rw [hbits, Bytes.bigEndian_ofBigEndian hlen]
      · cases h

theorem uuid_length {kind : IdKind} (id : UuidId kind) : (uuid.encode id).length = 17 := by
  show (bytes.encode (Bytes.bigEndian 16 id.bits.toNat)).length = 17
  rw [bytes_encode, List.length_append, Bytes.bigEndian_length]
  rfl

def bytes32 : Codec (BitVec 256) :=
  (array byte 32).equiv
    { toFun bs := BitVec.ofNat 256 (Bytes.ofBigEndian bs.1)
      invFun key := ⟨Bytes.bigEndian 32 key.toNat, Bytes.bigEndian_length ..⟩
      left_inv bs := by
        have hbits : (BitVec.ofNat 256 (Bytes.ofBigEndian bs.1)).toNat =
            Bytes.ofBigEndian bs.1 := by
          rw [BitVec.toNat_ofNat]
          exact Nat.mod_eq_of_lt (Nat.lt_of_lt_of_eq (Bytes.ofBigEndian_lt bs.2) (by decide))
        apply Subtype.ext
        show Bytes.bigEndian 32 (BitVec.ofNat 256 _).toNat = bs.1
        rw [hbits, Bytes.bigEndian_ofBigEndian bs.2]
      right_inv key := by
        have hlt : key.toNat < 256 ^ 32 := key.isLt
        show BitVec.ofNat 256 (Bytes.ofBigEndian (Bytes.bigEndian 32 key.toNat)) = key
        rw [Bytes.ofBigEndian_bigEndian hlt, BitVec.ofNat_toNat, BitVec.setWidth_eq] }

/-! ## Enumerations -/

def tokenKind : Codec TokenKind :=
  enumeration [.admin, .user] (by decide) (by decide) fun kind => by cases kind <;> decide

def protocol : Codec Protocol :=
  enumeration [.http, .https, .tcp] (by decide) (by decide) fun kind => by cases kind <;> decide

def transportKind : Codec TransportKind :=
  enumeration [.quic, .tcpTlsYamux] (by decide) (by decide) fun kind => by cases kind <;> decide

def nodeStatus : Codec NodeStatus :=
  enumeration [.online, .offline] (by decide) (by decide) fun status => by cases status <;> decide

/-! ## Nodes -/

def metadata : Codec Metadata :=
  (map (text.pair text) fun e => by
    show 0 < (text.encode e.1 ++ text.encode e.2).length
    rw [List.length_append]
    exact Nat.add_pos_left (text_pos e.1) _).equiv
    { toFun entries := ⟨entries⟩
      invFun m := m.entries
      left_inv _ := rfl
      right_inv _ := rfl }

def nodeMetadata : Codec NodeMetadata :=
  (text.pair (text.pair (text.pair (text.pair metadata)))).equiv
    { toFun := fun (hostname, os, arch, clientVersion, metadata) =>
        ⟨hostname, os, arch, clientVersion, metadata⟩
      invFun m := (m.hostname, m.os, m.arch, m.clientVersion, m.metadata)
      left_inv _ := rfl
      right_inv _ := rfl }

/-- The fields of a node record after its key. -/
abbrev NodeFields :=
  NodeMetadata × String × UInt16 × TransportKind × NodeStatus × Int64 × Option Int64 ×
    Option UInt32

def nodeFields : Codec NodeFields :=
  nodeMetadata.pair (text.pair (u16.pair (transportKind.pair (nodeStatus.pair
    (i64.pair ((option i64).pair (option u32)))))))

def nodeRecord : Codec NodeRecord :=
  (uuid.pair ((option bytes32).pair nodeFields)).equiv
    { toFun := fun (nodeId, publicKey, metadata, publicIp, sourcePort, transport, status,
          connectedAtUnixMs, lastHeartbeatAtUnixMs, rttMs) =>
        { nodeId, publicKey, metadata, publicIp, sourcePort, transport, status,
          connectedAtUnixMs, lastHeartbeatAtUnixMs, rttMs }
      invFun node := (node.nodeId, node.publicKey, node.metadata, node.publicIp, node.sourcePort,
        node.transport, node.status, node.connectedAtUnixMs, node.lastHeartbeatAtUnixMs,
        node.rttMs)
      left_inv _ := rfl
      right_inv _ := rfl }

/-! ## Frames -/

/-- The bits of an `f32`, the lowest byte first. -/
def f32 : Codec UInt32 :=
  (array byte 4).equiv
    { toFun bs := UInt32.ofNat (Bytes.ofBigEndian bs.1.reverse)
      invFun n := ⟨(Bytes.bigEndian 4 n.toNat).reverse, by
        rw [List.length_reverse, Bytes.bigEndian_length]⟩
      left_inv bs := by
        have hlen : bs.1.reverse.length = 4 := by rw [List.length_reverse, bs.2]
        have hbits : (UInt32.ofNat (Bytes.ofBigEndian bs.1.reverse)).toNat =
            Bytes.ofBigEndian bs.1.reverse := by
          rw [UInt32.toNat_ofNat']
          exact Nat.mod_eq_of_lt (Nat.lt_of_lt_of_eq (Bytes.ofBigEndian_lt hlen) (by decide))
        apply Subtype.ext
        show (Bytes.bigEndian 4 (UInt32.ofNat _).toNat).reverse = bs.1
        rw [hbits, Bytes.bigEndian_ofBigEndian hlen, List.reverse_reverse]
      right_inv n := by
        have hlt : n.toNat < 256 ^ 4 := n.toNat_lt
        show UInt32.ofNat (Bytes.ofBigEndian (Bytes.bigEndian 4 n.toNat).reverse.reverse) = n
        rw [List.reverse_reverse, Bytes.ofBigEndian_bigEndian hlt, UInt32.ofNat_toNat] }

def serviceDefinition : Codec ServiceDefinition :=
  (uuid.pair (text.pair (uuid.pair (protocol.pair (text.pair ((option text).pair
    ((option u16).pair metadata))))))).equiv
    { toFun := fun (serviceId, serviceName, nodeId, protocol, localAddress, publicHost, publicPort,
          metadata) =>
        { serviceId, serviceName, nodeId, protocol, localAddress, publicHost, publicPort, metadata }
      invFun s := (s.serviceId, s.serviceName, s.nodeId, s.protocol, s.localAddress, s.publicHost,
        s.publicPort, s.metadata)
      left_inv _ := rfl
      right_inv _ := rfl }

def heartbeatSnapshot : Codec HeartbeatSnapshot :=
  (u64.pair (i64.pair ((option f32).pair ((option f32).pair ((option f32).pair
    ((option u64).pair (option u64))))))).equiv
    { toFun := fun (sequence, sentAtUnixMs, cpuPercent, memoryPercent, loadAverage, networkRxBytes,
          networkTxBytes) =>
        { sequence, sentAtUnixMs, cpuPercent, memoryPercent, loadAverage, networkRxBytes,
          networkTxBytes }
      invFun s := (s.sequence, s.sentAtUnixMs, s.cpuPercent, s.memoryPercent, s.loadAverage,
        s.networkRxBytes, s.networkTxBytes)
      left_inv _ := rfl
      right_inv _ := rfl }

/-- The variants of a frame. -/
inductive FrameTag
  | hello
  | auth
  | authAccepted
  | authRejected
  | registerNode
  | registerService
  | registerServiceAccepted
  | unregisterService
  | serviceList
  | heartbeat
  | heartbeatAck
  | openStream
  | openStreamAck
  | streamData
  | closeStream
  | error
  | goodbye
  deriving DecidableEq

def frameTag : Codec FrameTag :=
  enumeration
    [.hello, .auth, .authAccepted, .authRejected, .registerNode, .registerService,
      .registerServiceAccepted, .unregisterService, .serviceList, .heartbeat, .heartbeatAck,
      .openStream, .openStreamAck, .streamData, .closeStream, .error, .goodbye]
    (by decide) (by decide) fun tag => by cases tag <;> decide

abbrev FrameFields : FrameTag → Type
  | .hello => UInt16
  | .auth => String × NodeId
  | .authAccepted => TokenKind
  | .authRejected => Unit
  | .registerNode => NodeMetadata × PublicKey
  | .registerService => ServiceDefinition
  | .registerServiceAccepted => ServiceDefinition
  | .unregisterService => ServiceId
  | .serviceList => List ServiceDefinition
  | .heartbeat => HeartbeatSnapshot
  | .heartbeatAck => UInt64 × Int64
  | .openStream => TunnelId × ServiceId
  | .openStreamAck => TunnelId
  | .streamData => TunnelId × List UInt8
  | .closeStream => TunnelId
  | .error => String
  | .goodbye => Unit

theorem serviceDefinition_pos (s : ServiceDefinition) :
    0 < (serviceDefinition.encode s).length := by
  show 0 < (uuid.encode s.serviceId ++ _).length
  rw [List.length_append, uuid_length]
  exact Nat.add_pos_left (by decide) _

def frameFields : ∀ tag, Codec (FrameFields tag)
  | .hello => u16
  | .auth => text.pair uuid
  | .authAccepted => tokenKind
  | .authRejected => unit
  | .registerNode => nodeMetadata.pair bytes32
  | .registerService => serviceDefinition
  | .registerServiceAccepted => serviceDefinition
  | .unregisterService => uuid
  | .serviceList => seq serviceDefinition serviceDefinition_pos
  | .heartbeat => heartbeatSnapshot
  | .heartbeatAck => u64.pair i64
  | .openStream => uuid.pair uuid
  | .openStreamAck => uuid
  | .streamData => uuid.pair bytes
  | .closeStream => uuid
  | .error => text
  | .goodbye => unit

def ofFields : (Σ tag, FrameFields tag) → Frame
  | ⟨.hello, version⟩ => .hello version
  | ⟨.auth, token, nodeId⟩ => .auth token nodeId
  | ⟨.authAccepted, kind⟩ => .authAccepted kind
  | ⟨.authRejected, _⟩ => .authRejected
  | ⟨.registerNode, metadata, publicKey⟩ => .registerNode metadata publicKey
  | ⟨.registerService, service⟩ => .registerService service
  | ⟨.registerServiceAccepted, service⟩ => .registerServiceAccepted service
  | ⟨.unregisterService, serviceId⟩ => .unregisterService serviceId
  | ⟨.serviceList, services⟩ => .serviceList services
  | ⟨.heartbeat, snapshot⟩ => .heartbeat snapshot
  | ⟨.heartbeatAck, sequence, serverTimeUnixMs⟩ => .heartbeatAck sequence serverTimeUnixMs
  | ⟨.openStream, tunnelId, serviceId⟩ => .openStream tunnelId serviceId
  | ⟨.openStreamAck, tunnelId⟩ => .openStreamAck tunnelId
  | ⟨.streamData, tunnelId, data⟩ => .streamData tunnelId data
  | ⟨.closeStream, tunnelId⟩ => .closeStream tunnelId
  | ⟨.error, message⟩ => .error message
  | ⟨.goodbye, _⟩ => .goodbye

def toFields : Frame → Σ tag, FrameFields tag
  | .hello version => ⟨.hello, version⟩
  | .auth token nodeId => ⟨.auth, token, nodeId⟩
  | .authAccepted kind => ⟨.authAccepted, kind⟩
  | .authRejected => ⟨.authRejected, ()⟩
  | .registerNode metadata publicKey => ⟨.registerNode, metadata, publicKey⟩
  | .registerService service => ⟨.registerService, service⟩
  | .registerServiceAccepted service => ⟨.registerServiceAccepted, service⟩
  | .unregisterService serviceId => ⟨.unregisterService, serviceId⟩
  | .serviceList services => ⟨.serviceList, services⟩
  | .heartbeat snapshot => ⟨.heartbeat, snapshot⟩
  | .heartbeatAck sequence serverTimeUnixMs => ⟨.heartbeatAck, sequence, serverTimeUnixMs⟩
  | .openStream tunnelId serviceId => ⟨.openStream, tunnelId, serviceId⟩
  | .openStreamAck tunnelId => ⟨.openStreamAck, tunnelId⟩
  | .streamData tunnelId data => ⟨.streamData, tunnelId, data⟩
  | .closeStream tunnelId => ⟨.closeStream, tunnelId⟩
  | .error message => ⟨.error, message⟩
  | .goodbye => ⟨.goodbye, ()⟩

theorem toFields_ofFields (v : Σ tag, FrameFields tag) : toFields (ofFields v) = v := by
  obtain ⟨tag, fields⟩ := v
  cases tag <;> rfl

def frame : Codec Frame :=
  (tagged frameTag frameFields).equiv
    { toFun := ofFields
      invFun := toFields
      left_inv := toFields_ofFields
      right_inv frame := by cases frame <;> rfl }

theorem frame_pos (f : Frame) : 0 < (frame.encode f).length := by
  show 0 < (pushVarint _ _ ++ _).length
  rw [List.length_append]
  exact Nat.add_pos_left (pushVarint_pos ..) _

end Encoding
end OngrokRelay
