import KnxDemo.Bytes

/-!
# KNXnet/IP payloads

The structures of `knx/include`. `Pointer` is what a data pointer is: the octets
it points at for a payload to be generated, an offset into the frame for a
payload that was parsed. Enumerations are kept as the codes they are stored as,
since the generators also take codes no enumerator has. The members of a union
are separate fields; no function reads a member that the tag does not select.
-/

namespace KnxDemo.KnxProto

open KnxDemo.Bytes

/-! ## Services and sizes -/

def knxSearchRequest : Nat := 0x0201
def knxSearchResponse : Nat := 0x0202
def knxDescriptionRequest : Nat := 0x0203
def knxDescriptionResponse : Nat := 0x0204
def knxConnectionRequest : Nat := 0x0205
def knxConnectionResponse : Nat := 0x0206
def knxConnectionStateRequest : Nat := 0x0207
def knxConnectionStateResponse : Nat := 0x0208
def knxDisconnectRequest : Nat := 0x0209
def knxDisconnectResponse : Nat := 0x020A
def knxTunnelRequest : Nat := 0x0420
def knxTunnelResponse : Nat := 0x0421
def knxRoutingIndication : Nat := 0x0530

/-- The services `knx_parse` has a parser for. -/
inductive ParsedService where
  | connectionRequest | connectionResponse
  | connectionStateRequest | connectionStateResponse
  | disconnectRequest | disconnectResponse
  | tunnelRequest | tunnelResponse
  | routingIndication
  | descriptionRequest | descriptionResponse
  | unknown

/-- The case of the switch in `knx_parse` a service code falls into. -/
def ParsedService.ofCode (service : Nat) : ParsedService :=
  if service = knxConnectionRequest then .connectionRequest
  else if service = knxConnectionResponse then .connectionResponse
  else if service = knxConnectionStateRequest then .connectionStateRequest
  else if service = knxConnectionStateResponse then .connectionStateResponse
  else if service = knxDisconnectRequest then .disconnectRequest
  else if service = knxDisconnectResponse then .disconnectResponse
  else if service = knxTunnelRequest then .tunnelRequest
  else if service = knxTunnelResponse then .tunnelResponse
  else if service = knxRoutingIndication then .routingIndication
  else if service = knxDescriptionRequest then .descriptionRequest
  else if service = knxDescriptionResponse then .descriptionResponse
  else .unknown

def knxInvalidBuffer : Int := 1
def knxInvalidHeader : Int := 2
def knxUnknownService : Int := 3
def knxInvalidPayload : Int := 4

def knxHeaderSize : Nat := 6
def knxHostInfoSize : Nat := 8
def knxCemiHeaderSize : Nat := 2
def knxConnectionRequestSize : Nat := 4 + knxHostInfoSize * 2
def knxConnectionStateRequestSize : Nat := 2 + knxHostInfoSize
def knxConnectionStateResponseSize : Nat := 2
def knxDisconnectRequestSize : Nat := 2 + knxHostInfoSize
def knxDisconnectResponseSize : Nat := 2
def knxTunnelResponseSize : Nat := 4
def knxDescriptionRequestSize : Nat := knxHostInfoSize
def knxSearchRequestSize : Nat := knxHostInfoSize

/-! ## Host information and connections -/

def knxProtoUdp : Nat := 1
def knxProtoTcp : Nat := 2

/-- Address and port as they lie in memory, in network order. -/
structure KnxHostInfo where
  protocol : Nat := 0
  address : Vector Byte 4 := Vector.replicate 4 0
  port : Vector Byte 2 := Vector.replicate 2 0

def knxConnectionRequestTunnel : Nat := 4
def knxConnectionLayerTunnel : Nat := 2

structure KnxConnectionRequest where
  type : Nat := 0
  layer : Nat := 0
  controlHost : KnxHostInfo := {}
  tunnelHost : KnxHostInfo := {}

structure KnxConnectionResponse where
  channel : Byte := 0
  status : Byte := 0
  host : KnxHostInfo := {}
  extended : Vector Byte 3 := Vector.replicate 3 0

/-- The layout of two requests that name a channel. -/
structure KnxChannelRequest where
  channel : Byte := 0
  status : Byte := 0
  host : KnxHostInfo := {}

abbrev KnxConnectionStateRequest := KnxChannelRequest
abbrev KnxDisconnectRequest := KnxChannelRequest

/-- The layout of the two responses to them. -/
structure KnxChannelResponse where
  channel : Byte := 0
  status : Byte := 0

abbrev KnxConnectionStateResponse := KnxChannelResponse
abbrev KnxDisconnectResponse := KnxChannelResponse

structure KnxTunnelResponse where
  channel : Byte := 0
  seqNumber : Byte := 0
  status : Byte := 0

structure KnxDescriptionRequest where
  controlHost : KnxHostInfo := {}

structure KnxSearchRequest where
  controlHost : KnxHostInfo := {}

structure KnxDescriptionService where
  family : Byte
  version : Byte

/-- `services` has `num_services` entries; an entry nothing was stored to is `none`. -/
structure KnxDescriptionResponse where
  medium : Byte := 0
  status : Byte := 0
  address : BitVec 16 := 0
  id : BitVec 16 := 0
  serial : Vector Byte 6 := Vector.replicate 6 0
  multicastAddress : Vector Byte 4 := Vector.replicate 4 0
  macAddress : Vector Byte 6 := Vector.replicate 6 0
  name : Vector Byte 30 := Vector.replicate 30 0
  numServices : Nat := 0
  services : List (Option KnxDescriptionService) := []

/-! ## Frames -/

def knxTpciUnnumberedData : Nat := 0
def knxTpciNumberedData : Nat := 1
def knxTpciUnnumberedControl : Nat := 2
def knxTpciNumberedControl : Nat := 3

/-- `control` is the control member of the union, the last three fields are the
data member. -/
structure KnxTpdu (Pointer : Type) where
  tpci : Nat := 0
  seqNumber : Byte := 0
  control : Nat := 0
  apci : Nat := 0
  payload : Option Pointer := none
  length : Nat := 0

structure KnxLdata (Pointer : Type) where
  priority : Nat := 0
  repeatFlag : Bool := false
  systemBroadcast : Bool := false
  requestAck : Bool := false
  error : Bool := false
  addressType : Nat := 0
  hops : BitVec 4 := 0
  source : BitVec 16 := 0
  destination : BitVec 16 := 0
  tpdu : KnxTpdu Pointer := {}

def knxCemiLdataReq : Nat := 0x11
def knxCemiLdataInd : Nat := 0x29
def knxCemiLdataCon : Nat := 0x2E

structure KnxCemi (Pointer : Type) where
  service : Nat := 0
  addInfoLength : Byte := 0
  addInfo : Option Pointer := none
  ldata : KnxLdata Pointer := {}

structure KnxTunnelRequest (Pointer : Type) where
  channel : Byte := 0
  seqNumber : Byte := 0
  data : KnxCemi Pointer := {}

structure KnxRoutingIndication (Pointer : Type) where
  data : KnxCemi Pointer := {}

/-- What `knx_generate` is called with: a service and the structure its generator
expects behind the payload pointer. A service without a generator has none. -/
inductive KnxMessage where
  | searchRequest (req : KnxSearchRequest)
  | connectionRequest (req : KnxConnectionRequest)
  | connectionResponse (res : KnxConnectionResponse)
  | connectionStateRequest (req : KnxConnectionStateRequest)
  | connectionStateResponse (res : KnxConnectionStateResponse)
  | disconnectRequest (req : KnxDisconnectRequest)
  | disconnectResponse (res : KnxDisconnectResponse)
  | tunnelRequest (req : KnxTunnelRequest (List Byte))
  | tunnelResponse (res : KnxTunnelResponse)
  | routingIndication (ind : KnxRoutingIndication (List Byte))
  | descriptionRequest (req : KnxDescriptionRequest)
  | other (service : Nat)

def KnxMessage.service : KnxMessage → Nat
  | .searchRequest _ => knxSearchRequest
  | .connectionRequest _ => knxConnectionRequest
  | .connectionResponse _ => knxConnectionResponse
  | .connectionStateRequest _ => knxConnectionStateRequest
  | .connectionStateResponse _ => knxConnectionStateResponse
  | .disconnectRequest _ => knxDisconnectRequest
  | .disconnectResponse _ => knxDisconnectResponse
  | .tunnelRequest _ => knxTunnelRequest
  | .tunnelResponse _ => knxTunnelResponse
  | .routingIndication _ => knxRoutingIndication
  | .descriptionRequest _ => knxDescriptionRequest
  | .other service => service

/-- The payload union of `knx_packet`, to be filled by `knx_parse`. -/
structure KnxPayload where
  connReq : KnxConnectionRequest := {}
  connRes : KnxConnectionResponse := {}
  dcReq : KnxDisconnectRequest := {}
  dcRes : KnxDisconnectResponse := {}
  connStateReq : KnxConnectionStateRequest := {}
  connStateRes : KnxConnectionStateResponse := {}
  tunnelReq : KnxTunnelRequest Nat := {}
  tunnelRes : KnxTunnelResponse := {}
  routingInd : KnxRoutingIndication Nat := {}
  descriptionReq : KnxDescriptionRequest := {}
  descriptionRes : KnxDescriptionResponse := {}

structure KnxPacket where
  service : Nat := 0
  payload : KnxPayload := {}

end KnxDemo.KnxProto
