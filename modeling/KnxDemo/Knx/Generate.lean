import KnxDemo.Interaction.Buffer
import KnxDemo.Knx.Proto

/-!
# Generating KNXnet/IP frames

The generators of `knx/proto` as stores into a buffer whose previous contents
are arbitrary, and the size functions that are computed beside them. A pointer
into the buffer is an offset. A block copy takes the octets its pointer leads
to, as many as the length field says.
-/

namespace KnxDemo.KnxGenerate

open KnxDemo.Bytes KnxDemo.KnxProto KnxDemo.Interaction

/-! ## Host information and connections -/

def knxHostInfoGenerate (buffer : Buffer Byte) (offset : Nat) (host : KnxHostInfo) :
    Buffer Byte :=
  let buffer := buffer.store offset (BitVec.ofNat 8 knxHostInfoSize)
  let buffer := buffer.store (offset + 1) (BitVec.ofNat 8 host.protocol)
  let buffer := buffer.storeBlock (offset + 2) host.address.toList
  buffer.storeBlock (offset + 6) host.port.toList

def knxConnectionRequestGenerate (buffer : Buffer Byte) (offset : Nat)
    (req : KnxConnectionRequest) : Buffer Byte :=
  let buffer := knxHostInfoGenerate buffer offset req.controlHost
  let offset := offset + knxHostInfoSize
  let buffer := knxHostInfoGenerate buffer offset req.tunnelHost
  let offset := offset + knxHostInfoSize
  let buffer := buffer.store offset 4
  let buffer := buffer.store (offset + 1) (BitVec.ofNat 8 req.type)
  let buffer := buffer.store (offset + 2) (BitVec.ofNat 8 req.layer)
  buffer.store (offset + 3) 0

def knxConnectionResponseGenerate (buffer : Buffer Byte) (offset : Nat)
    (res : KnxConnectionResponse) : Buffer Byte :=
  let buffer := buffer.store offset res.channel
  let buffer := buffer.store (offset + 1) res.status
  let offset := offset + 2
  if res.status = 0 then
    let buffer := knxHostInfoGenerate buffer offset res.host
    let offset := offset + knxHostInfoSize
    let buffer := buffer.store offset 4
    buffer.storeBlock (offset + 1) res.extended.toList
  else buffer

def channelRequestGenerate (buffer : Buffer Byte) (offset : Nat) (req : KnxChannelRequest) :
    Buffer Byte :=
  let buffer := buffer.store offset req.channel
  let buffer := buffer.store (offset + 1) req.status
  knxHostInfoGenerate buffer (offset + 2) req.host

def knxConnectionStateRequestGenerate (buffer : Buffer Byte) (offset : Nat)
    (req : KnxConnectionStateRequest) : Buffer Byte :=
  channelRequestGenerate buffer offset req

def knxDisconnectRequestGenerate (buffer : Buffer Byte) (offset : Nat)
    (req : KnxDisconnectRequest) : Buffer Byte :=
  channelRequestGenerate buffer offset req

def channelResponseGenerate (buffer : Buffer Byte) (offset : Nat) (res : KnxChannelResponse) :
    Buffer Byte :=
  let buffer := buffer.store offset res.channel
  buffer.store (offset + 1) res.status

def knxConnectionStateResponseGenerate (buffer : Buffer Byte) (offset : Nat)
    (res : KnxConnectionStateResponse) : Buffer Byte :=
  channelResponseGenerate buffer offset res

def knxDisconnectResponseGenerate (buffer : Buffer Byte) (offset : Nat)
    (res : KnxDisconnectResponse) : Buffer Byte :=
  channelResponseGenerate buffer offset res

def knxSearchRequestGenerate (buffer : Buffer Byte) (offset : Nat) (req : KnxSearchRequest) :
    Buffer Byte :=
  knxHostInfoGenerate buffer offset req.controlHost

def knxDescriptionRequestGenerate (buffer : Buffer Byte) (offset : Nat)
    (req : KnxDescriptionRequest) : Buffer Byte :=
  knxHostInfoGenerate buffer offset req.controlHost

def knxTunnelResponseGenerate (buffer : Buffer Byte) (offset : Nat) (res : KnxTunnelResponse) :
    Buffer Byte :=
  let buffer := buffer.store offset 4
  let buffer := buffer.store (offset + 1) res.channel
  let buffer := buffer.store (offset + 2) res.seqNumber
  buffer.store (offset + 3) res.status

/-! ## Frames -/

/-- The octets behind a pointer. -/
def octetsBehind (pointer : Option (List Byte)) (length : Nat) : List Byte :=
  (pointer.getD []).take length

def isData (tpci : Nat) : Bool := tpci = knxTpciUnnumberedData || tpci = knxTpciNumberedData

def isControl (tpci : Nat) : Bool :=
  tpci = knxTpciUnnumberedControl || tpci = knxTpciNumberedControl

def knxTpduSize (info : KnxTpdu (List Byte)) : Nat :=
  if isData info.tpci then
    let s := info.length + 1
    if s > 2 then s else 2
  else if isControl info.tpci then 1
  else 0

def knxTpduGenerate (buffer : Buffer Byte) (tpdu : Nat) (info : KnxTpdu (List Byte)) :
    Buffer Byte :=
  let buffer := buffer.store tpdu
    (BitVec.ofNat 8 ((info.tpci &&& 3) <<< 6 ||| (info.seqNumber.toNat &&& 15) <<< 2))
  if isData info.tpci then
    let buffer := buffer.storeBlock (tpdu + 1) (octetsBehind info.payload info.length)
    -- the two top bits of the first payload octet are replaced in place
    let buffer := buffer.store tpdu
      (buffer.memory tpdu ||| BitVec.ofNat 8 (info.apci >>> 2 &&& 3))
    let buffer := buffer.store (tpdu + 1) (buffer.memory (tpdu + 1) &&& 63#8)
    buffer.store (tpdu + 1)
      (buffer.memory (tpdu + 1) ||| BitVec.ofNat 8 ((info.apci &&& 3) <<< 6))
  else if isControl info.tpci then
    buffer.store tpdu (buffer.memory tpdu ||| BitVec.ofNat 8 (info.control &&& 3))
  else buffer

/-- A truth value as the integer it is promoted to. -/
def bit (flag : Bool) : Nat := if flag then 1 else 0

/-- `~flag & 1` -/
def notBit (flag : Bool) : Nat := if flag then 0 else 1

def knxLdataSize (req : KnxLdata (List Byte)) : Nat := 8 + knxTpduSize req.tpdu

def knxLdataGenerate (buffer : Buffer Byte) (offset : Nat) (req : KnxLdata (List Byte)) :
    Buffer Byte × Bool :=
  let tpduLength := knxTpduSize req.tpdu
  if tpduLength = 0 ∨ tpduLength > 255 + 1 then (buffer, false)
  else
    let buffer := buffer.store offset (BitVec.ofNat 8
      (bit (tpduLength ≤ 16) <<< 7 ||| notBit req.repeatFlag <<< 5
        ||| notBit req.systemBroadcast <<< 4 ||| (req.priority &&& 3) <<< 2
        ||| bit req.requestAck <<< 1 ||| bit req.error))
    let buffer := buffer.store (offset + 1)
      (BitVec.ofNat 8 ((req.addressType &&& 1) <<< 7 ||| (req.hops.toNat &&& 7) <<< 4))
    let buffer := buffer.store (offset + 2) (highByte req.source)
    let buffer := buffer.store (offset + 3) (lowByte req.source)
    let buffer := buffer.store (offset + 4) (highByte req.destination)
    let buffer := buffer.store (offset + 5) (lowByte req.destination)
    let buffer := buffer.store (offset + 6) (BitVec.ofNat 8 (tpduLength - 1))
    (knxTpduGenerate buffer (offset + 7) req.tpdu, true)

def isLdata (service : Nat) : Bool :=
  service = knxCemiLdataInd || service = knxCemiLdataReq || service = knxCemiLdataCon

def knxCemiSize (frame : KnxCemi (List Byte)) : Nat :=
  if isLdata frame.service then
    knxCemiHeaderSize + frame.addInfoLength.toNat + knxLdataSize frame.ldata
  else 0

def knxCemiGenerate (buffer : Buffer Byte) (offset : Nat) (frame : KnxCemi (List Byte)) :
    Buffer Byte × Bool :=
  let buffer := buffer.store offset (BitVec.ofNat 8 frame.service)
  let buffer :=
    if frame.addInfoLength.toNat > 0 ∧ frame.addInfo.isSome then
      let buffer := buffer.store (offset + 1) frame.addInfoLength
      buffer.storeBlock (offset + knxCemiHeaderSize)
        (octetsBehind frame.addInfo frame.addInfoLength.toNat)
    else buffer.store (offset + 1) 0
  let offset := offset + (knxCemiHeaderSize + frame.addInfoLength.toNat)
  if isLdata frame.service then knxLdataGenerate buffer offset frame.ldata
  else (buffer, false)

/-- The result of the cEMI generator is dropped. -/
def knxTunnelRequestGenerate (buffer : Buffer Byte) (offset : Nat)
    (req : KnxTunnelRequest (List Byte)) : Buffer Byte :=
  let buffer := buffer.store offset 4
  let buffer := buffer.store (offset + 1) req.channel
  let buffer := buffer.store (offset + 2) req.seqNumber
  let buffer := buffer.store (offset + 3) 0
  (knxCemiGenerate buffer (offset + 4) req.data).1

def knxTunnelRequestSize (req : KnxTunnelRequest (List Byte)) : Nat := 4 + knxCemiSize req.data

def knxRoutingIndicationGenerate (buffer : Buffer Byte) (offset : Nat)
    (ind : KnxRoutingIndication (List Byte)) : Buffer Byte × Bool :=
  knxCemiGenerate buffer offset ind.data

def knxRoutingIndicationSize (ind : KnxRoutingIndication (List Byte)) : Nat :=
  knxCemiSize ind.data

/-! ## Packets -/

def knxConnectionResponseSize (res : KnxConnectionResponse) : Nat :=
  if res.status = 0 then knxHostInfoSize + 6 else 2

def knxPayloadSize : KnxMessage → Nat
  | .searchRequest _ => knxSearchRequestSize
  | .connectionRequest _ => knxConnectionRequestSize
  | .connectionResponse res => knxConnectionResponseSize res
  | .connectionStateRequest _ => knxConnectionStateRequestSize
  | .connectionStateResponse _ => knxConnectionStateResponseSize
  | .disconnectRequest _ => knxDisconnectRequestSize
  | .disconnectResponse _ => knxDisconnectResponseSize
  | .tunnelRequest req => knxTunnelRequestSize req
  | .tunnelResponse _ => knxTunnelResponseSize
  | .routingIndication ind => knxRoutingIndicationSize ind
  | .descriptionRequest _ => knxDescriptionRequestSize
  | .other _ => 0

def knxSize (message : KnxMessage) : Nat := knxPayloadSize message + knxHeaderSize

def knxHeaderGenerate (buffer : Buffer Byte) (srv length : Nat) : Buffer Byte × Bool :=
  if length > 65535 - knxHeaderSize then (buffer, false)
  else
    let buffer := buffer.store 0 (BitVec.ofNat 8 knxHeaderSize)
    let buffer := buffer.store 1 16
    let buffer := buffer.store 2 (BitVec.ofNat 8 (srv >>> 8 &&& 0xFF))
    let buffer := buffer.store 3 (BitVec.ofNat 8 (srv &&& 0xFF))
    let length := length + knxHeaderSize
    let buffer := buffer.store 4 (BitVec.ofNat 8 (length >>> 8 &&& 0xFF))
    let buffer := buffer.store 5 (BitVec.ofNat 8 (length &&& 0xFF))
    (buffer, true)

/-- The dispatch of `knx_generate` once the header is there. -/
def payloadGenerate (buffer : Buffer Byte) : KnxMessage → Buffer Byte × Bool
  | .searchRequest req => (knxSearchRequestGenerate buffer knxHeaderSize req, true)
  | .connectionRequest req => (knxConnectionRequestGenerate buffer knxHeaderSize req, true)
  | .connectionResponse res => (knxConnectionResponseGenerate buffer knxHeaderSize res, true)
  | .connectionStateRequest req =>
      (knxConnectionStateRequestGenerate buffer knxHeaderSize req, true)
  | .connectionStateResponse res =>
      (knxConnectionStateResponseGenerate buffer knxHeaderSize res, true)
  | .disconnectRequest req => (knxDisconnectRequestGenerate buffer knxHeaderSize req, true)
  | .disconnectResponse res => (knxDisconnectResponseGenerate buffer knxHeaderSize res, true)
  | .tunnelRequest req => (knxTunnelRequestGenerate buffer knxHeaderSize req, true)
  | .tunnelResponse res => (knxTunnelResponseGenerate buffer knxHeaderSize res, true)
  -- the result of the routing generator is dropped
  | .routingIndication ind => ((knxRoutingIndicationGenerate buffer knxHeaderSize ind).1, true)
  | .descriptionRequest req => (knxDescriptionRequestGenerate buffer knxHeaderSize req, true)
  | .other _ => (buffer, false)

def knxGenerate (buffer : Buffer Byte) (message : KnxMessage) : Buffer Byte × Bool :=
  let (buffer, generated) :=
    knxHeaderGenerate buffer message.service (knxPayloadSize message)
  if ¬ generated then (buffer, false) else payloadGenerate buffer message

end KnxDemo.KnxGenerate
