import KnxDemo.Interaction.Loader
import KnxDemo.Knx.Proto

/-!
# Parsing KNXnet/IP frames

The parsers of `knx/proto` as load programs. A pointer into the frame is an
offset from its first octet. An output structure is passed in and handed back,
whether or not the parser succeeds: what was assigned before a failure stays
assigned.
-/

namespace KnxDemo.KnxParse

open KnxDemo.Bytes KnxDemo.KnxProto KnxDemo.Interaction KnxDemo.Interaction.Loader

abbrev FrameLoader (Result : Type) := Loader Nat Byte Result

def copy (source count : Nat) : FrameLoader (Vector Byte count) :=
  loadVector (fun index => source + index) count

/-! ## Host information and connections -/

def knxHostInfoParse (message messageLength : Nat) (host : KnxHostInfo) :
    FrameLoader (Bool × KnxHostInfo) := do
  if messageLength < knxHostInfoSize then pure (false, host)
  else
    let structureLength ← load message
    if structureLength.toNat ≠ knxHostInfoSize then pure (false, host)
    else
      let protocol ← load (message + 1)
      if protocol.toNat ≠ knxProtoUdp ∧ protocol.toNat ≠ knxProtoTcp then pure (false, host)
      else
        let address ← copy (message + 2) 4
        let port ← copy (message + 6) 2
        pure (true, { protocol := protocol.toNat, address, port })

def knxConnectionRequestParse (message messageLength : Nat) (req : KnxConnectionRequest) :
    FrameLoader (Bool × KnxConnectionRequest) := do
  if messageLength < knxConnectionRequestSize then pure (false, req)
  else
    let structureLength ← load (message + 16)
    if structureLength.toNat ≠ 4 then pure (false, req)
    else
      let type ← load (message + 17)
      if type.toNat ≠ knxConnectionRequestTunnel then pure (false, req)
      else
        let req := { req with type := type.toNat }
        let layer ← load (message + 18)
        if layer.toNat ≠ knxConnectionLayerTunnel then pure (false, req)
        else
          let req := { req with layer := layer.toNat }
          let (ok, controlHost) ← knxHostInfoParse message messageLength req.controlHost
          let req := { req with controlHost }
          if ¬ ok then pure (false, req)
          else
            let (ok, tunnelHost) ← knxHostInfoParse (message + knxHostInfoSize)
              (messageLength - knxHostInfoSize) req.tunnelHost
            pure (ok, { req with tunnelHost })

def knxConnectionResponseParse (message messageLength : Nat) (res : KnxConnectionResponse) :
    FrameLoader (Bool × KnxConnectionResponse) := do
  if messageLength < 2 then pure (false, res)
  else
    let channel ← load message
    let status ← load (message + 1)
    let res := { res with channel, status }
    if messageLength ≥ knxHostInfoSize + 6 then
      let (ok, host) ← knxHostInfoParse (message + 2) (messageLength - 2) res.host
      let res := { res with host }
      if ¬ ok then pure (false, res)
      else
        let extended ← copy (message + 11) 3
        pure (true, { res with extended })
    else pure (true, res)

def channelRequestParse (size message messageLength : Nat) (req : KnxChannelRequest) :
    FrameLoader (Bool × KnxChannelRequest) := do
  if messageLength < size then pure (false, req)
  else
    let channel ← load message
    let status ← load (message + 1)
    let (ok, host) ← knxHostInfoParse (message + 2) (messageLength - 2) req.host
    pure (ok, { channel, status, host })

def knxConnectionStateRequestParse (message messageLength : Nat)
    (req : KnxConnectionStateRequest) : FrameLoader (Bool × KnxConnectionStateRequest) :=
  channelRequestParse knxConnectionStateRequestSize message messageLength req

def knxDisconnectRequestParse (message messageLength : Nat) (req : KnxDisconnectRequest) :
    FrameLoader (Bool × KnxDisconnectRequest) :=
  channelRequestParse knxDisconnectRequestSize message messageLength req

def channelResponseParse (size message messageLength : Nat) (res : KnxChannelResponse) :
    FrameLoader (Bool × KnxChannelResponse) := do
  if messageLength < size then pure (false, res)
  else
    let channel ← load message
    let status ← load (message + 1)
    pure (true, { channel, status })

def knxConnectionStateResponseParse (message messageLength : Nat)
    (res : KnxConnectionStateResponse) : FrameLoader (Bool × KnxConnectionStateResponse) :=
  channelResponseParse knxConnectionStateResponseSize message messageLength res

def knxDisconnectResponseParse (message messageLength : Nat) (res : KnxDisconnectResponse) :
    FrameLoader (Bool × KnxDisconnectResponse) :=
  channelResponseParse knxDisconnectResponseSize message messageLength res

def knxDescriptionRequestParse (message messageLength : Nat) (req : KnxDescriptionRequest) :
    FrameLoader (Bool × KnxDescriptionRequest) := do
  if messageLength < knxDescriptionRequestSize then pure (false, req)
  else
    let (ok, controlHost) ← knxHostInfoParse message messageLength req.controlHost
    pure (ok, { controlHost })

def knxTunnelResponseParse (message messageLength : Nat) (res : KnxTunnelResponse) :
    FrameLoader (Bool × KnxTunnelResponse) := do
  if messageLength < knxTunnelResponseSize then pure (false, res)
  else
    let structureLength ← load message
    if structureLength.toNat ≠ knxTunnelResponseSize then pure (false, res)
    else
      let channel ← load (message + 1)
      let seqNumber ← load (message + 2)
      let status ← load (message + 3)
      pure (true, { channel, seqNumber, status })

/-- The loop that fills the service entries; `entries` are still to be filled. -/
def servicesLoop : Nat → Nat → (entries : Nat) →
    FrameLoader (List (Option KnxDescriptionService))
  | _, _, 0 => pure []
  | buffer, length, entries + 1 =>
      if length ≥ 2 then do
        let family ← load buffer
        let version ← load (buffer + 1)
        let rest ← servicesLoop (buffer + 2) (length - 2) entries
        pure (some { family, version } :: rest)
      else pure (List.replicate (entries + 1) none)

def knxDescriptionResponseParse (buffer length : Nat) (res : KnxDescriptionResponse) :
    FrameLoader (Bool × KnxDescriptionResponse) := do
  if length < 56 then pure (false, res)
  else
    let structureLength ← load buffer
    if structureLength.toNat ≠ 54 then pure (false, res)
    else
      let type ← load (buffer + 1)
      if type.toNat ≠ 1 then pure (false, res)
      else
        let blockLength ← load (buffer + 54)
        if blockLength.toNat % 2 ≠ 0 then pure (false, res)
        else
          let blockType ← load (buffer + 55)
          if blockType.toNat ≠ 2 then pure (false, res)
          else
            let medium ← load (buffer + 2)
            let status ← load (buffer + 3)
            let addressHigh ← load (buffer + 4)
            let addressLow ← load (buffer + 5)
            let idHigh ← load (buffer + 6)
            let idLow ← load (buffer + 7)
            let serial ← copy (buffer + 8) 6
            let multicastAddress ← copy (buffer + 14) 4
            let macAddress ← copy (buffer + 18) 6
            let name ← copy (buffer + 24) 29
            let blockLength ← load (buffer + 54)
            let numServices := blockLength.toNat / 2
            let services ← servicesLoop (buffer + 56) (length - 56) numServices
            pure (true, {
              medium, status, address := word addressHigh addressLow, id := word idHigh idLow
              serial, multicastAddress, macAddress, name := name.push 0, numServices, services })

/-! ## Frames -/

def knxTpduParse (message messageLength : Nat) (info : KnxTpdu Nat) :
    FrameLoader (Bool × KnxTpdu Nat) := do
  if messageLength = 0 then pure (false, info)
  else
    let first ← load message
    let tpci := first.toNat >>> 6 &&& 3
    let info := { info with tpci, seqNumber := first >>> 2 &&& 15#8 }
    if tpci = knxTpciUnnumberedControl ∨ tpci = knxTpciNumberedControl then
      pure (true, { info with control := first.toNat &&& 3 })
    else if messageLength < 2 then pure (false, info)
    else
      let second ← load (message + 1)
      pure (true, { info with
        apci := (first.toNat <<< 2 &&& 12) ||| (second.toNat >>> 6 &&& 3)
        length := messageLength - 1
        payload := some (message + 1) })

def knxLdataParse (buffer bufferLength : Nat) (out : KnxLdata Nat) :
    FrameLoader (Bool × KnxLdata Nat) := do
  if bufferLength < 8 then pure (false, out)
  else
    let control2 ← load (buffer + 1)
    if control2.toNat &&& 15 ≠ 0 then pure (false, out)
    else
      let control1 ← load buffer
      let sourceHigh ← load (buffer + 2)
      let sourceLow ← load (buffer + 3)
      let destinationHigh ← load (buffer + 4)
      let destinationLow ← load (buffer + 5)
      let out := { out with
        repeatFlag := control1.toNat >>> 5 &&& 1 = 0
        systemBroadcast := control1.toNat >>> 4 &&& 1 = 0
        priority := control1.toNat >>> 2 &&& 3
        requestAck := control1.toNat >>> 1 &&& 1 ≠ 0
        error := control1.toNat &&& 1 ≠ 0
        addressType := control2.toNat >>> 7 &&& 1
        hops := BitVec.ofNat 4 (control2.toNat >>> 4 &&& 7)
        source := word sourceHigh sourceLow
        destination := word destinationHigh destinationLow }
      let tpduLength ← load (buffer + 6)
      if tpduLength.toNat + 8 > bufferLength then pure (false, out)
      else
        let (ok, tpdu) ← knxTpduParse (buffer + 7) (tpduLength.toNat + 1) out.tpdu
        pure (ok, { out with tpdu })

def knxCemiParse (message messageLength : Nat) (frame : KnxCemi Nat) :
    FrameLoader (Bool × KnxCemi Nat) := do
  if messageLength < knxCemiHeaderSize then pure (false, frame)
  else
    let service ← load message
    let addInfoLength ← load (message + 1)
    let frame := { frame with service := service.toNat, addInfoLength }
    if knxCemiHeaderSize + addInfoLength.toNat > messageLength then pure (false, frame)
    else
      let frame := { frame with addInfo := some (message + knxCemiHeaderSize) }
      let message := message + (knxCemiHeaderSize + addInfoLength.toNat)
      let messageLength := messageLength - (knxCemiHeaderSize + addInfoLength.toNat)
      if service.toNat = knxCemiLdataInd ∨ service.toNat = knxCemiLdataReq ∨
          service.toNat = knxCemiLdataCon then
        let (ok, ldata) ← knxLdataParse message messageLength frame.ldata
        pure (ok, { frame with ldata })
      else pure (false, frame)

def knxTunnelRequestParse (message messageLength : Nat) (req : KnxTunnelRequest Nat) :
    FrameLoader (Bool × KnxTunnelRequest Nat) := do
  if messageLength < 4 then pure (false, req)
  else
    let structureLength ← load message
    if structureLength.toNat ≠ 4 then pure (false, req)
    else
      let channel ← load (message + 1)
      let seqNumber ← load (message + 2)
      let (ok, data) ← knxCemiParse (message + 4) (messageLength - 4) req.data
      pure (ok, { channel, seqNumber, data })

def knxRoutingIndicationParse (message messageLength : Nat) (ind : KnxRoutingIndication Nat) :
    FrameLoader (Bool × KnxRoutingIndication Nat) := do
  let (ok, data) ← knxCemiParse message messageLength ind.data
  pure (ok, { data })

/-! ## Packets -/

/-- The result of the header check, and the service it stores when it succeeds. -/
def knxUnpackHeader (buffer bufferLength service : Nat) : FrameLoader (Int × Nat) := do
  if bufferLength < knxHeaderSize then pure (-knxInvalidBuffer, service)
  else
    let lengthHigh ← load (buffer + 4)
    let lengthLow ← load (buffer + 5)
    let packetLength := (word lengthHigh lengthLow).toNat
    let headerSize ← load buffer
    if headerSize.toNat ≠ knxHeaderSize then pure (-knxInvalidHeader, service)
    else
      let version ← load (buffer + 1)
      if version.toNat ≠ 16 ∨ packetLength < knxHeaderSize then
        pure (-knxInvalidHeader, service)
      else
        let serviceHigh ← load (buffer + 2)
        let serviceLow ← load (buffer + 3)
        pure (packetLength, (word serviceHigh serviceLow).toNat)

/-- Runs the parser of one union member and turns its verdict into a result. -/
def member {Output : Type} (parser : Output → FrameLoader (Bool × Output)) (output : KnxPacket)
    (select : KnxPayload → Output) (assign : KnxPayload → Output → KnxPayload)
    (unpackResult : Int) : FrameLoader (Int × KnxPacket) := do
  let (ok, value) ← parser (select output.payload)
  pure (if ok then unpackResult else -knxInvalidPayload,
    { output with payload := assign output.payload value })

/-- The dispatch of `knx_parse` once the header is unpacked. -/
def payloadParse (payload payloadLength : Nat) (unpackResult : Int) (output : KnxPacket) :
    FrameLoader (Int × KnxPacket) :=
  match ParsedService.ofCode output.service with
  | .connectionRequest =>
      member (knxConnectionRequestParse payload payloadLength) output (·.connReq)
        (fun union connReq => { union with connReq }) unpackResult
  | .connectionResponse =>
      member (knxConnectionResponseParse payload payloadLength) output (·.connRes)
        (fun union connRes => { union with connRes }) unpackResult
  | .connectionStateRequest =>
      member (knxConnectionStateRequestParse payload payloadLength) output (·.connStateReq)
        (fun union connStateReq => { union with connStateReq }) unpackResult
  | .connectionStateResponse =>
      member (knxConnectionStateResponseParse payload payloadLength) output (·.connStateRes)
        (fun union connStateRes => { union with connStateRes }) unpackResult
  | .disconnectRequest =>
      member (knxDisconnectRequestParse payload payloadLength) output (·.dcReq)
        (fun union dcReq => { union with dcReq }) unpackResult
  | .disconnectResponse =>
      member (knxDisconnectResponseParse payload payloadLength) output (·.dcRes)
        (fun union dcRes => { union with dcRes }) unpackResult
  | .tunnelRequest =>
      member (knxTunnelRequestParse payload payloadLength) output (·.tunnelReq)
        (fun union tunnelReq => { union with tunnelReq }) unpackResult
  | .tunnelResponse =>
      member (knxTunnelResponseParse payload payloadLength) output (·.tunnelRes)
        (fun union tunnelRes => { union with tunnelRes }) unpackResult
  | .routingIndication =>
      member (knxRoutingIndicationParse payload payloadLength) output (·.routingInd)
        (fun union routingInd => { union with routingInd }) unpackResult
  | .descriptionRequest =>
      member (knxDescriptionRequestParse payload payloadLength) output (·.descriptionReq)
        (fun union descriptionReq => { union with descriptionReq }) unpackResult
  | .descriptionResponse =>
      member (knxDescriptionResponseParse payload payloadLength) output (·.descriptionRes)
        (fun union descriptionRes => { union with descriptionRes }) unpackResult
  | .unknown => pure (-knxUnknownService, output)

def knxParse (frame frameLength : Nat) (output : KnxPacket) :
    FrameLoader (Int × KnxPacket) := do
  let (unpackResult, service) ← knxUnpackHeader frame frameLength output.service
  let output := { output with service }
  if unpackResult < 0 then pure (unpackResult, output)
  -- the packet must not exceed the frame
  else if unpackResult > frameLength then pure (-knxInvalidBuffer, output)
  else
    payloadParse (frame + knxHeaderSize) (unpackResult.toNat - knxHeaderSize) unpackResult output

end KnxDemo.KnxParse
