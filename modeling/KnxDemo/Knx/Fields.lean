import KnxDemo.Knx.Layout
import KnxDemo.Knx.Parsing

/-!
# Reading generated payloads back

What the parsers without a cEMI frame make of the octets their generators store,
and the packet parser of a header with the length of its packet.
-/

namespace KnxDemo.KnxFields

open KnxDemo.Bytes KnxDemo.KnxProto KnxDemo.KnxGenerate KnxDemo.KnxLayout
open KnxDemo.KnxParse KnxDemo.KnxParsing
open KnxDemo.Interaction KnxDemo.Interaction.Loader

/-! ## Host information -/

/-- The protocols a host information block can name. -/
def HostEncodable (host : KnxHostInfo) : Prop :=
  host.protocol = knxProtoUdp ∨ host.protocol = knxProtoTcp

theorem vectorAt_held {memory : Nat → Byte} {source count : Nat} {cells : Vector Byte count}
    (held : Buffer.Holds memory source cells.toList) : vectorAt memory source count = cells := by
  apply Vector.ext
  intro index inside
  have value := (Buffer.holds_iff_getElem _ _ _).mp held index (by simpa using inside)
  simpa [vectorAt] using value

section Host

variable {memory : Nat → Byte} {message : Nat} {host : KnxHostInfo}
  (held : Buffer.Holds memory message (hostInfoOctets host)) (encodable : HostEncodable host)

include held encodable

theorem host_at_of_held : hostAt memory message = host := by
  unfold hostInfoOctets at held
  rw [List.append_assoc, List.cons_append, List.cons_append, List.nil_append,
    Buffer.holds_cons, Buffer.holds_cons, Buffer.holds_append] at held
  rcases held with ⟨_, protocol, address, port⟩
  rw [Vector.length_toList] at port
  have addressAt : vectorAt memory (message + 2) 4 = host.address := vectorAt_held address
  have portAt : vectorAt memory (message + 6) 2 = host.port := vectorAt_held port
  have protocolAt : (memory (message + 1)).toNat = host.protocol := by
    rw [protocol]
    rcases encodable with udp | tcp
    · rw [udp]
      rfl
    · rw [tcp]
      rfl
  rw [hostAt, addressAt, portAt, protocolAt]

theorem host_accepted_of_held (messageLength : Nat) (long : 8 ≤ messageLength) :
    HostAccepted memory message messageLength := by
  have protocolAt := congrArg KnxHostInfo.protocol (host_at_of_held held encodable)
  refine ⟨long, ?_, ?_⟩
  · exact congrArg BitVec.toNat held.1
  · rwa [HostEncodable, ← protocolAt] at encodable

theorem parse_host_info (messageLength : Nat) (long : 8 ≤ messageLength) (old : KnxHostInfo) :
    eval memory (knxHostInfoParse message messageLength old) = (true, host) := by
  rw [eval_host_info_parse, if_pos (host_accepted_of_held held encodable messageLength long),
    host_at_of_held held encodable]

end Host

/-! ## Connections, tunnel responses and descriptions -/

section Payloads

variable {memory : Nat → Byte} {message : Nat}

theorem parse_connection_request {req : KnxConnectionRequest}
    (held : Buffer.Holds memory message (connectionRequestOctets req))
    (type : req.type = knxConnectionRequestTunnel) (layer : req.layer = knxConnectionLayerTunnel)
    (control : HostEncodable req.controlHost) (tunnel : HostEncodable req.tunnelHost)
    (old : KnxConnectionRequest) :
    eval memory (knxConnectionRequestParse message knxConnectionRequestSize old) =
      (true, req) := by
  unfold connectionRequestOctets at held
  rw [Buffer.holds_append, Buffer.holds_append] at held
  rcases held with ⟨⟨controlHeld, tunnelHeld⟩, rest⟩
  simp only [List.length_append, length_hostInfoOctets, Buffer.holds_cons] at tunnelHeld rest
  rcases rest with ⟨size, typeOctet, layerOctet, _⟩
  have structureLength : (memory (message + 16)).toNat = 4 := congrArg BitVec.toNat size
  have typeAt : (memory (message + 17)).toNat = knxConnectionRequestTunnel := by
    rw [typeOctet, type]
    rfl
  have layerAt : (memory (message + 18)).toNat = knxConnectionLayerTunnel := by
    rw [layerOctet, layer]
    rfl
  have controlParsed := parse_host_info controlHeld control knxConnectionRequestSize (by decide)
  have tunnelParsed := parse_host_info tunnelHeld tunnel
    (knxConnectionRequestSize - knxHostInfoSize) (by decide)
  have parsed : req =
      { type := knxConnectionRequestTunnel, layer := knxConnectionLayerTunnel
        controlHost := req.controlHost, tunnelHost := req.tunnelHost } := by
    rw [← type, ← layer]
  simp only [knxConnectionRequestParse, eval_ite, eval_bind, eval_load, eval_pure]
  rw [if_neg (Nat.lt_irrefl _), if_neg (not_not.mpr structureLength), if_neg (not_not.mpr typeAt),
    if_neg (not_not.mpr layerAt), controlParsed, typeAt, layerAt, parsed]
  simp only [not_true_eq_false, if_false]
  rw [knxHostInfoSize] at tunnelParsed ⊢
  rw [tunnelParsed]

theorem parse_connection_response {res : KnxConnectionResponse}
    (held : Buffer.Holds memory message (connectionResponseOctets res))
    (host : res.status = 0 → HostEncodable res.host) (old : KnxConnectionResponse) :
    eval memory (knxConnectionResponseParse message (knxConnectionResponseSize res) old) =
      (true, if res.status = 0 then res
        else { old with channel := res.channel, status := res.status }) := by
  rcases held with ⟨channel, status, rest⟩
  rw [eval_connection_response_parse, channel, status, knxConnectionResponseSize]
  by_cases success : res.status = 0
  · simp only [if_pos success] at rest ⊢
    rw [List.append_eq, List.nil_append, Buffer.holds_append, length_hostInfoOctets,
      Buffer.holds_cons] at rest
    rcases rest with ⟨hostHeld, _, extended⟩
    have extendedAt : vectorAt memory (message + 11) 3 = res.extended := vectorAt_held extended
    have accepted : HostAccepted memory (message + 2) (knxHostInfoSize + 6 - 2) :=
      host_accepted_of_held hostHeld (host success) _ (by decide)
    have hostIs : hostAt memory (message + 2) = res.host :=
      host_at_of_held hostHeld (host success)
    rw [if_neg (by decide), if_neg (Nat.lt_irrefl _), if_pos accepted, hostIs, extendedAt]
  · simp only [if_neg success]
    rw [if_neg (by decide), if_pos (by decide)]

theorem parse_channel_request {req : KnxChannelRequest}
    (held : Buffer.Holds memory message (channelRequestOctets req))
    (host : HostEncodable req.host) (old : KnxChannelRequest) :
    eval memory (channelRequestParse 10 message 10 old) = (true, req) := by
  unfold channelRequestOctets at held
  rw [Buffer.holds_append] at held
  rcases held with ⟨⟨channel, status, _⟩, hostHeld⟩
  have parsed : eval memory (knxHostInfoParse (message + 2) (10 - 2) old.host) =
      (true, req.host) := parse_host_info hostHeld host 8 (by decide) old.host
  simp only [channelRequestParse, eval_ite, eval_bind, eval_load, eval_pure]
  rw [if_neg (by decide), channel, status, parsed]

theorem parse_channel_response {res : KnxChannelResponse}
    (held : Buffer.Holds memory message (channelResponseOctets res)) (old : KnxChannelResponse) :
    eval memory (channelResponseParse 2 message 2 old) = (true, res) := by
  rcases held with ⟨channel, status, _⟩
  simp only [channelResponseParse, eval_ite, eval_bind, eval_load, eval_pure]
  rw [if_neg (by decide), channel, status]

theorem parse_tunnel_response {res : KnxTunnelResponse}
    (held : Buffer.Holds memory message (tunnelResponseOctets res)) (old : KnxTunnelResponse) :
    eval memory (knxTunnelResponseParse message knxTunnelResponseSize old) = (true, res) := by
  rcases held with ⟨size, channel, seqNumber, status, _⟩
  have structureLength : (memory message).toNat = knxTunnelResponseSize :=
    congrArg BitVec.toNat size
  simp only [knxTunnelResponseParse, eval_ite, eval_bind, eval_load, eval_pure]
  rw [if_neg (Nat.lt_irrefl _), if_neg (not_not.mpr structureLength), channel, seqNumber, status]

theorem parse_description_request {req : KnxDescriptionRequest}
    (held : Buffer.Holds memory message (hostInfoOctets req.controlHost))
    (host : HostEncodable req.controlHost) (old : KnxDescriptionRequest) :
    eval memory (knxDescriptionRequestParse message knxDescriptionRequestSize old) =
      (true, req) := by
  have parsed := parse_host_info held host knxDescriptionRequestSize (Nat.le_refl _)
    old.controlHost
  simp only [knxDescriptionRequestParse, eval_ite, eval_bind, eval_pure]
  rw [if_neg (Nat.lt_irrefl _), parsed]

end Payloads

/-! ## The header -/

theorem parse_of_header {memory : Nat → Byte} {message : KnxMessage}
    (fits : knxPayloadSize message ≤ 65529) (known : message.service < 65536)
    (held : Buffer.Holds memory 0 (headerOctets message.service (knxPayloadSize message)))
    (output : KnxPacket) :
    eval memory (knxParse 0 (knxSize message) output) =
      eval memory (payloadParse knxHeaderSize (knxPayloadSize message) (knxSize message)
        { output with service := message.service }) := by
  rcases held with ⟨size, version, serviceHigh, serviceLow, lengthHigh, lengthLow, _⟩
  have service : declaredService memory = message.service := by
    have declared : word (memory 2) (memory 3) = BitVec.ofNat 16 message.service :=
      (congrArg₂ word serviceHigh serviceLow).trans (word_highByte_lowByte _)
    rw [declaredService, declared, BitVec.toNat_ofNat, Nat.mod_eq_of_lt known]
  have length : declaredLength memory = knxSize message := by
    have declared : word (memory 4) (memory 5) =
        BitVec.ofNat 16 (knxPayloadSize message + knxHeaderSize) :=
      (congrArg₂ word lengthHigh lengthLow).trans (word_highByte_lowByte _)
    rw [declaredLength, declared, BitVec.toNat_ofNat, knxSize, knxHeaderSize]
    omega
  have valid : HeaderValid memory := by
    refine ⟨congrArg BitVec.toNat size, congrArg BitVec.toNat version, ?_⟩
    rw [length]
    exact Nat.le_add_left _ _
  have payloadLength : knxSize message - knxHeaderSize = knxPayloadSize message :=
    Nat.add_sub_cancel _ _
  have whole : ¬ knxSize message < knxHeaderSize := Nat.not_lt.mpr (Nat.le_add_left _ _)
  rw [eval_knxParse, length, service, if_neg whole,
    if_neg (not_not.mpr valid), if_neg (Nat.lt_irrefl _), payloadLength]

end KnxDemo.KnxFields
