import KnxDemo.Knx.Packet

/-!
# Declared and actual frame lengths

`knx_ldata_size` counts eight octets besides the TPDU and `knx_ldata_generate`
writes seven. The header declares what the size functions compute, so every
packet with a cEMI frame is declared one octet longer than it is.
-/

namespace KnxDemo.KnxFrameLength

open KnxDemo.Bytes KnxDemo.KnxProto KnxDemo.KnxGenerate KnxDemo.KnxLayout
open KnxDemo.KnxPacketLayout KnxDemo.Interaction

def storedLength (memory : Nat → Byte) : Nat := (word (memory 4) (memory 5)).toNat

/-- Where generating succeeds, the computed size, the stored length and the end of
what was written are one number. -/
def LengthsAgree (memory : Nat → Byte) (message : KnxMessage) : Prop :=
  (knxGenerate (Buffer.fresh memory) message).2 = true →
    knxSize message = storedLength (knxGenerate (Buffer.fresh memory) message).1.memory ∧
      storedLength (knxGenerate (Buffer.fresh memory) message).1.memory =
        (knxGenerate (Buffer.fresh memory) message).1.extent

inductive CarriesFrame : KnxMessage → Prop
  | tunnel (req : KnxTunnelRequest (List Byte)) (valid : ValidCemi req.data) :
      CarriesFrame (.tunnelRequest req)
  | routing (ind : KnxRoutingIndication (List Byte)) (valid : ValidCemi ind.data) :
      CarriesFrame (.routingIndication ind)

theorem CarriesFrame.generatable {message : KnxMessage} (carries : CarriesFrame message) :
    Generatable message := by
  cases carries with
  | tunnel req valid => exact valid
  | routing ind valid => exact valid

theorem stored_length_eq {message : KnxMessage} (generatable : Generatable message)
    (buffer : Buffer Byte) :
    storedLength (knxGenerate buffer message).1.memory = knxSize message := by
  have held := Buffer.holds_storeBlock buffer 0 (packetOctets buffer.memory message)
  rw [generate_eq generatable]
  exact length_octets_of_held generatable held

/-- The size functions count one octet more than a frame has. -/
theorem packet_size_excess {message : KnxMessage} (carries : CarriesFrame message)
    (memory : Nat → Byte) :
    knxSize message = (packetOctets memory message).length + 1 := by
  have bodySize : ∀ (frame : KnxCemi (List Byte)) (stale : Byte), ValidCemi frame →
      knxCemiSize frame = (cemiOctets stale frame).length + 1 := by
    intro frame stale valid
    rw [length_cemiOctets stale valid.addInfo valid.fits valid.payload, knxCemiSize,
      if_pos valid.service, knxLdataSize]
    omega
  cases carries with
  | tunnel req valid =>
      simp only [knxSize, knxPayloadSize, knxTunnelRequestSize, packetOctets, payloadOctets,
        tunnelRequestOctets, bodySize req.data (memory (stalePosition 10 req.data)) valid,
        List.length_append, length_headerOctets, List.length_cons, List.length_nil, knxHeaderSize]
      omega
  | routing ind valid =>
      simp only [knxSize, knxPayloadSize, knxRoutingIndicationSize, packetOctets, payloadOctets,
        bodySize ind.data (memory (stalePosition 6 ind.data)) valid, List.length_append,
        length_headerOctets, knxHeaderSize]
      omega

/-- No packet with a cEMI frame has the length it declares: generating succeeds, and
the end of what was written is one octet short of the declared length. -/
theorem frame_lengths_never_agree (memory : Nat → Byte) (message : KnxMessage)
    (carries : CarriesFrame message) :
    ¬ LengthsAgree memory message ∧
      (knxGenerate (Buffer.fresh memory) message).2 = true ∧
      storedLength (knxGenerate (Buffer.fresh memory) message).1.memory = knxSize message ∧
      knxSize message = (knxGenerate (Buffer.fresh memory) message).1.extent + 1 := by
  have generated := generate_eq carries.generatable (Buffer.fresh memory)
  have stored := stored_length_eq carries.generatable (Buffer.fresh memory)
  have excess := packet_size_excess carries memory
  have extent : (knxGenerate (Buffer.fresh memory) message).1.extent =
      (packetOctets memory message).length := by
    have nonempty : packetOctets memory message ≠ [] := by
      unfold packetOctets headerOctets
      simp
    rw [generated, Buffer.extent_storeBlock]
    simp [nonempty]
  have success : (knxGenerate (Buffer.fresh memory) message).2 = true :=
    congrArg Prod.snd generated
  refine ⟨fun agree => ?_, success, stored, by omega⟩
  obtain ⟨_, ends⟩ := agree success
  omega

/-- The frame of `KNXCTunnelRQ_OpenLight`, on channel 0. -/
def openLightRequest : KnxTunnelRequest (List Byte) where
  data := {
    service := knxCemiLdataReq
    ldata := {
      source := 0xfff1
      destination := 0x0a04
      priority := 3
      addressType := 1
      hops := 6
      tpdu := { tpci := knxTpciUnnumberedData, apci := 2, payload := some [1], length := 1 } } }

theorem open_light_request_valid : ValidCemi openLightRequest.data where
  service := rfl
  addInfo := fun carries => absurd carries (by decide)
  payload := fun _ => by decide
  fits := by
    unfold TpduFits
    decide

theorem open_light_frame_one_octet_short :
    ¬ ∀ memory message, CarriesFrame message → LengthsAgree memory message := by
  intro always
  have lengths := always (fun _ => 0) (.tunnelRequest openLightRequest)
    (.tunnel openLightRequest open_light_request_valid) (by decide)
  exact absurd lengths.2 (by decide)

theorem frame_lengths_witness :
    ¬ LengthsAgree (fun _ => 0) (.tunnelRequest openLightRequest) ∧
      (knxGenerate (Buffer.fresh fun _ => 0) (.tunnelRequest openLightRequest)).2 = true ∧
      storedLength (knxGenerate (Buffer.fresh fun _ => 0)
        (.tunnelRequest openLightRequest)).1.memory = knxSize (.tunnelRequest openLightRequest) ∧
      knxSize (.tunnelRequest openLightRequest) =
        (knxGenerate (Buffer.fresh fun _ => 0) (.tunnelRequest openLightRequest)).1.extent + 1 :=
  frame_lengths_never_agree _ _ (.tunnel openLightRequest open_light_request_valid)

end KnxDemo.KnxFrameLength
