import KnxDemo.Knx.Generate
import KnxDemo.Knx.Parsing

/-!
# The parser stays inside the packet

Every payload parser is confined to the octets it is told to parse. The header
check hands them the octets behind the header and before the declared length,
which does not exceed the frame, so the packet parser is confined as well. The
slices it leaves in the output of a frame lie in the same region.
-/

namespace KnxDemo.KnxParserBounds

open KnxDemo.Bytes KnxDemo.KnxProto KnxDemo.KnxParse KnxDemo.KnxParsing
open KnxDemo.Interaction KnxDemo.Interaction.Loader

def Span (lo hi address : Nat) : Prop := lo ≤ address ∧ address < hi

section Payloads

variable {memory : Nat → Byte} {lo hi message messageLength : Nat}

theorem confined_copy {source count : Nat} (after : lo ≤ source) (fits : source + count ≤ hi) :
    Confined memory (Span lo hi) (copy source count) :=
  .loadVector fun index below => ⟨by omega, by omega⟩

theorem confined_host_info_parse (host : KnxHostInfo) (after : lo ≤ message)
    (fits : message + messageLength ≤ hi) :
    Confined memory (Span lo hi) (knxHostInfoParse message messageLength host) := by
  unfold knxHostInfoParse
  refine .ite (fun _ => .pure _) fun long => ?_
  rw [knxHostInfoSize] at long
  refine .load_bind ⟨by omega, by omega⟩ (.ite (fun _ => .pure _) fun _ => ?_)
  refine .load_bind ⟨by omega, by omega⟩ (.ite (fun _ => .pure _) fun _ => ?_)
  refine .bind (confined_copy (by omega) (by omega)) ?_
  exact .bind (confined_copy (by omega) (by omega)) (.pure _)

theorem confined_connection_request_parse (req : KnxConnectionRequest) (after : lo ≤ message)
    (fits : message + messageLength ≤ hi) :
    Confined memory (Span lo hi) (knxConnectionRequestParse message messageLength req) := by
  unfold knxConnectionRequestParse
  refine .ite (fun _ => .pure _) fun long => ?_
  rw [knxConnectionRequestSize, knxHostInfoSize] at long
  refine .load_bind ⟨by omega, by omega⟩ (.ite (fun _ => .pure _) fun _ => ?_)
  refine .load_bind ⟨by omega, by omega⟩ (.ite (fun _ => .pure _) fun _ => ?_)
  refine .load_bind ⟨by omega, by omega⟩ (.ite (fun _ => .pure _) fun _ => ?_)
  refine .bind (confined_host_info_parse _ (by omega) (by omega)) (.ite (fun _ => .pure _) ?_)
  intro _
  refine .bind (confined_host_info_parse _ ?_ ?_) (.pure _)
  all_goals
    rw [knxHostInfoSize]
    omega

theorem confined_connection_response_parse (res : KnxConnectionResponse) (after : lo ≤ message)
    (fits : message + messageLength ≤ hi) :
    Confined memory (Span lo hi) (knxConnectionResponseParse message messageLength res) := by
  unfold knxConnectionResponseParse
  refine .ite (fun _ => .pure _) fun _ => ?_
  refine .load_bind ⟨by omega, by omega⟩ (.load_bind ⟨by omega, by omega⟩ ?_)
  refine .ite (fun full => ?_) fun _ => .pure _
  rw [knxHostInfoSize] at full
  refine .bind (confined_host_info_parse _ (by omega) (by omega)) (.ite (fun _ => .pure _) ?_)
  intro _
  exact .bind (confined_copy (by omega) (by omega)) (.pure _)

theorem confined_channel_request_parse {size : Nat} (req : KnxChannelRequest) (two : 2 ≤ size)
    (after : lo ≤ message) (fits : message + messageLength ≤ hi) :
    Confined memory (Span lo hi) (channelRequestParse size message messageLength req) := by
  unfold channelRequestParse
  refine .ite (fun _ => .pure _) fun _ => ?_
  refine .load_bind ⟨by omega, by omega⟩ (.load_bind ⟨by omega, by omega⟩ ?_)
  exact .bind (confined_host_info_parse _ (by omega) (by omega)) (.pure _)

theorem confined_channel_response_parse {size : Nat} (res : KnxChannelResponse) (two : 2 ≤ size)
    (after : lo ≤ message) (fits : message + messageLength ≤ hi) :
    Confined memory (Span lo hi) (channelResponseParse size message messageLength res) := by
  unfold channelResponseParse
  refine .ite (fun _ => .pure _) fun _ => ?_
  exact .load_bind ⟨by omega, by omega⟩ (.load_bind ⟨by omega, by omega⟩ (.pure _))

theorem confined_description_request_parse (req : KnxDescriptionRequest) (after : lo ≤ message)
    (fits : message + messageLength ≤ hi) :
    Confined memory (Span lo hi) (knxDescriptionRequestParse message messageLength req) := by
  unfold knxDescriptionRequestParse
  refine .ite (fun _ => .pure _) fun _ => ?_
  exact .bind (confined_host_info_parse _ after fits) (.pure _)

theorem confined_tunnel_response_parse (res : KnxTunnelResponse) (after : lo ≤ message)
    (fits : message + messageLength ≤ hi) :
    Confined memory (Span lo hi) (knxTunnelResponseParse message messageLength res) := by
  unfold knxTunnelResponseParse
  refine .ite (fun _ => .pure _) fun long => ?_
  rw [knxTunnelResponseSize] at long
  refine .load_bind ⟨by omega, by omega⟩ (.ite (fun _ => .pure _) fun _ => ?_)
  refine .load_bind ⟨by omega, by omega⟩ (.load_bind ⟨by omega, by omega⟩ ?_)
  exact .load_bind ⟨by omega, by omega⟩ (.pure _)

theorem confined_services_loop (entries : Nat) (after : lo ≤ message)
    (fits : message + messageLength ≤ hi) :
    Confined memory (Span lo hi) (servicesLoop message messageLength entries) := by
  induction entries generalizing message messageLength with
  | zero => exact .pure _
  | succ entries induction =>
      refine .ite (fun room => ?_) fun _ => .pure _
      refine .load_bind ⟨by omega, by omega⟩ (.load_bind ⟨by omega, by omega⟩ ?_)
      exact .bind (induction (by omega) (by omega)) (.pure _)

theorem confined_description_response_parse (res : KnxDescriptionResponse)
    (after : lo ≤ message) (fits : message + messageLength ≤ hi) :
    Confined memory (Span lo hi) (knxDescriptionResponseParse message messageLength res) := by
  unfold knxDescriptionResponseParse
  refine .ite (fun _ => .pure _) fun long => ?_
  refine .load_bind ⟨by omega, by omega⟩ (.ite (fun _ => .pure _) fun _ => ?_)
  refine .load_bind ⟨by omega, by omega⟩ (.ite (fun _ => .pure _) fun _ => ?_)
  refine .load_bind ⟨by omega, by omega⟩ (.ite (fun _ => .pure _) fun _ => ?_)
  refine .load_bind ⟨by omega, by omega⟩ (.ite (fun _ => .pure _) fun _ => ?_)
  refine .load_bind ⟨by omega, by omega⟩ (.load_bind ⟨by omega, by omega⟩ ?_)
  refine .load_bind ⟨by omega, by omega⟩ (.load_bind ⟨by omega, by omega⟩ ?_)
  refine .load_bind ⟨by omega, by omega⟩ (.load_bind ⟨by omega, by omega⟩ ?_)
  refine .bind (confined_copy (by omega) (by omega)) ?_
  refine .bind (confined_copy (by omega) (by omega)) ?_
  refine .bind (confined_copy (by omega) (by omega)) ?_
  refine .bind (confined_copy (by omega) (by omega)) ?_
  refine .load_bind ⟨by omega, by omega⟩ ?_
  exact .bind (confined_services_loop _ (by omega) (by omega)) (.pure _)

/-! ## Frames -/

theorem confined_tpdu_parse (info : KnxTpdu Nat) (after : lo ≤ message)
    (fits : message + messageLength ≤ hi) :
    Confined memory (Span lo hi) (knxTpduParse message messageLength info) := by
  unfold knxTpduParse
  refine .ite (fun _ => .pure _) fun _ => ?_
  refine .load_bind ⟨by omega, by omega⟩ (.ite (fun _ => .pure _) fun _ => ?_)
  refine .ite (fun _ => .pure _) fun _ => ?_
  exact .load_bind ⟨by omega, by omega⟩ (.pure _)

theorem confined_ldata_parse (out : KnxLdata Nat) (after : lo ≤ message)
    (fits : message + messageLength ≤ hi) :
    Confined memory (Span lo hi) (knxLdataParse message messageLength out) := by
  unfold knxLdataParse
  refine .ite (fun _ => .pure _) fun _ => ?_
  refine .load_bind ⟨by omega, by omega⟩ (.ite (fun _ => .pure _) fun _ => ?_)
  refine .load_bind ⟨by omega, by omega⟩ (.load_bind ⟨by omega, by omega⟩ ?_)
  refine .load_bind ⟨by omega, by omega⟩ (.load_bind ⟨by omega, by omega⟩ ?_)
  refine .load_bind ⟨by omega, by omega⟩ (.load_bind ⟨by omega, by omega⟩ ?_)
  refine .ite (fun _ => .pure _) fun _ => ?_
  exact .bind (confined_tpdu_parse _ (by omega) (by omega)) (.pure _)

theorem confined_cemi_parse (frame : KnxCemi Nat) (after : lo ≤ message)
    (fits : message + messageLength ≤ hi) :
    Confined memory (Span lo hi) (knxCemiParse message messageLength frame) := by
  unfold knxCemiParse
  refine .ite (fun _ => .pure _) fun long => ?_
  rw [knxCemiHeaderSize] at long
  refine .load_bind ⟨by omega, by omega⟩ (.load_bind ⟨by omega, by omega⟩ ?_)
  refine .ite (fun _ => .pure _) fun _ => ?_
  refine .ite (fun _ => ?_) fun _ => .pure _
  exact .bind (confined_ldata_parse _ (by omega) (by omega)) (.pure _)

theorem confined_tunnel_request_parse (req : KnxTunnelRequest Nat) (after : lo ≤ message)
    (fits : message + messageLength ≤ hi) :
    Confined memory (Span lo hi) (knxTunnelRequestParse message messageLength req) := by
  unfold knxTunnelRequestParse
  refine .ite (fun _ => .pure _) fun _ => ?_
  refine .load_bind ⟨by omega, by omega⟩ (.ite (fun _ => .pure _) fun _ => ?_)
  refine .load_bind ⟨by omega, by omega⟩ (.load_bind ⟨by omega, by omega⟩ ?_)
  exact .bind (confined_cemi_parse _ (by omega) (by omega)) (.pure _)

theorem confined_routing_indication_parse (ind : KnxRoutingIndication Nat) (after : lo ≤ message)
    (fits : message + messageLength ≤ hi) :
    Confined memory (Span lo hi) (knxRoutingIndicationParse message messageLength ind) :=
  .bind (confined_cemi_parse _ after fits) (.pure _)

/-! ## Packets -/

theorem confined_member {Output : Type} {region : Nat → Prop}
    {parser : Output → FrameLoader (Bool × Output)} (output : KnxPacket)
    (select : KnxPayload → Output) (assign : KnxPayload → Output → KnxPayload)
    (unpackResult : Int) (inside : ∀ value, Confined memory region (parser value)) :
    Confined memory region (member parser output select assign unpackResult) :=
  .bind (inside _) (.pure _)

theorem confined_payload_parse (unpackResult : Int) (output : KnxPacket) (after : lo ≤ message)
    (fits : message + messageLength ≤ hi) :
    Confined memory (Span lo hi) (payloadParse message messageLength unpackResult output) := by
  unfold payloadParse
  cases ParsedService.ofCode output.service with
  | connectionRequest =>
      exact confined_member _ _ _ _ fun req => confined_connection_request_parse req after fits
  | connectionResponse =>
      exact confined_member _ _ _ _ fun res => confined_connection_response_parse res after fits
  | connectionStateRequest =>
      exact confined_member _ _ _ _ fun req =>
        confined_channel_request_parse req (Nat.le_add_right 2 _) after fits
  | connectionStateResponse =>
      exact confined_member _ _ _ _ fun res =>
        confined_channel_response_parse res (Nat.le_refl 2) after fits
  | disconnectRequest =>
      exact confined_member _ _ _ _ fun req =>
        confined_channel_request_parse req (Nat.le_add_right 2 _) after fits
  | disconnectResponse =>
      exact confined_member _ _ _ _ fun res =>
        confined_channel_response_parse res (Nat.le_refl 2) after fits
  | tunnelRequest =>
      exact confined_member _ _ _ _ fun req => confined_tunnel_request_parse req after fits
  | tunnelResponse =>
      exact confined_member _ _ _ _ fun res => confined_tunnel_response_parse res after fits
  | routingIndication =>
      exact confined_member _ _ _ _ fun ind => confined_routing_indication_parse ind after fits
  | descriptionRequest =>
      exact confined_member _ _ _ _ fun req => confined_description_request_parse req after fits
  | descriptionResponse =>
      exact confined_member _ _ _ _ fun res => confined_description_response_parse res after fits
  | unknown => exact .pure _

end Payloads

/-- The addresses a packet parser may look at: the header, and the octets behind it that
the packet declares, as far as they are in the frame. -/
def PacketRegion (memory : Nat → Byte) (frameLength address : Nat) : Prop :=
  address < frameLength ∧
    (address < knxHeaderSize ∨
      Span knxHeaderSize (declaredLength memory) address ∧ declaredLength memory ≤ frameLength)

section Packets

variable (memory : Nat → Byte) (frameLength : Nat) (output : KnxPacket)

theorem confined_unpack_header (service : Nat) :
    Confined memory (PacketRegion memory frameLength)
      (knxUnpackHeader 0 frameLength service) := by
  unfold knxUnpackHeader
  refine .ite (fun _ => .pure _) fun long => ?_
  have header : ∀ address < knxHeaderSize, PacketRegion memory frameLength address := by
    intro address inside
    exact ⟨by omega, .inl inside⟩
  refine .load_bind (header _ (by decide)) (.load_bind (header _ (by decide)) ?_)
  refine .load_bind (header _ (by decide)) (.ite (fun _ => .pure _) fun _ => ?_)
  refine .load_bind (header _ (by decide)) (.ite (fun _ => .pure _) fun _ => ?_)
  exact .load_bind (header _ (by decide)) (.load_bind (header _ (by decide)) (.pure _))

theorem confined_knxParse :
    Confined memory (PacketRegion memory frameLength) (knxParse 0 frameLength output) := by
  unfold knxParse
  refine .bind (confined_unpack_header memory frameLength _) ?_
  rw [eval_unpack_header]
  split_ifs with short valid
  · exact .ite (fun _ => .pure _) fun nonnegative => absurd (by decide) nonnegative
  · refine .ite (fun _ => .pure _) fun _ => .ite (fun _ => .pure _) fun fits => ?_
    have payloadFits : 0 + knxHeaderSize + (((declaredLength memory : Nat) : Int).toNat -
        knxHeaderSize) ≤ declaredLength memory := by
      have long := valid.2.2
      omega
    refine .mono (confined_payload_parse _ _ (Nat.le_of_eq (Nat.zero_add _).symm) payloadFits) ?_
    intro address inside
    obtain ⟨behind, before⟩ := inside
    exact ⟨by omega, .inr ⟨⟨behind, before⟩, by omega⟩⟩
  · exact .ite (fun _ => .pure _) fun nonnegative => absurd (by decide) nonnegative

end Packets

/-! ## Slices -/

/-- The slices a parsed frame refers to lie in `[lo, hi)`. -/
structure SlicesInside (lo hi : Nat) (frame : KnxCemi Nat) : Prop where
  addInfo : ∃ offset, frame.addInfo = some offset ∧ lo ≤ offset ∧
    offset + frame.addInfoLength.toNat ≤ hi
  payload : KnxGenerate.isData frame.ldata.tpdu.tpci = true →
    ∃ offset, frame.ldata.tpdu.payload = some offset ∧ lo ≤ offset ∧
      offset + frame.ldata.tpdu.length ≤ hi

section Slices

variable (memory : Nat → Byte) {lo hi message messageLength : Nat}

theorem payload_of_tpdu_parse (info : KnxTpdu Nat)
    (success : (eval memory (knxTpduParse message messageLength info)).1 = true)
    (data : KnxGenerate.isData
      (eval memory (knxTpduParse message messageLength info)).2.tpci = true) :
    (eval memory (knxTpduParse message messageLength info)).2.payload = some (message + 1) ∧
      message + 1 + (eval memory (knxTpduParse message messageLength info)).2.length =
        message + messageLength := by
  revert success data
  simp only [knxTpduParse, eval_ite, eval_bind, eval_load, eval_pure]
  split_ifs with empty control short
  · intro success
    cases success
  · intro _ data
    simp only [KnxGenerate.isData, Bool.or_eq_true, decide_eq_true_eq] at data
    simp only [knxTpciUnnumberedData, knxTpciNumberedData] at data
    simp only [knxTpciUnnumberedControl, knxTpciNumberedControl] at control
    omega
  · intro success
    cases success
  · intro _ _
    have length : message + 1 + (messageLength - 1) = message + messageLength := by omega
    exact ⟨rfl, length⟩

theorem payload_of_ldata_parse (out : KnxLdata Nat) (after : lo ≤ message)
    (fits : message + messageLength ≤ hi)
    (success : (eval memory (knxLdataParse message messageLength out)).1 = true)
    (data : KnxGenerate.isData
      (eval memory (knxLdataParse message messageLength out)).2.tpdu.tpci = true) :
    ∃ offset, (eval memory (knxLdataParse message messageLength out)).2.tpdu.payload =
        some offset ∧
      lo ≤ offset ∧
        offset + (eval memory (knxLdataParse message messageLength out)).2.tpdu.length ≤ hi := by
  revert success data
  simp only [knxLdataParse, eval_ite, eval_bind, eval_load, eval_pure]
  split_ifs with short format long
  · intro success
    cases success
  · intro success
    cases success
  · intro success
    cases success
  · intro success data
    obtain ⟨payload, ends⟩ := payload_of_tpdu_parse memory _ success data
    exact ⟨_, payload, by omega, Nat.le_trans (Nat.le_of_eq ends) (by omega)⟩

theorem slices_of_cemi_parse (frame : KnxCemi Nat) (after : lo ≤ message)
    (fits : message + messageLength ≤ hi)
    (success : (eval memory (knxCemiParse message messageLength frame)).1 = true) :
    SlicesInside lo hi (eval memory (knxCemiParse message messageLength frame)).2 := by
  revert success
  simp only [knxCemiParse, eval_ite, eval_bind, eval_load, eval_pure]
  split_ifs with short long supported
  · intro success
    cases success
  · intro success
    cases success
  · intro success
    rw [knxCemiHeaderSize] at long
    constructor
    · refine ⟨_, rfl, ?_, ?_⟩
      all_goals
        simp only [knxCemiHeaderSize]
        omega
    · intro data
      refine payload_of_ldata_parse memory _ ?_ ?_ success data
      all_goals
        simp only [knxCemiHeaderSize]
        omega
  · intro success
    cases success

theorem slices_of_tunnel_request_parse (req : KnxTunnelRequest Nat) (after : lo ≤ message)
    (fits : message + messageLength ≤ hi)
    (success : (eval memory (knxTunnelRequestParse message messageLength req)).1 = true) :
    SlicesInside lo hi (eval memory (knxTunnelRequestParse message messageLength req)).2.data := by
  revert success
  simp only [knxTunnelRequestParse, eval_ite, eval_bind, eval_load, eval_pure]
  split_ifs with short structureLength
  · intro success
    cases success
  · intro success
    cases success
  · intro success
    exact slices_of_cemi_parse memory _ (by omega) (by omega) success

theorem slices_of_routing_indication_parse (ind : KnxRoutingIndication Nat)
    (after : lo ≤ message) (fits : message + messageLength ≤ hi)
    (success : (eval memory (knxRoutingIndicationParse message messageLength ind)).1 = true) :
    SlicesInside lo hi
      (eval memory (knxRoutingIndicationParse message messageLength ind)).2.data := by
  simp only [knxRoutingIndicationParse, eval_bind, eval_pure] at success ⊢
  exact slices_of_cemi_parse memory _ after fits success

theorem success_of_member {Output : Type} {parser : Output → FrameLoader (Bool × Output)}
    {output : KnxPacket} {select : KnxPayload → Output} {assign : KnxPayload → Output → KnxPayload}
    {unpackResult : Int}
    (accepted : 0 ≤ (eval memory (member parser output select assign unpackResult)).1) :
    (eval memory (parser (select output.payload))).1 = true := by
  rw [eval_member] at accepted
  by_contra refused
  rw [if_neg refused] at accepted
  have rejected : ¬ 0 ≤ -knxInvalidPayload := by decide
  exact rejected accepted

end Slices

/-- The parser looks only at the header and at the declared octets behind it, and the
slices of an accepted frame lie among those. -/
theorem parser_stays_inside (memory : Nat → Byte) (frameLength : Nat) (output : KnxPacket) :
    (∀ address ∈ footprint memory (knxParse 0 frameLength output),
      PacketRegion memory frameLength address) ∧
    (0 ≤ (eval memory (knxParse 0 frameLength output)).1 →
      declaredLength memory ≤ frameLength ∧
      ((eval memory (knxParse 0 frameLength output)).2.service = knxTunnelRequest →
        SlicesInside knxHeaderSize (declaredLength memory)
          (eval memory (knxParse 0 frameLength output)).2.payload.tunnelReq.data) ∧
      ((eval memory (knxParse 0 frameLength output)).2.service = knxRoutingIndication →
        SlicesInside knxHeaderSize (declaredLength memory)
          (eval memory (knxParse 0 frameLength output)).2.payload.routingInd.data)) := by
  refine ⟨confined_knxParse memory frameLength output, fun accepted => ?_⟩
  obtain ⟨valid, insideFrame, dispatched⟩ :=
    dispatched_of_accepted memory frameLength output accepted
  have fits : knxHeaderSize + (declaredLength memory - knxHeaderSize) ≤ declaredLength memory :=
    Nat.le_of_eq (Nat.add_sub_cancel' valid.2.2)
  rw [dispatched] at accepted ⊢
  rw [payload_parse_service]
  refine ⟨insideFrame, ?_⟩
  change (declaredService memory = knxTunnelRequest → _) ∧
    (declaredService memory = knxRoutingIndication → _)
  constructor
  · intro service
    have dispatch : ParsedService.ofCode (declaredService memory) = .tunnelRequest := by
      rw [service]
      rfl
    simp only [payloadParse, dispatch] at accepted ⊢
    have success := success_of_member memory accepted
    rw [eval_member]
    exact slices_of_tunnel_request_parse memory _ (Nat.le_refl _) fits success
  · intro service
    have dispatch : ParsedService.ofCode (declaredService memory) = .routingIndication := by
      rw [service]
      rfl
    simp only [payloadParse, dispatch] at accepted ⊢
    have success := success_of_member memory accepted
    rw [eval_member]
    exact slices_of_routing_indication_parse memory _ (Nat.le_refl _) fits success

end KnxDemo.KnxParserBounds
