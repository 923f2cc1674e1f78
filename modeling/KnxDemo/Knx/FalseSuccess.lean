import KnxDemo.Knx.FrameChecks
import KnxDemo.Knx.FrameLength
import KnxDemo.Knx.StaleOctets

/-!
# Success without a frame

The cEMI generator refuses services it does not know and TPDUs the length octet
cannot announce. Neither of the two generators that call it passes the refusal
on, so `knx_generate` returns true over a packet whose frame is missing, and the
packet's own parser rejects it. Additional information behind a NULL pointer is
skipped but not announced, which leaves the parser to read the L_Data frame too
early.
-/

namespace KnxDemo.KnxFalseSuccess

open KnxDemo.Bytes KnxDemo.KnxProto KnxDemo.KnxGenerate KnxDemo.KnxLayout
open KnxDemo.KnxPacketLayout KnxDemo.KnxParse KnxDemo.KnxParsing KnxDemo.KnxFields
open KnxDemo.KnxFrameFields KnxDemo.KnxFrameChecks KnxDemo.KnxFrameLength KnxDemo.KnxStaleOctets
open KnxDemo.Interaction KnxDemo.Interaction.Loader

/-! ## Frames in a buffer of zeros -/

instance (frame : KnxCemi (List Byte)) : Decidable (Encodable frame) :=
  inferInstanceAs (Decidable (_ ∧ _ ∧ _))

def announced (frame : KnxCemi (List Byte)) : Byte :=
  if frame.addInfo.isSome then frame.addInfoLength else 0

def storedHead (frame : KnxCemi (List Byte)) : List Byte :=
  BitVec.ofNat 8 frame.service :: announced frame ::
    octetsBehind frame.addInfo frame.addInfoLength.toNat

def storedLdata (frame : KnxCemi (List Byte)) : List Byte :=
  if Encodable frame then ldataOctets 0 frame.ldata else []

/-- The octets the generator skips without announcing them. -/
def skipped (frame : KnxCemi (List Byte)) : Nat :=
  frame.addInfoLength.toNat - (announced frame).toNat

def behindHead (frame : KnxCemi (List Byte)) (index : Nat) : Byte :=
  (List.replicate (skipped frame) 0 ++ storedLdata frame)[index]?.getD 0

section Frame

variable {frame : KnxCemi (List Byte)}

theorem announced_le (frame : KnxCemi (List Byte)) :
    (announced frame).toNat ≤ frame.addInfoLength.toNat := by
  unfold announced
  split_ifs
  · exact Nat.le_refl _
  · exact Nat.zero_le _

theorem length_storedHead (valid : ValidPointers frame) :
    (storedHead frame).length = knxCemiHeaderSize + (announced frame).toNat := by
  simp only [storedHead, announced, octetsBehind, List.length_cons, knxCemiHeaderSize]
  cases pointer : frame.addInfo with
  | none => simp
  | some octets =>
      have enough := valid.addInfo octets pointer
      simp only [Option.getD_some, List.length_take, Option.isSome_some, if_true]
      omega

theorem stored_head_generate_eq (valid : ValidPointers frame) (buffer : Buffer Byte)
    (offset : Nat) :
    (if frame.addInfoLength.toNat > 0 ∧ frame.addInfo.isSome then
        ((buffer.store offset (BitVec.ofNat 8 frame.service)).store (offset + 1)
          frame.addInfoLength).storeBlock (offset + knxCemiHeaderSize)
          (octetsBehind frame.addInfo frame.addInfoLength.toNat)
      else (buffer.store offset (BitVec.ofNat 8 frame.service)).store (offset + 1) 0) =
      buffer.storeBlock offset (storedHead frame) := by
  cases pointer : frame.addInfo with
  | none =>
      have empty : octetsBehind (none : Option (List Byte)) frame.addInfoLength.toNat = [] :=
        List.take_nil
      rw [if_neg (fun both => Bool.false_ne_true both.2), storedHead, announced, pointer, empty]
      rfl
  | some octets =>
      have present : storedHead frame = cemiHead frame := by
        rw [storedHead, announced, pointer, cemiHead, pointer]
        rfl
      have addInfo := valid_add_info valid (.inr (by rw [pointer]; rfl))
      rw [present, ← cemi_head_generate_eq buffer offset frame addInfo, pointer]

theorem cemi_generate_stored (valid : ValidPointers frame) (buffer : Buffer Byte) (offset : Nat)
    (zero : buffer.memory (stalePosition offset frame) = 0) :
    (knxCemiGenerate buffer offset frame).1 =
      (buffer.storeBlock offset (storedHead frame)).storeBlock
        (offset + (knxCemiHeaderSize + frame.addInfoLength.toNat)) (storedLdata frame) := by
  have length := length_storedHead valid
  have bound := announced_le frame
  have stale : (buffer.storeBlock offset (storedHead frame)).memory
      (offset + (knxCemiHeaderSize + frame.addInfoLength.toNat) + 8) = 0 := by
    rw [Buffer.memory_storeBlock_outside _ _ _ _ (.inr (by omega))]
    exact zero
  unfold knxCemiGenerate storedLdata
  simp only [stored_head_generate_eq valid]
  by_cases service : isLdata frame.service
  · by_cases fits : TpduFits frame.ldata.tpdu
    · rw [if_pos service, if_pos (show Encodable frame from ⟨service, fits⟩),
        ldata_generate_eq _ _ _ fits, stale]
    · rw [if_pos service, if_neg (fun both : Encodable frame => fits both.2),
        ldata_generate_refused fits]
      rfl
  · rw [if_neg service, if_neg (fun both : Encodable frame => service both.1)]
    rfl

theorem refused_not_accepted (refused : ¬ Encodable frame) (messageLength : Nat) :
    ¬ LdataAccepted (behindHead frame) 0 messageLength := by
  have zero : ∀ index, behindHead frame index = 0 := by
    intro index
    rw [behindHead, storedLdata, if_neg refused, List.append_nil]
    rw [List.getElem?_replicate]
    split_ifs
    · rfl
    · rfl
  exact zeros_not_accepted (zero _) (zero _)

end Frame

/-! ## Packets -/

inductive FrameOf : KnxMessage → KnxCemi (List Byte) → Prop
  | tunnel (req : KnxTunnelRequest (List Byte)) : FrameOf (.tunnelRequest req) req.data
  | routing (ind : KnxRoutingIndication (List Byte)) : FrameOf (.routingIndication ind) ind.data

/-- Where generating into a buffer of zeros succeeds, the packet's own parser accepts the
first `knx_size` octets; and TPDUs above 256 octets and unknown services do not succeed. -/
structure HonestSuccess (message : KnxMessage) (frame : KnxCemi (List Byte)) : Prop where
  accepted : (knxGenerate (Buffer.fresh fun _ => 0) message).2 = true →
    ∀ memory : Nat → Byte,
      (∀ index, index < knxSize message →
        memory index = (knxGenerate (Buffer.fresh fun _ => 0) message).1.memory index) →
      ∀ output : KnxPacket, 0 ≤ (eval memory (knxParse 0 (knxSize message) output)).1
  refused : 256 < knxTpduSize frame.ldata.tpdu ∨ ¬ isLdata frame.service →
    (knxGenerate (Buffer.fresh fun _ => 0) message).2 = false

def frameLead : KnxMessage → List Byte
  | .tunnelRequest req => [4, req.channel, req.seqNumber, 0]
  | _ => []

section Packet

variable {message : KnxMessage} {frame : KnxCemi (List Byte)}

theorem FrameOf.service_lt (carries : FrameOf message frame) : message.service < 65536 := by
  cases carries with
  | tunnel req =>
      change knxTunnelRequest < 65536
      decide
  | routing ind =>
      change knxRoutingIndication < 65536
      decide

theorem FrameOf.parse_eq (carries : FrameOf message frame) {memory : Nat → Byte}
    (lead : Buffer.Holds memory knxHeaderSize (frameLead message)) (output : KnxPacket)
    (unpackResult : Int) :
    ∃ old, (eval memory (payloadParse knxHeaderSize (knxPayloadSize message) unpackResult
      { output with service := message.service })).1 =
        if (eval memory (knxCemiParse (knxHeaderSize + (frameLead message).length)
          (knxCemiSize frame) old)).1 then unpackResult else -knxInvalidPayload := by
  cases carries with
  | tunnel req =>
      refine ⟨output.payload.tunnelReq.data, ?_⟩
      have dispatch : ParsedService.ofCode (KnxMessage.tunnelRequest req).service =
          .tunnelRequest := rfl
      have structureLength : (memory knxHeaderSize).toNat = 4 := congrArg BitVec.toNat lead.1
      have rest : knxPayloadSize (.tunnelRequest req) - 4 = knxCemiSize req.data :=
        Nat.add_sub_cancel_left 4 _
      have room : ¬ knxPayloadSize (.tunnelRequest req) < 4 :=
        Nat.not_lt.mpr (Nat.le_add_right 4 _)
      simp only [payloadParse, dispatch, eval_member, knxTunnelRequestParse, eval_ite, eval_bind,
        eval_load, eval_pure]
      rw [if_neg room, if_neg (not_not.mpr structureLength), rest]
      rfl
  | routing ind =>
      refine ⟨output.payload.routingInd.data, ?_⟩
      have dispatch : ParsedService.ofCode (KnxMessage.routingIndication ind).service =
          .routingIndication := rfl
      simp only [payloadParse, dispatch, eval_member, knxRoutingIndicationParse, eval_bind,
        eval_pure]
      rfl

def packetFront (message : KnxMessage) (frame : KnxCemi (List Byte)) : List Byte :=
  headerOctets message.service (knxPayloadSize message) ++ (frameLead message ++ storedHead frame)

theorem length_packetFront (message : KnxMessage) (valid : ValidPointers frame) :
    (packetFront message frame).length =
      knxHeaderSize + (frameLead message).length +
        (knxCemiHeaderSize + (announced frame).toNat) := by
  rw [packetFront, List.length_append, List.length_append, length_headerOctets,
    length_storedHead valid, knxHeaderSize]
  omega

theorem front_and_skipped (valid : ValidPointers frame) :
    (packetFront message frame).length + skipped frame =
      knxHeaderSize + (frameLead message).length +
        (knxCemiHeaderSize + frame.addInfoLength.toNat) := by
  have bound := announced_le frame
  rw [length_packetFront message valid, skipped]
  omega

/-- The refusal is not passed on: in a buffer of zeros generating succeeds, with the L_Data frame
or without it. -/
theorem FrameOf.generate_stored (carries : FrameOf message frame) (valid : ValidPointers frame)
    (fits : knxPayloadSize message ≤ 65529) :
    knxGenerate (Buffer.fresh fun _ => 0) message =
      (((Buffer.fresh fun _ => 0).storeBlock 0 (packetFront message frame)).storeBlock
        ((packetFront message frame).length + skipped frame) (storedLdata frame), true) := by
  have header := header_generate_eq (Buffer.fresh fun _ => 0) message.service _ fits
  have zero : (((Buffer.fresh fun _ => 0).storeBlock 0 (headerOctets message.service
      (knxPayloadSize message))).storeBlock knxHeaderSize (frameLead message)).memory
        (stalePosition (knxHeaderSize + (frameLead message).length) frame) = 0 := by
    rw [Buffer.memory_storeBlock_outside _ _ _ _ (.inr (by rw [stalePosition]; omega)),
      Buffer.memory_storeBlock_outside _ _ _ _ (.inr (by
        rw [length_headerOctets, stalePosition, knxHeaderSize]
        omega))]
    rfl
  have stored := cemi_generate_stored valid _ _ zero
  simp only [knxGenerate, header, not_true_eq_false, if_false]
  rw [front_and_skipped valid, packetFront, Buffer.storeBlock_append, Buffer.storeBlock_append,
    length_headerOctets]
  rw [Nat.zero_add]
  cases carries with
  | tunnel req => exact congrArg (·, true) stored
  | routing ind => exact congrArg (·, true) stored

theorem memory_behind_front (front : List Byte) (index : Nat) :
    (((Buffer.fresh fun _ => 0).storeBlock 0 front).storeBlock (front.length + skipped frame)
      (storedLdata frame)).memory (front.length + index) = behindHead frame index := by
  rw [behindHead, Buffer.memory_storeBlock]
  by_cases early : index < skipped frame
  · rw [if_neg (by omega), Buffer.memory_storeBlock_outside _ _ _ _ (.inr (by omega)),
      List.getElem?_append_left (by rwa [List.length_replicate]), List.getElem?_replicate,
      if_pos early]
    rfl
  · rw [if_pos (by omega), Buffer.memory_storeBlock_outside _ _ _ _ (.inr (by omega)),
      List.getElem?_append_right (by rw [List.length_replicate]; omega), List.length_replicate,
      show front.length + index - (front.length + skipped frame) = index - skipped frame by omega]
    rfl

theorem holds_front (frame : KnxCemi (List Byte)) (front : List Byte) :
    Buffer.Holds (((Buffer.fresh fun _ => 0).storeBlock 0 front).storeBlock
      (front.length + skipped frame) (storedLdata frame)).memory 0 front :=
  (Buffer.holds_storeBlock _ 0 front).congr fun index inside =>
    Buffer.memory_storeBlock_outside _ _ _ _ (.inl (by omega))

/-- The frame's parser accepts what was generated exactly where the service is known and the
checks pass on what follows the head. -/
def Readable (frame : KnxCemi (List Byte)) : Prop :=
  isLdata frame.service ∧
    LdataAccepted (behindHead frame) 0 (skipped frame + knxLdataSize frame.ldata)

theorem FrameOf.size_eq (carries : FrameOf message frame) :
    knxSize message = knxHeaderSize + (frameLead message).length + knxCemiSize frame := by
  cases carries with
  | tunnel req =>
      simp only [knxSize, knxPayloadSize, knxTunnelRequestSize, frameLead, List.length_cons,
        List.length_nil]
      omega
  | routing ind => exact Nat.add_comm _ _

theorem cemi_parse_readable_iff (known : isLdata frame.service) {memory : Nat → Byte}
    {position : Nat} (head : Buffer.Holds memory position (storedHead frame))
    (behind : ∀ index < skipped frame + knxLdataSize frame.ldata,
      memory (position + (knxCemiHeaderSize + (announced frame).toNat) + index) =
        behindHead frame (0 + index)) (old : KnxCemi Nat) :
    (eval memory (knxCemiParse position (knxCemiSize frame) old)).1 = true ↔ Readable frame := by
  have bound := announced_le frame
  have size : knxCemiSize frame = knxCemiHeaderSize + (announced frame).toNat +
      (skipped frame + knxLdataSize frame.ldata) := by
    rw [knxCemiSize, if_pos known, skipped]
    omega
  rw [cemi_parse_accepts_iff known head.1 head.2.1 (by omega), Readable, and_iff_right known, size,
    Nat.add_sub_cancel_left]
  constructor
  · intro accepted
    exact accepted.congr fun index inside => (behind index inside).symm
  · intro accepted
    exact accepted.congr behind

theorem FrameOf.parse_accepts_iff (carries : FrameOf message frame) (valid : ValidPointers frame)
    (fits : knxPayloadSize message ≤ 65529) {memory : Nat → Byte}
    (agree : ∀ index, index < knxSize message →
      memory index = (knxGenerate (Buffer.fresh fun _ => 0) message).1.memory index)
    (output : KnxPacket) :
    0 ≤ (eval memory (knxParse 0 (knxSize message) output)).1 ↔ Readable frame := by
  have size := carries.size_eq
  have front := length_packetFront message valid
  have held := holds_front frame (packetFront message frame)
  rw [carries.generate_stored valid fits] at agree
  rw [packetFront, Buffer.holds_append, Buffer.holds_append, length_headerOctets,
    ← packetFront] at held
  obtain ⟨header, lead, head⟩ := held
  have headerHeld : Buffer.Holds memory 0
      (headerOctets message.service (knxPayloadSize message)) :=
    header.congr fun index inside => agree index (by
      rw [length_headerOctets] at inside
      rw [size, knxHeaderSize]
      omega)
  have leadHeld : Buffer.Holds memory knxHeaderSize (frameLead message) :=
    lead.congr fun index inside => agree index (by
      rw [size, knxHeaderSize]
      omega)
  rw [parse_of_header fits carries.service_lt headerHeld]
  obtain ⟨old, result⟩ := carries.parse_eq leadHeld output (knxSize message)
  have verdict : (eval memory (knxCemiParse (knxHeaderSize + (frameLead message).length)
      (knxCemiSize frame) old)).1 = true ↔ Readable frame := by
    by_cases known : isLdata frame.service
    · have frameSize : knxCemiSize frame =
          knxCemiHeaderSize + frame.addInfoLength.toNat + knxLdataSize frame.ldata := by
        rw [knxCemiSize, if_pos known]
      have bound := announced_le frame
      have long := length_storedHead valid
      apply cemi_parse_readable_iff known
      · exact head.congr fun index inside => agree index (by
          rw [size, frameSize, knxHeaderSize]
          omega)
      · intro index inside
        rw [← front, agree _ (by rw [front, size, frameSize]; rw [skipped] at inside; omega),
          memory_behind_front, Nat.zero_add]
    · have empty : knxCemiSize frame = 0 := by
        rw [knxCemiSize, if_neg known]
      apply iff_of_false
      · simp only [knxCemiParse, eval_ite, eval_bind, eval_load, eval_pure]
        rw [empty, if_pos (by decide)]
        exact Bool.false_ne_true
      · exact fun readable => known readable.1
  rw [result, ← verdict]
  split_ifs with accepted
  · exact iff_of_true (Int.natCast_nonneg _) accepted
  · exact iff_of_false (by decide) accepted

/-! ## Frames that are read too early -/

def controlOctet (req : KnxLdata (List Byte)) : Byte :=
  BitVec.ofNat 8 (bit (knxTpduSize req.tpdu ≤ 16) <<< 7 ||| notBit req.repeatFlag <<< 5
    ||| notBit req.systemBroadcast <<< 4 ||| (req.priority &&& 3) <<< 2
    ||| bit req.requestAck <<< 1 ||| bit req.error)

def secondControlOctet (req : KnxLdata (List Byte)) : Byte :=
  BitVec.ofNat 8 ((req.addressType &&& 1) <<< 7 ||| (req.hops.toNat &&& 7) <<< 4)

/-- The octet read as the length octet announces no more than there is, and the next one begins
a control TPDU, unless there is more than one octet. -/
def Passes (room : Nat) (length first : Byte) : Prop :=
  length.toNat ≤ room ∧ (isControl (first.toNat >>> 6 &&& 3) ∨ 1 ≤ length.toNat)

/-- The L_Data frame passes the checks although it is read too early, by as many octets as the
NULL pointer should have led to. -/
def ReadableShifted (frame : KnxCemi (List Byte)) : Prop :=
  let req := frame.ldata
  let size := knxTpduSize req.tpdu
  match frame.addInfoLength.toNat with
  | 1 =>
      -- the first control octet lies where the reserved bits have to be clear
      (req.priority &&& 3 = 0 ∧ req.requestAck = false ∧ req.error = false) ∧
        Passes (1 + size) (lowByte req.destination) (BitVec.ofNat 8 (size - 1))
  | 2 => Passes (2 + size) (highByte req.destination) (lowByte req.destination)
  | 3 => Passes (3 + size) (lowByte req.source) (highByte req.destination)
  | 4 => Passes (4 + size) (highByte req.source) (lowByte req.source)
  | 5 => Passes (5 + size) (secondControlOctet req) (highByte req.source)
  | 6 => Passes (6 + size) (controlOctet req) (secondControlOctet req)
  | 7 => size ≤ 16
  | _ => False

section Early

variable {memory : Nat → Byte} {skipped size : Nat} {length first : Byte}

theorem accepted_iff_passes (lengthAt : memory 6 = length) (firstAt : memory 7 = first) :
    LdataAccepted memory 0 (skipped + (8 + size)) ↔
      (memory 1).toNat &&& 15 = 0 ∧ Passes (skipped + size) length first := by
  constructor
  · intro accepted
    have inside := accepted.tpduInside
    have tpdu := accepted.tpdu
    rw [Nat.zero_add, lengthAt] at inside
    simp only [Nat.zero_add, lengthAt, firstAt] at tpdu
    exact ⟨accepted.reserved, by omega, tpdu⟩
  · intro passes
    obtain ⟨reserved, inside, tpdu⟩ := passes
    constructor
    · omega
    · exact reserved
    · rw [Nat.zero_add, lengthAt]
      omega
    · simp only [Nat.zero_add, lengthAt, firstAt]
      exact tpdu

theorem accepted_iff_passes_late (secondAt : memory 1 = 0) (lengthAt : memory 6 = length)
    (firstAt : memory 7 = first) :
    LdataAccepted memory 0 (skipped + (8 + size)) ↔ Passes (skipped + size) length first := by
  rw [accepted_iff_passes lengthAt firstAt, secondAt]
  exact and_iff_right (by decide)

end Early

theorem control_octet_bits : ∀ (brief repeatFlag systemBroadcast requestAck error : Bool)
    (priority : Fin 4),
    let octet := (BitVec.ofNat 8 (bit brief <<< 7 ||| notBit repeatFlag <<< 5
      ||| notBit systemBroadcast <<< 4 ||| priority.val <<< 2
      ||| bit requestAck <<< 1 ||| bit error)).toNat
    (octet &&& 15 = 0 ↔ priority.val = 0 ∧ requestAck = false ∧ error = false) ∧
      (isControl (octet >>> 6 &&& 3) ↔ brief) := by
  decide +kernel

theorem control_octet_spec (req : KnxLdata (List Byte)) :
    ((controlOctet req).toNat &&& 15 = 0 ↔
        req.priority &&& 3 = 0 ∧ req.requestAck = false ∧ req.error = false) ∧
      (isControl ((controlOctet req).toNat >>> 6 &&& 3) ↔ knxTpduSize req.tpdu ≤ 16) := by
  have small : req.priority &&& 3 < 4 := Nat.lt_succ_of_le Nat.and_le_right
  have bits := control_octet_bits (knxTpduSize req.tpdu ≤ 16) req.repeatFlag req.systemBroadcast
    req.requestAck req.error ⟨_, small⟩
  simpa only [controlOctet, decide_eq_true_eq] using bits

theorem shifted_accepted_iff (frame : KnxCemi (List Byte)) (skips : frame.addInfoLength ≠ 0) :
    LdataAccepted
        (fun index => (List.replicate frame.addInfoLength.toNat 0 ++
          ldataOctets 0 frame.ldata)[index]?.getD 0)
        0 (frame.addInfoLength.toNat + knxLdataSize frame.ldata) ↔ ReadableShifted frame := by
  have positive : frame.addInfoLength.toNat ≠ 0 :=
    fun zero => skips (BitVec.eq_of_toNat_eq zero)
  rw [ReadableShifted, knxLdataSize]
  generalize frame.addInfoLength.toNat = skipped at positive
  obtain _ | _ | _ | _ | _ | _ | _ | _ | more := skipped
  · exact absurd rfl positive
  · rw [accepted_iff_passes rfl rfl, ← (control_octet_spec frame.ldata).1]
    rfl
  · exact accepted_iff_passes_late rfl rfl rfl
  · exact accepted_iff_passes_late rfl rfl rfl
  · exact accepted_iff_passes_late rfl rfl rfl
  · exact accepted_iff_passes_late rfl rfl rfl
  · exact accepted_iff_passes_late rfl rfl rfl
  · have bits := (control_octet_spec frame.ldata).2
    rw [accepted_iff_passes_late rfl (Eq.refl (0 : Byte)) rfl, Passes]
    exact ⟨fun passes => bits.mp (passes.2.resolve_right (by decide)),
      fun brief => ⟨Nat.zero_le _, .inl (bits.mpr brief)⟩⟩
  · exact iff_of_false (zeros_not_accepted rfl rfl) id

theorem readable_iff (frame : KnxCemi (List Byte)) :
    Readable frame ↔ Encodable frame ∧
      (frame.addInfoLength = 0 ∨ frame.addInfo.isSome ∨ ReadableShifted frame) := by
  by_cases encodable : Encodable frame
  · have behind : ∀ index, behindHead frame index =
        (List.replicate (skipped frame) 0 ++ ldataOctets 0 frame.ldata)[index]?.getD 0 := by
      intro index
      rw [behindHead, storedLdata, if_pos encodable]
    rw [Readable, and_iff_right encodable.1, and_iff_right encodable, ← or_assoc]
    by_cases present : frame.addInfoLength = 0 ∨ frame.addInfo.isSome
    · have none : skipped frame = 0 := by
        rw [skipped, announced]
        cases present with
        | inl zero =>
            rw [zero]
            exact Nat.zero_sub _
        | inr some => rw [if_pos some, Nat.sub_self]
      have held : Buffer.Holds (behindHead frame) 0 (ldataOctets 0 frame.ldata) := by
        rw [Buffer.holds_iff_getElem]
        intro index inside
        rw [behind, none, List.replicate_zero, List.nil_append, Nat.zero_add,
          List.getElem?_eq_getElem inside, Option.getD_some]
      rw [none, Nat.zero_add]
      exact iff_of_true (ldata_octets_accepted encodable.2 held) (.inl present)
    · have all : skipped frame = frame.addInfoLength.toNat := by
        rw [skipped, announced, if_neg (not_or.mp present).2]
        exact Nat.sub_zero _
      rw [or_iff_right present, ← shifted_accepted_iff frame (not_or.mp present).1, funext behind,
        all]
  · exact iff_of_false (fun readable => refused_not_accepted encodable _ readable.2)
      fun condition => encodable condition.1

end Packet

/-- Success is honest exactly for frames that can be encoded and whose additional information
is there, or is not missed by the parser, and for packets too long for their header. -/
theorem honest_success_iff (message : KnxMessage) (frame : KnxCemi (List Byte))
    (carries : FrameOf message frame) (valid : ValidPointers frame) :
    HonestSuccess message frame ↔
      Encodable frame ∧
          (frame.addInfoLength = 0 ∨ frame.addInfo.isSome ∨ ReadableShifted frame) ∨
        65529 < knxPayloadSize message := by
  rw [← readable_iff]
  by_cases long : 65529 < knxPayloadSize message
  · apply iff_of_true _ (.inr long)
    have failed : (knxGenerate (Buffer.fresh fun _ => 0) message).2 = false := by
      have tooLong : knxPayloadSize message > 65535 - knxHeaderSize := long
      simp only [knxGenerate, knxHeaderGenerate, if_pos tooLong]
      rfl
    constructor
    · intro generated
      rw [failed] at generated
      cases generated
    · exact fun _ => failed
  · have fits := Nat.not_lt.mp long
    have generated : (knxGenerate (Buffer.fresh fun _ => 0) message).2 = true :=
      congrArg Prod.snd (carries.generate_stored valid fits)
    rw [or_iff_left long]
    constructor
    · intro honest
      exact (carries.parse_accepts_iff valid fits (fun _ _ => rfl) {}).mp
        (honest.accepted generated _ (fun _ _ => rfl) {})
    · intro readable
      constructor
      · intro _ memory agree output
        exact (carries.parse_accepts_iff valid fits agree output).mpr readable
      · intro refused
        obtain ⟨known, bounded⟩ := ((readable_iff frame).mp readable).1
        cases refused with
        | inl large => exact absurd bounded.2 (Nat.not_le.mpr large)
        | inr unknown => exact absurd known unknown

/-- A tunnel request around a frame whose service has no generator. -/
def rawRequest : KnxTunnelRequest (List Byte) where
  data := { service := 0x10 }

theorem raw_request_succeeds_without_frame :
    ¬ ∀ (message : KnxMessage) (frame : KnxCemi (List Byte)), FrameOf message frame →
      ValidPointers frame → HonestSuccess message frame := by
  intro always
  have honest := always (.tunnelRequest rawRequest) rawRequest.data (.tunnel rawRequest)
    ⟨fun _ pointer => (by cases pointer), fun _ => Nat.zero_le _⟩
  exact absurd (honest.refused (.inr (by decide))) (by decide)

theorem honest_success_witness :
    HonestSuccess (.tunnelRequest openLightRequest) openLightRequest.data ↔
      Encodable openLightRequest.data ∧
          (openLightRequest.data.addInfoLength = 0 ∨ openLightRequest.data.addInfo.isSome ∨
            ReadableShifted openLightRequest.data) ∨
        65529 < knxPayloadSize (.tunnelRequest openLightRequest) :=
  honest_success_iff _ _ (.tunnel openLightRequest)
    ⟨fun _ pointer => (by cases pointer), open_light_request_valid.payload⟩

end KnxDemo.KnxFalseSuccess
