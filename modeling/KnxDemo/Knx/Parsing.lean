import KnxDemo.Knx.Parse

/-!
# What the parsers compute

Result lemmas for the header, the host information and the connection response,
stated for any memory: the client looks at all three of them also where parsing
fails.
-/

namespace KnxDemo.KnxParsing

open KnxDemo.Bytes KnxDemo.KnxProto KnxDemo.KnxParse
open KnxDemo.Interaction KnxDemo.Interaction.Loader

def vectorAt (memory : Nat → Byte) (source count : Nat) : Vector Byte count :=
  Vector.ofFn fun index : Fin count => memory (source + index)

@[simp] theorem eval_copy (memory : Nat → Byte) (source count : Nat) :
    eval memory (copy source count) = vectorAt memory source count :=
  eval_loadVector memory _ count

def HostAccepted (memory : Nat → Byte) (message messageLength : Nat) : Prop :=
  knxHostInfoSize ≤ messageLength ∧ (memory message).toNat = knxHostInfoSize ∧
    ((memory (message + 1)).toNat = knxProtoUdp ∨ (memory (message + 1)).toNat = knxProtoTcp)

instance (memory : Nat → Byte) (message messageLength : Nat) :
    Decidable (HostAccepted memory message messageLength) :=
  inferInstanceAs (Decidable (_ ∧ _ ∧ _))

def hostAt (memory : Nat → Byte) (message : Nat) : KnxHostInfo where
  protocol := (memory (message + 1)).toNat
  address := vectorAt memory (message + 2) 4
  port := vectorAt memory (message + 6) 2

theorem eval_host_info_parse (memory : Nat → Byte) (message messageLength : Nat)
    (host : KnxHostInfo) :
    eval memory (knxHostInfoParse message messageLength host) =
      if HostAccepted memory message messageLength then (true, hostAt memory message)
      else (false, host) := by
  unfold knxHostInfoParse
  simp only [eval_ite, eval_bind, eval_load, eval_pure, eval_copy]
  by_cases accepted : HostAccepted memory message messageLength
  · rcases accepted with ⟨long, structureLength, protocol⟩
    rw [if_neg (Nat.not_lt.mpr long), if_neg (not_not.mpr structureLength), if_neg (by omega),
      if_pos ⟨long, structureLength, protocol⟩]
    rfl
  · rw [if_neg accepted]
    split_ifs with short structureLength protocol
    · rfl
    · rfl
    · rfl
    · exact absurd ⟨Nat.not_lt.mp short, not_not.mp structureLength, by omega⟩ accepted

theorem mem_footprint_host_info_parse {memory : Nat → Byte} {message messageLength : Nat}
    {host : KnxHostInfo} {address : Nat}
    (member : address ∈ footprint memory (knxHostInfoParse message messageLength host)) :
    knxHostInfoSize ≤ messageLength ∧ message ≤ address ∧ address < message + knxHostInfoSize := by
  simp only [knxHostInfoParse, copy, footprint_ite, footprint_bind, footprint_load,
    footprint_pure, footprint_loadVector] at member
  rw [knxHostInfoSize] at member ⊢
  split_ifs at member <;> grind

/-! ## The header -/

/-- The total length the header declares. -/
def declaredLength (memory : Nat → Byte) : Nat := (word (memory 4) (memory 5)).toNat

/-- The service the header names. -/
def declaredService (memory : Nat → Byte) : Nat := (word (memory 2) (memory 3)).toNat

def HeaderValid (memory : Nat → Byte) : Prop :=
  (memory 0).toNat = knxHeaderSize ∧ (memory 1).toNat = 16 ∧
    knxHeaderSize ≤ declaredLength memory

instance (memory : Nat → Byte) : Decidable (HeaderValid memory) :=
  inferInstanceAs (Decidable (_ ∧ _ ∧ _))

theorem eval_unpack_header (memory : Nat → Byte) (bufferLength service : Nat) :
    eval memory (knxUnpackHeader 0 bufferLength service) =
      if bufferLength < knxHeaderSize then (-knxInvalidBuffer, service)
      else if HeaderValid memory then (declaredLength memory, declaredService memory)
      else (-knxInvalidHeader, service) := by
  unfold knxUnpackHeader
  simp only [eval_ite, eval_bind, eval_load, eval_pure, Nat.zero_add]
  rw [← declaredLength, ← declaredService]
  by_cases short : bufferLength < knxHeaderSize
  · rw [if_pos short, if_pos short]
  rw [if_neg short, if_neg short]
  by_cases valid : HeaderValid memory
  · rcases valid with ⟨size, version, long⟩
    rw [if_neg (not_not.mpr size), if_neg (by omega), if_pos ⟨size, version, long⟩]
  · rw [if_neg valid]
    split_ifs with size rest
    · rfl
    · rfl
    · exact absurd ⟨not_not.mp size, by omega, by omega⟩ valid

/-! ## The connection response -/

theorem eval_connection_response_parse (memory : Nat → Byte) (message messageLength : Nat)
    (res : KnxConnectionResponse) :
    eval memory (knxConnectionResponseParse message messageLength res) =
      if messageLength < 2 then (false, res)
      else if messageLength < knxHostInfoSize + 6 then
        (true, { res with channel := memory message, status := memory (message + 1) })
      else if HostAccepted memory (message + 2) (messageLength - 2) then
        (true, {
          channel := memory message, status := memory (message + 1)
          host := hostAt memory (message + 2), extended := vectorAt memory (message + 11) 3 })
      else (false, { res with channel := memory message, status := memory (message + 1) }) := by
  unfold knxConnectionResponseParse
  simp only [eval_ite, eval_bind, eval_load, eval_pure, eval_copy, eval_host_info_parse]
  by_cases short : messageLength < 2
  · rw [if_pos short, if_pos short]
  rw [if_neg short, if_neg short]
  by_cases brief : messageLength < knxHostInfoSize + 6
  · rw [if_pos brief, if_neg (by omega)]
  · rw [if_neg brief, if_pos (by omega)]
    split_ifs <;> simp_all

/-! ## Packets -/

theorem eval_member {Output : Type} (memory : Nat → Byte)
    (parser : Output → FrameLoader (Bool × Output)) (output : KnxPacket)
    (select : KnxPayload → Output) (assign : KnxPayload → Output → KnxPayload)
    (unpackResult : Int) :
    eval memory (member parser output select assign unpackResult) =
      (if (eval memory (parser (select output.payload))).1 then unpackResult
        else -knxInvalidPayload,
        { output with
          payload := assign output.payload (eval memory (parser (select output.payload))).2 }) := by
  simp only [member, eval_bind, eval_pure]

theorem payload_parse_service (memory : Nat → Byte) (payload payloadLength : Nat)
    (unpackResult : Int) (output : KnxPacket) :
    (eval memory (payloadParse payload payloadLength unpackResult output)).2.service =
      output.service := by
  unfold payloadParse
  cases ParsedService.ofCode output.service with
  | unknown => rfl
  | _ => rw [eval_member]

/-- Reads the packet header at the start of the memory, then its payload. -/
theorem eval_knxParse (memory : Nat → Byte) (frameLength : Nat) (output : KnxPacket) :
    eval memory (knxParse 0 frameLength output) =
      if frameLength < knxHeaderSize then (-knxInvalidBuffer, output)
      else if ¬ HeaderValid memory then (-knxInvalidHeader, output)
      else if frameLength < declaredLength memory then
        (-knxInvalidBuffer, { output with service := declaredService memory })
      else eval memory (payloadParse knxHeaderSize (declaredLength memory - knxHeaderSize)
        (declaredLength memory) { output with service := declaredService memory }) := by
  simp only [knxParse, eval_ite, eval_bind, eval_pure, eval_unpack_header]
  by_cases short : frameLength < knxHeaderSize
  · simp only [if_pos short]
    rw [if_pos (by decide)]
  simp only [if_neg short]
  by_cases valid : HeaderValid memory
  · have nonnegative : ¬ ((declaredLength memory : Nat) : Int) < 0 := by omega
    simp only [if_pos valid, if_neg (not_not.mpr valid), if_neg nonnegative, gt_iff_lt,
      Int.ofNat_lt, Int.toNat_natCast, Nat.zero_add]
  · simp only [if_neg valid, if_pos valid]
    rw [if_pos (by decide)]

theorem dispatched_of_accepted (memory : Nat → Byte) (frameLength : Nat) (output : KnxPacket)
    (accepted : 0 ≤ (eval memory (knxParse 0 frameLength output)).1) :
    HeaderValid memory ∧ declaredLength memory ≤ frameLength ∧
      eval memory (knxParse 0 frameLength output) =
        eval memory (payloadParse knxHeaderSize (declaredLength memory - knxHeaderSize)
          (declaredLength memory) { output with service := declaredService memory }) := by
  have buffer : ¬ 0 ≤ -knxInvalidBuffer := by decide
  have header : ¬ 0 ≤ -knxInvalidHeader := by decide
  rw [eval_knxParse] at accepted ⊢
  by_cases short : frameLength < knxHeaderSize
  · rw [if_pos short] at accepted
    exact absurd accepted buffer
  by_cases valid : HeaderValid memory
  · by_cases long : frameLength < declaredLength memory
    · rw [if_neg short, if_neg (not_not.mpr valid), if_pos long] at accepted
      exact absurd accepted buffer
    · rw [if_neg short, if_neg (not_not.mpr valid), if_neg long]
      exact ⟨valid, Nat.not_lt.mp long, rfl⟩
  · rw [if_neg short, if_pos valid] at accepted
    exact absurd accepted header

end KnxDemo.KnxParsing
