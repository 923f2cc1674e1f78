import KnxDemo.Knx.Packet

/-!
# Octets a cEMI frame takes from its buffer

The generator skips the additional information where its pointer is NULL, and
announces none there; and it masks the second octet of a data TPDU in place
whether or not a payload was copied to it. In both cases the frame contains what
the buffer held before.
-/

namespace KnxDemo.KnxStaleOctets

open KnxDemo.Bytes KnxDemo.KnxProto KnxDemo.KnxGenerate KnxDemo.KnxLayout KnxDemo.Interaction

/-- A pointer that is not NULL leads to as many octets as its length says. -/
structure ValidPointers (frame : KnxCemi (List Byte)) : Prop where
  addInfo : ∀ octets, frame.addInfo = some octets → frame.addInfoLength.toNat ≤ octets.length
  payload : ValidPayload frame.ldata.tpdu

/-- The frames the generator does not refuse. -/
def Encodable (frame : KnxCemi (List Byte)) : Prop :=
  isLdata frame.service ∧ TpduFits frame.ldata.tpdu

def cemiLength (frame : KnxCemi (List Byte)) : Nat :=
  knxCemiHeaderSize + frame.addInfoLength.toNat + (7 + knxTpduSize frame.ldata.tpdu)

/-- A frame that was generated is the same whatever the buffer held before, and its length
octet counts the octets between the cEMI header and the control field. -/
def NoStaleOctets (frame : KnxCemi (List Byte)) : Prop :=
  ∀ (offset : Nat) (left right : Nat → Byte),
    (knxCemiGenerate (Buffer.fresh left) offset frame).2 = true →
      (∀ index < cemiLength frame,
        (knxCemiGenerate (Buffer.fresh left) offset frame).1.memory (offset + index) =
          (knxCemiGenerate (Buffer.fresh right) offset frame).1.memory (offset + index)) ∧
      ((knxCemiGenerate (Buffer.fresh left) offset frame).1.memory (offset + 1)).toNat =
        frame.addInfoLength.toNat

def EmptyPayload (info : KnxTpdu (List Byte)) : Prop := isData info.tpci ∧ info.length = 0

section Frame

variable {frame : KnxCemi (List Byte)}

theorem ldata_generate_refused {req : KnxLdata (List Byte)} (refused : ¬ TpduFits req.tpdu)
    (buffer : Buffer Byte) (offset : Nat) :
    knxLdataGenerate buffer offset req = (buffer, false) := by
  have outside : knxTpduSize req.tpdu = 0 ∨ knxTpduSize req.tpdu > 255 + 1 := by
    unfold TpduFits at refused
    omega
  simp only [knxLdataGenerate, if_pos outside]

theorem refused_of_not_encodable (refused : ¬ Encodable frame) (buffer : Buffer Byte)
    (offset : Nat) : (knxCemiGenerate buffer offset frame).2 = false := by
  unfold knxCemiGenerate
  by_cases service : isLdata frame.service
  · have outside : ¬ TpduFits frame.ldata.tpdu := fun fits => refused ⟨service, fits⟩
    simp only [if_pos service, ldata_generate_refused outside]
  · simp only [if_neg service]

theorem tpduOctets_of_payload {info : KnxTpdu (List Byte)} (valid : ValidPayload info)
    (carries : ¬ EmptyPayload info) (stale other : Byte) :
    tpduOctets stale info = tpduOctets other info := by
  unfold tpduOctets
  by_cases data : isData info.tpci
  · have some : info.length ≠ 0 := fun zero => carries ⟨data, zero⟩
    have enough := valid data
    rw [if_pos data, if_pos data]
    cases octets : octetsBehind info.payload info.length with
    | nil =>
        have length := congrArg List.length octets
        rw [octetsBehind, List.length_take, List.length_nil] at length
        omega
    | cons octet rest => rfl
  · rw [if_neg data, if_neg data]

theorem valid_add_info (valid : ValidPointers frame)
    (present : frame.addInfoLength = 0 ∨ frame.addInfo.isSome) : ValidAddInfo frame := by
  intro carries
  cases present with
  | inl none =>
      rw [none] at carries
      exact absurd carries (Nat.lt_irrefl 0)
  | inr some =>
      obtain ⟨octets, pointer⟩ := Option.isSome_iff_exists.mp some
      exact ⟨octets, pointer, valid.addInfo octets pointer⟩

theorem no_stale_octets (valid : ValidPointers frame) (encodable : Encodable frame)
    (present : frame.addInfoLength = 0 ∨ frame.addInfo.isSome)
    (carries : ¬ EmptyPayload frame.ldata.tpdu) : NoStaleOctets frame := by
  intro offset left right _
  obtain ⟨service, fits⟩ := encodable
  have addInfo := valid_add_info valid present
  have same : cemiOctets (left (stalePosition offset frame)) frame =
      cemiOctets (right (stalePosition offset frame)) frame := by
    rw [cemiOctets, cemiOctets, ldataOctets, ldataOctets,
      tpduOctets_of_payload valid.payload carries]
  have length := length_cemiOctets (left (stalePosition offset frame)) addInfo fits valid.payload
  rw [cemi_generate_eq _ _ _ service addInfo fits, cemi_generate_eq _ _ _ service addInfo fits]
  simp only [Buffer.memory_fresh, ← same]
  constructor
  · intro index inside
    rw [cemiLength, ← length] at inside
    rw [Buffer.memory_storeBlock_inside _ _ _ _ inside,
      Buffer.memory_storeBlock_inside _ _ _ _ inside]
  · exact congrArg BitVec.toNat (Buffer.memory_storeBlock_second _ _ _ _ _)

/-- A pointer that is NULL is skipped, and the length octet says zero. -/
theorem null_add_info_not_counted (encodable : Encodable frame)
    (some : frame.addInfoLength ≠ 0) (null : frame.addInfo = none) : ¬ NoStaleOctets frame := by
  intro clean
  obtain ⟨service, fits⟩ := encodable
  have generated : knxCemiGenerate (Buffer.fresh fun _ => 0) 0 frame = knxLdataGenerate
      (((Buffer.fresh fun _ => 0).store 0 (BitVec.ofNat 8 frame.service)).store 1 0)
      (0 + (knxCemiHeaderSize + frame.addInfoLength.toNat)) frame.ldata := by
    unfold knxCemiGenerate
    rw [null]
    simp only [Option.isSome_none, Bool.false_eq_true, and_false, if_false, if_pos service]
  have counted := (clean 0 (fun _ => 0) (fun _ => 0) (by
    rw [generated, ldata_generate_eq _ _ _ fits])).2
  rw [generated, ldata_generate_eq _ _ _ fits] at counted
  simp only [Nat.zero_add] at counted
  rw [Buffer.memory_storeBlock_outside _ _ _ _ (.inl (by rw [knxCemiHeaderSize]; omega)),
    Buffer.memory_store, if_pos rfl] at counted
  exact some (BitVec.eq_of_toNat_eq counted.symm)

theorem withApci_ne (apci : Nat) : withApci apci 0 ≠ withApci apci 1 := by
  have two : apci &&& 3 < 4 := Nat.lt_of_le_of_lt Nat.and_le_right (by decide)
  have differ : ∀ bits < 4, (0 : Byte) &&& 63#8 ||| BitVec.ofNat 8 (bits <<< 6) ≠
      (1 : Byte) &&& 63#8 ||| BitVec.ofNat 8 (bits <<< 6) := by decide
  exact differ _ two

/-- Without a payload the second TPDU octet keeps six bits of the buffer. -/
theorem empty_payload_keeps_octet (valid : ValidPointers frame) (encodable : Encodable frame)
    (present : frame.addInfoLength = 0 ∨ frame.addInfo.isSome)
    (empty : EmptyPayload frame.ldata.tpdu) : ¬ NoStaleOctets frame := by
  intro clean
  obtain ⟨service, fits⟩ := encodable
  have addInfo := valid_add_info valid present
  have kept : ∀ memory : Nat → Byte,
      (knxCemiGenerate (Buffer.fresh memory) 0 frame).1.memory (stalePosition 0 frame) =
        withApci frame.ldata.tpdu.apci (memory (stalePosition 0 frame)) := by
    intro memory
    have split : cemiOctets (memory (stalePosition 0 frame)) frame =
        (cemiHead frame ++ ldataHead frame.ldata ++
          [tpciOctet frame.ldata.tpdu ||| BitVec.ofNat 8 (frame.ldata.tpdu.apci >>> 2 &&& 3)]) ++
          [withApci frame.ldata.tpdu.apci (memory (stalePosition 0 frame))] := by
      rw [cemiOctets, ldataOctets, tpduOctets, if_pos empty.1, octetsBehind, empty.2,
        List.take_zero]
      simp only [apduOctets, List.append_assoc, List.cons_append, List.nil_append]
    have front : (cemiHead frame ++ ldataHead frame.ldata ++
        [tpciOctet frame.ldata.tpdu |||
          BitVec.ofNat 8 (frame.ldata.tpdu.apci >>> 2 &&& 3)]).length =
          stalePosition 0 frame := by
      rw [List.length_append, List.length_append, length_cemiHead addInfo, stalePosition]
      change _ + 7 + 1 = _
      omega
    rw [cemi_generate_eq _ _ _ service addInfo fits, Buffer.memory_fresh, split,
      Buffer.storeBlock_append, front, Nat.zero_add]
    exact Buffer.memory_storeBlock_first _ _ _ _
  have size : knxTpduSize frame.ldata.tpdu = 2 := by
    rw [knxTpduSize, if_pos empty.1, empty.2]
    rfl
  have inside : stalePosition 0 frame < cemiLength frame := by
    rw [stalePosition, cemiLength, size]
    omega
  have same := (clean 0 (fun _ => 0) (fun _ => 1)
    (by rw [cemi_generate_eq _ _ _ service addInfo fits])).1 _ inside
  rw [Nat.zero_add, kept, kept] at same
  exact withApci_ne _ same

/-- Generated frames take nothing from the buffer exactly where the generator refuses, or
the additional information is there and a data TPDU carries a payload. -/
theorem no_stale_octets_iff (frame : KnxCemi (List Byte)) (valid : ValidPointers frame) :
    NoStaleOctets frame ↔
      ¬ Encodable frame ∨
        ((frame.addInfoLength = 0 ∨ frame.addInfo.isSome) ∧ ¬ EmptyPayload frame.ldata.tpdu) := by
  by_cases encodable : Encodable frame
  · by_cases present : frame.addInfoLength = 0 ∨ frame.addInfo.isSome
    · by_cases empty : EmptyPayload frame.ldata.tpdu
      · apply iff_of_false (empty_payload_keeps_octet valid encodable present empty)
        intro condition
        cases condition with
        | inl refused => exact refused encodable
        | inr stored => exact stored.2 empty
      · exact iff_of_true (no_stale_octets valid encodable present empty) (.inr ⟨present, empty⟩)
    · obtain ⟨some, null⟩ := not_or.mp present
      apply iff_of_false (null_add_info_not_counted encodable some
        (Option.not_isSome_iff_eq_none.mp null))
      intro condition
      cases condition with
      | inl refused => exact refused encodable
      | inr stored => exact present stored.1
  · refine iff_of_true ?_ (.inl encodable)
    intro offset left right generated
    rw [refused_of_not_encodable encodable] at generated
    cases generated

end Frame

/-- A read request for a group address: a data TPDU without payload. -/
def groupRead : KnxCemi (List Byte) where
  service := knxCemiLdataReq
  ldata := { source := 0xfff1, destination := 0x0a04, addressType := 1, hops := 6 }

theorem group_read_valid : ValidPointers groupRead where
  addInfo := fun _ pointer => by cases pointer
  payload := fun _ => Nat.zero_le _

theorem group_read_encodable : Encodable groupRead := by
  unfold Encodable TpduFits
  decide

theorem group_read_keeps_stale_octet :
    ¬ ∀ frame : KnxCemi (List Byte), ValidPointers frame → NoStaleOctets frame := by
  intro always
  exact empty_payload_keeps_octet group_read_valid group_read_encodable (.inl rfl)
    ⟨rfl, rfl⟩ (always groupRead group_read_valid)

theorem no_stale_octets_witness :
    NoStaleOctets groupRead ↔
      ¬ Encodable groupRead ∨ ((groupRead.addInfoLength = 0 ∨ groupRead.addInfo.isSome) ∧
        ¬ EmptyPayload groupRead.ldata.tpdu) :=
  no_stale_octets_iff groupRead group_read_valid

end KnxDemo.KnxStaleOctets
