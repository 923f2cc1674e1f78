import KnxDemo.Knx.Fields
import KnxDemo.Knx.Packet

/-!
# Reading generated frames back

The control octets of a frame and the first two octets of a TPDU pack several
fields. They have so few values that checking them all decides how they read
back. Pointers of a parsed frame are compared by the octets they lead to.
-/

namespace KnxDemo.KnxFrameFields

open KnxDemo.Bytes KnxDemo.KnxProto KnxDemo.KnxGenerate KnxDemo.KnxLayout
open KnxDemo.KnxPacketLayout KnxDemo.KnxParse KnxDemo.KnxParsing KnxDemo.KnxFields
open KnxDemo.Interaction KnxDemo.Interaction.Loader

/-! ## Packed octets -/

theorem first_tpdu_octet : ∀ (tpci : Fin 4) (seqNumber : Fin 16) (low : Fin 4),
    let octet := BitVec.ofNat 8 ((tpci.val &&& 3) <<< 6 ||| (seqNumber.val &&& 15) <<< 2) |||
      BitVec.ofNat 8 low
    octet.toNat >>> 6 &&& 3 = tpci ∧ (octet >>> 2 &&& 15#8).toNat = seqNumber ∧
      octet.toNat &&& 3 = low := by
  decide +kernel

theorem high_apci_bits : ∀ first : Fin 256,
    first.val <<< 2 &&& 12 = (first.val &&& 3) <<< 2 := by
  decide +kernel

theorem low_apci_bits : ∀ (low : Fin 4) (second : Fin 256),
    (BitVec.ofFin second &&& 63#8 ||| BitVec.ofNat 8 (low.val <<< 6)).toNat >>> 6 &&& 3 = low := by
  decide +kernel

theorem apci_bits : ∀ apci : Fin 16,
    (apci.val >>> 2 &&& 3) <<< 2 ||| (apci.val &&& 3) = apci := by
  decide +kernel

theorem joined_apci {apci : Nat} (small : apci ≤ 15) {first : Byte} (octet : Byte)
    (low : first.toNat &&& 3 = apci >>> 2 &&& 3) :
    (first.toNat <<< 2 &&& 12) ||| ((withApci apci octet).toNat >>> 6 &&& 3) = apci := by
  have bound : apci &&& 3 < 4 := Nat.lt_succ_of_le Nat.and_le_right
  have second : (withApci apci octet).toNat >>> 6 &&& 3 = apci &&& 3 :=
    low_apci_bits ⟨apci &&& 3, bound⟩ octet.toFin
  have high : first.toNat <<< 2 &&& 12 = (first.toNat &&& 3) <<< 2 := high_apci_bits first.toFin
  rw [high, low, second]
  exact apci_bits ⟨apci, Nat.lt_succ_of_le small⟩

theorem first_control_octet : ∀ (brief repeatFlag systemBroadcast requestAck error : Bool)
    (priority : Fin 4),
    let octet := (BitVec.ofNat 8 (bit brief <<< 7 ||| notBit repeatFlag <<< 5
      ||| notBit systemBroadcast <<< 4 ||| (priority.val &&& 3) <<< 2
      ||| bit requestAck <<< 1 ||| bit error)).toNat
    decide (octet >>> 5 &&& 1 = 0) = repeatFlag ∧
      decide (octet >>> 4 &&& 1 = 0) = systemBroadcast ∧
      octet >>> 2 &&& 3 = priority ∧
      decide (octet >>> 1 &&& 1 ≠ 0) = requestAck ∧
      decide (octet &&& 1 ≠ 0) = error := by
  decide +kernel

theorem second_control_octet : ∀ (addressType : Fin 2) (hops : Fin 8),
    let octet := (BitVec.ofNat 8 ((addressType.val &&& 1) <<< 7 ||| (hops.val &&& 7) <<< 4)).toNat
    octet &&& 15 = 0 ∧ octet >>> 7 &&& 1 = addressType ∧ octet >>> 4 &&& 7 = hops := by
  decide +kernel

/-! ## TPDU -/

structure EncodableTpdu (info : KnxTpdu (List Byte)) : Prop where
  tpci : info.tpci ≤ 3
  seqNumber : info.seqNumber.toNat ≤ 15
  control : isControl info.tpci → info.control ≤ 3
  apci : isData info.tpci → info.apci ≤ 15
  length : isData info.tpci → 1 ≤ info.length ∧ info.length ≤ 255
  payload : ValidPayload info

/-- A parsed TPDU carries what the generator was given. In the first payload octet
the two top bits are the low APCI bits. -/
structure SameTpdu (memory : Nat → Byte) (parsed : KnxTpdu Nat) (info : KnxTpdu (List Byte)) :
    Prop where
  tpci : parsed.tpci = info.tpci
  seqNumber : parsed.seqNumber = info.seqNumber
  control : isControl info.tpci → parsed.control = info.control
  apci : isData info.tpci → parsed.apci = info.apci
  length : isData info.tpci → parsed.length = info.length
  payload : isData info.tpci →
    ∃ source octet rest, parsed.payload = some source ∧
      octetsBehind info.payload info.length = octet :: rest ∧
      Buffer.Holds memory source (withApci info.apci octet :: rest)

theorem data_or_control {tpci : Nat} (known : tpci ≤ 3) :
    isData tpci ∧ ¬ isControl tpci ∨ isControl tpci ∧ ¬ isData tpci := by
  have cases : ∀ code : Fin 4,
      isData code ∧ ¬ isControl code ∨ isControl code ∧ ¬ isData code := by decide
  exact cases ⟨tpci, Nat.lt_succ_of_le known⟩

theorem isControl_iff (tpci : Nat) :
    isControl tpci ↔ tpci = knxTpciUnnumberedControl ∨ tpci = knxTpciNumberedControl := by
  simp [isControl]

theorem size_of_control {info : KnxTpdu (List Byte)} (control : isControl info.tpci)
    (other : ¬ isData info.tpci) : knxTpduSize info = 1 := by
  simp only [knxTpduSize, if_neg other, if_pos control]

section Tpdu

variable {info : KnxTpdu (List Byte)} (encodable : EncodableTpdu info)

include encodable

theorem EncodableTpdu.size_of_data (data : isData info.tpci) :
    knxTpduSize info = info.length + 1 := by
  have length := encodable.length data
  simp only [knxTpduSize, if_pos data]
  split_ifs <;> omega

theorem EncodableTpdu.fits : TpduFits info := by
  rcases data_or_control encodable.tpci with ⟨data, _⟩ | ⟨control, other⟩
  · have length := encodable.length data
    have size := encodable.size_of_data data
    exact ⟨by omega, by omega⟩
  · have size := size_of_control control other
    exact ⟨by omega, by omega⟩

theorem EncodableTpdu.payload_octets (data : isData info.tpci) :
    ∃ octet rest, octetsBehind info.payload info.length = octet :: rest := by
  have enough := encodable.payload data
  have nonempty := (encodable.length data).1
  apply List.exists_cons_of_length_pos
  rw [octetsBehind, List.length_take]
  omega

theorem EncodableTpdu.first_octet (low : Nat) (small : low ≤ 3) {first : Byte}
    (octet : first = tpciOctet info ||| BitVec.ofNat 8 low) :
    first.toNat >>> 6 &&& 3 = info.tpci ∧ first >>> 2 &&& 15#8 = info.seqNumber ∧
      first.toNat &&& 3 = low := by
  have fields := first_tpdu_octet ⟨info.tpci, Nat.lt_succ_of_le encodable.tpci⟩
    ⟨info.seqNumber.toNat, Nat.lt_succ_of_le encodable.seqNumber⟩ ⟨low, Nat.lt_succ_of_le small⟩
  rw [octet]
  exact ⟨fields.1, BitVec.eq_of_toNat_eq fields.2.1, fields.2.2⟩

theorem parse_tpdu {memory : Nat → Byte} {message : Nat} {stale : Byte}
    (held : Buffer.Holds memory message (tpduOctets stale info)) (old : KnxTpdu Nat) :
    ∃ parsed, eval memory (knxTpduParse message (knxTpduSize info) old) = (true, parsed) ∧
      SameTpdu memory parsed info := by
  unfold tpduOctets at held
  simp only [knxTpduParse, eval_ite, eval_bind, eval_load, eval_pure]
  rcases data_or_control encodable.tpci with ⟨data, other⟩ | ⟨control, other⟩
  · obtain ⟨octet, rest, octets⟩ := encodable.payload_octets data
    simp only [if_pos data, octets] at held
    rcases held with ⟨first, payload⟩
    have length := encodable.length data
    have low : info.apci >>> 2 &&& 3 ≤ 3 := Nat.and_le_right
    obtain ⟨tpci, seqNumber, lowBits⟩ := encodable.first_octet _ low first
    have apci := joined_apci (encodable.apci data) octet lowBits
    rw [isControl_iff] at other
    rw [encodable.size_of_data data, if_neg (Nat.succ_ne_zero _), tpci, if_neg other,
      if_neg (by omega), seqNumber, payload.1, apci]
    refine ⟨_, rfl, rfl, rfl, ?_, fun _ => rfl, fun _ => rfl, fun _ => ?_⟩
    · exact fun control => absurd ((isControl_iff _).mp control) other
    · exact ⟨_, _, _, rfl, octets, payload⟩
  · simp only [if_neg other, if_pos control] at held
    rcases held with ⟨first, _⟩
    have code := encodable.control control
    have masked : info.control &&& 3 = info.control := by
      have masks := Nat.and_two_pow_sub_one_eq_mod info.control 2
      simp only [Nat.reducePow, Nat.reduceSub] at masks
      omega
    rw [masked] at first
    obtain ⟨tpci, seqNumber, controlBits⟩ := encodable.first_octet _ code first
    rw [size_of_control control other, if_neg (by decide), tpci,
      if_pos ((isControl_iff _).mp control), seqNumber, controlBits]
    exact ⟨_, rfl, rfl, rfl, fun _ => rfl, fun data => absurd data other,
      fun data => absurd data other, fun data => absurd data other⟩

end Tpdu

/-! ## L_Data -/

structure EncodableLdata (req : KnxLdata (List Byte)) : Prop where
  priority : req.priority ≤ 3
  addressType : req.addressType ≤ 1
  hops : req.hops.toNat ≤ 7
  tpdu : EncodableTpdu req.tpdu

structure SameLdata (memory : Nat → Byte) (parsed : KnxLdata Nat) (req : KnxLdata (List Byte)) :
    Prop where
  priority : parsed.priority = req.priority
  repeatFlag : parsed.repeatFlag = req.repeatFlag
  systemBroadcast : parsed.systemBroadcast = req.systemBroadcast
  requestAck : parsed.requestAck = req.requestAck
  error : parsed.error = req.error
  addressType : parsed.addressType = req.addressType
  hops : parsed.hops = req.hops
  source : parsed.source = req.source
  destination : parsed.destination = req.destination
  tpdu : SameTpdu memory parsed.tpdu req.tpdu

theorem length_octet {info : KnxTpdu (List Byte)} (fits : TpduFits info) :
    (BitVec.ofNat 8 (knxTpduSize info - 1)).toNat + 1 = knxTpduSize info := by
  rcases fits with ⟨nonempty, bounded⟩
  rw [BitVec.toNat_ofNat]
  omega

theorem parse_ldata {memory : Nat → Byte} {buffer : Nat} {stale : Byte}
    {req : KnxLdata (List Byte)} (encodable : EncodableLdata req)
    (held : Buffer.Holds memory buffer (ldataOctets stale req)) (bufferLength : Nat)
    (long : 7 + knxTpduSize req.tpdu ≤ bufferLength) (old : KnxLdata Nat) :
    ∃ parsed, eval memory (knxLdataParse buffer bufferLength old) = (true, parsed) ∧
      SameLdata memory parsed req := by
  have fits := encodable.tpdu.fits
  have announced := length_octet fits
  rw [ldataOctets, Buffer.holds_append] at held
  rcases held with ⟨⟨control1, control2, sourceHigh, sourceLow, destinationHigh, destinationLow,
    lengthOctet, _⟩, tpduHeld⟩
  rcases first_control_octet (knxTpduSize req.tpdu ≤ 16) req.repeatFlag req.systemBroadcast
    req.requestAck req.error ⟨req.priority, Nat.lt_succ_of_le encodable.priority⟩ with
      ⟨repeatFlag, systemBroadcast, priority, requestAck, error⟩
  rcases second_control_octet ⟨req.addressType, Nat.lt_succ_of_le encodable.addressType⟩
    ⟨req.hops.toNat, Nat.lt_succ_of_le encodable.hops⟩ with ⟨reserved, addressType, hops⟩
  rw [← control1] at repeatFlag systemBroadcast priority requestAck error
  rw [← control2] at reserved addressType hops
  have hopsField : BitVec.ofNat 4 ((memory (buffer + 1)).toNat >>> 4 &&& 7) = req.hops := by
    rw [hops]
    simp only [BitVec.ofNat_toNat, BitVec.setWidth_eq]
  have lengthAt : (memory (buffer + 6)).toNat + 1 = knxTpduSize req.tpdu := by
    rwa [← lengthOctet] at announced
  have sourceField : word (memory (buffer + 2)) (memory (buffer + 3)) = req.source :=
    (congrArg₂ word sourceHigh sourceLow).trans (word_highByte_lowByte _)
  have destinationField : word (memory (buffer + 4)) (memory (buffer + 5)) = req.destination :=
    (congrArg₂ word destinationHigh destinationLow).trans (word_highByte_lowByte _)
  obtain ⟨tpdu, parsed, same⟩ := parse_tpdu encodable.tpdu tpduHeld old.tpdu
  have tpduParsed : eval memory (knxTpduParse (buffer + 7) ((memory (buffer + 6)).toNat + 1)
      old.tpdu) = (true, tpdu) := by
    rw [lengthAt]
    exact parsed
  simp only [knxLdataParse, eval_ite, eval_bind, eval_load, eval_pure]
  rw [if_neg (by omega), if_neg (not_not.mpr reserved), if_neg (by omega), tpduParsed]
  exact ⟨_, rfl, priority, repeatFlag, systemBroadcast, requestAck, error, addressType, hopsField,
    sourceField, destinationField, same⟩

/-! ## cEMI -/

structure EncodableCemi (frame : KnxCemi (List Byte)) : Prop where
  service : isLdata frame.service
  addInfo : ValidAddInfo frame
  ldata : EncodableLdata frame.ldata

structure SameCemi (memory : Nat → Byte) (parsed : KnxCemi Nat) (frame : KnxCemi (List Byte)) :
    Prop where
  service : parsed.service = frame.service
  addInfoLength : parsed.addInfoLength = frame.addInfoLength
  addInfo : ∃ source, parsed.addInfo = some source ∧
    Buffer.Holds memory source (octetsBehind frame.addInfo frame.addInfoLength.toNat)
  ldata : SameLdata memory parsed.ldata frame.ldata

theorem EncodableCemi.valid {frame : KnxCemi (List Byte)} (encodable : EncodableCemi frame) :
    ValidCemi frame where
  service := encodable.service
  addInfo := encodable.addInfo
  payload := encodable.ldata.tpdu.payload
  fits := encodable.ldata.tpdu.fits

theorem isLdata_iff (service : Nat) :
    isLdata service ↔ service = knxCemiLdataInd ∨ service = knxCemiLdataReq ∨
      service = knxCemiLdataCon := by
  simp [isLdata, or_assoc]

theorem toNat_service_octet {service : Nat} (ldata : isLdata service) :
    (BitVec.ofNat 8 service).toNat = service := by
  rcases (isLdata_iff service).mp ldata with rfl | rfl | rfl
  · rfl
  · rfl
  · rfl

theorem parse_cemi {memory : Nat → Byte} {message : Nat} {stale : Byte}
    {frame : KnxCemi (List Byte)} (encodable : EncodableCemi frame)
    (held : Buffer.Holds memory message (cemiOctets stale frame)) (messageLength : Nat)
    (long : (cemiOctets stale frame).length ≤ messageLength) (old : KnxCemi Nat) :
    ∃ parsed, eval memory (knxCemiParse message messageLength old) = (true, parsed) ∧
      SameCemi memory parsed frame := by
  have valid := encodable.valid
  rw [length_cemiOctets stale valid.addInfo valid.fits valid.payload] at long
  rw [cemiOctets, Buffer.holds_append, length_cemiHead valid.addInfo] at held
  rcases held with ⟨⟨service, addInfoLength, addInfo⟩, ldataHeld⟩
  have ldata := (isLdata_iff frame.service).mp encodable.service
  have serviceAt : (memory message).toNat = frame.service := by
    rw [service, toNat_service_octet encodable.service]
  rcases parse_ldata encodable.ldata ldataHeld
    (messageLength - (knxCemiHeaderSize + frame.addInfoLength.toNat)) (by omega) old.ldata with
      ⟨parsed, result, same⟩
  simp only [knxCemiParse, eval_ite, eval_bind, eval_load, eval_pure]
  rw [if_neg (by omega), addInfoLength, if_neg (by omega), serviceAt, if_pos ldata, result]
  exact ⟨_, rfl, rfl, rfl, ⟨_, rfl, addInfo⟩, same⟩

theorem parse_tunnel_request {memory : Nat → Byte} {message : Nat} {stale : Byte}
    {req : KnxTunnelRequest (List Byte)} (encodable : EncodableCemi req.data)
    (held : Buffer.Holds memory message (tunnelRequestOctets stale req)) (messageLength : Nat)
    (long : (tunnelRequestOctets stale req).length ≤ messageLength)
    (old : KnxTunnelRequest Nat) :
    ∃ parsed, eval memory (knxTunnelRequestParse message messageLength old) = (true, parsed) ∧
      parsed.channel = req.channel ∧ parsed.seqNumber = req.seqNumber ∧
      SameCemi memory parsed.data req.data := by
  rw [tunnelRequestOctets, Buffer.holds_append] at held
  rw [tunnelRequestOctets, List.length_append] at long
  simp only [List.length_cons, List.length_nil] at long held
  rcases held with ⟨⟨size, channel, seqNumber, _⟩, cemiHeld⟩
  have structureLength : (memory message).toNat = 4 := congrArg BitVec.toNat size
  obtain ⟨parsed, result, same⟩ :=
    parse_cemi encodable cemiHeld (messageLength - 4) (by omega) old.data
  simp only [knxTunnelRequestParse, eval_ite, eval_bind, eval_load, eval_pure]
  rw [if_neg (by omega), if_neg (not_not.mpr structureLength)]
  rw [result]
  exact ⟨_, rfl, channel, seqNumber, same⟩

end KnxDemo.KnxFrameFields
