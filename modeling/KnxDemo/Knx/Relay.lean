import KnxDemo.Knx.FrameFields

/-!
# Received frames sent again

`knx_ldata_duplicate` copies a parsed frame together with the payload it points
at, so that the receive buffer can be reused. Generating the copy gives back the
octets of any accepted frame, but for the two top bits of the first control
octet, which are not parsed, and what follows a control TPDU.
-/

namespace KnxDemo.Relay

open KnxDemo.Bytes KnxDemo.KnxProto KnxDemo.KnxGenerate KnxDemo.KnxLayout KnxDemo.KnxParse
open KnxDemo.KnxFrameFields KnxDemo.Interaction KnxDemo.Interaction.Loader

def withPayload (data : KnxLdata Nat) (payload : Option (List Byte)) : KnxLdata (List Byte) where
  priority := data.priority
  repeatFlag := data.repeatFlag
  systemBroadcast := data.systemBroadcast
  requestAck := data.requestAck
  error := data.error
  addressType := data.addressType
  hops := data.hops
  source := data.source
  destination := data.destination
  tpdu := {
    tpci := data.tpdu.tpci
    seqNumber := data.tpdu.seqNumber
    control := data.tpdu.control
    apci := data.tpdu.apci
    payload
    length := data.tpdu.length }

def maskFirst : List Byte → List Byte
  | [] => []
  | octet :: rest => (octet &&& 63) :: rest

def parsedPayload (memory : Nat → Byte) (tpdu : KnxTpdu Nat) : List Byte :=
  match tpdu.payload with
  | some source => Buffer.contents memory source tpdu.length
  | none => []

def knxLdataDuplicate (memory : Nat → Byte) (data : KnxLdata Nat) : Option (KnxLdata (List Byte)) :=
  if isData data.tpdu.tpci then
    some (withPayload data (some (maskFirst (parsedPayload memory data.tpdu))))
  else if isControl data.tpdu.tpci then some (withPayload data none)
  else none

/-! ## Octets that are parsed and packed again -/

theorem first_tpdu_octet_again : ∀ first : Byte,
    first.toNat >>> 6 &&& 3 < 4 ∧
      (BitVec.ofNat 8 (((first.toNat >>> 6 &&& 3) &&& 3) <<< 6 |||
        ((first >>> 2 &&& 15#8).toNat &&& 15) <<< 2) ||| BitVec.ofNat 8 (first.toNat &&& 3 &&& 3)) =
        first := by
  decide +kernel

theorem split_apci_again : ∀ low : Fin 4, ∀ first : Byte,
    ((first.toNat <<< 2 &&& 12) ||| low.val) >>> 2 &&& 3 = first.toNat &&& 3 &&& 3 ∧
      ((first.toNat <<< 2 &&& 12) ||| low.val) &&& 3 = low := by
  decide +kernel

theorem second_tpdu_octet_again : ∀ second : Byte,
    second &&& 63 &&& 63 ||| BitVec.ofNat 8 ((second.toNat >>> 6 &&& 3) <<< 6) = second := by
  decide +kernel

theorem first_control_octet_again : ∀ (brief : Bool) (octet : Byte),
    BitVec.ofNat 8 (bit brief <<< 7 ||| notBit (decide (octet.toNat >>> 5 &&& 1 = 0)) <<< 5
      ||| notBit (decide (octet.toNat >>> 4 &&& 1 = 0)) <<< 4
      ||| (octet.toNat >>> 2 &&& 3 &&& 3) <<< 2
      ||| bit (decide (octet.toNat >>> 1 &&& 1 ≠ 0)) <<< 1
      ||| bit (decide (octet.toNat &&& 1 ≠ 0))) =
      octet &&& 63 ||| if brief then 128 else 0 := by
  decide +kernel

theorem second_control_octet_again : ∀ octet : Byte, octet.toNat &&& 15 = 0 →
    BitVec.ofNat 8 ((octet.toNat >>> 7 &&& 1 &&& 1) <<< 7 |||
      ((BitVec.ofNat 4 (octet.toNat >>> 4 &&& 7)).toNat &&& 7) <<< 4) = octet := by
  decide +kernel

/-! ## Frames that are parsed and generated again -/

def relayedSize (memory : Nat → Byte) (buffer : Nat) : Nat :=
  if isControl ((memory (buffer + 7)).toNat >>> 6 &&& 3) then 1 else (memory (buffer + 6)).toNat + 1

def relayedOctets (memory : Nat → Byte) (buffer : Nat) : List Byte :=
  let size := relayedSize memory buffer
  (memory buffer &&& 63 ||| if size ≤ 16 then 128 else 0) ::
    (Buffer.contents memory (buffer + 1) 5 ++
      BitVec.ofNat 8 (size - 1) :: Buffer.contents memory (buffer + 7) size)

theorem contents_succ (memory : Nat → Byte) (offset count : Nat) :
    Buffer.contents memory offset (count + 1) =
      memory offset :: Buffer.contents memory (offset + 1) count := by
  rw [Buffer.contents, List.range_succ_eq_map, List.map_cons, List.map_map]
  apply congrArg (memory offset :: ·)
  apply List.map_congr_left
  intro index _
  exact congrArg memory (show offset + (index + 1) = offset + 1 + index by omega)

theorem data_tpdu_again (memory : Nat → Byte) (message length : Nat) (stale : Byte)
    (info : KnxTpdu (List Byte)) (data : isData info.tpci)
    (tpci : info.tpci = (memory message).toNat >>> 6 &&& 3)
    (seqNumber : info.seqNumber = memory message >>> 2 &&& 15#8)
    (apci : info.apci =
      ((memory message).toNat <<< 2 &&& 12) ||| ((memory (message + 1)).toNat >>> 6 &&& 3))
    (payload : info.payload =
      some (maskFirst (Buffer.contents memory (message + 1) (length + 1))))
    (sized : info.length = length + 1) :
    tpduOctets stale info = Buffer.contents memory message (length + 2) := by
  have low : (memory (message + 1)).toNat >>> 6 &&& 3 < 4 := Nat.lt_succ_of_le Nat.and_le_right
  obtain ⟨high, rest⟩ :=
    split_apci_again ⟨(memory (message + 1)).toNat >>> 6 &&& 3, low⟩ (memory message)
  have behind : octetsBehind info.payload info.length =
      (memory (message + 1) &&& 63) :: Buffer.contents memory (message + 1 + 1) length := by
    rw [octetsBehind, payload, sized, Option.getD_some, contents_succ, maskFirst,
      List.take_of_length_le (by simp)]
  have first := (first_tpdu_octet_again (memory message)).2
  have second := second_tpdu_octet_again (memory (message + 1))
  rw [tpduOctets, if_pos data, behind, apduOctets, tpciOctet, tpci, seqNumber, apci, high,
    withApci, rest, contents_succ, contents_succ]
  exact congrArg₂ List.cons first (congrArg (· :: _) second)

theorem control_tpdu_again (memory : Nat → Byte) (message : Nat) (stale : Byte)
    (info : KnxTpdu (List Byte)) (control : isControl info.tpci) (other : ¬ isData info.tpci)
    (tpci : info.tpci = (memory message).toNat >>> 6 &&& 3)
    (seqNumber : info.seqNumber = memory message >>> 2 &&& 15#8)
    (code : info.control = (memory message).toNat &&& 3) :
    tpduOctets stale info = Buffer.contents memory message 1 := by
  have first := (first_tpdu_octet_again (memory message)).2
  rw [tpduOctets, if_neg other, if_pos control, tpciOctet, tpci, seqNumber, code, first]
  rfl

theorem tpdu_again {memory : Nat → Byte} {buffer : Nat} {old : KnxTpdu Nat} {parsed : KnxLdata Nat}
    (accepted : eval memory (knxTpduParse (buffer + 7) ((memory (buffer + 6)).toNat + 1) old) =
      (true, parsed.tpdu)) :
    ∃ copy, knxLdataDuplicate memory parsed = some copy ∧
      (∃ payload, copy = withPayload parsed payload) ∧
      knxTpduSize copy.tpdu = relayedSize memory buffer ∧
      ∀ stale, tpduOctets stale copy.tpdu =
        Buffer.contents memory (buffer + 7) (relayedSize memory buffer) := by
  have known := (first_tpdu_octet_again (memory (buffer + 7))).1
  simp only [knxTpduParse, eval_ite, eval_bind, eval_load, eval_pure] at accepted
  rw [if_neg (Nat.succ_ne_zero _)] at accepted
  unfold relayedSize
  rcases data_or_control (Nat.le_of_lt_succ known) with ⟨data, other⟩ | ⟨control, other⟩
  · rw [if_neg (by rwa [← isControl_iff])] at accepted
    split_ifs at accepted with short
    · cases accepted
    · have tpdu := (Prod.mk.inj accepted).2
      obtain ⟨length, announced⟩ : ∃ length, (memory (buffer + 6)).toNat = length + 1 :=
        ⟨(memory (buffer + 6)).toNat - 1, by omega⟩
      rw [announced, Nat.add_sub_cancel] at tpdu
      have tpci : parsed.tpdu.tpci = (memory (buffer + 7)).toNat >>> 6 &&& 3 := by rw [← tpdu]
      have isdata : isData parsed.tpdu.tpci := by rwa [tpci]
      refine ⟨_, by rw [knxLdataDuplicate, if_pos isdata], ⟨_, rfl⟩, ?_, fun stale => ?_⟩
      · rw [if_neg other, announced, knxTpduSize]
        simp only [withPayload, ← tpdu]
        split_ifs <;> omega
      · rw [if_neg other, announced]
        apply data_tpdu_again memory (buffer + 7) length stale _ isdata tpci
        · simp only [withPayload, ← tpdu]
        · simp only [withPayload, ← tpdu]
        · simp only [withPayload, parsedPayload, ← tpdu]
        · simp only [withPayload, ← tpdu]
  · rw [if_pos ((isControl_iff _).mp control)] at accepted
    have tpdu := (Prod.mk.inj accepted).2
    have tpci : parsed.tpdu.tpci = (memory (buffer + 7)).toNat >>> 6 &&& 3 := by rw [← tpdu]
    have notData : ¬ isData parsed.tpdu.tpci := by rwa [tpci]
    have iscontrol : isControl parsed.tpdu.tpci := by rwa [tpci]
    refine ⟨_, by rw [knxLdataDuplicate, if_neg notData, if_pos iscontrol], ⟨_, rfl⟩, ?_,
      fun stale => ?_⟩
    · rw [if_pos control]
      exact size_of_control iscontrol notData
    · rw [if_pos control]
      apply control_tpdu_again memory (buffer + 7) stale _ iscontrol notData tpci
      · simp only [withPayload, ← tpdu]
      · simp only [withPayload, ← tpdu]

theorem ldata_again {memory : Nat → Byte} {buffer bufferLength : Nat} {old parsed : KnxLdata Nat}
    (accepted : eval memory (knxLdataParse buffer bufferLength old) = (true, parsed)) :
    ∃ copy, knxLdataDuplicate memory parsed = some copy ∧ TpduFits copy.tpdu ∧
      ∀ stale, ldataOctets stale copy = relayedOctets memory buffer := by
  simp only [knxLdataParse, eval_ite, eval_bind, eval_load, eval_pure] at accepted
  split_ifs at accepted with short reserved long
  · exact absurd (Prod.mk.inj accepted).1 Bool.false_ne_true
  · exact absurd (Prod.mk.inj accepted).1 Bool.false_ne_true
  · exact absurd (Prod.mk.inj accepted).1 Bool.false_ne_true
  · obtain ⟨ok, fields⟩ := Prod.mk.inj accepted
    have tpdu := congrArg KnxLdata.tpdu fields
    obtain ⟨copy, duplicated, ⟨payload, copied⟩, size, octets⟩ :=
      tpdu_again (Prod.ext ok tpdu)
    have bound : 1 ≤ relayedSize memory buffer ∧ relayedSize memory buffer ≤ 256 := by
      have announced := (memory (buffer + 6)).isLt
      unfold relayedSize
      split_ifs <;> omega
    refine ⟨copy, duplicated, by rwa [TpduFits, size], fun stale => ?_⟩
    have first := first_control_octet_again (relayedSize memory buffer ≤ 16) (memory buffer)
    have second := second_control_octet_again (memory (buffer + 1)) (not_not.mp reserved)
    simp only [decide_eq_true_eq] at first
    rw [ldataOctets, octets, ldataHead, size, relayedOctets, copied, withPayload, ← fields]
    simp only [first, second, highByte_word, lowByte_word, contents_succ, Nat.add_assoc]
    rfl

/-- Any accepted frame, copied out of the receive buffer and generated anywhere, is sent as it was
received, with the top bits of its first octet made canonical; a control frame loses what follows
its TPDU, and its length octet becomes zero. -/
theorem relay_is_faithful (memory : Nat → Byte) (buffer bufferLength : Nat)
    (old parsed : KnxLdata Nat)
    (accepted : eval memory (knxLdataParse buffer bufferLength old) = (true, parsed)) :
    ∃ copy, knxLdataDuplicate memory parsed = some copy ∧
      ∀ (target : Buffer Byte) (offset : Nat),
        knxLdataGenerate target offset copy =
          (target.storeBlock offset (relayedOctets memory buffer), true) := by
  obtain ⟨copy, duplicated, fits, octets⟩ := ldata_again accepted
  refine ⟨copy, duplicated, fun target offset => ?_⟩
  rw [ldata_generate_eq target offset copy fits, octets]

def receivedWrite (index : Nat) : Byte :=
  ([0xbc, 0xe0, 0x11, 0x04, 0x0a, 0x04, 0x01, 0x00, 0x81] : List Byte)[index]?.getD 0

theorem relay_is_faithful_received_write :
    ∃ copy, knxLdataDuplicate receivedWrite
        (eval receivedWrite (knxLdataParse 0 9 {})).2 = some copy ∧
      ∀ (target : Buffer Byte) (offset : Nat),
        knxLdataGenerate target offset copy =
          (target.storeBlock offset (relayedOctets receivedWrite 0), true) :=
  relay_is_faithful receivedWrite 0 9 {} _ (Prod.ext rfl rfl)

end KnxDemo.Relay
