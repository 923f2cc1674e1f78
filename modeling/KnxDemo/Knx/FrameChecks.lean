import KnxDemo.Knx.FrameFields

/-!
# What the frame parsers check

The L_Data parser and the TPDU parser behind it look at three octets before they
accept a frame. Every frame that was encoded passes these checks, zeros do not.
-/

namespace KnxDemo.KnxFrameChecks

open KnxDemo.Bytes KnxDemo.KnxProto KnxDemo.KnxGenerate KnxDemo.KnxLayout KnxDemo.KnxParse
open KnxDemo.KnxFrameFields
open KnxDemo.Interaction KnxDemo.Interaction.Loader

section Checks

variable {memory : Nat → Byte} {message messageLength : Nat} {stale : Byte}

/-- The checks of the L_Data parser and, behind its length octet, of the TPDU parser. -/
structure LdataAccepted (memory : Nat → Byte) (message messageLength : Nat) : Prop where
  long : 8 ≤ messageLength
  reserved : (memory (message + 1)).toNat &&& 15 = 0
  tpduInside : (memory (message + 6)).toNat + 8 ≤ messageLength
  tpdu : isControl ((memory (message + 7)).toNat >>> 6 &&& 3) ∨ 1 ≤ (memory (message + 6)).toNat

theorem ldata_parse_accepts_iff (old : KnxLdata Nat) :
    (eval memory (knxLdataParse message messageLength old)).1 = true ↔
      LdataAccepted memory message messageLength := by
  have control := isControl_iff ((memory (message + 7)).toNat >>> 6 &&& 3)
  simp only [knxLdataParse, knxTpduParse, eval_ite, eval_bind, eval_load, eval_pure]
  rw [if_neg (Nat.succ_ne_zero _)]
  split_ifs with short reserved long wire one
  · exact iff_of_false (by decide) fun accepted => absurd accepted.long (Nat.not_le.mpr short)
  · exact iff_of_false (by decide) fun accepted => reserved accepted.reserved
  · exact iff_of_false (by decide) fun accepted =>
      absurd accepted.tpduInside (Nat.not_le.mpr long)
  · exact iff_of_true rfl
      ⟨by omega, not_not.mp reserved, by omega, .inl (control.mpr wire)⟩
  · refine iff_of_false (by decide) fun accepted => ?_
    cases accepted.tpdu with
    | inl code => exact wire (control.mp code)
    | inr more => omega
  · exact iff_of_true rfl ⟨by omega, not_not.mp reserved, by omega, .inr (by omega)⟩

theorem LdataAccepted.congr {other : Nat → Byte} {position : Nat}
    (accepted : LdataAccepted memory message messageLength)
    (agree : ∀ index < messageLength, other (position + index) = memory (message + index)) :
    LdataAccepted other position messageLength := by
  have long := accepted.long
  constructor
  · exact long
  · rw [agree 1 (by omega)]
    exact accepted.reserved
  · rw [agree 6 (by omega)]
    exact accepted.tpduInside
  · rw [agree 6 (by omega), agree 7 (by omega)]
    exact accepted.tpdu

theorem cemi_parse_accepts_iff {service : Nat} {added : Byte} (known : isLdata service)
    (serviceAt : memory message = BitVec.ofNat 8 service) (addedAt : memory (message + 1) = added)
    (room : knxCemiHeaderSize + added.toNat ≤ messageLength) (old : KnxCemi Nat) :
    (eval memory (knxCemiParse message messageLength old)).1 = true ↔
      LdataAccepted memory (message + (knxCemiHeaderSize + added.toNat))
        (messageLength - (knxCemiHeaderSize + added.toNat)) := by
  have code : (memory message).toNat = service := by
    rw [serviceAt, toNat_service_octet known]
  simp only [knxCemiParse, eval_ite, eval_bind, eval_load, eval_pure, addedAt, code]
  rw [if_neg (by omega), if_neg (by omega), if_pos ((isLdata_iff _).mp known)]
  exact ldata_parse_accepts_iff _

/-- The TPCI read back from the first octet of a control TPDU, whatever its other fields. -/
theorem control_tpci {info : KnxTpdu (List Byte)} (control : isControl info.tpci) {first : Byte}
    (octet : first = tpciOctet info ||| BitVec.ofNat 8 (info.control &&& 3)) :
    first.toNat >>> 6 &&& 3 = info.tpci := by
  have known : info.tpci < 4 := by
    rcases (isControl_iff _).mp control with code | code
    · rw [code]
      decide
    · rw [code]
      decide
  have sequence : info.seqNumber.toNat &&& 15 < 16 := Nat.lt_succ_of_le Nat.and_le_right
  have low : info.control &&& 3 < 4 := Nat.lt_succ_of_le Nat.and_le_right
  have fields := (first_tpdu_octet ⟨info.tpci, known⟩ ⟨_, sequence⟩ ⟨_, low⟩).1
  rw [Nat.and_assoc, Nat.and_self] at fields
  rw [octet]
  exact fields

theorem reserved_bits_clear (addressType : Nat) (hops : BitVec 4) :
    (BitVec.ofNat 8 ((addressType &&& 1) <<< 7 ||| (hops.toNat &&& 7) <<< 4)).toNat &&& 15 = 0 := by
  have type : addressType &&& 1 < 2 := Nat.lt_succ_of_le Nat.and_le_right
  have count : hops.toNat &&& 7 < 8 := Nat.lt_succ_of_le Nat.and_le_right
  have clear := (second_control_octet ⟨_, type⟩ ⟨_, count⟩).1
  rwa [Nat.and_assoc, Nat.and_self, Nat.and_assoc, Nat.and_self] at clear

theorem ldata_octets_accepted {req : KnxLdata (List Byte)} (fits : TpduFits req.tpdu)
    (held : Buffer.Holds memory message (ldataOctets stale req)) :
    LdataAccepted memory message (knxLdataSize req) := by
  have announced := length_octet fits
  have nonempty := fits.1
  rw [ldataOctets, Buffer.holds_append] at held
  obtain ⟨⟨_, control2, _, _, _, _, lengthOctet, _⟩, tpduHeld⟩ := held
  have lengthAt : (memory (message + 6)).toNat + 1 = knxTpduSize req.tpdu := by
    rwa [← lengthOctet] at announced
  constructor
  · exact Nat.le_add_right 8 _
  · rw [control2]
    exact reserved_bits_clear _ _
  · rw [knxLdataSize]
    omega
  · by_cases data : isData req.tpdu.tpci
    · have size : 2 ≤ knxTpduSize req.tpdu := by
        simp only [knxTpduSize, if_pos data]
        split_ifs <;> omega
      exact .inr (by omega)
    · by_cases control : isControl req.tpdu.tpci
      · rw [tpduOctets, if_neg data, if_pos control] at tpduHeld
        have wire := control_tpci control tpduHeld.1
        exact .inl (by rwa [← wire] at control)
      · rw [knxTpduSize, if_neg data, if_neg control] at nonempty
        exact absurd nonempty (by decide)

theorem zeros_not_accepted (length : memory (message + 6) = 0) (tpdu : memory (message + 7) = 0) :
    ¬ LdataAccepted memory message messageLength := by
  intro accepted
  have first := accepted.tpdu
  rw [length, tpdu] at first
  exact absurd first (by decide)

end Checks

end KnxDemo.KnxFrameChecks
