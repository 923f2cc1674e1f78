import KnxDemo.Com.Decoding

/-!
# Where parsing a received packet looks and writes

Two lengths in the packet steer the decoder: the frame size octet and the
declared packet length. Neither is compared with the number of octets received,
so the decoder stays inside them exactly when both lengths happen to fit.
-/

namespace KnxDemo.ComPacketBounds

open KnxDemo.Bytes KnxDemo.ComDefine KnxDemo.ComPack KnxDemo.ComDecoding
open KnxDemo.Interaction KnxDemo.Interaction.Loader

def octetAt (octets : List Byte) (index : Nat) : Byte := octets.getD index 0

/-- `analysisPack`, called on what `recBuff` received, reads received octets only
and stores no more than the caller's `recvBuff[100]` holds. -/
def StaysInside (octets : List Byte) (outside : Int → Byte) : Prop :=
  let memory := receivedMemory 100 octets outside
  (∀ address ∈ footprint memory (analysisPack octets.length),
      0 ≤ address ∧ address < octets.length) ∧
    ∀ stored, (eval memory (analysisPack octets.length)).stored = some stored →
      stored.length ≤ 100

/-- The decoder gives up before it uses a length. -/
def RejectedEarly (octets : List Byte) : Prop :=
  octets.length < 7 ∨ octetAt octets 0 ≠ packStartFlag ∨
    ¬ (octetAt octets 3 = serviceIdRecv ∨ octetAt octets 3 = serviceIdSend) ∨
    (octetAt octets 4).toNat < 7

def LengthsFit (octets : List Byte) : Prop :=
  (octetAt octets 4).toNat + 4 ≤ octets.length ∧
    2 ≤ (word (octetAt octets 1) (octetAt octets 2)).toNat ∧
    (word (octetAt octets 1) (octetAt octets 2)).toNat ≤ octets.length

theorem memory_eq_octetAt (octets : List Byte) (outside : Int → Byte)
    (fits : octets.length ≤ 100) (index : Nat) (inside : index < octets.length) :
    receivedMemory 100 octets outside index = octetAt octets index := by
  rw [(received_receivedMemory 100 octets outside fits).memory_eq index inside, octetAt]
  simp [inside]

theorem rejected_in_memory_iff (octets : List Byte) (outside : Int → Byte)
    (fits : octets.length ≤ 100) :
    ((octets.length : Int) < 7 ∨ receivedMemory 100 octets outside 0 ≠ packStartFlag ∨
        ¬ (receivedMemory 100 octets outside 3 = serviceIdRecv ∨
          receivedMemory 100 octets outside 3 = serviceIdSend) ∨
        (receivedMemory 100 octets outside 4).toNat < 7) ↔ RejectedEarly octets := by
  unfold RejectedEarly
  by_cases short : octets.length < 7
  · simp [short, show (octets.length : Int) < 7 by omega]
  · have first := memory_eq_octetAt octets outside fits 0 (by omega)
    have fourth := memory_eq_octetAt octets outside fits 3 (by omega)
    have fifth := memory_eq_octetAt octets outside fits 4 (by omega)
    norm_cast at first fourth fifth ⊢
    rw [first, fourth, fifth]

theorem stays_inside_of_rejected (octets : List Byte) (outside : Int → Byte)
    (fits : octets.length ≤ 100) (rejected : RejectedEarly octets) :
    StaysInside octets outside := by
  have inMemory := (rejected_in_memory_iff octets outside fits).mpr rejected
  constructor
  · intro address member
    have bounds := footprint_analysisPack_rejected _ _ inMemory address member
    omega
  · intro stored equal
    rw [eval_analysisPack, if_pos inMemory] at equal
    cases equal

theorem packLength_received (octets : List Byte) (outside : Int → Byte)
    (fits : octets.length ≤ 100) (long : 7 ≤ octets.length) :
    packLength (receivedMemory 100 octets outside) =
      (word (octetAt octets 1) (octetAt octets 2)).toNat := by
  have second := memory_eq_octetAt octets outside fits 1 (by omega)
  have third := memory_eq_octetAt octets outside fits 2 (by omega)
  norm_cast at second third
  rw [packLength, second, third]

/-- The decoder stays inside the received octets and the destination exactly when
it gives up before using a length or both lengths fit. -/
theorem parsing_stays_inside_iff (octets : List Byte) (outside : Int → Byte)
    (fits : octets.length ≤ 100) :
    StaysInside octets outside ↔ RejectedEarly octets ∨ LengthsFit octets := by
  by_cases rejected : RejectedEarly octets
  · exact ⟨fun _ => .inl rejected, fun _ => stays_inside_of_rejected octets outside fits rejected⟩
  have accepted := mt (rejected_in_memory_iff octets outside fits).mp rejected
  obtain ⟨long, afterLength⟩ := not_or.mp accepted
  obtain ⟨start, afterStart⟩ := not_or.mp afterLength
  obtain ⟨service, head⟩ := not_or.mp afterStart
  have declared := packLength_received octets outside fits (by omega)
  have size : receivedMemory 100 octets outside 4 = octetAt octets 4 :=
    memory_eq_octetAt octets outside fits 4 (by omega)
  have loads := footprint_analysisPack _ octets.length (by omega) (not_not.mp start)
    (not_not.mp service) (by omega)
  simp only [rejected, false_or, StaysInside, LengthsFit, loads, ← declared, ← size]
  constructor
  · intro inside
    obtain ⟨reads, _⟩ := inside
    have lastOfFrame := reads (4 + (receivedMemory 100 octets outside 4).toNat - 1)
      (by simp only [List.mem_append, mem_block]; omega)
    have storedHigh := reads (packLength (receivedMemory 100 octets outside) - 2)
      (by simp [mem_checksumLoads])
    have storedLow := reads (packLength (receivedMemory 100 octets outside) - 1)
      (by simp [mem_checksumLoads])
    omega
  · intro fits
    obtain ⟨frameFits, twoOrMore, declaredFits⟩ := fits
    constructor
    · intro address member
      have covered : (BitVec.ofInt 16 (packLength (receivedMemory 100 octets outside) - 2)).toNat =
          packLength (receivedMemory 100 octets outside) - 2 := by
        simp only [BitVec.toNat_ofInt]
        omega
      simp only [List.mem_append, mem_block, mem_checksumLoads, covered, List.mem_cons,
        List.not_mem_nil, or_false] at member
      omega
    · intro stored equal
      rw [eval_analysisPack, if_neg accepted] at equal
      cases equal
      rw [length_octetsAt]
      omega

/-- A report of fourteen octets of which only seven have arrived. -/
theorem truncated_report_leaves_octets :
    ¬ ∀ (octets : List Byte) (outside : Int → Byte), octets.length ≤ 100 →
      StaysInside octets outside := by
  intro always
  have inside := always [0xAA, 0x00, 0x0E, 0x05, 0x08, 0x00, 0x00] (fun _ => 0) (by decide)
  exact absurd (inside.1 12 (by decide)) (by decide)

theorem parsing_stays_inside_witness :
    StaysInside [0xAA, 0x00, 0x00, 0x05, 0x06, 0x00, 0x00] (fun _ => 0) ↔
      RejectedEarly [0xAA, 0x00, 0x00, 0x05, 0x06, 0x00, 0x00] ∨
        LengthsFit [0xAA, 0x00, 0x00, 0x05, 0x06, 0x00, 0x00] :=
  parsing_stays_inside_iff _ _ (by decide)

end KnxDemo.ComPacketBounds
