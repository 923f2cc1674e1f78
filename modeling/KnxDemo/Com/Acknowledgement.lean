import KnxDemo.Com.Decoding

/-!
# The acknowledgements analysisAck accepts

The length test and the octets under the checksum follow the received length.
The stored checksum is looked for behind the four octets of the header, wherever
the packet ends. The two places are one in a packet of seven octets.
-/

namespace KnxDemo.ComAcknowledgement

open KnxDemo.Bytes KnxDemo.ComDefine KnxDemo.ComChecksum KnxDemo.ComPack KnxDemo.ComDecoding
open KnxDemo.Interaction KnxDemo.Interaction.Loader

section Packet

variable (memory : Int → Byte) (len : Int)

/-- The checksum of everything but the last two octets. -/
def ackChecksum : BitVec 16 := crcOf (octetsAt memory 0 (len - 2).toNat)

def ChecksumAt (place : Int) : Prop :=
  memory place = highByte (ackChecksum memory len) ∧
    memory (place + 1) = lowByte (ackChecksum memory len)

/-- The tests `analysisAck` makes before it comes to the checksum. -/
structure PositiveHeader : Prop where
  start : memory 0 = packStartFlag
  declared : ((word (memory 1) (memory 2)).toNat : Int) = len
  service : memory 3 = serviceIdRecv
  respons : memory 4 = responsSuccess

/-- A positive acknowledgement that ends with its checksum. -/
structure WellFormedAck : Prop where
  header : PositiveHeader memory len
  checksum : ChecksumAt memory len (len - 2)

/-- Exactly the well-formed positive acknowledgements are accepted. -/
def AcceptsExactlyWellFormed : Prop :=
  eval memory (analysisAck len) = errOk ↔ WellFormedAck memory len

theorem checksum_at_iff (place : Int) :
    ChecksumAt memory len place ↔
      ackChecksum memory len = word (memory place) (memory (place + 1)) := by
  constructor
  · intro stored
    rw [stored.1, stored.2, word_highByte_lowByte]
  · intro same
    rw [ChecksumAt, same, highByte_word, lowByte_word]
    exact ⟨rfl, rfl⟩

theorem covered_of_declared (long : 7 ≤ len)
    (declared : ((word (memory 1) (memory 2)).toNat : Int) = len) :
    (BitVec.ofInt 16 (len - 2)).toNat = (len - 2).toNat := by
  have bound := (word (memory 1) (memory 2)).isLt
  rw [BitVec.toNat_ofInt]
  omega

theorem ack_accepted_iff (long : 7 ≤ len) :
    eval memory (analysisAck len) = errOk ↔
      PositiveHeader memory len ∧ ChecksumAt memory len 5 := by
  rw [analysis_ack_ok_iff, checksum_at_iff]
  constructor
  · intro accepted
    obtain ⟨_, start, declared, service, respons, checksum⟩ := accepted
    rw [covered_of_declared memory len long declared] at checksum
    exact ⟨⟨start, declared, service, respons⟩, checksum⟩
  · intro tests
    obtain ⟨header, checksum⟩ := tests
    refine ⟨long, header.start, header.declared, header.service, header.respons, ?_⟩
    rw [covered_of_declared memory len long header.declared]
    exact checksum

def PlacesAgree : Prop := memory 5 = memory (len - 2) ∧ memory 6 = memory (len - 1)

/-- The decoder is exact on the packets whose header it refuses, on those that hold the same
octets at both places, and on those that hold the checksum at neither. -/
theorem accepts_exactly_well_formed_iff (long : 7 ≤ len) :
    AcceptsExactlyWellFormed memory len ↔
      ¬ PositiveHeader memory len ∨ PlacesAgree memory len ∨
        (¬ ChecksumAt memory len 5 ∧ ¬ ChecksumAt memory len (len - 2)) := by
  have last : len - 2 + 1 = len - 1 := by omega
  unfold AcceptsExactlyWellFormed
  rw [ack_accepted_iff memory len long]
  constructor
  · intro exactly
    by_cases header : PositiveHeader memory len
    · by_cases behind : ChecksumAt memory len 5
      · have final := (exactly.mp ⟨header, behind⟩).checksum
        refine .inr (.inl ⟨behind.1.trans final.1.symm, ?_⟩)
        rw [← last]
        exact behind.2.trans final.2.symm
      · refine .inr (.inr ⟨behind, fun final => ?_⟩)
        exact behind (exactly.mpr ⟨header, final⟩).2
    · exact .inl header
  · intro condition
    constructor
    · intro accepted
      obtain ⟨header, behind⟩ := accepted
      refine ⟨header, ?_⟩
      rcases condition with refused | agree | neither
      · exact absurd header refused
      · refine ⟨agree.1.symm.trans behind.1, ?_⟩
        rw [last]
        exact agree.2.symm.trans behind.2
      · exact absurd behind neither.1
    · intro formed
      have final := formed.checksum
      refine ⟨formed.header, ?_⟩
      rcases condition with refused | agree | neither
      · exact absurd formed.header refused
      · rw [ChecksumAt, last] at final
        exact ⟨agree.1.trans final.1, agree.2.trans final.2⟩
      · exact absurd final neither.2

end Packet

/-- A positive acknowledgement with one octet more than the header needs. -/
def longerAck : List Byte := [0xAA, 0x00, 0x08, 0x05, 0x01, 0x00, 0x34, 0x38]

theorem longer_ack_refused :
    ¬ ∀ (memory : Int → Byte) (len : Int), 7 ≤ len → AcceptsExactlyWellFormed memory len := by
  intro always
  let memory := receivedMemory 8 longerAck fun _ => 0
  have formed : WellFormedAck memory 8 := by
    refine ⟨⟨by decide, by decide, by decide, by decide⟩, ?_⟩
    unfold ChecksumAt
    decide +kernel
  have accepted := (always memory 8 (by decide)).mpr formed
  have refused : eval memory (analysisAck 8) ≠ errOk := by decide +kernel
  exact refused accepted

theorem accepts_exactly_well_formed_witness :
    AcceptsExactlyWellFormed (receivedMemory 7 ackBuf fun _ => 0) 7 ↔
      ¬ PositiveHeader (receivedMemory 7 ackBuf fun _ => 0) 7 ∨
        PlacesAgree (receivedMemory 7 ackBuf fun _ => 0) 7 ∨
          (¬ ChecksumAt (receivedMemory 7 ackBuf fun _ => 0) 7 5 ∧
            ¬ ChecksumAt (receivedMemory 7 ackBuf fun _ => 0) 7 (7 - 2)) :=
  accepts_exactly_well_formed_iff _ 7 (by decide)

end KnxDemo.ComAcknowledgement
