import KnxDemo.Com.RoundTrip

/-!
# The packets analysisPack accepts

A packet states its length twice: for the whole packet in its second and third
octet, and for the frame inside in the fifth. The encoder writes two lengths
that differ by six. The decoder copies by the second and checks the checksum by
the first, and compares neither with the other nor with what was received.
-/

namespace KnxDemo.ComGrammar

open KnxDemo.Bytes KnxDemo.ComDefine KnxDemo.ComChecksum KnxDemo.ComPack KnxDemo.ComDecoding
open KnxDemo.ComEncoding KnxDemo.ComRoundTrip
open KnxDemo.Interaction KnxDemo.Interaction.Loader

section Packet

variable (memory : Int → Byte)

def frameSize : Nat := (memory 4).toNat

def ChecksumMatches : Prop :=
  crcOf (octetsAt memory 0 (BitVec.ofInt 16 (packLength memory - 2)).toNat) =
    word (memory (packLength memory - 2)) (memory (packLength memory - 1))

def LengthsAgree (dataLen : Int) : Prop :=
  (packLength memory : Int) ≤ dataLen ∧ packLength memory = frameSize memory + 6

/-- The tests `analysisPack` makes. -/
structure PassesTests : Prop where
  start : memory 0 = packStartFlag
  service : memory 3 = serviceIdRecv ∨ memory 3 = serviceIdSend
  sized : 7 ≤ frameSize memory
  checksum : ChecksumMatches memory

/-- The packets of the encoder's grammar among the first `dataLen` octets. -/
structure InGrammar (dataLen : Int) : Prop where
  start : memory 0 = packStartFlag
  received : (packLength memory : Int) ≤ dataLen
  service : memory 3 = serviceIdRecv ∨ memory 3 = serviceIdSend
  sized : 7 ≤ frameSize memory
  filled : packLength memory = frameSize memory + 6
  checksum : crcOf (octetsAt memory 0 (packLength memory - 2)) =
    word (memory (packLength memory - 2)) (memory (packLength memory - 1))

def AcceptsExactlyGrammar (dataLen : Int) : Prop :=
  ((eval memory (analysisPack dataLen)).ret = errOk ↔ InGrammar memory dataLen) ∧
    ((eval memory (analysisPack dataLen)).ret = errOk →
      ∃ count : Nat, 11 + count + 2 = packLength memory ∧ (packLength memory : Int) ≤ dataLen ∧
        (eval memory (analysisPack dataLen)).stored = some (octetsAt memory 11 count))

theorem accepts_iff_tests (dataLen : Int) (long : 7 ≤ dataLen) :
    (eval memory (analysisPack dataLen)).ret = errOk ↔ PassesTests memory := by
  rw [analysis_pack_ok_iff]
  constructor
  · intro accepted
    obtain ⟨_, start, service, sized, checksum⟩ := accepted
    exact ⟨start, service, sized, checksum⟩
  · intro passes
    exact ⟨long, passes.start, passes.service, passes.sized, passes.checksum⟩

theorem checksum_matches_iff (two : 2 ≤ packLength memory) :
    ChecksumMatches memory ↔
      crcOf (octetsAt memory 0 (packLength memory - 2)) =
        word (memory (packLength memory - 2)) (memory (packLength memory - 1)) := by
  have bound := (word (memory 1) (memory 2)).isLt
  have covered : (BitVec.ofInt 16 (packLength memory - 2)).toNat = packLength memory - 2 := by
    rw [BitVec.toNat_ofInt]
    unfold packLength at two ⊢
    omega
  rw [ChecksumMatches, covered]

theorem in_grammar_iff (dataLen : Int) :
    InGrammar memory dataLen ↔ LengthsAgree memory dataLen ∧ PassesTests memory := by
  constructor
  · intro grammar
    have two : 2 ≤ packLength memory := by
      have filled := grammar.filled
      omega
    exact ⟨⟨grammar.received, grammar.filled⟩, grammar.start, grammar.service, grammar.sized,
      (checksum_matches_iff memory two).mpr grammar.checksum⟩
  · intro conditions
    obtain ⟨⟨received, filled⟩, passes⟩ := conditions
    have two : 2 ≤ packLength memory := by omega
    exact ⟨passes.start, received, passes.service, passes.sized, filled,
      (checksum_matches_iff memory two).mp passes.checksum⟩

/-- The decoder accepts exactly the grammar on the packets whose lengths agree and on those
that fail one of its tests. -/
theorem accepts_exactly_grammar_iff (dataLen : Int) (long : 7 ≤ dataLen) :
    AcceptsExactlyGrammar memory dataLen ↔
      LengthsAgree memory dataLen ∨ ¬ PassesTests memory := by
  unfold AcceptsExactlyGrammar
  rw [accepts_iff_tests memory dataLen long, in_grammar_iff]
  constructor
  · intro exactly
    by_cases passes : PassesTests memory
    · exact .inl (exactly.1.mp passes).1
    · exact .inr passes
  · intro condition
    by_cases passes : PassesTests memory
    · have agree := condition.resolve_right (not_not.mpr passes)
      refine ⟨⟨fun _ => ⟨agree, passes⟩, fun both => both.2⟩, fun _ => ?_⟩
      have accepted := (accepts_iff_tests memory dataLen long).mpr passes
      have sized := passes.sized
      obtain ⟨received, filled⟩ := agree
      refine ⟨frameSize memory - 7, by omega, received, ?_⟩
      rw [stored_of_accepted memory dataLen accepted, frameSize]
    · exact ⟨⟨fun passed => absurd passed passes, fun both => absurd both.2 passes⟩,
        fun passed => absurd passed passes⟩

end Packet

/-- The encoder's packets are in the grammar, whatever follows them. -/
theorem packet_in_grammar {memory : Int → Byte} {serviceFrame : ServiceFrame}
    (sized : 7 ≤ serviceFrame.size.toNat) (received : Received memory (packet serviceFrame))
    (dataLen : Int) (whole : (packet serviceFrame).length ≤ dataLen) :
    InGrammar memory dataLen := by
  have length := length_packet serviceFrame sized
  obtain ⟨_, _, size, declared⟩ := packet_head_received received
  have accepted : (eval memory (analysisPack dataLen)).ret = errOk := by
    rw [eval_analysisPack_packet sized received dataLen (by omega)]
  refine (in_grammar_iff memory dataLen).mpr ⟨⟨by omega, ?_⟩,
    (accepts_iff_tests memory dataLen (by omega)).mp accepted⟩
  rw [declared, frameSize, size]

/-- A packet with one data octet whose size octet claims two. -/
def oversizedFrame : List Byte :=
  [0xAA, 0x00, 0x0E, 0x05, 0x09, 0x00, 0x00, 0x02, 0x01, 0x00, 0x02, 0x01, 0x0E, 0xFF]

/-- The octet returned second is the high checksum octet. -/
theorem checksum_octet_returned_as_data :
    ¬ ∀ (memory : Int → Byte) (dataLen : Int), 7 ≤ dataLen →
      AcceptsExactlyGrammar memory dataLen := by
  intro always
  let memory := receivedMemory 100 oversizedFrame fun _ => 0
  have passes : PassesTests memory := by
    refine ⟨by decide, by decide, by decide, ?_⟩
    unfold ChecksumMatches
    decide +kernel
  have accepted := (accepts_iff_tests memory 14 (by decide)).mpr passes
  have filled := ((always memory 14 (by decide)).1.mp accepted).filled
  exact absurd filled (by decide)

theorem accepts_exactly_grammar_witness :
    AcceptsExactlyGrammar (receivedMemory 100 oversizedFrame fun _ => 0) 14 ↔
      LengthsAgree (receivedMemory 100 oversizedFrame fun _ => 0) 14 ∨
        ¬ PassesTests (receivedMemory 100 oversizedFrame fun _ => 0) :=
  accepts_exactly_grammar_iff _ 14 (by decide)

end KnxDemo.ComGrammar
