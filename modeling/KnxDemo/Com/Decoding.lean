import KnxDemo.Com.Pack

/-!
# What the packet decoders compute and where they look

One result lemma and one footprint lemma for each decoder. Later modules cite
these and never unfold a decoder again.
-/

namespace KnxDemo.ComDecoding

open KnxDemo.Bytes KnxDemo.ComDefine KnxDemo.ComChecksum KnxDemo.ComPack
open KnxDemo.Interaction KnxDemo.Interaction.Loader

def octetsAt (memory : Int → Byte) (base : Int) (count : Nat) : List Byte :=
  (block base count).map memory

def Received (memory : Int → Byte) (octets : List Byte) : Prop :=
  Buffer.Holds (fun index : Nat => memory index) 0 octets

theorem block_succ (base : Int) (count : Nat) :
    block base (count + 1) = base :: block (base + 1) count := by
  simp only [block, List.range_succ_eq_map, List.map_cons, List.map_map]
  congr 1
  · simp
  · apply List.map_congr_left
    intro index _
    simp only [Function.comp_apply]
    omega

theorem mem_block (base address : Int) (count : Nat) :
    address ∈ block base count ↔ base ≤ address ∧ address < base + count := by
  simp only [block, List.mem_map, List.mem_range]
  constructor
  · intro member
    obtain ⟨index, bound, rfl⟩ := member
    omega
  · intro inside
    exact ⟨(address - base).toNat, by omega, by omega⟩

@[simp] theorem length_octetsAt (memory : Int → Byte) (base : Int) (count : Nat) :
    (octetsAt memory base count).length = count := by
  simp [octetsAt, block]

theorem getElem_octetsAt (memory : Int → Byte) (base : Int) (count index : Nat)
    (inside : index < (octetsAt memory base count).length) :
    (octetsAt memory base count)[index] = memory (base + index) := by
  simp [octetsAt, block]

theorem Received.memory_eq {memory : Int → Byte} {octets : List Byte}
    (received : Received memory octets) (index : Nat) (inside : index < octets.length) :
    memory index = octets[index] := by
  have held := (Buffer.holds_iff_getElem _ _ _).mp received index inside
  simpa using held

theorem Received.front {memory : Int → Byte} {front back : List Byte}
    (received : Received memory (front ++ back)) : Received memory front :=
  ((Buffer.holds_append _ _ _ _).mp received).1

theorem Received.octetsAt_eq {memory : Int → Byte} {octets : List Byte}
    (received : Received memory octets) (base count : Nat)
    (inside : base + count ≤ octets.length) :
    octetsAt memory base count = (octets.drop base).take count := by
  apply List.ext_getElem
  · simp only [length_octetsAt, List.length_take, List.length_drop]
    omega
  · intro index bound _
    have within : index < count := by simpa using bound
    rw [getElem_octetsAt, List.getElem_take, List.getElem_drop,
      ← received.memory_eq (base + index) (by omega)]
    simp

theorem Received.octetsAt_zero {memory : Int → Byte} {octets : List Byte}
    (received : Received memory octets) (count : Nat) (inside : count ≤ octets.length) :
    octetsAt memory 0 count = octets.take count := by
  have taken := received.octetsAt_eq 0 count (by omega)
  simpa using taken

theorem received_receivedMemory (length : Nat) (octets : List Byte) (outside : Int → Byte)
    (fits : octets.length ≤ length) :
    Received (receivedMemory length octets outside) octets := by
  refine (Buffer.holds_iff_getElem _ _ _).mpr fun index inside => ?_
  have stored := Buffer.memory_storeBlock_inside (Buffer.fresh fun _ => (0 : Byte)) 0 index
    octets inside
  simp only [receivedMemory, arrayMemory]
  rw [if_pos ⟨by omega, by omega⟩]
  simpa using stored

theorem eval_calcCrcLoop (memory : Int → Byte) (pBuf : Int) (uLength : Nat) (crc : BitVec 16) :
    eval memory (calcCrcLoop pBuf uLength crc) =
      (octetsAt memory pBuf uLength).foldl getCrcCcitt crc := by
  induction uLength generalizing pBuf crc with
  | zero => rfl
  | succ uLength ih =>
      simp only [calcCrcLoop, eval_bind, eval_load, ih, octetsAt, block_succ, List.map_cons,
        List.foldl_cons]

theorem footprint_calcCrcLoop (memory : Int → Byte) (pBuf : Int) (uLength : Nat)
    (crc : BitVec 16) :
    footprint memory (calcCrcLoop pBuf uLength crc) = block pBuf uLength := by
  induction uLength generalizing pBuf crc with
  | zero => rfl
  | succ uLength ih =>
      simp only [calcCrcLoop, footprint_bind, footprint_load, ih, block_succ,
        List.singleton_append]

@[simp] theorem eval_calcCrcCcitt (memory : Int → Byte) (pBuf uLength : Int) :
    eval memory (calcCrcCcitt pBuf uLength) =
      crcOf (octetsAt memory pBuf (BitVec.ofInt 16 uLength).toNat) :=
  eval_calcCrcLoop memory pBuf _ _

@[simp] theorem footprint_calcCrcCcitt (memory : Int → Byte) (pBuf uLength : Int) :
    footprint memory (calcCrcCcitt pBuf uLength) =
      block pBuf (BitVec.ofInt 16 uLength).toNat :=
  footprint_calcCrcLoop memory pBuf _ _

@[simp] theorem footprint_hexdump (memory : Int → Byte) (buf : Int) (len : Nat) :
    footprint memory (hexdump buf len) = block buf len := by
  simp [hexdump]

theorem toNat_ofInt_length (length : Nat) (bounded : length < 65536) :
    (BitVec.ofInt 16 (length : Int)).toNat = length := by
  simp only [BitVec.toNat_ofInt]
  omega

theorem checksum_octets_match (crc : BitVec 16) (high low : Byte) :
    (high.toNat = (crc >>> 8).toNat ∧ low.toNat = (crc &&& 0xFF#16).toNat) ↔
      crc = word high low := by
  have highBound := high.isLt
  have lowBound := low.isLt
  have crcBound := crc.isLt
  have shifted : (crc >>> 8).toNat = crc.toNat / 256 := by
    simp [Nat.shiftRight_eq_div_pow]
  have masked : (crc &&& 0xFF#16).toNat = crc.toNat % 256 := by
    have mask := Nat.and_two_pow_sub_one_eq_mod crc.toNat 8
    simpa using mask
  rw [shifted, masked, BitVec.toNat_inj.symm, toNat_word]
  constructor
  · intro octets
    obtain ⟨first, second⟩ := octets
    omega
  · intro same
    omega

/-! ## The acknowledgement -/

theorem analysis_ack_ok_iff (memory : Int → Byte) (len : Int) :
    eval memory (analysisAck len) = errOk ↔
      7 ≤ len ∧ memory 0 = packStartFlag ∧
        ((word (memory 1) (memory 2)).toNat : Int) = len ∧
        memory 3 = serviceIdRecv ∧ memory 4 = responsSuccess ∧
        crcOf (octetsAt memory 0 (BitVec.ofInt 16 (len - 2)).toNat) =
          word (memory 5) (memory 6) := by
  rw [← checksum_octets_match, toNat_word]
  unfold analysisAck
  by_cases short : len < 7
  · simp [short, errFail, errOk, show ¬ 7 ≤ len by omega]
  · simp only [if_neg short, eval_ite, eval_bind, eval_pure, eval_load, eval_calcCrcCcitt,
      Nat.shiftLeft_eq]
    split_ifs <;> simp_all [errFail, errOk]

/-! ## The report -/

theorem eval_analysisFrame (memory : Int → Byte) (data : Int) :
    eval memory (analysisFrame data) =
      if (memory data).toNat < 7 then ⟨errFail, none⟩
      else ⟨errOk, some (octetsAt memory (data + 7) ((memory data).toNat - 7))⟩ := by
  have bound := (memory data).isLt
  simp only [analysisFrame, eval_ite, eval_bind, eval_pure, eval_load, eval_loadAll, octetsAt]
  split_ifs <;> first | rfl | omega

/-- The length the packet declares in its second and third octet. -/
def packLength (memory : Int → Byte) : Nat := (word (memory 1) (memory 2)).toNat

theorem declared_length (memory : Int → Byte) :
    (((memory 1).toNat <<< 8 : Nat) : Int) + ((memory 2).toNat : Nat) = packLength memory := by
  rw [packLength, toNat_word, Nat.shiftLeft_eq]
  omega

theorem eval_analysisPack (memory : Int → Byte) (dataLen : Int) :
    eval memory (analysisPack dataLen) =
      if dataLen < 7 ∨ memory 0 ≠ packStartFlag ∨
          ¬ (memory 3 = serviceIdRecv ∨ memory 3 = serviceIdSend) ∨ (memory 4).toNat < 7 then
        ⟨errFail, none⟩
      else
        ⟨if crcOf (octetsAt memory 0 (BitVec.ofInt 16 (packLength memory - 2)).toNat) =
            word (memory (packLength memory - 2)) (memory (packLength memory - 1))
          then errOk else errFail,
          some (octetsAt memory 11 ((memory 4).toNat - 7))⟩ := by
  unfold analysisPack
  by_cases short : dataLen < 7
  · simp [short]
  by_cases start : memory 0 = packStartFlag
  · by_cases service : memory 3 = serviceIdRecv ∨ memory 3 = serviceIdSend
    · by_cases head : (memory 4).toNat < 7
      · simp [short, start, service, head, eval_analysisFrame, errFail, errOk]
      · simp only [short, start, service, head, eval_ite, eval_bind, eval_pure, eval_load,
          eval_calcCrcCcitt, eval_analysisFrame, declared_length, ← checksum_octets_match]
        split_ifs <;> simp_all [errFail, errOk]
    · simp only [short, start, service, eval_ite, eval_bind, eval_pure, eval_load]
      simp
  · simp [short, start]

theorem analysis_pack_ok_iff (memory : Int → Byte) (dataLen : Int) :
    (eval memory (analysisPack dataLen)).ret = errOk ↔
      7 ≤ dataLen ∧ memory 0 = packStartFlag ∧
        (memory 3 = serviceIdRecv ∨ memory 3 = serviceIdSend) ∧ 7 ≤ (memory 4).toNat ∧
        crcOf (octetsAt memory 0 (BitVec.ofInt 16 (packLength memory - 2)).toNat) =
          word (memory (packLength memory - 2)) (memory (packLength memory - 1)) := by
  rw [eval_analysisPack]
  split_ifs with rejected matched
  · simp only [errFail, errOk]
    constructor
    · intro absurdity
      omega
    · intro accepted
      obtain ⟨long, start, service, head, _⟩ := accepted
      rcases rejected with short | other | unknown | headless
      · omega
      · exact absurd start other
      · exact absurd service unknown
      · omega
  · obtain ⟨long, afterLength⟩ := not_or.mp rejected
    obtain ⟨start, afterStart⟩ := not_or.mp afterLength
    obtain ⟨service, head⟩ := not_or.mp afterStart
    exact ⟨fun _ => ⟨Int.not_lt.mp long, not_not.mp start, not_not.mp service,
      Nat.not_lt.mp head, matched⟩, fun _ => rfl⟩
  · simp only [errFail, errOk]
    constructor
    · intro absurdity
      omega
    · intro accepted
      obtain ⟨_, _, _, _, checksum⟩ := accepted
      exact absurd checksum matched

theorem stored_of_accepted (memory : Int → Byte) (dataLen : Int)
    (accepted : (eval memory (analysisPack dataLen)).ret = errOk) :
    (eval memory (analysisPack dataLen)).stored =
      some (octetsAt memory 11 ((memory 4).toNat - 7)) := by
  rw [eval_analysisPack] at accepted ⊢
  split_ifs at accepted ⊢ with rejected
  · simp [errFail, errOk] at accepted
  · rfl
  · rfl

/-- The octets the decoder looks at before it knows the frame size. -/
theorem footprint_analysisPack_rejected (memory : Int → Byte) (dataLen : Int)
    (rejected : dataLen < 7 ∨ memory 0 ≠ packStartFlag ∨
      ¬ (memory 3 = serviceIdRecv ∨ memory 3 = serviceIdSend) ∨ (memory 4).toNat < 7) :
    ∀ address ∈ footprint memory (analysisPack dataLen),
      7 ≤ dataLen ∧ 0 ≤ address ∧ address < 5 := by
  unfold analysisPack
  by_cases short : dataLen < 7
  · simp [short]
  by_cases start : memory 0 = packStartFlag
  · by_cases service : memory 3 = serviceIdRecv ∨ memory 3 = serviceIdSend
    · have head : (memory 4).toNat < 7 := by simpa [short, start, service] using rejected
      simp [short, start, head, analysisFrame, errFail, errOk]
      omega
    · simp only [short, start, service, footprint_ite, footprint_bind, footprint_pure,
        footprint_load, eval_load]
      simp
      omega
  · simp [short, start]
    omega

/-- The loads of the stored checksum; the log line of the first comparison
repeats the first of them. -/
def checksumLoads (memory : Int → Byte) : List Int :=
  if (memory (packLength memory - 2)).toNat ≠
      (crcOf (octetsAt memory 0 (BitVec.ofInt 16 (packLength memory - 2)).toNat) >>> 8).toNat then
    [packLength memory - 2, packLength memory - 2, packLength memory - 1]
  else [packLength memory - 2, packLength memory - 1]

theorem mem_checksumLoads (memory : Int → Byte) (address : Int) :
    address ∈ checksumLoads memory ↔
      address = packLength memory - 2 ∨ address = packLength memory - 1 := by
  unfold checksumLoads
  split_ifs <;> simp

/-- Past the frame size the decoder looks at the head, at the frame for the copy
and for the log, at everything the checksum covers, and at the two octets it
takes for the stored checksum. -/
theorem footprint_analysisPack (memory : Int → Byte) (dataLen : Int)
    (long : 7 ≤ dataLen) (start : memory 0 = packStartFlag)
    (service : memory 3 = serviceIdRecv ∨ memory 3 = serviceIdSend)
    (head : 7 ≤ (memory 4).toNat) :
    footprint memory (analysisPack dataLen) =
      [0, 1, 2, 3, 4] ++ (block 11 ((memory 4).toNat - 7) ++ block 4 (memory 4).toNat ++
        (block 0 (BitVec.ofInt 16 (packLength memory - 2)).toNat ++ checksumLoads memory)) := by
  have short : ¬ dataLen < 7 := by omega
  have sized : ¬ ((memory 4).toNat < 7 ∨ (memory 4).toNat > 255) := by
    have bound := (memory 4).isLt
    omega
  have frameOk : (eval memory (analysisFrame 4)).ret = errOk := by
    rw [eval_analysisFrame, if_neg (by omega)]
  have frameLoads : footprint memory (analysisFrame 4) =
      4 :: (block 11 ((memory 4).toNat - 7) ++ block 4 (memory 4).toNat) := by
    simp only [analysisFrame, footprint_bind, footprint_load, eval_load, if_neg sized,
      footprint_loadAll, footprint_hexdump, footprint_pure]
    simp
  unfold analysisPack checksumLoads
  simp only [short, start, service, frameOk, frameLoads, footprint_ite, footprint_bind,
    footprint_pure, footprint_load, eval_load, eval_calcCrcCcitt, footprint_calcCrcCcitt,
    if_false, not_true_eq_false, ne_eq, declared_length]
  split_ifs <;> simp

end KnxDemo.ComDecoding
