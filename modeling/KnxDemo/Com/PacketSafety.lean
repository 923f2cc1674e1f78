import KnxDemo.Com.Encoding

/-!
# The stores of the encoder

`SendPacketIn` and `serviceFrame2Array` as the statements that store to the packet
buffer or move a running index, each of them executed where the one before left
the index. The size octet of the frame decides how much `memcpy` copies, and
nothing keeps it from being smaller than the frame head.
-/

namespace KnxDemo.ComPacketSafety

open KnxDemo.Bytes KnxDemo.ComDefine KnxDemo.ComChecksum KnxDemo.ComDrive KnxDemo.ComPack
open KnxDemo.ComDecoding KnxDemo.ComEncoding
open KnxDemo.Interaction KnxDemo.Interaction.Loader

/-- `MAX_PACK_SZIE` -/
def maxPackSize : Nat := 1500

/-- The packet buffer, the place a function has been handed to store from, and its running
index. -/
structure Cursor where
  rawPack : Buffer Byte
  pack : Int
  index : Int

inductive Statement where
  /-- `*(pack+index) = octet; index += 1;` -/
  | put (octet : Byte)
  /-- `index += count;` -/
  | skip (count : Int)
  /-- `memcpy(pack+index, source, count); index += count;` -/
  | memcpy (source : Vector Byte maxServiceFrame) (count : Int)

namespace Statement

def execute (cursor : Cursor) : Statement → Cursor
  | .put octet =>
      { cursor with
        rawPack := cursor.rawPack.store (cursor.pack + cursor.index).toNat octet
        index := cursor.index + 1 }
  | .skip count => { cursor with index := cursor.index + count }
  | .memcpy source count =>
      let copied := (List.range (sizeT count)).map fun index => source[index]?.getD 0
      { cursor with
        rawPack := cursor.rawPack.storeBlock (cursor.pack + cursor.index).toNat copied
        index := cursor.index + count }

/-- The index is not negative and what is stored lies inside the packet buffer; a `memcpy`
copies no negative number of octets and stays inside the array it copies from. -/
def Fits (cursor : Cursor) : Statement → Prop
  | .put _ => 0 ≤ cursor.index ∧ 0 ≤ cursor.pack + cursor.index ∧
      cursor.pack + cursor.index < maxPackSize
  | .skip _ => 0 ≤ cursor.index
  | .memcpy _ count => 0 ≤ cursor.index ∧ 0 ≤ count ∧ count ≤ maxServiceFrame ∧
      0 ≤ cursor.pack + cursor.index ∧ cursor.pack + cursor.index + count ≤ maxPackSize

end Statement

def run (statements : List Statement) (cursor : Cursor) : Cursor :=
  statements.foldl Statement.execute cursor

def AllFit : List Statement → Cursor → Prop
  | [], cursor => 0 ≤ cursor.index
  | statement :: rest, cursor => statement.Fits cursor ∧ AllFit rest (statement.execute cursor)

section Encoder

variable (serviceFrame : ServiceFrame)

def packLen : Nat := serviceFrame.size.toNat + packFrameLeft

def envelope : List Statement :=
  [.put packStartFlag, .put (BitVec.ofNat 8 (packLen serviceFrame >>> 8)),
    .put (BitVec.ofNat 8 (packLen serviceFrame &&& 0xFF)), .put serviceIdSend]

/-- `serviceFrame->size - SERVICE_FRAME_HEAD` -/
def dataCount : Int := serviceFrame.size.toNat - serviceFrameHead

def frameStatements : List Statement :=
  [.put serviceFrame.size, .skip 2, .put serviceFrame.controlType, .put serviceFrame.property,
    .put serviceFrame.channel, .put serviceFrame.controlStatus,
    .memcpy serviceFrame.data (dataCount serviceFrame)]

def start : Cursor := ⟨Buffer.fresh fun _ => 0, 0, 0⟩

def afterEnvelope : Cursor := run (envelope serviceFrame) start

/-- `serviceFrame2Array` is handed the place behind the envelope and counts from zero. -/
def frameStart : Cursor :=
  ⟨(afterEnvelope serviceFrame).rawPack, (afterEnvelope serviceFrame).index, 0⟩

def afterFrame : Cursor := run (frameStatements serviceFrame) (frameStart serviceFrame)

/-- `index += ret;` -/
def checksumStart : Cursor :=
  ⟨(afterFrame serviceFrame).rawPack, 0,
    (afterEnvelope serviceFrame).index + (afterFrame serviceFrame).index⟩

def checksum : BitVec 16 :=
  eval (fun address => (afterFrame serviceFrame).rawPack.memory address.toNat)
    (calcCrcCcitt 0 (checksumStart serviceFrame).index)

def checksumStatements : List Statement :=
  [.put ((checksum serviceFrame >>> 8).setWidth 8),
    .put ((checksum serviceFrame &&& 0xFF#16).setWidth 8)]

def afterChecksum : Cursor := run (checksumStatements serviceFrame) (checksumStart serviceFrame)

def rawPacket : List Byte :=
  Buffer.contents (afterChecksum serviceFrame).rawPack.memory 0
    (afterChecksum serviceFrame).index.toNat

theorem after_frame_eq :
    afterFrame serviceFrame =
      let (rawPack, ret) := serviceFrame2Array serviceFrame (afterEnvelope serviceFrame).rawPack 4
      ⟨rawPack, 4, ret⟩ := rfl

theorem index_afterFrame : (afterFrame serviceFrame).index = serviceFrame.size.toNat := by
  rw [after_frame_eq]
  simp only [serviceFrame2Array, serviceFrameHead]
  omega

theorem index_checksumStart :
    (checksumStart serviceFrame).index = 4 + serviceFrame.size.toNat := by
  rw [checksumStart, index_afterFrame]
  rfl

theorem packet_of_rawPacket : packetOf serviceFrame = some (rawPacket serviceFrame) := by
  have unfolded : packetOf serviceFrame =
      if (afterFrame serviceFrame).index < errOk then none
      else
        let index := (4 + (afterFrame serviceFrame).index).toNat
        let crc := eval (fun address => (afterFrame serviceFrame).rawPack.memory address.toNat)
          (calcCrcCcitt 0 index)
        let rawPack := (afterFrame serviceFrame).rawPack.store index ((crc >>> 8).setWidth 8)
        let rawPack := rawPack.store (index + 1) ((crc &&& 0xFF#16).setWidth 8)
        some (Buffer.contents rawPack.memory 0 (index + 2)) := rfl
  -- the places as natural numbers, and the length as `Calc_CRC_CCITT` is handed it
  have place : (4 + (serviceFrame.size.toNat : Int)).toNat = 4 + serviceFrame.size.toNat := by
    omega
  have high : (0 + (4 + (serviceFrame.size.toNat : Int))).toNat = 4 + serviceFrame.size.toNat := by
    omega
  have low : (0 + (4 + (serviceFrame.size.toNat : Int) + 1)).toNat =
      4 + serviceFrame.size.toNat + 1 := by omega
  have total : (4 + (serviceFrame.size.toNat : Int) + 1 + 1).toNat =
      4 + serviceFrame.size.toNat + 2 := by omega
  have length : ((4 + serviceFrame.size.toNat : Nat) : Int) = 4 + serviceFrame.size.toNat := by
    omega
  have pack : (checksumStart serviceFrame).pack = 0 := rfl
  have rawPack : (checksumStart serviceFrame).rawPack = (afterFrame serviceFrame).rawPack := rfl
  rw [unfolded, index_afterFrame, if_neg (by simp [errOk])]
  simp only [rawPacket, afterChecksum, checksumStatements, checksum, run, List.foldl_cons,
    List.foldl_nil, Statement.execute, index_checksumStart, pack, rawPack, place, high, low, total,
    length]

/-! ## Safety -/

/-- Every statement stays inside the buffer and the frame, `memcpy` copies `size - 7` octets,
and the packet ends inside the buffer. -/
structure EncodesSafely : Prop where
  envelope : AllFit (envelope serviceFrame) start
  frame : AllFit (frameStatements serviceFrame) (frameStart serviceFrame)
  copied : (sizeT (dataCount serviceFrame) : Int) = serviceFrame.size.toNat - serviceFrameHead
  checksum : AllFit (checksumStatements serviceFrame) (checksumStart serviceFrame)
  inside : (afterChecksum serviceFrame).index ≤ maxPackSize

/-- A run of `SendPacketIn` that is safe: it gives up without sending, or it builds the packet
safely and hands it to `com_send` whole, as long as its length field says. -/
inductive SafeRun (comPort : Int) (trace : PortTrace) (ret : Int) : Prop
  | refused (failed : ret ≠ errOk)
      (nothing : ∀ (port : Int) (octets : List Byte) (len : Int),
        ⟨.write port octets, len⟩ ∉ trace)
  | sent (octets : List Byte) (len : Int) (safe : EncodesSafely serviceFrame)
      (built : octets = rawPacket serviceFrame) (passed : trace = [⟨.write comPort octets, len⟩])
      (whole : octets.length = serviceFrame.size.toNat + 6)
      (declared : (word (octets.getD 1 0) (octets.getD 2 0)).toNat = octets.length)

def SafeFor : Prop :=
  ∀ (comPort : Int) (trace : PortTrace) (ret : Int),
    Completes (sendPacketIn comPort (some serviceFrame)) trace ret →
      SafeRun serviceFrame comPort trace ret

theorem envelope_fits : AllFit (envelope serviceFrame) start := by
  simp [envelope, AllFit, Statement.Fits, Statement.execute, start, maxPackSize]

theorem frame_fits_iff :
    AllFit (frameStatements serviceFrame) (frameStart serviceFrame) ↔
      7 ≤ serviceFrame.size.toNat := by
  have bound := serviceFrame.size.isLt
  have place : (frameStart serviceFrame).pack = 4 := rfl
  have index : (frameStart serviceFrame).index = 0 := rfl
  simp only [frameStatements, AllFit, Statement.Fits, Statement.execute, place, index, maxPackSize,
    maxServiceFrame, dataCount, serviceFrameHead]
  omega

theorem checksum_fits : AllFit (checksumStatements serviceFrame) (checksumStart serviceFrame) := by
  have bound := serviceFrame.size.isLt
  have place : (checksumStart serviceFrame).pack = 0 := rfl
  simp only [checksumStatements, AllFit, Statement.Fits, Statement.execute, place,
    index_checksumStart, maxPackSize]
  omega

theorem encodes_safely (sized : 7 ≤ serviceFrame.size.toNat) : EncodesSafely serviceFrame := by
  have bound := serviceFrame.size.isLt
  have count : dataCount serviceFrame = ((serviceFrame.size.toNat - 7 : Nat) : Int) := by
    rw [dataCount, serviceFrameHead]
    omega
  have index : (afterChecksum serviceFrame).index = 4 + serviceFrame.size.toNat + 1 + 1 := by
    rw [← index_checksumStart]
    rfl
  refine ⟨envelope_fits serviceFrame, (frame_fits_iff serviceFrame).mpr sized, ?_,
    checksum_fits serviceFrame, ?_⟩
  · rw [count, sizeT_natCast (by omega), serviceFrameHead]
    omega
  · rw [index, maxPackSize]
    omega

theorem sized_of_safe (safe : SafeFor serviceFrame) : 7 ≤ serviceFrame.size.toNat := by
  have ran := (completes_sendPacketIn 3 (packet_of_rawPacket serviceFrame) _ _).mpr ⟨0, rfl, rfl⟩
  cases safe 3 _ _ ran with
  | refused failed nothing => exact absurd List.mem_cons_self (nothing _ _ _)
  | sent octets len encoded built passed whole declared =>
      exact (frame_fits_iff serviceFrame).mp encoded.frame

/-- `SendPacketIn` is safe exactly for the frames whose size octet covers the frame head. -/
theorem send_safe_iff : SafeFor serviceFrame ↔ 7 ≤ serviceFrame.size.toNat := by
  constructor
  · exact sized_of_safe serviceFrame
  · intro sized comPort trace ret ran
    obtain ⟨len, passed, _⟩ :=
      (completes_sendPacketIn comPort (packet_of_rawPacket serviceFrame) trace ret).mp ran
    have built : rawPacket serviceFrame = packet serviceFrame :=
      Option.some.inj
        ((packet_of_rawPacket serviceFrame).symm.trans (packet_of_eq serviceFrame sized))
    have length := length_packet serviceFrame sized
    refine .sent (rawPacket serviceFrame) len (encodes_safely serviceFrame sized) rfl passed ?_ ?_
    · rw [built, length]
    · have high : (packet serviceFrame).getD 1 0 = highByte (declaredLength serviceFrame) := rfl
      have low : (packet serviceFrame).getD 2 0 = lowByte (declaredLength serviceFrame) := rfl
      rw [built, length, high, low, word_highByte_lowByte, toNat_declaredLength]

end Encoder

def undersizedFrame : ServiceFrame where
  size := 6
  controlType := lightControl
  property := openCloseState
  channel := channel0
  controlStatus := readStateMsg
  data := Vector.replicate maxServiceFrame 0

/-- `memcpy` takes a count of minus one for the largest one. -/
example : sizeT (dataCount undersizedFrame) = 18446744073709551615 := by decide

theorem undersized_frame_overruns : ¬ ∀ serviceFrame : ServiceFrame, SafeFor serviceFrame :=
  fun always => absurd (sized_of_safe undersizedFrame (always undersizedFrame)) (by decide)

end KnxDemo.ComPacketSafety
