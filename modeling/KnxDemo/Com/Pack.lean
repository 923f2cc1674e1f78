import KnxDemo.Com.Checksum
import KnxDemo.Com.Drive
import KnxDemo.Interaction.Loader

/-!
# Packets of the serial link

Encoding and decoding as `ComPack.cpp` does them. The decoders are load
programs over the memory the received octets lie in: index 0 is the first
octet, and nothing keeps an index inside the octets that were received.
-/

namespace KnxDemo.ComPack

open KnxDemo.Bytes KnxDemo.ComDefine KnxDemo.ComChecksum KnxDemo.ComDrive
open KnxDemo.Interaction KnxDemo.Interaction.Loader

def block (base : Int) (count : Nat) : List Int :=
  (List.range count).map fun index : Nat => base + (index : Int)

/-- An array of `length` octets seen from its address; `outside` is whatever lies
around it. -/
def arrayMemory (length : Nat) (array : Buffer Byte) (outside : Int → Byte) : Int → Byte :=
  fun address =>
    if 0 ≤ address ∧ address < length then array.memory address.toNat else outside address

/-- A zero-initialised array whose first octets have been received. -/
def receivedMemory (length : Nat) (octets : List Byte) (outside : Int → Byte) : Int → Byte :=
  arrayMemory length ((Buffer.fresh fun _ => (0 : Byte)).storeBlock 0 octets) outside

/-- The loop of `Calc_CRC_CCITT` with `uLength` octets to go. -/
def calcCrcLoop : Int → Nat → BitVec 16 → Loader Int Byte (BitVec 16)
  | _, 0, uCrcCcitt => pure uCrcCcitt
  | pBuf, uLength + 1, uCrcCcitt => do
      let octet ← load pBuf
      calcCrcLoop (pBuf + 1) uLength (getCrcCcitt uCrcCcitt octet)

/-- The length is an `unsigned short`, whatever the caller computed. -/
def calcCrcCcitt (pBuf : Int) (uLength : Int) : Loader Int Byte (BitVec 16) :=
  calcCrcLoop pBuf (BitVec.ofInt 16 uLength).toNat 0xFFFF#16

/-- The log's hex dump; only its loads matter here. -/
def hexdump (buf : Int) (len : Nat) : Loader Int Byte Unit := do
  let _ ← loadAll (block buf len)
  pure ()

/-! ## Encoding -/

/-- Returns the packet buffer and the number of octets placed from `pack` on. -/
def serviceFrame2Array (serviceFrame : ServiceFrame) (rawPack : Buffer Byte) (pack : Nat) :
    Buffer Byte × Int :=
  let rawPack := rawPack.store pack serviceFrame.size
  -- the two reserved octets are skipped
  let rawPack := rawPack.store (pack + 3) serviceFrame.controlType
  let rawPack := rawPack.store (pack + 4) serviceFrame.property
  let rawPack := rawPack.store (pack + 5) serviceFrame.channel
  let rawPack := rawPack.store (pack + 6) serviceFrame.controlStatus
  let dataLen : Int := serviceFrame.size.toNat - serviceFrameHead
  let copied := (List.range (sizeT dataLen)).map fun index => serviceFrame.data[index]?.getD 0
  (rawPack.storeBlock (pack + 7) copied, 7 + dataLen)

/-- The octets `SendPacketIn` hands to `com_send`, or `none` where it gives up. -/
def packetOf (serviceFrame : ServiceFrame) : Option (List Byte) :=
  let rawPack := Buffer.fresh fun _ => (0 : Byte)
  let packLen := serviceFrame.size.toNat + packFrameLeft
  let rawPack := rawPack.store 0 packStartFlag
  let rawPack := rawPack.store 1 (BitVec.ofNat 8 (packLen >>> 8))
  let rawPack := rawPack.store 2 (BitVec.ofNat 8 (packLen &&& 0xFF))
  let rawPack := rawPack.store 3 serviceIdSend
  let (rawPack, ret) := serviceFrame2Array serviceFrame rawPack 4
  if ret < errOk then none
  else
    let index := (4 + ret).toNat
    let crc := eval (fun address => rawPack.memory address.toNat) (calcCrcCcitt 0 index)
    let rawPack := rawPack.store index ((crc >>> 8).setWidth 8)
    let rawPack := rawPack.store (index + 1) ((crc &&& 0xFF#16).setWidth 8)
    some (Buffer.contents rawPack.memory 0 (index + 2))

def sendPacketIn (comPort : Int) (serviceFrame : Option ServiceFrame) : Session Int :=
  match serviceFrame with
  | none => pure errFail
  | some serviceFrame =>
      match packetOf serviceFrame with
      | none => pure errFail
      | some rawPack => do
          let len ← comSend comPort rawPack
          if len ≠ rawPack.length then pure errIosend else pure errOk

/-- The fixed acknowledgement, checksum included. -/
def ackBuf : List Byte := [0xaa, 0x00, 0x07, 0x05, 0x01, 0x17, 0x82]

theorem ackBuf_fits : ackBuf.length ≤ 7 := by decide

def sendAck (comPort : Int) : Session Int := do
  let len ← comSend comPort ackBuf
  if len ≠ 7 then pure errIosend else pure errOk

/-! ## Decoding -/

def analysisAck (len : Int) : Loader Int Byte Int := do
  if len < 7 then pure errFail
  else
    let start ← load 0
    if start ≠ packStartFlag then pure errFail
    else
      let lenHigh ← load 1
      let lenLow ← load 2
      let packLen : Int := (lenHigh.toNat <<< 8) + lenLow.toNat
      if packLen ≠ len then pure errFail
      else
        let serviceId ← load 3
        if serviceId ≠ serviceIdRecv then pure errFail
        else
          let respons ← load 4
          if respons ≠ responsSuccess then pure errFail
          else
            let crc ← calcCrcCcitt 0 (len - 2)
            let high ← load 5
            if high.toNat ≠ (crc >>> 8).toNat then pure errFail
            else
              let low ← load 6
              if low.toNat ≠ (crc &&& 0xFF#16).toNat then pure errFail
              else pure errOk

/-- What a decoder returns, and the octets it stored at `recvData` if it stored
any; their number is what it stored at `recvDataLen`. -/
structure Outcome where
  ret : Int
  stored : Option (List Byte)

def analysisFrame (data : Int) : Loader Int Byte Outcome := do
  let size ← load data
  let frameLen := size.toNat
  if frameLen < 7 ∨ frameLen > 255 then pure ⟨errFail, none⟩
  else
    let recvdata ← loadAll (block (data + 7) (frameLen - 7))
    hexdump data frameLen
    pure ⟨errOk, some recvdata⟩

def analysisPack (dataLen : Int) : Loader Int Byte Outcome := do
  if dataLen < 7 then pure ⟨errFail, none⟩
  else
    let start ← load 0
    if start ≠ packStartFlag then pure ⟨errFail, none⟩
    else
      let lenHigh ← load 1
      let lenLow ← load 2
      let packLen : Int := (lenHigh.toNat <<< 8) + lenLow.toNat
      let serviceId ← load 3
      if ¬ (serviceId = serviceIdRecv ∨ serviceId = serviceIdSend) then pure ⟨errFail, none⟩
      else
        let frame ← analysisFrame 4
        if frame.ret ≠ errOk then pure ⟨errFail, frame.stored⟩
        else
          let crc ← calcCrcCcitt 0 (packLen - 2)
          let high ← load (packLen - 2)
          if high.toNat ≠ (crc >>> 8).toNat then
            -- the log line prints both stored checksum octets
            let _ ← load (packLen - 2)
            let _ ← load (packLen - 1)
            pure ⟨errFail, frame.stored⟩
          else
            let low ← load (packLen - 1)
            if low.toNat ≠ (crc &&& 0xFF#16).toNat then pure ⟨errFail, frame.stored⟩
            else pure ⟨errOk, frame.stored⟩

end KnxDemo.ComPack
