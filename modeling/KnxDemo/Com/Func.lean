import KnxDemo.Com.Pack

/-!
# The two serial sessions

`ComFunc.cpp` as it stands: every exit tests only the failures its condition
names, and the exits are written out as they are there. `outside` is whatever
lies around the receive arrays on the stack. A session that stores behind the
end of one of its arrays ends there, since it may do anything from then on.
-/

namespace KnxDemo.ComFunc

open KnxDemo.Bytes KnxDemo.ComDefine KnxDemo.ComDrive KnxDemo.ComPack
open KnxDemo.Interaction KnxDemo.Interaction.Loader

def zeroed : Buffer Byte := Buffer.fresh fun _ => 0

def recAck (budget : Nat) (outside : Int → Byte) (portH : Int) : Session Int := do
  let ret ← comWait portH shortTimeOut
  if ret ≠ 0 then pure errTimeOut
  else
    let (len, ackBuff) ← comRecv budget portH zeroed ackLen
    if len ≤ 0 then pure errIorecv
    else
      let ret := eval (arrayMemory ackLen ackBuff outside) (analysisAck len)
      if ret ≠ 0 then pure errFail else pure errOk

/-- The result, and what was stored at the caller's `data` and `dataLen`. -/
def recBuff (budget : Nat) (outside : Int → Byte) (portH : Int) : Session Outcome := do
  let ret ← comWait portH shortShortTimeOut
  if ret ≠ 0 then pure ⟨errTimeOut, none⟩
  else
    let (len, recvBuff) ← comRecv budget portH zeroed 100
    if len ≤ 0 then pure ⟨errIorecv, none⟩
    else
      let outcome := eval (arrayMemory 100 recvBuff outside) (analysisPack len)
      if outcome.ret ≠ 0 then pure ⟨errFail, outcome.stored⟩
      else pure ⟨errOk, outcome.stored⟩

/-- A session returns, or has stored behind the end of an array. -/
inductive SessionEnd where
  | returned (ret : Int)
  | overrun
  deriving DecidableEq

/-- The number of bits in an `fd_set`. -/
def fdSetSize : Nat := 1024

def recvBuffLen : Nat := 100

/-- The copy of `analysisFrame` went behind the end of the caller's `recvBuff`. -/
def overruns (report : Outcome) : Prop := recvBuffLen < (report.stored.getD []).length

instance (report : Outcome) : Decidable (overruns report) := inferInstanceAs (Decidable (_ < _))

/-- The caller's zero-initialised array after `recBuff`, if nothing went behind its end. -/
def recvBuffAfter (stored : Option (List Byte)) : Buffer Byte :=
  zeroed.storeBlock 0 (stored.getD [])

def lightCommand (state : Byte) : ServiceFrame where
  size := 8
  controlType := lightControl
  property := openClose
  channel := channel0
  controlStatus := controlMsg
  data := (Vector.replicate maxServiceFrame 0).set 0 (if state = 0 then 0 else 1)
    zero_lt_maxServiceFrame

def lightQuery : ServiceFrame where
  size := 7
  controlType := lightControl
  property := openCloseState
  channel := channel0
  controlStatus := readStateMsg
  data := Vector.replicate maxServiceFrame 0

def comLightControl (budget : Nat) (outside : Int → Byte) (state : Byte) : Session SessionEnd := do
  let portH ← comOpen comPath baundRate
  if portH < 0 then pure (.returned (-1))
  else
    let ret ← sendPacketIn portH (some (lightCommand state))
    if ret < 0 then do
      comClose portH
      pure (.returned errIosend)
    -- `com_wait` sets the bit of the handle
    else if fdSetSize ≤ portH then pure .overrun
    else
      let ret ← recAck budget outside portH
      if ret ≠ errOk then do
        comClose portH
        pure (.returned errFail)
      else
        let report ← recBuff budget outside portH
        if overruns report then pure .overrun
        else if report.ret = errTimeOut then do
          comClose portH
          pure (.returned errOk)
        else if report.ret ≠ errOk then do
          comClose portH
          pure (.returned errFail)
        else if state ≠ (recvBuffAfter report.stored).memory 0 then do
          comClose portH
          pure (.returned errFail)
        else
          let ret ← sendAck portH
          if ret < 0 then do
            comClose portH
            pure (.returned errIosend)
          else do
            comClose portH
            pure (.returned 0)

def comLightStateControl (budget : Nat) (outside : Int → Byte) : Session SessionEnd := do
  let portH ← comOpen comPath baundRate
  if portH < 0 then pure (.returned (-1))
  else
    let ret ← sendPacketIn portH (some lightQuery)
    if ret < 0 then do
      comClose portH
      pure (.returned errIosend)
    -- `com_wait` sets the bit of the handle
    else if fdSetSize ≤ portH then pure .overrun
    else
      let ret ← recAck budget outside portH
      if ret ≠ errOk then do
        comClose portH
        pure (.returned errFail)
      else
        let report ← recBuff budget outside portH
        if overruns report then pure .overrun
        else if report.ret = errTimeOut then do
          comClose portH
          pure (.returned errOk)
        else if report.ret ≠ errOk then do
          comClose portH
          pure (.returned errFail)
        else
          let ret ← sendAck portH
          if ret < 0 then do
            comClose portH
            pure (.returned errIosend)
          else do
            comClose portH
            pure (.returned ((recvBuffAfter report.stored).memory 0).toNat)

end KnxDemo.ComFunc
