import KnxDemo.Com.Define
import KnxDemo.Interaction.Program
import KnxDemo.Interaction.Buffer

/-!
# The serial port

The system calls of `ComDrive.cpp` are the requests of an interface; what they
return is left to the environment. A `read` answers with at most as many octets
as it was asked for, or fails with or without `EAGAIN`; every other call may
return any integer. `com_recv` loops for as long as the port keeps answering,
so it takes a budget of `read` calls.
-/

namespace KnxDemo.ComDrive

open KnxDemo.Bytes KnxDemo.ComDefine KnxDemo.Interaction

inductive PortRequest where
  | openPort (portname : String) (bps : Nat)
  | write (portH : Int) (data : List Byte)
  | select (portH : Int) (timeout : Nat)
  | read (portH : Int) (count : Nat)
  | close (portH : Int)
  deriving DecidableEq

/-- What `read(fd, p, count)` may do: store octets at `p` and return their
number, or return `-1` with `errno` set to `EAGAIN` or to something else. -/
inductive ReadAnswer (count : Nat) where
  | delivered (octets : List Byte) (fits : octets.length ≤ count)
  | again
  | failed

abbrev PortInterface : Interface where
  Request := PortRequest
  Answer
    | .openPort _ _ => Int
    | .write _ _ => Int
    | .select _ _ => Int
    | .read _ count => ReadAnswer count
    | .close _ => Unit

abbrev PortTrace := Trace PortInterface

abbrev Session (Result : Type) := Budgeted PortInterface Result

def comOpen (portname : String) (bps : Nat) : Session Int := do
  let portH ← ask (I := PortInterface) (.openPort portname bps)
  if portH < 0 then pure (-2) else pure portH

def comClose (portH : Int) : Session Unit :=
  ask (I := PortInterface) (.close portH)

def comWait (portH : Int) (timeout : Nat) : Session Int := do
  let result ← ask (I := PortInterface) (.select portH timeout)
  if result = -1 then pure (-1)
  else if result = 0 then pure 1
  else pure 0

def comSend (portH : Int) (data : List Byte) : Session Int :=
  ask (I := PortInterface) (.write portH data)

/-- The loop of `com_recv` with `k` octets received so far. -/
def comRecvLoop (portH : Int) (len : Nat) :
    Nat → Nat → Buffer Byte → Session (Nat × Buffer Byte)
  | 0, _, _ => failure
  | budget + 1, k, data =>
      if k < len then do
        let m ← ask (I := PortInterface) (.read portH (min (len - k) 200))
        match m with
        | .failed => pure (k, data)
        | .again =>
            let ready ← comWait portH 1000
            if ready ≠ 0 then pure (k, data) else comRecvLoop portH len budget k data
        | .delivered octets _ =>
            comRecvLoop portH len budget (k + octets.length) (data.storeBlock k octets)
      else pure (len, data)

def comRecv (budget : Nat) (portH : Int) (data : Buffer Byte) (len : Nat) :
    Session (Nat × Buffer Byte) :=
  comRecvLoop portH len budget 0 data

/-! ## Runs of the port functions -/

/-- What `com_wait` makes of the result of `select`. -/
def waitResult (selected : Int) : Int :=
  if selected = -1 then -1 else if selected = 0 then 1 else 0

section Requests

variable {Result : Type}

theorem comOpen_bind (portname : String) (bps : Nat) (rest : Int → Session Result) :
    comOpen portname bps >>= rest =
      ask (I := PortInterface) (.openPort portname bps) >>= fun (opened : Int) =>
        rest (if opened < 0 then -2 else opened) := by
  unfold comOpen
  rw [bind_assoc]
  congr 1
  funext opened
  split_ifs <;> rw [pure_bind]

theorem comWait_bind (portH : Int) (timeout : Nat) (rest : Int → Session Result) :
    comWait portH timeout >>= rest =
      ask (I := PortInterface) (.select portH timeout) >>= fun (selected : Int) =>
        rest (waitResult selected) := by
  unfold comWait waitResult
  rw [bind_assoc]
  congr 1
  funext selected
  split_ifs <;> rw [pure_bind]

end Requests

section Runs

variable {Result : Type} (trace : PortTrace) (result : Result)

theorem completes_comOpen_bind (portname : String) (bps : Nat) (rest : Int → Session Result) :
    Completes (comOpen portname bps >>= rest) trace result ↔
      ∃ (opened : Int) (tail : PortTrace), trace = ⟨.openPort portname bps, opened⟩ :: tail ∧
        Completes (rest (if opened < 0 then -2 else opened)) tail result := by
  rw [comOpen_bind]
  exact completes_ask_bind (I := PortInterface) (.openPort portname bps) _ trace result

theorem completes_comClose_bind (portH : Int) (rest : Unit → Session Result) :
    Completes (comClose portH >>= rest) trace result ↔
      ∃ tail : PortTrace, trace = ⟨.close portH, ()⟩ :: tail ∧
        Completes (rest ()) tail result := by
  refine (completes_ask_bind (I := PortInterface) (.close portH) rest trace result).trans ?_
  exact ⟨fun ⟨_, tail, ran⟩ => ⟨tail, ran⟩, fun ⟨tail, ran⟩ => ⟨(), tail, ran⟩⟩

theorem run_comWait_bind {Result : Type} (portH : Int) (timeout : Nat)
    (rest : Int → Session Result) (trace : PortTrace) (result : Option Result) :
    (comWait portH timeout >>= rest).run.Run trace result ↔
      ∃ (selected : Int) (tail : PortTrace),
        trace = ⟨.select portH timeout, selected⟩ :: tail ∧
          (rest (waitResult selected)).run.Run tail result := by
  rw [comWait_bind]
  exact run_ask_bind (I := PortInterface) (.select portH timeout) _ trace result

theorem completes_comWait_bind (portH : Int) (timeout : Nat) (rest : Int → Session Result) :
    Completes (comWait portH timeout >>= rest) trace result ↔
      ∃ (selected : Int) (tail : PortTrace),
        trace = ⟨.select portH timeout, selected⟩ :: tail ∧
          Completes (rest (waitResult selected)) tail result :=
  run_comWait_bind portH timeout rest trace (some result)

end Runs

end KnxDemo.ComDrive
