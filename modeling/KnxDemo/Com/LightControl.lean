import KnxDemo.Com.Session

/-!
# Which failures comLightControl reports

`SendPacketIn` and `sendAck` report a short write with a positive code, and the
session tests their results for negative ones only. A failed `select` is folded
into the timeout that counts as success. Success is earned exactly in the runs
in which none of this happens.
-/

namespace KnxDemo.ComLightControl

open KnxDemo.Bytes KnxDemo.ComDefine KnxDemo.ComDrive KnxDemo.ComPack KnxDemo.ComFunc
open KnxDemo.ComEncoding KnxDemo.ComSession
open KnxDemo.Interaction

/-- What `comLightControl` does with an accepted report. -/
def compareReport (state : Byte) (portH : Int) (recvBuff : Buffer Byte) : Session SessionEnd :=
  if state ≠ recvBuff.memory 0 then do
    comClose portH
    pure (.returned errFail)
  else do
    let ret ← sendAck portH
    if ret < 0 then do
      comClose portH
      pure (.returned errIosend)
    else do
      comClose portH
      pure (.returned 0)

theorem comLightControl_eq (budget : Nat) (outside : Int → Byte) (state : Byte) :
    comLightControl budget outside state =
      exchange budget outside (lightCommand state) (compareReport state) := rfl

/-- The port was opened, the whole command was written, an acknowledgement was
accepted, and then either `select` returned zero or an accepted report whose first
data octet is the commanded state was answered with a complete reply. -/
def Confirmed (outside : Int → Byte) (state : Byte) (trace : PortTrace) : Prop :=
  ∃ portH awaited tail,
    Reported outside (lightCommand state) trace portH (packet (lightCommand state)).length
      awaited tail ∧
    (awaited = .silent 0 ∨
      ∃ report rest, awaited = .received report ∧ AcceptedReport outside report ∧
        FirstData report state ∧ tail = ⟨.write portH ackBuf, (7 : Int)⟩ :: rest)

/-- A run of the session does not overrun its arrays, and success is earned. -/
def EarnsSuccess (outside : Int → Byte) (state : Byte) (trace : PortTrace) (ending : SessionEnd) :
    Prop :=
  ending ≠ .overrun ∧ (ending = .returned errOk → Confirmed outside state trace)

/-- No answer of the port is one of the failures the session overlooks: the handle is small, and
once the acknowledgement is accepted, a wait that ends without data ended in a timeout
after a complete write of the command, and a report fits, and if it decides for the commanded
state it follows a complete write, delivered a data octet, and is answered by a
complete write. -/
structure NothingOverlooked (outside : Int → Byte) (state : Byte) (trace : PortTrace) : Prop where
  handle : HandleFits trace
  report : ∀ portH sent awaited tail,
    Reported outside (lightCommand state) trace portH sent awaited tail →
      match awaited with
      | .silent selected => selected = 0 ∧ sent = (packet (lightCommand state)).length
      | .received report =>
          ¬ Overlong report ∧
            (AcceptedReport outside report → decidingOctet outside report = state →
              sent = (packet (lightCommand state)).length ∧ (∃ octet, FirstData report octet) ∧
                ∃ rest, tail = ⟨.write portH ackBuf, (7 : Int)⟩ :: rest)

theorem light_control_sized (state : Byte) : 7 ≤ (lightCommand state).size.toNat := by
  change 7 ≤ (8 : Byte).toNat
  decide

section Reported

variable {outside : Int → Byte} {state : Byte} {trace : PortTrace} {portH sent : Int}
  {tail : PortTrace}

theorem confirmed_iff {awaited : Awaited}
    (reported : Reported outside (lightCommand state) trace portH sent awaited tail) :
    Confirmed outside state trace ↔
      sent = (packet (lightCommand state)).length ∧
        (awaited = .silent 0 ∨
          ∃ report rest, awaited = .received report ∧ AcceptedReport outside report ∧
            FirstData report state ∧ tail = ⟨.write portH ackBuf, (7 : Int)⟩ :: rest) := by
  constructor
  · intro confirmed
    obtain ⟨_, _, _, whole, outcome⟩ := confirmed
    obtain ⟨rfl, complete, rfl, rfl⟩ := whole.unique reported
    exact ⟨complete.symm, outcome⟩
  · intro parts
    obtain ⟨rfl, outcome⟩ := parts
    exact ⟨portH, awaited, tail, reported, outcome⟩

theorem nothing_overlooked_silent_iff {selected : Int}
    (reported : Reported outside (lightCommand state) trace portH sent (.silent selected) tail) :
    NothingOverlooked outside state trace ↔
      selected = 0 ∧ sent = (packet (lightCommand state)).length := by
  constructor
  · intro nothing
    exact nothing.report _ _ _ _ reported
  · intro here
    refine ⟨reported.handleFits, fun otherPort otherSent other otherTail otherReported => ?_⟩
    obtain ⟨rfl, rfl, rfl, rfl⟩ := reported.unique otherReported
    exact here

theorem nothing_overlooked_received_iff {report : List Byte}
    (reported : Reported outside (lightCommand state) trace portH sent (.received report) tail) :
    NothingOverlooked outside state trace ↔
      ¬ Overlong report ∧ (AcceptedReport outside report → decidingOctet outside report = state →
        sent = (packet (lightCommand state)).length ∧ (∃ octet, FirstData report octet) ∧
          ∃ rest, tail = ⟨.write portH ackBuf, (7 : Int)⟩ :: rest) := by
  constructor
  · intro nothing
    exact nothing.report _ _ _ _ reported
  · intro here
    refine ⟨reported.handleFits, fun otherPort otherSent other otherTail otherReported => ?_⟩
    obtain ⟨rfl, rfl, rfl, rfl⟩ := reported.unique otherReported
    exact here

end Reported

theorem first_data_iff {outside : Int → Byte} {report : List Byte} {state : Byte}
    (accepted : AcceptedReport outside report) (decides : decidingOctet outside report = state) :
    FirstData report state ↔ ∃ octet, FirstData report octet := by
  constructor
  · exact fun data => ⟨state, data⟩
  · intro delivered
    obtain ⟨octet, data⟩ := delivered
    have same : octet = state := (decidingOctet_of_firstData accepted data).symm.trans decides
    rwa [← same]

theorem earns_success_of_failed (outside : Int → Byte) (state : Byte) (trace : PortTrace) :
    EarnsSuccess outside state trace (.returned errFail) := by
  refine ⟨by simp, fun returned => ?_⟩
  simp [errFail, errOk] at returned

theorem earns_success_compared_iff {outside : Int → Byte} {state : Byte} {trace tail : PortTrace}
    {portH sent : Int} {report : List Byte} {recvBuff : Buffer Byte} {ending : SessionEnd}
    (reported : Reported outside (lightCommand state) trace portH sent (.received report) tail)
    (fits : ¬ Overlong report) (accepted : AcceptedReport outside report)
    (deciding : recvBuff.memory 0 = decidingOctet outside report)
    (concluded : Completes (compareReport state portH recvBuff) tail ending) :
    EarnsSuccess outside state trace ending ↔ NothingOverlooked outside state trace := by
  unfold compareReport at concluded
  rw [nothing_overlooked_received_iff reported, and_iff_right fits]
  by_cases same : state = recvBuff.memory 0
  · have decides : decidingOctet outside report = state := deciding.symm.trans same.symm
    rw [if_neg (not_not.mpr same), completes_sendAck_bind] at concluded
    obtain ⟨replied, rfl, returned⟩ := concluded
    have success : ending = .returned errOk := returned
    rw [EarnsSuccess, confirmed_iff reported, success, and_iff_right (by simp),
      forall_prop_of_true rfl, forall_prop_of_true accepted, forall_prop_of_true decides,
      ← first_data_iff accepted decides]
    constructor
    · intro confirmed
      obtain ⟨complete, timedOut | ⟨_, rest, received, _, data, answered⟩⟩ := confirmed
      · cases timedOut
      · cases received
        exact ⟨complete, data, rest, answered⟩
    · intro parts
      obtain ⟨complete, data, rest, answered⟩ := parts
      exact ⟨complete, .inr ⟨report, rest, rfl, accepted, data, answered⟩⟩
  · rw [if_pos same, completes_close] at concluded
    apply iff_of_true
    · rw [concluded.2]
      exact earns_success_of_failed outside state trace
    · exact fun _ decides => absurd (decides.symm.trans deciding.symm) same

/-- A `comLightControl` that ends is right about its success exactly when the port
showed it none of the failures it overlooks. -/
theorem light_control_success_iff (budget : Nat) (outside : Int → Byte) (state : Byte)
    (trace : PortTrace) (ending : SessionEnd)
    (ran : Completes (comLightControl budget outside state) trace ending) :
    EarnsSuccess outside state trace ending ↔ NothingOverlooked outside state trace := by
  rw [comLightControl_eq] at ran
  cases completes_exchange _ _ _ _ (light_control_sized state) _ _ ran with
  | unanswered early failed =>
      apply iff_of_true
      · rw [failed]
        exact earns_success_of_failed outside state trace
      · exact ⟨early.handleFits, fun _ _ _ _ reported => absurd reported early.not_reported⟩
  | unwaited portH sent large shape overran =>
      refine iff_of_false (fun earned => earned.1 overran) fun nothing => ?_
      have small := nothing.handle
      rw [shape, handleFits_cons] at small
      omega
  | silent portH sent selected reported returned =>
      rw [nothing_overlooked_silent_iff reported, EarnsSuccess, confirmed_iff reported, returned,
        and_iff_right (by simp), forall_prop_of_true rfl]
      constructor
      · intro confirmed
        obtain ⟨complete, timedOut | ⟨_, _, other, _⟩⟩ := confirmed
        · exact ⟨Awaited.silent.inj timedOut, complete⟩
        · cases other
      · intro timedOut
        obtain ⟨rfl, complete⟩ := timedOut
        exact ⟨complete, .inl rfl⟩
  | overlong portH sent report reported overlong overran =>
      rw [nothing_overlooked_received_iff reported]
      exact iff_of_false (fun earned => earned.1 overran) fun nothing => nothing.1 overlong
  | refused portH sent report reported fits rejected failed =>
      rw [nothing_overlooked_received_iff reported]
      apply iff_of_true
      · rw [failed]
        exact earns_success_of_failed outside state trace
      · exact ⟨fits, fun accepted => absurd accepted rejected⟩
  | accepted portH sent report tail recvBuff reported fits accepted deciding concluded =>
      exact earns_success_compared_iff reported fits accepted deciding concluded

/-- A run whose command write fails and whose report wait times out. -/
def lostCommand : PortTrace :=
  [⟨.openPort comPath baundRate, (3 : Int)⟩,
    ⟨.write 3 (packet (lightCommand 1)), (-1 : Int)⟩,
    ⟨.select 3 shortTimeOut, (1 : Int)⟩,
    ⟨.read 3 7, .delivered ackBuf ackBuf_fits⟩,
    ⟨.select 3 shortShortTimeOut, (0 : Int)⟩,
    ⟨.close 3, ()⟩]

theorem lost_command_completes :
    Completes (comLightControl 2 (fun _ => 0) 1) lostCommand (.returned errOk) := by
  decide +kernel

theorem lost_command_reported_as_success :
    ¬ ∀ budget outside state trace ending,
      Completes (comLightControl budget outside state) trace ending →
        EarnsSuccess outside state trace ending := by
  intro always
  obtain ⟨_, _, _, ⟨_, _, _, _, _, _, _, _, same⟩, _⟩ :=
    (always 2 (fun _ => 0) 1 lostCommand (.returned errOk) lost_command_completes).2 rfl
  simp [lostCommand] at same

theorem light_control_success_witness :
    EarnsSuccess (fun _ => 0) 1 lostCommand (.returned errOk) ↔
      NothingOverlooked (fun _ => 0) 1 lostCommand :=
  light_control_success_iff 2 (fun _ => 0) 1 lostCommand (.returned errOk) lost_command_completes

end KnxDemo.ComLightControl
