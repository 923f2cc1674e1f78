import KnxDemo.Com.LightControl
import KnxDemo.Com.LightState
import KnxDemo.Com.RoundTrip

/-!
# Which report decides a session

Both sessions take the first report accepted after their acknowledgement. The
decoding chain drops the frame head, so the type, property, channel and status
octets of that report take no part in the decision.
-/

namespace KnxDemo.ComDecidingReport

open KnxDemo.Bytes KnxDemo.ComDefine KnxDemo.ComChecksum KnxDemo.ComDrive KnxDemo.ComPack
open KnxDemo.ComFunc KnxDemo.ComDecoding KnxDemo.ComEncoding KnxDemo.ComRoundTrip KnxDemo.ComSession
open KnxDemo.ComLightControl KnxDemo.ComLightState KnxDemo.ComPacketBounds KnxDemo.ComReception
open KnxDemo.Interaction

/-- The packet carries the control type and the channel of the requests. -/
def AnswersLight (report : List Byte) : Prop :=
  report[7]? = some lightControl ∧ report[9]? = some channel0

/-- The trace ends with the host's reply to an accepted report. -/
def RepliedTo (outside : Int → Byte) (request : ServiceFrame) (trace : PortTrace)
    (portH replied : Int) (report : List Byte) : Prop :=
  (∃ sent, Reported outside request trace portH sent (.received report)
      [⟨.write portH ackBuf, replied⟩, ⟨.close portH, ()⟩]) ∧
    AcceptedReport outside report

theorem packet_ne_ackBuf (request : ServiceFrame) (sized : 7 ≤ request.size.toNat) :
    packet request ≠ ackBuf := by
  intro same
  have lengths := congrArg List.length same
  rw [length_packet request sized] at lengths
  simp only [ackBuf, List.length_cons, List.length_nil] at lengths
  omega

theorem light_control_replied (budget : Nat) (outside : Int → Byte) (state : Byte)
    (trace : PortTrace) (ending : SessionEnd) (portH replied : Int)
    (ran : Completes (comLightControl budget outside state) trace ending)
    (written : ⟨.write portH ackBuf, replied⟩ ∈ trace) :
    ∃ report, RepliedTo outside (lightCommand state) trace portH replied report ∧
      decidingOctet outside report = state ∧ ending = .returned errOk := by
  have sized := light_control_sized state
  rw [comLightControl_eq] at ran
  obtain ⟨_, sent, report, tail, recvBuff, reported, accepted, deciding, concluded, member⟩ :=
    (completes_exchange _ _ _ _ sized _ _ ran).accepted_of_reply
      (packet_ne_ackBuf (lightCommand state) sized) written
  unfold compareReport at concluded
  by_cases same : state = recvBuff.memory 0
  · rw [if_neg (not_not.mpr same), completes_sendAck_bind] at concluded
    rcases concluded with ⟨_, rfl, returned⟩
    simp only [List.mem_cons, Event.mk.injEq, PortRequest.write.injEq, and_true, heq_eq_eq,
      reduceCtorEq, false_and, List.not_mem_nil, or_false] at member
    rcases member with ⟨rfl, rfl⟩
    exact ⟨report, ⟨⟨sent, reported⟩, accepted⟩, deciding.symm.trans same.symm, returned⟩
  · rw [if_pos same, completes_close] at concluded
    rcases concluded with ⟨rfl, _⟩
    simp at member

theorem light_state_replied (budget : Nat) (outside : Int → Byte) (trace : PortTrace)
    (ending : SessionEnd) (portH replied : Int)
    (ran : Completes (comLightStateControl budget outside) trace ending)
    (written : ⟨.write portH ackBuf, replied⟩ ∈ trace) :
    ∃ report, RepliedTo outside lightQuery trace portH replied report ∧
      ending = .returned (decidingOctet outside report).toNat := by
  rw [comLightStateControl_eq] at ran
  obtain ⟨_, sent, report, tail, recvBuff, reported, accepted, deciding, concluded, member⟩ :=
    (completes_exchange _ _ _ _ (by decide) _ _ ran).accepted_of_reply
      (packet_ne_ackBuf lightQuery (by decide)) written
  obtain ⟨_, rfl, returned⟩ := (completes_sendAck_bind _ _ _ _ _).mp concluded
  simp only [List.mem_cons, Event.mk.injEq, PortRequest.write.injEq, and_true, heq_eq_eq,
    reduceCtorEq, false_and, List.not_mem_nil, or_false] at member
  rcases member with ⟨rfl, rfl⟩
  exact ⟨report, ⟨⟨sent, reported⟩, accepted⟩, by rw [returned, deciding]⟩

structure EndsByReport (outside : Int → Byte) (state : Byte) (portH : Int) (report : List Byte)
    (tail : PortTrace) (ending : SessionEnd) : Prop where
  overlong : Overlong report → tail = [] ∧ ending = .overrun
  confirmed : ¬ Overlong report → decidingOctet outside report = state →
    (∃ replied : Int, tail = [⟨.write portH ackBuf, replied⟩, ⟨.close portH, ()⟩]) ∧
      ending = .returned errOk
  refuted : ¬ Overlong report → decidingOctet outside report ≠ state →
    tail = [⟨.close portH, ()⟩] ∧ ending = .returned errFail

structure ReturnsReport (outside : Int → Byte) (portH : Int) (report : List Byte)
    (tail : PortTrace) (ending : SessionEnd) : Prop where
  overlong : Overlong report → tail = [] ∧ ending = .overrun
  answered : ¬ Overlong report →
    (∃ replied : Int, tail = [⟨.write portH ackBuf, replied⟩, ⟨.close portH, ()⟩]) ∧
      ending = .returned (decidingOctet outside report).toNat

section Accepted

variable {budget : Nat} {outside : Int → Byte} {trace tail : PortTrace} {ending : SessionEnd}
  {portH sent : Int} {report : List Byte}

theorem light_control_decided {state : Byte}
    (ran : Completes (comLightControl budget outside state) trace ending)
    (reported : Reported outside (lightCommand state) trace portH sent (.received report) tail)
    (accepted : AcceptedReport outside report) :
    EndsByReport outside state portH report tail ending := by
  rw [comLightControl_eq] at ran
  rcases (completes_exchange _ _ _ _ (light_control_sized state) _ _ ran).answered_of_accepted
    reported accepted with ⟨overlong, nothing, overran⟩ | ⟨fits, recvBuff, deciding, concluded⟩
  · exact ⟨fun _ => ⟨nothing, overran⟩, fun fits => absurd overlong fits,
      fun fits => absurd overlong fits⟩
  unfold compareReport at concluded
  constructor
  · exact fun overlong => absurd overlong fits
  · intro _ decides
    rw [if_neg (not_not.mpr (decides.symm.trans deciding.symm)), completes_sendAck_bind]
      at concluded
    obtain ⟨replied, shape, returned⟩ := concluded
    exact ⟨⟨replied, shape⟩, returned⟩
  · intro _ differs
    have other : state ≠ recvBuff.memory 0 := fun same => differs (deciding.symm.trans same.symm)
    rwa [if_pos other, completes_close] at concluded

theorem light_state_decided
    (ran : Completes (comLightStateControl budget outside) trace ending)
    (reported : Reported outside lightQuery trace portH sent (.received report) tail)
    (accepted : AcceptedReport outside report) :
    ReturnsReport outside portH report tail ending := by
  rw [comLightStateControl_eq] at ran
  rcases (completes_exchange _ _ _ _ (by decide) _ _ ran).answered_of_accepted reported accepted
    with ⟨overlong, nothing, overran⟩ | ⟨fits, recvBuff, deciding, concluded⟩
  · exact ⟨fun _ => ⟨nothing, overran⟩, fun fits => absurd overlong fits⟩
  obtain ⟨replied, shape, returned⟩ := (completes_sendAck_bind _ _ _ _ _).mp concluded
  refine ⟨fun overlong => absurd overlong fits, fun _ => ⟨⟨replied, shape⟩, ?_⟩⟩
  rw [returned, deciding]

end Accepted

theorem packet_accepted (outside : Int → Byte) (serviceFrame : ServiceFrame)
    (sized : 8 ≤ serviceFrame.size.toNat) (fits : serviceFrame.size.toNat ≤ 94) :
    AcceptedReport outside (packet serviceFrame) ∧ ¬ Overlong (packet serviceFrame) ∧
      decidingOctet outside (packet serviceFrame) = serviceFrame.data[0] := by
  have length := length_packet serviceFrame (by omega)
  have received := received_receivedMemory 100 (packet serviceFrame) outside (by omega)
  have accepted : AcceptedReport outside (packet serviceFrame) := by
    rw [AcceptedReport, eval_analysisPack_packet (by omega) received _ (by omega)]
  have sizeOctet : (packet serviceFrame)[4]? = some serviceFrame.size := rfl
  have short : ¬ Overlong (packet serviceFrame) := by
    intro overlong
    have long := overlong.2
    rw [octetAt, List.getD_eq_getElem?_getD, sizeOctet, Option.getD_some, recvBuffLen,
      serviceFrameHead] at long
    omega
  have dataOctet : (packet serviceFrame)[11]? = some serviceFrame.data[0] := by
    have behind : (packet serviceFrame)[11]? = (serviceFrame.payload ++
        [highByte (crcOf (packetBody serviceFrame)),
          lowByte (crcOf (packetBody serviceFrame))])[0]? := rfl
    have first : serviceFrame.payload[0]? = some serviceFrame.data[0] := by
      rw [ServiceFrame.payload, List.getElem?_take_of_lt (by simp only [serviceFrameHead]; omega),
        Vector.getElem?_toList, Vector.getElem?_eq_getElem]
    rw [behind, List.getElem?_append_left (by rw [length_payload]; omega), first]
  have carries : serviceFrameHead < serviceFrame.size.toNat := by
    simp only [serviceFrameHead]
    omega
  exact ⟨accepted, short, decidingOctet_of_firstData accepted
    ⟨⟨serviceFrame.size, sizeOctet, carries⟩, dataOctet⟩⟩

/-- A report of channel 5 and of another control type. -/
def foreignReport : ServiceFrame where
  size := 8
  controlType := 2
  property := openClose
  channel := 5
  controlStatus := controlMsg
  data := (lightCommand 1).data

theorem foreign_report_fits : (packet foreignReport).length ≤ 100 := by decide +kernel

def foreignConfirmation : PortTrace :=
  [⟨.openPort comPath baundRate, (3 : Int)⟩,
    ⟨.write 3 (packet (lightCommand 1)), (14 : Int)⟩,
    ⟨.select 3 shortTimeOut, (1 : Int)⟩,
    ⟨.read 3 7, .delivered ackBuf ackBuf_fits⟩,
    ⟨.select 3 shortShortTimeOut, (1 : Int)⟩,
    ⟨.read 3 100, .delivered (packet foreignReport) foreign_report_fits⟩,
    ⟨.read 3 86, .failed⟩,
    ⟨.write 3 ackBuf, (7 : Int)⟩,
    ⟨.close 3, ()⟩]

theorem foreign_confirmation_completes :
    Completes (comLightControl 3 (fun _ => 0) 1) foreignConfirmation (.returned errOk) := by
  decide +kernel

theorem foreign_report_replied :
    RepliedTo (fun _ => 0) (lightCommand 1) foreignConfirmation 3 7 (packet foreignReport) := by
  have report : Receives 3 100 0
      [⟨.read 3 100, .delivered (packet foreignReport) foreign_report_fits⟩, ⟨.read 3 86, .failed⟩]
      (packet foreignReport ++ []) :=
    .delivered 0 (by decide) (packet foreignReport) foreign_report_fits _ []
      (.failed 14 (by decide))
  rw [List.append_nil] at report
  have accepted := (packet_accepted (fun _ => 0) foreignReport (by decide) (by decide)).1
  exact ⟨⟨14, ackBuf, _, _, by decide, by decide, accepted_ack, awaits_ack 3,
    .received 1 (by decide) _ _ report, rfl⟩, accepted⟩

end KnxDemo.ComDecidingReport
