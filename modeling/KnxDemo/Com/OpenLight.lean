import KnxDemo.Com.DecidingReport
import KnxDemo.Com.Unending

/-!
# The integer openLight passes on

`openLight` hands a 32-bit integer to a function that takes an octet. The
command carries the octet normalised to zero or one, and the report is compared
with the octet as it came. Only zero and the integers whose low octet is one
survive both, and only where the report fits into the array of the session.
-/

namespace KnxDemo.ComOpenLight

open KnxDemo.Bytes KnxDemo.ComDefine KnxDemo.ComDrive KnxDemo.ComPack KnxDemo.ComFunc
open KnxDemo.ComEncoding KnxDemo.ComReception KnxDemo.ComSession KnxDemo.ComSessionRuns
open KnxDemo.ComLightControl KnxDemo.ComDecidingReport KnxDemo.ComUnending
open KnxDemo.Interaction

/-- The JNI entry, returning what it logs. -/
def openLight (budget : Nat) (outside : Int → Byte) (lightState : BitVec 32) :
    Session SessionEnd :=
  comLightControl budget outside (lightState.setWidth 8)

/-! ## The property -/

def requestedOctet (lightState : BitVec 32) : Byte := if lightState = 0 then 0 else 1

/-- The data octet of a command packet: it lies behind the envelope and the frame head. -/
def commandOctet (command : List Byte) : Option Byte := command[11]?

/-- The packet is the first write of the run, right behind the opening of the port. -/
def Commands (timeline : PortTimeline) (command : List Byte) : Prop :=
  ∃ portH len : Int, timeline 1 = some ⟨.write portH command, len⟩

/-- A port operation that did what it was asked for. A read that fails with `EAGAIN` and a wait
without data are no failures, but end of file is one. -/
def Succeeded (event : Event PortInterface) : Prop :=
  match event with
  | ⟨.openPort _ _, opened⟩ => (0 : Int) ≤ opened
  | ⟨.write _ data, len⟩ => len = (data.length : Int)
  | ⟨.select _ _, selected⟩ => (0 : Int) ≤ selected
  | ⟨.read _ _, .delivered octets _⟩ => octets ≠ []
  | ⟨.read _ _, .again⟩ => True
  | ⟨.read _ _, .failed⟩ => False
  | ⟨.close _, _⟩ => True

/-- Every port operation succeeds, and the device answers the command with a valid
acknowledgement and then with the valid report, whose first data octet is the one it was sent. -/
structure EchoedBy (outside : Int → Byte) (report : List Byte) (timeline : PortTimeline) :
    Prop where
  succeeded : ∀ time event, timeline time = some event → Succeeded event
  accepted : AcceptedReport outside report
  answered : ∃ (portH len : Int) (command ack : List Byte) (first second : PortTrace)
      (octet : Byte),
    0 ≤ portH ∧ AcceptedAck outside ack ∧ commandOctet command = some octet ∧
      FirstData report octet ∧ Awaits portH shortTimeOut ackLen first (.received ack) ∧
      Awaits portH shortShortTimeOut 100 second (.received report) ∧
      timeline.Begins (⟨.openPort comPath baundRate, portH⟩ :: ⟨.write portH command, len⟩ ::
        (first ++ second))

/-- The run returns, with success. -/
def Succeeds (outside : Int → Byte) (lightState : BitVec 32) (timeline : PortTimeline) : Prop :=
  ∃ budget trace, timeline = Timeline.ofTrace trace ∧
    Completes (openLight budget outside lightState) trace (.returned errOk)

/-- The command carries what was asked for, and when the device has carried it out and confirmed
it, that is reported as success. -/
structure Honours (outside : Int → Byte) (lightState : BitVec 32) (timeline : PortTimeline) :
    Prop where
  carries : ∀ command, Commands timeline command →
    commandOctet command = some (requestedOctet lightState)
  confirms : ∀ report, EchoedBy outside report timeline → Succeeds outside lightState timeline

/-- What the integer and the echo have to be like: a command that is sent does not lose the
integer in its low octet, and an echoed one was zero or one there, and its echo fits. -/
structure Survives (outside : Int → Byte) (lightState : BitVec 32) (timeline : PortTimeline) :
    Prop where
  truncated : ∀ command, Commands timeline command →
    lightState = 0 ∨ lightState.setWidth 8 ≠ 0
  compared : ∀ report, EchoedBy outside report timeline →
    ¬ Overlong report ∧ (lightState.setWidth 8 = 0 ∨ lightState.setWidth 8 = 1)

/-- Every report that echoes the command fits into `recvBuff`. -/
def EchoFits (outside : Int → Byte) (timeline : PortTimeline) : Prop :=
  ∀ report, EchoedBy outside report timeline → ¬ Overlong report

/-! ## The octet that is sent -/

theorem command_octet_packet (state : Byte) :
    commandOctet (packet (lightCommand state)) = some (if state = 0 then 0 else 1) := by
  by_cases off : state = 0
  · rw [off]
    decide +kernel
  · have same : lightCommand state = lightCommand 1 := by
      rw [lightCommand, lightCommand, if_neg off, if_neg (by decide)]
    rw [same, if_neg off]
    decide +kernel

section Run

variable {outside : Int → Byte} {state : Byte} {timeline : PortTimeline} {report : List Byte}

theorem command_written {command : List Byte}
    (course : Course (fun budget => comLightControl budget outside state) timeline)
    (commands : Commands timeline command) : command = packet (lightCommand state) := by
  obtain ⟨portH, len, written⟩ := commands
  cases course with
  | returned budget trace ending ran =>
      rw [comLightControl_eq] at ran
      unfold exchange at ran
      obtain ⟨opened, afterOpen, rfl, sending⟩ := (completes_comOpen_bind _ _ _ _ _).mp ran
      by_cases invalid : opened < 0
      · rw [if_pos invalid, if_pos (by decide)] at sending
        obtain ⟨rfl, _⟩ := (completes_pure _ _ _).mp sending
        cases written
      · rw [if_neg invalid, if_neg invalid] at sending
        obtain ⟨sent, afterSend, rfl, _⟩ :=
          (completes_sendPacketIn_bind _ _ (light_control_sized state) _ _ _).mp sending
        have same := Option.some.inj written
        simp only [Event.mk.injEq, PortRequest.write.injEq] at same
        exact same.1.2.symm
  | endless events unending =>
      obtain ⟨opened, sent, _, begins, _⟩ := endless_exchange_receives (light_control_sized state)
        (compareReport_returns state) unending
      have same := Option.some.inj ((Timeline.second_of_begins begins).symm.trans written)
      simp only [Event.mk.injEq, PortRequest.write.injEq] at same
      exact same.1.2.symm

theorem small_of_awaits {budget timeout len : Nat} {portH sent : Int} {first rest : PortTrace}
    {octets : List Byte} {awaited : Awaited} {ending : SessionEnd}
    (ran : Completes (comLightControl budget outside state)
      (⟨.openPort comPath baundRate, portH⟩ :: ⟨.write portH octets, sent⟩ :: (first ++ rest))
      ending)
    (awaits : Awaits portH timeout len first awaited) : portH < fdSetSize := by
  apply handleFits_cons.mp
  rw [comLightControl_eq] at ran
  cases completes_exchange _ _ _ _ (light_control_sized state) _ _ ran with
  | unanswered early failed => exact early.handleFits
  | unwaited _ _ _ shape _ =>
      cases awaits with
      | silent => simp at shape
      | received => simp at shape
  | silent _ _ _ reported => exact reported.handleFits
  | overlong _ _ _ reported => exact reported.handleFits
  | refused _ _ _ reported => exact reported.handleFits
  | accepted _ _ _ _ _ reported => exact reported.handleFits

theorem echoed_run (course : Course (fun budget => comLightControl budget outside state) timeline)
    (echoed : EchoedBy outside report timeline) :
    ∃ budget trace ending portH sent tail, timeline = Timeline.ofTrace trace ∧
      Completes (comLightControl budget outside state) trace ending ∧
      Reported outside (lightCommand state) trace portH sent (.received report) tail ∧
      FirstData report (if state = 0 then 0 else 1) := by
  obtain ⟨portH, len, command, ack, first, second, octet, opened, acceptedAck, carried, data,
    awaitsAck, awaitsReport, begins⟩ := echoed.answered
  have written : command = packet (lightCommand state) :=
    command_written course ⟨portH, len, Timeline.second_of_begins begins⟩
  subst written
  rw [command_octet_packet, Option.some.injEq] at carried
  rw [← carried] at data
  cases course with
  | endless events unending =>
      simp only [comLightControl_eq] at unending
      exact absurd unending (not_endless_of_reported (light_control_sized state)
        (compareReport_returns state) awaitsAck awaitsReport begins)
  | returned budget trace ending ran =>
      obtain ⟨tail, rfl⟩ := (Timeline.begins_ofTrace_iff _ _).mp begins
      rw [List.cons_append, List.cons_append, List.append_assoc] at ran ⊢
      exact ⟨budget, _, ending, portH, len, tail, rfl, ran, ⟨ack, first, second, opened,
        small_of_awaits ran awaitsAck, acceptedAck, awaitsAck, awaitsReport, rfl⟩, data⟩

theorem normalised_iff (state : Byte) :
    (if state = 0 then (0 : Byte) else 1) = state ↔ state = 0 ∨ state = 1 := by
  by_cases off : state = 0
  · rw [if_pos off]
    exact iff_of_true off.symm (.inl off)
  · rw [if_neg off, or_iff_right off]
    exact eq_comm

theorem echoed_succeeds_iff {budget : Nat} {trace tail : PortTrace} {ending : SessionEnd}
    {portH sent : Int} (ran : Completes (comLightControl budget outside state) trace ending)
    (reported : Reported outside (lightCommand state) trace portH sent (.received report) tail)
    (accepted : AcceptedReport outside report)
    (data : FirstData report (if state = 0 then 0 else 1)) :
    ending = .returned errOk ↔ ¬ Overlong report ∧ (state = 0 ∨ state = 1) := by
  have ends := light_control_decided ran reported accepted
  have decides := decidingOctet_of_firstData accepted data
  rw [← normalised_iff]
  constructor
  · intro success
    have fits : ¬ Overlong report := by
      intro overlong
      rw [(ends.overlong overlong).2] at success
      cases success
    refine ⟨fits, ?_⟩
    by_contra differs
    rw [← decides] at differs
    rw [(ends.refuted fits differs).2] at success
    simp [errFail, errOk] at success
  · intro both
    exact (ends.confirmed both.1 (decides.trans both.2)).2

end Run

/-! ## Runs that break the promise -/

/-- The report of a device that has switched the light on. -/
def lightOnReport : List Byte :=
  [0xAA, 0x00, 0x0E, 0x05, 0x08, 0x00, 0x00, 0x01, 0x00, 0x00, 0x02, 0x01, 0xD1, 0x4A]

theorem lightOnReport_fits : lightOnReport.length ≤ min (100 - 0) 200 := by decide

def ackReads : PortTrace := [⟨.read 3 (min (ackLen - 0) 200), .delivered ackBuf ackBuf_fits⟩]

def reportReads : PortTrace :=
  [⟨.read 3 (min (100 - 0) 200), .delivered lightOnReport lightOnReport_fits⟩,
    ⟨.read 3 (min (100 - lightOnReport.length) 200), .again⟩, ⟨.select 3 1000, (0 : Int)⟩]

def echoedCommand : PortTrace :=
  ⟨.openPort comPath baundRate, (3 : Int)⟩ :: ⟨.write 3 (packet (lightCommand 1)), (14 : Int)⟩ ::
    (⟨.select 3 shortTimeOut, (1 : Int)⟩ :: ackReads ++
      (⟨.select 3 shortShortTimeOut, (1 : Int)⟩ :: reportReads ++ [⟨.close 3, ()⟩]))

theorem awaits_report : Awaits 3 shortShortTimeOut 100
    (⟨.select 3 shortShortTimeOut, (1 : Int)⟩ :: reportReads) (.received lightOnReport) :=
  .received 1 (by decide) _ _ (.delivered 0 (by decide) lightOnReport lightOnReport_fits _ []
    (.stalled 14 (by decide) 0 (by decide)))

theorem accepted_report : AcceptedReport (fun _ => 0) lightOnReport := by
  unfold AcceptedReport
  decide +kernel

theorem lightOnReport_short : ¬ Overlong lightOnReport :=
  fun overlong => absurd overlong.2 (by decide)

theorem first_data_report : FirstData lightOnReport 1 :=
  ⟨⟨8, rfl, by decide⟩, rfl⟩

theorem echoed_echoedCommand :
    EchoedBy (fun _ => 0) lightOnReport (Timeline.ofTrace echoedCommand) where
  succeeded := by
    intro time event here
    have member := List.mem_of_getElem? here
    simp only [echoedCommand, ackReads, reportReads, List.cons_append, List.nil_append,
      List.mem_cons, List.not_mem_nil, or_false] at member
    rcases member with rfl | rfl | rfl | rfl | rfl | rfl | rfl | rfl | rfl
    · exact Int.le.intro 3 rfl
    · have length := length_packet (lightCommand 1) (by decide)
      simp only [Succeeded, length]
      rfl
    · exact Int.le.intro 1 rfl
    · exact List.cons_ne_nil _ _
    · exact Int.le.intro 1 rfl
    · exact List.cons_ne_nil _ _
    · trivial
    · exact Int.le_refl 0
    · trivial
  accepted := accepted_report
  answered := by
    refine ⟨3, 14, _, ackBuf, _, _, 1, by decide, accepted_ack, command_octet_packet 1,
      first_data_report, awaits_ack 3, awaits_report, ?_⟩
    exact (Timeline.begins_ofTrace_iff _ _).mpr ⟨[⟨.close 3, ()⟩], rfl⟩

theorem echoedCommand_reported {state : Byte} (nonzero : state ≠ 0) :
    Reported (fun _ => 0) (lightCommand state) echoedCommand 3 14 (.received lightOnReport)
      [⟨.close 3, ()⟩] := by
  have same : lightCommand state = lightCommand 1 := by
    rw [lightCommand, lightCommand, if_neg nonzero, if_neg (by decide)]
  rw [same]
  exact ⟨ackBuf, _, _, by decide, by decide, accepted_ack, awaits_ack 3, awaits_report, rfl⟩

theorem echoedCommand_fails {state : Byte} (nonzero : state ≠ 0) (notOne : state ≠ 1) :
    ∃ budget, Completes (comLightControl budget (fun _ => 0) state) echoedCommand
      (.returned errFail) := by
  have decides := decidingOctet_of_firstData accepted_report first_data_report
  rw [decidingOctet] at decides
  simp only [comLightControl_eq]
  refine exchange_completes (light_control_sized state) (echoedCommand_reported nonzero)
    lightOnReport_short accepted_report ?_
  unfold compareReport
  rw [decides, if_pos notOne]
  exact (completes_close _ _ _ _).mpr ⟨rfl, rfl⟩

def unansweredOff : PortTrace :=
  [⟨.openPort comPath baundRate, (3 : Int)⟩, ⟨.write 3 (packet (lightCommand 0)), (14 : Int)⟩,
    ⟨.select 3 shortTimeOut, (0 : Int)⟩, ⟨.close 3, ()⟩]

theorem unansweredOff_completes :
    Completes (comLightControl 0 (fun _ => 0) 0) unansweredOff (.returned errFail) := by
  decide +kernel

theorem unansweredOff_course {lightState : BitVec 32} (truncated : lightState.setWidth 8 = 0) :
    Course (fun budget => openLight budget (fun _ => 0) lightState)
      (Timeline.ofTrace unansweredOff) := by
  refine .returned 0 unansweredOff (.returned errFail) ?_
  rw [openLight, truncated]
  exact unansweredOff_completes

theorem unansweredOff_silent {outside : Int → Byte} :
    EchoFits outside (Timeline.ofTrace unansweredOff) := by
  intro report echoed
  obtain ⟨portH, len, command, ack, first, second, octet, _, _, _, _, awaitsAck, _, begins⟩ :=
    echoed.answered
  obtain ⟨tail, shape⟩ := (Timeline.begins_ofTrace_iff _ _).mp begins
  cases awaitsAck with
  | received selected ready =>
      simp only [unansweredOff, List.cons_append, List.cons.injEq, Event.mk.injEq] at shape
      obtain ⟨_, _, ⟨_, same⟩, _⟩ := shape
      cases eq_of_heq same
      exact absurd ready (by decide)

/-! ## The integers that survive -/

section Request

variable {outside : Int → Byte} {lightState : BitVec 32} {timeline : PortTimeline}

theorem low_octet_one_iff (lightState : BitVec 32) :
    lightState.setWidth 8 = 1 ↔ lightState.toNat % 256 = 1 := by
  rw [← BitVec.toNat_inj, BitVec.toNat_setWidth]
  rfl

theorem requested_iff (lightState : BitVec 32) :
    (if lightState.setWidth 8 = (0 : Byte) then (0 : Byte) else 1) = requestedOctet lightState ↔
      lightState = 0 ∨ lightState.setWidth 8 ≠ (0 : Byte) := by
  unfold requestedOctet
  by_cases off : lightState = 0
  · rw [off]
    decide
  · rw [if_neg off, or_iff_right off, ite_eq_right_iff]
    constructor
    · intro kept zero
      exact absurd (kept zero) (by decide)
    · exact fun kept zero => absurd zero kept

theorem honours_iff (course : Course (fun budget => openLight budget outside lightState) timeline) :
    Honours outside lightState timeline ↔ Survives outside lightState timeline := by
  have carried : ∀ command, Commands timeline command →
      (commandOctet command = some (requestedOctet lightState) ↔
        lightState = 0 ∨ lightState.setWidth 8 ≠ 0) := by
    intro command commands
    rw [command_written course commands, command_octet_packet, Option.some.injEq, requested_iff]
  constructor
  · intro honours
    refine ⟨fun command commands => (carried command commands).mp (honours.carries _ commands),
      fun report echoed => ?_⟩
    obtain ⟨budget, trace, rfl, ran⟩ := honours.confirms report echoed
    obtain ⟨_, other, _, _, _, _, same, _, reported, data⟩ := echoed_run course echoed
    rw [← Timeline.ofTrace_injective same] at reported
    exact (echoed_succeeds_iff ran reported echoed.accepted data).mp rfl
  · intro survives
    refine ⟨fun command commands => (carried command commands).mpr (survives.truncated _ commands),
      fun report echoed => ?_⟩
    obtain ⟨budget, trace, _, _, _, _, same, ran, reported, data⟩ := echoed_run course echoed
    rw [(echoed_succeeds_iff ran reported echoed.accepted data).mpr
      (survives.compared report echoed)] at ran
    exact ⟨budget, trace, same, ran⟩

end Request

/-- Each run of a light request honours it exactly when its command does not lose the integer,
and the octet that was echoed is zero or one and the echo fits; where the echoes fit, the requests
that every run honours are zero and the integers whose low octet is one. -/
theorem light_request_iff (lightState : BitVec 32) :
    (∀ outside timeline, Course (fun budget => openLight budget outside lightState) timeline →
      (Honours outside lightState timeline ↔ Survives outside lightState timeline)) ∧
    ((∀ outside timeline, Course (fun budget => openLight budget outside lightState) timeline →
      EchoFits outside timeline → Honours outside lightState timeline) ↔
        lightState = 0 ∨ lightState.toNat % 256 = 1) := by
  refine ⟨fun outside timeline course => honours_iff course, ?_⟩
  rw [← low_octet_one_iff]
  constructor
  · intro always
    by_contra other
    obtain ⟨nonzero, notOne⟩ := not_or.mp other
    by_cases truncated : lightState.setWidth 8 = 0
    · have course := unansweredOff_course truncated
      have honours := always _ _ course unansweredOff_silent
      cases ((honours_iff course).mp honours).truncated _ ⟨3, 14, rfl⟩ with
      | inl off => exact nonzero off
      | inr kept => exact kept truncated
    · obtain ⟨budget, ran⟩ := echoedCommand_fails truncated notOne
      have course : Course (fun budget => openLight budget (fun _ => 0) lightState)
          (Timeline.ofTrace echoedCommand) := .returned budget _ _ ran
      have fits : EchoFits (fun _ => 0) (Timeline.ofTrace echoedCommand) := by
        intro report echoed
        obtain ⟨_, trace, _, _, _, _, same, _, reported, _⟩ := echoed_run course echoed
        rw [← Timeline.ofTrace_injective same] at reported
        obtain ⟨_, _, same, _⟩ := reported.unique (echoedCommand_reported truncated)
        cases same
        exact lightOnReport_short
      have honours := always _ _ course fits
      cases (((honours_iff course).mp honours).compared _ echoed_echoedCommand).2 with
      | inl off => exact truncated off
      | inr on => exact notOne on
  · intro survives outside timeline course fits
    refine (honours_iff course).mpr ⟨fun _ _ => ?_, fun report echoed => ⟨fits report echoed, ?_⟩⟩
    · cases survives with
      | inl off => exact .inl off
      | inr on => exact .inr (by rw [on]; decide)
    · cases survives with
      | inl off => exact .inl (by rw [off]; decide)
      | inr on => exact .inr on

theorem echoedCommand_two :
    Completes (openLight 3 (fun _ => 0) 2) echoedCommand (.returned errFail) := by
  decide +kernel

theorem light_request_witness :
    Honours (fun _ => 0) 2 (Timeline.ofTrace echoedCommand) ↔
      Survives (fun _ => 0) 2 (Timeline.ofTrace echoedCommand) :=
  (light_request_iff 2).1 (fun _ => 0) _ (.returned 3 _ _ echoedCommand_two)

theorem confirmed_command_reported_as_failure :
    ¬ ∀ outside lightState timeline,
      Course (fun budget => openLight budget outside lightState) timeline →
        Honours outside lightState timeline := by
  intro always
  have course : Course (fun budget => openLight budget (fun _ => 0) 2)
      (Timeline.ofTrace echoedCommand) := .returned 3 _ _ echoedCommand_two
  have honours := always (fun _ => 0) 2 _ course
  have compared := (((honours_iff course).mp honours).compared _ echoed_echoedCommand).2
  exact absurd compared (by decide)

end KnxDemo.ComOpenLight
