import KnxDemo.Com.DecidingReport
import KnxDemo.Com.Termination
import KnxDemo.Com.Unending

/-!
# The discipline of the sessions on the port

What a session opens it closes, once and last, what it was asked to send it sends
once and before it reads, and it replies at most once, to a report it accepted.
Three things get in the way: a reception that never ends keeps the port open, a
session that stores behind the end of an array may do anything, and a report
without data passes for one that carries a zero.
-/

namespace KnxDemo.ComDiscipline

open KnxDemo.Bytes KnxDemo.ComDefine KnxDemo.ComDrive KnxDemo.ComPack KnxDemo.ComFunc
open KnxDemo.ComEncoding KnxDemo.ComReception KnxDemo.ComSession KnxDemo.ComUnending
open KnxDemo.ComLightControl KnxDemo.ComLightState KnxDemo.ComDecidingReport
open KnxDemo.ComTermination
open KnxDemo.Interaction

/-! ## The property -/

section Events

variable (timeline : PortTimeline)

def Opened (portH : Int) : Prop :=
  0 ≤ portH ∧ ∃ time portname bps, timeline time = some ⟨.openPort portname bps, portH⟩

def ClosesAt (time : Nat) (portH : Int) : Prop := timeline time = some ⟨.close portH, ()⟩

def SendsAt (time : Nat) (portH : Int) (octets : List Byte) : Prop :=
  ∃ len : Int, timeline time = some ⟨.write portH octets, len⟩

def ReadsAt (time : Nat) : Prop :=
  ∃ portH count answer, timeline time = some ⟨.read portH count, answer⟩

def AcceptedBefore (outside : Int → Byte) (request : ServiceFrame) (time : Nat)
    (report : List Byte) : Prop :=
  ∃ before portH sent, before.length ≤ time ∧ timeline.Begins before ∧
    Reported outside request before portH sent (.received report) [] ∧
    AcceptedReport outside report

/-- An opened port is closed once and last, and gets the request once and before any read; a
port that was not opened is neither closed nor sent the request. -/
structure KeepsPort (request : ServiceFrame) : Prop where
  closes : ∀ portH, Opened timeline portH → ∃ last, ClosesAt timeline last portH ∧
    (∀ later, last < later → timeline later = none) ∧
    ∀ time other, ClosesAt timeline time other → time = last
  sends : ∀ portH, Opened timeline portH → ∃ sent, SendsAt timeline sent portH (packet request) ∧
    (∀ time other, SendsAt timeline time other (packet request) → time = sent) ∧
    ∀ time, ReadsAt timeline time → sent < time
  unopened : (∀ portH, ¬ Opened timeline portH) → ∀ time portH,
    ¬ ClosesAt timeline time portH ∧ ¬ SendsAt timeline time portH (packet request)

/-- At most one reply, and only after a report of the right kind was accepted. -/
structure RepliesProperly (outside : Int → Byte) (request : ServiceFrame)
    (answers : List Byte → Prop) : Prop where
  once : ∀ time other portH otherPort, SendsAt timeline time portH ackBuf →
    SendsAt timeline other otherPort ackBuf → time = other
  afterReport : ∀ time portH, SendsAt timeline time portH ackBuf →
    ∃ report, AcceptedBefore timeline outside request time report ∧ answers report

/-- The discipline of a session on the port. -/
structure Disciplined (outside : Int → Byte) (request : ServiceFrame)
    (answers : List Byte → Prop) : Prop where
  port : KeepsPort timeline request
  replies : RepliesProperly timeline outside request answers

/-- `com_wait` finds room for the handle in its `fd_set`. -/
def HandlesFit : Prop := ∀ portH, Opened timeline portH → portH < fdSetSize

/-- Every report that the decoder copies fits into `recvBuff`. -/
def ReportsFit (outside : Int → Byte) (request : ServiceFrame) : Prop :=
  ∀ before portH sent report, timeline.Begins before →
    Reported outside request before portH sent (.received report) [] → ¬ Overlong report

/-- Every report that is accepted delivered a data octet. -/
def ReportsCarryData (outside : Int → Byte) (request : ServiceFrame) : Prop :=
  ∀ time report, AcceptedBefore timeline outside request time report →
    ∃ octet, FirstData report octet

end Events

/-! ## Sessions that return -/

/-- A session that opened the port: the request, the waits and reads, at most replies, the
close. -/
def openedTrace (request : ServiceFrame) (portH sent : Int) (waits replies : PortTrace) :
    PortTrace :=
  ⟨.openPort comPath baundRate, portH⟩ :: ⟨.write portH (packet request), sent⟩ ::
    (waits ++ (replies ++ [⟨.close portH, ()⟩]))

def IsReply (event : Event PortInterface) : Prop :=
  ∃ (portH replied : Int), event = ⟨.write portH ackBuf, replied⟩

inductive SessionTrace (request : ServiceFrame) (trace : PortTrace) : Prop
  | unopened (opened : Int) (invalid : opened < 0)
      (shape : trace = [⟨.openPort comPath baundRate, opened⟩])
  | closed (portH sent : Int) (waits replies : PortTrace) (opened : 0 ≤ portH)
      (small : portH < fdSetSize) (waiting : ∀ event ∈ waits, Waiting event)
      (replying : ∀ event ∈ replies, IsReply event)
      (shape : trace = openedTrace request portH sent waits replies)

theorem mem_of_at {trace : PortTrace} {time : Nat} {event : Event PortInterface}
    (here : Timeline.ofTrace trace time = some event) : event ∈ trace :=
  List.mem_of_getElem? here

theorem not_opened_of_invalid {opened : Int} (invalid : opened < 0) (portH : Int) :
    ¬ Opened (Timeline.ofTrace [⟨.openPort comPath baundRate, opened⟩]) portH := by
  intro wasOpened
  obtain ⟨valid, time, portname, bps, here⟩ := wasOpened
  have member := mem_of_at here
  simp only [List.mem_singleton, Event.mk.injEq, PortRequest.openPort.injEq] at member
  obtain ⟨⟨rfl, rfl⟩, same⟩ := member
  have handle : portH = opened := by simpa using same
  omega

theorem keeps_port_of_unopened {request : ServiceFrame} {opened : Int} (invalid : opened < 0) :
    KeepsPort (Timeline.ofTrace [⟨.openPort comPath baundRate, opened⟩]) request := by
  have never := not_opened_of_invalid invalid
  refine ⟨fun portH wasOpened => absurd wasOpened (never portH),
    fun portH wasOpened => absurd wasOpened (never portH), fun _ time portH => ⟨?_, ?_⟩⟩
  · intro here
    have member := mem_of_at here
    simp at member
  · intro sending
    obtain ⟨len, here⟩ := sending
    have member := mem_of_at here
    simp at member

section Opened

variable {request : ServiceFrame} {portH sent : Int} {waits replies : PortTrace}

theorem opened_openedTrace {other : Int}
    (waiting : ∀ event ∈ waits, Waiting event) (replying : ∀ event ∈ replies, IsReply event)
    (wasOpened : Opened (Timeline.ofTrace (openedTrace request portH sent waits replies)) other) :
    other = portH := by
  obtain ⟨_, time, portname, bps, here⟩ := wasOpened
  have member := mem_of_at here
  simp only [openedTrace, List.mem_cons, List.mem_append, List.not_mem_nil, or_false] at member
  rcases member with first | second | waited | replied | last
  · simp only [Event.mk.injEq, PortRequest.openPort.injEq] at first
    obtain ⟨⟨rfl, rfl⟩, same⟩ := first
    simpa using same
  · simp at second
  · exact absurd (waiting _ waited) id
  · obtain ⟨_, _, same⟩ := replying _ replied
    simp at same
  · simp at last

theorem closes_openedTrace
    (waiting : ∀ event ∈ waits, Waiting event) (replying : ∀ event ∈ replies, IsReply event) :
    ∃ last, ClosesAt (Timeline.ofTrace (openedTrace request portH sent waits replies)) last portH ∧
      (∀ later, last < later →
        Timeline.ofTrace (openedTrace request portH sent waits replies) later = none) ∧
      ∀ time other, ClosesAt (Timeline.ofTrace (openedTrace request portH sent waits replies))
        time other → time = last := by
  let front : PortTrace := ⟨.openPort comPath baundRate, portH⟩ ::
    ⟨.write portH (packet request), sent⟩ :: (waits ++ replies)
  have split : openedTrace request portH sent waits replies = front ++ [⟨.close portH, ()⟩] := by
    simp [openedTrace, front]
  have clean : ∀ event ∈ front ++ [], ¬ ∃ other, event = ⟨.close other, ()⟩ := by
    intro event member closes
    obtain ⟨other, rfl⟩ := closes
    simp only [front, List.append_nil, List.mem_cons, List.mem_append] at member
    rcases member with first | second | waited | replied
    · simp at first
    · simp at second
    · exact waiting _ waited
    · obtain ⟨_, _, same⟩ := replying _ replied
      simp at same
  rw [split]
  refine ⟨front.length, Timeline.ofTrace_append front _ 0, fun later beyond => ?_,
    fun time other here => Timeline.time_of_only clean here ⟨other, rfl⟩⟩
  refine List.getElem?_eq_none ?_
  rw [List.length_append, List.length_singleton]
  exact beyond

theorem sends_openedTrace (other : packet request ≠ ackBuf)
    (waiting : ∀ event ∈ waits, Waiting event) (replying : ∀ event ∈ replies, IsReply event) :
    SendsAt (Timeline.ofTrace (openedTrace request portH sent waits replies)) 1 portH
        (packet request) ∧
      (∀ time port, SendsAt (Timeline.ofTrace (openedTrace request portH sent waits replies)) time
        port (packet request) → time = 1) ∧
      ∀ time, ReadsAt (Timeline.ofTrace (openedTrace request portH sent waits replies)) time →
        1 < time := by
  have clean : ∀ event ∈ [⟨.openPort comPath baundRate, portH⟩] ++
      (waits ++ (replies ++ [⟨.close portH, ()⟩])),
      ¬ ∃ (port len : Int), event = ⟨.write port (packet request), len⟩ := by
    intro event member sends
    obtain ⟨port, len, rfl⟩ := sends
    simp only [List.mem_append, List.mem_singleton] at member
    rcases member with first | waited | replied | last
    · simp at first
    · exact waiting _ waited
    · obtain ⟨_, _, same⟩ := replying _ replied
      simp only [Event.mk.injEq, PortRequest.write.injEq] at same
      exact other same.1.2
    · simp at last
  refine ⟨⟨sent, rfl⟩, fun time port sends => ?_, fun time reads => ?_⟩
  · obtain ⟨len, here⟩ := sends
    exact Timeline.time_of_only clean here ⟨port, len, rfl⟩
  · obtain ⟨port, count, answer, here⟩ := reads
    match time with
    | 0 => cases Option.some.inj here
    | 1 => cases Option.some.inj here
    | later + 2 => omega

theorem keeps_port_of_opened (opened : 0 ≤ portH) (other : packet request ≠ ackBuf)
    (waiting : ∀ event ∈ waits, Waiting event) (replying : ∀ event ∈ replies, IsReply event) :
    KeepsPort (Timeline.ofTrace (openedTrace request portH sent waits replies)) request := by
  constructor
  · intro handle wasOpened
    rw [opened_openedTrace waiting replying wasOpened]
    exact closes_openedTrace waiting replying
  · intro handle wasOpened
    rw [opened_openedTrace waiting replying wasOpened]
    exact ⟨1, sends_openedTrace other waiting replying⟩
  · intro never
    exact absurd ⟨opened, 0, comPath, baundRate, rfl⟩ (never portH)

end Opened

section Returned

variable {outside : Int → Byte} {request : ServiceFrame} {trace tail : PortTrace}
  {portH sent : Int} {awaited : Awaited}

theorem keeps_port_of_sessionTrace (sized : 7 ≤ request.size.toNat)
    (session : SessionTrace request trace) : KeepsPort (Timeline.ofTrace trace) request := by
  cases session with
  | unopened opened invalid shape =>
      rw [shape]
      exact keeps_port_of_unopened invalid
  | closed portH sent waits replies opened small waiting replying shape =>
      rw [shape]
      exact keeps_port_of_opened opened (packet_ne_ackBuf request sized) waiting replying

theorem handles_fit_of_sessionTrace (session : SessionTrace request trace) :
    HandlesFit (Timeline.ofTrace trace) := by
  intro other wasOpened
  cases session with
  | unopened opened invalid shape =>
      rw [shape] at wasOpened
      exact absurd wasOpened (not_opened_of_invalid invalid other)
  | closed portH sent waits replies opened small waiting replying shape =>
      rw [shape] at wasOpened
      rwa [opened_openedTrace waiting replying wasOpened]

theorem sessionTrace_of_reported (replies : PortTrace)
    (reported : Reported outside request trace portH sent awaited
      (replies ++ [⟨.close portH, ()⟩]))
    (replying : ∀ event ∈ replies, IsReply event) : SessionTrace request trace := by
  obtain ⟨ack, first, second, opened, small, _, awaitsAck, awaitsReport, shape⟩ := reported
  refine .closed portH sent (first ++ second) replies opened small ?_ replying ?_
  · intro event member
    cases List.mem_append.mp member with
    | inl earlier => exact awaitsAck.waiting event earlier
    | inr later => exact awaitsReport.waiting event later
  · rw [shape, openedTrace, List.append_assoc]

theorem sessionTrace_of_unacknowledged (early : Unacknowledged outside request trace) :
    SessionTrace request trace := by
  cases early with
  | notOpened opened invalid => exact .unopened opened invalid rfl
  | refused portH sent awaited first opened small awaits rejected =>
      exact .closed portH sent first [] opened small awaits.waiting (List.forall_mem_nil _) rfl

/-- How the sessions go on after an accepted report: they close the port, after a reply or
without one, and return. -/
def Concludes (answered : Int → Buffer Byte → Session SessionEnd) : Prop :=
  ∀ portH recvBuff tail ending, Completes (answered portH recvBuff) tail ending →
    ending ≠ .overrun ∧
      ∃ replies, tail = replies ++ [⟨.close portH, ()⟩] ∧ ∀ event ∈ replies, IsReply event

theorem concludes_sendAck {portH value : Int} {ending : SessionEnd} {tail : PortTrace}
    (ran : Completes (do
      let ret ← sendAck portH
      if ret < 0 then do
        comClose portH
        pure (SessionEnd.returned errIosend)
      else do
        comClose portH
        pure (.returned value)) tail ending) :
    ending ≠ .overrun ∧
      ∃ replies, tail = replies ++ [⟨.close portH, ()⟩] ∧ ∀ event ∈ replies, IsReply event := by
  obtain ⟨replied, shape, returned⟩ := (completes_sendAck_bind _ _ _ _ _).mp ran
  refine ⟨by simp [returned], [⟨.write portH ackBuf, replied⟩], shape, fun event member => ?_⟩
  exact ⟨portH, replied, List.mem_singleton.mp member⟩

theorem concludes_compareReport (state : Byte) : Concludes (compareReport state) := by
  intro portH recvBuff tail ret ran
  unfold compareReport at ran
  split_ifs at ran
  · obtain ⟨shape, returned⟩ := (completes_close _ _ _ _).mp ran
    exact ⟨by simp [returned], [], shape, List.forall_mem_nil _⟩
  · exact concludes_sendAck ran

theorem concludes_returnReport : Concludes returnReport :=
  fun _ _ _ _ ran => concludes_sendAck ran

theorem split_of_reported (reported : Reported outside request trace portH sent awaited tail) :
    ∃ before, trace = before ++ tail ∧
      Reported outside request before portH sent awaited [] := by
  obtain ⟨ack, first, second, opened, small, acceptedAck, awaitsAck, awaitsReport, shape⟩ :=
    reported
  refine ⟨⟨.openPort comPath baundRate, portH⟩ :: ⟨.write portH (packet request), sent⟩ ::
    (first ++ (second ++ [])), ?_, ack, first, second, opened, small, acceptedAck, awaitsAck,
    awaitsReport, rfl⟩
  rw [shape]
  simp

theorem reported_append {before : PortTrace}
    (reported : Reported outside request before portH sent awaited []) (rest : PortTrace) :
    Reported outside request (before ++ rest) portH sent awaited rest := by
  obtain ⟨ack, first, second, opened, small, acceptedAck, awaitsAck, awaitsReport, rfl⟩ :=
    reported
  exact ⟨ack, first, second, opened, small, acceptedAck, awaitsAck, awaitsReport, by simp⟩

section Ends

variable {answered : Int → Buffer Byte → Session SessionEnd} {ending : SessionEnd}

theorem sessionTrace_of_ending (concludes : Concludes answered) (returns : ending ≠ .overrun)
    (ends : Ending outside request answered trace ending) : SessionTrace request trace := by
  cases ends with
  | unanswered early failed => exact sessionTrace_of_unacknowledged early
  | unwaited _ _ _ _ overran => exact absurd overran returns
  | silent portH sent selected reported returned =>
      exact sessionTrace_of_reported [] reported (List.forall_mem_nil _)
  | overlong _ _ _ _ _ overran => exact absurd overran returns
  | refused portH sent report reported fits rejected failed =>
      exact sessionTrace_of_reported [] reported (List.forall_mem_nil _)
  | accepted portH sent report tail recvBuff reported fits accepted deciding concluded =>
      obtain ⟨_, replies, rfl, replying⟩ := concludes portH recvBuff tail ending concluded
      exact sessionTrace_of_reported replies reported replying

theorem reports_fit_of_ending (returns : ending ≠ .overrun)
    (ends : Ending outside request answered trace ending) :
    ReportsFit (Timeline.ofTrace trace) outside request := by
  intro before portH sent report begins heard
  obtain ⟨tail, rfl⟩ := (Timeline.begins_ofTrace_iff _ _).mp begins
  have reported := reported_append heard tail
  cases ends with
  | unanswered early failed => exact absurd reported early.not_reported
  | unwaited _ _ _ _ overran => exact absurd overran returns
  | silent _ _ _ silent returned =>
      obtain ⟨_, _, same, _⟩ := silent.unique reported
      cases same
  | overlong _ _ _ _ _ overran => exact absurd overran returns
  | refused _ _ _ other fits rejected failed =>
      obtain ⟨_, _, same, _⟩ := other.unique reported
      cases same
      exact fits
  | accepted _ _ _ _ _ other fits accepted deciding concluded =>
      obtain ⟨_, _, same, _⟩ := other.unique reported
      cases same
      exact fits

theorem not_disciplined_of_unclosed {portH : Int} {answers : List Byte → Prop} (opened : 0 ≤ portH)
    (opening : Timeline.ofTrace trace 0 = some ⟨.openPort comPath baundRate, portH⟩)
    (unclosed : ⟨.close portH, ()⟩ ∉ trace) :
    ¬ Disciplined (Timeline.ofTrace trace) outside request answers := by
  intro disciplined
  obtain ⟨_, closing, _⟩ :=
    disciplined.port.closes portH ⟨opened, 0, comPath, baundRate, opening⟩
  exact unclosed (mem_of_at closing)

theorem undisciplined_of_overrun {answers : List Byte → Prop} (concludes : Concludes answered)
    (ends : Ending outside request answered trace .overrun) :
    ¬ Disciplined (Timeline.ofTrace trace) outside request answers ∧
      ¬ (HandlesFit (Timeline.ofTrace trace) ∧
        ReportsFit (Timeline.ofTrace trace) outside request) := by
  cases ends with
  | unanswered early failed => cases failed
  | unwaited portH sent large shape overran =>
      have opened : 0 ≤ portH := by
        rw [fdSetSize] at large
        omega
      subst shape
      refine ⟨not_disciplined_of_unclosed opened rfl (by simp), fun fits => ?_⟩
      have small := fits.1 portH ⟨opened, 0, comPath, baundRate, rfl⟩
      omega
  | silent portH sent selected reported returned => cases returned
  | overlong portH sent report reported overlong overran =>
      refine ⟨?_, fun fits => fits.2 trace portH sent report ?_ reported overlong⟩
      · obtain ⟨ack, first, second, opened, small, accepted, awaitsAck, awaitsReport, rfl⟩ :=
          reported
        refine not_disciplined_of_unclosed opened rfl ?_
        have notFirst : ⟨.close portH, ()⟩ ∉ first := awaitsAck.waiting _
        have notSecond : ⟨.close portH, ()⟩ ∉ second := awaitsReport.waiting _
        simp [notFirst, notSecond]
      · exact (Timeline.begins_ofTrace_iff _ _).mpr (List.prefix_refl trace)
  | refused portH sent report reported fits rejected failed => cases failed
  | accepted portH sent report tail recvBuff reported fits accepted deciding concluded =>
      exact absurd rfl (concludes portH recvBuff tail .overrun concluded).1

end Ends

/-! ## Replies -/

theorem reply_time {replied : Int} {report : List Byte} (other : packet request ≠ ackBuf)
    (repliedTo : RepliedTo outside request trace portH replied report) :
    ∃ answered, AcceptedBefore (Timeline.ofTrace trace) outside request answered report ∧
      ∀ time port, SendsAt (Timeline.ofTrace trace) time port ackBuf → time = answered := by
  obtain ⟨⟨sent, reported⟩, accepted⟩ := repliedTo
  obtain ⟨before, shape, heard⟩ := split_of_reported reported
  have clean : ∀ event ∈ before ++ [⟨.close portH, ()⟩],
      ¬ ∃ (port len : Int), event = ⟨.write port ackBuf, len⟩ := by
    intro event member sends
    obtain ⟨port, len, rfl⟩ := sends
    cases List.mem_append.mp member with
    | inl earlier => exact absurd (heard.reply_in_tail other earlier) List.not_mem_nil
    | inr last => simp at last
  refine ⟨before.length, ⟨before, portH, sent, Nat.le_refl _, ?_, heard, accepted⟩, ?_⟩
  · rw [Timeline.begins_ofTrace_iff, shape]
    exact List.prefix_append before _
  · intro time port sends
    obtain ⟨len, here⟩ := sends
    rw [shape] at here
    exact Timeline.time_of_only clean here ⟨port, len, rfl⟩

theorem replies_properly {answers : List Byte → Prop} (other : packet request ≠ ackBuf)
    (answered : ∀ portH replied, ⟨.write portH ackBuf, replied⟩ ∈ trace →
      ∃ report, RepliedTo outside request trace portH replied report ∧ answers report) :
    RepliesProperly (Timeline.ofTrace trace) outside request answers := by
  constructor
  · intro time second portH otherPort sends sendsOther
    obtain ⟨len, here⟩ := sends
    obtain ⟨report, repliedTo, _⟩ := answered portH len (mem_of_at here)
    obtain ⟨_, _, only⟩ := reply_time other repliedTo
    rw [only time portH ⟨len, here⟩, only second otherPort sendsOther]
  · intro time portH sends
    obtain ⟨len, here⟩ := sends
    obtain ⟨report, repliedTo, kind⟩ := answered portH len (mem_of_at here)
    obtain ⟨_, acceptedBefore, only⟩ := reply_time other repliedTo
    rw [only time portH ⟨len, here⟩]
    exact ⟨report, acceptedBefore, kind⟩

theorem getElem?_of_getD_ne {octets : List Byte} {index : Nat} (nonzero : octets.getD index 0 ≠ 0) :
    octets[index]? = some (octets.getD index 0) := by
  rw [List.getD_eq_getElem?_getD] at nonzero ⊢
  cases present : octets[index]? with
  | none =>
      rw [present] at nonzero
      exact absurd rfl nonzero
  | some octet => rfl

/-- A report that decides for anything but zero delivered that as its first data octet. -/
theorem first_data_of_nonzero {report : List Byte} {octet : Byte}
    (accepted : AcceptedReport outside report) (decides : decidingOctet outside report = octet)
    (nonzero : octet ≠ 0) : FirstData report octet := by
  rw [decidingOctet_eq accepted] at decides
  by_cases carries : serviceFrameHead < (report.getD 4 0).toNat
  · rw [if_pos carries] at decides
    have sized : report.getD 4 0 ≠ 0 := by
      intro zero
      rw [zero] at carries
      exact absurd carries (Nat.not_lt_zero _)
    subst decides
    exact ⟨⟨_, getElem?_of_getD_ne sized, carries⟩, getElem?_of_getD_ne nonzero⟩
  · rw [if_neg carries] at decides
    exact absurd decides.symm nonzero

end Returned

theorem report_of_acceptedBefore {outside : Int → Byte} {request : ServiceFrame}
    {trace : PortTrace} {time : Nat} {report : List Byte}
    (heard : AcceptedBefore (Timeline.ofTrace trace) outside request time report) :
    AcceptedReport outside report ∧
      ∃ portH sent before tail, (Timeline.ofTrace trace).Begins before ∧
        Reported outside request before portH sent (.received report) [] ∧
        Reported outside request trace portH sent (.received report) tail := by
  obtain ⟨before, portH, sent, _, begins, reported, accepted⟩ := heard
  obtain ⟨tail, rfl⟩ := (Timeline.begins_ofTrace_iff _ _).mp begins
  exact ⟨accepted, portH, sent, before, tail, begins, reported, reported_append reported tail⟩

theorem light_control_disciplined_iff {budget : Nat} {outside : Int → Byte} {state : Byte}
    {trace : PortTrace} {ending : SessionEnd}
    (ran : Completes (comLightControl budget outside state) trace ending) :
    Disciplined (Timeline.ofTrace trace) outside (lightCommand state)
        (fun report => FirstData report state) ↔
      HandlesFit (Timeline.ofTrace trace) ∧
        ReportsFit (Timeline.ofTrace trace) outside (lightCommand state) ∧
          (state = 0 → ReportsCarryData (Timeline.ofTrace trace) outside (lightCommand state)) := by
  have sized := light_control_sized state
  have other := packet_ne_ackBuf (lightCommand state) sized
  have exchanged := ran
  rw [comLightControl_eq] at exchanged
  have ends := completes_exchange _ _ _ _ sized _ _ exchanged
  by_cases overran : ending = .overrun
  · subst overran
    obtain ⟨undisciplined, large⟩ :=
      undisciplined_of_overrun (concludes_compareReport state) ends
    exact iff_of_false undisciplined fun fits => large ⟨fits.1, fits.2.1⟩
  have session := sessionTrace_of_ending (concludes_compareReport state) overran ends
  have fits := reports_fit_of_ending overran ends
  rw [and_iff_right (handles_fit_of_sessionTrace session), and_iff_right fits]
  constructor
  · intro disciplined zero time report heard
    obtain ⟨accepted, portH, sent, before, tail, begins, heard, reported⟩ :=
      report_of_acceptedBefore heard
    by_cases decides : decidingOctet outside report = 0
    · obtain ⟨⟨replied, shape⟩, _⟩ := (light_control_decided ran reported accepted).confirmed
        (fits before portH sent report begins heard) (decides.trans zero.symm)
      obtain ⟨front, split, _⟩ := split_of_reported reported
      obtain ⟨_, heardReplied, data⟩ := disciplined.replies.afterReport front.length portH
        ⟨replied, by rw [split, shape]; exact Timeline.ofTrace_append front _ 0⟩
      obtain ⟨_, _, _, _, _, _, _, reportedReplied⟩ := report_of_acceptedBefore heardReplied
      obtain ⟨_, _, same, _⟩ := reportedReplied.unique reported
      cases same
      exact ⟨state, data⟩
    · exact ⟨_, first_data_of_nonzero accepted rfl decides⟩
  · intro carry
    refine ⟨keeps_port_of_sessionTrace sized session, replies_properly other ?_⟩
    intro portH replied written
    obtain ⟨report, repliedTo, decides, _⟩ :=
      light_control_replied budget outside state trace ending portH replied ran written
    refine ⟨report, repliedTo, ?_⟩
    by_cases zero : state = 0
    · obtain ⟨_, heard, _⟩ := reply_time other repliedTo
      obtain ⟨octet, data⟩ := carry zero _ report heard
      have same := (decidingOctet_of_firstData repliedTo.2 data).symm.trans decides
      rwa [← same]
    · exact first_data_of_nonzero repliedTo.2 decides zero

theorem light_state_disciplined_iff {budget : Nat} {outside : Int → Byte} {trace : PortTrace}
    {ending : SessionEnd}
    (ran : Completes (comLightStateControl budget outside) trace ending) :
    Disciplined (Timeline.ofTrace trace) outside lightQuery (fun _ => True) ↔
      HandlesFit (Timeline.ofTrace trace) ∧
        ReportsFit (Timeline.ofTrace trace) outside lightQuery := by
  have sized : 7 ≤ lightQuery.size.toNat := by decide
  have exchanged := ran
  rw [comLightStateControl_eq] at exchanged
  have ends := completes_exchange _ _ _ _ sized _ _ exchanged
  by_cases overran : ending = .overrun
  · subst overran
    obtain ⟨undisciplined, large⟩ := undisciplined_of_overrun concludes_returnReport ends
    exact iff_of_false undisciplined large
  have session := sessionTrace_of_ending concludes_returnReport overran ends
  refine iff_of_true ⟨keeps_port_of_sessionTrace sized session,
      replies_properly (packet_ne_ackBuf lightQuery sized) ?_⟩
    ⟨handles_fit_of_sessionTrace session, reports_fit_of_ending overran ends⟩
  intro portH replied written
  obtain ⟨report, repliedTo, _⟩ :=
    light_state_replied budget outside trace ending portH replied ran written
  exact ⟨report, repliedTo, trivial⟩

/-! ## Sessions that do not return -/

theorem not_disciplined_of_endless {outside : Int → Byte} {request : ServiceFrame}
    {answers : List Byte → Prop} {events : Nat → Event PortInterface} {portH : Int}
    (opening : some (events 0) = some ⟨.openPort comPath baundRate, portH⟩) (opened : 0 ≤ portH) :
    ¬ Disciplined (fun time => some (events time)) outside request answers := by
  intro disciplined
  obtain ⟨last, _, ended, _⟩ :=
    disciplined.port.closes portH ⟨opened, 0, comPath, baundRate, opening⟩
  cases ended (last + 1) (Nat.lt_succ_self last)

/-- Each run of the sessions, whether it returns or not, is disciplined on the port exactly
when the port is not idle for ever, the handle and the report are not too large for the arrays
of the session, and a command to switch off hears no report without data. -/
theorem session_discipline_iff (outside : Int → Byte) :
    (∀ (state : Byte) (timeline : PortTimeline),
      Course (fun budget => comLightControl budget outside state) timeline →
        (Disciplined timeline outside (lightCommand state) (fun report => FirstData report state) ↔
          ¬ IdleForever timeline ∧ HandlesFit timeline ∧
            ReportsFit timeline outside (lightCommand state) ∧
            (state = 0 → ReportsCarryData timeline outside (lightCommand state)))) ∧
      ∀ timeline : PortTimeline,
        Course (fun budget => comLightStateControl budget outside) timeline →
          (Disciplined timeline outside lightQuery (fun _ => True) ↔
            ¬ IdleForever timeline ∧ HandlesFit timeline ∧
              ReportsFit timeline outside lightQuery) := by
  constructor
  · intro state timeline course
    cases course with
    | returned budget trace ending completes =>
        rw [light_control_disciplined_iff completes,
          and_iff_right (not_idle_forever_ofTrace trace)]
    | endless events unending =>
        obtain ⟨⟨portH, opening, opened⟩, idle⟩ := endless_exchange (light_control_sized state)
          (compareReport_returns state) unending
        exact iff_of_false (not_disciplined_of_endless opening opened) fun both => both.1 idle
  · intro timeline course
    cases course with
    | returned budget trace ending completes =>
        rw [light_state_disciplined_iff completes,
          and_iff_right (not_idle_forever_ofTrace trace)]
    | endless events unending =>
        obtain ⟨⟨portH, opening, opened⟩, idle⟩ :=
          endless_exchange (by decide) returnReport_returns unending
        exact iff_of_false (not_disciplined_of_endless opening opened) fun both => both.1 idle

theorem session_discipline_witness :
    (Disciplined (Timeline.ofTrace lostCommand) (fun _ => 0) (lightCommand 1)
        (fun report => FirstData report 1) ↔
      ¬ IdleForever (Timeline.ofTrace lostCommand) ∧ HandlesFit (Timeline.ofTrace lostCommand) ∧
        ReportsFit (Timeline.ofTrace lostCommand) (fun _ => 0) (lightCommand 1) ∧
        ((1 : Byte) = 0 →
          ReportsCarryData (Timeline.ofTrace lostCommand) (fun _ => 0) (lightCommand 1))) ∧
      (Disciplined (Timeline.ofTrace unansweredQuery) (fun _ => 0) lightQuery (fun _ => True) ↔
        ¬ IdleForever (Timeline.ofTrace unansweredQuery) ∧
          HandlesFit (Timeline.ofTrace unansweredQuery) ∧
          ReportsFit (Timeline.ofTrace unansweredQuery) (fun _ => 0) lightQuery) :=
  ⟨(session_discipline_iff fun _ => 0).1 1 _
      (.returned 2 _ (.returned errOk) lost_command_completes),
    (session_discipline_iff fun _ => 0).2 _
      (.returned 2 _ (.returned 0) unanswered_query_completes)⟩

/-! ## A report without data, and a device that disappears -/

def emptyReport : List Byte :=
  [0xAA, 0x00, 0x0D, 0x05, 0x07, 0x00, 0x00, 0x01, 0x00, 0x00, 0x00, 0x8C, 0x9F]

/-- The command to switch off is acknowledged, and the empty report is replied to. -/
def emptyAnswer : PortTrace :=
  [⟨.openPort comPath baundRate, (3 : Int)⟩,
    ⟨.write 3 (packet (lightCommand 0)), (14 : Int)⟩,
    ⟨.select 3 shortTimeOut, (1 : Int)⟩,
    ⟨.read 3 7, .delivered ackBuf ackBuf_fits⟩,
    ⟨.select 3 shortShortTimeOut, (1 : Int)⟩,
    ⟨.read 3 100, .delivered emptyReport (by decide)⟩,
    ⟨.read 3 87, .again⟩,
    ⟨.select 3 1000, (0 : Int)⟩,
    ⟨.write 3 ackBuf, (7 : Int)⟩,
    ⟨.close 3, ()⟩]

theorem empty_answer_completes :
    Completes (comLightControl 3 (fun _ => 0) 0) emptyAnswer (.returned errOk) := by
  decide +kernel

/-- The light query, and a port at end of file from the first read on. -/
def hungQuery : Nat → Event PortInterface
  | 0 => ⟨.openPort comPath baundRate, (3 : Int)⟩
  | 1 => ⟨.write 3 (packet lightQuery), (13 : Int)⟩
  | 2 => ⟨.select 3 shortTimeOut, (1 : Int)⟩
  | _ + 3 => endOfFile 3 7

theorem hung_query_begins (least : Nat) :
    Timeline.Begins (fun time => some (hungQuery time))
      (⟨.openPort comPath baundRate, (3 : Int)⟩ :: ⟨.write 3 (packet lightQuery), (13 : Int)⟩ ::
        ⟨.select 3 shortTimeOut, (1 : Int)⟩ :: List.replicate least (endOfFile 3 7)) := by
  refine (Timeline.begins_cons _ _ _).mpr ⟨rfl, ?_⟩
  refine (Timeline.begins_cons _ _ _).mpr ⟨rfl, ?_⟩
  refine (Timeline.begins_cons _ _ _).mpr ⟨rfl, ?_⟩
  intro time inside
  rw [List.getElem_replicate, Timeline.after_after, Timeline.after_after, Timeline.after,
    Nat.add_comm]
  rfl

theorem hung_query_endless :
    Course (fun budget => comLightStateControl budget fun _ => 0) fun time =>
      some (hungQuery time) := by
  refine .endless hungQuery fun least => ⟨least, Nat.le_refl least, _, hung_query_begins least, ?_⟩
  have reading : (recAck least (fun _ => 0) 3).run.Run
      (⟨.select 3 shortTimeOut, (1 : Int)⟩ :: List.replicate least (endOfFile 3 7)) none := by
    unfold recAck
    refine (run_comWait_bind _ _ _ _ _).mpr ⟨1, _, rfl, ?_⟩
    rw [if_neg (by decide)]
    refine (run_budgeted_bind _ _ _ _).mpr ⟨none, _, [], (List.append_nil _).symm, ?_, rfl, rfl⟩
    exact run_end_of_file 3 (k := 0) (by decide) zeroed least
  rw [comLightStateControl_eq]
  unfold exchange
  rw [comOpen_bind]
  refine (run_ask_bind _ _ _ _).mpr ⟨(3 : Int), _, rfl, ?_⟩
  rw [if_neg (by decide), if_neg (by decide), sendPacketIn_bind 3 lightQuery (by decide)]
  refine (run_ask_bind _ _ _ _).mpr ⟨(13 : Int), _, rfl, ?_⟩
  rw [if_neg (by split_ifs <;> decide), if_neg (by decide)]
  exact (run_budgeted_bind _ _ _ _).mpr ⟨none, _, [], (List.append_nil _).symm, reading, rfl, rfl⟩

theorem empty_answer_reported :
    Reported (fun _ => 0) (lightCommand 0) emptyAnswer 3 14 (.received emptyReport)
      [⟨.write 3 ackBuf, (7 : Int)⟩, ⟨.close 3, ()⟩] := by
  have report : Receives 3 100 0
      [⟨.read 3 100, .delivered emptyReport (by decide)⟩, ⟨.read 3 87, .again⟩,
        ⟨.select 3 1000, (0 : Int)⟩] (emptyReport ++ []) :=
    .delivered 0 (by decide) emptyReport (by decide) _ [] (.stalled 13 (by decide) 0 (by decide))
  rw [List.append_nil] at report
  exact ⟨ackBuf, _, _, by decide, by decide, accepted_ack, awaits_ack 3,
    .received 1 (by decide) _ _ report, rfl⟩

/-- The reply to the empty report answers no report that carries a zero, and the query to the
port at end of file closes nothing. -/
theorem sessions_undisciplined :
    (¬ ∀ (outside : Int → Byte) (state : Byte) (timeline : PortTimeline),
      Course (fun budget => comLightControl budget outside state) timeline →
        Disciplined timeline outside (lightCommand state) fun report => FirstData report state) ∧
      ¬ ∀ (outside : Int → Byte) (timeline : PortTimeline),
        Course (fun budget => comLightStateControl budget outside) timeline →
          Disciplined timeline outside lightQuery fun _ => True := by
  constructor
  · intro always
    have disciplined :=
      always (fun _ => 0) 0 _ (.returned 3 _ (.returned errOk) empty_answer_completes)
    obtain ⟨report, heard, data⟩ := disciplined.replies.afterReport 8 3 ⟨7, rfl⟩
    obtain ⟨_, _, _, _, _, _, _, reported⟩ := report_of_acceptedBefore heard
    obtain ⟨_, _, same, _⟩ := reported.unique empty_answer_reported
    cases same
    obtain ⟨⟨size, sizeOctet, carries⟩, _⟩ := data
    cases sizeOctet
    exact absurd carries (by decide)
  · intro always
    exact not_disciplined_of_endless rfl (by decide) (always (fun _ => 0) _ hung_query_endless)

end KnxDemo.ComDiscipline
