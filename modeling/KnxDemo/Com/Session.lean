import KnxDemo.Com.Decoding
import KnxDemo.Com.Encoding
import KnxDemo.Com.Func
import KnxDemo.Com.PacketBounds
import KnxDemo.Com.Reception

/-!
# The course of a session

Both sessions open the port, send one packet, wait for the acknowledgement and
then for the report, and differ in what they do with the report. The events of that
common part determine what it hands on, and whether it overruns an array.
-/

namespace KnxDemo.ComSession

open KnxDemo.Bytes KnxDemo.ComDefine KnxDemo.ComDrive KnxDemo.ComPack KnxDemo.ComFunc
open KnxDemo.ComDecoding KnxDemo.ComEncoding KnxDemo.ComPacketBounds KnxDemo.ComReception
open KnxDemo.Interaction KnxDemo.Interaction.Loader

/-! ## Waiting and receiving -/

/-- What a receive function learns: `select` reported no data, or octets came. -/
inductive Awaited where
  | silent (selected : Int)
  | received (octets : List Byte)

inductive Awaits (portH : Int) (timeout len : Nat) : PortTrace → Awaited → Prop
  | silent (selected : Int) (notReady : waitResult selected ≠ 0) :
      Awaits portH timeout len [⟨.select portH timeout, selected⟩] (.silent selected)
  | received (selected : Int) (ready : waitResult selected = 0) (reads : PortTrace)
      (octets : List Byte) (delivered : Receives portH len 0 reads octets) :
      Awaits portH timeout len (⟨.select portH timeout, selected⟩ :: reads) (.received octets)

theorem Awaits.unique {portH : Int} {timeout len : Nat} {first other tail otherTail : PortTrace}
    {awaited otherAwaited : Awaited} (awaits : Awaits portH timeout len first awaited)
    (awaitsOther : Awaits portH timeout len other otherAwaited)
    (same : first ++ tail = other ++ otherTail) :
    awaited = otherAwaited ∧ tail = otherTail := by
  cases awaits with
  | silent selected notReady =>
      cases awaitsOther with
      | silent => simpa using same
      | received => simp_all
  | received selected ready reads octets delivered =>
      cases awaitsOther with
      | silent => simp_all
      | received _ _ otherReads otherOctets otherDelivered =>
          simp only [List.cons_append, List.cons.injEq] at same
          obtain ⟨_, rfl, tailEq⟩ := delivered.unique otherDelivered same.2
          exact ⟨rfl, tailEq⟩

theorem Awaits.length_le {portH : Int} {timeout len : Nat} {trace : PortTrace}
    {octets : List Byte} (awaits : Awaits portH timeout len trace (.received octets)) :
    octets.length ≤ len := by
  cases awaits with
  | received selected ready reads octets delivered =>
      simpa using delivered.length_le (Nat.zero_le len)

theorem Awaits.waiting {portH : Int} {timeout len : Nat} {trace : PortTrace} {awaited : Awaited}
    (awaits : Awaits portH timeout len trace awaited) : ∀ event ∈ trace, Waiting event := by
  cases awaits with
  | silent selected notReady => simp [Waiting]
  | received selected ready reads octets delivered =>
      have quiet := delivered.waiting
      simpa [Waiting] using quiet

/-- What the receive functions have in common. -/
def awaiting {Result : Type} (budget : Nat) (portH : Int) (timeout len : Nat)
    (late : Session Result) (handle : Nat × Buffer Byte → Session Result) : Session Result := do
  let ret ← comWait portH timeout
  if ret ≠ 0 then late else comRecv budget portH zeroed len >>= handle

theorem completes_awaiting {Result : Type} (budget : Nat) (portH : Int) (timeout len : Nat)
    (late : Session Result) (handle : Nat × Buffer Byte → Session Result) (trace : PortTrace)
    (result : Result)
    (ran : Completes (awaiting budget portH timeout len late handle) trace result) :
    ∃ awaited first second, trace = first ++ second ∧ Awaits portH timeout len first awaited ∧
      match awaited with
      | .silent _ => Completes late second result
      | .received octets =>
          Completes (handle (octets.length, zeroed.storeBlock 0 octets)) second result := by
  obtain ⟨selected, tail, rfl, afterWait⟩ := (completes_comWait_bind _ _ _ _ _).mp ran
  by_cases ready : waitResult selected = 0
  · rw [if_neg (not_not.mpr ready)] at afterWait
    obtain ⟨octets, reads, second, rfl, delivered, handled⟩ :=
      completes_comRecv_bind _ _ _ _ afterWait
    exact ⟨.received octets, _, second, rfl, .received selected ready reads octets delivered,
      handled⟩
  · rw [if_pos ready] at afterWait
    exact ⟨.silent selected, [_], tail, rfl, .silent selected ready, afterWait⟩

/-- The octets `recAck` takes for an acknowledgement. -/
def AcceptedAck (outside : Int → Byte) (ack : List Byte) : Prop :=
  ack.length = ackLen ∧
    eval (receivedMemory ackLen ack outside) (analysisAck ack.length) = errOk

/-- The octets `recBuff` takes for a report. -/
def AcceptedReport (outside : Int → Byte) (report : List Byte) : Prop :=
  (eval (receivedMemory 100 report outside) (analysisPack report.length)).ret = errOk

theorem awaits_ack (portH : Int) : Awaits portH shortTimeOut ackLen
    [⟨.select portH shortTimeOut, (1 : Int)⟩, ⟨.read portH 7, .delivered ackBuf ackBuf_fits⟩]
    (.received ackBuf) :=
  .received 1 (by decide) _ _
    (.delivered 0 (by decide) ackBuf ackBuf_fits [] [] (.full 7 (by decide)))

theorem accepted_ack : AcceptedAck (fun _ => 0) ackBuf := by
  unfold AcceptedAck
  decide +kernel

def reportResult (outside : Int → Byte) : Awaited → Outcome
  | .silent _ => ⟨errTimeOut, none⟩
  | .received report =>
      let outcome := eval (receivedMemory 100 report outside) (analysisPack report.length)
      if report.length = 0 then ⟨errIorecv, none⟩
      else if outcome.ret ≠ 0 then ⟨errFail, outcome.stored⟩
      else ⟨errOk, outcome.stored⟩

theorem arrayMemory_stored (length : Nat) (octets : List Byte) (outside : Int → Byte) :
    arrayMemory length (zeroed.storeBlock 0 octets) outside =
      receivedMemory length octets outside := by
  rw [receivedMemory, zeroed]

def ackResult (outside : Int → Byte) (ack : List Byte) : Int :=
  if ack.length = 0 then errIorecv
  else if eval (receivedMemory ackLen ack outside) (analysisAck ack.length) ≠ 0 then errFail
  else errOk

theorem ackResult_ok_iff (outside : Int → Byte) {ack : List Byte} (bound : ack.length ≤ ackLen) :
    ackResult outside ack = errOk ↔ AcceptedAck outside ack := by
  unfold ackResult AcceptedAck
  split_ifs with empty refused
  · simp [errIorecv, errOk, ackLen, empty]
  · simp [errFail, errOk, refused]
  · have ok := not_not.mp refused
    have long := ((analysis_ack_ok_iff _ _).mp ok).1
    apply iff_of_true rfl
    refine ⟨?_, ok⟩
    rw [ackLen] at bound ⊢
    omega

theorem completes_recAck (budget : Nat) (outside : Int → Byte) (portH : Int) (trace : PortTrace)
    (ret : Int) (ran : Completes (recAck budget outside portH) trace ret) :
    ∃ awaited, Awaits portH shortTimeOut ackLen trace awaited ∧
      (ret = errOk ↔ ∃ ack, awaited = .received ack ∧ AcceptedAck outside ack) := by
  unfold recAck at ran
  obtain ⟨awaited, first, second, rfl, awaits, after⟩ := completes_awaiting _ _ _ _ _ _ _ _ ran
  cases awaited with
  | silent selected =>
      obtain ⟨rfl, rfl⟩ := (completes_pure _ _ _).mp after
      rw [List.append_nil]
      refine ⟨.silent selected, awaits, ?_⟩
      simp [errTimeOut, errOk]
  | received ack =>
      have concluded : Completes (pure (ackResult outside ack) : Session Int) second ret := by
        simpa only [ackResult, apply_ite pure, Nat.le_zero_eq, arrayMemory_stored] using after
      obtain ⟨rfl, rfl⟩ := (completes_pure _ _ _).mp concluded
      rw [List.append_nil]
      refine ⟨.received ack, awaits, ?_⟩
      rw [ackResult_ok_iff outside awaits.length_le]
      simp

theorem completes_recBuff (budget : Nat) (outside : Int → Byte) (portH : Int)
    (trace : PortTrace) (outcome : Outcome)
    (ran : Completes (recBuff budget outside portH) trace outcome) :
    ∃ awaited, Awaits portH shortShortTimeOut 100 trace awaited ∧
      outcome = reportResult outside awaited := by
  unfold recBuff at ran
  obtain ⟨awaited, first, second, rfl, awaits, after⟩ := completes_awaiting _ _ _ _ _ _ _ _ ran
  have concluded : Completes (pure (reportResult outside awaited) : Session Outcome) second
      outcome := by
    cases awaited with
    | silent selected => exact after
    | received report =>
        simpa only [reportResult, apply_ite pure, Nat.le_zero_eq, arrayMemory_stored] using after
  obtain ⟨rfl, rfl⟩ := (completes_pure _ _ _).mp concluded
  rw [List.append_nil]
  exact ⟨awaited, awaits, rfl⟩

/-- The octet the sessions take for the first data octet of a report. -/
def decidingOctet (outside : Int → Byte) (report : List Byte) : Byte :=
  (recvBuffAfter (reportResult outside (.received report)).stored).memory 0

/-- The packet carries data, and the first data octet it delivered is `octet`. -/
def FirstData (report : List Byte) (octet : Byte) : Prop :=
  (∃ size, report[4]? = some size ∧ serviceFrameHead < size.toNat) ∧ report[11]? = some octet

theorem reportResult_accepted {outside : Int → Byte} {report : List Byte}
    (accepted : AcceptedReport outside report) :
    reportResult outside (.received report) =
      ⟨errOk, some (octetsAt (receivedMemory 100 report outside) 11
        ((receivedMemory 100 report outside 4).toNat - 7))⟩ := by
  have ok : (eval (receivedMemory 100 report outside) (analysisPack report.length)).ret = 0 :=
    accepted
  have long := ((analysis_pack_ok_iff _ _).mp accepted).1
  simp only [reportResult]
  rw [if_neg (by omega), if_neg (not_not.mpr ok), stored_of_accepted _ _ accepted]

theorem receivedMemory_getD (report : List Byte) (outside : Int → Byte) (index : Nat)
    (inside : index < 100) :
    receivedMemory 100 report outside index = report.getD index 0 := by
  simp only [receivedMemory, arrayMemory]
  rw [if_pos ⟨by omega, by omega⟩, Buffer.memory_storeBlock]
  simp

theorem decidingOctet_eq {outside : Int → Byte} {report : List Byte}
    (accepted : AcceptedReport outside report) :
    decidingOctet outside report =
      if serviceFrameHead < (report.getD 4 0).toNat then report.getD 11 0 else 0 := by
  have sizeAt := receivedMemory_getD report outside 4 (by decide)
  have dataAt := receivedMemory_getD report outside 11 (by decide)
  norm_cast at sizeAt dataAt
  rw [decidingOctet, reportResult_accepted accepted, sizeAt]
  by_cases carries : serviceFrameHead < (report.getD 4 0).toNat
  · have count : (report.getD 4 0).toNat - 7 = (report.getD 4 0).toNat - 8 + 1 := by
      simp only [serviceFrameHead] at carries
      omega
    rw [if_pos carries, count, octetsAt, block_succ, List.map_cons, dataAt]
    simp [recvBuffAfter, Buffer.memory_storeBlock]
  · have count : (report.getD 4 0).toNat - 7 = 0 := by
      simp only [serviceFrameHead] at carries
      omega
    rw [if_neg carries, count]
    rfl

theorem decidingOctet_of_firstData {outside : Int → Byte} {report : List Byte} {octet : Byte}
    (accepted : AcceptedReport outside report) (first : FirstData report octet) :
    decidingOctet outside report = octet := by
  rcases first with ⟨⟨size, sizeOctet, carries⟩, dataOctet⟩
  have size_eq : report.getD 4 0 = size := by
    rw [List.getD_eq_getElem?_getD, sizeOctet, Option.getD_some]
  have data_eq : report.getD 11 0 = octet := by
    rw [List.getD_eq_getElem?_getD, dataOctet, Option.getD_some]
  rw [decidingOctet_eq accepted, size_eq, data_eq, if_pos carries]

theorem reportResult_rejected {outside : Int → Byte} {report : List Byte}
    (rejected : ¬ AcceptedReport outside report) :
    (reportResult outside (.received report)).ret ≠ errOk ∧
      (reportResult outside (.received report)).ret ≠ errTimeOut := by
  unfold AcceptedReport at rejected
  simp only [reportResult]
  split_ifs with empty refused
  · simp [errIorecv, errOk, errTimeOut]
  · simp [errFail, errOk, errTimeOut]
  · exact absurd (not_not.mp refused) rejected

/-- The decoder gets to the copy of the frame, and `recvBuff` is too short for it. -/
def Overlong (report : List Byte) : Prop :=
  ¬ RejectedEarly report ∧ recvBuffLen + serviceFrameHead < (octetAt report 4).toNat

theorem overruns_silent (outside : Int → Byte) (selected : Int) :
    ¬ overruns (reportResult outside (.silent selected)) :=
  Nat.not_lt_zero _

theorem stored_reportResult (outside : Int → Byte) (report : List Byte) :
    (reportResult outside (.received report)).stored =
      (eval (receivedMemory 100 report outside) (analysisPack report.length)).stored := by
  rw [reportResult]
  split_ifs with empty refused
  · rw [eval_analysisPack, if_pos (.inl (by omega))]
  · rfl
  · rfl

theorem overruns_received_iff (outside : Int → Byte) {report : List Byte}
    (fits : report.length ≤ 100) :
    overruns (reportResult outside (.received report)) ↔ Overlong report := by
  rw [overruns, stored_reportResult, Overlong, eval_analysisPack]
  by_cases rejected : RejectedEarly report
  · rw [if_pos ((rejected_in_memory_iff report outside fits).mpr rejected)]
    exact iff_of_false (Nat.not_lt_zero _) fun overlong => overlong.1 rejected
  · have size : receivedMemory 100 report outside 4 = octetAt report 4 :=
      memory_eq_octetAt report outside fits 4 (by unfold RejectedEarly at rejected; omega)
    rw [if_neg (mt (rejected_in_memory_iff report outside fits).mp rejected), Option.getD_some,
      length_octetsAt, size, and_iff_right rejected, recvBuffLen, serviceFrameHead]
    omega

/-! ## The common part -/

/-- Both sessions up to an accepted report, and what a session does with it. -/
def exchange (budget : Nat) (outside : Int → Byte) (request : ServiceFrame)
    (answered : Int → Buffer Byte → Session SessionEnd) : Session SessionEnd := do
  let portH ← comOpen comPath baundRate
  if portH < 0 then pure (.returned (-1))
  else
    let ret ← sendPacketIn portH (some request)
    if ret < 0 then do
      comClose portH
      pure (.returned errIosend)
    else if fdSetSize ≤ portH then pure .overrun
    else
      let ret ← recAck budget outside portH
      if ret ≠ errOk then do
        comClose portH
        pure (.returned errFail)
      else
        let report ← recBuff budget outside portH
        if overruns report then pure .overrun
        else if report.ret = errTimeOut then do
          comClose portH
          pure (.returned errOk)
        else if report.ret ≠ errOk then do
          comClose portH
          pure (.returned errFail)
        else answered portH (recvBuffAfter report.stored)

/-- The trace runs through an accepted acknowledgement to the end of the wait for
the report, and goes on with `tail`. -/
def Reported (outside : Int → Byte) (request : ServiceFrame) (trace : PortTrace)
    (portH sent : Int) (awaited : Awaited) (tail : PortTrace) : Prop :=
  ∃ ack first second, 0 ≤ portH ∧ portH < fdSetSize ∧ AcceptedAck outside ack ∧
    Awaits portH shortTimeOut ackLen first (.received ack) ∧
    Awaits portH shortShortTimeOut 100 second awaited ∧
    trace = ⟨.openPort comPath baundRate, portH⟩ :: ⟨.write portH (packet request), sent⟩ ::
      (first ++ (second ++ tail))

section Reported

variable {outside : Int → Byte} {request : ServiceFrame} {trace tail : PortTrace}
  {portH sent : Int} {awaited : Awaited}

theorem Reported.unique {otherPort otherSent : Int} {otherAwaited : Awaited}
    {otherTail : PortTrace}
    (reported : Reported outside request trace portH sent awaited tail)
    (other : Reported outside request trace otherPort otherSent otherAwaited otherTail) :
    portH = otherPort ∧ sent = otherSent ∧ awaited = otherAwaited ∧ tail = otherTail := by
  rcases reported with ⟨ack, first, second, _, _, _, awaitsAck, awaitsReport, rfl⟩
  rcases other with ⟨_, _, _, _, _, _, awaitsOtherAck, awaitsOtherReport, same⟩
  simp only [List.cons.injEq, Event.mk.injEq, heq_eq_eq, PortRequest.write.injEq, true_and,
    and_true] at same
  rcases same with ⟨rfl, ⟨_, rfl⟩, rest⟩
  obtain ⟨_, later⟩ := awaitsAck.unique awaitsOtherAck rest
  obtain ⟨rfl, rfl⟩ := awaitsReport.unique awaitsOtherReport later
  exact ⟨rfl, rfl, rfl, rfl⟩

theorem Reported.reply_in_tail (reported : Reported outside request trace portH sent awaited tail)
    (other : packet request ≠ ackBuf) {portOther replied : Int}
    (written : ⟨.write portOther ackBuf, replied⟩ ∈ trace) :
    ⟨.write portOther ackBuf, replied⟩ ∈ tail := by
  rcases reported with ⟨ack, first, second, _, _, _, awaitsAck, awaitsReport, rfl⟩
  have notFirst : ⟨.write portOther ackBuf, replied⟩ ∉ first := awaitsAck.waiting _
  have notSecond : ⟨.write portOther ackBuf, replied⟩ ∉ second := awaitsReport.waiting _
  simpa [other.symm, notFirst, notSecond] using written

end Reported

section Ends

variable {Result : Type}

theorem completes_close (portH : Int) (value : Result) (trace : PortTrace) (result : Result) :
    Completes (do comClose portH; pure value) trace result ↔
      trace = [⟨.close portH, ()⟩] ∧ result = value := by
  rw [completes_comClose_bind]
  simp only [completes_pure]
  constructor
  · intro concluded
    obtain ⟨tail, rfl, rfl, rfl⟩ := concluded
    exact ⟨rfl, rfl⟩
  · intro ending
    obtain ⟨rfl, rfl⟩ := ending
    exact ⟨[], rfl, rfl, rfl⟩

theorem sendAck_bind (portH : Int) (rest : Int → Session Result) :
    sendAck portH >>= rest =
      ask (I := PortInterface) (.write portH ackBuf) >>= fun (replied : Int) =>
        rest (if replied = 7 then errOk else errIosend) := by
  unfold sendAck comSend
  rw [bind_assoc]
  congr 1
  funext replied
  by_cases whole : replied = 7
  · rw [if_neg (not_not.mpr whole), if_pos whole, pure_bind]
  · rw [if_pos whole, if_neg whole, pure_bind]

/-- Neither code of `sendAck` is negative, so the reply is followed by the close. -/
theorem sendAck_bind_close (portH : Int) (lost value : Result) :
    (do
      let ret ← sendAck portH
      if ret < 0 then do
        comClose portH
        pure lost
      else do
        comClose portH
        pure value) =
      ask (I := PortInterface) (.write portH ackBuf) >>= fun (_ : Int) => (do
        comClose portH
        pure value) := by
  rw [sendAck_bind]
  congr 1
  funext replied
  have notNegative : ¬ (if replied = 7 then errOk else errIosend) < 0 := by
    split_ifs <;> decide
  rw [if_neg notNegative]

/-- The reply goes out in one write, and its result changes nothing. -/
theorem completes_sendAck_bind (portH : Int) (lost value : Result) (trace : PortTrace)
    (result : Result) :
    Completes (do
        let ret ← sendAck portH
        if ret < 0 then do
          comClose portH
          pure lost
        else do
          comClose portH
          pure value) trace result ↔
      ∃ replied : Int, trace = [⟨.write portH ackBuf, replied⟩, ⟨.close portH, ()⟩] ∧
        result = value := by
  rw [sendAck_bind_close, completes_ask_bind]
  constructor
  · intro replying
    obtain ⟨replied, tail, rfl, closing⟩ := replying
    obtain ⟨rfl, returned⟩ := (completes_close portH value tail result).mp closing
    exact ⟨replied, rfl, returned⟩
  · intro replying
    obtain ⟨replied, rfl, returned⟩ := replying
    exact ⟨replied, _, rfl, (completes_close portH value _ result).mpr ⟨rfl, returned⟩⟩

end Ends

inductive Unacknowledged (outside : Int → Byte) (request : ServiceFrame) : PortTrace → Prop
  | notOpened (opened : Int) (invalid : opened < 0) :
      Unacknowledged outside request [⟨.openPort comPath baundRate, opened⟩]
  | refused (portH sent : Int) (awaited : Awaited) (first : PortTrace) (opened : 0 ≤ portH)
      (small : portH < fdSetSize) (awaits : Awaits portH shortTimeOut ackLen first awaited)
      (rejected : ∀ ack, awaited = .received ack → ¬ AcceptedAck outside ack) :
      Unacknowledged outside request
        (⟨.openPort comPath baundRate, portH⟩ :: ⟨.write portH (packet request), sent⟩ ::
          (first ++ [⟨.close portH, ()⟩]))

theorem Unacknowledged.not_reported {outside : Int → Byte} {request : ServiceFrame}
    {trace tail : PortTrace} {portH sent : Int} {awaited : Awaited}
    (early : Unacknowledged outside request trace) :
    ¬ Reported outside request trace portH sent awaited tail := by
  intro reported
  obtain ⟨ack, first, second, _, _, accepted, awaitsAck, _, same⟩ := reported
  cases early with
  | notOpened opened invalid => simp at same
  | refused _ _ other otherFirst opened small awaits rejected =>
      simp only [List.cons.injEq, Event.mk.injEq, heq_eq_eq, PortRequest.write.injEq, true_and,
        and_true] at same
      rcases same with ⟨rfl, _, later⟩
      exact rejected ack (awaits.unique awaitsAck later).1 accepted

theorem Unacknowledged.no_reply {outside : Int → Byte} {request : ServiceFrame}
    {trace : PortTrace} (early : Unacknowledged outside request trace)
    (other : packet request ≠ ackBuf) (portH replied : Int) :
    ⟨.write portH ackBuf, replied⟩ ∉ trace := by
  cases early with
  | notOpened opened invalid => simp
  | refused _ _ _ first opened small awaits rejected =>
      have notFirst : ⟨.write portH ackBuf, replied⟩ ∉ first := awaits.waiting _
      simp [other.symm, notFirst]

inductive Ending (outside : Int → Byte) (request : ServiceFrame)
    (answered : Int → Buffer Byte → Session SessionEnd) (trace : PortTrace) (ending : SessionEnd) :
    Prop
  | unanswered (early : Unacknowledged outside request trace) (failed : ending = .returned errFail)
  | unwaited (portH sent : Int) (large : fdSetSize ≤ portH)
      (shape : trace =
        [⟨.openPort comPath baundRate, portH⟩, ⟨.write portH (packet request), sent⟩])
      (overran : ending = .overrun)
  | silent (portH sent selected : Int)
      (reported : Reported outside request trace portH sent (.silent selected)
        [⟨.close portH, ()⟩])
      (returned : ending = .returned errOk)
  | overlong (portH sent : Int) (report : List Byte)
      (reported : Reported outside request trace portH sent (.received report) [])
      (overlong : Overlong report) (overran : ending = .overrun)
  | refused (portH sent : Int) (report : List Byte)
      (reported : Reported outside request trace portH sent (.received report)
        [⟨.close portH, ()⟩])
      (fits : ¬ Overlong report) (rejected : ¬ AcceptedReport outside report)
      (failed : ending = .returned errFail)
  | accepted (portH sent : Int) (report : List Byte) (tail : PortTrace) (recvBuff : Buffer Byte)
      (reported : Reported outside request trace portH sent (.received report) tail)
      (fits : ¬ Overlong report) (accepted : AcceptedReport outside report)
      (deciding : recvBuff.memory 0 = decidingOctet outside report)
      (concluded : Completes (answered portH recvBuff) tail ending)

/-- The handle of every trace but that of a session that cannot wait has room in an `fd_set`. -/
def HandleFits (trace : PortTrace) : Prop :=
  ∀ (portH : Int) (rest : PortTrace),
    trace = ⟨.openPort comPath baundRate, portH⟩ :: rest → portH < fdSetSize

theorem handleFits_cons {portH : Int} {rest : PortTrace} :
    HandleFits (⟨.openPort comPath baundRate, portH⟩ :: rest) ↔ portH < fdSetSize := by
  constructor
  · exact fun fits => fits portH rest rfl
  · intro small other tail same
    simp only [List.cons.injEq, Event.mk.injEq, heq_eq_eq, true_and] at same
    rwa [← same.1]

theorem Reported.handleFits {outside : Int → Byte} {request : ServiceFrame}
    {trace tail : PortTrace} {portH sent : Int} {awaited : Awaited}
    (reported : Reported outside request trace portH sent awaited tail) : HandleFits trace := by
  obtain ⟨_, _, _, _, small, _, _, _, rfl⟩ := reported
  exact handleFits_cons.mpr small

theorem Unacknowledged.handleFits {outside : Int → Byte} {request : ServiceFrame}
    {trace : PortTrace} (early : Unacknowledged outside request trace) : HandleFits trace := by
  cases early with
  | notOpened opened invalid =>
      refine handleFits_cons.mpr ?_
      rw [fdSetSize]
      omega
  | refused _ _ _ _ _ small => exact handleFits_cons.mpr small

theorem completes_reporting {budget : Nat} {outside : Int → Byte} {request : ServiceFrame}
    {answered : Int → Buffer Byte → Session SessionEnd} {portH sent : Int} {ack : List Byte}
    {first rest : PortTrace} {ending : SessionEnd} (opened : 0 ≤ portH)
    (small : portH < fdSetSize) (acceptedAck : AcceptedAck outside ack)
    (awaitsAck : Awaits portH shortTimeOut ackLen first (.received ack))
    (ran : Completes (do
      let report ← recBuff budget outside portH
      if overruns report then pure .overrun
      else if report.ret = errTimeOut then do
        comClose portH
        pure (.returned errOk)
      else if report.ret ≠ errOk then do
        comClose portH
        pure (.returned errFail)
      else answered portH (recvBuffAfter report.stored)) rest ending) :
    Ending outside request answered
      (⟨.openPort comPath baundRate, portH⟩ :: ⟨.write portH (packet request), sent⟩ ::
        (first ++ rest)) ending := by
  obtain ⟨outcome, second, tail, rfl, received, concluding⟩ := (completes_bind _ _ _ _).mp ran
  obtain ⟨awaited, awaitsReport, rfl⟩ := completes_recBuff _ _ _ _ _ received
  have reported : Reported outside request _ portH sent awaited tail :=
    ⟨ack, first, second, opened, small, acceptedAck, awaitsAck, awaitsReport, rfl⟩
  cases awaited with
  | silent selected =>
      rw [if_neg (overruns_silent outside selected)] at concluding
      simp only [reportResult, if_true] at concluding
      obtain ⟨rfl, returned⟩ := (completes_close _ _ _ _).mp concluding
      exact .silent portH sent selected reported returned
  | received report =>
      have copied := overruns_received_iff outside awaitsReport.length_le
      by_cases overlong : Overlong report
      · rw [if_pos (copied.mpr overlong)] at concluding
        obtain ⟨rfl, overran⟩ := (completes_pure _ _ _).mp concluding
        exact .overlong portH sent report reported overlong overran.symm
      rw [if_neg (mt copied.mp overlong)] at concluding
      by_cases accepted : AcceptedReport outside report
      · have result := reportResult_accepted accepted
        rw [if_neg (by rw [result]; simp [errOk, errTimeOut]),
          if_neg (by rw [result]; simp)] at concluding
        exact .accepted portH sent report tail _ reported overlong accepted rfl concluding
      · obtain ⟨notOk, notLate⟩ := reportResult_rejected accepted
        rw [if_neg notLate, if_pos notOk] at concluding
        obtain ⟨rfl, failed⟩ := (completes_close _ _ _ _).mp concluding
        exact .refused portH sent report reported overlong accepted failed

theorem completes_exchange (budget : Nat) (outside : Int → Byte) (request : ServiceFrame)
    (answered : Int → Buffer Byte → Session SessionEnd) (sized : 7 ≤ request.size.toNat)
    (trace : PortTrace) (ending : SessionEnd)
    (ran : Completes (exchange budget outside request answered) trace ending) :
    Ending outside request answered trace ending := by
  unfold exchange at ran
  obtain ⟨portH, afterOpen, rfl, sending⟩ := (completes_comOpen_bind _ _ _ _ _).mp ran
  by_cases invalid : portH < 0
  · rw [if_pos invalid, if_pos (by decide)] at sending
    obtain ⟨rfl, rfl⟩ := (completes_pure _ _ _).mp sending
    exact .unanswered (.notOpened portH invalid) rfl
  rw [if_neg invalid, if_neg invalid] at sending
  have opened : 0 ≤ portH := Int.not_lt.mp invalid
  obtain ⟨sent, afterSend, rfl, waiting⟩ :=
    (completes_sendPacketIn_bind _ _ sized _ _ _).mp sending
  have notNegative : ¬ (if sent = (packet request).length then errOk else errIosend) < 0 := by
    split_ifs <;> decide
  rw [if_neg notNegative] at waiting
  by_cases large : fdSetSize ≤ portH
  · rw [if_pos large] at waiting
    obtain ⟨rfl, overran⟩ := (completes_pure _ _ _).mp waiting
    exact .unwaited portH sent large rfl overran.symm
  rw [if_neg large] at waiting
  have small : portH < fdSetSize := Int.not_le.mp large
  obtain ⟨acked, first, rest, rfl, ack, reporting⟩ := (completes_bind _ _ _ _).mp waiting
  obtain ⟨awaited, awaitsAck, accepted_iff⟩ := completes_recAck _ _ _ _ _ ack
  by_cases acknowledged : acked = errOk
  · rw [if_neg (not_not.mpr acknowledged)] at reporting
    obtain ⟨octets, rfl, acceptedAck⟩ := accepted_iff.mp acknowledged
    exact completes_reporting opened small acceptedAck awaitsAck reporting
  · rw [if_pos acknowledged] at reporting
    obtain ⟨rfl, rfl⟩ := (completes_close _ _ _ _).mp reporting
    refine .unanswered (.refused portH sent awaited first opened small awaitsAck ?_) rfl
    intro octets received acceptedAck
    exact acknowledged (accepted_iff.mpr ⟨octets, received, acceptedAck⟩)

section Ending

variable {outside : Int → Byte} {request : ServiceFrame}
  {answered : Int → Buffer Byte → Session SessionEnd} {trace tail : PortTrace} {portH : Int}
  {ending : SessionEnd}

theorem Ending.answered_of_accepted {sent : Int} {report : List Byte}
    (ends : Ending outside request answered trace ending)
    (reported : Reported outside request trace portH sent (.received report) tail)
    (accepted : AcceptedReport outside report) :
    (Overlong report ∧ tail = [] ∧ ending = .overrun) ∨
      ¬ Overlong report ∧ ∃ recvBuff : Buffer Byte,
        recvBuff.memory 0 = decidingOctet outside report ∧
          Completes (answered portH recvBuff) tail ending := by
  cases ends with
  | unanswered early failed => exact absurd reported early.not_reported
  | unwaited _ _ large shape overran =>
      have fits := reported.handleFits
      rw [shape, handleFits_cons] at fits
      omega
  | silent _ _ _ silent returned =>
      obtain ⟨_, _, same, _⟩ := silent.unique reported
      cases same
  | overlong _ _ _ other overlong overran =>
      obtain ⟨rfl, rfl, same, rfl⟩ := other.unique reported
      cases same
      exact .inl ⟨overlong, rfl, overran⟩
  | refused _ _ _ refused fits rejected failed =>
      obtain ⟨_, _, same, _⟩ := refused.unique reported
      cases same
      exact absurd accepted rejected
  | accepted _ _ _ _ recvBuff other fits otherAccepted deciding concluded =>
      obtain ⟨rfl, rfl, same, rfl⟩ := other.unique reported
      cases same
      exact .inr ⟨fits, recvBuff, deciding, concluded⟩

theorem Ending.accepted_of_reply {replied : Int}
    (ends : Ending outside request answered trace ending) (other : packet request ≠ ackBuf)
    (written : ⟨.write portH ackBuf, replied⟩ ∈ trace) :
    ∃ (opened sent : Int) (report : List Byte) (tail : PortTrace) (recvBuff : Buffer Byte),
      Reported outside request trace opened sent (.received report) tail ∧
        AcceptedReport outside report ∧ recvBuff.memory 0 = decidingOctet outside report ∧
        Completes (answered opened recvBuff) tail ending ∧
        ⟨.write portH ackBuf, replied⟩ ∈ tail := by
  cases ends with
  | unanswered early failed => exact absurd written (early.no_reply other portH replied)
  | unwaited _ _ _ shape _ =>
      rw [shape] at written
      simp [other.symm] at written
  | silent _ _ _ reported returned =>
      have member := reported.reply_in_tail other written
      simp at member
  | overlong _ _ _ reported overlong overran =>
      exact absurd (reported.reply_in_tail other written) List.not_mem_nil
  | refused _ _ _ reported fits rejected failed =>
      have member := reported.reply_in_tail other written
      simp at member
  | accepted opened sent report tail recvBuff reported fits accepted deciding concluded =>
      exact ⟨opened, sent, report, tail, recvBuff, reported, accepted, deciding, concluded,
        reported.reply_in_tail other written⟩

end Ending

end KnxDemo.ComSession
