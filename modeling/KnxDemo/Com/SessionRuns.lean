import KnxDemo.Com.Session

/-!
# Every course of a session is a run

The converse of the session lemmas: with a budget that is large enough, a wait
and a reception as described are a run of the receive function, and a reported
session is a run of the exchange.
-/

namespace KnxDemo.ComSessionRuns

open KnxDemo.Bytes KnxDemo.ComDefine KnxDemo.ComDrive KnxDemo.ComPack KnxDemo.ComFunc
open KnxDemo.ComEncoding KnxDemo.ComReception KnxDemo.ComSession
open KnxDemo.Interaction

def ackCode (outside : Int → Byte) : Awaited → Int
  | .silent _ => errTimeOut
  | .received ack => ackResult outside ack

section Awaits

variable (outside : Int → Byte) {portH : Int} {trace : PortTrace} {awaited : Awaited}

theorem awaiting_completes {Result : Type} {timeout len : Nat}
    (awaits : Awaits portH timeout len trace awaited) (late : Session Result)
    (handle : Nat × Buffer Byte → Session Result) (tail : PortTrace) (result : Result)
    (after : match awaited with
      | .silent _ => Completes late tail result
      | .received octets =>
          Completes (handle (octets.length, zeroed.storeBlock 0 octets)) tail result) :
    ∃ least, ∀ budget, least ≤ budget →
      Completes (awaiting budget portH timeout len late handle) (trace ++ tail) result := by
  cases awaits with
  | silent selected notReady =>
      refine ⟨0, fun budget _ => (completes_comWait_bind _ _ _ _ _).mpr ⟨selected, tail, rfl, ?_⟩⟩
      rw [if_pos notReady]
      exact after
  | received selected ready reads octets delivered =>
      obtain ⟨least, completes⟩ := delivered.completes (Nat.zero_le len) zeroed
      refine ⟨least, fun budget enough => ?_⟩
      refine (completes_comWait_bind _ _ _ _ _).mpr ⟨selected, reads ++ tail, rfl, ?_⟩
      rw [if_neg (not_not.mpr ready)]
      have received := completes budget enough
      rw [Nat.zero_add] at received
      exact (completes_bind _ _ _ _).mpr ⟨_, reads, tail, rfl, received, after⟩

theorem recAck_completes (awaits : Awaits portH shortTimeOut ackLen trace awaited) :
    ∃ least, ∀ budget, least ≤ budget →
      Completes (recAck budget outside portH) trace (ackCode outside awaited) := by
  unfold recAck
  rw [← List.append_nil trace]
  apply awaiting_completes awaits
  cases awaited with
  | silent selected => exact (completes_pure _ _ _).mpr ⟨rfl, rfl⟩
  | received ack =>
      have returned : Completes (pure (ackResult outside ack) : Session Int) []
          (ackCode outside (.received ack)) := (completes_pure _ _ _).mpr ⟨rfl, rfl⟩
      simpa only [ackResult, apply_ite pure, Nat.le_zero_eq, arrayMemory_stored] using returned

theorem recBuff_completes (awaits : Awaits portH shortShortTimeOut 100 trace awaited) :
    ∃ least, ∀ budget, least ≤ budget →
      Completes (recBuff budget outside portH) trace (reportResult outside awaited) := by
  unfold recBuff
  rw [← List.append_nil trace]
  apply awaiting_completes awaits
  cases awaited with
  | silent selected => exact (completes_pure _ _ _).mpr ⟨rfl, rfl⟩
  | received report =>
      have returned : Completes (pure (reportResult outside (.received report)) : Session Outcome)
          [] (reportResult outside (.received report)) := (completes_pure _ _ _).mpr ⟨rfl, rfl⟩
      simpa only [reportResult, apply_ite pure, Nat.le_zero_eq, arrayMemory_stored] using returned

end Awaits

/-- A session whose report is accepted and fits goes on as the caller says. -/
theorem exchange_completes {outside : Int → Byte} {request : ServiceFrame}
    {answered : Int → Buffer Byte → Session SessionEnd} {trace tail : PortTrace}
    {portH sent : Int} {ending : SessionEnd} {report : List Byte}
    (sized : 7 ≤ request.size.toNat)
    (reported : Reported outside request trace portH sent (.received report) tail)
    (fits : ¬ Overlong report) (accepted : AcceptedReport outside report)
    (concluded : Completes
      (answered portH (recvBuffAfter (reportResult outside (.received report)).stored)) tail
      ending) :
    ∃ budget, Completes (exchange budget outside request answered) trace ending := by
  obtain ⟨ack, first, second, opened, small, acceptedAck, awaitsAck, awaitsReport, rfl⟩ := reported
  obtain ⟨leastAck, runsAck⟩ := recAck_completes outside awaitsAck
  obtain ⟨leastReport, runsReport⟩ := recBuff_completes outside awaitsReport
  have success : ackCode outside (.received ack) = errOk :=
    (ackResult_ok_iff outside awaitsAck.length_le).mpr acceptedAck
  have result := reportResult_accepted accepted
  have copied := overruns_received_iff outside awaitsReport.length_le
  refine ⟨max leastAck leastReport, (completes_comOpen_bind _ _ _ _ _).mpr ⟨portH, _, rfl, ?_⟩⟩
  rw [if_neg (Int.not_lt.mpr opened), if_neg (Int.not_lt.mpr opened)]
  refine (completes_sendPacketIn_bind _ _ sized _ _ _).mpr ⟨sent, _, rfl, ?_⟩
  have notNegative : ¬ (if sent = (packet request).length then errOk else errIosend) < 0 := by
    split_ifs <;> decide
  rw [if_neg notNegative, if_neg (Int.not_le.mpr small)]
  refine (completes_bind _ _ _ _).mpr ⟨_, first, _, rfl, runsAck _ (Nat.le_max_left _ _), ?_⟩
  rw [if_neg (not_not.mpr success)]
  refine (completes_bind _ _ _ _).mpr
    ⟨_, second, tail, rfl, runsReport _ (Nat.le_max_right _ _), ?_⟩
  rw [if_neg (mt copied.mp fits), if_neg (by rw [result]; simp [errOk, errTimeOut]),
    if_neg (by rw [result]; simp)]
  exact concluded

end KnxDemo.ComSessionRuns
