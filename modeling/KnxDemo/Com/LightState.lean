import KnxDemo.Com.Session

/-!
# Which light states comLightStateControl really heard

A wait that ends without data returns `ERR_OK`, which reads as "off", and an
accepted report without a data octet leaves the zero-initialised array as it was.
Every other non-negative result was reported.
-/

namespace KnxDemo.ComLightState

open KnxDemo.Bytes KnxDemo.ComDefine KnxDemo.ComDrive KnxDemo.ComPack KnxDemo.ComFunc
open KnxDemo.ComEncoding KnxDemo.ComSession
open KnxDemo.Interaction

/-- What `comLightStateControl` does with an accepted report. -/
def returnReport (portH : Int) (recvBuff : Buffer Byte) : Session SessionEnd := do
  let ret ← sendAck portH
  if ret < 0 then do
    comClose portH
    pure (.returned errIosend)
  else do
    comClose portH
    pure (.returned (recvBuff.memory 0).toNat)

theorem comLightStateControl_eq (budget : Nat) (outside : Int → Byte) :
    comLightStateControl budget outside = exchange budget outside lightQuery returnReport := rfl

/-- The run received an accepted packet with a data octet, and `value` is the first. -/
def ReallyReported (outside : Int → Byte) (trace : PortTrace) (value : Int) : Prop :=
  ∃ portH sent report tail octet,
    Reported outside lightQuery trace portH sent (.received report) tail ∧
      AcceptedReport outside report ∧ FirstData report octet ∧ value = octet.toNat

/-- A run of the session does not overrun its arrays, and a state that it returns was reported. -/
def ReturnsReported (outside : Int → Byte) (trace : PortTrace) (ending : SessionEnd) : Prop :=
  ending ≠ .overrun ∧
    ∀ value, ending = .returned value → 0 ≤ value → ReallyReported outside trace value

/-- The handle is small, and once the acknowledgement is accepted, the wait for the report ends
with data that fit, and a report that is accepted delivered a data octet. -/
structure DataArrives (outside : Int → Byte) (trace : PortTrace) : Prop where
  handle : HandleFits trace
  report : ∀ portH sent awaited tail, Reported outside lightQuery trace portH sent awaited tail →
    ∃ report, awaited = .received report ∧ ¬ Overlong report ∧
      (AcceptedReport outside report → ∃ octet, FirstData report octet)

/-- What a `comLightStateControl` that ends returns is a reported state whenever it
is not negative, exactly when data arrives where the session expects it. -/
theorem light_state_reported_iff (budget : Nat) (outside : Int → Byte) (trace : PortTrace)
    (ending : SessionEnd) (ran : Completes (comLightStateControl budget outside) trace ending) :
    ReturnsReported outside trace ending ↔ DataArrives outside trace := by
  rw [comLightStateControl_eq] at ran
  cases completes_exchange _ _ _ _ (by decide) _ _ ran with
  | unanswered early failed =>
      apply iff_of_true
      · refine ⟨by simp [failed], fun value returned nonnegative => ?_⟩
        rw [failed, SessionEnd.returned.injEq] at returned
        simp [← returned, errFail] at nonnegative
      · exact ⟨early.handleFits, fun _ _ _ _ reported => absurd reported early.not_reported⟩
  | unwaited portH sent large shape overran =>
      refine iff_of_false (fun earned => earned.1 overran) fun arrives => ?_
      have small := arrives.handle
      rw [shape, handleFits_cons] at small
      omega
  | silent portH sent selected reported returned =>
      apply iff_of_false
      · intro earned
        obtain ⟨_, _, _, _, _, heard, _⟩ := earned.2 errOk returned (by decide)
        obtain ⟨_, _, received, _⟩ := heard.unique reported
        cases received
      · intro arrives
        obtain ⟨_, received, _⟩ := arrives.report _ _ _ _ reported
        cases received
  | overlong portH sent report reported overlong overran =>
      refine iff_of_false (fun earned => earned.1 overran) fun arrives => ?_
      obtain ⟨_, received, fits, _⟩ := arrives.report _ _ _ _ reported
      cases received
      exact fits overlong
  | refused portH sent report reported fits rejected failed =>
      apply iff_of_true
      · refine ⟨by simp [failed], fun value returned nonnegative => ?_⟩
        rw [failed, SessionEnd.returned.injEq] at returned
        simp [← returned, errFail] at nonnegative
      · refine ⟨reported.handleFits, fun _ _ _ _ otherReported => ?_⟩
        obtain ⟨rfl, rfl, rfl, rfl⟩ := reported.unique otherReported
        exact ⟨report, rfl, fits, fun accepted => absurd accepted rejected⟩
  | accepted portH sent report tail recvBuff reported fits accepted deciding concluded =>
      obtain ⟨replied, rfl, returned⟩ := (completes_sendAck_bind _ _ _ _ _).mp concluded
      constructor
      · intro earned
        refine ⟨reported.handleFits, fun _ _ _ _ otherReported => ?_⟩
        obtain ⟨rfl, rfl, rfl, rfl⟩ := reported.unique otherReported
        obtain ⟨_, _, _, _, octet, heard, _, data, _⟩ := earned.2 _ returned (by omega)
        obtain ⟨_, _, received, _⟩ := heard.unique reported
        cases received
        exact ⟨report, rfl, fits, fun _ => ⟨octet, data⟩⟩
      · intro arrives
        refine ⟨by simp [returned], fun value same _ => ?_⟩
        obtain ⟨_, received, _, carries⟩ := arrives.report _ _ _ _ reported
        cases received
        obtain ⟨octet, data⟩ := carries accepted
        have decides := decidingOctet_of_firstData accepted data
        refine ⟨portH, sent, report, _, octet, reported, accepted, data, ?_⟩
        rw [returned, SessionEnd.returned.injEq] at same
        rw [← same, deciding, decides]

/-- A query that is acknowledged and then not answered. -/
def unansweredQuery : PortTrace :=
  [⟨.openPort comPath baundRate, (3 : Int)⟩,
    ⟨.write 3 (packet lightQuery), (13 : Int)⟩,
    ⟨.select 3 shortTimeOut, (1 : Int)⟩,
    ⟨.read 3 7, .delivered ackBuf ackBuf_fits⟩,
    ⟨.select 3 shortShortTimeOut, (0 : Int)⟩,
    ⟨.close 3, ()⟩]

theorem unanswered_query_completes :
    Completes (comLightStateControl 2 fun _ => 0) unansweredQuery (.returned 0) := by
  decide +kernel

theorem unanswered_query_silent :
    Reported (fun _ => 0) lightQuery unansweredQuery 3 13 (.silent 0) [⟨.close 3, ()⟩] :=
  ⟨ackBuf, _, _, by decide, by decide, accepted_ack, awaits_ack 3, .silent 0 (by decide), rfl⟩

theorem unanswered_query_returned_as_state :
    ¬ ∀ budget outside trace ending,
      Completes (comLightStateControl budget outside) trace ending →
        ReturnsReported outside trace ending := by
  intro always
  obtain ⟨_, _, report, _, _, heard, _⟩ :=
    (always 2 (fun _ => 0) unansweredQuery (.returned 0) unanswered_query_completes).2 0 rfl
      (by decide)
  obtain ⟨_, _, received, _⟩ := heard.unique unanswered_query_silent
  cases received

theorem light_state_reported_witness :
    ReturnsReported (fun _ => 0) unansweredQuery (.returned 0) ↔
      DataArrives (fun _ => 0) unansweredQuery :=
  light_state_reported_iff 2 (fun _ => 0) unansweredQuery (.returned 0) unanswered_query_completes

end KnxDemo.ComLightState
