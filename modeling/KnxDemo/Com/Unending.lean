import KnxDemo.Com.LightControl
import KnxDemo.Com.LightState
import KnxDemo.Com.SessionRuns
import KnxDemo.Interaction.Course

/-!
# Sessions that never return

A session stays for ever only in the loop of `com_recv`, and there only while the
port neither delivers an octet nor ends the reception: from some time on every
read returns nothing, or fails with `EAGAIN` before a wait that reports data.
-/

namespace KnxDemo.ComUnending

open KnxDemo.Bytes KnxDemo.ComDefine KnxDemo.ComDrive KnxDemo.ComPack KnxDemo.ComFunc
open KnxDemo.ComEncoding KnxDemo.ComReception KnxDemo.ComSession KnxDemo.ComSessionRuns
open KnxDemo.ComLightControl KnxDemo.ComLightState
open KnxDemo.Interaction KnxDemo.Interaction.Loader

abbrev PortTimeline := Timeline PortInterface

/-- The events that bring the loop of `com_recv` no further. -/
def Idle (event : Event PortInterface) : Prop :=
  match event with
  | ⟨.read _ _, .delivered octets _⟩ => octets = []
  | ⟨.read _ _, .again⟩ => True
  | ⟨.select _ _, selected⟩ => waitResult selected = 0
  | _ => False

def IdleAt (timeline : PortTimeline) (time : Nat) : Prop :=
  ∃ event, timeline time = some event ∧ Idle event

def IdleForever (timeline : PortTimeline) : Prop :=
  ∃ start, ∀ time, start ≤ time → IdleAt timeline time

theorem IdleForever.before {timeline : PortTimeline} {used : Nat}
    (idle : IdleForever (timeline.after used)) : IdleForever timeline := by
  obtain ⟨start, later⟩ := idle
  refine ⟨used + start, fun time beyond => ?_⟩
  have here := later (time - used) (by omega)
  rwa [IdleAt, Timeline.after, show used + (time - used) = time by omega] at here

theorem not_idle_forever_ofTrace (trace : PortTrace) : ¬ IdleForever (Timeline.ofTrace trace) := by
  intro idle
  obtain ⟨start, later⟩ := idle
  obtain ⟨event, present, _⟩ := later (max start trace.length) (Nat.le_max_left _ _)
  rw [Timeline.ofTrace, List.getElem?_eq_none (Nat.le_max_right _ _)] at present
  cases present

section Port

variable {Result : Type} {timeline : PortTimeline}

theorem endless_comWait_bind {portH : Int} {timeout : Nat} {rest : Nat → Int → Session Result}
    (unending : Endless (fun budget => comWait portH timeout >>= rest budget) timeline) :
    ∃ selected : Int, timeline 0 = some ⟨.select portH timeout, selected⟩ ∧
      Endless (fun budget => rest budget (waitResult selected)) (timeline.after 1) := by
  simp only [comWait_bind] at unending
  exact endless_ask_bind (I := PortInterface) (.select portH timeout) _ unending

theorem not_endless_close (portH : Int) (value : Result) :
    ¬ Endless (fun _ => do comClose portH; pure value) timeline := by
  intro unending
  obtain ⟨_, _, later⟩ := endless_ask_bind (I := PortInterface) (.close portH) _ unending
  exact not_endless_pure _ later

theorem not_endless_reply (portH : Int) (lost value : Result) :
    ¬ Endless (fun _ => do
      let ret ← sendAck portH
      if ret < 0 then do
        comClose portH
        pure lost
      else do
        comClose portH
        pure value) timeline := by
  intro unending
  simp only [sendAck_bind_close] at unending
  obtain ⟨_, _, later⟩ := endless_ask_bind (I := PortInterface) (.write portH ackBuf) _ unending
  exact not_endless_close portH value later

end Port

/-! ## Reception -/

section Reception

variable {portH : Int} {len : Nat}

theorem settles_comRecv (data : Buffer Byte) :
    Settles fun budget => comRecv budget portH data len := by
  intro budget events result completes
  obtain ⟨count, stored⟩ := result
  obtain ⟨octets, received, rfl, rfl⟩ :=
    (completes_comRecv_iff data stored count).mp ⟨budget, completes⟩
  obtain ⟨least, runs⟩ := received.completes (Nat.zero_le len) data
  refine ⟨least, fun larger enough => ?_⟩
  have ran := runs larger enough
  rwa [Nat.zero_add] at ran

/-- One round of a loop that does not return: octets came, or every event was idle. -/
theorem endless_loop_round {k : Nat} {data : Buffer Byte} {timeline : PortTimeline}
    (unending : Endless (fun budget => comRecvLoop portH len budget k data) timeline) :
    k < len ∧ ∃ (used came : Nat) (stored : Buffer Byte), 0 < used ∧
      Endless (fun budget => comRecvLoop portH len budget (k + came) stored)
        (timeline.after used) ∧
      (came = 0 → ∀ time < used, IdleAt timeline time) := by
  have rounds : Endless (fun budget => comRecvLoop portH len (budget + 1) k data) timeline := by
    intro least
    obtain ⟨budget, enough, events, begins, ran⟩ := unending (least + 1)
    cases budget with
    | zero => exact absurd enough (Nat.not_succ_le_zero least)
    | succ budget => exact ⟨budget, Nat.le_of_succ_le_succ enough, events, begins, ran⟩
  unfold comRecvLoop at rounds
  by_cases missing : k < len
  · refine ⟨missing, ?_⟩
    simp only [if_pos missing] at rounds
    obtain ⟨answer, first, later⟩ := endless_ask_bind (I := PortInterface) _ _ rounds
    cases answer with
    | failed => exact absurd later (not_endless_pure _)
    | again =>
        obtain ⟨selected, second, resumed⟩ := endless_comWait_bind later
        by_cases ready : waitResult selected = 0
        · simp only [if_neg (not_not.mpr ready)] at resumed
          rw [Timeline.after_after] at resumed
          refine ⟨2, 0, data, Nat.zero_lt_succ _, resumed, fun _ time inside => ?_⟩
          cases time with
          | zero => exact ⟨_, first, trivial⟩
          | succ time =>
              have last : time = 0 := by omega
              subst last
              exact ⟨_, second, ready⟩
        · simp only [if_pos (show waitResult selected ≠ 0 from ready)] at resumed
          exact absurd resumed (not_endless_pure _)
    | delivered octets fits =>
        refine ⟨1, octets.length, data.storeBlock k octets, Nat.one_pos, later, ?_⟩
        intro nothing time inside
        have now : time = 0 := by omega
        subst now
        exact ⟨_, first, List.length_eq_zero_iff.mp nothing⟩
  · simp only [if_neg missing] at rounds
    exact absurd rounds (not_endless_pure _)

/-- A loop that does not return before a time at which the port is not idle has taken octets by
then; `missing` bounds how many it can still take. -/
theorem endless_loop_idle (missing : Nat) {k : Nat} (bound : len - k ≤ missing) {data : Buffer Byte}
    {timeline : PortTimeline}
    (unending : Endless (fun budget => comRecvLoop portH len budget k data) timeline) :
    IdleForever timeline := by
  induction missing generalizing k data timeline with
  | zero =>
      obtain ⟨below, _⟩ := endless_loop_round unending
      omega
  | succ missing ih =>
      by_cases always : ∀ time, IdleAt timeline time
      · exact ⟨0, fun time _ => always time⟩
      · obtain ⟨busy, notIdle⟩ := not_forall.mp always
        induction busy using Nat.strongRecOn generalizing data timeline with
        | ind busy earlier =>
            obtain ⟨below, used, came, stored, positive, later, idle⟩ :=
              endless_loop_round unending
            apply IdleForever.before
            by_cases nothing : came = 0
            · subst nothing
              have beyond : used ≤ busy := by
                by_contra inside
                exact notIdle (idle rfl busy (Nat.not_le.mp inside))
              have stillBusy : ¬ IdleAt (timeline.after used) (busy - used) := by
                rwa [IdleAt, Timeline.after, show used + (busy - used) = busy by omega]
              exact earlier (busy - used) (by omega) later (fun all => stillBusy (all _)) stillBusy
            · exact ih (by omega) later

end Reception

/-! ## Waiting and receiving -/

section Awaiting

variable {Result : Type} {portH : Int} {timeout len : Nat} {late : Session Result}
  {handle : Nat × Buffer Byte → Session Result}

theorem settles_awaiting :
    Settles fun budget => awaiting budget portH timeout len late handle := by
  refine settles_bind (settles_const _) fun ret => ?_
  by_cases silent : ret ≠ 0
  · simp only [if_pos silent]
    exact settles_const late
  · simp only [if_neg silent]
    exact settles_bind (settles_comRecv zeroed) fun value => settles_const (handle value)

theorem endless_awaiting_idle {timeline : PortTimeline}
    (lateReturns : ∀ timeline, ¬ Endless (fun _ => late) timeline)
    (handled : ∀ value timeline, ¬ Endless (fun _ => handle value) timeline)
    (unending : Endless (fun budget => awaiting budget portH timeout len late handle) timeline) :
    IdleForever timeline := by
  obtain ⟨selected, _, later⟩ := endless_comWait_bind unending
  apply IdleForever.before
  by_cases silent : waitResult selected ≠ 0
  · simp only [if_pos silent] at later
    exact absurd later (lateReturns _)
  · simp only [if_neg silent] at later
    cases endless_bind (settles_comRecv zeroed) later with
    | inl receiving => exact endless_loop_idle len (Nat.le_refl _) receiving
    | inr returned =>
        obtain ⟨_, _, value, _, _, unhandled⟩ := returned
        exact absurd unhandled (handled value _)

end Awaiting

theorem settles_recAck (outside : Int → Byte) (portH : Int) :
    Settles fun budget => recAck budget outside portH :=
  settles_awaiting

theorem settles_recBuff (outside : Int → Byte) (portH : Int) :
    Settles fun budget => recBuff budget outside portH :=
  settles_awaiting

theorem endless_recAck_idle {outside : Int → Byte} {portH : Int} {timeline : PortTimeline}
    (unending : Endless (fun budget => recAck budget outside portH) timeline) :
    IdleForever timeline := by
  refine endless_awaiting_idle (fun timeline => not_endless_pure _) ?_ unending
  intro value timeline handled
  obtain ⟨len, received⟩ := value
  dsimp only at handled
  split_ifs at handled
  all_goals exact not_endless_pure _ handled

theorem endless_recBuff_idle {outside : Int → Byte} {portH : Int} {timeline : PortTimeline}
    (unending : Endless (fun budget => recBuff budget outside portH) timeline) :
    IdleForever timeline := by
  refine endless_awaiting_idle (fun timeline => not_endless_pure _) ?_ unending
  intro value timeline handled
  obtain ⟨len, received⟩ := value
  dsimp only at handled
  split_ifs at handled
  all_goals exact not_endless_pure _ handled

/-! ## The session -/

section Exchange

variable {outside : Int → Byte} {request : ServiceFrame}
  {answered : Int → Buffer Byte → Session SessionEnd} {timeline : PortTimeline}

/-- A session that does not return has opened the port and sent the request, and receives. -/
theorem endless_exchange_receives (sized : 7 ≤ request.size.toNat)
    (concludes : ∀ portH recvBuff timeline, ¬ Endless (fun _ => answered portH recvBuff) timeline)
    (unending : Endless (fun budget => exchange budget outside request answered) timeline) :
    ∃ portH sent : Int, 0 ≤ portH ∧
      timeline.Begins
        [⟨.openPort comPath baundRate, portH⟩, ⟨.write portH (packet request), sent⟩] ∧
      (Endless (fun budget => recAck budget outside portH) (timeline.after 2) ∨
        ∃ budget events ret, (timeline.after 2).Begins events ∧
          Completes (recAck budget outside portH) events ret ∧
          Endless (fun budget => recBuff budget outside portH)
            ((timeline.after 2).after events.length)) := by
  unfold exchange at unending
  simp only [comOpen_bind] at unending
  obtain ⟨portH, opening, sending⟩ := endless_ask_bind (I := PortInterface) _ _ unending
  by_cases invalid : portH < 0
  · simp only [if_pos invalid] at sending
    exact absurd sending (not_endless_pure _)
  simp only [if_neg invalid, sendPacketIn_bind portH request sized] at sending
  obtain ⟨sent, writing, waiting⟩ := endless_ask_bind (I := PortInterface) _ _ sending
  have notNegative : ¬ (if sent = (packet request).length then errOk else errIosend) < 0 := by
    split_ifs <;> decide
  simp only [if_neg notNegative] at waiting
  have begins : timeline.Begins
      [⟨.openPort comPath baundRate, portH⟩, ⟨.write portH (packet request), sent⟩] :=
    (Timeline.begins_cons _ _ _).mpr
      ⟨opening, (Timeline.begins_cons _ _ _).mpr ⟨writing, Timeline.begins_nil _⟩⟩
  refine ⟨portH, sent, Int.not_lt.mp invalid, begins, ?_⟩
  by_cases large : fdSetSize ≤ portH
  · simp only [if_pos large] at waiting
    exact absurd waiting (not_endless_pure _)
  simp only [if_neg large] at waiting
  rw [Timeline.after_after] at waiting
  cases endless_bind (settles_recAck outside portH) waiting with
  | inl acknowledging => exact .inl acknowledging
  | inr acknowledged =>
      obtain ⟨budget, events, ret, beginsAck, completes, reporting⟩ := acknowledged
      by_cases refused : ret ≠ errOk
      · simp only [if_pos refused] at reporting
        exact absurd reporting (not_endless_close portH _)
      · simp only [if_neg refused] at reporting
        cases endless_bind (settles_recBuff outside portH) reporting with
        | inl receiving => exact .inr ⟨budget, events, ret, beginsAck, completes, receiving⟩
        | inr received =>
            obtain ⟨_, _, report, _, _, concluding⟩ := received
            split_ifs at concluding
            · exact absurd concluding (not_endless_pure _)
            · exact absurd concluding (not_endless_close portH _)
            · exact absurd concluding (not_endless_close portH _)
            · exact absurd concluding (concludes portH _ _)

/-- A session that does not return has opened the port, and the port is idle from some time on. -/
theorem endless_exchange (sized : 7 ≤ request.size.toNat)
    (concludes : ∀ portH recvBuff timeline, ¬ Endless (fun _ => answered portH recvBuff) timeline)
    (unending : Endless (fun budget => exchange budget outside request answered) timeline) :
    (∃ portH : Int, timeline 0 = some ⟨.openPort comPath baundRate, portH⟩ ∧ 0 ≤ portH) ∧
      IdleForever timeline := by
  obtain ⟨portH, _, opened, begins, receives⟩ := endless_exchange_receives sized concludes unending
  have idle : IdleForever (timeline.after 2) := by
    cases receives with
    | inl acknowledging => exact endless_recAck_idle acknowledging
    | inr acknowledged =>
        obtain ⟨_, _, _, _, _, receiving⟩ := acknowledged
        exact (endless_recBuff_idle receiving).before
  exact ⟨⟨portH, ((Timeline.begins_cons _ _ _).mp begins).1, opened⟩, idle.before⟩

/-- A session that gets an acknowledgement and a report returns. -/
theorem not_endless_of_reported (sized : 7 ≤ request.size.toNat)
    (concludes : ∀ portH recvBuff timeline, ¬ Endless (fun _ => answered portH recvBuff) timeline)
    {portH len : Int} {octets : List Byte} {acknowledged reported : Awaited}
    {first second : PortTrace}
    (awaitsAck : Awaits portH shortTimeOut ackLen first acknowledged)
    (awaitsReport : Awaits portH shortShortTimeOut 100 second reported)
    (begins : timeline.Begins (⟨.openPort comPath baundRate, portH⟩ :: ⟨.write portH octets, len⟩ ::
      (first ++ second))) :
    ¬ Endless (fun budget => exchange budget outside request answered) timeline := by
  intro unending
  obtain ⟨opened, sent, _, beginsOther, receives⟩ :=
    endless_exchange_receives sized concludes unending
  obtain ⟨opening, later⟩ := (Timeline.begins_cons _ _ _).mp begins
  obtain ⟨_, received⟩ := (Timeline.begins_cons _ _ _).mp later
  have same : opened = portH := by
    have equal := Option.some.inj
      (((Timeline.begins_cons _ _ _).mp beginsOther).1.symm.trans opening)
    simpa using equal
  subst same
  rw [Timeline.after_after] at received
  obtain ⟨beginsAck, beginsReport⟩ := (Timeline.begins_append _ _ _).mp received
  obtain ⟨leastAck, runsAck⟩ := recAck_completes outside awaitsAck
  cases receives with
  | inl acknowledging => exact not_endless_of_completes beginsAck runsAck acknowledging
  | inr acknowledged =>
      obtain ⟨budget, events, ret, beginsEvents, completes, receiving⟩ := acknowledged
      obtain ⟨least, settled⟩ := settles_recAck outside opened budget events ret completes
      have equal := (Program.run_unique _ (settled (max least leastAck) (Nat.le_max_left _ _))
        (runsAck (max least leastAck) (Nat.le_max_right _ _))
        (Timeline.begins_comparable beginsEvents beginsAck)).1
      subst equal
      obtain ⟨leastReport, runsReport⟩ := recBuff_completes outside awaitsReport
      exact not_endless_of_completes beginsReport runsReport receiving

end Exchange

theorem compareReport_returns (state : Byte) (portH : Int) (recvBuff : Buffer Byte)
    (timeline : PortTimeline) :
    ¬ Endless (fun _ => compareReport state portH recvBuff) timeline := by
  unfold compareReport
  by_cases differs : state ≠ recvBuff.memory 0
  · simp only [if_pos differs]
    exact not_endless_close portH _
  · simp only [if_neg differs]
    exact not_endless_reply portH _ _

theorem returnReport_returns (portH : Int) (recvBuff : Buffer Byte) (timeline : PortTimeline) :
    ¬ Endless (fun _ => returnReport portH recvBuff) timeline :=
  not_endless_reply portH _ _

end KnxDemo.ComUnending
