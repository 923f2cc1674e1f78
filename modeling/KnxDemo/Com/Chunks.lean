import KnxDemo.Com.SessionRuns
import KnxDemo.Com.Termination
import KnxDemo.Interaction.Transition

/-!
# The outcome does not depend on the chunks

A device that sends a stream in chunks: a read gets octets of the chunk that
has arrived, a read behind its end fails with `EAGAIN`, and a wait reports data
for as long as any is left. Whatever the chunks, `com_recv` collects the octets
the stream starts with, so the acknowledgement and the report are cut out of
the stream at fixed places.
-/

namespace KnxDemo.ComChunks

open KnxDemo.Bytes KnxDemo.ComDefine KnxDemo.ComDrive KnxDemo.ComPack KnxDemo.ComFunc
open KnxDemo.ComSession KnxDemo.ComSessionRuns KnxDemo.ComTermination
open KnxDemo.Interaction

/-! ## The device -/

/-- What is left of the chunk that has arrived, and the chunks still to arrive. -/
structure Device where
  current : List Byte
  later : List (List Byte)
  nonempty : ∀ chunk ∈ later, chunk ≠ []

def Device.bytes (device : Device) : List Byte := device.current ++ device.later.flatten

def Device.arrive (device : Device) : Device :=
  match device with
  | ⟨[], chunk :: later, nonempty⟩ =>
      ⟨chunk, later, fun other member => nonempty other (List.mem_cons_of_mem _ member)⟩
  | device => device

inductive DeviceStep : Device → Event PortInterface → Device → Prop
  | delivered {device : Device} {octets rest : List Byte} {portH : Int} {count : Nat}
      {fits : octets.length ≤ count} (split : device.current = octets ++ rest)
      (unread : device.current ≠ []) (progress : octets = [] → count = 0) :
      DeviceStep device ⟨.read portH count, .delivered octets fits⟩ { device with current := rest }
  | exhausted {device : Device} {portH : Int} {count : Nat} (empty : device.current = []) :
      DeviceStep device ⟨.read portH count, .again⟩ device.arrive
  | ready {device next : Device} {portH : Int} {timeout : Nat} {selected : Int}
      (left : device.bytes ≠ []) (arrived : next = device ∨ next = device.arrive)
      (reported : waitResult selected = 0) :
      DeviceStep device ⟨.select portH timeout, selected⟩ next
  | silent {device : Device} {portH : Int} {timeout : Nat} {selected : Int}
      (finished : device.bytes = []) (reported : waitResult selected = 1) :
      DeviceStep device ⟨.select portH timeout, selected⟩ device
  | opened {device : Device} {portname : String} {bps : Nat} {portH : Int} :
      DeviceStep device ⟨.openPort portname bps, portH⟩ device
  | written {device : Device} {portH : Int} {data : List Byte} {len : Int} :
      DeviceStep device ⟨.write portH data, len⟩ device
  | closed {device : Device} {portH : Int} : DeviceStep device ⟨.close portH, ()⟩ device

structure CutOf (stream : List Byte) (chunks : List (List Byte)) : Prop where
  joined : chunks.flatten = stream
  nonempty : ∀ chunk ∈ chunks, chunk ≠ []

def sending {stream : List Byte} {chunks : List (List Byte)} (cut : CutOf stream chunks) :
    Device := ⟨[], chunks, cut.nonempty⟩

theorem bytes_sending {stream : List Byte} {chunks : List (List Byte)}
    (cut : CutOf stream chunks) : (sending cut).bytes = stream := cut.joined

@[simp] theorem bytes_arrive (device : Device) : device.arrive.bytes = device.bytes := by
  obtain ⟨current, later, nonempty⟩ := device
  cases current with
  | cons octet rest => rfl
  | nil =>
      cases later with
      | nil => rfl
      | cons chunk later => rfl

/-- After an arrival the current chunk is empty only at the end of the stream. -/
theorem current_arrive (device : Device) (left : device.bytes ≠ []) :
    device.arrive.current ≠ [] := by
  obtain ⟨current, later, nonempty⟩ := device
  cases current with
  | cons octet rest => exact List.cons_ne_nil _ _
  | nil =>
      cases later with
      | nil => exact absurd rfl left
      | cons chunk later => exact nonempty chunk List.mem_cons_self

theorem arrive_of_current {device : Device} (unread : device.current ≠ []) :
    device.arrive = device := by
  obtain ⟨current, later, nonempty⟩ := device
  cases current with
  | cons octet rest => rfl
  | nil => exact absurd rfl unread

theorem device_answers (device : Device) (request : PortRequest) :
    ∃ answer next, DeviceStep device ⟨request, answer⟩ next := by
  cases request with
  | openPort portname bps => exact ⟨(0 : Int), device, .opened⟩
  | write portH data => exact ⟨(0 : Int), device, .written⟩
  | close portH => exact ⟨(), device, .closed⟩
  | select portH timeout =>
      by_cases finished : device.bytes = []
      · exact ⟨(0 : Int), device, .silent finished rfl⟩
      · exact ⟨(1 : Int), device, .ready finished (.inl rfl) rfl⟩
  | read portH count =>
      by_cases empty : device.current = []
      · exact ⟨.again, _, .exhausted empty⟩
      · have fits : (device.current.take count).length ≤ count := List.length_take_le _ _
        refine ⟨.delivered _ fits, _, .delivered (List.take_append_drop count _).symm empty ?_⟩
        intro nothing
        rw [List.take_eq_nil_iff] at nothing
        exact nothing.resolve_right empty

/-! ## Waiting for the device -/

theorem select_step {device next : Device} {portH : Int} {timeout : Nat} {selected : Int}
    (stepped : DeviceStep device ⟨.select portH timeout, selected⟩ next) :
    next.bytes = device.bytes ∧
      (device.bytes ≠ [] ∧ waitResult selected = 0 ∧ (next = device ∨ next = device.arrive) ∨
        device.bytes = [] ∧ waitResult selected = 1) := by
  cases stepped with
  | ready left arrived reported =>
      refine ⟨?_, .inl ⟨left, reported, arrived⟩⟩
      cases arrived with
      | inl same => rw [same]
      | inr moved => rw [moved, bytes_arrive]
  | silent finished reported => exact ⟨rfl, .inr ⟨finished, reported⟩⟩

theorem delivered_step {device next : Device} {portH : Int} {count : Nat} {octets : List Byte}
    {fits : octets.length ≤ count}
    (stepped : DeviceStep device ⟨.read portH count, .delivered octets fits⟩ next)
    (asked : 0 < count) : device.bytes = octets ++ next.bytes ∧ octets ≠ [] := by
  cases stepped with
  | delivered split unread progress =>
      constructor
      · rw [Device.bytes, split, List.append_assoc]
        rfl
      · intro nothing
        have none := progress nothing
        omega

/-- The loop collects the start of the stream and leaves the rest. The measure is twice the
number of octets missing, and one more where no chunk has arrived. -/
theorem run_comRecvLoop {portH : Int} {len : Nat} (budget k : Nat) (data : Buffer Byte)
    (device finish : Device) (trace : PortTrace) (result : Option (Nat × Buffer Byte))
    (below : k ≤ len)
    (enough : 2 * (len - k) + (if device.current = [] then 1 else 0) < budget)
    (ran : (comRecvLoop portH len budget k data).run.Run trace result)
    (played : Plays DeviceStep device trace finish) :
    result = some (k + (device.bytes.take (len - k)).length,
        data.storeBlock k (device.bytes.take (len - k))) ∧
      finish.bytes = device.bytes.drop (len - k) := by
  induction budget generalizing k data device trace with
  | zero => exact absurd enough (Nat.not_lt_zero _)
  | succ budget induction =>
      unfold comRecvLoop at ran
      by_cases missing : k < len
      · rw [if_pos missing] at ran
        obtain ⟨answer, tail, rfl, after⟩ := (run_ask_bind _ _ _ _).mp ran
        obtain ⟨middle, stepped, later⟩ := plays_cons_iff.mp played
        cases answer with
        | failed => cases stepped
        | again =>
            have arrived : middle = device.arrive ∧ device.current = [] := by
              cases stepped with
              | exhausted empty => exact ⟨rfl, empty⟩
            obtain ⟨rfl, empty⟩ := arrived
            rw [if_pos empty] at enough
            obtain ⟨selected, rest, rfl, resumed⟩ := (run_comWait_bind _ _ _ _ _).mp after
            obtain ⟨waited, selecting, further⟩ := plays_cons_iff.mp later
            obtain ⟨kept, ready | finished⟩ := select_step selecting
            · obtain ⟨left, reported, moved⟩ := ready
              have unread := current_arrive device (by rwa [bytes_arrive] at left)
              have same : waited = device.arrive := by
                cases moved with
                | inl here => exact here
                | inr onward => rw [onward, arrive_of_current unread]
              rw [if_neg (not_not.mpr reported)] at resumed
              have collected := induction k data waited rest below
                (by rw [same, if_neg unread]; omega) resumed further
              rwa [kept, bytes_arrive] at collected
            · obtain ⟨ended, reported⟩ := finished
              rw [if_pos (by rw [reported]; decide)] at resumed
              obtain ⟨rfl, rfl⟩ := (Program.run_pure _ _ _).mp resumed
              have final := plays_nil_iff.mp further
              rw [bytes_arrive] at ended kept
              rw [← final, kept, ended, List.take_nil, List.drop_nil]
              exact ⟨rfl, rfl⟩
        | delivered octets fits =>
            obtain ⟨bytes, progress⟩ := delivered_step stepped (by omega)
            have some : octets.length ≠ 0 := fun zero =>
              progress (List.length_eq_zero_iff.mp zero)
            obtain ⟨returned, rest⟩ := induction (k + octets.length) _ middle tail (by omega)
              (by split_ifs <;> omega) after later
            have remaining : len - (k + octets.length) = len - k - octets.length := by omega
            have within : octets.length ≤ len - k := by omega
            rw [returned, rest, bytes, List.take_append, List.drop_append,
              List.take_of_length_le within, List.drop_of_length_le within, remaining,
              List.length_append, Buffer.storeBlock_append, Nat.add_assoc]
            exact ⟨rfl, rfl⟩
      · have full : len - k = 0 := by omega
        have last : len = k := by omega
        rw [if_neg missing] at ran
        obtain ⟨rfl, rfl⟩ := (Program.run_pure _ _ _).mp ran
        rw [← plays_nil_iff.mp played, full, List.take_zero, List.drop_zero, last]
        exact ⟨rfl, rfl⟩

/-- What a receive function learns from a stream. -/
def awaitedFrom (len : Nat) (stream : List Byte) : Awaited :=
  if stream = [] then .silent 0 else .received (stream.take len)

theorem run_awaiting {Result : Type} {budget : Nat} {portH : Int} {timeout len : Nat}
    {late : Session Result} {handle : Nat × Buffer Byte → Session Result} {device finish : Device}
    {trace : PortTrace} {result : Option Result} (enough : 2 * len + 1 < budget)
    (ran : (awaiting budget portH timeout len late handle).run.Run trace result)
    (played : Plays DeviceStep device trace finish) :
    ∃ tail middle, Plays DeviceStep middle tail finish ∧
      middle.bytes = device.bytes.drop len ∧
      match awaitedFrom len device.bytes with
      | .silent _ => late.run.Run tail result
      | .received octets =>
          (handle (octets.length, zeroed.storeBlock 0 octets)).run.Run tail result := by
  obtain ⟨selected, rest, rfl, afterWait⟩ := (run_comWait_bind _ _ _ _ _).mp ran
  obtain ⟨waited, selecting, further⟩ := plays_cons_iff.mp played
  obtain ⟨kept, ready | finished⟩ := select_step selecting
  · obtain ⟨left, reported, _⟩ := ready
    rw [if_neg (not_not.mpr reported)] at afterWait
    obtain ⟨value, reads, tail, rfl, received, handled⟩ :=
      (run_budgeted_bind _ _ _ _).mp afterWait
    obtain ⟨middle, receiving, handling⟩ := plays_append_iff.mp further
    obtain ⟨collected, remaining⟩ := run_comRecvLoop budget 0 zeroed waited middle reads value
      (Nat.zero_le len) (by split_ifs <;> omega) received receiving
    rw [collected, Nat.sub_zero, Nat.zero_add, kept] at handled
    rw [Nat.sub_zero, kept] at remaining
    refine ⟨tail, middle, handling, remaining, ?_⟩
    rw [awaitedFrom, if_neg left]
    exact handled
  · obtain ⟨ended, reported⟩ := finished
    rw [if_pos (by rw [reported]; decide)] at afterWait
    refine ⟨rest, waited, further, ?_, ?_⟩
    · rw [kept, ended, List.drop_nil]
    · rw [awaitedFrom, if_pos ended]
      exact afterWait

section Receive

variable {budget : Nat} {outside : Int → Byte} {portH : Int} {device finish : Device}
  {trace : PortTrace}

theorem run_recAck {result : Option Int} (enough : 2 * ackLen + 1 < budget)
    (ran : (recAck budget outside portH).run.Run trace result)
    (played : Plays DeviceStep device trace finish) :
    result = some (ackCode outside (awaitedFrom ackLen device.bytes)) ∧
      finish.bytes = device.bytes.drop ackLen := by
  unfold recAck at ran
  obtain ⟨tail, middle, further, remaining, after⟩ := run_awaiting enough ran played
  have concluded : (pure (ackCode outside (awaitedFrom ackLen device.bytes)) :
      Session Int).run.Run tail result := by
    cases learned : awaitedFrom ackLen device.bytes with
    | silent selected =>
        rw [learned] at after
        exact after
    | received ack =>
        rw [learned] at after
        simpa only [ackCode, ackResult, apply_ite pure, Nat.le_zero_eq, arrayMemory_stored]
          using after
  obtain ⟨rfl, returned⟩ := (Program.run_pure _ _ _).mp concluded
  rw [← plays_nil_iff.mp further, remaining]
  exact ⟨returned.symm, rfl⟩

theorem run_recBuff {result : Option Outcome} (enough : 2 * 100 + 1 < budget)
    (ran : (recBuff budget outside portH).run.Run trace result)
    (played : Plays DeviceStep device trace finish) :
    result = some (reportResult outside (awaitedFrom 100 device.bytes)) ∧
      finish.bytes = device.bytes.drop 100 := by
  unfold recBuff at ran
  obtain ⟨tail, middle, further, remaining, after⟩ := run_awaiting enough ran played
  have concluded : (pure (reportResult outside (awaitedFrom 100 device.bytes)) :
      Session Outcome).run.Run tail result := by
    cases learned : awaitedFrom 100 device.bytes with
    | silent selected =>
        rw [learned] at after
        exact after
    | received report =>
        rw [learned] at after
        simpa only [reportResult, apply_ite pure, Nat.le_zero_eq, arrayMemory_stored] using after
  obtain ⟨rfl, returned⟩ := (Program.run_pure _ _ _).mp concluded
  rw [← plays_nil_iff.mp further, remaining]
  exact ⟨returned.symm, rfl⟩

end Receive

/-! ## The exchange -/

/-- `recAck` followed by `recBuff`. -/
def receiveBoth (budget : Nat) (outside : Int → Byte) (portH : Int) : Session (Int × Outcome) := do
  let ack ← recAck budget outside portH
  let report ← recBuff budget outside portH
  pure (ack, report)

/-- The outcome as a function of the stream: its first seven octets are the acknowledgement,
the next hundred the report. -/
def outcomeOf (outside : Int → Byte) (stream : List Byte) : Int × Outcome :=
  (ackCode outside (awaitedFrom ackLen stream),
    reportResult outside (awaitedFrom 100 (stream.drop ackLen)))

theorem run_receiveBoth {budget : Nat} {outside : Int → Byte} {portH : Int}
    {device finish : Device} {trace : PortTrace} {result : Option (Int × Outcome)}
    (enough : 2 * 100 + 1 < budget)
    (ran : (receiveBoth budget outside portH).run.Run trace result)
    (played : Plays DeviceStep device trace finish) :
    result = some (outcomeOf outside device.bytes) := by
  unfold receiveBoth at ran
  obtain ⟨ack, first, rest, rfl, acked, reporting⟩ := (run_budgeted_bind _ _ _ _).mp ran
  obtain ⟨middle, playedFirst, playedRest⟩ := plays_append_iff.mp played
  obtain ⟨rfl, afterAck⟩ := run_recAck (by rw [ackLen]; omega) acked playedFirst
  obtain ⟨report, second, last, rfl, reported, pairing⟩ :=
    (run_budgeted_bind _ _ _ _).mp reporting
  obtain ⟨_, playedSecond, _⟩ := plays_append_iff.mp playedRest
  obtain ⟨rfl, _⟩ := run_recBuff enough reported playedSecond
  obtain ⟨_, paired⟩ := (Program.run_pure _ _ _).mp pairing
  rw [← paired, outcomeOf, afterAck]

/-- The program returns the value in every run with the device, and has one. -/
structure Yields {Result : Type} (program : Session Result) (device : Device) (value : Result) :
    Prop where
  everyRun : ∀ trace result finish, program.run.Run trace result →
    Plays DeviceStep device trace finish → result = some value
  someRun : ∃ trace finish, Completes program trace value ∧ Plays DeviceStep device trace finish

theorem receiveBoth_yields {budget : Nat} (enough : 2 * 100 + 1 < budget) (outside : Int → Byte)
    (portH : Int) (device : Device) :
    Yields (receiveBoth budget outside portH) device (outcomeOf outside device.bytes) where
  everyRun _ _ _ ran played := run_receiveBoth enough ran played
  someRun := by
    obtain ⟨trace, result, finish, ran, played⟩ :=
      exists_played_run device_answers (receiveBoth budget outside portH).run device
    have returned := run_receiveBoth enough ran played
    rw [returned] at ran
    exact ⟨trace, finish, ran, played⟩

/-- Two ways to cut a stream into chunks yield one outcome, the one read off the stream. -/
theorem outcome_independent_of_chunks (outside : Int → Byte) (portH : Int) (stream : List Byte)
    (left right : List (List Byte)) (leftCut : CutOf stream left) (rightCut : CutOf stream right)
    (leftBudget rightBudget : Nat) (leftEnough : 2 * 100 + 1 < leftBudget)
    (rightEnough : 2 * 100 + 1 < rightBudget) :
    Yields (receiveBoth leftBudget outside portH) (sending leftCut) (outcomeOf outside stream) ∧
      Yields (receiveBoth rightBudget outside portH) (sending rightCut)
        (outcomeOf outside stream) := by
  have leftYields := receiveBoth_yields leftEnough outside portH (sending leftCut)
  have rightYields := receiveBoth_yields rightEnough outside portH (sending rightCut)
  rw [bytes_sending] at leftYields rightYields
  exact ⟨leftYields, rightYields⟩

def confirmation : List Byte :=
  [0xAA, 0x00, 0x07, 0x05, 0x01, 0x17, 0x82,
    0xAA, 0x00, 0x0E, 0x05, 0x08, 0x00, 0x00, 0x01, 0x00, 0x00, 0x02, 0x01, 0xD1, 0x4A]

theorem confirmation_in_three : CutOf confirmation
    [[0xAA, 0x00, 0x07], [0x05, 0x01, 0x17, 0x82, 0xAA, 0x00],
      [0x0E, 0x05, 0x08, 0x00, 0x00, 0x01, 0x00, 0x00, 0x02, 0x01, 0xD1, 0x4A]] :=
  ⟨rfl, by decide⟩

theorem confirmation_whole : CutOf confirmation [confirmation] := ⟨rfl, by decide⟩

theorem outcome_independent_of_chunks_witness :
    Yields (receiveBoth 202 (fun _ => 0) 3) (sending confirmation_in_three)
        (outcomeOf (fun _ => 0) confirmation) ∧
      Yields (receiveBoth 202 (fun _ => 0) 3) (sending confirmation_whole)
        (outcomeOf (fun _ => 0) confirmation) :=
  outcome_independent_of_chunks _ 3 _ _ _ confirmation_in_three confirmation_whole 202 202
    (by decide) (by decide)

example : (outcomeOf (fun _ => 0) confirmation).2.stored = some [1] := by decide +kernel

end KnxDemo.ComChunks
