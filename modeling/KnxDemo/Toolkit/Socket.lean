import KnxDemo.Toolkit.BufferSock

/-!
# A socket that sends

Buffers wait in a first queue until a flush makes a list of them, and lists that
the kernel does not take whole wait in a second one. Flushes run to their end
one after the other, as they do on the poller's thread.
-/

namespace KnxDemo.SendQueues

open KnxDemo.Bytes KnxDemo.Interaction KnxDemo.BufferSock

inductive SockType where
  | tcp
  | udp
deriving DecidableEq

inductive BufferList where
  | sendMsg (list : BufferSendMsg)
  | sendMMsg (list : BufferSendMMsg)

namespace BufferList

def create (list : List Packet) (cb isUdp : Bool) : BufferList :=
  if isUdp then .sendMMsg (BufferSendMMsg.create list cb)
  else .sendMsg (BufferSendMsg.create list cb)

def empty : BufferList → Bool
  | sendMsg list => list.empty
  | sendMMsg list => list.empty

def count : BufferList → Nat
  | sendMsg list => list.count
  | sendMMsg list => list.count

def remainSize : BufferList → Nat
  | sendMsg list => list.remainSize
  | sendMMsg list => list.remainSize

def back : BufferList → BufferCallBack
  | sendMsg list => list.back
  | sendMMsg list => list.back

def sendLoop (outside : Outside) (answers : List Answer) : BufferList → Sent BufferList
  | sendMsg list =>
      let sent := list.sendLoop outside answers
      ⟨sendMsg sent.list, sent.outside, sent.errno, sent.answers⟩
  | sendMMsg list =>
      let sent := list.sendLoop outside answers
      ⟨sendMMsg sent.list, sent.outside, sent.errno, sent.answers⟩

/-- What is sent, and what `send` returns. -/
def send (list : BufferList) (outside : Outside) (answers : List Answer) :
    Sent BufferList × Int :=
  let sent := list.sendLoop outside answers
  (sent, sentOrError (list.remainSize - sent.list.remainSize))

def destroy (list : BufferList) (outside : Outside) : Outside :=
  (list.back.sendCompleted false outside).2

end BufferList

structure Socket where
  /-- Whether `_sock_fd` is set. -/
  sockFd : Bool
  type : SockType
  /-- Whether the poller has the descriptor, and whether it tells when it can be written. -/
  attached : Bool
  writeEvent : Bool
  sendable : Bool
  errEmit : Bool
  /-- Whether `_send_result` is set. -/
  sendResult : Bool
  sendBufWaiting : List Packet
  sendBufSending : List BufferList
  outside : Outside

namespace Socket

variable (socket : Socket)

def startWriteAbleEvent : Socket :=
  { socket with sendable := false, writeEvent := socket.attached }

def stopWriteAbleEvent : Socket := { socket with sendable := true, writeEvent := false }

/-- On the poller's thread the event is there already. -/
def waitWriteAble (pollerThread : Bool) : Socket :=
  if pollerThread then socket else socket.startWriteAbleEvent

/-- The handler is an event of its own: on the poller's thread it runs at once, and another thread
leaves it to the poller. -/
def emitErr : Socket := { socket with errEmit := true }

/-- The loop of `flushData` over the lists taken out of the second queue. What is left of them is
put back, unless the socket has failed. -/
def flushLists (pollerThread : Bool) : List BufferList → Socket → List Answer →
    Option (List BufferList) × Socket × List Answer
  | [], socket, answers => (some [], socket, answers)
  | packet :: rest, socket, answers =>
      let (sent, n) := packet.send socket.outside answers
      let socket := { socket with outside := sent.outside }
      if n > 0 then
        if sent.list.empty then
          flushLists pollerThread rest
            { socket with outside := sent.list.destroy socket.outside } sent.answers
        else (some (sent.list :: rest), socket.waitWriteAble pollerThread, sent.answers)
      else
        match sent.errno with
        | some .again => (some (sent.list :: rest), socket.waitWriteAble pollerThread, sent.answers)
        | _ =>
            if socket.type = .udp then
              flushLists pollerThread rest
                { socket with outside := sent.list.destroy socket.outside } sent.answers
            else
              let outside := (sent.list :: rest).foldl (fun outside list => list.destroy outside)
                socket.outside
              (none, { socket with outside := outside }.emitErr, sent.answers)

/-- How a round of `flushData` ends that has lists to send: it returns a value or has sent them. -/
def flushTaken (pollerThread : Bool) (lists : List BufferList) (answers : List Answer) :
    Option Bool × Socket × List Answer :=
  match flushLists pollerThread lists socket answers with
  | (none, socket, answers) => (some false, socket, answers)
  | (some [], socket, answers) => (none, socket, answers)
  | (some left, socket, answers) =>
      (some true, { socket with sendBufSending := left ++ socket.sendBufSending }, answers)

def flushRound (pollerThread : Bool) (answers : List Answer) :
    Option Bool × Socket × List Answer :=
  let emptied := { socket with sendBufSending := [] }
  if socket.sendBufSending = [] then
    if socket.sendBufWaiting = [] then
      (some true, if pollerThread then emptied.stopWriteAbleEvent else emptied, answers)
    else
      let list := BufferList.create socket.sendBufWaiting socket.sendResult (socket.type = .udp)
      { emptied with sendBufWaiting := [] }.flushTaken pollerThread [list] answers
  else emptied.flushTaken pollerThread socket.sendBufSending answers

@[simp] theorem sendBufWaiting_waitWriteAble (pollerThread : Bool) :
    (socket.waitWriteAble pollerThread).sendBufWaiting = socket.sendBufWaiting := by
  cases pollerThread <;> rfl

@[simp] theorem sendBufSending_waitWriteAble (pollerThread : Bool) :
    (socket.waitWriteAble pollerThread).sendBufSending = socket.sendBufSending := by
  cases pollerThread <;> rfl

theorem flushLists_queues (pollerThread : Bool) (lists : List BufferList) (socket : Socket)
    (answers : List Answer) :
    (flushLists pollerThread lists socket answers).2.1.sendBufWaiting = socket.sendBufWaiting ∧
      (flushLists pollerThread lists socket answers).2.1.sendBufSending =
        socket.sendBufSending := by
  induction lists generalizing socket answers with
  | nil => exact ⟨rfl, rfl⟩
  | cons packet rest induction =>
      rw [flushLists]
      dsimp only
      split_ifs
      · exact induction _ _
      · simp
      · split
        · simp
        · exact induction _ _
      · split
        · simp
        · exact ⟨rfl, rfl⟩

theorem flushTaken_queues {pollerThread : Bool} {lists : List BufferList}
    {answers rest : List Answer} {next : Socket}
    (round : socket.flushTaken pollerThread lists answers = (none, next, rest)) :
    next.sendBufWaiting = socket.sendBufWaiting ∧
      next.sendBufSending = socket.sendBufSending := by
  have queues := flushLists_queues pollerThread lists socket answers
  rw [flushTaken] at round
  split at round
  · cases round
  · rename_i flushed
    cases round
    rw [flushed] at queues
    exact queues
  · cases round

theorem flushRound_less {pollerThread : Bool} {answers rest : List Answer} {next : Socket}
    (round : socket.flushRound pollerThread answers = (none, next, rest)) :
    next.sendBufWaiting.length + next.sendBufSending.length <
      socket.sendBufWaiting.length + socket.sendBufSending.length := by
  rw [flushRound] at round
  by_cases sending : socket.sendBufSending = []
  · rw [if_pos sending] at round
    by_cases waiting : socket.sendBufWaiting = []
    · rw [if_pos waiting] at round
      cases round
    · rw [if_neg waiting] at round
      obtain ⟨waited, sent⟩ := flushTaken_queues _ round
      rw [waited, sent]
      exact Nat.lt_of_lt_of_le (List.length_pos_of_ne_nil waiting) (Nat.le_add_right _ _)
  · rw [if_neg sending] at round
    obtain ⟨waited, sent⟩ := flushTaken_queues _ round
    rw [waited, sent]
    exact Nat.add_lt_add_left (List.length_pos_of_ne_nil sending) _

def flushData (pollerThread : Bool) (socket : Socket) (answers : List Answer) :
    Bool × Socket × List Answer :=
  match _round : socket.flushRound pollerThread answers with
  | (some value, next, answers) => (value, next, answers)
  | (none, next, answers) =>
      if pollerThread then flushData pollerThread next answers else (true, next, answers)
termination_by socket.sendBufWaiting.length + socket.sendBufSending.length
decreasing_by exact flushRound_less socket _round

theorem flushData_returned {pollerThread : Bool} {answers rest : List Answer} {value : Bool}
    {next : Socket} (round : socket.flushRound pollerThread answers = (some value, next, rest)) :
    flushData pollerThread socket answers = (value, next, rest) := by
  rw [flushData]
  split
  · rename_i same
    cases round.symm.trans same
    rfl
  · rename_i same
    cases round.symm.trans same

/-- `overdue` says whether the oldest octets have waited too long. -/
def flushAll (overdue : Bool) (answers : List Answer) : Socket × Int :=
  if !socket.sockFd then (socket, -1)
  else if socket.sendable then
    let (flushed, socket, _) := flushData false socket answers
    (socket, if flushed then 0 else -1)
  else if overdue then (socket.emitErr, -1)
  else (socket, 0)

/-- The buffer has its address, if it is sent to one. -/
def send (packet : Packet) (tryFlush overdue : Bool) (answers : List Answer) : Socket × Int :=
  if packet.data.length = 0 then (socket, 0)
  else
    let socket := { socket with sendBufWaiting := socket.sendBufWaiting ++ [packet] }
    if tryFlush then
      let (socket, flushed) := socket.flushAll overdue answers
      (socket, if flushed ≠ 0 then -1 else packet.data.length)
    else (socket, packet.data.length)

def onWriteAble (answers : List Answer) : Socket :=
  if socket.sendBufWaiting = [] ∧ socket.sendBufSending = [] then socket.stopWriteAbleEvent
  else (flushData true socket answers).2.1

/-- The lists in the second queue are destroyed, and the buffers in the first one dropped. -/
def closeSock (closeFd : Bool) : Socket :=
  { socket with
    sendable := true
    sendBufWaiting := []
    sendBufSending := []
    outside := socket.sendBufSending.foldl (fun outside list => list.destroy outside) socket.outside
    errEmit := socket.errEmit && !closeFd
    sockFd := socket.sockFd && !closeFd
    attached := false
    writeEvent := false }

def getSendBufferCount : Nat :=
  socket.sendBufWaiting.length + (socket.sendBufSending.map BufferList.count).sum

end Socket

/-- What reaches a socket on its poller's thread. A handler of `emitErr` is a `closeSock`.
`enableRecv` is left out: it stops watching for `Event_Write` on a socket that is sendable. -/
inductive Event where
  | send (packet : Packet) (tryFlush overdue : Bool) (answers : List Answer)
  | flushAll (overdue : Bool) (answers : List Answer)
  | writeAble (answers : List Answer)
  | closeSock (closeFd : Bool)

def fromSock (type : SockType) (sendResult : Bool) : Socket where
  sockFd := true
  type := type
  attached := true
  writeEvent := true
  sendable := true
  errEmit := false
  sendResult := sendResult
  sendBufWaiting := []
  sendBufSending := []
  outside := ⟨[], []⟩

def Socket.step (socket : Socket) : Event → Socket
  | .send packet tryFlush overdue answers => (socket.send packet tryFlush overdue answers).1
  | .flushAll overdue answers => (socket.flushAll overdue answers).1
  | .writeAble answers =>
      if socket.attached ∧ socket.writeEvent then socket.onWriteAble answers else socket
  | .closeSock closeFd => socket.closeSock closeFd

def Event.accepted : Event → List Packet
  | .send packet _ _ _ => if packet.data.length = 0 then [] else [packet]
  | _ => []

/-! ## What becomes of the buffers -/

/-- A buffer was sent whole, failed with a part of it out, or was dropped with the first queue. -/
inductive Fate where
  | sent
  | failed (part : List Byte)
  | dropped

section Fate

variable (entry : Packet × Fate)

def callback : List (Packet × Bool) :=
  match entry.2 with
  | .sent => [(entry.1, true)]
  | .failed _ => [(entry.1, false)]
  | .dropped => []

def contribution : List Byte :=
  match entry.2 with
  | .sent => entry.1.data
  | .failed part => part
  | .dropped => []

def datagram : List (Option (List Byte) × List Byte) :=
  match entry.2 with
  | .sent => [(entry.1.sockaddr, entry.1.data)]
  | _ => []

def Possible (isUdp : Bool) : Prop :=
  ∀ part, entry.2 = .failed part →
    (∃ left, entry.1.data = part ++ left ∧ left ≠ []) ∧ (isUdp = true → part = [])

end Fate

/-- What is outside is what the buffers that are settled have made of it, and a part of the next
one. -/
structure Ledger (isUdp cb : Bool) (settled : List (Packet × Fate)) (part : List Byte)
    (outside : Outside) : Prop where
  called : outside.called = if cb then settled.flatMap callback else []
  stream : isUdp = false → outside.stream = settled.flatMap contribution ++ part
  wire : isUdp = true → part = [] ∧ outside.wire = settled.flatMap datagram
  possible : ∀ entry ∈ settled, Possible entry isUdp

def failures (pending : List Packet) (part : List Byte) : List (Packet × Fate) :=
  match pending with
  | [] => []
  | first :: others => (first, .failed part) :: others.map (·, .failed [])

namespace Ledger

variable {isUdp cb : Bool} {settled : List (Packet × Fate)} {part : List Byte} {outside : Outside}

theorem moves (ledger : Ledger isUdp cb settled part outside) {gone : List Packet}
    {outside' : Outside} {part' : List Byte}
    (moves : Moves isUdp cb gone outside outside' part part') :
    Ledger isUdp cb (settled ++ gone.map (·, .sent)) part' outside' := by
  constructor
  · rw [moves.called, ledger.called, calls, List.flatMap_append, List.flatMap_map]
    cases cb with
    | false => rfl
    | true => exact congrArg _ (List.map_eq_flatMap ..)
  · intro stream
    obtain ⟨taken, grown, octets⟩ := moves.stream
    rw [grown, ledger.stream stream, List.append_assoc, octets, List.flatMap_append,
      List.flatMap_map, List.append_assoc]
    rfl
  · intro udp
    obtain ⟨same, wire⟩ := moves.datagrams udp
    obtain ⟨none, sent⟩ := ledger.wire udp
    refine ⟨same.trans none, ?_⟩
    rw [wire, sent, List.flatMap_append, List.flatMap_map, List.map_eq_flatMap]
    rfl
  · intro entry inside
    rw [List.mem_append, List.mem_map] at inside
    obtain before | ⟨packet, -, rfl⟩ := inside
    · exact ledger.possible entry before
    · intro part same
      cases same

theorem fails (ledger : Ledger isUdp cb settled part outside) {pending : List Packet}
    (ahead : Ahead pending part) (nonempty : ∀ packet ∈ pending, packet.data ≠ []) :
    Ledger isUdp cb (settled ++ failures pending part) []
      { outside with called := outside.called ++ calls cb pending false } := by
  have callbacks : (failures pending part).flatMap callback = pending.map (·, false) := by
    cases pending with
    | nil => rfl
    | cons first others =>
        rw [failures, List.flatMap_cons, List.flatMap_map, List.map_cons, List.map_eq_flatMap]
        rfl
  have contributions : (failures pending part).flatMap contribution = part := by
    cases pending with
    | nil => exact (show part = [] from ahead).symm
    | cons first others =>
        rw [failures, List.flatMap_cons, List.flatMap_map]
        exact (congrArg (part ++ ·) (List.flatMap_eq_nil_iff.mpr fun _ _ => rfl)).trans
          (List.append_nil part)
  have datagrams : (failures pending part).flatMap datagram = [] := by
    cases pending with
    | nil => rfl
    | cons first others =>
        rw [failures, List.flatMap_cons, List.flatMap_map]
        exact List.flatMap_eq_nil_iff.mpr fun _ _ => rfl
  constructor
  · rw [ledger.called, calls, List.flatMap_append, callbacks]
    cases cb <;> rfl
  · intro stream
    rw [List.flatMap_append, contributions, List.append_nil]
    exact ledger.stream stream
  · intro udp
    rw [List.flatMap_append, datagrams, List.append_nil]
    exact ⟨rfl, (ledger.wire udp).2⟩
  · intro entry inside
    obtain before | failed := List.mem_append.mp inside
    · exact ledger.possible entry before
    cases pending with
    | nil => cases failed
    | cons first others =>
        obtain same | later := List.mem_cons.mp failed
        · subst same
          intro part' same
          obtain rfl := Fate.failed.inj same
          exact ⟨ahead, fun udp => (ledger.wire udp).1⟩
        · obtain ⟨packet, rest, rfl⟩ := List.mem_map.mp later
          intro part' same
          obtain rfl := Fate.failed.inj same
          exact ⟨⟨packet.data, rfl, nonempty packet (List.mem_cons_of_mem _ rest)⟩, fun _ => rfl⟩

theorem drops (ledger : Ledger isUdp cb settled [] outside) (waiting : List Packet) :
    Ledger isUdp cb (settled ++ waiting.map (·, .dropped)) [] outside := by
  have nothing {Element : Type} (view : Packet × Fate → List Element)
      (empty : ∀ packet, view (packet, .dropped) = []) :
      (settled ++ waiting.map (·, Fate.dropped)).flatMap view = settled.flatMap view := by
    rw [List.flatMap_append, List.flatMap_map,
      List.flatMap_eq_nil_iff.mpr fun packet _ => empty packet, List.append_nil]
  constructor
  · rw [nothing callback fun _ => rfl]
    exact ledger.called
  · rw [nothing contribution fun _ => rfl]
    exact ledger.stream
  · rw [nothing datagram fun _ => rfl]
    exact ledger.wire
  · intro entry inside
    obtain before | later := List.mem_append.mp inside
    · exact ledger.possible entry before
    · obtain ⟨packet, -, rfl⟩ := List.mem_map.mp later
      exact nofun

end Ledger

/-! ## What a flush does -/

namespace BufferList

def Stands (isUdp cb : Bool) (list : BufferList) (pending : List Packet) (part : List Byte) :
    Prop :=
  match list with
  | sendMsg list => isUdp = false ∧ list.Stands cb pending part
  | sendMMsg list => isUdp = true ∧ list.Stands cb pending part

variable {isUdp cb : Bool} {list : BufferList} {pending : List Packet} {part : List Byte}

theorem stands_create (nonempty : ∀ packet ∈ pending, packet.data ≠ []) (isUdp cb : Bool) :
    Stands isUdp cb (create pending cb isUdp) pending [] := by
  cases isUdp with
  | false => exact ⟨rfl, BufferSendMsg.stands_create nonempty cb⟩
  | true => exact ⟨rfl, BufferSendMMsg.stands_create nonempty cb⟩

variable (stands : Stands isUdp cb list pending part)

include stands

theorem Stands.ahead : Ahead pending part := by
  cases list with
  | sendMsg list => exact stands.2.ahead
  | sendMMsg list => exact stands.2.ahead

theorem Stands.remainSize_eq_zero_iff : list.remainSize = 0 ↔ pending = [] := by
  cases list with
  | sendMsg list => exact stands.2.remainSize_eq_zero_iff
  | sendMMsg list => exact stands.2.remainSize_eq_zero_iff

theorem Stands.empty_iff : list.empty = true ↔ pending = [] := by
  rw [← stands.remainSize_eq_zero_iff]
  cases list <;> exact decide_eq_true_iff

theorem Stands.back : list.back = ⟨cb, pending⟩ := by
  cases list with
  | sendMsg list =>
      obtain ⟨-, stands⟩ := stands
      cases stands with
      | sent back _ => exact back
      | sending same current _ =>
          rw [← same, ← current.pktList]
          rfl
  | sendMMsg list =>
      rw [← stands.2.cb, ← stands.2.pktList]
      rfl

theorem Stands.nonempty : ∀ packet ∈ pending, packet.data ≠ [] := by
  cases list with
  | sendMsg list =>
      obtain ⟨-, stands⟩ := stands
      cases stands with
      | sent => exact fun _ inside => nomatch inside
      | sending _ current _ =>
          intro packet inside
          obtain rfl | later := List.mem_cons.mp inside
          · rw [current.octets]
            exact List.append_ne_nil_of_right_ne_nil _ current.some
          · exact current.nonempty packet later
  | sendMMsg list => exact stands.2.nonempty

theorem Stands.count (left : pending ≠ []) : list.count = pending.length := by
  cases list with
  | sendMsg list =>
      obtain ⟨-, stands⟩ := stands
      cases stands with
      | sent => exact absurd rfl left
      | sending _ current _ =>
          have length := congrArg List.length current.iovec
          rw [List.length_drop, List.length_cons, List.length_map] at length
          exact length
  | sendMMsg list =>
      have length := congrArg List.length stands.2.hdrvec
      rw [List.length_map] at length
      exact length

theorem destroy_eq (outside : Outside) :
    list.destroy outside =
      { outside with called := outside.called ++ calls cb pending false } := by
  rw [destroy, BufferCallBack.sendCompleted, BufferCallBack.call_eq, stands.back]

theorem sendLoop_spec (outside : Outside) (answers : List Answer) :
    Sends (Stands isUdp cb) isUdp cb pending part outside (sendLoop outside answers list) := by
  cases list with
  | sendMsg list =>
      obtain ⟨rfl, stands⟩ := stands
      obtain ⟨gone, pending', part', split, stood, rest⟩ :=
        BufferSendMsg.sendLoop_spec stands outside answers
      exact ⟨gone, pending', part', split, ⟨rfl, stood⟩, rest⟩
  | sendMMsg list =>
      obtain ⟨rfl, stands⟩ := stands
      obtain ⟨gone, pending', part', split, stood, rest⟩ :=
        BufferSendMMsg.sendLoop_spec stands outside answers
      exact ⟨gone, pending', part', split, ⟨rfl, stood⟩, rest⟩

omit stands in
theorem remainSize_create (packets : List Packet) (cb isUdp : Bool) :
    (create packets cb isUdp).remainSize = (packets.map (·.data.length)).sum := by
  cases isUdp <;> rfl

theorem sendLoop_willing (outside : Outside) {answers : List Answer} (willing : Willing answers)
    (enough : list.remainSize ≤ answers.length) :
    (sendLoop outside answers list).errno = none ∧
      Willing (sendLoop outside answers list).answers ∧
      answers.length ≤ (sendLoop outside answers list).answers.length + list.remainSize := by
  cases list with
  | sendMsg list => exact BufferSendMsg.sendLoop_willing stands.2 outside willing enough
  | sendMMsg list => exact BufferSendMMsg.sendLoop_willing stands.2 outside willing enough

end BufferList

def withFailures (outside : Outside) (cb : Bool) (pending : List Packet) : Outside :=
  { outside with called := outside.called ++ calls cb pending false }

inductive Flushed (pollerThread isUdp cb : Bool) (socket : Socket) (outside : Outside)
    (pending : List Packet) (part : List Byte) :
    Option (List BufferList) × Socket × List Answer → Prop where
  | sent (answers : List Answer) : pending = [] →
      Flushed pollerThread isUdp cb socket outside pending part
        (some [], { socket with outside := outside }, answers)
  | waits (answers : List Answer) {list : BufferList} : pending ≠ [] →
      list.Stands isUdp cb pending part →
      Flushed pollerThread isUdp cb socket outside pending part
        (some [list], { socket with outside := outside }.waitWriteAble pollerThread, answers)
  | lost (answers : List Answer) : isUdp = true →
      Flushed pollerThread isUdp cb socket outside pending part
        (some [], { socket with outside := withFailures outside cb pending }, answers)
  | failed (answers : List Answer) : isUdp = false →
      Flushed pollerThread isUdp cb socket outside pending part
        (none, { socket with outside := withFailures outside cb pending }.emitErr, answers)

theorem sentOrError_pos_iff {sent : Nat} : sentOrError sent > 0 ↔ sent > 0 := by
  rw [sentOrError]
  split_ifs with some
  · exact ⟨fun _ => some, fun _ => Int.natCast_pos.mpr some⟩
  · exact ⟨fun positive => absurd positive (by decide), fun positive => absurd positive some⟩

theorem flushLists_one (pollerThread : Bool) {isUdp cb : Bool} {socket : Socket} {list : BufferList}
    {pending : List Packet} {part : List Byte} (type : socket.type = .udp ↔ isUdp = true)
    (stands : list.Stands isUdp cb pending part) (some : pending ≠ []) (answers : List Answer) :
    ∃ gone pending' part' outside', pending = gone ++ pending' ∧
      Moves isUdp cb gone socket.outside outside' part part' ∧ Ahead pending' part' ∧
      Flushed pollerThread isUdp cb socket outside' pending' part'
        (Socket.flushLists pollerThread [list] socket answers) := by
  obtain ⟨gone, pending', part', split, stood, moves, errno, known⟩ :=
    BufferList.sendLoop_spec stands socket.outside answers
  refine ⟨gone, pending', part', _, split, moves, stood.ahead, ?_⟩
  have before := mt stands.remainSize_eq_zero_iff.mp some
  have after := stood.remainSize_eq_zero_iff
  rw [Socket.flushLists, BufferList.send]
  dsimp only
  by_cases finished : pending' = []
  · have left := after.mpr finished
    rw [if_pos (sentOrError_pos_iff.mpr (by omega)), if_pos (stood.empty_iff.mpr finished),
      BufferList.destroy_eq stood, finished, Socket.flushLists]
    rw [calls_nil, List.append_nil]
    exact .sent _ rfl
  · have waits : Flushed pollerThread isUdp cb socket
        (list.sendLoop socket.outside answers).outside pending' part' _ :=
      .waits (list.sendLoop socket.outside answers).answers finished stood
    split_ifs with progress empty
    · exact absurd (stood.empty_iff.mp empty) finished
    · exact waits
    · split
      · exact waits
      · rw [Socket.flushLists, BufferList.destroy_eq stood]
        exact .lost _ (type.mp ‹_›)
    · split
      · exact waits
      · rw [List.foldl_cons, List.foldl_nil, BufferList.destroy_eq stood]
        exact .failed _ (Bool.eq_false_iff.mpr (mt type.mpr ‹_›))

/-! ## The books -/

/-- Every buffer accepted is settled, on its way or waiting, in this order. On a connection that
has neither failed nor been closed all that is settled was sent. -/
def Books (isUdp cb closed : Bool) (accepted waiting : List Packet) (errEmit : Bool)
    (outside : Outside) (pending : List Packet) (part : List Byte) : Prop :=
  ∃ settled, accepted = settled.map Prod.fst ++ pending ++ waiting ∧
    Ledger isUdp cb settled part outside ∧
    (isUdp = false → closed = false → errEmit = false → ∀ entry ∈ settled, entry.2 = .sent)

section Books

variable {isUdp cb closed : Bool} {accepted waiting pending : List Packet} {errEmit : Bool}
  {outside : Outside} {part : List Byte}

theorem Books.moves (books : Books isUdp cb closed accepted waiting errEmit outside pending part)
    {gone pending' : List Packet} {outside' : Outside} {part' : List Byte}
    (split : pending = gone ++ pending') (moves : Moves isUdp cb gone outside outside' part part') :
    Books isUdp cb closed accepted waiting errEmit outside' pending' part' := by
  obtain ⟨settled, account, ledger, clean⟩ := books
  refine ⟨settled ++ gone.map (·, .sent), ?_, ledger.moves moves, ?_⟩
  · rw [account, split, List.map_append, List.map_map, List.append_assoc, List.append_assoc,
      List.append_assoc, List.append_assoc]
    exact congrArg (_ ++ ·) (congrArg (· ++ _) (List.map_id gone).symm)
  · intro tcp unclosed works entry inside
    obtain before | now := List.mem_append.mp inside
    · exact clean tcp unclosed works entry before
    · obtain ⟨packet, -, rfl⟩ := List.mem_map.mp now
      rfl

theorem Books.fails (books : Books isUdp cb closed accepted waiting errEmit outside pending part)
    (ahead : Ahead pending part) (nonempty : ∀ packet ∈ pending, packet.data ≠ [])
    (closed' errEmit' : Bool)
    (disturbed : isUdp = true ∨ closed' = true ∨ errEmit' = true) :
    Books isUdp cb closed' accepted waiting errEmit' (withFailures outside cb pending) [] [] := by
  obtain ⟨settled, account, ledger, clean⟩ := books
  refine ⟨settled ++ failures pending part, ?_, ledger.fails ahead nonempty, ?_⟩
  · have failed : (failures pending part).map Prod.fst = pending := by
      cases pending with
      | nil => rfl
      | cons first others =>
          rw [failures, List.map_cons, List.map_map]
          exact congrArg (first :: ·) (List.map_id others)
    rw [account, List.map_append, failed, List.append_nil]
  · intro tcp unclosed works entry inside
    obtain udp | shut | failed := disturbed
    · exact absurd udp (Bool.eq_false_iff.mp tcp)
    · exact absurd shut (Bool.eq_false_iff.mp unclosed)
    · exact absurd failed (Bool.eq_false_iff.mp works)

theorem Books.drops (books : Books isUdp cb closed accepted waiting errEmit outside [] [])
    (errEmit' : Bool) : Books isUdp cb true accepted [] errEmit' outside [] [] := by
  obtain ⟨settled, account, ledger, -⟩ := books
  refine ⟨settled ++ waiting.map (·, .dropped), ?_, ledger.drops waiting, nofun⟩
  rw [account, List.map_append, List.map_map, List.append_nil, List.append_nil, List.append_nil]
  exact congrArg (_ ++ ·) (List.map_id waiting).symm

theorem Books.accepts (books : Books isUdp cb closed accepted waiting errEmit outside pending part)
    (packets : List Packet) :
    Books isUdp cb closed (accepted ++ packets) (waiting ++ packets) errEmit outside pending
      part := by
  obtain ⟨settled, account, rest⟩ := books
  refine ⟨settled, ?_, rest⟩
  rw [account, List.append_assoc _ waiting]

theorem Books.takes (books : Books isUdp cb closed accepted waiting errEmit outside [] []) :
    Books isUdp cb closed accepted [] errEmit outside waiting [] := by
  obtain ⟨settled, account, rest⟩ := books
  refine ⟨settled, ?_, rest⟩
  rw [account, List.append_nil, List.append_nil]

end Books

inductive Holds (isUdp cb : Bool) : List BufferList → List Packet → List Byte → Prop where
  | nothing : Holds isUdp cb [] [] []
  | one {list : BufferList} {pending : List Packet} {part : List Byte} : pending ≠ [] →
      list.Stands isUdp cb pending part → Holds isUdp cb [list] pending part

/-- The invariant of a socket. The poller watches for the descriptor to become writable when
something is left of a list, and when flushes are put off. -/
structure Accounts (isUdp cb closed : Bool) (accepted : List Packet) (socket : Socket) : Prop where
  type : socket.type = .udp ↔ isUdp = true
  sendResult : socket.sendResult = cb
  waiting : ∀ packet ∈ socket.sendBufWaiting, packet.data ≠ []
  books : ∃ pending part, Holds isUdp cb socket.sendBufSending pending part ∧
    Books isUdp cb closed accepted socket.sendBufWaiting socket.errEmit socket.outside pending part
  watched : socket.sendBufSending ≠ [] ∨ socket.sendable = false →
    socket.writeEvent = socket.attached
  attached : closed = false → socket.attached = true

theorem accounts_flushTaken (socket : Socket) (pollerThread : Bool) {isUdp cb closed : Bool}
    {accepted : List Packet} {list : BufferList} {pending : List Packet} {part : List Byte}
    (type : socket.type = .udp ↔ isUdp = true) (sendResult : socket.sendResult = cb)
    (waiting : ∀ packet ∈ socket.sendBufWaiting, packet.data ≠ [])
    (taken : socket.sendBufSending = [])
    (watched : pollerThread = true ∨ socket.sendable = false →
      socket.writeEvent = socket.attached)
    (attached : closed = false → socket.attached = true)
    (stands : list.Stands isUdp cb pending part) (some : pending ≠ [])
    (books : Books isUdp cb closed accepted socket.sendBufWaiting socket.errEmit socket.outside
      pending part) (answers : List Answer) :
    Accounts isUdp cb closed accepted (socket.flushTaken pollerThread [list] answers).2.1 ∧
      (pollerThread = true → (socket.flushTaken pollerThread [list] answers).2.1.writeEvent =
        (socket.flushTaken pollerThread [list] answers).2.1.attached) := by
  obtain ⟨gone, pending', part', outside', split, moves, ahead, flushed⟩ :=
    flushLists_one pollerThread type stands some answers
  have nonempty : ∀ packet ∈ pending', packet.data ≠ [] := fun packet inside =>
    stands.nonempty packet (split ▸ List.mem_append_right gone inside)
  have moved := books.moves split moves
  have same : Holds isUdp cb socket.sendBufSending [] [] := taken.symm ▸ .nothing
  have idle : socket.sendBufSending ≠ [] ∨ socket.sendable = false →
      socket.writeEvent = socket.attached := fun busy => watched (busy.elim (absurd taken) .inr)
  have told : pollerThread = true → socket.writeEvent = socket.attached :=
    fun poller => watched (.inl poller)
  rw [Socket.flushTaken]
  generalize Socket.flushLists pollerThread [list] socket answers = result at flushed ⊢
  cases flushed with
  | sent answers finished =>
      subst finished
      obtain rfl : part' = [] := ahead
      exact ⟨⟨type, sendResult, waiting, ⟨[], [], same, moved⟩, idle, attached⟩, told⟩
  | @waits answers rest left stood =>
      have one := Holds.one left stood
      have rolled : Holds isUdp cb ([rest] ++ socket.sendBufSending) pending' part' := by
        rw [taken]
        exact one
      cases pollerThread with
      | true =>
          exact ⟨⟨type, sendResult, waiting, ⟨pending', part', rolled, moved⟩, fun _ => told rfl,
            attached⟩, told⟩
      | false =>
          exact ⟨⟨type, sendResult, waiting, ⟨pending', part', rolled, moved⟩, fun _ => rfl,
            attached⟩, nofun⟩
  | lost answers udp =>
      have failed := moved.fails ahead nonempty closed socket.errEmit (.inl udp)
      exact ⟨⟨type, sendResult, waiting, ⟨[], [], same, failed⟩, idle, attached⟩, told⟩
  | failed answers tcp =>
      have failed := moved.fails ahead nonempty closed true (.inr (.inr rfl))
      exact ⟨⟨type, sendResult, waiting, ⟨[], [], same, failed⟩, idle, attached⟩, told⟩

section Steps

variable {isUdp cb closed : Bool} {accepted : List Packet} {socket : Socket}
  (accounts : Accounts isUdp cb closed accepted socket)

include accounts

theorem accounts_flushRound {pollerThread : Bool}
    (told : pollerThread = true → socket.writeEvent = socket.attached) (answers : List Answer) :
    Accounts isUdp cb closed accepted (socket.flushRound pollerThread answers).2.1 ∧
      ((socket.flushRound pollerThread answers).1 = none → pollerThread = true →
        (socket.flushRound pollerThread answers).2.1.writeEvent =
          (socket.flushRound pollerThread answers).2.1.attached) := by
  obtain ⟨type, rfl, waiting, ⟨pending, part, holds, books⟩, watched, attached⟩ := accounts
  generalize lists : socket.sendBufSending = sending at holds watched
  have put : pollerThread = true ∨ socket.sendable = false →
      socket.writeEvent = socket.attached := by
    rintro (poller | busy)
    · exact told poller
    · exact watched (.inr busy)
  rw [Socket.flushRound, lists]
  cases holds with
  | nothing =>
      rw [if_pos rfl]
      by_cases idle : socket.sendBufWaiting = []
      · rw [if_pos idle]
        cases pollerThread with
        | true => exact ⟨⟨type, rfl, waiting, ⟨[], [], .nothing, books⟩,
            fun busy => busy.elim (absurd rfl) nofun, attached⟩, nofun⟩
        | false => exact ⟨⟨type, rfl, waiting, ⟨[], [], .nothing, books⟩,
            fun busy => busy.elim (absurd rfl) fun off => put (.inr off), attached⟩, nofun⟩
      · rw [if_neg idle]
        have udp : decide (socket.type = .udp) = isUdp := by
          cases isUdp with
          | true => exact decide_eq_true (type.mpr rfl)
          | false => exact decide_eq_false (mt type.mp Bool.false_ne_true)
        rw [udp]
        obtain ⟨after, still⟩ := accounts_flushTaken
          { socket with sendBufSending := [], sendBufWaiting := [] } pollerThread type rfl
          (fun _ inside => nomatch inside) rfl put attached
          (BufferList.stands_create waiting isUdp socket.sendResult) idle books.takes answers
        exact ⟨after, fun _ => still⟩
  | one some stands =>
      rw [if_neg (List.cons_ne_nil _ _)]
      obtain ⟨after, still⟩ := accounts_flushTaken { socket with sendBufSending := [] }
        pollerThread type rfl waiting rfl put attached stands some books answers
      exact ⟨after, fun _ => still⟩

theorem accounts_flushData (pollerThread : Bool)
    (told : pollerThread = true → socket.writeEvent = socket.attached) (answers : List Answer) :
    Accounts isUdp cb closed accepted (Socket.flushData pollerThread socket answers).2.1 := by
  fun_induction Socket.flushData pollerThread socket answers with
  | case1 socket answers value next rest round =>
      have kept := (accounts_flushRound accounts told answers).1
      rw [round] at kept
      exact kept
  | case2 socket answers next rest round poller induction =>
      obtain ⟨kept, still⟩ := accounts_flushRound accounts told answers
      rw [round] at kept still
      exact induction kept (still rfl)
  | case3 socket answers next rest round =>
      have kept := (accounts_flushRound accounts told answers).1
      rw [round] at kept
      exact kept

theorem accounts_emitErr : Accounts isUdp cb closed accepted socket.emitErr := by
  obtain ⟨type, sendResult, waiting, ⟨pending, part, holds, settled, account, ledger, -⟩, watched,
    attached⟩ := accounts
  exact ⟨type, sendResult, waiting, ⟨pending, part, holds, settled, account, ledger, nofun⟩,
    watched, attached⟩

theorem accounts_flushAll (overdue : Bool) (answers : List Answer) :
    Accounts isUdp cb closed accepted (socket.flushAll overdue answers).1 := by
  rw [Socket.flushAll]
  split_ifs
  · exact accounts
  · exact accounts_flushData accounts false nofun answers
  · exact accounts_emitErr accounts
  · exact accounts

theorem accounts_send (packet : Packet) (tryFlush overdue : Bool) (answers : List Answer) :
    Accounts isUdp cb closed
      (accepted ++ (Event.send packet tryFlush overdue answers).accepted)
      (socket.send packet tryFlush overdue answers).1 := by
  rw [Socket.send, Event.accepted]
  by_cases empty : packet.data.length = 0
  · rw [if_pos empty, if_pos empty, List.append_nil]
    exact accounts
  rw [if_neg empty, if_neg empty]
  have queued : Accounts isUdp cb closed (accepted ++ [packet])
      { socket with sendBufWaiting := socket.sendBufWaiting ++ [packet] } := by
    obtain ⟨type, sendResult, waiting, ⟨pending, part, holds, books⟩, watched, attached⟩ := accounts
    refine ⟨type, sendResult, ?_, ⟨pending, part, holds, books.accepts [packet]⟩, watched, attached⟩
    intro other inside
    obtain before | now := List.mem_append.mp inside
    · exact waiting other before
    · rw [List.mem_singleton.mp now]
      exact fun none => empty (List.length_eq_zero_iff.mpr none)
  cases tryFlush with
  | false => exact queued
  | true => exact accounts_flushAll queued overdue answers

theorem accounts_writeAble (answers : List Answer)
    (told : socket.attached = true ∧ socket.writeEvent = true) :
    Accounts isUdp cb closed accepted (socket.onWriteAble answers) := by
  rw [Socket.onWriteAble]
  split_ifs with idle
  · obtain ⟨type, sendResult, waiting, books, -, attached⟩ := accounts
    exact ⟨type, sendResult, waiting, books, fun busy => busy.elim (absurd idle.2) nofun, attached⟩
  · exact accounts_flushData accounts true (fun _ => told.2.trans told.1.symm) answers

theorem accounts_closeSock (closeFd : Bool) :
    Accounts isUdp cb true accepted (socket.closeSock closeFd) := by
  obtain ⟨type, sendResult, waiting, ⟨pending, part, holds, books⟩, -⟩ := accounts
  have closed : Books isUdp cb true accepted [] (socket.errEmit && !closeFd)
      (socket.closeSock closeFd).outside [] [] := by
    rw [Socket.closeSock]
    generalize socket.sendBufSending = sending at holds
    cases holds with
    | nothing => exact books.drops _
    | one some stands =>
        rw [List.foldl_cons, List.foldl_nil, BufferList.destroy_eq stands]
        have failed :=
          books.fails stands.ahead stands.nonempty true socket.errEmit (.inr (.inl rfl))
        exact failed.drops _
  exact ⟨type, sendResult, (fun _ inside => nomatch inside), ⟨[], [], .nothing, closed⟩,
    fun _ => rfl, nofun⟩

end Steps

def Event.closes : Event → Bool
  | .closeSock _ => true
  | _ => false

theorem accounts_step {isUdp cb closed : Bool} {accepted : List Packet} {socket : Socket}
    (accounts : Accounts isUdp cb closed accepted socket) (event : Event) :
    Accounts isUdp cb (closed || event.closes) (accepted ++ event.accepted)
      (socket.step event) := by
  cases event with
  | send packet tryFlush overdue answers =>
      simp only [Event.closes, Bool.or_false]
      exact accounts_send accounts packet tryFlush overdue answers
  | flushAll overdue answers =>
      simp only [Event.closes, Bool.or_false, Event.accepted, List.append_nil]
      exact accounts_flushAll accounts overdue answers
  | writeAble answers =>
      simp only [Event.closes, Bool.or_false, Event.accepted, List.append_nil, Socket.step]
      split_ifs with told
      · exact accounts_writeAble accounts answers told
      · exact accounts
  | closeSock closeFd =>
      simp only [Event.closes, Bool.or_true, Event.accepted, List.append_nil]
      exact accounts_closeSock accounts closeFd

def Socket.run (socket : Socket) (events : List Event) : Socket := events.foldl Socket.step socket

theorem accounts_run {isUdp cb closed : Bool} {accepted : List Packet} {socket : Socket}
    (accounts : Accounts isUdp cb closed accepted socket) (events : List Event) :
    Accounts isUdp cb (closed || events.any Event.closes)
      (accepted ++ events.flatMap Event.accepted) (socket.run events) := by
  induction events generalizing closed accepted socket with
  | nil =>
      rw [List.any_nil, Bool.or_false, List.flatMap_nil, List.append_nil]
      exact accounts
  | cons event rest induction =>
      have after := induction (accounts_step accounts event)
      rw [Bool.or_assoc, List.append_assoc] at after
      exact after

theorem accounts_fromSock (type : SockType) (sendResult : Bool) :
    Accounts (type = .udp) sendResult false [] (fromSock type sendResult) := by
  have ledger : Ledger (type = .udp) sendResult [] [] ⟨[], []⟩ := by
    constructor
    · cases sendResult <;> rfl
    · exact fun _ => rfl
    · exact fun _ => ⟨rfl, rfl⟩
    · exact fun _ inside => nomatch inside
  have books : Books (type = .udp) sendResult false [] [] false ⟨[], []⟩ [] [] :=
    ⟨[], rfl, ledger, fun _ _ _ _ inside => nomatch inside⟩
  exact ⟨decide_eq_true_iff.symm, rfl, (fun _ inside => nomatch inside), ⟨[], [], .nothing, books⟩,
    fun _ => rfl, fun _ => rfl⟩

/-! ## A kernel that takes something at each call -/

def Socket.backlog (socket : Socket) : Nat :=
  (socket.sendBufSending.map BufferList.remainSize).sum +
    (socket.sendBufWaiting.map (·.data.length)).sum

section Willing

variable {isUdp cb closed : Bool} {accepted : List Packet}

theorem flushTaken_willing (socket : Socket) {pollerThread : Bool} {list : BufferList}
    {pending : List Packet} {part : List Byte} (stands : list.Stands isUdp cb pending part)
    (some : pending ≠ []) {answers : List Answer} (willing : Willing answers)
    (enough : list.remainSize ≤ answers.length) :
    ∃ outside rest, socket.flushTaken pollerThread [list] answers =
        (none, { socket with outside := outside }, rest) ∧
      Willing rest ∧ answers.length ≤ rest.length + list.remainSize := by
  obtain ⟨gone, pending', part', split, stood, moves, errno, -⟩ :=
    BufferList.sendLoop_spec stands socket.outside answers
  obtain ⟨none, rest, left⟩ :=
    BufferList.sendLoop_willing stands socket.outside willing enough
  have finished := errno.mp none
  have before := mt stands.remainSize_eq_zero_iff.mp some
  have after := stood.remainSize_eq_zero_iff.mpr finished
  let sent := list.sendLoop socket.outside answers
  refine ⟨sent.list.destroy sent.outside, sent.answers, ?_, rest, left⟩
  rw [Socket.flushTaken, Socket.flushLists, BufferList.send]
  dsimp only
  rw [if_pos (sentOrError_pos_iff.mpr (by omega)), if_pos (stood.empty_iff.mpr finished),
    Socket.flushLists]

theorem flushRound_willing {socket : Socket} (accounts : Accounts isUdp cb closed accepted socket)
    (pollerThread : Bool) {answers : List Answer} (willing : Willing answers)
    (enough : socket.backlog ≤ answers.length) :
    (socket.sendBufWaiting = [] ∧ socket.sendBufSending = []) ∨
      ∃ next rest, socket.flushRound pollerThread answers = (none, next, rest) ∧ Willing rest ∧
        next.backlog ≤ rest.length ∧ next.errEmit = socket.errEmit := by
  obtain ⟨type, rfl, waiting, ⟨pending, part, holds, -⟩, -⟩ := accounts
  rw [Socket.backlog] at enough
  rw [Socket.flushRound]
  generalize socket.sendBufSending = sending at holds enough
  cases holds with
  | nothing =>
      by_cases idle : socket.sendBufWaiting = []
      · exact .inl ⟨idle, rfl⟩
      right
      have udp : decide (socket.type = .udp) = isUdp := by
        cases isUdp with
        | true => exact decide_eq_true (type.mpr rfl)
        | false => exact decide_eq_false (mt type.mp Bool.false_ne_true)
      rw [List.map_nil, List.sum_nil, Nat.zero_add,
        ← BufferList.remainSize_create _ socket.sendResult isUdp] at enough
      obtain ⟨outside, rest, round, willing, left⟩ := flushTaken_willing
        { socket with sendBufSending := [], sendBufWaiting := [] }
        (BufferList.stands_create waiting isUdp socket.sendResult) idle willing enough
      rw [if_pos rfl, if_neg idle, udp]
      exact ⟨_, rest, round, willing, Nat.zero_le _, rfl⟩
  | one some stands =>
      right
      rw [List.map_singleton, List.sum_singleton] at enough
      obtain ⟨outside, rest, round, willing, left⟩ := flushTaken_willing
        { socket with sendBufSending := [] } stands some willing (by omega)
      rw [if_neg (List.cons_ne_nil _ _)]
      refine ⟨_, rest, round, willing, ?_, rfl⟩
      rw [Socket.backlog, List.map_nil, List.sum_nil, Nat.zero_add]
      dsimp only
      omega

theorem flushData_willing {socket : Socket} (accounts : Accounts isUdp cb closed accepted socket)
    (told : socket.writeEvent = socket.attached) {answers : List Answer}
    (willing : Willing answers) (enough : socket.backlog ≤ answers.length) :
    (Socket.flushData true socket answers).2.1.sendBufWaiting = [] ∧
      (Socket.flushData true socket answers).2.1.sendBufSending = [] ∧
      (Socket.flushData true socket answers).2.1.errEmit = socket.errEmit := by
  fun_induction Socket.flushData true socket answers with
  | case1 socket answers value next rest round =>
      obtain ⟨waiting, sending⟩ | ⟨next', rest', more, -⟩ :=
        flushRound_willing accounts true willing enough
      · rw [Socket.flushRound, if_pos sending, if_pos waiting] at round
        cases round
        exact ⟨waiting, rfl, rfl⟩
      · cases round.symm.trans more
  | case2 socket answers next rest round poller induction =>
      obtain ⟨kept, still⟩ := accounts_flushRound accounts (fun _ => told) answers
      rw [round] at kept still
      obtain ⟨waiting, sending⟩ | ⟨next', rest', more, willing, enough, same⟩ :=
        flushRound_willing accounts true willing enough
      · rw [Socket.flushRound, if_pos sending, if_pos waiting] at round
        cases round
      · cases round.symm.trans more
        rw [← same]
        exact induction kept (still rfl rfl) willing enough
  | case3 _ _ _ _ _ poller => exact absurd rfl poller

end Willing

/-! ## Any run -/

section Books

variable {isUdp cb closed : Bool} {accepted waiting pending : List Packet} {part : List Byte}
  {outside : Outside}

theorem progress_of_sent {settled : List (Packet × Fate)}
    (account : accepted = settled.map Prod.fst ++ pending ++ waiting) (ahead : Ahead pending part)
    (nonempty : ∀ packet ∈ waiting, packet.data ≠ [])
    (sent : ∀ entry ∈ settled, entry.2 = .sent) :
    Progress (·.data) accepted (settled.flatMap contribution ++ part) (settled.map Prod.fst)
      (pending ++ waiting) := by
  have whole : settled.flatMap contribution = (settled.map Prod.fst).flatMap (·.data) := by
    rw [List.flatMap_map]
    apply List.flatMap_congr
    intro entry inside
    rw [contribution, sent entry inside]
  rw [whole]
  cases pending with
  | nil =>
      obtain rfl : part = [] := ahead
      rw [List.append_nil] at account
      rw [List.nil_append]
      cases waiting with
      | nil =>
          rw [List.append_nil] at account
          rw [account]
          exact .all (List.append_nil _)
      | cons first rest =>
          exact .within account (List.nil_append _).symm (nonempty first List.mem_cons_self) rfl
  | cons first others =>
      obtain ⟨left, data, some⟩ := ahead
      rw [List.append_assoc] at account
      exact .within account data some rfl

theorem Holds.ahead {lists : List BufferList} (holds : Holds isUdp cb lists pending part) :
    Ahead pending part := by
  cases holds with
  | nothing => exact rfl
  | one _ stands => exact stands.ahead

theorem Holds.count {lists : List BufferList} (holds : Holds isUdp cb lists pending part) :
    (lists.map BufferList.count).sum = pending.length := by
  cases holds with
  | nothing => rfl
  | one some stands =>
      rw [List.map_singleton, List.sum_singleton]
      exact stands.count some

theorem Holds.eq_nil_iff {lists : List BufferList} (holds : Holds isUdp cb lists pending part) :
    lists = [] ↔ pending = [] := by
  cases holds with
  | nothing => exact iff_of_true rfl rfl
  | one some _ => exact iff_of_false (List.cons_ne_nil _ _) some

end Books

end KnxDemo.SendQueues
