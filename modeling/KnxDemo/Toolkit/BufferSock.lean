import Mathlib.Algebra.Ring.Nat
import KnxDemo.Bytes
import KnxDemo.Interaction.Progress

/-!
# Lists of buffers on their way to a socket

A `BufferList` is created from the buffers that wait on a socket and is sent in
as many calls as the kernel wants. A buffer's callback is called when the last
of its octets is taken. The callbacks themselves do not send.
-/

namespace KnxDemo.BufferSock

open KnxDemo.Bytes KnxDemo.Interaction

/-- A buffer; a `BufferSock` has the address it goes to. -/
structure Packet where
  data : List Byte
  sockaddr : Option (List Byte)

inductive Errno where
  | intr
  | again
  | other (code : Nat)

/-- How the kernel answers one call. A stream takes at most so many octets, a datagram socket so
many messages, each of them whole. -/
inductive Answer where
  | takes (most : Nat)
  | fails (errno : Errno)

/-- What the kernel took, one entry for each call or message, and what the callbacks of the buffers
were called with. -/
structure Outside where
  wire : List (Option (List Byte) × List Byte)
  called : List (Packet × Bool)

def Outside.take (outside : Outside) (sockaddr : Option (List Byte)) (octets : List Byte) :
    Outside :=
  { outside with wire := outside.wire ++ [(sockaddr, octets)] }

def Outside.stream (outside : Outside) : List Byte := outside.wire.flatMap Prod.snd

/-- How a call of `send` on a list ends: it returns how many octets it sent or -1, and `errno` is
that of its last call that failed. -/
structure Sent (Sending : Type) where
  list : Sending
  outside : Outside
  errno : Option Errno
  answers : List Answer

/-- `sent > 0 ? sent : -1` -/
def sentOrError (sent : Nat) : Int := if sent > 0 then sent else -1

/-! ## The callbacks -/

structure BufferCallBack where
  /-- Whether `_cb` is set. -/
  cb : Bool
  pktList : List Packet

namespace BufferCallBack

def call (back : BufferCallBack) (outside : Outside) (packets : List Packet) (flag : Bool) :
    Outside :=
  if back.cb then { outside with called := outside.called ++ packets.map (·, flag) } else outside

def sendCompleted (back : BufferCallBack) (flag : Bool) (outside : Outside) :
    BufferCallBack × Outside :=
  ({ back with pktList := [] }, back.call outside back.pktList flag)

def sendFrontSuccess (back : BufferCallBack) (outside : Outside) : BufferCallBack × Outside :=
  ({ back with pktList := back.pktList.tail }, back.call outside (back.pktList.take 1) true)

end BufferCallBack

/-! ## sendmsg -/

/-- `IOV_MAX` -/
def iovMax : Nat := 1024

/-- `iovec` has the octets from `iov_base` on, `iov_len` of them. -/
structure BufferSendMsg where
  back : BufferCallBack
  iovecOff : Nat
  remainSize : Nat
  iovec : List (List Byte)

namespace BufferSendMsg

def create (list : List Packet) (cb : Bool) : BufferSendMsg where
  back := { cb, pktList := list }
  iovecOff := 0
  remainSize := (list.map (·.data.length)).sum
  iovec := list.map (·.data)

variable (list : BufferSendMsg)

def empty : Bool := list.remainSize = 0

def count : Nat := list.iovec.length - list.iovecOff

def offered : List Byte := ((list.iovec.drop list.iovecOff).take iovMax).flatten

def reOffsetFrom (n : Nat) : Nat → Nat → List (List Byte) → BufferSendMsg → Outside →
    BufferSendMsg × Outside
  | _, _, [], list, outside => (list, outside)
  | offset, i, ref :: rest, list, outside =>
      let offset := offset + ref.length
      if offset < n then
        let (back, outside) := list.back.sendFrontSuccess outside
        reOffsetFrom n offset (i + 1) rest { list with back } outside
      else if offset = n then
        let (back, outside) := list.back.sendFrontSuccess outside
        ({ list with back, iovecOff := i + 1 }, outside)
      else
        let remain := offset - n
        ({ list with
            iovecOff := i
            iovec := list.iovec.set i (ref.drop (ref.length - remain)) }, outside)

def reOffset (n : Nat) (outside : Outside) : BufferSendMsg × Outside :=
  reOffsetFrom n 0 list.iovecOff (list.iovec.drop list.iovecOff)
    { list with remainSize := list.remainSize - n } outside

/-- What `send_l` does once `sendmsg` has returned `n`. -/
def sendL (n : Nat) (outside : Outside) : BufferSendMsg × Outside :=
  if n ≥ list.remainSize then
    let (back, outside) := list.back.sendCompleted true outside
    ({ list with back, remainSize := 0 }, outside)
  else if n > 0 then list.reOffset n outside
  else (list, outside)

/-- The loops of `send` and `send_l`. When the answers are over the kernel is full. -/
def sendLoop (list : BufferSendMsg) (outside : Outside) : List Answer → Sent BufferSendMsg
  | [] => ⟨list, outside, if list.remainSize = 0 then none else some .again, []⟩
  | answer :: answers =>
      if list.remainSize = 0 then ⟨list, outside, none, answer :: answers⟩
      else
        match answer with
        | .fails .intr => sendLoop list outside answers
        | .fails errno => ⟨list, outside, some errno, answers⟩
        | .takes most =>
            let n := min most list.offered.length
            let (list, outside) := list.sendL n (outside.take none (list.offered.take n))
            sendLoop list outside answers

end BufferSendMsg

/-! ## send and sendto, buffer by buffer -/

structure BufferSendTo where
  back : BufferCallBack
  isUdp : Bool
  offset : Nat

namespace BufferSendTo

def create (list : List Packet) (cb isUdp : Bool) : BufferSendTo where
  back := { cb, pktList := list }
  isUdp := isUdp
  offset := 0

def empty (list : BufferSendTo) : Bool := list.back.pktList.isEmpty

def count (list : BufferSendTo) : Nat := list.back.pktList.length

/-- The loop of `send`, as it is where `assert` is compiled out. -/
def sendLoop (list : BufferSendTo) (outside : Outside) : List Answer → Sent BufferSendTo
  | [] => ⟨list, outside, if list.back.pktList = [] then none else some .again, []⟩
  | answer :: answers =>
      match list.back.pktList with
      | [] => ⟨list, outside, none, answer :: answers⟩
      | front :: _ =>
          match answer with
          | .fails .intr => sendLoop list outside answers
          | .fails errno => ⟨list, outside, some errno, answers⟩
          | .takes most =>
              let octets := front.data.drop list.offset
              let n := if list.isUdp then octets.length else min most octets.length
              let outside := outside.take (if list.isUdp then front.sockaddr else none)
                (octets.take n)
              if list.offset + n = front.data.length then
                let (back, outside) := list.back.sendFrontSuccess outside
                sendLoop { list with back, offset := 0 } outside answers
              else sendLoop { list with offset := list.offset + n } outside answers

end BufferSendTo

/-! ## sendmmsg -/

structure Mmsghdr where
  msgName : Option (List Byte)
  msgIov : List Byte
  msgLen : Nat

def Packet.message (msgLen : Packet → Nat) (packet : Packet) : Mmsghdr :=
  ⟨packet.sockaddr, packet.data, msgLen packet⟩

structure BufferSendMMsg where
  back : BufferCallBack
  remainSize : Nat
  hdrvec : List Mmsghdr

namespace BufferSendMMsg

def create (list : List Packet) (cb : Bool) : BufferSendMMsg where
  back := { cb, pktList := list }
  remainSize := (list.map (·.data.length)).sum
  hdrvec := list.map (Packet.message fun _ => 0)

variable (list : BufferSendMMsg)

def empty : Bool := list.remainSize = 0

def count : Nat := list.hdrvec.length

def taken (n : Nat) : List Mmsghdr :=
  (list.hdrvec.take n).map (fun hdr => { hdr with msgLen := hdr.msgIov.length }) ++
    list.hdrvec.drop n

/-- The loop of `reOffset`, which looks at the lengths the kernel has set and not at `n`. -/
def reOffsetFrom : List Mmsghdr → BufferSendMMsg → Outside → BufferSendMMsg × Outside
  | [], list, outside => ({ list with hdrvec := [] }, outside)
  | hdr :: rest, list, outside =>
      let list := { list with remainSize := list.remainSize - hdr.msgLen }
      if hdr.msgLen = hdr.msgIov.length then
        let (back, outside) := list.back.sendFrontSuccess outside
        reOffsetFrom rest { list with back } outside
      else
        ({ list with hdrvec := { hdr with msgIov := hdr.msgIov.drop hdr.msgLen } :: rest }, outside)

def sendLoop (list : BufferSendMMsg) (outside : Outside) : List Answer → Sent BufferSendMMsg
  | [] => ⟨list, outside, if list.remainSize = 0 then none else some .again, []⟩
  | answer :: answers =>
      if list.remainSize = 0 then ⟨list, outside, none, answer :: answers⟩
      else
        match answer with
        | .fails .intr => sendLoop list outside answers
        | .fails errno => ⟨list, outside, some errno, answers⟩
        | .takes most =>
            let n := min most list.hdrvec.length
            let outside := (list.hdrvec.take n).foldl
              (fun outside hdr => outside.take hdr.msgName hdr.msgIov) outside
            let (list, outside) :=
              if n > 0 then reOffsetFrom (list.taken n) list outside else (list, outside)
            sendLoop list outside answers

end BufferSendMMsg

/-! ## What a list moves -/

def calls (cb : Bool) (packets : List Packet) (flag : Bool) : List (Packet × Bool) :=
  if cb then packets.map (·, flag) else []

/-- The packets `gone` were taken whole and called back, and of the first packet that is left
`part'` is out instead of `part` of the first one there was. -/
structure Moves (isUdp cb : Bool) (gone : List Packet) (before after : Outside)
    (part part' : List Byte) : Prop where
  called : after.called = before.called ++ calls cb gone true
  stream : ∃ taken, after.stream = before.stream ++ taken ∧
    part ++ taken = gone.flatMap (·.data) ++ part'
  datagrams : isUdp = true → part' = part ∧
    after.wire = before.wire ++ gone.map (fun packet => (packet.sockaddr, packet.data))

@[simp] theorem calls_nil (cb flag : Bool) : calls cb [] flag = [] := by
  rw [calls, List.map_nil, ite_self]

theorem calls_append (cb : Bool) (front rest : List Packet) (flag : Bool) :
    calls cb (front ++ rest) flag = calls cb front flag ++ calls cb rest flag := by
  cases cb with
  | false => rfl
  | true => exact List.map_append

theorem BufferCallBack.call_eq (back : BufferCallBack) (outside : Outside)
    (packets : List Packet) (flag : Bool) :
    back.call outside packets flag =
      { outside with called := outside.called ++ calls back.cb packets flag } := by
  obtain ⟨cb, pktList⟩ := back
  cases cb with
  | false => rw [calls, if_neg Bool.false_ne_true, List.append_nil]; rfl
  | true => rfl

theorem stream_take (outside : Outside) (sockaddr : Option (List Byte)) (octets : List Byte) :
    (outside.take sockaddr octets).stream = outside.stream ++ octets := by
  rw [Outside.stream, Outside.take, List.flatMap_append, List.flatMap_singleton]
  rfl

theorem Moves.refl (isUdp cb : Bool) (outside : Outside) (part : List Byte) :
    Moves isUdp cb [] outside outside part part := by
  constructor
  · rw [calls_nil, List.append_nil]
  · exact ⟨[], (List.append_nil _).symm, List.append_nil part⟩
  · intro _
    exact ⟨rfl, (List.append_nil _).symm⟩

theorem Moves.trans {isUdp cb : Bool} {gone more : List Packet} {first second third : Outside}
    {part part' part'' : List Byte} (now : Moves isUdp cb gone first second part part')
    (later : Moves isUdp cb more second third part' part'') :
    Moves isUdp cb (gone ++ more) first third part part'' := by
  constructor
  · rw [later.called, now.called, calls_append, List.append_assoc]
  · obtain ⟨taken, stream, octets⟩ := now.stream
    obtain ⟨taken', stream', octets'⟩ := later.stream
    refine ⟨taken ++ taken', ?_, ?_⟩
    · rw [stream', stream, List.append_assoc]
    · rw [← List.append_assoc, octets, List.append_assoc, octets', List.flatMap_append,
        List.append_assoc]
  · intro udp
    obtain ⟨same, wire⟩ := now.datagrams udp
    obtain ⟨same', wire'⟩ := later.datagrams udp
    refine ⟨same'.trans same, ?_⟩
    rw [wire', wire, List.map_append, List.append_assoc]

/-- A list that stood for `pending`, with `part` of the first packet out, is sent: what is left of
it stands for the end of `pending`, and `errno` is set if anything is left. -/
def Sends {Sending : Type} (stands : Sending → List Packet → List Byte → Prop) (isUdp cb : Bool)
    (pending : List Packet) (part : List Byte) (outside : Outside) (result : Sent Sending) :
    Prop :=
  ∃ gone pending' part', pending = gone ++ pending' ∧ stands result.list pending' part' ∧
    Moves isUdp cb gone outside result.outside part part' ∧
    (result.errno = none ↔ pending' = []) ∧ result.errno ≠ some .intr

def Ahead (pending : List Packet) (part : List Byte) : Prop :=
  match pending with
  | [] => part = []
  | first :: _ => ∃ left, first.data = part ++ left ∧ left ≠ []

section Sends

variable {Sending : Type} {stands : Sending → List Packet → List Byte → Prop} {isUdp cb : Bool}
  {list : Sending} {pending : List Packet} {part : List Byte} {outside : Outside}

theorem Sends.over (current : stands list pending part) (nothing : pending = [])
    (answers : List Answer) :
    Sends stands isUdp cb pending part outside ⟨list, outside, none, answers⟩ :=
  ⟨[], pending, part, rfl, current, Moves.refl isUdp cb outside part, iff_of_true rfl nothing,
    nofun⟩

theorem Sends.blocked (current : stands list pending part) (left : pending ≠ []) (errno : Errno)
    (known : errno ≠ .intr) (answers : List Answer) :
    Sends stands isUdp cb pending part outside ⟨list, outside, some errno, answers⟩ :=
  ⟨[], pending, part, rfl, current, Moves.refl isUdp cb outside part, iff_of_false nofun left,
    mt Option.some.inj known⟩

theorem Sends.after {gone pending' : List Packet} {part' : List Byte} {outside' : Outside}
    {result : Sent Sending} (split : pending = gone ++ pending')
    (moves : Moves isUdp cb gone outside outside' part part')
    (later : Sends stands isUdp cb pending' part' outside' result) :
    Sends stands isUdp cb pending part outside result := by
  obtain ⟨more, pending'', part'', split', stood, moves', errno⟩ := later
  refine ⟨gone ++ more, pending'', part'', ?_, stood, moves.trans moves', errno⟩
  rw [split, split', List.append_assoc]

end Sends

/-- Each call takes something. -/
def Willing (answers : List Answer) : Prop := ∀ answer ∈ answers, ∃ most > 0, answer = .takes most

/-! ## sendmsg moves its list -/

namespace BufferSendMsg

structure At (list : BufferSendMsg) (i : Nat) (first : Packet) (part left : List Byte)
    (others : List Packet) : Prop where
  pktList : list.back.pktList = first :: others
  iovec : list.iovec.drop i = left :: others.map (·.data)
  octets : first.data = part ++ left
  some : left ≠ []
  nonempty : ∀ packet ∈ others, packet.data ≠ []

theorem drop_succ_of_drop {Element : Type} {list rest : List Element} {first : Element} {i : Nat}
    (dropped : list.drop i = first :: rest) : list.drop (i + 1) = rest := by
  rw [← List.drop_drop, dropped, List.drop_one, List.tail_cons]

theorem At.next {list : BufferSendMsg} {i : Nat} {first next : Packet} {part left : List Byte}
    {rest : List Packet} (current : At list i first part left (next :: rest))
    (back : BufferCallBack) (popped : back.pktList = next :: rest) (remainSize iovecOff : Nat) :
    At ⟨back, iovecOff, remainSize, list.iovec⟩ (i + 1) next [] next.data rest := by
  constructor
  · exact popped
  · exact drop_succ_of_drop current.iovec
  · rfl
  · exact current.nonempty next List.mem_cons_self
  · exact fun packet inside => current.nonempty packet (List.mem_cons_of_mem _ inside)

section Loop

variable {n offset i : Nat} {ref : List Byte} {rest : List (List Byte)} (list : BufferSendMsg)
  (outside : Outside)

theorem reOffsetFrom_pass (more : offset + ref.length < n) :
    reOffsetFrom n offset i (ref :: rest) list outside =
      reOffsetFrom n (offset + ref.length) (i + 1) rest
        { list with back := (list.back.sendFrontSuccess outside).1 }
        (list.back.sendFrontSuccess outside).2 := by
  rw [reOffsetFrom]
  exact if_pos more

theorem reOffsetFrom_end (same : offset + ref.length = n) :
    reOffsetFrom n offset i (ref :: rest) list outside =
      ({ list with back := (list.back.sendFrontSuccess outside).1, iovecOff := i + 1 },
        (list.back.sendFrontSuccess outside).2) := by
  rw [reOffsetFrom]
  exact (if_neg (Nat.not_lt_of_le (Nat.le_of_eq same.symm))).trans (if_pos same)

theorem reOffsetFrom_stop (less : n < offset + ref.length) :
    reOffsetFrom n offset i (ref :: rest) list outside =
      ({ list with
          iovecOff := i
          iovec := list.iovec.set i (ref.drop (ref.length - (offset + ref.length - n))) },
        outside) := by
  rw [reOffsetFrom]
  exact (if_neg (Nat.lt_asymm less)).trans (if_neg (Nat.ne_of_gt less))

end Loop

/-- A list of which `count` more octets are out: the loop stops inside of what was left, and has
called back what it has passed. -/
def Advanced (list : BufferSendMsg) (outside : Outside) (first : Packet) (part left : List Byte)
    (others : List Packet) (count : Nat) (result : BufferSendMsg × Outside) : Prop :=
  ∃ gone first' part' left' others', first :: others = gone ++ first' :: others' ∧
    At result.1 result.1.iovecOff first' part' left' others' ∧
    result.1.remainSize = list.remainSize ∧ result.1.back.cb = list.back.cb ∧
    result.2 = { outside with called := outside.called ++ calls list.back.cb gone true } ∧
    left ++ others.flatMap (·.data) =
      (left ++ others.flatMap (·.data)).take count ++ (left' ++ others'.flatMap (·.data)) ∧
    part ++ (left ++ others.flatMap (·.data)).take count = gone.flatMap (·.data) ++ part'

theorem sendFrontSuccess_eq {back : BufferCallBack} {first : Packet} {others : List Packet}
    (pktList : back.pktList = first :: others) (outside : Outside) :
    back.sendFrontSuccess outside =
      (⟨back.cb, others⟩,
        { outside with called := outside.called ++ calls back.cb [first] true }) := by
  rw [BufferCallBack.sendFrontSuccess, BufferCallBack.call_eq, pktList]
  rfl

theorem advanced_stop {list : BufferSendMsg} {outside : Outside} {i count : Nat} {first : Packet}
    {part left : List Byte} {others : List Packet} (current : At list i first part left others)
    (less : count < left.length) :
    Advanced list outside first part left others count
      ({ list with iovecOff := i, iovec := list.iovec.set i (left.drop count) }, outside) := by
  refine ⟨[], first, part ++ left.take count, left.drop count, others, rfl, ?_, rfl, rfl, ?_, ?_,
    ?_⟩
  · constructor
    · exact current.pktList
    · dsimp only
      rw [List.drop_set, if_neg (Nat.lt_irrefl i), Nat.sub_self, current.iovec, List.set_cons_zero]
    · rw [List.append_assoc, List.take_append_drop]
      exact current.octets
    · rw [ne_eq, List.drop_eq_nil_iff, Nat.not_le]
      exact less
    · exact current.nonempty
  · rw [calls_nil, List.append_nil]
  · rw [List.take_append_of_le_length (Nat.le_of_lt less), ← List.append_assoc,
      List.take_append_drop]
  · rw [List.take_append_of_le_length (Nat.le_of_lt less), List.flatMap_nil, List.nil_append]

theorem reOffsetFrom_spec {others : List Packet} {list : BufferSendMsg} (outside : Outside)
    {i offset n : Nat} {first : Packet} {part left : List Byte}
    (current : At list i first part left others) (start : offset < n)
    (inside : n < offset + (left ++ others.flatMap (·.data)).length) :
    Advanced list outside first part left others (n - offset)
      (reOffsetFrom n offset i (list.iovec.drop i) list outside) := by
  induction others generalizing list outside i offset first part left with
  | nil =>
      rw [List.flatMap_nil, List.append_nil] at inside
      rw [current.iovec, reOffsetFrom_stop _ _ inside,
        show left.length - (offset + left.length - n) = n - offset by omega]
      exact advanced_stop current (by omega)
  | cons next rest induction =>
      rw [current.iovec]
      rw [List.flatMap_cons, List.length_append, List.length_append] at inside
      obtain more | same | less := Nat.lt_trichotomy (offset + left.length) n
      · rw [reOffsetFrom_pass _ _ more, sendFrontSuccess_eq current.pktList]
        have later := current.next ⟨list.back.cb, next :: rest⟩ rfl list.remainSize list.iovecOff
        have dropped := drop_succ_of_drop current.iovec
        obtain ⟨gone, first', part', left', others', split, reached, remain, cb, called, octets,
          parts⟩ := induction { outside with
            called := outside.called ++ calls list.back.cb [first] true } later more
            (by rw [List.length_append]; omega)
        dsimp only at reached remain cb called
        rw [dropped] at reached remain cb called
        have all : n - offset = left.length + (n - (offset + left.length)) := by omega
        refine ⟨first :: gone, first', part', left', others', ?_, reached, remain, cb, ?_, ?_, ?_⟩
        · rw [split, List.cons_append]
        · rw [called, List.append_assoc, ← calls_append, List.singleton_append]
        · rw [List.flatMap_cons, all, List.take_length_add_append, List.append_assoc, ← octets]
        · rw [List.flatMap_cons, all, List.take_length_add_append, ← List.append_assoc,
            ← current.octets, List.flatMap_cons, List.append_assoc, ← parts, List.nil_append]
      · rw [reOffsetFrom_end _ _ same, sendFrontSuccess_eq current.pktList]
        have later := current.next ⟨list.back.cb, next :: rest⟩ rfl list.remainSize (i + 1)
        have all : n - offset = left.length := by omega
        refine ⟨[first], next, [], next.data, rest, rfl, later, rfl, rfl, rfl, ?_, ?_⟩
        · rw [all, List.take_left, List.flatMap_cons]
        · rw [all, List.take_left, List.flatMap_singleton, List.append_nil]
          exact current.octets.symm
      · rw [reOffsetFrom_stop _ _ less,
          show left.length - (offset + left.length - n) = n - offset by omega]
        exact advanced_stop current (by omega)

inductive Stands (cb : Bool) (list : BufferSendMsg) : List Packet → List Byte → Prop where
  | sent : list.back = ⟨cb, []⟩ → list.remainSize = 0 → Stands cb list [] []
  | sending {first : Packet} {part left : List Byte} {others : List Packet} :
      list.back.cb = cb → At list list.iovecOff first part left others →
      list.remainSize = (left ++ others.flatMap (·.data)).length →
      Stands cb list (first :: others) part

theorem stands_create {packets : List Packet} (nonempty : ∀ packet ∈ packets, packet.data ≠ [])
    (cb : Bool) : Stands cb (create packets cb) packets [] := by
  cases packets with
  | nil => exact .sent rfl rfl
  | cons first others =>
      have current : At (create (first :: others) cb) 0 first [] first.data others :=
        ⟨rfl, rfl, rfl, nonempty first List.mem_cons_self,
          fun packet inside => nonempty packet (List.mem_cons_of_mem _ inside)⟩
      apply Stands.sending rfl current
      rw [List.length_append, List.length_flatMap]
      rfl

theorem offered_isPrefix {list : BufferSendMsg} {first : Packet} {part left : List Byte}
    {others : List Packet} (current : At list list.iovecOff first part left others) :
    list.offered <+: left ++ others.flatMap (·.data) := by
  have whole : left ++ others.flatMap (·.data) = (list.iovec.drop list.iovecOff).flatten := by
    rw [current.iovec, List.flatten_cons]
    rfl
  rw [whole, offered]
  refine ⟨((list.iovec.drop list.iovecOff).drop iovMax).flatten, ?_⟩
  rw [← List.flatten_append, List.take_append_drop]

theorem sendL_spec {cb : Bool} {list : BufferSendMsg} {pending : List Packet} {part : List Byte}
    (stands : Stands cb list pending part) (remains : list.remainSize ≠ 0) (outside : Outside)
    {n : Nat} (most : n ≤ list.offered.length) :
    ∃ gone pending' part', pending = gone ++ pending' ∧
      Stands cb (list.sendL n (outside.take none (list.offered.take n))).1 pending' part' ∧
      Moves false cb gone outside
        (list.sendL n (outside.take none (list.offered.take n))).2 part part' := by
  cases stands with
  | sent _ nothing => exact absurd nothing remains
  | @sending first part left others same current size =>
      subst same
      obtain ⟨rest, offered⟩ := offered_isPrefix current
      have taken : list.offered.take n = (left ++ others.flatMap (·.data)).take n := by
        rw [← offered, List.take_append_of_le_length most]
      have bound : n ≤ list.remainSize := by
        rw [size, ← offered, List.length_append]
        omega
      rw [taken, sendL]
      by_cases all : n ≥ list.remainSize
      · rw [if_pos all]
        have whole : (left ++ others.flatMap (·.data)).take n = left ++ others.flatMap (·.data) :=
          List.take_of_length_le (size ▸ all)
        refine ⟨first :: others, [], [], (List.append_nil _).symm, .sent rfl rfl, ?_, ?_, nofun⟩
        · rw [BufferCallBack.sendCompleted, BufferCallBack.call_eq, current.pktList]
          rfl
        · refine ⟨left ++ others.flatMap (·.data), ?_, ?_⟩
          · rw [whole, BufferCallBack.sendCompleted, BufferCallBack.call_eq]
            exact stream_take _ _ _
          · rw [List.flatMap_cons, current.octets, List.append_nil, List.append_assoc]
      · rw [if_neg all]
        by_cases some : n > 0
        · rw [if_pos some, reOffset]
          have decremented : At { list with remainSize := list.remainSize - n } list.iovecOff first
              part left others :=
            ⟨current.pktList, current.iovec, current.octets, current.some, current.nonempty⟩
          obtain ⟨gone, first', part', left', others', split, reached, remain, cb, called, octets,
            parts⟩ := reOffsetFrom_spec
              (outside.take none ((left ++ others.flatMap (·.data)).take n)) decremented some
              (by rw [Nat.zero_add, ← size]; exact Nat.lt_of_not_le all)
          refine ⟨gone, first' :: others', part', split, .sending cb reached ?_, ?_, ?_, nofun⟩
          · have length := congrArg List.length octets
            rw [← size, List.length_append, List.length_take, ← size, Nat.sub_zero,
              Nat.min_eq_left bound] at length
            rw [remain]
            dsimp only
            omega
          · exact called ▸ rfl
          · refine ⟨_, ?_, parts⟩
            rw [Nat.sub_zero]
            exact (congrArg Outside.stream called).trans (stream_take _ _ _)
        · rw [if_neg some]
          obtain rfl := Nat.eq_zero_of_not_pos some
          refine ⟨[], first :: others, part, rfl, .sending rfl current size, ?_, ?_, nofun⟩
          · rw [calls_nil, List.append_nil]
            rfl
          · refine ⟨[], ?_, List.append_nil part⟩
            rw [List.take_zero, stream_take]

theorem Stands.remainSize_eq_zero_iff {cb : Bool} {list : BufferSendMsg} {pending : List Packet}
    {part : List Byte} (stands : Stands cb list pending part) :
    list.remainSize = 0 ↔ pending = [] := by
  cases stands with
  | sent _ nothing => exact ⟨fun _ => rfl, fun _ => nothing⟩
  | sending _ current size =>
      have some := List.length_pos_of_ne_nil current.some
      rw [List.length_append] at size
      exact ⟨fun nothing => absurd nothing (by omega), fun none => nomatch none⟩

theorem sendLoop_spec {cb : Bool} {list : BufferSendMsg} {pending : List Packet}
    {part : List Byte} (stands : Stands cb list pending part) (outside : Outside)
    (answers : List Answer) :
    Sends (Stands cb) false cb pending part outside (sendLoop list outside answers) := by
  induction answers generalizing list pending part outside with
  | nil =>
      rw [sendLoop]
      split_ifs with nothing
      · exact Sends.over stands (stands.remainSize_eq_zero_iff.mp nothing) []
      · exact Sends.blocked stands (mt stands.remainSize_eq_zero_iff.mpr nothing) .again
          nofun []
  | cons answer answers induction =>
      rw [sendLoop.eq_def]
      dsimp only
      split_ifs with nothing
      · exact Sends.over stands (stands.remainSize_eq_zero_iff.mp nothing) _
      have left := mt stands.remainSize_eq_zero_iff.mpr nothing
      cases answer with
      | fails errno =>
          cases errno with
          | intr => exact induction stands outside
          | again => exact Sends.blocked stands left .again nofun answers
          | other code => exact Sends.blocked stands left (.other code) nofun answers
      | takes most =>
          obtain ⟨gone, pending', part', split, stood, moves⟩ :=
            sendL_spec stands nothing outside (Nat.min_le_right most list.offered.length)
          exact Sends.after split moves (induction stood _)

theorem Stands.ahead {cb : Bool} {list : BufferSendMsg} {pending : List Packet}
    {part : List Byte} (stands : Stands cb list pending part) : Ahead pending part := by
  cases stands with
  | sent => exact rfl
  | sending _ current _ => exact ⟨_, current.octets, current.some⟩

theorem reOffsetFrom_remainSize (n offset i : Nat) (rest : List (List Byte))
    (list : BufferSendMsg) (outside : Outside) :
    (reOffsetFrom n offset i rest list outside).1.remainSize = list.remainSize := by
  induction rest generalizing offset i list outside with
  | nil => rfl
  | cons ref rest induction =>
      obtain more | same | less := Nat.lt_trichotomy (offset + ref.length) n
      · rw [reOffsetFrom_pass _ _ more, induction]
      · rw [reOffsetFrom_end _ _ same]
      · rw [reOffsetFrom_stop _ _ less]

theorem sendL_less {list : BufferSendMsg} (remains : list.remainSize ≠ 0) {n : Nat} (some : n > 0)
    (outside : Outside) : (list.sendL n outside).1.remainSize < list.remainSize := by
  rw [sendL]
  split_ifs
  · exact Nat.pos_of_ne_zero remains
  · rw [reOffset, reOffsetFrom_remainSize]
    dsimp only
    omega

theorem offered_ne_nil {cb : Bool} {list : BufferSendMsg} {pending : List Packet}
    {part : List Byte} (stands : Stands cb list pending part) (remains : list.remainSize ≠ 0) :
    list.offered ≠ [] := by
  cases stands with
  | sent _ nothing => exact absurd nothing remains
  | sending _ current _ =>
      rw [offered, current.iovec]
      exact List.append_ne_nil_of_left_ne_nil current.some _

theorem sendLoop_willing {cb : Bool} {list : BufferSendMsg} {pending : List Packet}
    {part : List Byte} (stands : Stands cb list pending part) (outside : Outside)
    {answers : List Answer} (willing : Willing answers)
    (enough : list.remainSize ≤ answers.length) :
    (sendLoop list outside answers).errno = none ∧
      Willing (sendLoop list outside answers).answers ∧
      answers.length ≤ (sendLoop list outside answers).answers.length + list.remainSize := by
  induction answers generalizing list pending part outside with
  | nil =>
      rw [sendLoop, if_pos (Nat.le_zero.mp enough)]
      exact ⟨rfl, willing, Nat.zero_le _⟩
  | cons answer answers induction =>
      rw [sendLoop.eq_def]
      dsimp only
      split_ifs with nothing
      · exact ⟨rfl, willing, Nat.le_add_right _ _⟩
      obtain ⟨most, some, rfl⟩ := willing answer List.mem_cons_self
      have offered := List.length_pos_of_ne_nil (offered_ne_nil stands nothing)
      have less := sendL_less nothing (Nat.lt_min.mpr ⟨some, offered⟩)
        (outside.take none (list.offered.take (min most list.offered.length)))
      obtain ⟨gone, pending', part', -, stood, -⟩ :=
        sendL_spec stands nothing outside (Nat.min_le_right most list.offered.length)
      rw [List.length_cons] at enough
      obtain ⟨errno, rest, left⟩ := induction stood
        (list.sendL (min most list.offered.length)
          (outside.take none (list.offered.take (min most list.offered.length)))).2
        (fun later inside => willing later (List.mem_cons_of_mem _ inside)) (by omega)
      refine ⟨errno, rest, ?_⟩
      rw [List.length_cons]
      dsimp only
      omega

end BufferSendMsg

/-! ## sendmmsg moves its list -/

namespace BufferSendMMsg

structure Stands (cb : Bool) (list : BufferSendMMsg) (pending : List Packet) (part : List Byte) :
    Prop where
  cb : list.back.cb = cb
  pktList : list.back.pktList = pending
  hdrvec : list.hdrvec = pending.map (Packet.message fun _ => 0)
  remainSize : list.remainSize = (pending.flatMap (·.data)).length
  nonempty : ∀ packet ∈ pending, packet.data ≠ []
  part : part = []

theorem stands_create {packets : List Packet} (nonempty : ∀ packet ∈ packets, packet.data ≠ [])
    (cb : Bool) : Stands cb (create packets cb) packets [] := by
  refine ⟨rfl, rfl, rfl, ?_, nonempty, rfl⟩
  rw [List.length_flatMap]
  rfl

theorem Stands.remainSize_eq_zero_iff {cb : Bool} {list : BufferSendMMsg} {pending : List Packet}
    {part : List Byte} (stands : Stands cb list pending part) :
    list.remainSize = 0 ↔ pending = [] := by
  rw [stands.remainSize]
  cases pending with
  | nil => exact iff_of_true rfl rfl
  | cons first rest =>
      have some := List.length_pos_of_ne_nil (stands.nonempty first List.mem_cons_self)
      rw [List.flatMap_cons, List.length_append]
      exact iff_of_false (by omega) nofun

theorem reOffsetFrom_spec {cb : Bool} {gone rest : List Packet} (list : BufferSendMMsg)
    (outside : Outside) (same : list.back.cb = cb) (pktList : list.back.pktList = gone ++ rest)
    (remainSize : list.remainSize = ((gone ++ rest).flatMap (·.data)).length)
    (nonempty : ∀ packet ∈ gone ++ rest, packet.data ≠ []) :
    ∃ list', reOffsetFrom (gone.map (Packet.message (·.data.length)) ++
        rest.map (Packet.message fun _ => 0)) list outside =
      (list', { outside with called := outside.called ++ calls cb gone true }) ∧
      Stands cb list' rest [] := by
  induction gone generalizing list outside with
  | nil =>
      rw [calls_nil, List.append_nil, List.map_nil, List.nil_append]
      cases rest with
      | nil => exact ⟨_, rfl, same, pktList, rfl, remainSize, nonempty, rfl⟩
      | cons first rest =>
          have some := List.length_pos_of_ne_nil (nonempty first List.mem_cons_self)
          rw [List.map_cons, reOffsetFrom, Packet.message, if_neg (Nat.ne_of_lt some)]
          exact ⟨_, rfl, same, pktList, rfl, remainSize, nonempty, rfl⟩
  | cons first gone induction =>
      rw [List.map_cons, List.cons_append, reOffsetFrom, Packet.message, if_pos rfl,
        BufferCallBack.sendFrontSuccess, BufferCallBack.call_eq, pktList, same]
      have smaller : list.remainSize - first.data.length =
          ((gone ++ rest).flatMap (·.data)).length := by
        rw [remainSize, List.cons_append, List.flatMap_cons, List.length_append,
          Nat.add_sub_cancel_left]
      obtain ⟨list', result, stands⟩ := induction
        ⟨⟨cb, gone ++ rest⟩, list.remainSize - first.data.length, list.hdrvec⟩
        { outside with called := outside.called ++ calls cb [first] true } rfl rfl smaller
        (fun packet inside => nonempty packet (List.mem_cons_of_mem _ inside))
      refine ⟨list', ?_, stands⟩
      rw [List.append_assoc, ← calls_append] at result
      exact result

theorem take_messages (packets : List Packet) (msgLen : Packet → Nat) (outside : Outside) :
    (packets.map (Packet.message msgLen)).foldl
        (fun outside hdr => outside.take hdr.msgName hdr.msgIov) outside =
      { outside with
        wire := outside.wire ++ packets.map fun packet => (packet.sockaddr, packet.data) } := by
  induction packets generalizing outside with
  | nil => rw [List.map_nil, List.map_nil, List.append_nil, List.foldl_nil]
  | cons first rest induction =>
      rw [List.map_cons, List.foldl_cons, induction, Outside.take, List.append_assoc]
      rfl

theorem takes_spec {cb : Bool} {list : BufferSendMMsg} {pending : List Packet} {part : List Byte}
    (stands : Stands cb list pending part) (outside : Outside) (n : Nat) :
    ∃ list' outside', reOffsetFrom (list.taken n) list ((list.hdrvec.take n).foldl
        (fun outside hdr => outside.take hdr.msgName hdr.msgIov) outside) = (list', outside') ∧
      Stands cb list' (pending.drop n) part ∧
      Moves true cb (pending.take n) outside outside' part part := by
  have whole := List.take_append_drop n pending
  have messages : list.taken n = (pending.take n).map (Packet.message (·.data.length)) ++
      (pending.drop n).map (Packet.message fun _ => 0) := by
    rw [taken, stands.hdrvec, ← List.map_take, ← List.map_drop, List.map_map]
    rfl
  have none := stands.part
  subst none
  rw [messages, stands.hdrvec, ← List.map_take, take_messages]
  obtain ⟨list', result, stood⟩ := reOffsetFrom_spec list
    { outside with wire := outside.wire ++
        (pending.take n).map fun packet => (packet.sockaddr, packet.data) }
    stands.cb (stands.pktList.trans whole.symm) (by rw [whole]; exact stands.remainSize)
    (by rw [whole]; exact stands.nonempty)
  refine ⟨list', _, result, stood, rfl, ⟨(pending.take n).flatMap (·.data), ?_, ?_⟩,
    fun _ => ⟨rfl, rfl⟩⟩
  · rw [Outside.stream, List.flatMap_append, List.flatMap_map]
    rfl
  · rw [List.nil_append, List.append_nil]

theorem sendLoop_spec {cb : Bool} {list : BufferSendMMsg} {pending : List Packet}
    {part : List Byte} (stands : Stands cb list pending part) (outside : Outside)
    (answers : List Answer) :
    Sends (Stands cb) true cb pending part outside (sendLoop list outside answers) := by
  induction answers generalizing list pending part outside with
  | nil =>
      rw [sendLoop]
      split_ifs with nothing
      · exact Sends.over stands (stands.remainSize_eq_zero_iff.mp nothing) []
      · exact Sends.blocked stands (mt stands.remainSize_eq_zero_iff.mpr nothing) .again
          nofun []
  | cons answer answers induction =>
      rw [sendLoop.eq_def]
      dsimp only
      split_ifs with nothing
      · exact Sends.over stands (stands.remainSize_eq_zero_iff.mp nothing) _
      have left := mt stands.remainSize_eq_zero_iff.mpr nothing
      cases answer with
      | fails errno =>
          cases errno with
          | intr => exact induction stands outside
          | again => exact Sends.blocked stands left .again nofun answers
          | other code => exact Sends.blocked stands left (.other code) nofun answers
      | takes most =>
          dsimp only
          split_ifs with some
          · obtain ⟨list', outside', result, stood, moves⟩ :=
              takes_spec stands outside (min most list.hdrvec.length)
            rw [result]
            exact Sends.after (List.take_append_drop _ pending).symm moves (induction stood _)
          · rw [Nat.eq_zero_of_not_pos some, List.take_zero]
            exact induction stands outside

theorem Stands.ahead {cb : Bool} {list : BufferSendMMsg} {pending : List Packet}
    {part : List Byte} (stands : Stands cb list pending part) : Ahead pending part := by
  rw [stands.part]
  cases pending with
  | nil => exact rfl
  | cons first rest => exact ⟨first.data, rfl, stands.nonempty first List.mem_cons_self⟩

theorem sendLoop_willing {cb : Bool} {list : BufferSendMMsg} {pending : List Packet}
    {part : List Byte} (stands : Stands cb list pending part) (outside : Outside)
    {answers : List Answer} (willing : Willing answers)
    (enough : list.remainSize ≤ answers.length) :
    (sendLoop list outside answers).errno = none ∧
      Willing (sendLoop list outside answers).answers ∧
      answers.length ≤ (sendLoop list outside answers).answers.length + list.remainSize := by
  induction answers generalizing list pending part outside with
  | nil =>
      rw [sendLoop, if_pos (Nat.le_zero.mp enough)]
      exact ⟨rfl, willing, Nat.zero_le _⟩
  | cons answer answers induction =>
      rw [sendLoop.eq_def]
      dsimp only
      by_cases nothing : list.remainSize = 0
      · rw [if_pos nothing]
        exact ⟨rfl, willing, Nat.le_add_right _ _⟩
      obtain ⟨most, some, rfl⟩ := willing answer List.mem_cons_self
      have left := mt stands.remainSize_eq_zero_iff.mpr nothing
      have length : list.hdrvec.length = pending.length := by
        rw [stands.hdrvec, List.length_map]
      have taken : min most list.hdrvec.length > 0 := by
        have positive := List.length_pos_of_ne_nil left
        omega
      obtain ⟨list', outside', result, stood, -⟩ :=
        takes_spec stands outside (min most list.hdrvec.length)
      have less : list'.remainSize < list.remainSize := by
        rw [stood.remainSize, stands.remainSize]
        conv_rhs => rw [← List.take_append_drop (min most list.hdrvec.length) pending,
          List.flatMap_append, List.length_append]
        cases pending with
        | nil => exact absurd rfl left
        | cons first rest =>
            have octets := List.length_pos_of_ne_nil (stands.nonempty first List.mem_cons_self)
            obtain ⟨n, count⟩ := Nat.exists_eq_succ_of_ne_zero (Nat.ne_of_gt taken)
            rw [count, List.take_succ_cons, List.flatMap_cons, List.length_append]
            omega
      rw [if_neg nothing]
      dsimp only
      rw [if_pos taken, result]
      rw [List.length_cons] at enough
      obtain ⟨errno, rest, left⟩ := induction stood outside'
        (fun later inside => willing later (List.mem_cons_of_mem _ inside)) (by omega)
      refine ⟨errno, rest, ?_⟩
      rw [List.length_cons]
      dsimp only
      omega

end BufferSendMMsg

/-! ## send and sendto move their list -/

namespace BufferSendTo

inductive Stands (isUdp cb : Bool) (list : BufferSendTo) : List Packet → List Byte → Prop where
  | sent : list.back = ⟨cb, []⟩ → list.isUdp = isUdp → list.offset = 0 → Stands isUdp cb list [] []
  | sending {first : Packet} {part left : List Byte} {others : List Packet} :
      list.back = ⟨cb, first :: others⟩ → list.isUdp = isUdp → list.offset = part.length →
      first.data = part ++ left → left ≠ [] → (isUdp = true → part = []) →
      (∀ packet ∈ others, packet.data ≠ []) → Stands isUdp cb list (first :: others) part

theorem stands_of_list {packets : List Packet} (nonempty : ∀ packet ∈ packets, packet.data ≠ [])
    (isUdp cb : Bool) : Stands isUdp cb ⟨⟨cb, packets⟩, isUdp, 0⟩ packets [] := by
  cases packets with
  | nil => exact .sent rfl rfl rfl
  | cons first others =>
      exact .sending rfl rfl rfl rfl (nonempty first List.mem_cons_self) (fun _ => rfl)
        (fun packet inside => nonempty packet (List.mem_cons_of_mem _ inside))

section Takes

variable {isUdp cb : Bool} {first : Packet} {part left : List Byte} {others : List Packet}
  (outside : Outside)

theorem moves_first (octets : first.data = part ++ left) (whole : isUdp = true → part = []) :
    Moves isUdp cb [first] outside
      { outside.take (if isUdp then first.sockaddr else none) left with
        called := outside.called ++ calls cb [first] true } part [] := by
  refine ⟨rfl, ⟨left, stream_take _ _ _, ?_⟩, fun udp => ?_⟩
  · rw [List.flatMap_singleton, List.append_nil, octets]
  · have none := whole udp
    subst none
    rw [List.nil_append] at octets
    refine ⟨rfl, ?_⟩
    rw [Outside.take, if_pos udp, ← octets]
    rfl

theorem moves_part (sockaddr : Option (List Byte)) (n : Nat) :
    Moves false cb [] outside (outside.take sockaddr (left.take n)) part (part ++ left.take n) := by
  refine ⟨?_, ⟨left.take n, stream_take _ _ _, ?_⟩, nofun⟩
  · rw [calls_nil, List.append_nil]
    rfl
  · rw [List.flatMap_nil, List.nil_append]

end Takes

theorem stands_part (cb : Bool) {first : Packet} {part left : List Byte} {others : List Packet}
    (octets : first.data = part ++ left) (nonempty : ∀ packet ∈ others, packet.data ≠ []) {n : Nat}
    (less : n < left.length) :
    Stands false cb ⟨⟨cb, first :: others⟩, false, part.length + n⟩ (first :: others)
      (part ++ left.take n) := by
  have offset : part.length + n = (part ++ left.take n).length := by
    rw [List.length_append, List.length_take, Nat.min_eq_left (Nat.le_of_lt less)]
  have rest : first.data = part ++ left.take n ++ left.drop n := by
    rw [List.append_assoc, List.take_append_drop]
    exact octets
  have some : left.drop n ≠ [] := by
    rw [ne_eq, List.drop_eq_nil_iff]
    omega
  exact .sending rfl rfl offset rest some nofun nonempty

theorem sendLoop_spec {isUdp cb : Bool} {list : BufferSendTo} {pending : List Packet}
    {part : List Byte} (stands : Stands isUdp cb list pending part) (outside : Outside)
    (answers : List Answer) :
    Sends (Stands isUdp cb) isUdp cb pending part outside (sendLoop list outside answers) := by
  induction answers generalizing list pending part outside with
  | nil =>
      rw [sendLoop]
      cases stands with
      | sent back udp offset =>
          rw [back, if_pos rfl]
          exact Sends.over (.sent back udp offset) rfl []
      | sending back udp offset octets some whole nonempty =>
          rw [back, if_neg (List.cons_ne_nil _ _)]
          exact Sends.blocked (.sending back udp offset octets some whole nonempty)
            (List.cons_ne_nil _ _) .again nofun []
  | cons answer answers induction =>
      rw [sendLoop.eq_def]
      cases stands with
      | sent back udp offset =>
          dsimp only
          rw [back]
          exact Sends.over (.sent back udp offset) rfl _
      | @sending first part left others back udp offset octets some whole nonempty =>
          obtain ⟨back', isUdp', offset'⟩ := list
          dsimp only at back udp offset
          subst back udp offset
          have current : Stands isUdp' cb ⟨⟨cb, first :: others⟩, isUdp', part.length⟩
              (first :: others) part := .sending rfl rfl rfl octets some whole nonempty
          have left' := List.cons_ne_nil first others
          cases answer with
          | fails errno =>
              cases errno with
              | intr => exact induction current outside
              | again => exact Sends.blocked current left' .again nofun answers
              | other code => exact Sends.blocked current left' (.other code) nofun answers
          | takes most =>
              have rest : first.data.drop part.length = left := by rw [octets, List.drop_left]
              have length : first.data.length = part.length + left.length := by
                rw [octets, List.length_append]
              dsimp only
              rw [rest, length]
              by_cases last : (if isUdp' then left.length else min most left.length) = left.length
              · rw [last, if_pos rfl, List.take_length, BufferCallBack.sendFrontSuccess,
                  BufferCallBack.call_eq]
                exact Sends.after rfl (moves_first outside octets whole)
                  (induction (stands_of_list nonempty isUdp' cb) _)
              · cases isUdp' with
                | true => exact absurd rfl last
                | false =>
                    change ¬ min most left.length = left.length at last
                    simp only [Bool.false_eq_true, if_false]
                    rw [if_neg (by omega)]
                    have more := stands_part cb octets nonempty
                      (Nat.lt_of_le_of_ne (Nat.min_le_right most left.length) last)
                    exact Sends.after rfl (moves_part outside none _) (induction more _)

theorem Stands.ahead {isUdp cb : Bool} {list : BufferSendTo} {pending : List Packet}
    {part : List Byte} (stands : Stands isUdp cb list pending part) : Ahead pending part := by
  cases stands with
  | sent => exact rfl
  | sending _ _ _ octets some _ _ => exact ⟨_, octets, some⟩

end BufferSendTo

/-! ## Whatever the kernel answers -/

/-- The octets taken end somewhere in the packets, and exactly those packets are called back of
which the last octet is taken. -/
def HandedOver {Sending : Type} (packets : List Packet) (cb : Bool) (outside : Outside)
    (result : Sent Sending) : Prop :=
  ∃ taken done pending, result.outside.stream = outside.stream ++ taken ∧
    Progress (·.data) packets taken done pending ∧
    result.outside.called = outside.called ++ calls cb done true ∧
    (result.errno = none ↔ pending = [])

theorem Sends.handedOver {Sending : Type} {stands : Sending → List Packet → List Byte → Prop}
    (ahead : ∀ list pending part, stands list pending part → Ahead pending part)
    {isUdp cb : Bool} {packets : List Packet} {outside : Outside} {result : Sent Sending}
    (sends : Sends stands isUdp cb packets [] outside result) :
    HandedOver packets cb outside result := by
  obtain ⟨gone, pending, part, split, stood, moves, errno, -⟩ := sends
  obtain ⟨taken, stream, octets⟩ := moves.stream
  rw [List.nil_append] at octets
  refine ⟨taken, gone, pending, stream, ?_, moves.called, errno⟩
  have rest := ahead _ _ _ stood
  cases pending with
  | nil =>
      rw [List.append_nil] at split
      obtain rfl : part = [] := rest
      rw [split]
      exact .all (octets.trans (List.append_nil _))
  | cons first others =>
      obtain ⟨left, data, some⟩ := rest
      exact .within split data some octets

/-- A whole message for each packet that is called back, and nothing of the others. -/
def HandedOverWhole {Sending : Type} (packets : List Packet) (cb : Bool) (outside : Outside)
    (result : Sent Sending) : Prop :=
  ∃ done pending, packets = done ++ pending ∧
    result.outside.wire =
      outside.wire ++ done.map (fun packet => (packet.sockaddr, packet.data)) ∧
    result.outside.called = outside.called ++ calls cb done true ∧
    (result.errno = none ↔ pending = [])

theorem Sends.handedOverWhole {Sending : Type}
    {stands : Sending → List Packet → List Byte → Prop} {cb : Bool} {packets : List Packet}
    {outside : Outside} {result : Sent Sending}
    (sends : Sends stands true cb packets [] outside result) :
    HandedOverWhole packets cb outside result := by
  obtain ⟨gone, pending, part, split, -, moves, errno, -⟩ := sends
  obtain ⟨-, wire⟩ := moves.datagrams rfl
  exact ⟨gone, pending, split, wire, moves.called, errno⟩

/-- Sending many buffers at once cannot be told from sending them one by one: a stream gets the
same octets and the same callbacks once the same number of octets is out, and datagrams are whole
and in order either way. -/
theorem buffer_lists_agree (packets : List Packet)
    (nonempty : ∀ packet ∈ packets, packet.data ≠ []) (cb : Bool) (outside : Outside)
    (together single : List Answer) :
    let sendMsg := (BufferSendMsg.create packets cb).sendLoop outside together
    let send := (BufferSendTo.create packets cb false).sendLoop outside single
    let sendMMsg := (BufferSendMMsg.create packets cb).sendLoop outside together
    let sendTo := (BufferSendTo.create packets cb true).sendLoop outside single
    HandedOver packets cb outside sendMsg ∧ HandedOver packets cb outside send ∧
      (sendMsg.outside.stream.length = send.outside.stream.length →
        sendMsg.outside.stream = send.outside.stream ∧
          sendMsg.outside.called = send.outside.called ∧
          (sendMsg.errno = none ↔ send.errno = none)) ∧
      HandedOverWhole packets cb outside sendMMsg ∧
      HandedOverWhole packets cb outside sendTo := by
  intro sendMsg send sendMMsg sendTo
  have vectored : HandedOver packets cb outside sendMsg :=
    Sends.handedOver (fun _ _ _ => BufferSendMsg.Stands.ahead)
      (BufferSendMsg.sendLoop_spec (BufferSendMsg.stands_create nonempty cb) outside together)
  have one : HandedOver packets cb outside send :=
    Sends.handedOver (fun _ _ _ => BufferSendTo.Stands.ahead)
      (BufferSendTo.sendLoop_spec (BufferSendTo.stands_of_list nonempty false cb) outside single)
  refine ⟨vectored, one, fun same => ?_, ?_, ?_⟩
  · obtain ⟨taken, done, pending, stream, progress, called, errno⟩ := vectored
    obtain ⟨taken', done', pending', stream', progress', called', errno'⟩ := one
    rw [stream, stream', List.length_append, List.length_append, Nat.add_left_cancel_iff] at same
    obtain ⟨rfl, rfl, rfl⟩ := progress.unique progress' same
    exact ⟨stream.trans stream'.symm, called.trans called'.symm, errno.trans errno'.symm⟩
  · exact (BufferSendMMsg.sendLoop_spec (BufferSendMMsg.stands_create nonempty cb) outside
      together).handedOverWhole
  · exact (BufferSendTo.sendLoop_spec (BufferSendTo.stands_of_list nonempty true cb) outside
      single).handedOverWhole

theorem buffer_lists_agree_two :
    HandedOver [⟨[0x01, 0x02], none⟩, ⟨[0x03, 0x04], none⟩] true ⟨[], []⟩
      ((BufferSendMsg.create [⟨[0x01, 0x02], none⟩, ⟨[0x03, 0x04], none⟩] true).sendLoop ⟨[], []⟩
        [.takes 3, .fails .intr, .fails .again]) :=
  (buffer_lists_agree [⟨[0x01, 0x02], none⟩, ⟨[0x03, 0x04], none⟩] (by simp) true ⟨[], []⟩
    [.takes 3, .fails .intr, .fails .again] []).1

end KnxDemo.BufferSock
