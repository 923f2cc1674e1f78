import Mathlib.Algebra.Ring.Nat
import KnxDemo.Interaction.Agenda

/-!
# Delayed tasks of a poller

The poller keeps its delayed tasks in a map under the times at which they are
due. Before it waits for events it calls the tasks that are due, and waits no
longer than until the next one. What a task does when it is called is up to the
program, which may delay and cancel tasks in it and may let it be called again.
-/

namespace KnxDemo.DelayTasks

open KnxDemo.Interaction

abbrev Task := Nat

def uint64 (value : Nat) : Nat := value % 2 ^ 64

theorem toInt_of_small {value : Nat} (small : value < 2 ^ 31) :
    (BitVec.ofNat 32 value).toInt = value := by
  have low : (BitVec.ofNat 32 value).toNat = value := by
    rw [BitVec.toNat_ofNat, Nat.mod_eq_of_lt (by omega)]
  rw [BitVec.toInt_eq_toNat_of_lt (by rw [low]; omega), low]

inductive Deed where
  /-- `doDelayTask` when the clock reads `clock`. -/
  | delay (clock delayMs : Nat)
  | cancel (task : Task)

/-- What a task does when it is called. An exception leaves it without a value. -/
structure Turn where
  deeds : List Deed
  value : Option Nat

inductive Event where
  | entered (task : Task) (clock delayMs : Nat)
  | cancelled (task : Task)
  | called (task : Task) (now : Nat)
  | returned (task : Task) (now : Nat) (value : Option Nat)
  /-- A task that is due has been cancelled. -/
  | passed (task : Task) (now : Nat)
deriving DecidableEq

structure Poller (User : Type) where
  delayTaskMap : Agenda Nat Task
  /-- The number of tasks made so far. -/
  made : Nat
  /-- The tasks whose functions `cancel` has let go. -/
  released : List Task
  /-- What the functions of the tasks keep. -/
  user : User
  /-- What has happened, the latest event first. -/
  history : List Event

namespace Poller

variable {User : Type}

def start (user : User) : Poller User := ⟨Agenda.empty, 0, [], user, []⟩

def note (event : Event) (poller : Poller User) : Poller User :=
  { poller with history := event :: poller.history }

def doDelayTask (clock delayMs : Nat) (poller : Poller User) : Poller User :=
  { poller.note (.entered poller.made clock delayMs) with
    delayTaskMap := poller.delayTaskMap.emplace (uint64 (clock + delayMs)) poller.made
    made := poller.made + 1 }

def cancel (task : Task) (poller : Poller User) : Poller User :=
  { poller.note (.cancelled task) with released := task :: poller.released }

def perform (poller : Poller User) : Deed → Poller User
  | .delay clock delayMs => poller.doDelayTask clock delayMs
  | .cancel task => poller.cancel task

/-- A task is not called again when it returns zero or ends in an exception. -/
def again (now : Nat) : Option Nat → Option Nat
  | none => none
  | some nextDelay => if nextDelay = 0 then none else some (uint64 (nextDelay + now))

def putBack (task : Task) (deadline : Option Nat) (poller : Poller User) : Poller User :=
  match deadline with
  | none => poller
  | some deadline =>
      { poller with delayTaskMap := poller.delayTaskMap.emplace deadline task }

variable (behave : Task → Nat → User → Turn × User)

def callTask (now : Nat) (poller : Poller User) (task : Task) : Poller User :=
  if task ∈ poller.released then poller.note (.passed task now)
  else
    let turn := behave task now poller.user
    let poller := turn.1.deeds.foldl perform { poller.note (.called task now) with user := turn.2 }
    putBack task (again now turn.1.value) (poller.note (.returned task now turn.1.value))

def callTasks (now : Nat) (due : List (Nat × Task)) (poller : Poller User) : Poller User :=
  due.foldl (fun poller entry => callTask behave now poller entry.2) poller

/-- The map is taken away while its tasks are called, and gets back what is not due. -/
def flushDelayTask (now : Nat) (poller : Poller User) : Nat × Poller User :=
  let called := callTasks behave now (poller.delayTaskMap.due now)
    { poller with delayTaskMap := Agenda.empty }
  let left := (poller.delayTaskMap.later now).insert called.delayTaskMap.entries
  match left.entries with
  | [] => (0, { called with delayTaskMap := left })
  | first :: _ => (uint64 (first.1 + 2 ^ 64 - now), { called with delayTaskMap := left })

def getMinDelay (now : Nat) (poller : Poller User) : Nat × Poller User :=
  match poller.delayTaskMap.entries with
  | [] => (0, poller)
  | first :: _ =>
      if now < first.1 then (first.1 - now, poller) else flushDelayTask behave now poller

/-- The time-out of the wait for events, of which a negative one does not end. -/
def timeout (minDelay : Nat) : Int :=
  if minDelay = 0 then -1 else (BitVec.ofNat 32 minDelay).toInt

/-- A pass of `runLoop`: what the program asks for before it, and the time it reads. -/
structure Round where
  deeds : List Deed
  now : Nat

def poll (poller : Poller User) (round : Round) : Poller User × Int :=
  let delay := getMinDelay behave round.now (round.deeds.foldl perform poller)
  (delay.2, timeout delay.1)

def runLoop (rounds : List Round) (poller : Poller User) : Poller User :=
  rounds.foldl (fun poller round => (poll behave poller round).1) poller

end Poller

/-! ## The record of what has happened -/

namespace Event

def moved : Event → Option Task
  | entered task _ _ => some task
  | cancelled _ => none
  | called task _ => some task
  | returned task _ _ => some task
  | passed task _ => some task

def leaves : Event → Option Nat
  | entered _ clock delayMs => some (uint64 (clock + delayMs))
  | cancelled _ => none
  | called _ _ => none
  | returned _ now value => Poller.again now value
  | passed _ _ => none

end Event

/-- The deadline under which a task waits. -/
def standing (task : Task) : List Event → Option Nat
  | [] => none
  | event :: past => if event.moved = some task then event.leaves else standing task past

def running : List Event → Option (Task × Nat)
  | [] => none
  | .called task now :: _ => some (task, now)
  | .returned _ _ _ :: _ => none
  | .entered _ _ _ :: past => running past
  | .cancelled _ :: past => running past
  | .passed _ _ :: past => running past

/-- What the past says of an event: a task enters once, and is called only when it waits, is due
and has not been cancelled. -/
def Event.Follows (past : List Event) : Event → Prop
  | .entered task _ _ => ∀ event ∈ past, event.moved ≠ some task
  | .cancelled _ => True
  | .called task now =>
      running past = none ∧ .cancelled task ∉ past ∧
        ∃ deadline ≤ now, standing task past = some deadline
  | .returned task now _ => running past = some (task, now)
  | .passed task now =>
      running past = none ∧ .cancelled task ∈ past ∧
        ∃ deadline ≤ now, standing task past = some deadline

def Lawful : List Event → Prop
  | [] => True
  | event :: past => event.Follows past ∧ Lawful past

theorem standing_of_unmoved {task : Task} {between past : List Event}
    (unmoved : ∀ event ∈ between, event.moved ≠ some task) :
    standing task (between ++ past) = standing task past := by
  induction between with
  | nil => rfl
  | cons event rest hypothesis =>
      rw [List.cons_append, standing, if_neg (unmoved event List.mem_cons_self)]
      exact hypothesis fun other member => unmoved other (List.mem_cons_of_mem _ member)

theorem standing_eq_none {task : Task} {history : List Event}
    (unmoved : ∀ event ∈ history, event.moved ≠ some task) : standing task history = none := by
  rw [← List.append_nil history, standing_of_unmoved unmoved]
  rfl

theorem left_waiting {task : Task} {deadline : Nat} {history : List Event}
    (waits : standing task history = some deadline) :
    ∃ between event past, history = between ++ event :: past ∧
      (∀ event ∈ between, event.moved ≠ some task) ∧
      event.moved = some task ∧ event.leaves = some deadline := by
  induction history with
  | nil => cases waits
  | cons event past hypothesis =>
      rw [standing] at waits
      split at waits
      next moved =>
        exact ⟨[], event, past, rfl, List.forall_mem_nil _, moved, waits⟩
      next unmoved =>
        obtain ⟨between, last, before, split, others, moved, left⟩ := hypothesis waits
        refine ⟨event :: between, last, before, by rw [split, List.cons_append], ?_, moved, left⟩
        rintro other (_ | ⟨_, member⟩)
        · exact unmoved
        · exact others other member

theorem Lawful.split {later past : List Event} {event : Event}
    (lawful : Lawful (later ++ event :: past)) : event.Follows past ∧ Lawful past := by
  induction later with
  | nil => exact lawful
  | cons _ _ hypothesis => exact hypothesis lawful.2

/-! ## The books of the poller -/

/-- What the map of a poller has to do with its history. The tasks of `waiting` are taken out of
the map and not called yet, and `call` is the call under way. -/
structure Books {User : Type} (poller : Poller User) (waiting : List (Nat × Task))
    (call : Option (Task × Nat)) : Prop where
  lawful : Lawful poller.history
  standing : ∀ task deadline, (deadline, task) ∈ waiting ++ poller.delayTaskMap.entries ↔
    standing task poller.history = some deadline
  once : ((waiting ++ poller.delayTaskMap.entries).map Prod.snd).Nodup
  made : ∀ event ∈ poller.history, ∀ task ∈ event.moved, task < poller.made
  released : ∀ task, task ∈ poller.released ↔ .cancelled task ∈ poller.history
  running : running poller.history = call

namespace Books

open Poller

variable {User : Type} {poller : Poller User} {waiting : List (Nat × Task)}
  {call : Option (Task × Nat)}

theorem start (user : User) : Books (Poller.start user) [] none where
  lawful := trivial
  standing _ _ := by simp [Poller.start, DelayTasks.standing]
  once := List.nodup_nil
  made _ member := by cases member
  released _ := by simp [Poller.start]
  running := rfl

theorem unmoved (books : Books poller waiting call) {task : Task} (toCome : poller.made ≤ task) :
    ∀ event ∈ poller.history, event.moved ≠ some task := by
  intro event member moved
  exact absurd (books.made event member task moved) (Nat.not_lt.mpr toCome)

theorem not_waiting (books : Books poller waiting call) {task : Task}
    (toCome : poller.made ≤ task) :
    task ∉ (waiting ++ poller.delayTaskMap.entries).map Prod.snd := by
  intro member
  obtain ⟨⟨deadline, other⟩, entry, rfl⟩ := List.mem_map.mp member
  have none := standing_eq_none (books.unmoved toCome)
  rw [(books.standing _ _).mp entry] at none
  cases none

theorem doDelayTask (books : Books poller waiting call) (clock delayMs : Nat) :
    Books (poller.doDelayTask clock delayMs) waiting call where
  lawful := ⟨books.unmoved (Nat.le_refl _), books.lawful⟩
  standing task deadline := by
    have entries : (deadline, task) ∈
        waiting ++ (poller.doDelayTask clock delayMs).delayTaskMap.entries ↔
        (deadline = uint64 (clock + delayMs) ∧ task = poller.made) ∨
          (deadline, task) ∈ waiting ++ poller.delayTaskMap.entries := by
      simp only [Poller.doDelayTask, List.mem_append, Agenda.mem_emplace, Prod.mk.injEq]
      exact or_left_comm
    rw [entries]
    show _ ↔ (if some poller.made = some task then some (uint64 (clock + delayMs))
      else DelayTasks.standing task poller.history) = _
    by_cases new : task = poller.made
    · subst new
      have absent : (deadline, poller.made) ∉ waiting ++ poller.delayTaskMap.entries :=
        fun member => books.not_waiting (Nat.le_refl _) (List.mem_map_of_mem member)
      rw [if_pos rfl]
      simp [absent, eq_comm]
    · rw [if_neg fun same => new (Option.some.inj same).symm, books.standing]
      simp [new]
  once := by
    have order : (waiting ++ (poller.doDelayTask clock delayMs).delayTaskMap.entries).Perm
        ((uint64 (clock + delayMs), poller.made) :: (waiting ++ poller.delayTaskMap.entries)) :=
      ((Agenda.emplace_perm _ _ _).append_left waiting).trans List.perm_middle
    rw [(order.map Prod.snd).nodup_iff, List.map_cons, List.nodup_cons]
    exact ⟨books.not_waiting (Nat.le_refl _), books.once⟩
  made event member task moved := by
    rcases List.mem_cons.mp member with rfl | older
    · cases moved
      exact Nat.lt_succ_self _
    · exact Nat.lt_succ_of_lt (books.made event older task moved)
  released task := by
    show task ∈ poller.released ↔ _ ∈ Event.entered _ _ _ :: poller.history
    rw [books.released, List.mem_cons]
    simp
  running := books.running

theorem cancel (books : Books poller waiting call) (task : Task) :
    Books (poller.cancel task) waiting call where
  lawful := ⟨trivial, books.lawful⟩
  standing := books.standing
  once := books.once
  made event member other moved := by
    rcases List.mem_cons.mp member with rfl | older
    · cases moved
    · exact books.made event older other moved
  released other := by
    show other ∈ task :: poller.released ↔ _ ∈ Event.cancelled task :: poller.history
    rw [List.mem_cons, List.mem_cons, books.released, Event.cancelled.injEq]
  running := books.running

theorem perform (books : Books poller waiting call) (deed : Deed) :
    Books (poller.perform deed) waiting call := by
  cases deed with
  | delay clock delayMs => exact books.doDelayTask clock delayMs
  | cancel task => exact books.cancel task

theorem performs (books : Books poller waiting call) (deeds : List Deed) :
    Books (deeds.foldl Poller.perform poller) waiting call := by
  induction deeds generalizing poller with
  | nil => exact books
  | cons deed rest hypothesis => exact hypothesis (books.perform deed)

/-! ### The call of a task -/

section Call

variable {deadline now : Nat} {task : Task} {rest : List (Nat × Task)}

theorem standing_taken (books : Books poller ((deadline, task) :: rest) call) {event : Event}
    (moved : event.moved = some task) (leaves : event.leaves = none) (other : Task)
    (otherDeadline : Nat) :
    (otherDeadline, other) ∈ rest ++ poller.delayTaskMap.entries ↔
      DelayTasks.standing other (event :: poller.history) = some otherDeadline := by
  have once := books.once
  rw [List.cons_append, List.map_cons, List.nodup_cons] at once
  rw [DelayTasks.standing, moved]
  by_cases same : task = other
  · subst same
    have absent : (otherDeadline, task) ∉ rest ++ poller.delayTaskMap.entries :=
      fun member => once.1 (List.mem_map.mpr ⟨_, member, rfl⟩)
    simp [leaves, absent]
  · rw [if_neg fun equal => same (Option.some.inj equal), ← books.standing, List.cons_append,
      List.mem_cons]
    simp [Ne.symm same]

theorem first_made (books : Books poller ((deadline, task) :: rest) call) : task < poller.made := by
  have waits := (books.standing task deadline).mp (by simp)
  obtain ⟨between, event, past, history, _, moved, _⟩ := left_waiting waits
  exact books.made event (by simp [history]) task moved

theorem made_taken (books : Books poller ((deadline, task) :: rest) call) {event : Event}
    (moved : event.moved = some task) :
    ∀ other ∈ event :: poller.history, ∀ one ∈ other.moved, one < poller.made := by
  rintro other (_ | ⟨_, older⟩) one oneMoved
  · rw [moved] at oneMoved
    exact Option.some.inj oneMoved ▸ books.first_made
  · exact books.made other older one oneMoved

theorem once_taken (books : Books poller ((deadline, task) :: rest) call) :
    ((rest ++ poller.delayTaskMap.entries).map Prod.snd).Nodup :=
  (List.nodup_cons.mp books.once).2

theorem passed (books : Books poller ((deadline, task) :: rest) none) (isDue : deadline ≤ now)
    (cancelled : task ∈ poller.released) : Books (poller.note (.passed task now)) rest none where
  lawful := ⟨⟨books.running, (books.released task).mp cancelled, deadline, isDue,
    (books.standing task deadline).mp (by simp)⟩, books.lawful⟩
  standing := books.standing_taken rfl rfl
  once := books.once_taken
  made := books.made_taken rfl
  released other := by
    show other ∈ poller.released ↔ _ ∈ Event.passed _ _ :: poller.history
    rw [books.released, List.mem_cons]
    simp
  running := books.running

theorem called (books : Books poller ((deadline, task) :: rest) none) (isDue : deadline ≤ now)
    (live : task ∉ poller.released) (user : User) :
    Books { poller.note (.called task now) with user := user } rest (some (task, now)) where
  lawful := ⟨⟨books.running, fun cancelled => live ((books.released task).mpr cancelled), deadline,
    isDue, (books.standing task deadline).mp (by simp)⟩, books.lawful⟩
  standing := books.standing_taken rfl rfl
  once := books.once_taken
  made := books.made_taken rfl
  released other := by
    show other ∈ poller.released ↔ _ ∈ Event.called _ _ :: poller.history
    rw [books.released, List.mem_cons]
    simp
  running := rfl

end Call

end Books

theorem not_standing_of_running {task : Task} {now : Nat} {history : List Event}
    (lawful : Lawful history) (call : running history = some (task, now)) :
    standing task history = none ∧ ∃ event ∈ history, event.moved = some task := by
  induction history with
  | nil => cases call
  | cons event past hypothesis =>
      cases event with
      | entered other clock delayMs =>
          obtain ⟨idle, earlier, member, moved⟩ := hypothesis lawful.2 call
          have unmoved : (Event.entered other clock delayMs).moved ≠ some task :=
            fun same => lawful.1 earlier member (moved.trans same.symm)
          refine ⟨?_, earlier, List.mem_cons_of_mem _ member, moved⟩
          rw [standing, if_neg unmoved]
          exact idle
      | cancelled other =>
          obtain ⟨idle, earlier, member, moved⟩ := hypothesis lawful.2 call
          exact ⟨idle, earlier, List.mem_cons_of_mem _ member, moved⟩
      | called other time =>
          have same : other = task := congrArg Prod.fst (Option.some.inj call)
          exact ⟨by rw [standing, same]; simp [Event.moved, Event.leaves], _, List.mem_cons_self,
            congrArg some same⟩
      | returned => cases call
      | passed other time =>
          have idle : running past = none := lawful.1.1
          exact nomatch idle.symm.trans call

namespace Books

open Poller

variable {User : Type} {poller : Poller User} {waiting : List (Nat × Task)} {now : Nat}
  {task : Task}

theorem returned (books : Books poller waiting (some (task, now))) (value : Option Nat) :
    Books (putBack task (again now value) (poller.note (.returned task now value))) waiting
      none := by
  obtain ⟨idle, earlier, member, moved⟩ := not_standing_of_running books.lawful books.running
  have absent : task ∉ (waiting ++ poller.delayTaskMap.entries).map Prod.snd := by
    intro present
    obtain ⟨⟨deadline, other⟩, entry, rfl⟩ := List.mem_map.mp present
    exact nomatch idle.symm.trans ((books.standing _ _).mp entry)
  have madeNow : ∀ event ∈ Event.returned task now value :: poller.history,
      ∀ one ∈ event.moved, one < poller.made := by
    rintro event (_ | ⟨_, older⟩) one oneMoved
    · cases oneMoved
      exact books.made earlier member task moved
    · exact books.made event older one oneMoved
  have releasedNow : ∀ other, other ∈ poller.released ↔
      Event.cancelled other ∈ Event.returned task now value :: poller.history := by
    intro other
    rw [books.released, List.mem_cons]
    simp
  have standingNow : ∀ other, DelayTasks.standing other
      (Event.returned task now value :: poller.history) =
        if task = other then again now value else DelayTasks.standing other poller.history := by
    intro other
    simp [DelayTasks.standing, Event.moved, Event.leaves]
  cases next : again now value with
  | none =>
      refine ⟨⟨books.running, books.lawful⟩, fun other deadline => ?_, books.once, madeNow,
        releasedNow, rfl⟩
      show _ ↔ DelayTasks.standing other (Event.returned task now value :: poller.history) = _
      rw [standingNow, next]
      show (deadline, other) ∈ waiting ++ poller.delayTaskMap.entries ↔ _
      rw [books.standing]
      split
      next same => simp [← same, idle]
      next => exact Iff.rfl
  | some deadline =>
      refine ⟨⟨books.running, books.lawful⟩, fun other otherDeadline => ?_, ?_, madeNow,
        releasedNow, rfl⟩
      · show (otherDeadline, other) ∈
          waiting ++ (poller.delayTaskMap.emplace deadline task).entries ↔
            DelayTasks.standing other (Event.returned task now value :: poller.history) = _
        rw [standingNow, next, List.mem_append, Agenda.mem_emplace, or_left_comm,
          ← List.mem_append, books.standing, Prod.mk.injEq]
        split
        next same => simp [← same, idle, eq_comm]
        next different => simp [Ne.symm different]
      · show ((waiting ++ (poller.delayTaskMap.emplace deadline task).entries).map Prod.snd).Nodup
        have order : (waiting ++ (poller.delayTaskMap.emplace deadline task).entries).Perm
            ((deadline, task) :: (waiting ++ poller.delayTaskMap.entries)) :=
          ((Agenda.emplace_perm _ _ _).append_left waiting).trans List.perm_middle
        rw [(order.map Prod.snd).nodup_iff, List.map_cons, List.nodup_cons]
        exact ⟨absent, books.once⟩

variable (behave : Task → Nat → User → Turn × User)

theorem callTask {deadline : Nat} {rest : List (Nat × Task)}
    (books : Books poller ((deadline, task) :: rest) none) (isDue : deadline ≤ now) :
    Books (Poller.callTask behave now poller task) rest none := by
  rw [Poller.callTask]
  split
  next cancelled => exact books.passed isDue cancelled
  next live => exact ((books.called isDue live _).performs _).returned _

theorem callTasks {due rest : List (Nat × Task)} (books : Books poller (due ++ rest) none)
    (areDue : ∀ entry ∈ due, entry.1 ≤ now) :
    Books (Poller.callTasks behave now due poller) rest none := by
  induction due generalizing poller with
  | nil => exact books
  | cons entry due hypothesis =>
      exact hypothesis (books.callTask behave (areDue entry List.mem_cons_self))
        fun other member => areDue other (List.mem_cons_of_mem _ member)

theorem regroup (books : Books poller waiting none) (map : Agenda Nat Task)
    (others : List (Nat × Task))
    (order : (others ++ map.entries).Perm (waiting ++ poller.delayTaskMap.entries)) :
    Books { poller with delayTaskMap := map } others none where
  lawful := books.lawful
  standing task deadline := (order.mem_iff).trans (books.standing task deadline)
  once := ((order.map Prod.snd).nodup_iff).mpr books.once
  made := books.made
  released := books.released
  running := books.running

theorem flushDelayTask (books : Books poller [] none) :
    Books (Poller.flushDelayTask behave now poller).2 [] none := by
  have taken : Books { poller with delayTaskMap := Agenda.empty }
      (poller.delayTaskMap.due now ++ (poller.delayTaskMap.later now).entries) none :=
    books.regroup _ _ (by rw [Agenda.due_append_later]; simp)
  have called := taken.callTasks behave fun _ => Agenda.le_of_mem_due _
  have mapped := called.regroup ((poller.delayTaskMap.later now).insert
    (Poller.callTasks behave now (poller.delayTaskMap.due now)
      { poller with delayTaskMap := Agenda.empty }).delayTaskMap.entries) []
    ((Agenda.insert_perm _ _).trans List.perm_append_comm)
  rw [Poller.flushDelayTask]
  split <;> exact mapped

theorem getMinDelay (books : Books poller [] none) :
    Books (Poller.getMinDelay behave now poller).2 [] none := by
  rw [Poller.getMinDelay]
  split
  next => exact books
  next =>
    split
    · exact books
    · exact books.flushDelayTask behave

theorem poll (books : Books poller [] none) (round : Round) :
    Books (Poller.poll behave poller round).1 [] none :=
  (books.performs round.deeds).getMinDelay behave

theorem runLoop (books : Books poller [] none) (rounds : List Round) :
    Books (Poller.runLoop behave rounds poller) [] none := by
  induction rounds generalizing poller with
  | nil => exact books
  | cons round rest hypothesis => exact hypothesis (books.poll behave round)

end Books

/-- In every run the map holds the tasks that wait, once each and under their deadlines, and the
poller has called no task that was not due or had been cancelled. -/
theorem timers_keep_their_books {User : Type} (behave : Task → Nat → User → Turn × User)
    (user : User) (rounds : List Poller.Round) :
    Books ((Poller.start user).runLoop behave rounds) [] none :=
  (Books.start user).runLoop behave rounds

/-- A call finds its task not cancelled, and left under a deadline that is over by whatever moved
it last: the request that made it, or its last call, which has returned another delay. -/
theorem called_after_deadline {User : Type} (behave : Task → Nat → User → Turn × User)
    (user : User) (rounds : List Poller.Round) (later past : List Event) (task : Task) (now : Nat)
    (history : ((Poller.start user).runLoop behave rounds).history =
      later ++ .called task now :: past) :
    .cancelled task ∉ past ∧
      ∃ between event before, past = between ++ event :: before ∧
        (∀ other ∈ between, other.moved ≠ some task) ∧ event.moved = some task ∧
        ∃ deadline ≤ now, event.leaves = some deadline := by
  have books : Books ((Poller.start user).runLoop behave rounds) [] none :=
    (Books.start user).runLoop behave rounds
  have lawful := books.lawful
  rw [history] at lawful
  obtain ⟨⟨_, live, deadline, isDue, waits⟩, _⟩ := lawful.split
  obtain ⟨between, event, before, split, others, moved, leaves⟩ := left_waiting waits
  exact ⟨live, between, event, before, split, others, moved, deadline, isDue, leaves⟩

theorem called_after_deadline_twice :
    let past : List Event := [.returned 0 12 (some 20), .called 0 12, .entered 0 0 10]
    .cancelled 0 ∉ past ∧
      ∃ between event before, past = between ++ event :: before ∧
        (∀ other ∈ between, other.moved ≠ some 0) ∧ event.moved = some 0 ∧
        ∃ deadline ≤ 40, event.leaves = some deadline :=
  called_after_deadline (fun _ _ user => (⟨[], some 20⟩, user)) ()
    [⟨[.delay 0 10], 12⟩, ⟨[], 20⟩, ⟨[], 40⟩] [.returned 0 40 (some 20)]
    [.returned 0 12 (some 20), .called 0 12, .entered 0 0 10] 0 40 rfl

end KnxDemo.DelayTasks
