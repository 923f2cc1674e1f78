import Mathlib.Data.List.Induction
import KnxDemo.Interaction.Transition

/-!
# Tasks handed to a poller

Any thread may queue a task for the poller's thread and then write an octet into
a pipe, which ends the wait of the poller. The poller is told of the pipe once
for an edge and then reads it until it is empty, takes the whole queue and runs
it. The steps of the threads interleave in any way.
-/

namespace KnxDemo.PollerWakeup

open KnxDemo.Interaction

/-- Where the poller's thread is, and after it the thread of the destructor. -/
inductive Place (Task : Type) where
  | waiting
  | draining
  | swapping
  | running (batch : List Task)
  /-- `runLoop` has returned. -/
  | left
  | gone
deriving DecidableEq

structure State (Task : Type) where
  listTask : List Task
  /-- The octets in the pipe. -/
  pipe : Nat
  /-- The calls of `async_l` that have queued their task and have not written yet. -/
  unwritten : Nat
  /-- Whether the pipe is an event that the next wait reports. -/
  armed : Bool
  exitFlag : Bool
  /-- Whether the destructor runs `onPipeEvent`. -/
  closing : Bool
  place : Place Task
  executed : List Task

inductive Event (Task : Type) where
  | push (first : Bool) (task : Task)
  /-- Into a pipe with octets a write may or may not be an edge. -/
  | write (edge : Bool)
  | wake
  | read
  | swap
  | run
  | turn
  | close
deriving DecidableEq

def Event.own {Task : Type} : Event Task → Bool
  | push _ _ => false
  | write _ => false
  | wake => true
  | read => true
  | swap => true
  | run => true
  | turn => true
  | close => true

namespace State

variable {Task : Type}

def start : State Task := ⟨[], 0, 0, false, false, false, .waiting, []⟩

def batch (state : State Task) : List Task :=
  match state.place with
  | .running batch => batch
  | _ => []

def bufSize : Nat := 1024

variable (quits : Task → Bool) (capacity : Nat)

/-- A task that quits throws an `ExitException`. A write into a full pipe fails. -/
def step (state : State Task) : Event Task → Option (State Task)
  | .push first task =>
      some { state with
        listTask := if first then task :: state.listTask else state.listTask ++ [task]
        unwritten := state.unwritten + 1 }
  | .write edge =>
      if state.unwritten = 0 then none
      else if state.pipe < capacity then
        some { state with
          unwritten := state.unwritten - 1
          pipe := state.pipe + 1
          armed := state.armed || edge || state.pipe == 0 }
      else some { state with unwritten := state.unwritten - 1 }
  | .wake =>
      match state.place, state.armed with
      | .waiting, true => some { state with armed := false, place := .draining }
      | _, _ => none
  | .read =>
      match state.place with
      | .draining =>
          if state.pipe = 0 then some { state with place := .swapping }
          else some { state with pipe := state.pipe - min bufSize state.pipe }
      | _ => none
  | .swap =>
      match state.place with
      | .swapping => some { state with listTask := [], place := .running state.listTask }
      | _ => none
  | .run =>
      match state.place with
      | .running (task :: rest) =>
          some { state with
            executed := state.executed ++ [task]
            exitFlag := state.exitFlag || quits task
            place := .running rest }
      | _ => none
  | .turn =>
      match state.place with
      | .running [] =>
          if state.closing then some { state with place := .gone }
          else if state.exitFlag then some { state with place := .left }
          else some { state with place := .waiting }
      | _ => none
  | .close =>
      match state.place with
      | .left => some { state with closing := true, place := .draining }
      | _ => none

abbrev Runs (start : State Task) (trace : List (Event Task)) (finish : State Task) : Prop :=
  Plays (fun state event next => step quits capacity state event = some next) start trace finish

end State

/-! ## In what order tasks run -/

section Order

variable {Task : Type}

/-- The tasks that are queued up to each exchange of the queue, and since the last one. -/
def cut (trace : List (Event Task)) : List (List (Bool × Task)) × List (Bool × Task) :=
  trace.foldl
    (fun parts event =>
      match event with
      | .push first task => (parts.1, parts.2 ++ [(first, task)])
      | .swap => (parts.1 ++ [parts.2], [])
      | _ => parts)
    ([], [])

/-- The tasks that are put first run in the order opposite to that in which they are queued, and
before the others. -/
def line (pushes : List (Bool × Task)) : List Task :=
  ((pushes.filter fun push => push.1).map Prod.snd).reverse ++
    (pushes.filter fun push => !push.1).map Prod.snd

theorem line_push (pushes : List (Bool × Task)) (first : Bool) (task : Task) :
    line (pushes ++ [(first, task)]) =
      if first then task :: line pushes else line pushes ++ [task] := by
  cases first <;> simp [line]

theorem line_perm (pushes : List (Bool × Task)) :
    (line pushes).Perm (pushes.map Prod.snd) := by
  induction pushes using List.reverseRecOn with
  | nil => exact List.Perm.refl _
  | append_singleton pushes push hypothesis =>
      obtain ⟨first, task⟩ := push
      rw [line_push, List.map_append]
      cases first with
      | true => exact (hypothesis.cons task).trans (List.perm_append_singleton task _).symm
      | false => exact hypothesis.append_right [task]

theorem flatMap_line_perm (parts : List (List (Bool × Task))) :
    (parts.flatMap line).Perm (parts.flatten.map Prod.snd) := by
  induction parts with
  | nil => exact List.Perm.refl _
  | cons pushes rest hypothesis =>
      rw [List.flatMap_cons, List.flatten_cons, List.map_append]
      exact (line_perm pushes).append hypothesis

def Event.pushed : Event Task → Option (Bool × Task)
  | push first task => some (first, task)
  | _ => none

theorem cut_snoc (trace : List (Event Task)) (event : Event Task) :
    cut (trace ++ [event]) =
      match event with
      | .push first task => ((cut trace).1, (cut trace).2 ++ [(first, task)])
      | .swap => ((cut trace).1 ++ [(cut trace).2], [])
      | _ => cut trace := by
  rw [cut, List.foldl_append]
  rfl

theorem cut_flatten (trace : List (Event Task)) :
    (cut trace).1.flatten ++ (cut trace).2 = trace.filterMap Event.pushed := by
  induction trace using List.reverseRecOn with
  | nil => rfl
  | append_singleton trace event hypothesis =>
      rw [cut_snoc, List.filterMap_append, ← hypothesis]
      cases event <;> simp [Event.pushed]

end Order

/-! ## What holds in every run -/

namespace State

variable {Task : Type} {quits : Task → Bool} {capacity : Nat}

/-- All that a step can do. -/
inductive Moves (quits : Task → Bool) (capacity : Nat) (state : State Task) :
    Event Task → State Task → Prop where
  | push (first : Bool) (task : Task) : Moves quits capacity state (.push first task) { state with
      listTask := if first then task :: state.listTask else state.listTask ++ [task]
      unwritten := state.unwritten + 1 }
  | write (edge : Bool) : state.pipe < capacity →
      Moves quits capacity state (.write edge) { state with
        unwritten := state.unwritten - 1
        pipe := state.pipe + 1
        armed := state.armed || edge || state.pipe == 0 }
  | writeFull (edge : Bool) : capacity ≤ state.pipe →
      Moves quits capacity state (.write edge) { state with unwritten := state.unwritten - 1 }
  | wake : state.place = .waiting → state.armed = true →
      Moves quits capacity state .wake { state with armed := false, place := .draining }
  | readSome : state.place = .draining → 0 < state.pipe →
      Moves quits capacity state .read { state with pipe := state.pipe - min bufSize state.pipe }
  | readNone : state.place = .draining → state.pipe = 0 →
      Moves quits capacity state .read { state with place := .swapping }
  | swap : state.place = .swapping →
      Moves quits capacity state .swap
        { state with listTask := [], place := .running state.listTask }
  | run (task : Task) (rest : List Task) : state.place = .running (task :: rest) →
      Moves quits capacity state .run { state with
        executed := state.executed ++ [task]
        exitFlag := state.exitFlag || quits task
        place := .running rest }
  | turn (place : Place Task) : state.place = .running [] →
      (place = .gone ∧ state.closing = true ∨
        place = .left ∧ state.closing = false ∨ place = .waiting ∧ state.closing = false) →
      Moves quits capacity state .turn { state with place := place }
  | close : state.place = .left →
      Moves quits capacity state .close { state with closing := true, place := .draining }

theorem moves_of_step {state next : State Task} {event : Event Task}
    (steps : state.step quits capacity event = some next) :
    Moves quits capacity state event next := by
  cases event with
  | push first task =>
      cases steps
      exact .push first task
  | write edge =>
      rw [step] at steps
      split at steps
      · cases steps
      · split at steps
        next room =>
          cases steps
          exact .write edge room
        next full =>
          cases steps
          exact .writeFull edge (Nat.not_lt.mp full)
  | wake =>
      rw [step] at steps
      split at steps
      next waiting armed =>
        cases steps
        exact .wake waiting armed
      · cases steps
  | read =>
      rw [step] at steps
      split at steps
      next draining =>
        split at steps
        next empty =>
          cases steps
          exact .readNone draining empty
        next some =>
          cases steps
          exact .readSome draining (Nat.pos_of_ne_zero some)
      · cases steps
  | swap =>
      rw [step] at steps
      split at steps
      next swapping =>
        cases steps
        exact .swap swapping
      · cases steps
  | run =>
      rw [step] at steps
      split at steps
      next task rest running =>
        cases steps
        exact .run task rest running
      · cases steps
  | turn =>
      rw [step] at steps
      split at steps
      next running =>
        split at steps
        next closing =>
          cases steps
          exact .turn _ running (.inl ⟨rfl, closing⟩)
        next notClosing =>
          have stays : state.closing = false := Bool.not_eq_true _ ▸ notClosing
          split at steps
          · cases steps
            exact .turn _ running (.inr (.inl ⟨rfl, stays⟩))
          · cases steps
            exact .turn _ running (.inr (.inr ⟨rfl, stays⟩))
      · cases steps
  | close =>
      rw [step] at steps
      split at steps
      next left =>
        cases steps
        exact .close left
      · cases steps

/-- The queue is not forgotten: an event is due for the octets in the pipe, and who has queued a
task without one is about to write. -/
structure Awake (state : State Task) : Prop where
  pipe : 0 < state.pipe → state.armed = true ∨ state.place = .draining
  queue : state.listTask ≠ [] → 0 < state.unwritten ∨ state.armed = true ∨
    state.place = .draining ∨ state.place = .swapping

theorem awake_start : Awake (start : State Task) :=
  ⟨fun some => absurd some (Nat.lt_irrefl 0), fun some => absurd rfl some⟩

theorem awake_step (room : 0 < capacity) {state next : State Task} {event : Event Task}
    (awake : Awake state) (moves : Moves quits capacity state event next) : Awake next := by
  obtain ⟨pipe, queue⟩ := awake
  cases moves with
  | push first task => exact ⟨pipe, fun _ => .inl (Nat.succ_pos _)⟩
  | write edge _ =>
      -- Into an empty pipe the write is an edge, and of other octets the poller knows.
      have known : (state.armed || edge || state.pipe == 0) = true ∨ state.place = .draining := by
        by_cases empty : state.pipe = 0
        · simp [empty]
        · exact (pipe (Nat.pos_of_ne_zero empty)).imp_left fun armed => by simp [armed]
      exact ⟨fun _ => known, fun _ => .inr (known.imp_right .inl)⟩
  | writeFull edge full =>
      exact ⟨pipe, fun _ => .inr ((pipe (Nat.lt_of_lt_of_le room full)).imp_right .inl)⟩
  | wake _ _ => exact ⟨fun _ => .inr rfl, fun _ => .inr (.inr (.inl rfl))⟩
  | readSome draining _ => exact ⟨fun _ => .inr draining, fun _ => .inr (.inr (.inl draining))⟩
  | readNone _ empty =>
      exact ⟨fun some => absurd empty (Nat.ne_of_gt some), fun _ => .inr (.inr (.inr rfl))⟩
  | swap swapping =>
      refine ⟨fun some => .inl ((pipe some).resolve_right ?_), fun some => absurd rfl some⟩
      exact fun draining => nomatch swapping.symm.trans draining
  | run task rest running =>
      rw [running] at pipe queue
      exact ⟨fun some => .inl ((pipe some).resolve_right nofun), fun some =>
        (queue some).imp_right fun known => .inl (known.resolve_right nofun)⟩
  | turn place running _ =>
      rw [running] at pipe queue
      exact ⟨fun some => .inl ((pipe some).resolve_right nofun), fun some =>
        (queue some).imp_right fun known => .inl (known.resolve_right nofun)⟩
  | close _ => exact ⟨fun _ => .inr rfl, fun _ => .inr (.inr (.inl rfl))⟩

structure Served (trace : List (Event Task)) (state : State Task) : Prop where
  taken : state.executed ++ state.batch = (cut trace).1.flatMap line
  queued : state.listTask = line (cut trace).2

theorem served_start : Served [] (start : State Task) := ⟨rfl, rfl⟩

/-- A step that is neither a push nor an exchange. -/
theorem served_same {trace : List (Event Task)} {state next : State Task} {event : Event Task}
    (served : Served trace state) (same : cut (trace ++ [event]) = cut trace)
    (taken : next.executed ++ next.batch = state.executed ++ state.batch)
    (queued : next.listTask = state.listTask) : Served (trace ++ [event]) next := by
  constructor
  · rw [same, taken]
    exact served.taken
  · rw [same, queued]
    exact served.queued

theorem served_step {trace : List (Event Task)} {state next : State Task} {event : Event Task}
    (served : Served trace state) (moves : Moves quits capacity state event next) :
    Served (trace ++ [event]) next := by
  cases moves with
  | push first task =>
      constructor
      · rw [cut_snoc]
        exact served.taken
      · rw [cut_snoc, line_push, ← served.queued]
  | write edge _ => exact served_same served (cut_snoc _ _) rfl rfl
  | writeFull edge _ => exact served_same served (cut_snoc _ _) rfl rfl
  | wake waiting _ => exact served_same served (cut_snoc _ _) (by simp [batch, waiting]) rfl
  | readSome _ _ => exact served_same served (cut_snoc _ _) rfl rfl
  | readNone draining _ =>
      exact served_same served (cut_snoc _ _) (by simp [batch, draining]) rfl
  | swap swapping =>
      have taken := served.taken
      rw [batch, swapping, List.append_nil] at taken
      constructor
      · rw [cut_snoc, List.flatMap_append, ← taken, List.flatMap_singleton, ← served.queued]
        rfl
      · rw [cut_snoc]
        rfl
  | run task rest running =>
      exact served_same served (cut_snoc _ _) (by simp [batch, running]) rfl
  | turn place running places =>
      refine served_same served (cut_snoc _ _) ?_ rfl
      rcases places with ⟨rfl, _⟩ | ⟨rfl, _⟩ | ⟨rfl, _⟩ <;> simp [batch, running]
  | close left => exact served_same served (cut_snoc _ _) (by simp [batch, left]) rfl

theorem gone_step {state next : State Task} {event : Event Task}
    (closes : state.place = .gone → state.closing = true)
    (moves : Moves quits capacity state event next) : next.place = .gone → next.closing = true := by
  cases moves with
  | turn place _ places =>
      rintro rfl
      rcases places with ⟨_, closing⟩ | ⟨other, _⟩ | ⟨other, _⟩
      · exact closing
      · cases other
      · cases other
  | close => exact fun _ => rfl
  | push | write | writeFull | readSome => exact closes
  | wake | readNone | swap | run => exact fun gone => by cases gone

theorem gone_runs {trace : List (Event Task)} {state : State Task}
    (runs : Runs quits capacity start trace state) :
    state.place = .gone → state.closing = true :=
  runs.always (fun _ state => state.place = .gone → state.closing = true)
    (fun gone => by cases gone) fun _ _ _ _ closes steps => gone_step closes (moves_of_step steps)

theorem awake_runs (room : 0 < capacity) {trace : List (Event Task)} {state : State Task}
    (runs : Runs quits capacity start trace state) : Awake state :=
  runs.always (fun _ state => Awake state) awake_start
    fun _ _ _ _ awake steps => awake_step room awake (moves_of_step steps)

theorem served_runs {trace : List (Event Task)} {state : State Task}
    (runs : Runs quits capacity start trace state) : Served trace state :=
  runs.always Served served_start
    fun _ _ _ _ served steps => served_step served (moves_of_step steps)

/-! ### The poller left to itself -/

abbrev OwnRuns (quits : Task → Bool) (capacity : Nat) (start : State Task)
    (trace : List (Event Task)) (finish : State Task) : Prop :=
  Plays (fun state event next => event.own = true ∧ step quits capacity state event = some next)
    start trace finish

def weight : Place Task → Nat
  | .waiting => 1
  | .draining => 4
  | .swapping => 3
  | .running _ => 2
  | .left => 1
  | .gone => 0

def cost (state : State Task) : Nat :=
  weight state.place + state.pipe + state.listTask.length + state.batch.length +
    (if state.armed then 4 else 0) + if state.closing then 0 else 4

theorem cost_le (state : State Task) :
    state.cost ≤ state.pipe + state.listTask.length + state.batch.length + 12 := by
  have place : weight state.place ≤ 4 := by
    cases state.place <;> simp [weight]
  rw [cost]
  split <;> split <;> omega

def ahead (state : State Task) : List Task := state.executed ++ state.batch ++ state.listTask

/-- The destructor begins when the loop has ended, and when it has taken the queue it is empty. -/
structure Closes (state : State Task) : Prop where
  left : state.place = .left → state.closing = false
  taken : state.closing = true →
    state.place = .draining ∨ state.place = .swapping ∨ state.listTask = []

theorem own_step {state next : State Task} {event : Event Task} (own : event.own = true)
    (moves : Moves quits capacity state event next) (closes : Closes state) :
    next.cost < state.cost ∧ next.ahead = state.ahead ∧ Closes next := by
  obtain ⟨notYet, taken⟩ := closes
  cases moves with
  | push => cases own
  | write => cases own
  | writeFull => cases own
  | wake waiting armed =>
      refine ⟨?_, by simp [ahead, batch, waiting], nofun, fun _ => .inl rfl⟩
      simp only [cost, batch, waiting, armed, weight]
      simp
      omega
  | readSome draining some =>
      refine ⟨?_, rfl, notYet, fun _ => .inl draining⟩
      have less : state.pipe - min bufSize state.pipe < state.pipe := by
        rw [bufSize]
        omega
      simp only [cost, batch, draining]
      omega
  | readNone draining empty =>
      refine ⟨?_, by simp [ahead, batch, draining], nofun, fun _ => .inr (.inl rfl)⟩
      simp only [cost, batch, draining, weight]
      omega
  | swap swapping =>
      refine ⟨?_, by simp [ahead, batch, swapping], nofun, fun _ => .inr (.inr rfl)⟩
      simp only [cost, batch, swapping, weight, List.length_nil]
      omega
  | run task rest running =>
      refine ⟨?_, by simp [ahead, batch, running], nofun, fun closing => .inr (.inr ?_)⟩
      · simp only [cost, batch, running, weight, List.length_cons]
        omega
      · simpa [running] using taken closing
  | turn place running places =>
      have empty : state.closing = true → state.listTask = [] := fun closing => by
        simpa [running] using taken closing
      rcases places with ⟨rfl, closing⟩ | ⟨rfl, stays⟩ | ⟨rfl, stays⟩
      · refine ⟨?_, by simp [ahead, batch, running], nofun, fun _ => .inr (.inr (empty closing))⟩
        simp only [cost, batch, running, weight, List.length_nil]
        omega
      · refine ⟨?_, by simp [ahead, batch, running], fun _ => stays,
          fun closing => .inr (.inr (empty closing))⟩
        simp only [cost, batch, running, weight, List.length_nil]
        omega
      · refine ⟨?_, by simp [ahead, batch, running], nofun,
          fun closing => .inr (.inr (empty closing))⟩
        simp only [cost, batch, running, weight, List.length_nil]
        omega
  | close left =>
      refine ⟨?_, by simp [ahead, batch, left], nofun, fun _ => .inl rfl⟩
      simp only [cost, batch, left, weight, notYet left]
      simp
      omega

theorem own_runs {state finish : State Task} {own : List (Event Task)}
    (runs : OwnRuns quits capacity state own finish) (closes : Closes state) :
    own.length + finish.cost ≤ state.cost ∧ finish.ahead = state.ahead ∧ Closes finish := by
  refine runs.always
    (fun past now => past.length + now.cost ≤ state.cost ∧ now.ahead = state.ahead ∧ Closes now)
    ⟨by simp, rfl, closes⟩ fun past now event next held steps => ?_
  obtain ⟨bound, same, ends⟩ := held
  obtain ⟨less, kept, closesNext⟩ := own_step steps.1 (moves_of_step steps.2) ends
  refine ⟨?_, kept.trans same, closesNext⟩
  rw [List.length_append, List.length_singleton]
  omega

theorem own_unwritten {state next : State Task} {event : Event Task} (own : event.own = true)
    (moves : Moves quits capacity state event next) : next.unwritten = state.unwritten := by
  cases moves with
  | push => cases own
  | write => cases own
  | writeFull => cases own
  | _ => rfl

theorem runs_of_own {state finish : State Task} {own : List (Event Task)}
    (runs : OwnRuns quits capacity state own finish) : Runs quits capacity state own finish := by
  induction runs with
  | nil state => exact .nil state
  | cons first _ hypothesis => exact .cons first.2 hypothesis

theorem own_runs_unwritten {state finish : State Task} {own : List (Event Task)}
    (runs : OwnRuns quits capacity state own finish) : finish.unwritten = state.unwritten :=
  runs.always (fun _ now => now.unwritten = state.unwritten) rfl
    fun _ _ _ _ same steps => (own_unwritten steps.1 (moves_of_step steps.2)).trans same

theorem place_of_stuck {state : State Task}
    (stuck : ∀ event : Event Task, event.own = true → state.step quits capacity event = none) :
    state.place = .waiting ∧ state.armed = false ∨ state.place = .gone := by
  cases place : state.place with
  | waiting =>
      cases armed : state.armed with
      | false => exact .inl ⟨rfl, rfl⟩
      | true => exact absurd (stuck .wake rfl) (by simp [step, place, armed])
  | draining =>
      have := stuck .read rfl
      by_cases empty : state.pipe = 0 <;> simp [step, place, empty] at this
  | swapping => exact absurd (stuck .swap rfl) (by simp [step, place])
  | running batch =>
      cases batch with
      | nil =>
          have := stuck .turn rfl
          simp only [step, place] at this
          repeat' split at this
          all_goals cases this
      | cons task rest => exact absurd (stuck .run rfl) (by simp [step, place])
  | left => exact absurd (stuck .close rfl) (by simp [step, place])
  | gone => exact .inr rfl

end State

/-- In every run the tasks run in the order in which they are queued, but that those of one
exchange that are put first come before the others of it, and each of them runs at most once. -/
theorem poller_serves_in_batches {Task : Type} (quits : Task → Bool) (capacity : Nat)
    (trace : List (Event Task)) (state : State Task)
    (runs : State.Runs quits capacity State.start trace state) :
    (cut trace).1.flatten ++ (cut trace).2 = trace.filterMap Event.pushed ∧
      state.executed ++ state.batch = (cut trace).1.flatMap line ∧
      state.listTask = line (cut trace).2 ∧
      (state.executed ++ state.batch ++ state.listTask).Perm
        ((trace.filterMap Event.pushed).map Prod.snd) := by
  obtain ⟨taken, queued⟩ := State.served_runs runs
  refine ⟨cut_flatten trace, taken, queued, ?_⟩
  rw [taken, queued, ← cut_flatten, List.map_append]
  exact (flatMap_line_perm _).append (line_perm _)

theorem poller_serves_in_batches_two :
    let trace : List (Event Nat) := [.push false 1, .push true 2, .write false, .write false, .wake,
      .read, .read, .swap, .push false 3, .run, .run]
    let state : State Nat := ⟨[3], 0, 1, false, false, false, .running [], [2, 1]⟩
    (cut trace).1.flatten ++ (cut trace).2 = trace.filterMap Event.pushed ∧
      state.executed ++ state.batch = (cut trace).1.flatMap line ∧
      state.listTask = line (cut trace).2 ∧
      (state.executed ++ state.batch ++ state.listTask).Perm
        ((trace.filterMap Event.pushed).map Prod.snd) := by
  intro trace state
  refine poller_serves_in_batches (fun _ => false) 65536 trace state ?_
  repeat' first | exact .nil _ | refine .cons rfl ?_

/-- Whatever the threads have done, when every `async_l` has returned and the destructor has not
begun to drain, the poller's thread takes finitely many steps by itself, and when it can take no
other it has run all the tasks. -/
theorem no_wakeup_is_lost {Task : Type} (quits : Task → Bool) (capacity : Nat)
    (room : 0 < capacity) (trace : List (Event Task)) (state : State Task)
    (runs : State.Runs quits capacity State.start trace state) (written : state.unwritten = 0)
    (notClosing : state.closing = false) (own : List (Event Task)) (finish : State Task)
    (ownRuns : State.OwnRuns quits capacity state own finish) :
    own.length ≤ state.pipe + state.listTask.length + state.batch.length + 12 ∧
      ((∀ event : Event Task, event.own = true → finish.step quits capacity event = none) →
        finish.executed = (cut trace).1.flatMap line ++ line (cut trace).2) := by
  obtain ⟨bound, same, closes⟩ := State.own_runs ownRuns
    ⟨fun _ => notClosing, fun closing => nomatch notClosing.symm.trans closing⟩
  have allRuns : State.Runs quits capacity State.start (trace ++ own) finish :=
    plays_append_iff.mpr ⟨state, runs, State.runs_of_own ownRuns⟩
  have awake : State.Awake finish := State.awake_runs room allRuns
  have written : finish.unwritten = 0 := (State.own_runs_unwritten ownRuns).trans written
  obtain ⟨taken, queued⟩ := State.served_runs runs
  refine ⟨by have := state.cost_le; omega, fun stuck => ?_⟩
  -- The queue is empty where the thread cannot go on.
  have emptied : finish.batch = [] ∧ finish.listTask = [] := by
    rcases State.place_of_stuck stuck with ⟨waiting, idle⟩ | gone
    · refine ⟨by rw [State.batch, waiting], Classical.byContradiction fun some => ?_⟩
      rcases awake.queue some with late | armed | draining | swapping
      · exact absurd late (by omega)
      · exact nomatch idle.symm.trans armed
      · exact nomatch waiting.symm.trans draining
      · exact nomatch waiting.symm.trans swapping
    · refine ⟨by rw [State.batch, gone], ?_⟩
      simpa [gone] using closes.taken (State.gone_runs allRuns gone)
  have ahead : finish.executed = state.ahead := by
    rw [← same, State.ahead, emptied.1, emptied.2, List.append_nil, List.append_nil]
  rw [ahead, State.ahead, taken, queued]

theorem no_wakeup_is_lost_one :
    let trace : List (Event Nat) := [.push false 1, .write false]
    let state : State Nat := ⟨[1], 1, 0, true, false, false, .waiting, []⟩
    let own : List (Event Nat) := [.wake, .read, .read, .swap, .run, .turn]
    let finish : State Nat := ⟨[], 0, 0, false, false, false, .waiting, [1]⟩
    own.length ≤ state.pipe + state.listTask.length + state.batch.length + 12 ∧
      ((∀ event : Event Nat, event.own = true →
          finish.step (fun _ => false) 65536 event = none) →
        finish.executed = (cut trace).1.flatMap line ++ line (cut trace).2) := by
  intro trace state own finish
  refine no_wakeup_is_lost (fun _ => false) 65536 (by decide) trace state ?_ rfl rfl own finish ?_
  · exact .cons rfl (.cons rfl (.nil _))
  · repeat' first | exact .nil _ | refine .cons ⟨rfl, rfl⟩ ?_

end KnxDemo.PollerWakeup
