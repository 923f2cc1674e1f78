import Mathlib.Algebra.Ring.Nat
import KnxDemo.Interaction.Transition

/-!
# A pool of threads

Tasks are queued under a lock and counted by a semaphore, for which the threads
of the pool wait. A thread that has got through the semaphore takes the first
task and runs it, or leaves when there is none. The destructor posts once for
each thread. The steps of the threads interleave in any way, and a thread may
wake up without having been notified.
-/

namespace KnxDemo.WorkerPool

open KnxDemo.Interaction

/-- Where a thread of the pool is. -/
inductive Worker (Task : Type) where
  /-- Before `semaphore::wait`. -/
  | free
  | asleep
  /-- Awake again in the loop of `semaphore::wait`. -/
  | woken
  /-- Past the semaphore. -/
  | holding
  | running (task : Task)
  | left
deriving DecidableEq

structure ThreadPool (Task : Type) where
  queue : List Task
  /-- The count of the semaphore. -/
  count : Nat
  /-- The calls of `push_task` that have queued their task and have not posted yet. -/
  unposted : Nat
  /-- What `push_exit` has posted. -/
  exits : Nat
  workers : List (Worker Task)
  executed : List Task

inductive Event (Task : Type) where
  | push (first : Bool) (task : Task)
  /-- `post` of a pushed task. It notifies the chosen thread. -/
  | post (chosen : Option Nat)
  | pushExit (chosen : Option Nat)
  | spurious (worker : Nat)
  | wait (worker : Nat)
  | pop (worker : Nat)
  | finish (worker : Nat)
deriving DecidableEq

namespace Event

variable {Task : Type}

def own : Event Task → Bool
  | push _ _ => false
  | post _ => false
  | pushExit _ => false
  | spurious _ => false
  | wait _ => true
  | pop _ => true
  | finish _ => true

def pushed : Event Task → Option Task
  | push _ task => some task
  | _ => none

end Event

namespace Worker

variable {Task : Type}

def wakeUp : Worker Task → Worker Task
  | asleep => woken
  | worker => worker

def task : Worker Task → Option Task
  | running task => some task
  | _ => none

end Worker

namespace ThreadPool

variable {Task : Type} [DecidableEq Task]

def start (threadNum : Nat) : ThreadPool Task :=
  ⟨[], 0, 0, 0, List.replicate threadNum .free, []⟩

/-- `notify_one` wakes a thread that sleeps, if any does. -/
def notifyOne (workers : List (Worker Task)) : Option Nat → Option (List (Worker Task))
  | some chosen =>
      if workers[chosen]? = some .asleep then some (workers.set chosen .woken) else none
  | none => if .asleep ∈ workers then none else some workers

/-- `semaphore::post`, which wakes all by `notify_all` unless it posts one. -/
def semPost (amount : Nat) (chosen : Option Nat) (pool : ThreadPool Task) :
    Option (ThreadPool Task) :=
  let posted := { pool with count := pool.count + amount }
  if amount = 1 then
    (notifyOne pool.workers chosen).map fun workers => { posted with workers := workers }
  else some { posted with workers := pool.workers.map Worker.wakeUp }

/-- The loop of `semaphore::wait`, of a thread that is awake. -/
def semWait (worker : Nat) (pool : ThreadPool Task) : ThreadPool Task :=
  if pool.count = 0 then { pool with workers := pool.workers.set worker .asleep }
  else { pool with count := pool.count - 1, workers := pool.workers.set worker .holding }

def step (pool : ThreadPool Task) : Event Task → Option (ThreadPool Task)
  | .push first task =>
      some { pool with
        queue := if first then task :: pool.queue else pool.queue ++ [task]
        unposted := pool.unposted + 1 }
  | .post chosen =>
      if pool.unposted = 0 then none
      else semPost 1 chosen { pool with unposted := pool.unposted - 1 }
  | .pushExit chosen =>
      semPost pool.workers.length chosen { pool with exits := pool.exits + pool.workers.length }
  | .spurious worker =>
      if pool.workers[worker]? = some .asleep then
        some { pool with workers := pool.workers.set worker .woken }
      else none
  | .wait worker =>
      match pool.workers[worker]? with
      | some .free => some (pool.semWait worker)
      | some .woken => some (pool.semWait worker)
      | _ => none
  | .pop worker =>
      match pool.workers[worker]? with
      | some .holding =>
          match pool.queue with
          | [] => some { pool with workers := pool.workers.set worker .left }
          | task :: rest =>
              some { pool with queue := rest, workers := pool.workers.set worker (.running task) }
      | _ => none
  | .finish worker =>
      match pool.workers[worker]? with
      | some (.running task) =>
          some { pool with
            executed := pool.executed ++ [task]
            workers := pool.workers.set worker .free }
      | _ => none

abbrev Runs (start : ThreadPool Task) (trace : List (Event Task)) (finish : ThreadPool Task) :
    Prop :=
  Plays (fun pool event next => step pool event = some next) start trace finish

abbrev OwnRuns (start : ThreadPool Task) (trace : List (Event Task))
    (finish : ThreadPool Task) : Prop :=
  Plays (fun pool event next => event.own = true ∧ step pool event = some next) start trace finish

/-! ## What a step can do -/

inductive Goes (current next : Worker Task) (workers : List (Worker Task)) :
    List (Worker Task) → Prop where
  | mk (before behind : List (Worker Task)) : workers = before ++ current :: behind →
      Goes current next workers (before ++ next :: behind)

omit [DecidableEq Task] in
theorem goes_set {workers : List (Worker Task)} {worker : Nat} {current : Worker Task}
    (is : workers[worker]? = some current) (next : Worker Task) :
    Goes current next workers (workers.set worker next) := by
  obtain ⟨inside, here⟩ := List.getElem?_eq_some_iff.mp is
  rw [List.set_eq_take_append_cons_drop, if_pos inside]
  refine .mk _ _ ?_
  rw [← here, List.getElem_cons_drop, List.take_append_drop]

inductive Moves (pool : ThreadPool Task) : Event Task → ThreadPool Task → Prop where
  | push (first : Bool) (task : Task) : Moves pool (.push first task) { pool with
      queue := if first then task :: pool.queue else pool.queue ++ [task]
      unposted := pool.unposted + 1 }
  | post (chosen : Option Nat) (workers : List (Worker Task)) : 0 < pool.unposted →
      (Goes .asleep .woken pool.workers workers ∨
        .asleep ∉ pool.workers ∧ workers = pool.workers) →
      Moves pool (.post chosen) { pool with
        count := pool.count + 1
        unposted := pool.unposted - 1
        workers := workers }
  | pushExit (chosen : Option Nat) (workers : List (Worker Task)) :
      (pool.workers.length = 1 ∧ (Goes .asleep .woken pool.workers workers ∨
          .asleep ∉ pool.workers ∧ workers = pool.workers) ∨
        workers = pool.workers.map Worker.wakeUp) →
      Moves pool (.pushExit chosen) { pool with
        count := pool.count + pool.workers.length
        exits := pool.exits + pool.workers.length
        workers := workers }
  | spurious (worker : Nat) (workers : List (Worker Task)) :
      Goes .asleep .woken pool.workers workers →
      Moves pool (.spurious worker) { pool with workers := workers }
  | sleep (worker : Nat) (workers : List (Worker Task)) (current : Worker Task) :
      (current = .free ∨ current = .woken) → Goes current .asleep pool.workers workers →
      pool.count = 0 → Moves pool (.wait worker) { pool with workers := workers }
  | take (worker : Nat) (workers : List (Worker Task)) (current : Worker Task) :
      (current = .free ∨ current = .woken) → Goes current .holding pool.workers workers →
      0 < pool.count →
      Moves pool (.wait worker) { pool with count := pool.count - 1, workers := workers }
  | leave (worker : Nat) (workers : List (Worker Task)) :
      Goes .holding .left pool.workers workers → pool.queue = [] →
      Moves pool (.pop worker) { pool with workers := workers }
  | pop (worker : Nat) (workers : List (Worker Task)) (task : Task) (rest : List Task) :
      Goes .holding (.running task) pool.workers workers → pool.queue = task :: rest →
      Moves pool (.pop worker) { pool with queue := rest, workers := workers }
  | finish (worker : Nat) (workers : List (Worker Task)) (task : Task) :
      Goes (.running task) .free pool.workers workers →
      Moves pool (.finish worker) { pool with
        executed := pool.executed ++ [task]
        workers := workers }

theorem semPost_one {chosen : Option Nat} {pool next : ThreadPool Task}
    (posts : pool.semPost 1 chosen = some next) :
    ∃ workers, (Goes .asleep .woken pool.workers workers ∨
        .asleep ∉ pool.workers ∧ workers = pool.workers) ∧
      next = { pool with count := pool.count + 1, workers := workers } := by
  rw [semPost, if_pos rfl, Option.map_eq_some_iff] at posts
  obtain ⟨workers, notified, rfl⟩ := posts
  refine ⟨workers, ?_, rfl⟩
  cases chosen with
  | some worker =>
      rw [notifyOne] at notified
      split at notified
      next asleep =>
        cases notified
        exact .inl (goes_set asleep .woken)
      · cases notified
  | none =>
      rw [notifyOne] at notified
      split at notified
      · cases notified
      next none =>
        cases notified
        exact .inr ⟨none, rfl⟩

omit [DecidableEq Task] in
theorem moves_of_semWait {pool : ThreadPool Task} {worker : Nat} {current : Worker Task}
    (is : pool.workers[worker]? = some current) (awake : current = .free ∨ current = .woken) :
    Moves pool (.wait worker) (pool.semWait worker) := by
  rw [semWait]
  split
  next none => exact .sleep worker _ current awake (goes_set is _) none
  next some => exact .take worker _ current awake (goes_set is _) (Nat.pos_of_ne_zero some)

theorem moves_of_step {pool next : ThreadPool Task} {event : Event Task}
    (steps : pool.step event = some next) : Moves pool event next := by
  cases event with
  | push first task =>
      cases steps
      exact .push first task
  | post chosen =>
      rw [step] at steps
      split at steps
      · cases steps
      next unposted =>
        obtain ⟨workers, notified, rfl⟩ := semPost_one steps
        exact .post chosen workers (Nat.pos_of_ne_zero unposted) notified
  | pushExit chosen =>
      rw [step] at steps
      by_cases one : pool.workers.length = 1
      · rw [one] at steps
        obtain ⟨workers, notified, rfl⟩ := semPost_one steps
        have moves := Moves.pushExit chosen workers (.inl ⟨one, notified⟩)
        rwa [one] at moves
      · rw [semPost, if_neg one] at steps
        cases steps
        exact .pushExit chosen _ (.inr rfl)
  | spurious worker =>
      rw [step] at steps
      split at steps
      next asleep =>
        cases steps
        exact .spurious worker _ (goes_set asleep _)
      · cases steps
  | wait worker =>
      rw [step] at steps
      split at steps
      next free =>
        cases steps
        exact moves_of_semWait free (.inl rfl)
      next woken =>
        cases steps
        exact moves_of_semWait woken (.inr rfl)
      · cases steps
  | pop worker =>
      rw [step] at steps
      split at steps
      next holding =>
        split at steps
        next none =>
          cases steps
          exact .leave worker _ (goes_set holding _) none
        next task rest some =>
          cases steps
          exact .pop worker _ task rest (goes_set holding _) some
      · cases steps
  | finish worker =>
      rw [step] at steps
      split at steps
      next task running =>
        cases steps
        exact .finish worker _ task (goes_set running _)
      · cases steps

/-! ## The books of the pool -/

theorem Goes.count {current next : Worker Task} {workers others : List (Worker Task)}
    (goes : Goes current next workers others) (worker : Worker Task) :
    others.count worker + (if current = worker then 1 else 0) =
      workers.count worker + if next = worker then 1 else 0 := by
  obtain ⟨before, behind, rfl⟩ := goes
  simp only [List.count_append, List.count_cons, beq_iff_eq]
  omega

theorem Goes.counts {current next : Worker Task} {workers others : List (Worker Task)}
    (goes : Goes current next workers others) :
    (others.count .holding + (if current = .holding then 1 else 0) =
        workers.count .holding + if next = .holding then 1 else 0) ∧
      (others.count .left + (if current = .left then 1 else 0) =
        workers.count .left + if next = .left then 1 else 0) ∧
      (others.count .asleep + (if current = .asleep then 1 else 0) =
        workers.count .asleep + if next = .asleep then 1 else 0) ∧
      others.count .woken + (if current = .woken then 1 else 0) =
        workers.count .woken + if next = .woken then 1 else 0 :=
  ⟨goes.count _, goes.count _, goes.count _, goes.count _⟩

theorem Goes.tasks {current next : Worker Task} {workers others : List (Worker Task)}
    (goes : Goes current next workers others) :
    (others.filterMap Worker.task ++ current.task.toList).Perm
      (workers.filterMap Worker.task ++ next.task.toList) := by
  obtain ⟨before, behind, rfl⟩ := goes
  have split : ∀ worker : Worker Task, (before ++ worker :: behind).filterMap Worker.task =
      before.filterMap Worker.task ++ (worker.task.toList ++ behind.filterMap Worker.task) := by
    intro worker
    rw [List.filterMap_append]
    cases task : worker.task <;> simp [task]
  rw [split, split]
  refine List.perm_iff_count.mpr fun task => ?_
  simp only [List.count_append]
  omega

omit [DecidableEq Task] in
theorem Goes.length {current next : Worker Task} {workers others : List (Worker Task)}
    (goes : Goes current next workers others) : others.length = workers.length := by
  obtain ⟨before, behind, rfl⟩ := goes
  simp

theorem count_wakeUp (workers : List (Worker Task)) :
    (workers.map Worker.wakeUp).count .holding = workers.count .holding ∧
      (workers.map Worker.wakeUp).count .left = workers.count .left ∧
      (workers.map Worker.wakeUp).count .asleep = 0 ∧
      (workers.map Worker.wakeUp).filterMap Worker.task = workers.filterMap Worker.task := by
  induction workers with
  | nil => exact ⟨rfl, rfl, rfl, rfl⟩
  | cons worker rest hypothesis =>
      obtain ⟨holding, left, asleep, tasks⟩ := hypothesis
      cases worker <;>
        simp_all [Worker.wakeUp, Worker.task, List.filterMap_cons]

/-- What has been posted is accounted for, no thread sleeps through a post, and a task is in one
place. -/
structure Books (pushed : List Task) (pool : ThreadPool Task) : Prop where
  tokens : pool.count + pool.workers.count .holding + pool.workers.count .left + pool.unposted =
    pool.queue.length + pool.exits
  left : pool.workers.count .left ≤ pool.exits
  asleep : 0 < pool.workers.count .asleep → pool.count ≤ pool.workers.count .woken
  tasks : (pool.executed ++ pool.workers.filterMap Worker.task ++ pool.queue).Perm pushed

theorem books_start (threadNum : Nat) : Books [] (start threadNum : ThreadPool Task) where
  tokens := by simp [start, List.count_replicate]
  left := by simp [start, List.count_replicate]
  asleep some := by simp [start, List.count_replicate] at some
  tasks := by simp [start, List.filterMap_replicate, Worker.task]

theorem count_notified {pool : ThreadPool Task} {workers : List (Worker Task)}
    (notified : Goes .asleep .woken pool.workers workers ∨
      .asleep ∉ pool.workers ∧ workers = pool.workers) :
    workers.count .holding = pool.workers.count .holding ∧
      workers.count .left = pool.workers.count .left ∧
      (0 < workers.count .asleep → 0 < pool.workers.count .asleep ∧
        workers.count .woken = pool.workers.count .woken + 1) ∧
      (workers.filterMap Worker.task).Perm (pool.workers.filterMap Worker.task) := by
  rcases notified with goes | ⟨awake, rfl⟩
  · obtain ⟨holding, left, asleep, woken⟩ := goes.counts
    simp at holding left asleep woken
    have tasks := goes.tasks
    simp only [Worker.task, Option.toList_none, List.append_nil] at tasks
    exact ⟨holding, left, fun _ => ⟨by omega, woken⟩, tasks⟩
  · exact ⟨rfl, rfl, fun some => absurd (List.count_pos_iff.mp some) awake, List.Perm.refl _⟩

section Step

variable {pushed : List Task} {pool next : ThreadPool Task} {event : Event Task}

theorem books_push (books : Books pushed pool) (first : Bool) (task : Task) :
    Books (pushed ++ [task]) { pool with
      queue := if first then task :: pool.queue else pool.queue ++ [task]
      unposted := pool.unposted + 1 } := by
  obtain ⟨tokens, left, asleep, tasks⟩ := books
  refine ⟨?_, left, asleep, ?_⟩
  · cases first <;> simp <;> omega
  · cases first with
    | true =>
        exact (List.perm_middle.trans (tasks.cons task)).trans
          (List.perm_append_singleton task _).symm
    | false =>
        show (_ ++ _ ++ (pool.queue ++ [task])).Perm (_ ++ [task])
        rw [← List.append_assoc]
        exact tasks.append_right [task]

theorem tasks_goes {executed queue : List Task} {current other : Worker Task}
    {workers others : List (Worker Task)}
    (tasks : (executed ++ workers.filterMap Worker.task ++ queue).Perm pushed)
    (goes : Goes current other workers others) (before : current.task = none)
    (after : other.task = none) :
    (executed ++ others.filterMap Worker.task ++ queue).Perm pushed := by
  have same := goes.tasks
  rw [before, after, Option.toList_none, List.append_nil, List.append_nil] at same
  exact ((same.append_left _).append_right _).trans tasks

theorem books_move (books : Books pushed pool) (moves : Moves pool event next)
    (notPush : event.pushed = none) : Books pushed next := by
  obtain ⟨tokens, left, asleep, tasks⟩ := books
  cases moves with
  | push => cases notPush
  | post chosen workers unposted notified =>
      obtain ⟨holding, lefts, asleeps, sameTasks⟩ := count_notified notified
      refine ⟨?_, ?_, fun slept => ?_, ((sameTasks.append_left _).append_right _).trans tasks⟩ <;>
        dsimp only
      · omega
      · omega
      · obtain ⟨before, woken⟩ := asleeps slept
        have := asleep before
        omega
  | pushExit chosen workers notified =>
      rcases notified with ⟨one, notified⟩ | rfl
      · obtain ⟨holding, lefts, asleeps, sameTasks⟩ := count_notified notified
        refine ⟨?_, ?_, fun slept => ?_, ((sameTasks.append_left _).append_right _).trans tasks⟩ <;>
          dsimp only
        · omega
        · omega
        · obtain ⟨before, woken⟩ := asleeps slept
          have := asleep before
          omega
      · obtain ⟨holding, lefts, asleeps, sameTasks⟩ := count_wakeUp pool.workers
        refine ⟨?_, ?_, fun slept => absurd asleeps (Nat.ne_of_gt slept), ?_⟩ <;> dsimp only
        · omega
        · omega
        · rw [sameTasks]
          exact tasks
  | spurious worker workers goes =>
      obtain ⟨holding, lefts, asleeps, woken⟩ := goes.counts
      simp at holding lefts asleeps woken
      refine ⟨?_, ?_, fun slept => ?_, tasks_goes tasks goes rfl rfl⟩ <;> dsimp only
      · omega
      · omega
      · have := asleep (by omega)
        omega
  | sleep worker workers current awake goes none =>
      have holding := goes.count .holding
      have lefts := goes.count .left
      have task : current.task = Option.none := by rcases awake with rfl | rfl <;> rfl
      have stays : current ≠ .holding ∧ current ≠ .left := by
        rcases awake with rfl | rfl <;> simp
      simp [stays] at holding lefts
      refine ⟨?_, ?_, fun _ => ?_, tasks_goes tasks goes task rfl⟩ <;> dsimp only
      · omega
      · omega
      · omega
  | take worker workers current awake goes some =>
      obtain ⟨holding, lefts, asleeps, woken⟩ := goes.counts
      have task : current.task = none := by rcases awake with rfl | rfl <;> rfl
      have stays : current ≠ .holding ∧ current ≠ .left ∧ current ≠ .asleep := by
        rcases awake with rfl | rfl <;> simp
      simp [stays] at holding lefts asleeps woken
      refine ⟨?_, ?_, fun slept => ?_, tasks_goes tasks goes task rfl⟩ <;> dsimp only
      · omega
      · omega
      · dsimp only at slept
        have := asleep (by omega)
        split at woken <;> omega
  | leave worker workers goes none =>
      obtain ⟨holding, lefts, asleeps, woken⟩ := goes.counts
      simp at holding lefts asleeps woken
      have length : pool.queue.length = 0 := by rw [none]; rfl
      refine ⟨?_, ?_, fun slept => ?_, tasks_goes tasks goes rfl rfl⟩ <;> dsimp only
      · omega
      · omega
      · dsimp only at slept
        have := asleep (by omega)
        omega
  | pop worker workers task rest goes some =>
      obtain ⟨holding, lefts, asleeps, woken⟩ := goes.counts
      simp at holding lefts asleeps woken
      have length : pool.queue.length = rest.length + 1 := by rw [some]; rfl
      have moved := goes.tasks
      simp only [Worker.task, Option.toList_none, Option.toList_some, List.append_nil] at moved
      refine ⟨?_, ?_, fun slept => ?_, List.Perm.trans ?_ tasks⟩ <;> dsimp only
      · omega
      · omega
      · dsimp only at slept
        have := asleep (by omega)
        omega
      · rw [some, List.append_cons, List.append_assoc pool.executed _ [task]]
        exact (moved.append_left _).append_right _
  | finish worker workers task goes =>
      obtain ⟨holding, lefts, asleeps, woken⟩ := goes.counts
      simp at holding lefts asleeps woken
      have moved := goes.tasks
      simp only [Worker.task, Option.toList_none, Option.toList_some, List.append_nil] at moved
      refine ⟨?_, ?_, fun slept => ?_, List.Perm.trans (List.Perm.append_right _ ?_) tasks⟩ <;>
        dsimp only
      · omega
      · omega
      · dsimp only at slept
        have := asleep (by omega)
        omega
      · rw [List.append_assoc]
        exact (List.perm_append_comm.trans moved).append_left _

theorem books_step (books : Books pushed pool) (moves : Moves pool event next) :
    Books (pushed ++ event.pushed.toList) next := by
  cases event with
  | push first task =>
      cases moves
      exact books_push books first task
  | _ =>
      simp only [Event.pushed, Option.toList_none, List.append_nil]
      exact books_move books moves rfl

theorem books_runs {threadNum : Nat} {trace : List (Event Task)} {pool : ThreadPool Task}
    (runs : Runs (start threadNum) trace pool) : Books (trace.filterMap Event.pushed) pool := by
  refine runs.always (fun past pool => Books (past.filterMap Event.pushed) pool)
    (books_start threadNum) fun past pool event next books steps => ?_
  have pushes : (past ++ [event]).filterMap Event.pushed =
      past.filterMap Event.pushed ++ event.pushed.toList := by
    rw [List.filterMap_append]
    cases pushed : event.pushed <;> simp [pushed]
  rw [pushes]
  exact books_step books (moves_of_step steps)

end Step

/-! ## The threads left to themselves -/

def weight : Worker Task → Nat
  | .free => 1
  | .asleep => 0
  | .woken => 1
  | .holding => 3
  | .running _ => 2
  | .left => 0

def cost (pool : ThreadPool Task) : Nat := 3 * pool.count + (pool.workers.map weight).sum

omit [DecidableEq Task] in
theorem cost_le (pool : ThreadPool Task) :
    pool.cost ≤ 3 * pool.count + 3 * pool.workers.length := by
  have weights : ∀ workers : List (Worker Task), (workers.map weight).sum ≤ 3 * workers.length := by
    intro workers
    induction workers with
    | nil => exact Nat.le_refl _
    | cons worker rest hypothesis =>
        have bound : weight worker ≤ 3 := by cases worker <;> simp [weight]
        rw [List.map_cons, List.sum_cons, List.length_cons]
        omega
  exact Nat.add_le_add_left (weights pool.workers) _

omit [DecidableEq Task] in
theorem Goes.weight {current next : Worker Task} {workers others : List (Worker Task)}
    (goes : Goes current next workers others) :
    (others.map weight).sum + ThreadPool.weight current =
      (workers.map ThreadPool.weight).sum + ThreadPool.weight next := by
  obtain ⟨before, behind, rfl⟩ := goes
  simp only [List.map_append, List.map_cons, List.sum_append, List.sum_cons]
  omega

/-- The last thread leaves an empty queue behind. -/
def Attended (pool : ThreadPool Task) : Prop :=
  pool.workers.count .left < pool.workers.length ∨ pool.queue = []

section Own

variable {pool next finish : ThreadPool Task} {event : Event Task} {own : List (Event Task)}

theorem own_step (isOwn : event.own = true) (moves : Moves pool event next)
    (attended : Attended pool) :
    next.cost < pool.cost ∧ Attended next ∧ next.unposted = pool.unposted ∧
      next.exits = pool.exits := by
  cases moves with
  | push => cases isOwn
  | post => cases isOwn
  | pushExit => cases isOwn
  | spurious => cases isOwn
  | sleep worker workers current awake goes none =>
      have weights := goes.weight
      have lefts := goes.count .left
      have length := goes.length
      have stays : weight current = 1 ∧ current ≠ .left := by
        rcases awake with rfl | rfl <;> simp [weight]
      simp [stays] at lefts
      rw [stays.1, weight] at weights
      refine ⟨?_, attended.imp_left fun some => ?_, rfl, rfl⟩ <;> dsimp only [cost]
      · omega
      · omega
  | take worker workers current awake goes some =>
      have weights := goes.weight
      have lefts := goes.count .left
      have length := goes.length
      have stays : weight current = 1 ∧ current ≠ .left := by
        rcases awake with rfl | rfl <;> simp [weight]
      simp [stays] at lefts
      rw [stays.1, weight] at weights
      refine ⟨?_, attended.imp_left fun some => ?_, rfl, rfl⟩ <;> dsimp only [cost]
      · omega
      · omega
  | leave worker workers goes none =>
      have weights := goes.weight
      rw [weight, weight] at weights
      refine ⟨?_, .inr none, rfl, rfl⟩
      dsimp only [cost]
      omega
  | pop worker workers task rest goes some =>
      have weights := goes.weight
      have lefts := goes.count .left
      have length := goes.length
      simp at lefts
      rw [weight, weight] at weights
      refine ⟨?_, .inl ?_, rfl, rfl⟩ <;> dsimp only [cost]
      · omega
      · have := attended.resolve_right fun none => nomatch none.symm.trans some
        omega
  | finish worker workers task goes =>
      have weights := goes.weight
      have lefts := goes.count .left
      have length := goes.length
      simp at lefts
      rw [weight, weight] at weights
      refine ⟨?_, attended.imp_left fun some => ?_, rfl, rfl⟩ <;> dsimp only [cost]
      · omega
      · omega

theorem own_runs (runs : OwnRuns pool own finish) (attended : Attended pool) :
    own.length + finish.cost ≤ pool.cost ∧ Attended finish ∧ finish.unposted = pool.unposted ∧
      finish.exits = pool.exits := by
  refine runs.always
    (fun past now => past.length + now.cost ≤ pool.cost ∧ Attended now ∧
      now.unposted = pool.unposted ∧ now.exits = pool.exits)
    ⟨by simp, attended, rfl, rfl⟩ fun past now event next held steps => ?_
  obtain ⟨bound, attends, unposted, exits⟩ := held
  obtain ⟨less, attendsNext, unpostedNext, exitsNext⟩ :=
    own_step steps.1 (moves_of_step steps.2) attends
  refine ⟨?_, attendsNext, unpostedNext.trans unposted, exitsNext.trans exits⟩
  rw [List.length_append, List.length_singleton]
  omega

theorem runs_of_own (runs : OwnRuns pool own finish) : Runs pool own finish := by
  induction runs with
  | nil pool => exact .nil pool
  | cons first _ hypothesis => exact .cons first.2 hypothesis

theorem pushes_of_own (runs : OwnRuns pool own finish) : own.filterMap Event.pushed = [] := by
  induction runs with
  | nil pool => rfl
  | @cons _ _ _ event _ first _ hypothesis =>
      have none : event.pushed = none := by
        cases event with
        | push => exact nomatch first.1
        | _ => rfl
      rw [List.filterMap_cons_none none]
      exact hypothesis

omit [DecidableEq Task] in
theorem length_step (moves : Moves pool event next) :
    next.workers.length = pool.workers.length := by
  cases moves with
  | push => rfl
  | post _ _ _ notified =>
      rcases notified with goes | ⟨_, rfl⟩
      · exact goes.length
      · rfl
  | pushExit _ _ notified =>
      rcases notified with ⟨_, goes | ⟨_, rfl⟩⟩ | rfl
      · exact goes.length
      · rfl
      · exact List.length_map _
  | spurious _ _ goes => exact goes.length
  | sleep _ _ _ _ goes => exact goes.length
  | take _ _ _ _ goes => exact goes.length
  | leave _ _ goes => exact goes.length
  | pop _ _ _ _ goes => exact goes.length
  | finish _ _ _ goes => exact goes.length

theorem length_runs {trace : List (Event Task)} (runs : Runs pool trace finish) :
    finish.workers.length = pool.workers.length :=
  runs.always (fun _ now => now.workers.length = pool.workers.length) rfl
    fun _ _ _ _ same steps => (length_step (moves_of_step steps)).trans same

theorem worker_of_stuck (stuck : ∀ event : Event Task, event.own = true → pool.step event = none) :
    ∀ worker ∈ pool.workers, worker = .asleep ∨ worker = .left := by
  intro worker member
  obtain ⟨index, inside, rfl⟩ := List.getElem_of_mem member
  have here : pool.workers[index]? = some pool.workers[index] := List.getElem?_eq_getElem inside
  cases worker : pool.workers[index] with
  | asleep => exact .inl rfl
  | left => exact .inr rfl
  | free => exact absurd (stuck (.wait index) rfl) (by simp [step, here, worker])
  | woken => exact absurd (stuck (.wait index) rfl) (by simp [step, here, worker])
  | holding =>
      have := stuck (.pop index) rfl
      simp only [step, here, worker] at this
      split at this <;> cases this
  | running task => exact absurd (stuck (.finish index) rfl) (by simp [step, here, worker])

end Own

end ThreadPool

/-- In every run each task is queued, in the hands of one thread or executed, once; no thread
leaves before the destructor has posted for it; and a thread sleeps only while the posts are no
more than the threads that have been woken for them. -/
theorem pool_keeps_its_books {Task : Type} [DecidableEq Task] (threadNum : Nat)
    (trace : List (Event Task)) (pool : ThreadPool Task)
    (runs : ThreadPool.Runs (ThreadPool.start threadNum) trace pool) :
    (pool.executed ++ pool.workers.filterMap Worker.task ++ pool.queue).Perm
        (trace.filterMap Event.pushed) ∧
      pool.workers.count .left ≤ pool.exits ∧
      (.asleep ∈ pool.workers → pool.count ≤ pool.workers.count .woken) ∧
      pool.count + pool.workers.count .holding + pool.workers.count .left + pool.unposted =
        pool.queue.length + pool.exits := by
  obtain ⟨tokens, left, asleep, tasks⟩ := ThreadPool.books_runs runs
  exact ⟨tasks, left, fun member => asleep (List.count_pos_iff.mpr member), tokens⟩

theorem pool_keeps_its_books_woken :
    let trace : List (Event Nat) := [.wait 0, .push false 7, .post (some 0)]
    let pool : ThreadPool Nat := ⟨[7], 1, 0, 0, [.woken, .free], []⟩
    (pool.executed ++ pool.workers.filterMap Worker.task ++ pool.queue).Perm
        (trace.filterMap Event.pushed) ∧
      pool.workers.count .left ≤ pool.exits ∧
      (.asleep ∈ pool.workers → pool.count ≤ pool.workers.count .woken) ∧
      pool.count + pool.workers.count .holding + pool.workers.count .left + pool.unposted =
        pool.queue.length + pool.exits :=
  pool_keeps_its_books 2 _ _ (.cons rfl (.cons rfl (.cons rfl (.nil _))))

/-- Whatever the threads have done, when every post is made and a thread is left in the pool, its
threads take finitely many steps by themselves, and when they can take no other all the tasks are
executed, and as many threads have left as the destructor has posted for. -/
theorem pool_runs_everything {Task : Type} [DecidableEq Task] (threadNum : Nat)
    (trace : List (Event Task)) (pool : ThreadPool Task)
    (runs : ThreadPool.Runs (ThreadPool.start threadNum) trace pool) (posted : pool.unposted = 0)
    (attended : ∃ worker ∈ pool.workers, worker ≠ .left) (own : List (Event Task))
    (finish : ThreadPool Task) (ownRuns : ThreadPool.OwnRuns pool own finish) :
    own.length ≤ 3 * pool.count + 3 * threadNum ∧
      ((∀ event : Event Task, event.own = true → finish.step event = none) →
        finish.executed.Perm (trace.filterMap Event.pushed) ∧ finish.queue = [] ∧
        (∀ worker ∈ finish.workers, worker = .asleep ∨ worker = .left) ∧
        finish.workers.count .left = min pool.exits threadNum) := by
  have length : pool.workers.length = threadNum :=
    (ThreadPool.length_runs runs).trans List.length_replicate
  have some : pool.workers.count .left < pool.workers.length := by
    obtain ⟨worker, member, stays⟩ := attended
    refine Nat.lt_of_le_of_ne List.count_le_length fun all => stays ?_
    exact (List.count_eq_length.mp all worker member).symm
  obtain ⟨bound, attends, unposted, exits⟩ := ThreadPool.own_runs ownRuns (.inl some)
  have lengthFinish := ThreadPool.length_runs (ThreadPool.runs_of_own ownRuns)
  have books := ThreadPool.books_runs
    (plays_append_iff.mpr ⟨pool, runs, ThreadPool.runs_of_own ownRuns⟩)
  rw [List.filterMap_append, ThreadPool.pushes_of_own ownRuns, List.append_nil] at books
  refine ⟨by have := pool.cost_le; omega, fun stuck => ?_⟩
  have places := ThreadPool.worker_of_stuck stuck
  have holding : finish.workers.count .holding = 0 := List.count_eq_zero.mpr fun member => by
    rcases places _ member with absurd | absurd <;> cases absurd
  have woken : finish.workers.count .woken = 0 := List.count_eq_zero.mpr fun member => by
    rcases places _ member with absurd | absurd <;> cases absurd
  have tasks : finish.workers.filterMap Worker.task = [] :=
    List.filterMap_eq_nil_iff.mpr fun worker member => by
      rcases places worker member with rfl | rfl <;> rfl
  have tokens := books.tokens
  have left := books.left
  have asleep := books.asleep
  have all : finish.workers.count .left ≤ finish.workers.length := List.count_le_length
  have queue : finish.queue.length = 0 ∧ finish.workers.count .left = min pool.exits threadNum := by
    by_cases slept : 0 < finish.workers.count .asleep
    · have none := asleep slept
      omega
    · -- No thread is left to sleep, and the last one has found the queue empty.
      have everyone : finish.workers.count .left = finish.workers.length :=
        List.count_eq_length.mpr fun worker member =>
          ((places worker member).resolve_left fun sleeps =>
            slept (List.count_pos_iff.mpr (sleeps ▸ member))).symm
      have empty : finish.queue = [] := attends.resolve_left (by omega)
      have none : finish.queue.length = 0 := by rw [empty]; rfl
      omega
  have empty : finish.queue = [] := List.length_eq_zero_iff.mp queue.1
  have executed := books.tasks
  rw [tasks, empty, List.append_nil, List.append_nil] at executed
  exact ⟨executed, empty, places, queue.2⟩

theorem pool_runs_everything_closed :
    let trace : List (Event Nat) := [.wait 0, .push false 7, .post (some 0), .pushExit none]
    let pool : ThreadPool Nat := ⟨[7], 3, 0, 2, [.woken, .free], []⟩
    let own : List (Event Nat) := [.wait 0, .pop 0, .finish 0, .wait 0, .pop 0, .wait 1, .pop 1]
    let finish : ThreadPool Nat := ⟨[], 0, 0, 2, [.left, .left], [7]⟩
    own.length ≤ 3 * pool.count + 3 * 2 ∧
      ((∀ event : Event Nat, event.own = true → finish.step event = none) →
        finish.executed.Perm (trace.filterMap Event.pushed) ∧ finish.queue = [] ∧
        (∀ worker ∈ finish.workers, worker = .asleep ∨ worker = .left) ∧
        finish.workers.count .left = min pool.exits 2) := by
  intro trace pool own finish
  refine pool_runs_everything 2 trace pool ?_ rfl ⟨.woken, by simp [pool], nofun⟩ own finish ?_
  · repeat' first | exact .nil _ | refine .cons rfl ?_
  · repeat' first | exact .nil _ | refine .cons ⟨rfl, rfl⟩ ?_

end KnxDemo.WorkerPool
