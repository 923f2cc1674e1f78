import Mathlib.Data.List.Nodup
import KnxDemo.Toolkit.DelayTasks

/-!
# What a poll calls and how long it waits

A poll settles the tasks that are due and no others, in the order of their
deadlines. The wait after it ends when the next task is due, unless a task
asked in the same poll for one without delay.
-/

namespace KnxDemo.DelayTasks

open KnxDemo.Interaction

/-- The task that an event calls, or would call had it not been cancelled. -/
def Event.settled : Event → Option Task
  | .entered _ _ _ => none
  | .cancelled _ => none
  | .called task _ => some task
  | .returned _ _ _ => none
  | .passed task _ => some task

/-- How an entry comes into the map during a poll. -/
inductive Origin (now : Nat) (fresh : List Event) : Nat × Task → Prop where
  | entered (task : Task) (clock delayMs : Nat) :
      .entered task clock delayMs ∈ fresh → Origin now fresh (uint64 (clock + delayMs), task)
  | returned (task : Task) (nextDelay : Nat) :
      .returned task now (some nextDelay) ∈ fresh → nextDelay ≠ 0 →
      Origin now fresh (uint64 (nextDelay + now), task)

theorem Origin.mono {now : Nat} {fresh more : List Event} {entry : Nat × Task}
    (origin : Origin now fresh entry) (included : fresh ⊆ more) : Origin now more entry := by
  cases origin with
  | entered task clock delayMs member => exact .entered task clock delayMs (included member)
  | returned task nextDelay member some => exact .returned task nextDelay (included member) some

structure Calls {User : Type} (now : Nat) (Meets : Event → Prop) (before : Poller User)
    (fresh : List Event) (after : Poller User) : Prop where
  history : after.history = fresh ++ before.history
  meets : ∀ event ∈ fresh, Meets event
  grows : ∀ entry ∈ before.delayTaskMap.entries, entry ∈ after.delayTaskMap.entries
  origin : ∀ entry ∈ after.delayTaskMap.entries,
    entry ∈ before.delayTaskMap.entries ∨ Origin now fresh entry
  kept : ∀ task clock delayMs, .entered task clock delayMs ∈ fresh →
    (uint64 (clock + delayMs), task) ∈ after.delayTaskMap.entries

namespace Calls

open Poller

variable {User : Type} {now : Nat} {Meets : Event → Prop} {before middle after : Poller User}
  {first second : List Event}

theorem refl (poller : Poller User) : Calls now Meets poller [] poller where
  history := rfl
  meets _ member := by cases member
  grows _ member := member
  origin _ member := .inl member
  kept _ _ _ member := by cases member

theorem trans (left : Calls now Meets before first middle)
    (right : Calls now Meets middle second after) :
    Calls now Meets before (second ++ first) after where
  history := by rw [right.history, left.history, List.append_assoc]
  meets event member := (List.mem_append.mp member).elim (right.meets event) (left.meets event)
  grows entry member := right.grows entry (left.grows entry member)
  origin entry member := by
    rcases right.origin entry member with earlier | origin
    · rcases left.origin entry earlier with earliest | origin
      · exact .inl earliest
      · exact .inr (origin.mono (List.subset_append_right _ _))
    · exact .inr (origin.mono (List.subset_append_left _ _))
  kept task clock delayMs member := by
    rcases List.mem_append.mp member with late | early
    · exact right.kept task clock delayMs late
    · exact right.grows _ (left.kept task clock delayMs early)

theorem note (now : Nat) {event : Event} (poller : Poller User) (met : Meets event)
    (moves : ∀ task clock delayMs, event ≠ .entered task clock delayMs) :
    Calls now Meets poller [event] (poller.note event) where
  history := rfl
  meets _ member := List.mem_singleton.mp member ▸ met
  grows _ member := member
  origin _ member := .inl member
  kept task clock delayMs member :=
    absurd (List.mem_singleton.mp member).symm (moves task clock delayMs)

theorem doDelayTask (poller : Poller User) (clock delayMs : Nat)
    (met : Meets (.entered poller.made clock delayMs)) :
    Calls now Meets poller [.entered poller.made clock delayMs]
      (poller.doDelayTask clock delayMs) where
  history := rfl
  meets _ member := List.mem_singleton.mp member ▸ met
  grows entry member := (Agenda.mem_emplace _).mpr (.inr member)
  origin entry member := by
    rcases (Agenda.mem_emplace _).mp member with rfl | earlier
    · exact .inr (.entered _ _ _ (List.mem_singleton.mpr rfl))
    · exact .inl earlier
  kept task clock delayMs member := by
    cases List.mem_singleton.mp member
    exact (Agenda.mem_emplace _).mpr (.inl rfl)

theorem performs (now : Nat) (deeds : List Deed) (poller : Poller User)
    (delays : ∀ clock delayMs, .delay clock delayMs ∈ deeds →
      ∀ task, Meets (.entered task clock delayMs))
    (cancels : ∀ task, Meets (.cancelled task)) :
    ∃ fresh, Calls now Meets poller fresh (deeds.foldl perform poller) ∧
      fresh.filterMap Event.settled = [] := by
  induction deeds generalizing poller with
  | nil => exact ⟨[], refl poller, rfl⟩
  | cons deed rest hypothesis =>
      have step : ∃ event, Calls now Meets poller [event] (poller.perform deed) ∧
          event.settled = none := by
        cases deed with
        | delay clock delayMs =>
            exact ⟨_, doDelayTask poller clock delayMs (delays _ _ List.mem_cons_self _), rfl⟩
        | cancel task =>
            have noted := note now poller (cancels task) (by simp)
            exact ⟨_, ⟨noted.history, noted.meets, noted.grows, noted.origin, noted.kept⟩, rfl⟩
      obtain ⟨event, stepCalls, unsettled⟩ := step
      obtain ⟨fresh, calls, none⟩ := hypothesis (poller.perform deed)
        fun clock delayMs member => delays clock delayMs (List.mem_cons_of_mem _ member)
      refine ⟨fresh ++ [event], stepCalls.trans calls, ?_⟩
      rw [List.filterMap_append, none]
      simp [unsettled]

theorem returned (poller : Poller User) (task : Task) (value : Option Nat)
    (met : Meets (.returned task now value)) :
    Calls now Meets poller [.returned task now value]
      (putBack task (again now value) (poller.note (.returned task now value))) := by
  have noted := note now poller met (by simp)
  cases value with
  | none => exact noted
  | some nextDelay =>
      rw [again]
      split
      · exact noted
      next positive =>
        exact {
          history := rfl
          meets := noted.meets
          grows := fun entry member => (Agenda.mem_emplace _).mpr (.inr member)
          origin := fun entry member => by
            rcases (Agenda.mem_emplace _).mp member with rfl | earlier
            · exact .inr (.returned task nextDelay (List.mem_singleton.mpr rfl) positive)
            · exact .inl earlier
          kept := fun other clock delayMs member => nomatch List.mem_singleton.mp member }

structure Admits (Meets : Event → Prop) (now : Nat) (turn : Turn) : Prop where
  delays : ∀ clock delayMs, .delay clock delayMs ∈ turn.deeds →
    ∀ task, Meets (.entered task clock delayMs)
  value : ∀ task, Meets (.returned task now turn.value)

structure OnProgram (Meets : Event → Prop) : Prop where
  cancelled : ∀ task, Meets (.cancelled task)
  called : ∀ task now, Meets (.called task now)
  passed : ∀ task now, Meets (.passed task now)

variable {behave : Task → Nat → User → Turn × User}

theorem callTask (onProgram : OnProgram Meets)
    (admits : ∀ task user, Admits Meets now (behave task now user).1) (poller : Poller User)
    (task : Task) :
    ∃ fresh, Calls now Meets poller fresh (callTask behave now poller task) ∧
      fresh.filterMap Event.settled = [task] := by
  rw [Poller.callTask]
  split
  · exact ⟨_, note now poller (onProgram.passed task now) (by simp), rfl⟩
  · have admitted := admits task poller.user
    have noted := note now poller (onProgram.called task now) (by simp)
    have called : Calls now Meets poller [.called task now]
        { poller.note (.called task now) with user := (behave task now poller.user).2 } :=
      ⟨noted.history, noted.meets, noted.grows, noted.origin, noted.kept⟩
    obtain ⟨fresh, performed, none⟩ := performs now (behave task now poller.user).1.deeds
      { poller.note (.called task now) with user := (behave task now poller.user).2 }
      admitted.delays onProgram.cancelled
    refine ⟨_, (called.trans performed).trans (returned _ task _ (admitted.value task)), ?_⟩
    rw [List.filterMap_append, List.filterMap_append, none]
    rfl

theorem callTasks (onProgram : OnProgram Meets)
    (admits : ∀ task user, Admits Meets now (behave task now user).1) (due : List (Nat × Task))
    (poller : Poller User) :
    ∃ fresh, Calls now Meets poller fresh (callTasks behave now due poller) ∧
      (fresh.filterMap Event.settled).reverse = due.map Prod.snd := by
  induction due generalizing poller with
  | nil => exact ⟨[], refl poller, rfl⟩
  | cons entry rest hypothesis =>
      obtain ⟨first, stepCalls, settled⟩ := callTask onProgram admits poller entry.2
      obtain ⟨fresh, calls, order⟩ := hypothesis (Poller.callTask behave now poller entry.2)
      refine ⟨fresh ++ first, stepCalls.trans calls, ?_⟩
      rw [List.filterMap_append, List.reverse_append, settled, order]
      rfl

end Calls

/-- What `getMinDelay` does and returns. -/
structure Polled {User : Type} (now : Nat) (Meets : Event → Prop) (before : Poller User)
    (fresh : List Event) (after : Nat × Poller User) : Prop where
  history : after.2.history = fresh ++ before.history
  meets : ∀ event ∈ fresh, Meets event
  settled : (fresh.filterMap Event.settled).reverse = (before.delayTaskMap.due now).map Prod.snd
  left : ∀ entry ∈ before.delayTaskMap.entries, now < entry.1 →
    entry ∈ after.2.delayTaskMap.entries
  origin : ∀ entry ∈ after.2.delayTaskMap.entries,
    (entry ∈ before.delayTaskMap.entries ∧ now < entry.1) ∨ Origin now fresh entry
  kept : ∀ task clock delayMs, .entered task clock delayMs ∈ fresh →
    (uint64 (clock + delayMs), task) ∈ after.2.delayTaskMap.entries
  nothing : after.2.delayTaskMap.entries = [] → after.1 = 0
  delay : ∀ first rest, after.2.delayTaskMap.entries = first :: rest → now ≤ first.1 →
    first.1 < 2 ^ 64 → after.1 = first.1 - now

namespace Polled

open Poller

variable {User : Type} {now : Nat} {Meets : Event → Prop}

theorem idle {poller : Poller User} {delay : Nat}
    (later : ∀ entry ∈ poller.delayTaskMap.entries, now < entry.1)
    (nothing : poller.delayTaskMap.entries = [] → delay = 0)
    (first : ∀ first rest, poller.delayTaskMap.entries = first :: rest → delay = first.1 - now) :
    Polled now Meets poller [] (delay, poller) where
  history := rfl
  meets _ member := by cases member
  settled := by
    have none : poller.delayTaskMap.due now = [] := by
      refine List.eq_nil_iff_forall_not_mem.mpr fun entry member => ?_
      obtain ⟨inMap, early⟩ := (Agenda.mem_due _).mp member
      exact absurd (later entry inMap) (Nat.not_lt.mpr early)
    rw [none]
    rfl
  left _ member _ := member
  origin entry member := .inl ⟨member, later entry member⟩
  kept _ _ _ member := by cases member
  nothing := nothing
  delay one rest entries _ _ := first one rest entries

theorem uint64_sub {first : Nat} (notEarlier : now ≤ first) (bound : first < 2 ^ 64) :
    uint64 (first + 2 ^ 64 - now) = first - now := by
  have apart : first + 2 ^ 64 - now = (first - now) + 2 ^ 64 := by omega
  rw [apart, uint64, Nat.add_mod_right, Nat.mod_eq_of_lt (by omega)]

variable (behave : Task → Nat → User → Turn × User)

theorem flushDelayTask (onProgram : Calls.OnProgram Meets)
    (admits : ∀ task user, Calls.Admits Meets now (behave task now user).1)
    (poller : Poller User) :
    ∃ fresh, Polled now Meets poller fresh (flushDelayTask behave now poller) := by
  obtain ⟨fresh, calls, settled⟩ := Calls.callTasks onProgram admits
    (poller.delayTaskMap.due now) { poller with delayTaskMap := Agenda.empty }
  refine ⟨fresh, ?_⟩
  have map : (Poller.flushDelayTask behave now poller).2.delayTaskMap =
      (poller.delayTaskMap.later now).insert
        (callTasks behave now (poller.delayTaskMap.due now)
          { poller with delayTaskMap := Agenda.empty }).delayTaskMap.entries := by
    rw [Poller.flushDelayTask]
    split <;> rfl
  have later : ∀ entry, entry ∈ (poller.delayTaskMap.later now).entries ↔
      entry ∈ poller.delayTaskMap.entries ∧ now < entry.1 := by
    intro entry
    constructor
    · intro member
      exact ⟨(List.dropWhile_sublist _).subset member, Agenda.lt_of_mem_later _ member⟩
    · rintro ⟨member, late⟩
      rw [← poller.delayTaskMap.due_append_later now, List.mem_append] at member
      exact member.resolve_left fun early =>
        absurd (Agenda.le_of_mem_due _ early) (Nat.not_le.mpr late)
  exact {
    history := by
      rw [Poller.flushDelayTask]
      split <;> exact calls.history
    meets := calls.meets
    settled := settled
    left := fun entry member late => by
      rw [map]
      exact (Agenda.mem_insert _).mpr (.inr ((later entry).mpr ⟨member, late⟩))
    origin := fun entry member => by
      rw [map] at member
      rcases (Agenda.mem_insert _).mp member with called | earlier
      · exact .inr ((calls.origin entry called).resolve_left fun absent => List.not_mem_nil absent)
      · exact .inl ((later entry).mp earlier)
    kept := fun task clock delayMs member => by
      rw [map]
      exact (Agenda.mem_insert _).mpr (.inl (calls.kept task clock delayMs member))
    nothing := fun none => by
      rw [map] at none
      rw [Poller.flushDelayTask]
      split
      next => rfl
      next first rest some => exact absurd (some.symm.trans none) (List.cons_ne_nil _ _)
    delay := fun first rest entries notEarlier bound => by
      rw [map] at entries
      rw [Poller.flushDelayTask]
      split
      next none => exact absurd (entries.symm.trans none) (List.cons_ne_nil _ _)
      next other others some =>
        cases some.symm.trans entries
        exact uint64_sub notEarlier bound }

theorem getMinDelay (onProgram : Calls.OnProgram Meets)
    (admits : ∀ task user, Calls.Admits Meets now (behave task now user).1)
    (poller : Poller User) :
    ∃ fresh, Polled now Meets poller fresh (getMinDelay behave now poller) := by
  rw [Poller.getMinDelay]
  split
  next none =>
    refine ⟨[], idle ?_ (fun _ => rfl) fun _ _ some => ?_⟩
    · rw [none]
      exact List.forall_mem_nil _
    · exact absurd (some.symm.trans none) (List.cons_ne_nil _ _)
  next first rest entries =>
    split
    next early =>
      refine ⟨[], idle (fun entry member => ?_) (fun none => ?_) ?_⟩
      · exact early.trans_le (poller.delayTaskMap.le_of_first entries member)
      · exact absurd (entries.symm.trans none) (List.cons_ne_nil _ _)
      · intro other others same
        cases entries.symm.trans same
        rfl
    · exact flushDelayTask behave onProgram admits poller

end Polled

/-! ## What a poll settles -/

/-- After any run a poll settles, once each and in the order of their deadlines, the tasks that
wait under a deadline that is not after the time it reads. A task that waits after it and should
have been called has been entered in the same poll, or its deadline has no room in 64 bits. -/
theorem poll_settles_the_due {User : Type} (behave : Task → Nat → User → Turn × User)
    (user : User) (rounds : List Poller.Round) (round : Poller.Round) :
    let before := round.deeds.foldl Poller.perform
      ((Poller.start user).runLoop behave rounds)
    let after := (((Poller.start user).runLoop behave rounds).poll behave round).1
    ∃ fresh, after.history = fresh ++ before.history ∧
      (∀ task, task ∈ fresh.filterMap Event.settled ↔
        ∃ deadline ≤ round.now, standing task before.history = some deadline) ∧
      (fresh.filterMap Event.settled).Nodup ∧
      ((fresh.filterMap Event.settled).reverse.Pairwise fun early late =>
        ∀ first ∈ standing early before.history, ∀ second ∈ standing late before.history,
          first ≤ second) ∧
      ∀ task, ∀ deadline ∈ standing task after.history, deadline ≤ round.now →
        (∃ clock delayMs, .entered task clock delayMs ∈ fresh) ∨
          ∃ nextDelay, .returned task round.now (some nextDelay) ∈ fresh ∧
            2 ^ 64 ≤ nextDelay + round.now := by
  intro before after
  have books : Books before [] none :=
    ((Books.start user).runLoop behave rounds).performs round.deeds
  have afterBooks : Books after [] none :=
    ((Books.start user).runLoop behave rounds).poll behave round
  have anything : Calls.OnProgram fun _ => True :=
    ⟨fun _ => trivial, fun _ _ => trivial, fun _ _ => trivial⟩
  obtain ⟨fresh, polled⟩ := Polled.getMinDelay behave anything
    (fun task user => (⟨fun _ _ _ _ => trivial, fun _ => trivial⟩ :
      Calls.Admits (fun _ => True) round.now (behave task round.now user).1)) before
  have dueStanding : ∀ task deadline, (deadline, task) ∈ before.delayTaskMap.due round.now ↔
      deadline ≤ round.now ∧ standing task before.history = some deadline := by
    intro task deadline
    rw [Agenda.mem_due, and_comm, ← books.standing]
    rfl
  have unique : ((before.delayTaskMap.due round.now).map Prod.snd).Nodup :=
    books.once.sublist ((List.takeWhile_sublist _).map _)
  refine ⟨fresh, polled.history, fun task => ?_, ?_, ?_, fun task deadline waits isDue => ?_⟩
  · rw [← List.mem_reverse, polled.settled, List.mem_map]
    constructor
    · rintro ⟨⟨deadline, task⟩, member, rfl⟩
      exact ⟨deadline, (dueStanding task deadline).mp member⟩
    · rintro ⟨deadline, isDue, waits⟩
      exact ⟨(deadline, task), (dueStanding task deadline).mpr ⟨isDue, waits⟩, rfl⟩
  · rw [← List.nodup_reverse, polled.settled]
    exact unique
  · rw [polled.settled, List.pairwise_map]
    refine (before.delayTaskMap.due_sorted round.now).imp_of_mem
      fun {early late} earlyDue lateDue order first firstWaits second secondWaits => ?_
    have earlyWaits := ((dueStanding early.2 early.1).mp earlyDue).2
    have lateWaits := ((dueStanding late.2 late.1).mp lateDue).2
    cases earlyWaits.symm.trans firstWaits
    cases lateWaits.symm.trans secondWaits
    exact order
  · rcases polled.origin (deadline, task) ((afterBooks.standing task deadline).mpr waits) with
      ⟨_, late⟩ | origin
    · exact absurd late (Nat.not_lt.mpr isDue)
    · cases origin with
      | entered _ clock delayMs member => exact .inl ⟨clock, delayMs, member⟩
      | returned _ nextDelay member positive =>
          refine .inr ⟨nextDelay, member, Nat.not_lt.mp fun room => ?_⟩
          rw [uint64, Nat.mod_eq_of_lt room] at isDue
          omega

/-! ## How long the poller waits -/

/-- A task entered in a poll at `now` is asked for at a clock not before `now` and due less than
`2 ^ 31` milliseconds after it. -/
def Event.Timely (now : Nat) : Event → Prop
  | .entered _ clock delayMs => now ≤ clock ∧ clock + delayMs < now + 2 ^ 31
  | .cancelled _ => True
  | .called _ _ => True
  | .returned _ _ value => ∀ nextDelay ∈ value, nextDelay < 2 ^ 31
  | .passed _ _ => True

def Turn.Timely (now : Nat) (turn : Turn) : Prop :=
  (∀ clock delayMs, .delay clock delayMs ∈ turn.deeds →
    now ≤ clock ∧ clock + delayMs < now + 2 ^ 31) ∧
    ∀ nextDelay ∈ turn.value, nextDelay < 2 ^ 31

/-- The polls read times that do not run backwards and stay `2 ^ 31` away from the end of 64
bits, and what is entered before a poll waits for less than `2 ^ 31`. -/
def Timely (time : Nat) : List Poller.Round → Prop
  | [] => True
  | round :: rest =>
      time ≤ round.now ∧ round.now + 2 ^ 31 ≤ 2 ^ 64 ∧
        (∀ clock delayMs, .delay clock delayMs ∈ round.deeds →
          clock ≤ round.now ∧ delayMs < 2 ^ 31) ∧
        Timely round.now rest

namespace Poller

variable {User : Type}

def Bounded (limit : Nat) (poller : Poller User) : Prop :=
  ∀ entry ∈ poller.delayTaskMap.entries, entry.1 < limit

variable {behave : Task → Nat → User → Turn × User} {poller : Poller User} {now : Nat}

theorem bounded_performs {deeds : List Deed} (bounded : poller.Bounded (now + 2 ^ 31))
    (delays : ∀ clock delayMs, .delay clock delayMs ∈ deeds → clock ≤ now ∧ delayMs < 2 ^ 31) :
    (deeds.foldl perform poller).Bounded (now + 2 ^ 31) := by
  induction deeds generalizing poller with
  | nil => exact bounded
  | cons deed rest hypothesis =>
      refine hypothesis ?_ fun clock delayMs member =>
        delays clock delayMs (List.mem_cons_of_mem _ member)
      cases deed with
      | cancel task => exact bounded
      | delay clock delayMs =>
          intro entry member
          rcases (Agenda.mem_emplace _).mp member with rfl | earlier
          · have := delays clock delayMs List.mem_cons_self
            have room : uint64 (clock + delayMs) ≤ clock + delayMs := Nat.mod_le _ _
            show uint64 (clock + delayMs) < now + 2 ^ 31
            omega
          · exact bounded entry earlier

theorem bounds_of_polled {fresh : List Event} {after : Nat × Poller User}
    (polled : Polled now (Event.Timely now) poller fresh after)
    (bounded : poller.Bounded (now + 2 ^ 31)) (room : now + 2 ^ 31 ≤ 2 ^ 64) :
    ∀ entry ∈ after.2.delayTaskMap.entries, entry.1 < now + 2 ^ 31 ∧ now ≤ entry.1 ∧
      (entry.1 = now → ∃ task, .entered task now 0 ∈ fresh) := by
  intro entry member
  rcases polled.origin entry member with ⟨earlier, late⟩ | origin
  · exact ⟨bounded entry earlier, late.le, fun same => absurd same (Nat.ne_of_gt late)⟩
  · cases origin with
    | entered task clock delayMs entered =>
        obtain ⟨notEarlier, bound⟩ := polled.meets _ entered
        have deadline : uint64 (clock + delayMs) = clock + delayMs :=
          Nat.mod_eq_of_lt (bound.trans_le room)
        rw [deadline]
        refine ⟨bound, by omega, fun same => ⟨task, ?_⟩⟩
        have clockNow : clock = now := by omega
        have noDelay : delayMs = 0 := by omega
        rwa [clockNow, noDelay] at entered
    | returned task nextDelay returned positive =>
        have bound : nextDelay < 2 ^ 31 := polled.meets _ returned nextDelay rfl
        have deadline : uint64 (nextDelay + now) = nextDelay + now :=
          Nat.mod_eq_of_lt (by omega)
        rw [deadline]
        exact ⟨by omega, by omega, fun same => by omega⟩

theorem polled_of_timely (timely : ∀ task now user, (behave task now user).1.Timely now)
    (poller : Poller User) (now : Nat) :
    ∃ fresh, Polled now (Event.Timely now) poller fresh (getMinDelay behave now poller) :=
  Polled.getMinDelay behave ⟨fun _ => trivial, fun _ _ => trivial, fun _ _ => trivial⟩
    (fun task user => ⟨fun clock delayMs member _ => (timely task now user).1 clock delayMs member,
      fun _ => (timely task now user).2⟩) poller

theorem bounded_runLoop (poller : Poller User)
    (timely : ∀ task now user, (behave task now user).1.Timely now)
    {rounds : List Round} {last : Round} {time : Nat} (bounded : poller.Bounded (time + 2 ^ 31))
    (times : Timely time (rounds ++ [last])) :
    ((poller.runLoop behave rounds).Bounded (last.now + 2 ^ 31)) ∧ Timely 0 [last] := by
  induction rounds generalizing poller time with
  | nil =>
      obtain ⟨notEarlier, room, delays, _⟩ := times
      exact ⟨fun entry member => (bounded entry member).trans_le (by omega),
        Nat.zero_le _, room, delays, trivial⟩
  | cons round rest hypothesis =>
      obtain ⟨notEarlier, room, delays, restTimes⟩ := times
      have roundBounded : poller.Bounded (round.now + 2 ^ 31) :=
        fun entry member => (bounded entry member).trans_le (by omega)
      obtain ⟨fresh, polled⟩ :=
        polled_of_timely timely (round.deeds.foldl perform poller) round.now
      exact hypothesis _
        (fun entry member =>
          (bounds_of_polled polled (bounded_performs roundBounded delays) room entry member).1)
        restTimes

theorem timeout_of_small {delay : Nat} (positive : delay ≠ 0) (small : delay < 2 ^ 31) :
    timeout delay = delay := by
  rw [timeout, if_neg positive, toInt_of_small small]

end Poller

/-- As long as every task is due less than `2 ^ 31` milliseconds after the time its poll reads,
the wait after a poll has no end exactly when no task waits or a task has been entered in this
poll at its time and without delay. A wait that ends does so when the next task is due. -/
theorem poller_sleeps_until_due {User : Type} (behave : Task → Nat → User → Turn × User)
    (timely : ∀ task now user, (behave task now user).1.Timely now) (user : User)
    (rounds : List Poller.Round) (round : Poller.Round) (times : Timely 0 (rounds ++ [round])) :
    let before := round.deeds.foldl Poller.perform ((Poller.start user).runLoop behave rounds)
    let polled := ((Poller.start user).runLoop behave rounds).poll behave round
    ∃ fresh, polled.1.history = fresh ++ before.history ∧
      (polled.2 < 0 ↔ (∀ task, standing task polled.1.history = none) ∨
        ∃ task, .entered task round.now 0 ∈ fresh) ∧
      (0 ≤ polled.2 → 0 < polled.2 ∧
        (∃ task, ∃ deadline ∈ standing task polled.1.history,
          (deadline : Int) = round.now + polled.2) ∧
        ∀ task, ∀ deadline ∈ standing task polled.1.history,
          round.now + polled.2 ≤ (deadline : Int)) := by
  intro before polled
  have books : Books polled.1 [] none :=
    ((Books.start user).runLoop behave rounds).poll behave round
  obtain ⟨bounded, _, room, delays, _⟩ :=
    Poller.bounded_runLoop (Poller.start user) timely (fun _ member => by cases member)
      times
  obtain ⟨fresh, polls⟩ := Poller.polled_of_timely timely before round.now
  have bounds := Poller.bounds_of_polled polls (Poller.bounded_performs bounded delays) room
  have wait : polled.2 = Poller.timeout (Poller.getMinDelay behave round.now before).1 := rfl
  have standings : ∀ task deadline, (deadline, task) ∈ polled.1.delayTaskMap.entries ↔
      standing task polled.1.history = some deadline := books.standing
  refine ⟨fresh, polls.history, ?_⟩
  cases entries : polled.1.delayTaskMap.entries with
  | nil =>
      have none : ∀ task, standing task polled.1.history = none := fun task =>
        Option.eq_none_iff_forall_ne_some.mpr fun deadline waits => by
          have := (standings task deadline).mpr waits
          rw [entries] at this
          cases this
      have endless : polled.2 = -1 := by rw [wait, polls.nothing entries]; rfl
      exact ⟨⟨fun _ => .inl none, fun _ => by omega⟩, fun ends => absurd ends (by omega)⟩
  | cons first rest =>
      have firstIn : first ∈ polled.1.delayTaskMap.entries :=
        entries ▸ List.mem_cons_self
      obtain ⟨near, notPast, entered⟩ := bounds first firstIn
      have delay := polls.delay first rest entries notPast (near.trans_le room)
      have firstWaits : standing first.2 polled.1.history = some first.1 :=
        (standings first.2 first.1).mp firstIn
      have least : ∀ task, ∀ deadline ∈ standing task polled.1.history, first.1 ≤ deadline :=
        fun task deadline waits =>
          Agenda.le_of_first _ entries ((standings task deadline).mpr waits)
      by_cases now : first.1 = round.now
      · have endless : polled.2 = -1 := by rw [wait, delay, now, Nat.sub_self]; rfl
        exact ⟨⟨fun _ => .inr (entered now), fun _ => by omega⟩,
          fun ends => absurd ends (by omega)⟩
      · have length : polled.2 = (first.1 - round.now : Nat) := by
          rw [wait, delay, Poller.timeout_of_small (by omega) (by omega)]
        refine ⟨⟨fun endless => absurd endless (by omega), ?_⟩, fun _ => ⟨by omega,
          ⟨first.2, first.1, firstWaits, by omega⟩, fun task deadline waits => ?_⟩⟩
        · rintro (none | ⟨task, enteredNow⟩)
          · exact nomatch (none first.2).symm.trans firstWaits
          · have kept := polls.kept task round.now 0 enteredNow
            have deadline : uint64 (round.now + 0) = round.now := Nat.mod_eq_of_lt (by omega)
            have := least task round.now ((standings _ _).mp (deadline ▸ kept))
            omega
        · have := least task deadline waits
          omega

/-- A task that delays another one by nothing while the clock stands still leaves the poller
waiting without end, although the other task is due. -/
theorem poller_sleeps_until_due_stalled :
    let behave : Task → Nat → Unit → Turn × Unit := fun task now user =>
      (⟨if task = 0 then [.delay now 0] else [], none⟩, user)
    let polled := ((Poller.start ()).runLoop behave []).poll behave ⟨[.delay 0 10], 10⟩
    polled.2 = -1 ∧ standing 1 polled.1.history = some 10 ∧
      ∃ fresh, polled.1.history = fresh ++ [.entered 0 0 10] ∧
        (polled.2 < 0 ↔ (∀ task, standing task polled.1.history = none) ∨
          ∃ task, .entered task 10 0 ∈ fresh) ∧
        (0 ≤ polled.2 → 0 < polled.2 ∧
          (∃ task, ∃ deadline ∈ standing task polled.1.history,
            (deadline : Int) = (10 : Nat) + polled.2) ∧
          ∀ task, ∀ deadline ∈ standing task polled.1.history,
            (10 : Nat) + polled.2 ≤ (deadline : Int)) := by
  refine ⟨by decide +kernel, by decide +kernel, poller_sleeps_until_due _
    (fun task now user => ⟨fun clock delayMs member => ?_, fun _ some => by cases some⟩) () []
    ⟨[.delay 0 10], 10⟩ ⟨Nat.zero_le _, by decide, by simp, trivial⟩⟩
  by_cases first : task = 0 <;> simp_all

end KnxDemo.DelayTasks
