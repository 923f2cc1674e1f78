import Mathlib.Data.List.Basic

/-!
# Events of a poller

The poller keeps a callback for each descriptor that the kernel watches for it,
and hands the events of a wait to the callbacks in turn. A callback may add,
delete and close descriptors, also those of events that are still to be handed
over, and a descriptor that is closed may come back for another file.
-/

namespace KnxDemo.EventLoop

abbrev Fd := Nat

/-- A call of `addEvent` that has been granted, and its callback. -/
abbrev Registration := Nat

inductive Deed where
  /-- `granted` is what the kernel answers for a descriptor that it does not watch yet. -/
  | addEvent (fd : Fd) (granted : Bool)
  | delEvent (fd : Fd)
  | close (fd : Fd)

inductive Event where
  | waited
  | added (fd : Fd) (registration : Registration)
  | deleted (fd : Fd)
  /-- The kernel forgets a descriptor that is closed while it is watched. -/
  | closed (fd : Fd) (watched : Bool)
  /-- The callback of a registration gets an event that is reported for another or the same. -/
  | called (callback : Registration) (fd : Fd) (reported : Registration)
  /-- The descriptor has been deleted since the wait. -/
  | skipped (fd : Fd) (reported : Registration)
  /-- There is no callback. -/
  | unknown (fd : Fd) (reported : Registration)
deriving DecidableEq

structure EventPoller (User : Type) where
  /-- What the kernel watches. -/
  interest : Fd → Option Registration
  eventMap : Fd → Option Registration
  eventCacheExpired : List Fd
  made : Nat
  user : User
  /-- The latest event first. -/
  history : List Event

def set (map : Fd → Option Registration) (fd : Fd) (registration : Option Registration) :
    Fd → Option Registration :=
  fun other => if other = fd then registration else map other

@[simp] theorem set_same (map : Fd → Option Registration) (fd : Fd)
    (registration : Option Registration) : set map fd registration fd = registration :=
  if_pos rfl

theorem set_other (map : Fd → Option Registration) {fd other : Fd}
    (registration : Option Registration) (different : other ≠ fd) :
    set map fd registration other = map other :=
  if_neg different

/-- A map keeps what it has. -/
def emplace (map : Fd → Option Registration) (fd : Fd) (registration : Registration) :
    Fd → Option Registration :=
  if map fd = none then set map fd (some registration) else map

theorem emplace_other (map : Fd → Option Registration) {fd other : Fd}
    (registration : Registration) (different : other ≠ fd) :
    emplace map fd registration other = map other := by
  rw [emplace]
  split
  · exact set_other map _ different
  · rfl

theorem emplace_some {map : Fd → Option Registration} {other : Fd} {kept : Registration}
    (has : map other = some kept) (fd : Fd) (registration : Registration) :
    emplace map fd registration other = some kept := by
  rw [emplace]
  split
  next none =>
    have different : other ≠ fd := fun same => by
      rw [same, none] at has
      cases has
    rw [set_other _ _ different, has]
  next => exact has

namespace EventPoller

variable {User : Type}

def start (user : User) : EventPoller User := ⟨fun _ => none, fun _ => none, [], 0, user, []⟩

def note (event : Event) (poller : EventPoller User) : EventPoller User :=
  { poller with history := event :: poller.history }

def addEvent (fd : Fd) (granted : Bool) (poller : EventPoller User) : EventPoller User :=
  match poller.interest fd, granted with
  | none, true =>
      { poller.note (.added fd poller.made) with
        interest := set poller.interest fd (some poller.made)
        eventMap := emplace poller.eventMap fd poller.made
        made := poller.made + 1 }
  | _, _ => poller

/-- The map is asked only when the kernel has watched the descriptor. -/
def delEvent (fd : Fd) (poller : EventPoller User) : EventPoller User :=
  match poller.interest fd with
  | none => poller
  | some _ =>
      let unwatched := { poller with interest := set poller.interest fd none }
      match poller.eventMap fd with
      | none => unwatched
      | some _ =>
          { unwatched.note (.deleted fd) with
            eventMap := set poller.eventMap fd none
            eventCacheExpired := fd :: poller.eventCacheExpired }

def close (fd : Fd) (poller : EventPoller User) : EventPoller User :=
  { poller.note (.closed fd (poller.interest fd).isSome) with
    interest := set poller.interest fd none }

def perform (poller : EventPoller User) : Deed → EventPoller User
  | .addEvent fd granted => poller.addEvent fd granted
  | .delEvent fd => poller.delEvent fd
  | .close fd => poller.close fd

/-- An event of a wait, of the file that the kernel has watched then. -/
structure Report where
  fd : Fd
  event : Nat
  reported : Registration

variable (behave : Registration → Nat → User → List Deed × User)

def dispatch (poller : EventPoller User) (report : Report) : EventPoller User :=
  if report.fd ∈ poller.eventCacheExpired then poller.note (.skipped report.fd report.reported)
  else
    match poller.eventMap report.fd with
    | none =>
        { poller.note (.unknown report.fd report.reported) with
          interest := set poller.interest report.fd none }
    | some callback =>
        let turn := behave callback report.event poller.user
        turn.1.foldl perform
          { poller.note (.called callback report.fd report.reported) with user := turn.2 }

structure Round where
  deeds : List Deed
  events : List (Fd × Nat)

def reports (poller : EventPoller User) (events : List (Fd × Nat)) : List Report :=
  events.filterMap fun event => (poller.interest event.1).map (Report.mk event.1 event.2)

def round (poller : EventPoller User) (round : Round) : EventPoller User :=
  let ready := round.deeds.foldl perform poller
  match ready.reports round.events with
  | [] => ready
  | first :: rest =>
      (first :: rest).foldl (dispatch behave)
        { ready.note .waited with eventCacheExpired := [] }

def runLoop (rounds : List Round) (poller : EventPoller User) : EventPoller User :=
  rounds.foldl (round behave) poller

end EventPoller

/-! ## The record of what has happened -/

def thisRound (history : List Event) : List Event := history.takeWhile fun event => event ≠ .waited

def beforeWait (history : List Event) : List Event := history.dropWhile fun event => event ≠ .waited

theorem mem_thisRound_cons {event other : Event} {past : List Event} (inside : event ≠ .waited) :
    other ∈ thisRound (event :: past) ↔ other = event ∨ other ∈ thisRound past := by
  rw [thisRound, List.takeWhile_cons_of_pos (by simpa using inside), List.mem_cons]
  rfl

theorem mem_deleted_cons {event : Event} {fd : Fd} {past : List Event} (inside : event ≠ .waited)
    (other : .deleted fd ≠ event) :
    .deleted fd ∈ thisRound (event :: past) ↔ .deleted fd ∈ thisRound past := by
  rw [mem_thisRound_cons inside]
  exact or_iff_right other

theorem beforeWait_cons {event : Event} {past : List Event} (inside : event ≠ .waited) :
    beforeWait (event :: past) = beforeWait past :=
  List.dropWhile_cons_of_pos (by simpa using inside)

/-- The registration under which the kernel watches a descriptor. -/
def registered (fd : Fd) : List Event → Option Registration
  | [] => none
  | .added other registration :: past =>
      if other = fd then some registration else registered fd past
  | .deleted other :: past => if other = fd then none else registered fd past
  | .closed other _ :: past => if other = fd then none else registered fd past
  | .waited :: past => registered fd past
  | .called _ _ _ :: past => registered fd past
  | .skipped _ _ :: past => registered fd past
  | .unknown _ _ :: past => registered fd past

/-- A descriptor has been closed while it was watched, and not been deleted since. -/
def stale (fd : Fd) : List Event → Bool
  | [] => false
  | .closed other watched :: past => (other = fd && watched) || stale fd past
  | .deleted other :: past => if other = fd then false else stale fd past
  | .waited :: past => stale fd past
  | .added _ _ :: past => stale fd past
  | .called _ _ _ :: past => stale fd past
  | .skipped _ _ :: past => stale fd past
  | .unknown _ _ :: past => stale fd past

def Event.outcome : Event → Option (Fd × Registration)
  | .waited => none
  | .added _ _ => none
  | .deleted _ => none
  | .closed _ _ => none
  | .called _ fd reported => some (fd, reported)
  | .skipped fd reported => some (fd, reported)
  | .unknown fd reported => some (fd, reported)

def Event.Follows (past : List Event) : Event → Prop
  | .waited => True
  | .added fd _ => registered fd past = none
  | .deleted fd => registered fd past ≠ none
  | .closed fd watched => watched = (registered fd past).isSome
  | .called callback fd reported =>
      registered fd (beforeWait past) = some reported ∧ .deleted fd ∉ thisRound past ∧
        (stale fd past = false → callback = reported)
  | .skipped fd reported =>
      registered fd (beforeWait past) = some reported ∧ .deleted fd ∈ thisRound past
  | .unknown _ _ => False

def Lawful : List Event → Prop
  | [] => True
  | event :: past => event.Follows past ∧ Lawful past

/-! ## The books of the poller -/

namespace EventPoller

variable {User : Type}

structure Books (poller : EventPoller User) : Prop where
  lawful : Lawful poller.history
  interest : ∀ fd, poller.interest fd = registered fd poller.history
  fresh : ∀ fd, stale fd poller.history = false → poller.eventMap fd = poller.interest fd
  stale : ∀ fd, stale fd poller.history = true → poller.eventMap fd ≠ none
  expired : ∀ fd, fd ∈ poller.eventCacheExpired ↔ .deleted fd ∈ thisRound poller.history

/-- What an event that has not been handed over can count on. -/
structure Pending (poller : EventPoller User) (report : Report) : Prop where
  registered : registered report.fd (beforeWait poller.history) = some report.reported
  watched : report.fd ∈ poller.eventCacheExpired ∨ poller.eventMap report.fd ≠ none
  fresh : stale report.fd poller.history = false → report.fd ∈ poller.eventCacheExpired ∨
    poller.eventMap report.fd = some report.reported

theorem books_start (user : User) : Books (start user) where
  lawful := trivial
  interest _ := rfl
  fresh _ _ := rfl
  stale _ some := by cases some
  expired fd := by simp [start, thisRound]

section Perform

variable {poller : EventPoller User}

theorem books_note (books : Books poller) {event : Event} (follows : event.Follows poller.history)
    (stays : ∀ fd, EventLoop.registered fd (event :: poller.history) =
        EventLoop.registered fd poller.history ∧
      EventLoop.stale fd (event :: poller.history) = EventLoop.stale fd poller.history ∧
      event ≠ .deleted fd)
    (inside : event ≠ .waited) : Books (poller.note event) where
  lawful := ⟨follows, books.lawful⟩
  interest fd := (books.interest fd).trans (stays fd).1.symm
  fresh fd fine := books.fresh fd ((stays fd).2.1.symm.trans fine)
  stale fd old := books.stale fd ((stays fd).2.1.symm.trans old)
  expired fd := by
    show fd ∈ poller.eventCacheExpired ↔ .deleted fd ∈ thisRound (event :: poller.history)
    rw [books.expired, mem_deleted_cons inside fun same => (stays fd).2.2 same.symm]

theorem books_addEvent (books : Books poller) (fd : Fd) (granted : Bool) :
    Books (poller.addEvent fd granted) := by
  unfold addEvent
  split
  next unwatched =>
    constructor
    · exact ⟨by rw [Event.Follows, ← books.interest]; exact unwatched, books.lawful⟩
    · intro other
      show set poller.interest fd _ other = EventLoop.registered other (.added fd _ :: _)
      rw [EventLoop.registered, set]
      split
      next same => rw [if_pos same.symm]
      next different =>
        rw [if_neg fun same => different same.symm]
        exact books.interest other
    · intro other fine
      show emplace poller.eventMap fd poller.made other = set poller.interest fd _ other
      by_cases same : other = fd
      · subst same
        have none : poller.eventMap other = none := (books.fresh other fine).trans unwatched
        rw [emplace, if_pos none, set_same, set_same]
      · rw [emplace_other _ _ same, set_other _ _ same]
        exact books.fresh other fine
    · intro other old
      show emplace poller.eventMap fd poller.made other ≠ none
      by_cases same : other = fd
      · subst same
        rw [emplace, if_neg (books.stale other old)]
        exact books.stale other old
      · rw [emplace_other _ _ same]
        exact books.stale other old
    · intro other
      show _ ↔ .deleted other ∈ thisRound (.added fd _ :: poller.history)
      exact (books.expired other).trans (mem_deleted_cons (by simp) (by simp)).symm
  next => exact books

theorem books_delEvent (books : Books poller) (fd : Fd) : Books (poller.delEvent fd) := by
  rw [delEvent]
  split
  · exact books
  next registration watched =>
    -- The map has a callback for whatever is watched.
    have present : poller.eventMap fd ≠ none := by
      cases state : EventLoop.stale fd poller.history with
      | true => exact books.stale fd state
      | false => rw [books.fresh fd state, watched]; simp
    dsimp only
    split
    next absent => exact absurd absent present
    next callback _ =>
      constructor
      · refine ⟨?_, books.lawful⟩
        rw [Event.Follows, ← books.interest, watched]
        simp
      · intro other
        show set poller.interest fd none other = EventLoop.registered other (.deleted fd :: _)
        rw [EventLoop.registered, set]
        split
        next same => rw [if_pos same.symm]
        next different =>
          rw [if_neg fun same => different same.symm]
          exact books.interest other
      · intro other fine
        show set poller.eventMap fd none other = set poller.interest fd none other
        by_cases same : other = fd
        · subst same
          rw [set_same, set_same]
        · rw [set_other _ _ same, set_other _ _ same]
          refine books.fresh other ?_
          rwa [note, EventLoop.stale, if_neg fun equal => same equal.symm] at fine
      · intro other old
        show set poller.eventMap fd none other ≠ none
        rw [note, EventLoop.stale] at old
        split at old
        · cases old
        next different =>
          rw [set_other _ _ fun same => different same.symm]
          exact books.stale other old
      · intro other
        show other ∈ fd :: poller.eventCacheExpired ↔
          .deleted other ∈ thisRound (.deleted fd :: poller.history)
        rw [mem_thisRound_cons (by simp), List.mem_cons, Event.deleted.injEq]
        exact or_congr_right (books.expired other)

theorem books_close (books : Books poller) (fd : Fd) : Books (poller.close fd) where
  lawful := ⟨by rw [Event.Follows, ← books.interest], books.lawful⟩
  interest other := by
    show set poller.interest fd none other = EventLoop.registered other (.closed fd _ :: _)
    rw [EventLoop.registered, set]
    split
    next same => rw [if_pos same.symm]
    next different =>
      rw [if_neg fun same => different same.symm]
      exact books.interest other
  fresh other fine := by
    show poller.eventMap other = set poller.interest fd none other
    rw [close, note, EventLoop.stale, Bool.or_eq_false_iff] at fine
    have same := books.fresh other fine.2
    by_cases this : other = fd
    · subst this
      rw [set_same, same]
      simpa using fine.1
    · rw [set_other _ _ this, same]
  stale other old := by
    show poller.eventMap other ≠ none
    cases state : EventLoop.stale other poller.history with
    | true => exact books.stale other state
    | false =>
        rw [close, note, EventLoop.stale, state, Bool.or_false, Bool.and_eq_true,
          decide_eq_true_eq] at old
        rw [books.fresh other state, ← old.1]
        exact Option.isSome_iff_ne_none.mp old.2
  expired other := by
    show _ ↔ .deleted other ∈ thisRound (.closed fd _ :: poller.history)
    exact (books.expired other).trans (mem_deleted_cons (by simp) (by simp)).symm

theorem books_perform (books : Books poller) (deed : Deed) : Books (poller.perform deed) := by
  cases deed with
  | addEvent fd granted => exact books_addEvent books fd granted
  | delEvent fd => exact books_delEvent books fd
  | close fd => exact books_close books fd

/-! ### The events to come -/

variable {report : Report}

theorem pending_note (pending : Pending poller report) {event : Event} (inside : event ≠ .waited)
    (stays : EventLoop.stale report.fd (event :: poller.history) =
      EventLoop.stale report.fd poller.history) : Pending (poller.note event) report where
  registered := by
    show EventLoop.registered _ (beforeWait (event :: poller.history)) = _
    rw [beforeWait_cons inside]
    exact pending.registered
  watched := pending.watched
  fresh fine := pending.fresh (stays.symm.trans fine)

theorem pending_addEvent (pending : Pending poller report) (fd : Fd) (granted : Bool) :
    Pending (poller.addEvent fd granted) report := by
  unfold addEvent
  split
  next =>
    have noted : Pending (poller.note (.added fd poller.made)) report :=
      pending_note pending (by simp) rfl
    refine ⟨noted.registered, ?_, fun fine => ?_⟩
    · refine pending.watched.imp_right fun some => ?_
      obtain ⟨callback, has⟩ := Option.ne_none_iff_exists'.mp some
      show emplace poller.eventMap fd poller.made report.fd ≠ none
      rw [emplace_some has]
      simp
    · exact (noted.fresh fine).imp_right fun has => emplace_some has fd poller.made
  next => exact pending

theorem pending_delEvent (pending : Pending poller report) (fd : Fd) :
    Pending (poller.delEvent fd) report := by
  rw [delEvent]
  split
  · exact pending
  · dsimp only
    split
    · exact ⟨pending.registered, pending.watched, pending.fresh⟩
    · by_cases same : report.fd = fd
      · subst same
        refine ⟨?_, .inl List.mem_cons_self, fun _ => .inl List.mem_cons_self⟩
        show EventLoop.registered _ (beforeWait (.deleted report.fd :: poller.history)) = _
        rw [beforeWait_cons (by simp)]
        exact pending.registered
      · have noted : Pending (poller.note (.deleted fd)) report :=
          pending_note pending (by simp) (if_neg fun equal => same equal.symm)
        refine ⟨noted.registered, ?_, fun fine => ?_⟩
        · refine noted.watched.imp (List.mem_cons_of_mem _) fun some => ?_
          show set poller.eventMap fd none report.fd ≠ none
          rw [set_other _ _ same]
          exact some
        · refine (noted.fresh fine).imp (List.mem_cons_of_mem _) fun has => ?_
          show set poller.eventMap fd none report.fd = some report.reported
          rw [set_other _ _ same]
          exact has

theorem pending_close (pending : Pending poller report) (fd : Fd) :
    Pending (poller.close fd) report where
  registered := by
    show EventLoop.registered _ (beforeWait (.closed fd _ :: poller.history)) = _
    rw [beforeWait_cons (by simp)]
    exact pending.registered
  watched := pending.watched
  fresh fine := by
    rw [close, note, EventLoop.stale, Bool.or_eq_false_iff] at fine
    exact pending.fresh fine.2

theorem pending_perform (pending : Pending poller report) (deed : Deed) :
    Pending (poller.perform deed) report := by
  cases deed with
  | addEvent fd granted => exact pending_addEvent pending fd granted
  | delEvent fd => exact pending_delEvent pending fd
  | close fd => exact pending_close pending fd

theorem history_perform (poller : EventPoller User) (deed : Deed) :
    ∃ fresh, (poller.perform deed).history = fresh ++ poller.history ∧
      fresh.filterMap Event.outcome = [] := by
  cases deed with
  | addEvent fd granted =>
      rw [perform]
      unfold addEvent
      split
      · exact ⟨[.added fd poller.made], rfl, rfl⟩
      · exact ⟨[], rfl, rfl⟩
  | delEvent fd =>
      rw [perform, delEvent]
      split
      · exact ⟨[], rfl, rfl⟩
      · dsimp only
        split
        · exact ⟨[], rfl, rfl⟩
        · exact ⟨[.deleted fd], rfl, rfl⟩
  | close fd => exact ⟨[.closed fd (poller.interest fd).isSome], rfl, rfl⟩

theorem performs (books : Books poller) (deeds : List Deed) :
    Books (deeds.foldl perform poller) ∧
      (∀ report, Pending poller report → Pending (deeds.foldl perform poller) report) ∧
      ∃ fresh, (deeds.foldl perform poller).history = fresh ++ poller.history ∧
        fresh.filterMap Event.outcome = [] := by
  induction deeds generalizing poller with
  | nil => exact ⟨books, fun _ pending => pending, [], rfl, rfl⟩
  | cons deed rest hypothesis =>
      obtain ⟨booksRest, pendingRest, fresh, history, none⟩ :=
        hypothesis (books_perform books deed)
      obtain ⟨first, historyFirst, noneFirst⟩ := history_perform poller deed
      refine ⟨booksRest, fun report pending => pendingRest report (pending_perform pending deed),
        fresh ++ first, ?_, ?_⟩
      · rw [List.foldl_cons, history, historyFirst, List.append_assoc]
      · rw [List.filterMap_append, none, noneFirst]
        rfl

variable (behave : Registration → Nat → User → List Deed × User)

theorem dispatch_spec (books : Books poller) (pending : Pending poller report) :
    Books (dispatch behave poller report) ∧
      (∀ other, Pending poller other → Pending (dispatch behave poller report) other) ∧
      ∃ fresh, (dispatch behave poller report).history = fresh ++ poller.history ∧
        fresh.filterMap Event.outcome = [(report.fd, report.reported)] := by
  rw [dispatch]
  split
  next expired =>
    refine ⟨books_note books ⟨pending.registered, (books.expired _).mp expired⟩
      (fun _ => ⟨rfl, rfl, by simp⟩) (by simp), fun other others =>
      pending_note others (by simp) rfl, [.skipped report.fd report.reported], rfl, rfl⟩
  next live =>
    split
    next absent => exact absurd absent (pending.watched.resolve_left live)
    next callback has =>
      have follows : (Event.called callback report.fd report.reported).Follows poller.history := by
        refine ⟨pending.registered, fun deleted => live ((books.expired _).mpr deleted),
          fun fine => ?_⟩
        have same := (pending.fresh fine).resolve_left live
        exact Option.some.inj (has.symm.trans same)
      have noted : Books (poller.note (.called callback report.fd report.reported)) :=
        books_note books follows (fun _ => ⟨rfl, rfl, by simp⟩) (by simp)
      have turned : Books { poller.note (.called callback report.fd report.reported) with
          user := (behave callback report.event poller.user).2 } :=
        ⟨noted.lawful, noted.interest, noted.fresh, noted.stale, noted.expired⟩
      obtain ⟨booksAfter, pendingAfter, fresh, history, none⟩ :=
        performs turned (behave callback report.event poller.user).1
      refine ⟨booksAfter, fun other others => pendingAfter other ?_,
        fresh ++ [.called callback report.fd report.reported], ?_, ?_⟩
      · have kept := pending_note others
          (show Event.called callback report.fd report.reported ≠ .waited by simp) rfl
        exact ⟨kept.registered, kept.watched, kept.fresh⟩
      · rw [history, List.append_assoc]
        rfl
      · rw [List.filterMap_append, none]
        rfl

theorem dispatches_spec (books : Books poller) {reports : List Report}
    (pending : ∀ report ∈ reports, Pending poller report) :
    Books (reports.foldl (dispatch behave) poller) ∧
      ∃ fresh, (reports.foldl (dispatch behave) poller).history = fresh ++ poller.history ∧
        (fresh.filterMap Event.outcome).reverse =
          reports.map fun report => (report.fd, report.reported) := by
  induction reports generalizing poller with
  | nil => exact ⟨books, [], rfl, rfl⟩
  | cons report rest hypothesis =>
      obtain ⟨booksFirst, others, first, historyFirst, outcomeFirst⟩ :=
        dispatch_spec behave books (pending report List.mem_cons_self)
      obtain ⟨booksRest, fresh, history, outcomes⟩ := hypothesis booksFirst
        fun other member => others other (pending other (List.mem_cons_of_mem _ member))
      refine ⟨booksRest, fresh ++ first, ?_, ?_⟩
      · rw [List.foldl_cons, history, historyFirst, List.append_assoc]
      · rw [List.filterMap_append, List.reverse_append, outcomeFirst, outcomes]
        rfl

theorem waits (books : Books poller) (events : List (Fd × Nat)) :
    Books { poller.note .waited with eventCacheExpired := [] } ∧
      ∀ report ∈ poller.reports events,
        Pending { poller.note .waited with eventCacheExpired := [] } report := by
  constructor
  · exact ⟨⟨trivial, books.lawful⟩, books.interest, books.fresh, books.stale,
      fun fd => by simp [note, thisRound]⟩
  · intro report member
    obtain ⟨event, -, is⟩ := List.mem_filterMap.mp member
    obtain ⟨registration, watched, rfl⟩ := Option.map_eq_some_iff.mp is
    refine ⟨?_, .inr ?_, fun fine => .inr ?_⟩
    · show EventLoop.registered _ (beforeWait (.waited :: poller.history)) = _
      rw [beforeWait, List.dropWhile_cons_of_neg (by simp)]
      exact (books.interest event.1).symm.trans watched
    · show poller.eventMap event.1 ≠ none
      cases state : EventLoop.stale event.1 poller.history with
      | true => exact books.stale _ state
      | false => rw [books.fresh _ state, watched]; simp
    · exact (books.fresh event.1 fine).trans watched

theorem round_spec (books : Books poller) (round : Round) :
    Books (poller.round behave round) ∧
      ∃ fresh, (poller.round behave round).history =
          fresh ++ (round.deeds.foldl perform poller).history ∧
        (fresh.filterMap Event.outcome).reverse =
          ((round.deeds.foldl perform poller).reports round.events).map
            fun report => (report.fd, report.reported) := by
  have ready := (performs books round.deeds).1
  rw [EventPoller.round]
  dsimp only
  split
  next none =>
    rw [none]
    exact ⟨ready, [], rfl, rfl⟩
  next first rest some =>
    obtain ⟨waited, pending⟩ := waits ready round.events
    rw [some] at pending
    obtain ⟨after, fresh, history, outcomes⟩ := dispatches_spec behave waited pending
    refine ⟨after, fresh ++ [.waited], ?_, ?_⟩
    · rw [history, List.append_assoc]
      rfl
    · rw [List.filterMap_append, some, ← outcomes]
      exact congrArg List.reverse (List.append_nil _)

theorem books_runLoop (books : Books poller) (rounds : List Round) :
    Books (poller.runLoop behave rounds) := by
  induction rounds generalizing poller with
  | nil => exact books
  | cons round rest hypothesis => exact hypothesis (round_spec behave books round).1

end Perform

end EventPoller

/-- In every run each event of a wait has one outcome, in turn: it is handed to a callback, or
skipped because its descriptor has been deleted since the wait. A callback gets it only for a
descriptor that has not been deleted since, and it is the one of the registration for which the
kernel has reported it, unless the descriptor has been closed while it was watched. -/
theorem events_reach_their_callbacks {User : Type}
    (behave : Registration → Nat → User → List Deed × User) (user : User)
    (rounds : List EventPoller.Round) (round : EventPoller.Round) :
    let before := (EventPoller.start user).runLoop behave rounds
    let ready := round.deeds.foldl EventPoller.perform before
    let after := before.round behave round
    Lawful after.history ∧
      (∀ fd, stale fd after.history = false →
        after.eventMap fd = registered fd after.history) ∧
      ∃ fresh, after.history = fresh ++ ready.history ∧
        (fresh.filterMap Event.outcome).reverse =
          round.events.filterMap fun event =>
            (registered event.1 ready.history).map fun reported => (event.1, reported) := by
  intro before ready after
  have books : EventPoller.Books before :=
    EventPoller.books_runLoop behave (EventPoller.books_start user) rounds
  obtain ⟨booksAfter, fresh, history, outcomes⟩ := EventPoller.round_spec behave books round
  refine ⟨booksAfter.lawful, fun fd fine => ?_, fresh, history, ?_⟩
  · exact (booksAfter.fresh fd fine).trans (booksAfter.interest fd)
  · rw [outcomes, EventPoller.reports, List.map_filterMap]
    have readyBooks := (EventPoller.performs books round.deeds).1
    refine List.filterMap_congr fun event _ => ?_
    rw [Option.map_map, readyBooks.interest]
    rfl

/-- A descriptor that is closed, not deleted, and comes back for another file: the first callback
gets the events of the second registration. -/
example : (((EventPoller.start ()).runLoop (fun _ _ user => ([], user))
    [⟨[.addEvent 3 true], []⟩, ⟨[.close 3, .addEvent 3 true], [(3, 1)]⟩]).history.head?) =
    some (.called 0 3 1) := by
  decide

end KnxDemo.EventLoop
