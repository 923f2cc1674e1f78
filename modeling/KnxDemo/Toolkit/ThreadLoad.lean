import Mathlib.Algebra.Ring.Nat
import Mathlib.Data.List.Basic
import KnxDemo.Toolkit.DelayTasks

/-!
# The load of a thread

A thread tells its counter when it goes to sleep and when it wakes up, and the
counter keeps the length of each such stretch of time. The load is the share of
the time awake in a window that ends now and begins with a stretch.
-/

namespace KnxDemo.ThreadLoad

open KnxDemo.DelayTasks (uint64 toInt_of_small)

structure TimeRecord where
  time : Nat
  sleep : Bool

structure ThreadLoadCounter where
  sleeping : Bool
  lastSleepTime : Nat
  lastWakeTime : Nat
  maxSize : Nat
  maxUsec : Nat
  timeList : List TimeRecord

inductive Call where
  | startSleep (now : Nat)
  | sleepWakeUp (now : Nat)
  | load (now : Nat)

def minus (first second : Nat) : Nat := uint64 (first + 2 ^ 64 - second)

namespace ThreadLoadCounter

def create (now maxSize maxUsec : Nat) : ThreadLoadCounter := ⟨true, now, now, maxSize, maxUsec, []⟩

/-- `emplace_back`, and `pop_front` when the list is too long then. -/
def record (time : Nat) (sleep : Bool) (counter : ThreadLoadCounter) : ThreadLoadCounter :=
  let list := counter.timeList ++ [⟨time, sleep⟩]
  { counter with timeList := if list.length > counter.maxSize then list.tail else list }

theorem timeList_record (time : Nat) (sleep : Bool) (counter : ThreadLoadCounter) :
    (counter.record time sleep).timeList =
      if counter.timeList.length + 1 > counter.maxSize then
        (counter.timeList ++ [TimeRecord.mk time sleep]).tail
      else counter.timeList ++ [TimeRecord.mk time sleep] := by
  rw [record]
  simp only [List.length_append, List.length_singleton]

def startSleep (now : Nat) (counter : ThreadLoadCounter) : ThreadLoadCounter :=
  { counter with sleeping := true, lastSleepTime := now }.record
    (minus now counter.lastWakeTime) false

def sleepWakeUp (now : Nat) (counter : ThreadLoadCounter) : ThreadLoadCounter :=
  { counter with sleeping := false, lastWakeTime := now }.record
    (minus now counter.lastSleepTime) true

structure Totals where
  sleepTime : Nat
  runTime : Nat

def Totals.add (totals : Totals) (record : TimeRecord) : Totals :=
  if record.sleep then { totals with sleepTime := uint64 (totals.sleepTime + record.time) }
  else { totals with runTime := uint64 (totals.runTime + record.time) }

def Totals.drop (totals : Totals) (record : TimeRecord) : Totals :=
  if record.sleep then { totals with sleepTime := minus totals.sleepTime record.time }
  else { totals with runTime := minus totals.runTime record.time }

/-- The loop of `load` that shortens the list. -/
def shorten (maxUsec maxSize : Nat) :
    List TimeRecord → Totals → Nat → List TimeRecord × Totals × Nat
  | [], totals, totalTime => ([], totals, totalTime)
  | record :: rest, totals, totalTime =>
      if totalTime > maxUsec ∨ (record :: rest).length > maxSize then
        shorten maxUsec maxSize rest (totals.drop record) (minus totalTime record.time)
      else (record :: rest, totals, totalTime)

def load (now : Nat) (counter : ThreadLoadCounter) : Int × ThreadLoadCounter :=
  let listed := counter.timeList.foldl Totals.add ⟨0, 0⟩
  let totals :=
    if counter.sleeping then listed.add ⟨minus now counter.lastSleepTime, true⟩
    else listed.add ⟨minus now counter.lastWakeTime, false⟩
  let (list, totals, totalTime) := shorten counter.maxUsec counter.maxSize counter.timeList totals
    (uint64 (totals.runTime + totals.sleepTime))
  (if totalTime = 0 then 0
    else (BitVec.ofNat 32 (uint64 (totals.runTime * 100) / totalTime)).toInt,
    { counter with timeList := list })

def call (counter : ThreadLoadCounter) : Call → ThreadLoadCounter
  | .startSleep now => counter.startSleep now
  | .sleepWakeUp now => counter.sleepWakeUp now
  | .load now => (counter.load now).2

end ThreadLoadCounter

/-! ## The time that a thread is awake -/

structure Switch where
  awake : Bool
  time : Nat

/-- Whether a thread is awake at a time, with its latest switch first. Before the first one it
is. -/
def awakeAt : List Switch → Nat → Bool
  | [], _ => true
  | last :: older, time => if last.time ≤ time then last.awake else awakeAt older time

def busy (awake : Nat → Bool) (start length : Nat) : Nat :=
  (List.range' start length).countP awake

def switches : List Switch → List Call → List Switch
  | past, [] => past
  | past, .startSleep now :: rest => switches (⟨false, now⟩ :: past) rest
  | past, .sleepWakeUp now :: rest => switches (⟨true, now⟩ :: past) rest
  | past, .load _ :: rest => switches past rest

/-- A thread goes to sleep and wakes up in turn, and the clock does not run backwards. -/
def Alternates (awake : Bool) (time : Nat) : List Call → Prop
  | [] => True
  | .startSleep now :: rest => awake = true ∧ time ≤ now ∧ Alternates false now rest
  | .sleepWakeUp now :: rest => awake = false ∧ time ≤ now ∧ Alternates true now rest
  | .load now :: rest => time ≤ now ∧ Alternates awake now rest

theorem busy_add (awake : Nat → Bool) (start first second : Nat) :
    busy awake start (first + second) =
      busy awake start first + busy awake (start + first) second := by
  rw [busy, ← List.range'_append_1, List.countP_append]
  rfl

theorem busy_of_awake {awake : Nat → Bool} {start length : Nat} {state : Bool}
    (constant : ∀ time, start ≤ time → time < start + length → awake time = state) :
    busy awake start length = if state then length else 0 := by
  cases state with
  | true =>
      rw [busy, if_pos rfl, List.countP_eq_length.mpr, List.length_range']
      intro time member
      rw [List.mem_range'_1] at member
      exact constant time member.1 member.2
  | false =>
      rw [busy, if_neg (by simp), List.countP_eq_zero]
      intro time member
      rw [List.mem_range'_1] at member
      simp [constant time member.1 member.2]

/-- The stretches of a list lie side by side, from one boundary to another. -/
inductive Tiles (awake : Nat → Bool) (boundary : Nat → Prop) :
    Nat → List TimeRecord → Nat → Prop where
  | nil {start : Nat} : boundary start → Tiles awake boundary start [] start
  | cons {start finish : Nat} {record : TimeRecord} {rest : List TimeRecord} : boundary start →
      (∀ time, start ≤ time → time < start + record.time → awake time = !record.sleep) →
      Tiles awake boundary (start + record.time) rest finish →
      Tiles awake boundary start (record :: rest) finish

namespace Tiles

variable {awake other : Nat → Bool} {boundary wider : Nat → Prop} {start finish : Nat}
  {list : List TimeRecord}

theorem begins (tiles : Tiles awake boundary start list finish) : boundary start := by
  cases tiles with
  | nil here => exact here
  | cons here => exact here

theorem le (tiles : Tiles awake boundary start list finish) : start ≤ finish := by
  induction tiles with
  | nil => exact Nat.le_refl _
  | cons _ _ _ hypothesis => exact Nat.le_trans (Nat.le_add_right _ _) hypothesis

theorem congr (tiles : Tiles awake boundary start list finish)
    (same : ∀ time, time < finish → awake time = other time)
    (more : ∀ time, boundary time → wider time) : Tiles other wider start list finish := by
  induction tiles with
  | nil here => exact .nil (more _ here)
  | cons here constant rest hypothesis =>
      refine .cons (more _ here) (fun time inside before => ?_) (hypothesis same)
      rw [← same time (Nat.lt_of_lt_of_le before rest.le)]
      exact constant time inside before

theorem snoc (tiles : Tiles awake boundary start list finish) {time : Nat} {sleep : Bool}
    (constant : ∀ moment, finish ≤ moment → moment < finish + time → awake moment = !sleep)
    (ends : boundary (finish + time)) :
    Tiles awake boundary start (list ++ [⟨time, sleep⟩]) (finish + time) := by
  induction tiles with
  | nil here => exact .cons here constant (.nil ends)
  | cons here first _ hypothesis => exact .cons here first (hypothesis constant ends)

end Tiles

/-! ## The totals of a window -/

/-- The totals of what a thread does from one time to another. -/
structure Covers (awake : Nat → Bool) (start now : Nat) (totals : ThreadLoadCounter.Totals) :
    Prop where
  runTime : totals.runTime = busy awake start (now - start)
  both : totals.runTime + totals.sleepTime = now - start

namespace Covers

open ThreadLoadCounter

variable {awake : Nat → Bool} {start now : Nat} {totals : Totals}

theorem uint64_of_lt {value : Nat} (small : value < 2 ^ 64) : uint64 value = value :=
  Nat.mod_eq_of_lt small

theorem minus_of_le {first second : Nat} (small : first < 2 ^ 64) (less : second ≤ first) :
    minus first second = first - second := by
  have apart : first + 2 ^ 64 - second = first - second + 2 ^ 64 := by omega
  rw [minus, apart, uint64, Nat.add_mod_right, Nat.mod_eq_of_lt (by omega)]

theorem add (covers : Covers awake start now totals) (record : TimeRecord) (later : start ≤ now)
    (room : now + record.time < 2 ^ 64)
    (constant : ∀ time, now ≤ time → time < now + record.time → awake time = !record.sleep) :
    Covers awake start (now + record.time) (totals.add record) := by
  obtain ⟨runTime, both⟩ := covers
  have length : now + record.time - start = (now - start) + record.time := by omega
  have joins : start + (now - start) = now := by omega
  have more : busy awake start (now + record.time - start) =
      totals.runTime + if (!record.sleep) = true then record.time else 0 := by
    rw [length, busy_add, joins, ← runTime, busy_of_awake constant]
  rw [Totals.add]
  cases sleep : record.sleep with
  | true =>
      rw [if_pos rfl]
      simp only [sleep, Bool.not_true, Bool.false_eq_true, if_false] at more
      constructor <;> dsimp only
      · omega
      · rw [uint64_of_lt (by omega)]
        omega
  | false =>
      rw [if_neg (by simp)]
      simp only [sleep, Bool.not_false, if_true] at more
      constructor <;> dsimp only
      · rw [uint64_of_lt (by omega)]
        omega
      · rw [uint64_of_lt (by omega)]
        omega

theorem drop (covers : Covers awake start now totals) (record : TimeRecord) (room : now < 2 ^ 64)
    (inside : start + record.time ≤ now)
    (constant : ∀ time, start ≤ time → time < start + record.time → awake time = !record.sleep) :
    Covers awake (start + record.time) now (totals.drop record) := by
  obtain ⟨runTime, both⟩ := covers
  have length : now - start = record.time + (now - (start + record.time)) := by omega
  have parts : busy awake start (now - start) =
      (if (!record.sleep) = true then record.time else 0) +
        busy awake (start + record.time) (now - (start + record.time)) := by
    rw [length, busy_add, busy_of_awake constant]
  have all : busy awake (start + record.time) (now - (start + record.time)) ≤
      now - (start + record.time) :=
    Nat.le_trans (List.countP_le_length) (by rw [List.length_range'])
  rw [Totals.drop]
  cases sleep : record.sleep with
  | true =>
      rw [if_pos rfl]
      simp only [sleep, Bool.not_true, Bool.false_eq_true, if_false] at parts
      constructor <;> dsimp only
      · omega
      · rw [minus_of_le (by omega) (by omega)]
        omega
  | false =>
      rw [if_neg (by simp)]
      simp only [sleep, Bool.not_false, if_true] at parts
      constructor <;> dsimp only
      · rw [minus_of_le (by omega) (by omega)]
        omega
      · rw [minus_of_le (by omega) (by omega)]
        omega

theorem list {boundary : Nat → Prop} {finish : Nat} {list : List TimeRecord} {first : Nat}
    (tiles : Tiles awake boundary start list finish) (room : finish < 2 ^ 64)
    (covers : Covers awake first start totals) (later : first ≤ start) :
    Covers awake first finish (list.foldl Totals.add totals) := by
  induction tiles generalizing totals with
  | nil => exact covers
  | cons _ constant rest hypothesis =>
      have inside := rest.le
      exact hypothesis room (covers.add _ later (by omega) constant) (by omega)

end Covers

theorem times_le {awake : Bool} {time last : Nat} {calls : List Call}
    (alternates : Alternates awake time (calls ++ [.load last])) : time ≤ last := by
  induction calls generalizing awake time with
  | nil => exact alternates.1
  | cons call rest hypothesis =>
      cases call with
      | startSleep now => exact Nat.le_trans alternates.2.1 (hypothesis alternates.2.2)
      | sleepWakeUp now => exact Nat.le_trans alternates.2.1 (hypothesis alternates.2.2)
      | load now => exact Nat.le_trans alternates.1 (hypothesis alternates.2)

/-- A window that begins at a boundary is as long as it may be: it begins with the counter, or with
the oldest stretch that there is room for, or the stretch before it would make it too long. -/
def Complete (awake : Nat → Bool) (boundary : Nat → Prop) (created maxSize maxUsec now start : Nat)
    (list : List TimeRecord) : Prop :=
  start = created ∨ maxSize ≤ list.length ∨
    ∃ previous ≤ start, boundary previous ∧ maxUsec < now - previous ∧
      ∃ state, ∀ time, previous ≤ time → time < start → awake time = state

theorem Complete.later {awake other : Nat → Bool} {boundary wider : Nat → Prop}
    {created maxSize maxUsec now later start : Nat} {list : List TimeRecord}
    (complete : Complete awake boundary created maxSize maxUsec now start list)
    (passes : now ≤ later) (same : ∀ time, time < start → awake time = other time)
    (more : ∀ time, boundary time → wider time) :
    Complete other wider created maxSize maxUsec later start list := by
  rcases complete with first | full | ⟨previous, before, here, long, state, constant⟩
  · exact .inl first
  · exact .inr (.inl full)
  · refine .inr (.inr ⟨previous, before, more _ here, by omega, state, fun time inside less => ?_⟩)
    rw [← same time less]
    exact constant time inside less

namespace ThreadLoadCounter

variable {awake : Nat → Bool} {boundary : Nat → Prop} {finish now : Nat}

theorem shorten_spec (maxUsec maxSize : Nat) (list : List TimeRecord) (totals : Totals)
    {start : Nat} (tiles : Tiles awake boundary start list finish) (before : finish ≤ now)
    (room : now < 2 ^ 64) (covers : Covers awake start now totals)
    (size : list.length ≤ maxSize) :
    let short := shorten maxUsec maxSize list totals (now - start)
    ∃ later, Tiles awake boundary later short.1 finish ∧ Covers awake later now short.2.1 ∧
      short.2.2 = now - later ∧ (now - later ≤ maxUsec ∨ later = finish) ∧
      short.1.length ≤ maxSize ∧
      (later = start ∧ short.1 = list ∨
        maxUsec < now - start ∧ ∃ previous ≤ later, boundary previous ∧ maxUsec < now - previous ∧
          ∃ state, ∀ time, previous ≤ time → time < later → awake time = state) := by
  intro short
  induction list generalizing start totals with
  | nil =>
      cases tiles with
      | nil here =>
          exact ⟨_, .nil here, covers, rfl, .inr rfl, size, .inl ⟨rfl, rfl⟩⟩
  | cons record rest hypothesis =>
      cases tiles with
      | cons here constant tiles =>
          have inside := tiles.le
          by_cases long : now - start > maxUsec
          · have dropped : minus (now - start) record.time = now - (start + record.time) := by
              rw [Covers.minus_of_le (by omega) (by omega)]
              omega
            have shorter : short = shorten maxUsec maxSize rest (totals.drop record)
                (now - (start + record.time)) := by
              show shorten maxUsec maxSize (record :: rest) totals (now - start) = _
              rw [shorten, if_pos (.inl long), dropped]
            obtain ⟨later, tilesLater, coversLater, total, window, length, stretch⟩ :=
              hypothesis (totals.drop record) tiles (covers.drop record room (by omega) constant)
                (Nat.le_of_succ_le size)
            rw [← shorter] at tilesLater coversLater total length stretch
            refine ⟨later, tilesLater, coversLater, total, window, length, .inr ⟨long, ?_⟩⟩
            rcases stretch with ⟨rfl, _⟩ | ⟨_, previous⟩
            · exact ⟨start, Nat.le_add_right _ _, here, long, !record.sleep, constant⟩
            · exact previous
          · have whole : short = (record :: rest, totals, now - start) := by
              show shorten maxUsec maxSize (record :: rest) totals (now - start) = _
              rw [shorten, if_neg (by omega)]
            rw [whole]
            exact ⟨start, .cons here constant tiles, covers, rfl, .inl (Nat.not_lt.mp long), size,
              .inl ⟨rfl, rfl⟩⟩

end ThreadLoadCounter

/-! ## The books of the counter -/

def lastTime (created : Nat) : List Switch → Nat
  | [] => created
  | last :: _ => last.time

def isAwake : List Switch → Bool
  | [] => true
  | last :: _ => last.awake

def Boundary (created : Nat) (past : List Switch) (time : Nat) : Prop :=
  time = created ∨ ∃ switch ∈ past, switch.time = time

/-- What a counter knows at a time. -/
structure Books (created maxSize maxUsec : Nat) (past : List Switch) (now : Nat)
    (counter : ThreadLoadCounter) : Prop where
  sizeLimit : counter.maxSize = maxSize
  usecLimit : counter.maxUsec = maxUsec
  clock : lastTime created past ≤ now
  first : past = [] → counter.lastWakeTime = created ∧ counter.timeList = []
  state : ∀ last older, past = last :: older → counter.sleeping = !last.awake ∧
    if last.awake then counter.lastWakeTime = last.time else counter.lastSleepTime = last.time
  size : counter.timeList.length ≤ maxSize
  tiles : ∃ start,
    Tiles (awakeAt past) (Boundary created past) start counter.timeList (lastTime created past) ∧
      Complete (awakeAt past) (Boundary created past) created maxSize maxUsec now start
        counter.timeList

namespace Books

open ThreadLoadCounter

variable {created maxSize maxUsec now later : Nat} {past : List Switch}
  {counter : ThreadLoadCounter}

theorem create (created maxSize maxUsec : Nat) :
    Books created maxSize maxUsec [] created (create created maxSize maxUsec) where
  sizeLimit := rfl
  usecLimit := rfl
  clock := Nat.le_refl _
  first _ := ⟨rfl, rfl⟩
  state _ _ none := by cases none
  size := Nat.zero_le _
  tiles := ⟨created, .nil (.inl rfl), .inl rfl⟩

theorem awakeAt_before (last : Switch) {time : Nat} (before : time < last.time) :
    awakeAt past time = awakeAt (last :: past) time := by
  rw [awakeAt, if_neg (Nat.not_le.mpr before)]

theorem awakeAt_since (created : Nat) (past : List Switch) {time : Nat}
    (since : lastTime created past ≤ time) : awakeAt past time = isAwake past := by
  cases past with
  | nil => rfl
  | cons last older => rw [awakeAt, if_pos (show last.time ≤ time from since), isAwake]

theorem record (books : Books created maxSize maxUsec past now counter) (passes : now ≤ later)
    (awake : Bool) (was : isAwake past = !awake)
    (next : ThreadLoadCounter) (maxSizeNext : next.maxSize = counter.maxSize)
    (maxUsecNext : next.maxUsec = counter.maxUsec) (list : next.timeList = counter.timeList)
    (sleeping : next.sleeping = !awake)
    (times : if awake then next.lastWakeTime = later else next.lastSleepTime = later) :
    Books created maxSize maxUsec (⟨awake, later⟩ :: past) later
      (next.record (later - lastTime created past) awake) := by
  obtain ⟨start, tiles, complete⟩ := books.tiles
  have clock := books.clock
  have joins : lastTime created past + (later - lastTime created past) = later := by omega
  have same : ∀ time, time < lastTime created past →
      awakeAt past time = awakeAt (⟨awake, later⟩ :: past) time :=
    fun time before => awakeAt_before _ (show time < later by omega)
  have more : ∀ time, Boundary created past time →
      Boundary created (⟨awake, later⟩ :: past) time := by
    rintro time (first | ⟨switch, member, here⟩)
    · exact .inl first
    · exact .inr ⟨switch, List.mem_cons_of_mem _ member, here⟩
  have constant : ∀ time, lastTime created past ≤ time →
      time < lastTime created past + (later - lastTime created past) →
      awakeAt (⟨awake, later⟩ :: past) time = !awake := by
    intro time since before
    rw [← awakeAt_before _ (show time < later by omega)]
    exact (awakeAt_since created past since).trans was
  have extended := (tiles.congr same more).snoc constant
    (by rw [joins]; exact .inr ⟨_, List.mem_cons_self, rfl⟩)
  rw [joins] at extended
  have bound := books.size
  have startLe : start ≤ lastTime created past := tiles.le
  constructor
  · exact maxSizeNext.trans books.sizeLimit
  · exact maxUsecNext.trans books.usecLimit
  · exact Nat.le_refl _
  · exact fun none => nomatch none
  · rintro last older is
    cases is
    exact ⟨sleeping, times⟩
  · rw [timeList_record, maxSizeNext, books.sizeLimit, list]
    split
    · rw [List.length_tail, List.length_append, List.length_singleton]
      omega
    · rw [List.length_append, List.length_singleton]
      omega
  · rw [timeList_record, maxSizeNext, books.sizeLimit, list]
    split
    next long =>
      cases stretches : counter.timeList ++ [⟨later - lastTime created past, awake⟩] with
      | nil => simp at stretches
      | cons first rest =>
          rw [stretches] at extended
          have length : rest.length = counter.timeList.length := by
            have := congrArg List.length stretches
            simpa using this.symm
          cases extended with
          | cons _ _ restTiles =>
              exact ⟨_, restTiles, .inr (.inl (show maxSize ≤ rest.length by omega))⟩
    next short =>
      refine ⟨start, extended, ?_⟩
      have kept := complete.later passes
        (fun time before => same time (Nat.lt_of_lt_of_le before startLe)) more
      rcases kept with first | full | previous
      · exact .inl first
      · omega
      · exact .inr (.inr previous)

theorem startSleep (books : Books created maxSize maxUsec past now counter) (passes : now ≤ later)
    (room : later < 2 ^ 64) (awake : isAwake past = true) :
    Books created maxSize maxUsec (⟨false, later⟩ :: past) later (counter.startSleep later) := by
  have woken : counter.lastWakeTime = lastTime created past := by
    cases past with
    | nil => exact (books.first rfl).1
    | cons last older =>
        have times := (books.state last older rfl).2
        rwa [if_pos (show last.awake = true from awake)] at times
  have clock := books.clock
  rw [ThreadLoadCounter.startSleep, woken, Covers.minus_of_le room (by omega)]
  exact books.record passes false awake _ rfl rfl rfl rfl rfl

theorem sleepWakeUp (books : Books created maxSize maxUsec past now counter) (passes : now ≤ later)
    (room : later < 2 ^ 64) (asleep : isAwake past = false) :
    Books created maxSize maxUsec (⟨true, later⟩ :: past) later (counter.sleepWakeUp later) := by
  have slept : counter.lastSleepTime = lastTime created past := by
    cases past with
    | nil => cases asleep
    | cons last older =>
        have times := (books.state last older rfl).2
        rwa [if_neg (show ¬ last.awake = true by simpa [isAwake] using asleep)] at times
  have clock := books.clock
  rw [ThreadLoadCounter.sleepWakeUp, slept, Covers.minus_of_le room (by omega)]
  exact books.record passes true asleep _ rfl rfl rfl rfl rfl

theorem current (books : Books created maxSize maxUsec past now counter) (passes : now ≤ later)
    (room : later < 2 ^ 64) (some : past ≠ []) (totals : Totals) :
    (if counter.sleeping then totals.add ⟨minus later counter.lastSleepTime, true⟩
      else totals.add ⟨minus later counter.lastWakeTime, false⟩) =
      totals.add ⟨later - lastTime created past, !isAwake past⟩ := by
  have clock := books.clock
  cases past with
  | nil => exact absurd rfl some
  | cons last older =>
      obtain ⟨sleeping, times⟩ := books.state last older rfl
      rw [lastTime] at clock
      rw [sleeping, isAwake, lastTime]
      cases awake : last.awake with
      | true =>
          rw [awake, if_pos rfl] at times
          rw [if_neg (by simp), times, Covers.minus_of_le room (by omega)]
          rfl
      | false =>
          rw [awake, if_neg (by simp)] at times
          rw [if_pos (by simp), times, Covers.minus_of_le room (by omega)]
          rfl

theorem load (books : Books created maxSize maxUsec past now counter) (passes : now ≤ later)
    (room : later * 100 < 2 ^ 64) (some : past ≠ []) :
    Books created maxSize maxUsec past later (counter.load later).2 ∧
      ∃ start ≤ later, Boundary created past start ∧
        (counter.load later).1 =
          (busy (awakeAt past) start (later - start) * 100 / (later - start) : Nat) ∧
        (later - start ≤ maxUsec ∨ start = lastTime created past) ∧
        Complete (awakeAt past) (Boundary created past) created maxSize maxUsec later start
          (counter.load later).2.timeList := by
  obtain ⟨start, tiles, complete⟩ := books.tiles
  have clock := books.clock
  have startLe := tiles.le
  have empty : Covers (awakeAt past) start start ⟨0, 0⟩ := by
    constructor <;> simp [busy]
  have listed := Covers.list tiles (by omega) empty (Nat.le_refl _)
  have covers : Covers (awakeAt past) start
      (lastTime created past + (later - lastTime created past))
      ((counter.timeList.foldl Totals.add ⟨0, 0⟩).add
        ⟨later - lastTime created past, !isAwake past⟩) := by
    refine listed.add ⟨later - lastTime created past, !isAwake past⟩ startLe (by simp; omega)
      fun time since _ => ?_
    rw [awakeAt_since created past since, Bool.not_not]
  rw [show lastTime created past + (later - lastTime created past) = later by omega] at covers
  obtain ⟨after, tilesAfter, coversAfter, total, window, length, stretch⟩ :=
    shorten_spec maxUsec maxSize counter.timeList _ tiles (Nat.le_trans clock passes) (by omega)
      covers books.size
  have afterLe := tilesAfter.le
  have most : busy (awakeAt past) after (later - after) ≤ later - after :=
    Nat.le_trans List.countP_le_length (by rw [List.length_range'])
  have result : counter.load later =
      (if later - after = 0 then 0 else
        (BitVec.ofNat 32 (busy (awakeAt past) after (later - after) * 100 / (later - after))).toInt,
        { counter with
          timeList := (shorten maxUsec maxSize counter.timeList
            ((counter.timeList.foldl Totals.add ⟨0, 0⟩).add
              ⟨later - lastTime created past, !isAwake past⟩) (later - start)).1 }) := by
    rw [ThreadLoadCounter.load]
    dsimp only
    rw [books.current passes (by omega) some, books.usecLimit, books.sizeLimit, covers.both,
      Covers.uint64_of_lt (by omega), total, coversAfter.runTime, Covers.uint64_of_lt (by omega)]
  have share : busy (awakeAt past) after (later - after) * 100 / (later - after) ≤ 100 :=
    Nat.div_le_of_le_mul (Nat.mul_le_mul_right 100 most)
  have completeAfter : Complete (awakeAt past) (Boundary created past) created maxSize maxUsec later
      after (counter.load later).2.timeList := by
    rw [result]
    rcases stretch with ⟨rfl, same⟩ | ⟨_, previous⟩
    · dsimp only
      rw [same]
      exact complete.later passes (fun _ _ => rfl) fun _ here => here
    · exact .inr (.inr previous)
  refine ⟨?_, after, by omega, tilesAfter.begins, ?_, window, completeAfter⟩
  · rw [result] at completeAfter ⊢
    exact ⟨books.sizeLimit, books.usecLimit, Nat.le_trans clock passes,
      fun none => absurd none some, books.state, length, after, tilesAfter, completeAfter⟩
  · rw [result]
    dsimp only
    split
    next none => rw [none, Nat.div_zero]; rfl
    next => exact toInt_of_small (by omega)

/-- Before the first switch there is nothing to shorten. -/
theorem load_first (books : Books created maxSize maxUsec [] now counter) (passes : now ≤ later) :
    Books created maxSize maxUsec [] later (counter.load later).2 := by
  obtain ⟨woken, empty⟩ := books.first rfl
  obtain ⟨start, tiles, complete⟩ := books.tiles
  have same : (counter.load later).2 = counter := by
    rw [ThreadLoadCounter.load, empty]
    dsimp only [shorten]
    rw [← empty]
  rw [same]
  exact ⟨books.sizeLimit, books.usecLimit, Nat.le_trans books.clock passes, books.first,
    books.state, books.size, start, tiles,
    complete.later passes (fun _ _ => rfl) fun _ here => here⟩

theorem run (books : Books created maxSize maxUsec past now counter) (calls : List Call)
    (alternates : Alternates (isAwake past) now (calls ++ [.load later]))
    (room : later * 100 < 2 ^ 64) :
    ∃ last ≤ later, Books created maxSize maxUsec (switches past calls) last
      (calls.foldl ThreadLoadCounter.call counter) := by
  induction calls generalizing past now counter with
  | nil => exact ⟨now, alternates.1, books⟩
  | cons call rest hypothesis =>
      cases call with
      | startSleep time =>
          obtain ⟨awake, passes, restAlternates⟩ := alternates
          have before : time ≤ later := times_le restAlternates
          exact hypothesis (books.startSleep passes (by omega) awake) restAlternates
      | sleepWakeUp time =>
          obtain ⟨asleep, passes, restAlternates⟩ := alternates
          have before : time ≤ later := times_le restAlternates
          exact hypothesis (books.sleepWakeUp passes (by omega) asleep) restAlternates
      | load time =>
          obtain ⟨passes, restAlternates⟩ := alternates
          have before : time ≤ later := times_le restAlternates
          refine hypothesis ?_ restAlternates
          cases past with
          | nil => exact books.load_first passes
          | cons last older => exact (books.load passes (by omega) (List.cons_ne_nil _ _)).1

end Books

/-- In every run in which a thread goes to sleep and wakes up in turn, the load is the share of
time that it has been awake in a window that ends now. The window begins when the counter was
made or a stretch began, is not too long unless it is the stretch that is not over, and is as long
as it may be; and the list does not outgrow its size. -/
theorem load_is_share_awake (created maxSize maxUsec : Nat) (calls : List Call) (now : Nat)
    (alternates : Alternates true created (calls ++ [.load now])) (room : now * 100 < 2 ^ 64)
    (some : switches [] calls ≠ []) :
    let past := switches [] calls
    let found := (calls.foldl ThreadLoadCounter.call
      (ThreadLoadCounter.create created maxSize maxUsec)).load now
    ∃ start ≤ now, Boundary created past start ∧
      found.1 = (busy (awakeAt past) start (now - start) * 100 / (now - start) : Nat) ∧
      (now - start ≤ maxUsec ∨ start = lastTime created past) ∧
      Complete (awakeAt past) (Boundary created past) created maxSize maxUsec now start
        found.2.timeList ∧
      found.2.timeList.length ≤ maxSize := by
  intro past found
  obtain ⟨last, before, books⟩ :=
    (Books.create created maxSize maxUsec).run calls alternates room
  obtain ⟨after, start, inside, boundary, share, window, complete⟩ := books.load before room some
  exact ⟨start, inside, boundary, share, window, complete, after.size⟩

theorem load_is_share_awake_window :
    let calls : List Call := [.startSleep 10, .sleepWakeUp 40]
    let past := switches [] calls
    let found := (calls.foldl ThreadLoadCounter.call (ThreadLoadCounter.create 0 32 50)).load 60
    found.1 = 40 ∧ ∃ start ≤ 60, Boundary 0 past start ∧
      found.1 = (busy (awakeAt past) start (60 - start) * 100 / (60 - start) : Nat) ∧
      (60 - start ≤ 50 ∨ start = lastTime 0 past) ∧
      Complete (awakeAt past) (Boundary 0 past) 0 32 50 60 start found.2.timeList ∧
      found.2.timeList.length ≤ 32 :=
  ⟨by decide +kernel, load_is_share_awake 0 32 50 [.startSleep 10, .sleepWakeUp 40] 60
    (by simp [Alternates]) (by decide) (by simp [switches])⟩

end KnxDemo.ThreadLoad
