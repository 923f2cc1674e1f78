import KnxDemo.Interaction.Program

/-!
# Runs that return and runs that do not

The events of a run lie on a timeline, at the times 0, 1, 2 and so on, up to the
end of the run if it has one. A budgeted program stands for one whose loops are
not bounded: a run that returns does so within some budget, and a run that never
returns uses up arbitrarily large budgets.
-/

namespace KnxDemo.Interaction

/-- The event at each time, `none` from the end on. -/
abbrev Timeline (I : Interface) := Nat → Option (Event I)

namespace Timeline

variable {I : Interface}

def Begins (timeline : Timeline I) (events : Trace I) : Prop :=
  ∀ time (inside : time < events.length), timeline time = some events[time]

def after (timeline : Timeline I) (time : Nat) : Timeline I := fun later => timeline (time + later)

def ofTrace (events : Trace I) : Timeline I := fun time => events[time]?

theorem after_zero (timeline : Timeline I) : timeline.after 0 = timeline :=
  funext fun time => congrArg timeline (Nat.zero_add time)

theorem after_after (timeline : Timeline I) (time later : Nat) :
    (timeline.after time).after later = timeline.after (time + later) :=
  funext fun still => congrArg timeline (Nat.add_assoc time later still).symm

theorem begins_nil (timeline : Timeline I) : timeline.Begins [] :=
  fun _ inside => absurd inside (Nat.not_lt_zero _)

theorem begins_cons (timeline : Timeline I) (event : Event I) (events : Trace I) :
    timeline.Begins (event :: events) ↔
      timeline 0 = some event ∧ (timeline.after 1).Begins events := by
  constructor
  · intro begins
    refine ⟨begins 0 (Nat.zero_lt_succ _), fun time inside => ?_⟩
    have later := begins (time + 1) (Nat.succ_lt_succ inside)
    rwa [List.getElem_cons_succ, Nat.add_comm] at later
  · intro parts time inside
    obtain ⟨first, later⟩ := parts
    cases time with
    | zero => exact first
    | succ time =>
        have value := later time (Nat.lt_of_succ_lt_succ inside)
        rwa [after, Nat.add_comm] at value

theorem second_of_begins {timeline : Timeline I} {first second : Event I} {events : Trace I}
    (begins : timeline.Begins (first :: second :: events)) : timeline 1 = some second :=
  begins 1 (Nat.succ_lt_succ (Nat.zero_lt_succ _))

theorem begins_append (timeline : Timeline I) (front back : Trace I) :
    timeline.Begins (front ++ back) ↔
      timeline.Begins front ∧ (timeline.after front.length).Begins back := by
  induction front generalizing timeline with
  | nil =>
      rw [List.nil_append, List.length_nil, after_zero]
      exact ⟨fun begins => ⟨begins_nil timeline, begins⟩, fun begins => begins.2⟩
  | cons event front ih =>
      rw [List.cons_append, begins_cons, ih, begins_cons, after_after, and_assoc, List.length_cons,
        Nat.add_comm 1]

theorem begins_ofTrace_iff (events before : Trace I) :
    (ofTrace events).Begins before ↔ before <+: events :=
  List.prefix_iff_getElem?.symm

theorem ofTrace_injective : Function.Injective (ofTrace (I := I)) := by
  intro events other same
  exact List.ext_getElem? fun time => congrFun same time

theorem ofTrace_append (front back : Trace I) (time : Nat) :
    ofTrace (front ++ back) (front.length + time) = back[time]? := by
  rw [ofTrace, List.getElem?_append_right (Nat.le_add_right _ _), Nat.add_sub_cancel_left]

theorem time_of_only {front back : Trace I} {event found : Event I} {property : Event I → Prop}
    (clean : ∀ other ∈ front ++ back, ¬ property other) {time : Nat}
    (here : ofTrace (front ++ event :: back) time = some found) (has : property found) :
    time = front.length := by
  rw [ofTrace] at here
  by_cases earlier : time < front.length
  · rw [List.getElem?_append_left earlier] at here
    exact absurd has (clean found (List.mem_append_left _ (List.mem_of_getElem? here)))
  · by_cases later : front.length < time
    · rw [List.getElem?_append_right (Nat.not_lt.mp earlier),
        show time - front.length = time - front.length - 1 + 1 by omega,
        List.getElem?_cons_succ] at here
      exact absurd has (clean found (List.mem_append_right _ (List.mem_of_getElem? here)))
    · omega

theorem begins_comparable {timeline : Timeline I} {first second : Trace I}
    (begins : timeline.Begins first) (other : timeline.Begins second) :
    first <+: second ∨ second <+: first := by
  have shorter : ∀ {short long : Trace I}, timeline.Begins short → timeline.Begins long →
      short.length ≤ long.length → short <+: long := by
    intro short long beginsShort beginsLong bound
    refine List.prefix_iff_getElem?.mpr fun time inside => ?_
    rw [List.getElem?_eq_getElem (Nat.lt_of_lt_of_le inside bound), ← beginsLong time _]
    exact beginsShort time inside
  cases Nat.le_total first.length second.length with
  | inl bound => exact .inl (shorter begins other bound)
  | inr bound => exact .inr (shorter other begins bound)

end Timeline

section Runs

variable {I : Interface} {α β : Type}

/-- The answers determine a run: two runs at the start of one timeline are the same run. -/
theorem Program.run_unique (program : Program I α) {first second : Trace I} {value other : α}
    (ran : program.Run first value) (ranOther : program.Run second other)
    (comparable : first <+: second ∨ second <+: first) : first = second ∧ value = other := by
  induction program generalizing first second with
  | done result =>
      obtain ⟨empty, same⟩ := ran
      obtain ⟨otherEmpty, otherSame⟩ := ranOther
      exact ⟨empty.trans otherEmpty.symm, same.symm.trans otherSame⟩
  | ask request next ih =>
      obtain ⟨answer, rest, rfl, later⟩ := ran
      obtain ⟨otherAnswer, otherRest, rfl, otherLater⟩ := ranOther
      simp only [List.cons_prefix_cons, Event.mk.injEq, heq_eq_eq, true_and] at comparable
      have agree : answer = otherAnswer ∧ (rest <+: otherRest ∨ otherRest <+: rest) := by
        cases comparable with
        | inl shorter => exact ⟨shorter.1, .inl shorter.2⟩
        | inr longer => exact ⟨longer.1.symm, .inr longer.2⟩
      obtain ⟨rfl, comparableRest⟩ := agree
      obtain ⟨restSame, same⟩ := ih answer later otherLater comparableRest
      exact ⟨by rw [restSame], same⟩

/-- Arbitrarily large budgets are used up along the events. -/
def Endless (program : Nat → Budgeted I α) (timeline : Timeline I) : Prop :=
  ∀ least, ∃ budget, least ≤ budget ∧
    ∃ events, timeline.Begins events ∧ (program budget).run.Run events none

/-- The runs of a program whose budget stands for no bound. -/
inductive Course (program : Nat → Budgeted I α) : Timeline I → Prop
  | returned (budget : Nat) (events : Trace I) (result : α)
      (completes : Completes (program budget) events result) :
      Course program (Timeline.ofTrace events)
  | endless (events : Nat → Event I)
      (unending : Endless program fun time => some (events time)) :
      Course program fun time => some (events time)

/-! ## Budgets that are large enough -/

/-- What a run returns within some budget it returns within every large enough one. -/
def Settles (program : Nat → Budgeted I α) : Prop :=
  ∀ budget events result, Completes (program budget) events result →
    ∃ least, ∀ larger, least ≤ larger → Completes (program larger) events result

theorem settles_const (program : Budgeted I α) : Settles fun _ => program :=
  fun _ _ _ completes => ⟨0, fun _ _ => completes⟩

theorem settles_bind {program : Nat → Budgeted I α} {rest : Nat → α → Budgeted I β}
    (first : Settles program) (later : ∀ value, Settles fun budget => rest budget value) :
    Settles fun budget => program budget >>= rest budget := by
  intro budget events result completes
  obtain ⟨value, front, back, rfl, ran, ranRest⟩ := (completes_bind _ _ _ _).mp completes
  obtain ⟨leastFirst, firstRuns⟩ := first budget front value ran
  obtain ⟨leastLater, laterRuns⟩ := later value budget back result ranRest
  refine ⟨max leastFirst leastLater, fun larger enough => (completes_bind _ _ _ _).mpr ?_⟩
  exact ⟨value, front, back, rfl, firstRuns larger (Nat.le_trans (Nat.le_max_left _ _) enough),
    laterRuns larger (Nat.le_trans (Nat.le_max_right _ _) enough)⟩

/-! ## Where a run does not return -/

variable {timeline : Timeline I}

theorem not_endless_pure (value : Nat → α) :
    ¬ Endless (I := I) (fun budget => pure (value budget)) timeline := by
  intro unending
  obtain ⟨_, _, _, _, ran⟩ := unending 0
  cases ran.2

theorem not_endless_of_completes {program : Nat → Budgeted I α} {events : Trace I} {result : α}
    {least : Nat} (begins : timeline.Begins events)
    (completes : ∀ budget, least ≤ budget → Completes (program budget) events result) :
    ¬ Endless program timeline := by
  intro unending
  obtain ⟨budget, enough, other, beginsOther, ran⟩ := unending least
  obtain ⟨_, same⟩ := Program.run_unique _ (completes budget enough) ran
    (Timeline.begins_comparable begins beginsOther)
  cases same

theorem endless_ask_bind (request : I.Request) (rest : Nat → I.Answer request → Budgeted I β)
    (unending : Endless (fun budget => ask request >>= rest budget) timeline) :
    ∃ answer, timeline 0 = some ⟨request, answer⟩ ∧
      Endless (fun budget => rest budget answer) (timeline.after 1) := by
  obtain ⟨_, _, events, begins, ran⟩ := unending 0
  obtain ⟨answer, tail, rfl, _⟩ := (run_ask_bind _ _ _ _).mp ran
  have first := ((Timeline.begins_cons _ _ _).mp begins).1
  refine ⟨answer, first, fun least => ?_⟩
  obtain ⟨budget, enough, events, begins, ran⟩ := unending least
  obtain ⟨other, tail, rfl, later⟩ := (run_ask_bind _ _ _ _).mp ran
  obtain ⟨second, beginsTail⟩ := (Timeline.begins_cons _ _ _).mp begins
  have same : other = answer := by
    have equal := Option.some.inj (second.symm.trans first)
    simpa using equal
  subst same
  exact ⟨budget, enough, tail, beginsTail, later⟩

/-- A sequence that does not return stays in its first part, or in the rest from where the
first part has returned. -/
theorem endless_bind {program : Nat → Budgeted I α} {rest : Nat → α → Budgeted I β}
    (settles : Settles program)
    (unending : Endless (fun budget => program budget >>= rest budget) timeline) :
    Endless program timeline ∨
      ∃ budget events value, timeline.Begins events ∧ Completes (program budget) events value ∧
        Endless (fun budget => rest budget value) (timeline.after events.length) := by
  by_cases stays : Endless program timeline
  · exact .inl stays
  · obtain ⟨bound, leaves⟩ := not_forall.mp stays
    have returns : ∀ least, bound ≤ least → ∃ budget, least ≤ budget ∧
        ∃ value front back, timeline.Begins (front ++ back) ∧
          Completes (program budget) front value ∧ (rest budget value).run.Run back none := by
      intro least above
      obtain ⟨budget, enough, events, begins, ran⟩ := unending least
      obtain ⟨value, front, back, rfl, ranFirst, ranRest⟩ := (run_budgeted_bind _ _ _ _).mp ran
      cases value with
      | none =>
          have beginsFront := ((Timeline.begins_append _ _ _).mp begins).1
          exact absurd ⟨budget, Nat.le_trans above enough, front, beginsFront, ranFirst⟩ leaves
      | some value => exact ⟨budget, enough, value, front, back, begins, ranFirst, ranRest⟩
    obtain ⟨budget, _, value, front, _, begins, completes, _⟩ := returns bound (Nat.le_refl bound)
    have beginsFront := ((Timeline.begins_append _ _ _).mp begins).1
    obtain ⟨least, settled⟩ := settles budget front value completes
    refine .inr ⟨budget, front, value, beginsFront, completes, fun larger => ?_⟩
    obtain ⟨later, enough, other, otherFront, back, otherBegins, otherCompletes, ran⟩ :=
      returns (max larger (max least bound)) (by omega)
    obtain ⟨beginsOther, beginsBack⟩ := (Timeline.begins_append _ _ _).mp otherBegins
    obtain ⟨frontSame, valueSame⟩ := Program.run_unique _ (settled later (by omega)) otherCompletes
      (Timeline.begins_comparable beginsFront beginsOther)
    cases valueSame
    subst frontSame
    exact ⟨later, by omega, back, beginsBack, ran⟩

end Runs

end KnxDemo.Interaction
