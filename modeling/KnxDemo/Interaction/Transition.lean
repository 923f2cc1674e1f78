import KnxDemo.Interaction.Program

/-!
# Runs of a labelled transition system

A step relation over any state and event types. A run is the list of its
events; what a step keeps, a run keeps, and the property kept may speak of all
the events so far. A program and an environment run together on one trace when
the trace is a run of the program and its events are steps of the environment.
-/

namespace KnxDemo.Interaction

/-- The events of the trace, one step each, lead from the first state to the second. -/
inductive Plays {State Label : Type} (step : State → Label → State → Prop) :
    State → List Label → State → Prop
  | nil (state : State) : Plays step state [] state
  | cons {start middle finish : State} {label : Label} {rest : List Label}
      (first : step start label middle) (later : Plays step middle rest finish) :
      Plays step start (label :: rest) finish

section Plays

variable {State Label : Type} {step : State → Label → State → Prop}

theorem plays_nil_iff {start finish : State} : Plays step start [] finish ↔ start = finish := by
  constructor
  · intro plays
    cases plays
    rfl
  · intro same
    subst same
    exact .nil start

theorem plays_cons_iff {start finish : State} {label : Label} {rest : List Label} :
    Plays step start (label :: rest) finish ↔
      ∃ middle, step start label middle ∧ Plays step middle rest finish := by
  constructor
  · intro plays
    cases plays with
    | cons first later => exact ⟨_, first, later⟩
  · intro parts
    obtain ⟨middle, first, later⟩ := parts
    exact .cons first later

theorem plays_append_iff {start finish : State} {front back : List Label} :
    Plays step start (front ++ back) finish ↔
      ∃ middle, Plays step start front middle ∧ Plays step middle back finish := by
  induction front generalizing start with
  | nil => simp [plays_nil_iff]
  | cons label front induction =>
      simp only [List.cons_append, plays_cons_iff, induction]
      constructor
      · intro parts
        obtain ⟨first, stepped, middle, before, after⟩ := parts
        exact ⟨middle, ⟨first, stepped, before⟩, after⟩
      · intro parts
        obtain ⟨middle, ⟨first, stepped, before⟩, after⟩ := parts
        exact ⟨first, stepped, middle, before, after⟩

theorem exists_plays_cons {start middle : State} {label : Label} {rest : List Label}
    (first : step start label middle) (later : ∃ finish, Plays step middle rest finish) :
    ∃ finish, Plays step start (label :: rest) finish := by
  obtain ⟨finish, plays⟩ := later
  exact ⟨finish, .cons first plays⟩

theorem Plays.kept {property : List Label → State → Prop} {start finish : State}
    {past trace : List Label} (plays : Plays step start trace finish)
    (initial : property past start)
    (keeps : ∀ past state label next, property past state → step state label next →
      property (past ++ [label]) next) :
    property (past ++ trace) finish := by
  induction plays generalizing past with
  | nil state => rwa [List.append_nil]
  | cons first later induction =>
      have after := induction (keeps past _ _ _ initial first)
      rwa [List.append_assoc, List.singleton_append] at after

theorem Plays.always (property : List Label → State → Prop) {start finish : State}
    {trace : List Label} (plays : Plays step start trace finish) (initial : property [] start)
    (keeps : ∀ past state label next, property past state → step state label next →
      property (past ++ [label]) next) :
    property trace finish := by
  have held := plays.kept initial keeps
  rwa [List.nil_append] at held

/-- Every label of the trace meets the condition, which may look at all the labels before. -/
def EachStep (condition : List Label → Label → Prop) : List Label → List Label → Prop
  | _, [] => True
  | past, label :: rest => condition past label ∧ EachStep condition (past ++ [label]) rest

theorem EachStep.imp {first second result : List Label → Label → Prop}
    (together : ∀ past label, first past label → second past label → result past label)
    {past trace : List Label} (left : EachStep first past trace)
    (right : EachStep second past trace) : EachStep result past trace := by
  induction trace generalizing past with
  | nil => trivial
  | cons label rest induction =>
      exact ⟨together past label left.1 right.1, induction left.2 right.2⟩

theorem EachStep.at_label {condition : List Label → Label → Prop} {past front back : List Label}
    {label : Label} (each : EachStep condition past (front ++ label :: back)) :
    condition (past ++ front) label := by
  induction front generalizing past with
  | nil =>
      rw [List.append_nil]
      exact each.1
  | cons first front induction =>
      have later := induction each.2
      rwa [List.append_assoc, List.singleton_append] at later

/-- A property of the events so far and the state that every step keeps, and that makes every
step meet a condition, makes every run meet it. -/
theorem Plays.each {property : List Label → State → Prop} {condition : List Label → Label → Prop}
    {start finish : State} {past trace : List Label} (plays : Plays step start trace finish)
    (initial : property past start)
    (keeps : ∀ past state label next, property past state → step state label next →
      property (past ++ [label]) next)
    (meets : ∀ past state label next, property past state → step state label next →
      condition past label) :
    EachStep condition past trace := by
  induction plays generalizing past with
  | nil state => trivial
  | cons first later induction =>
      exact ⟨meets past _ _ _ initial first, induction (keeps past _ _ _ initial first)⟩

end Plays

/-- An environment that answers every request in every state has a run with every program. -/
theorem exists_played_run {I : Interface} {α State : Type}
    {step : State → Event I → State → Prop}
    (answers : ∀ state (request : I.Request), ∃ answer next, step state ⟨request, answer⟩ next)
    (program : Program I α) (start : State) :
    ∃ trace result finish, program.Run trace result ∧ Plays step start trace finish := by
  induction program generalizing start with
  | done value => exact ⟨[], value, start, ⟨rfl, rfl⟩, .nil start⟩
  | ask request next induction =>
      obtain ⟨answer, middle, stepped⟩ := answers start request
      obtain ⟨trace, result, finish, ran, played⟩ := induction answer middle
      exact ⟨⟨request, answer⟩ :: trace, result, finish, ⟨answer, trace, rfl, ran⟩,
        .cons stepped played⟩

end KnxDemo.Interaction
