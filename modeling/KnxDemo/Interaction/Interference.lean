import Mathlib.Data.List.DropRight
import KnxDemo.Interaction.Program
import KnxDemo.Interaction.Transition

/-!
# A program among other components

A program shares a state with components that take steps of their own. A run
interleaves the requests of the program with these steps in any order, and the
history is the list of both. A guarantee is a property of each request at the
history it is made at. It is established against any interference, given what
the answers can be relied on to be.
-/

namespace KnxDemo.Interaction

/-- An event of the program or a step of another component. -/
inductive Turn (I : Interface) (Other : Type) where
  | own (event : Event I)
  | other (label : Other)

section Interference

variable {I : Interface} {Other State α β : Type}

/-- The program and the other components take turns on a shared state. -/
inductive Interleaved (answers : State → Event I → State → Prop)
    (others : State → Other → State → Prop) :
    State × Program I α → Turn I Other → State × Program I α → Prop
  | own {state next : State} {request : I.Request} {answer : I.Answer request}
      {rest : I.Answer request → Program I α} (answered : answers state ⟨request, answer⟩ next) :
      Interleaved answers others (state, .ask request rest) (.own ⟨request, answer⟩)
        (next, rest answer)
  | other {state next : State} {label : Other} {program : Program I α}
      (taken : others state label next) :
      Interleaved answers others (state, program) (.other label) (next, program)

/-! ## Guarantees -/

/-- At each of its requests the program meets the guarantee, whatever the other components do
in between, where its answers are as relied on. -/
def Program.Guarantees (rely guarantee : List (Turn I Other) → Event I → Prop) :
    Program I α → List (Turn I Other) → Prop
  | .done _, _ => True
  | .ask request next, past =>
      ∀ (others : List Other) (answer : I.Answer request),
        rely (past ++ others.map .other) ⟨request, answer⟩ →
          guarantee (past ++ others.map .other) ⟨request, answer⟩ ∧
            (next answer).Guarantees rely guarantee
              (past ++ others.map .other ++ [.own ⟨request, answer⟩])

variable {rely guarantee : List (Turn I Other) → Event I → Prop}

namespace Program

theorem Guarantees.later {program : Program I α} {past : List (Turn I Other)}
    (holds : program.Guarantees rely guarantee past) (label : Other) :
    program.Guarantees rely guarantee (past ++ [.other label]) := by
  cases program with
  | done value => trivial
  | ask request next =>
      intro others answer relied
      have moved : past ++ [.other label] ++ others.map .other =
          past ++ (label :: others).map (Turn.other (I := I)) := by simp
      rw [moved] at relied ⊢
      exact holds (label :: others) answer relied

theorem guarantees_bind {program : Program I α} {rest : α → Program I β}
    {past : List (Turn I Other)} (first : program.Guarantees rely guarantee past)
    (second : ∀ value past, (rest value).Guarantees rely guarantee past) :
    (program >>= rest).Guarantees rely guarantee past := by
  change (program.bind rest).Guarantees rely guarantee past
  induction program generalizing past with
  | done value => exact second value past
  | ask request next induction =>
      intro others answer relied
      obtain ⟨met, later⟩ := first others answer relied
      exact ⟨met, induction answer later⟩

end Program

def OnOwn (property : List (Turn I Other) → Event I → Prop) (past : List (Turn I Other)) :
    Turn I Other → Prop
  | .own event => property past event
  | .other _ => True

/-- In a run whose answers are as relied on, every request meets the guarantee. -/
theorem Plays.guaranteed {answers : State → Event I → State → Prop}
    {others : State → Other → State → Prop} {start finish : State × Program I α}
    {past trace : List (Turn I Other)}
    (plays : Plays (Interleaved answers others) start trace finish)
    (holds : start.2.Guarantees rely guarantee past) (relied : EachStep (OnOwn rely) past trace) :
    EachStep (OnOwn guarantee) past trace := by
  induction plays generalizing past with
  | nil state => trivial
  | cons first later induction =>
      obtain ⟨now, after⟩ := relied
      cases first with
      | own answered =>
          rename_i request answer rest
          have met := holds [] answer (by rwa [List.map_nil, List.append_nil])
          rw [List.map_nil, List.append_nil] at met
          exact ⟨met.1, induction met.2 after⟩
      | other taken => exact ⟨trivial, induction (holds.later _) after⟩

/-! ## What was asked last -/

def Turn.asks [DecidableEq I.Request] (request : I.Request) : Turn I Other → Bool
  | .own event => event.request = request
  | .other _ => false

def beforeLast [DecidableEq I.Request] (request : I.Request) (past : List (Turn I Other)) :
    List (Turn I Other) :=
  (past.rdropWhile fun turn => !turn.asks request).dropLast

section BeforeLast

variable [DecidableEq I.Request] (request : I.Request) (past : List (Turn I Other))

@[simp] theorem beforeLast_own (event : Event I) :
    beforeLast request (past ++ [.own event]) =
      if event.request = request then past else beforeLast request past := by
  rw [beforeLast, List.rdropWhile_concat]
  by_cases same : event.request = request
  · simp [Turn.asks, same]
  · simp [Turn.asks, same, beforeLast]

@[simp] theorem beforeLast_others (labels : List Other) :
    beforeLast request (past ++ labels.map .other) = beforeLast request past := by
  induction labels using List.reverseRecOn with
  | nil => simp
  | append_singleton labels label induction =>
      rw [List.map_append, List.map_singleton, ← List.append_assoc, beforeLast,
        List.rdropWhile_concat]
      exact induction

theorem beforeLast_prefix : beforeLast request past <+: past :=
  (List.dropLast_prefix _).trans (List.rdropWhile_prefix _ _)

end BeforeLast

end Interference

end KnxDemo.Interaction
