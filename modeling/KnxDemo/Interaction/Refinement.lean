import Mathlib.Data.List.Basic

/-!
# Objects and what they implement

An object answers operations one after the other and moves from state to state.
It implements an abstract object on the calls it is allowed when, from related
states, both answer alike and move to related states.
-/

namespace KnxDemo.Interaction

/-- How an object answers an operation. -/
abbrev Object (State Operation Answer : Type) := State → Operation → State × Answer

section Refinement

variable {State Abstract Operation Answer : Type}

namespace Object

def answers (object : Object State Operation Answer) (state : State) :
    List Operation → List Answer
  | [] => []
  | operation :: rest =>
      (object state operation).2 :: object.answers (object state operation).1 rest

def after (object : Object State Operation Answer) (state : State) (operations : List Operation) :
    State :=
  operations.foldl (fun state operation => (object state operation).1) state

def Allowed (object : Object State Operation Answer) (allowed : State → Operation → Prop)
    (state : State) : List Operation → Prop
  | [] => True
  | operation :: rest =>
      allowed state operation ∧ object.Allowed allowed (object state operation).1 rest

/-- Related states answer an allowed operation alike and stay related. -/
def Implements (object : Object State Operation Answer)
    (abstract : Object Abstract Operation Answer) (relation : State → Abstract → Prop)
    (allowed : State → Operation → Prop) : Prop :=
  ∀ state spec operation, relation state spec → allowed state operation →
    (object state operation).2 = (abstract spec operation).2 ∧
      relation (object state operation).1 (abstract spec operation).1

variable {object : Object State Operation Answer} {abstract : Object Abstract Operation Answer}
  {relation : State → Abstract → Prop} {allowed : State → Operation → Prop}

theorem Implements.run (implements : object.Implements abstract relation allowed)
    {state : State} {spec : Abstract} (related : relation state spec)
    {operations : List Operation} (all : object.Allowed allowed state operations) :
    object.answers state operations = abstract.answers spec operations ∧
      relation (object.after state operations) (abstract.after spec operations) := by
  induction operations generalizing state spec with
  | nil => exact ⟨rfl, related⟩
  | cons operation rest induction =>
      obtain ⟨now, later⟩ := all
      obtain ⟨alike, next⟩ := implements state spec operation related now
      obtain ⟨answers, last⟩ := induction next later
      exact ⟨congrArg₂ List.cons alike answers, last⟩

theorem Allowed.and {always : Operation → Prop} {state : State} {operations : List Operation}
    (all : object.Allowed allowed state operations)
    (every : ∀ operation ∈ operations, always operation) :
    object.Allowed (fun state operation => allowed state operation ∧ always operation) state
      operations := by
  induction operations generalizing state with
  | nil => trivial
  | cons operation rest induction =>
      constructor
      · exact ⟨all.1, every operation List.mem_cons_self⟩
      · exact induction all.2 (fun later inside => every later (List.mem_cons_of_mem _ inside))

theorem kept {invariant : State → Prop}
    (keeps : ∀ state operation, invariant state → allowed state operation →
      invariant (object state operation).1)
    {state : State} (initial : invariant state) {operations : List Operation}
    (all : object.Allowed allowed state operations) :
    invariant (object.after state operations) := by
  induction operations generalizing state with
  | nil => exact initial
  | cons operation rest induction =>
      exact induction (keeps state operation initial all.1) all.2

end Object

end Refinement

end KnxDemo.Interaction
