import Mathlib.Data.List.Basic

/-!
# Programs that ask an environment

A program is a finite tree: it either returns a result or asks one request and
continues with whatever the environment answers. Nothing is assumed about the
environment, so the runs of a program are exactly the traces of requests and
answers that follow its tree. A loop whose length the environment decides takes
a budget; a run that exhausts the budget does not complete, and statements
about completed runs hold for every budget.
-/

namespace KnxDemo.Interaction

/-- The requests a program may make, and the answers each of them admits. -/
structure Interface where
  Request : Type
  Answer : Request → Type

inductive Program (I : Interface) (Result : Type) where
  | done (result : Result)
  | ask (request : I.Request) (next : I.Answer request → Program I Result)

structure Event (I : Interface) where
  request : I.Request
  answer : I.Answer request

abbrev Trace (I : Interface) := List (Event I)

namespace Program

variable {I : Interface} {α β γ : Type}

def bind : Program I α → (α → Program I β) → Program I β
  | .done result, rest => rest result
  | .ask request next, rest => .ask request fun answer => (next answer).bind rest

instance : Monad (Program I) where
  pure := .done
  bind := .bind

def call (request : I.Request) : Program I (I.Answer request) :=
  .ask request .done

theorem bind_done (program : Program I α) : program.bind .done = program := by
  induction program with
  | done result => rfl
  | ask request next ih =>
      simp only [bind]
      congr 1
      funext answer
      exact ih answer

theorem bind_assoc (program : Program I α) (middle : α → Program I β)
    (last : β → Program I γ) :
    (program.bind middle).bind last =
      program.bind fun value => (middle value).bind last := by
  induction program with
  | done result => rfl
  | ask request next ih =>
      simp only [bind]
      congr 1
      funext answer
      exact ih answer

instance : LawfulMonad (Program I) :=
  LawfulMonad.mk' (Program I) (fun program => bind_done program) (fun _ _ => rfl)
    (fun program middle last => bind_assoc program middle last)

/-- `program.Run trace result`: asking in the order of `trace` and receiving its
answers, the program returns `result`. -/
def Run : Program I α → Trace I → α → Prop
  | .done value, trace, result => trace = [] ∧ value = result
  | .ask request next, trace, result =>
      ∃ answer rest, trace = ⟨request, answer⟩ :: rest ∧ (next answer).Run rest result

theorem run_pure (value result : α) (trace : Trace I) :
    (pure value : Program I α).Run trace result ↔ trace = [] ∧ value = result :=
  Iff.rfl

theorem run_bind (program : Program I α) (rest : α → Program I β)
    (trace : Trace I) (result : β) :
    (program >>= rest).Run trace result ↔
      ∃ value first second, trace = first ++ second ∧
        program.Run first value ∧ (rest value).Run second result := by
  change (program.bind rest).Run trace result ↔ _
  induction program generalizing trace with
  | done value => simp [bind, Run]
  | ask request next ih =>
      simp only [bind, Run, ih]
      constructor
      · intro split
        obtain ⟨answer, _, rfl, value, first, second, rfl, ran, ranRest⟩ := split
        exact ⟨value, ⟨request, answer⟩ :: first, second, rfl,
          ⟨answer, first, rfl, ran⟩, ranRest⟩
      · intro split
        obtain ⟨value, _, second, rfl, ⟨answer, first, rfl, ran⟩, ranRest⟩ := split
        exact ⟨answer, first ++ second, rfl, value, first, second, rfl, ran, ranRest⟩

/-- Follows a recorded trace through the program, returning the result and the
events that were not needed. -/
def replay [DecidableEq I.Request] : Program I α → Trace I → Option (α × Trace I)
  | .done result, trace => some (result, trace)
  | .ask _ _, [] => none
  | .ask request next, event :: rest =>
      if same : event.request = request then
        (next (same ▸ event.answer)).replay rest
      else none

theorem run_iff_replay [DecidableEq I.Request] (program : Program I α)
    (trace : Trace I) (result : α) :
    program.Run trace result ↔ program.replay trace = some (result, []) := by
  induction program generalizing trace with
  | done value => simp [Run, replay, and_comm]
  | ask request next ih =>
      cases trace with
      | nil => simp [Run, replay]
      | cons event rest =>
          obtain ⟨asked, answer⟩ := event
          by_cases same : asked = request
          · subst same
            simp only [Run, replay, dite_true, ← ih]
            constructor
            · intro later
              obtain ⟨_, _, equal, ran⟩ := later
              simp only [List.cons.injEq, Event.mk.injEq, heq_eq_eq, true_and] at equal
              obtain ⟨rfl, rfl⟩ := equal
              exact ran
            · intro ran
              exact ⟨answer, rest, rfl, ran⟩
          · simp only [Run, replay, same, dite_false, reduceCtorEq, iff_false]
            intro later
            obtain ⟨_, _, equal, _⟩ := later
            simp only [List.cons.injEq, Event.mk.injEq] at equal
            exact same equal.1.1

def follows [DecidableEq I.Request] [DecidableEq α] (program : Program I α) (trace : Trace I)
    (result : α) : Bool :=
  match program.replay trace with
  | some (value, []) => value = result
  | _ => false

theorem run_iff_follows [DecidableEq I.Request] [DecidableEq α] (program : Program I α)
    (trace : Trace I) (result : α) :
    program.Run trace result ↔ program.follows trace result = true := by
  rw [run_iff_replay, follows]
  split <;> simp_all

end Program

/-- A program whose loops carry a budget; `none` means a budget ran out. -/
abbrev Budgeted (I : Interface) (α : Type) := OptionT (Program I) α

section Budgeted

variable {I : Interface} {α β : Type}

/-- The program returns `result` on `trace` within its budget. -/
def Completes (program : Budgeted I α) (trace : Trace I) (result : α) : Prop :=
  program.run.Run trace (some result)

def ask (request : I.Request) : Budgeted I (I.Answer request) :=
  OptionT.lift (Program.call request)

theorem run_ask_bind (request : I.Request) (rest : I.Answer request → Budgeted I β)
    (trace : Trace I) (result : Option β) :
    (ask request >>= rest).run.Run trace result ↔
      ∃ answer tail, trace = ⟨request, answer⟩ :: tail ∧ (rest answer).run.Run tail result :=
  Iff.rfl

theorem run_budgeted_bind (program : Budgeted I α) (rest : α → Budgeted I β) (trace : Trace I)
    (result : Option β) :
    (program >>= rest).run.Run trace result ↔
      ∃ value first second, trace = first ++ second ∧ program.run.Run first value ∧
        match value with
        | none => second = [] ∧ none = result
        | some value => (rest value).run.Run second result := by
  rw [OptionT.run_bind, Option.elimM, Program.run_bind]
  refine exists_congr fun value => exists_congr fun first => exists_congr fun second =>
    and_congr_right fun _ => and_congr_right fun _ => ?_
  cases value with
  | none => rfl
  | some value => rfl

@[simp] theorem completes_pure (value result : α) (trace : Trace I) :
    Completes (pure value : Budgeted I α) trace result ↔ trace = [] ∧ value = result := by
  simp [Completes, Program.run_pure]

@[simp] theorem not_completes_failure (trace : Trace I) (result : α) :
    ¬ Completes (failure : Budgeted I α) trace result := by
  simp [Completes, Program.run_pure]

theorem completes_bind (program : Budgeted I α) (rest : α → Budgeted I β)
    (trace : Trace I) (result : β) :
    Completes (program >>= rest) trace result ↔
      ∃ value first second, trace = first ++ second ∧
        Completes program first value ∧ Completes (rest value) second result := by
  simp only [Completes, OptionT.run_bind, Option.elimM, Program.run_bind]
  constructor
  · intro split
    obtain ⟨value, first, second, rfl, ran, ranRest⟩ := split
    cases value with
    | none => simp [Program.run_pure] at ranRest
    | some value => exact ⟨value, first, second, rfl, ran, ranRest⟩
  · intro split
    obtain ⟨value, first, second, rfl, ran, ranRest⟩ := split
    exact ⟨some value, first, second, rfl, ran, ranRest⟩

theorem completes_ask_bind (request : I.Request)
    (rest : I.Answer request → Budgeted I β) (trace : Trace I) (result : β) :
    Completes (ask request >>= rest) trace result ↔
      ∃ answer tail, trace = ⟨request, answer⟩ :: tail ∧
        Completes (rest answer) tail result :=
  run_ask_bind request rest trace (some result)

instance [DecidableEq I.Request] [DecidableEq α] (program : Budgeted I α) (trace : Trace I)
    (result : α) : Decidable (Completes program trace result) :=
  decidable_of_iff _ (Program.run_iff_follows program.run trace (some result)).symm

end Budgeted

end KnxDemo.Interaction
