import KnxDemo.Interaction.Program

/-!
# Programs that only load from memory

The environment here is a fixed memory, so a program has one run. Besides its
result, `eval`, the list of addresses it looks at, `footprint`, is recorded in
the order of the loads. A program cannot see a cell outside its footprint:
two memories that agree there give the same result.
-/

namespace KnxDemo.Interaction

abbrev LoadInterface (Address Cell : Type) : Interface where
  Request := Address
  Answer _ := Cell

abbrev Loader (Address Cell Result : Type) := Program (LoadInterface Address Cell) Result

namespace Loader

variable {Address Cell α β : Type}

def load (address : Address) : Loader Address Cell Cell :=
  .ask address .done

def eval (memory : Address → Cell) : Loader Address Cell α → α
  | .done result => result
  | .ask address next => eval memory (next (memory address))

def footprint (memory : Address → Cell) : Loader Address Cell α → List Address
  | .done _ => []
  | .ask address next => address :: footprint memory (next (memory address))

variable (memory : Address → Cell)

@[simp] theorem eval_pure (value : α) :
    eval memory (pure value : Loader Address Cell α) = value := rfl

-- Proved by rewriting, so that simp also updates the decidability of conditions.
@[simp] theorem eval_load (address : Address) :
    eval memory (load address) = memory address := by
  rw [load, eval, eval]

@[simp] theorem eval_bind (program : Loader Address Cell α) (rest : α → Loader Address Cell β) :
    eval memory (program >>= rest) = eval memory (rest (eval memory program)) := by
  change eval memory (program.bind rest) = _
  induction program with
  | done value => rfl
  | ask address next ih => exact ih (memory address)

@[simp] theorem eval_map (program : Loader Address Cell α) (f : α → β) :
    eval memory (f <$> program) = f (eval memory program) := by
  rw [← bind_pure_comp, eval_bind, eval_pure]

@[simp] theorem eval_ite (condition : Prop) [Decidable condition]
    (yes no : Loader Address Cell α) :
    eval memory (if condition then yes else no) =
      if condition then eval memory yes else eval memory no :=
  apply_ite _ _ _ _

@[simp] theorem footprint_pure (value : α) :
    footprint memory (pure value : Loader Address Cell α) = [] := rfl

@[simp] theorem footprint_load (address : Address) :
    footprint memory (load address) = [address] := rfl

@[simp] theorem footprint_bind (program : Loader Address Cell α)
    (rest : α → Loader Address Cell β) :
    footprint memory (program >>= rest) =
      footprint memory program ++ footprint memory (rest (eval memory program)) := by
  change footprint memory (program.bind rest) = _
  induction program with
  | done value => rfl
  | ask address next ih => exact congrArg (address :: ·) (ih (memory address))

@[simp] theorem footprint_map (program : Loader Address Cell α) (f : α → β) :
    footprint memory (f <$> program) = footprint memory program := by
  rw [← bind_pure_comp, footprint_bind, footprint_pure, List.append_nil]

@[simp] theorem footprint_ite (condition : Prop) [Decidable condition]
    (yes no : Loader Address Cell α) :
    footprint memory (if condition then yes else no) =
      if condition then footprint memory yes else footprint memory no :=
  apply_ite _ _ _ _

theorem eval_congr {memory other : Address → Cell} (program : Loader Address Cell α)
    (agree : ∀ address ∈ footprint memory program, memory address = other address) :
    eval memory program = eval other program := by
  induction program with
  | done value => rfl
  | ask address next ih =>
      have here : memory address = other address := agree address (by simp [footprint])
      simp only [eval, ← here]
      exact ih _ fun later member => agree later (by simp [footprint, member])

/-- Loads the cells of the given addresses in order, as a block copy does. -/
def loadAll : List Address → Loader Address Cell (List Cell)
  | [] => pure []
  | address :: rest => do
      let cell ← load address
      let cells ← loadAll rest
      pure (cell :: cells)

@[simp] theorem eval_loadAll (addresses : List Address) :
    eval memory (loadAll addresses) = addresses.map memory := by
  induction addresses with
  | nil => rfl
  | cons address rest ih => simp [loadAll, ih]

@[simp] theorem footprint_loadAll (addresses : List Address) :
    footprint memory (loadAll addresses) = addresses := by
  induction addresses with
  | nil => rfl
  | cons address rest ih => simp [loadAll, ih]

def loadVector (place : Nat → Address) : (count : Nat) → Loader Address Cell (Vector Cell count)
  | 0 => pure #v[]
  | count + 1 => do
      let cells ← loadVector place count
      let cell ← load (place count)
      pure (cells.push cell)

@[simp] theorem eval_loadVector (place : Nat → Address) (count : Nat) :
    eval memory (loadVector place count) =
      Vector.ofFn fun index : Fin count => memory (place index) := by
  induction count with
  | zero => simp [loadVector]
  | succ count ih => simp [loadVector, ih, Vector.ofFn_succ]

@[simp] theorem footprint_loadVector (place : Nat → Address) (count : Nat) :
    footprint memory (loadVector place count) = (List.range count).map place := by
  induction count with
  | zero => rfl
  | succ count ih => simp [loadVector, ih, List.range_succ]

/-! ## Confinement -/

/-- Every load of the program is at an address of the region. -/
def Confined (region : Address → Prop) (program : Loader Address Cell α) : Prop :=
  ∀ address ∈ footprint memory program, region address

section Confined

variable {memory : Address → Cell} {region : Address → Prop}

theorem Confined.mono {wider : Address → Prop} {program : Loader Address Cell α}
    (confined : Confined memory region program)
    (subset : ∀ address, region address → wider address) : Confined memory wider program :=
  fun address member => subset address (confined address member)

theorem Confined.pure (value : α) :
    Confined memory region (Pure.pure value : Loader Address Cell α) := by
  intro address member
  rw [footprint_pure] at member
  exact absurd member List.not_mem_nil

theorem Confined.load {address : Address} (inside : region address) :
    Confined memory region (Loader.load address : Loader Address Cell Cell) := by
  intro other member
  rw [footprint_load, List.mem_singleton] at member
  rwa [member]

theorem Confined.bind {program : Loader Address Cell α} {rest : α → Loader Address Cell β}
    (first : Confined memory region program)
    (later : Confined memory region (rest (eval memory program))) :
    Confined memory region (program >>= rest) := by
  intro address member
  rw [footprint_bind, List.mem_append] at member
  cases member with
  | inl here => exact first address here
  | inr after => exact later address after

theorem Confined.load_bind {address : Address} {rest : Cell → Loader Address Cell β}
    (inside : region address) (later : Confined memory region (rest (memory address))) :
    Confined memory region (Loader.load address >>= rest) :=
  .bind (.load inside) (by rwa [eval_load])

theorem Confined.ite {condition : Prop} [Decidable condition] {yes no : Loader Address Cell α}
    (positive : condition → Confined memory region yes)
    (negative : ¬ condition → Confined memory region no) :
    Confined memory region (if condition then yes else no) := by
  split_ifs with holds
  · exact positive holds
  · exact negative holds

theorem Confined.loadVector {place : Nat → Address} {count : Nat}
    (inside : ∀ index < count, region (place index)) :
    Confined memory region (Loader.loadVector place count : Loader Address Cell _) := by
  intro address member
  rw [footprint_loadVector, List.mem_map] at member
  obtain ⟨index, below, rfl⟩ := member
  exact inside index (List.mem_range.mp below)

end Confined

end Loader

end KnxDemo.Interaction
