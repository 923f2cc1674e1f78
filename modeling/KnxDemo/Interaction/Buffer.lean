import Mathlib.Data.List.Basic
import Mathlib.Logic.Function.Basic

/-!
# Output buffers

A buffer is a memory together with its extent, one past the highest cell that
has been stored so far. The memory keeps whatever it held before wherever
nothing was stored, so a generator that skips or only half overwrites a cell
shows in the result. A run of stores that amounts to one block is rewritten to
that block.
-/

namespace KnxDemo.Interaction

structure Buffer (Cell : Type) where
  memory : Nat → Cell
  extent : Nat

namespace Buffer

variable {Cell : Type}

/-- A buffer nothing has been stored to yet. -/
def fresh (memory : Nat → Cell) : Buffer Cell := ⟨memory, 0⟩

def store (buffer : Buffer Cell) (offset : Nat) (cell : Cell) : Buffer Cell where
  memory := Function.update buffer.memory offset cell
  extent := max buffer.extent (offset + 1)

def storeBlock (buffer : Buffer Cell) (offset : Nat) : List Cell → Buffer Cell
  | [] => buffer
  | cell :: cells => (buffer.store offset cell).storeBlock (offset + 1) cells

@[simp] theorem memory_fresh (memory : Nat → Cell) : (fresh memory).memory = memory := rfl

@[simp] theorem extent_fresh (memory : Nat → Cell) : (fresh memory).extent = 0 := rfl

theorem memory_store (buffer : Buffer Cell) (offset index : Nat) (cell : Cell) :
    (buffer.store offset cell).memory index =
      if index = offset then cell else buffer.memory index := by
  simp [store, Function.update_apply]

@[ext] theorem ext {left right : Buffer Cell}
    (memory : ∀ index, left.memory index = right.memory index)
    (extent : left.extent = right.extent) : left = right := by
  cases left
  cases right
  simp_all [funext_iff]

theorem memory_storeBlock (buffer : Buffer Cell) (offset index : Nat) (cells : List Cell) :
    (buffer.storeBlock offset cells).memory index =
      if offset ≤ index then cells[index - offset]?.getD (buffer.memory index)
      else buffer.memory index := by
  induction cells generalizing buffer offset with
  | nil => simp [storeBlock]
  | cons cell cells ih =>
      rw [storeBlock, ih]
      by_cases here : index = offset
      · subst here
        rw [if_neg (by omega)]
        simp [memory_store]
      · by_cases later : offset + 1 ≤ index
        · have step : index - offset = index - (offset + 1) + 1 := by omega
          simp [memory_store, here, later, step, show offset ≤ index by omega]
        · simp [memory_store, here, later, show ¬ offset ≤ index by omega]

theorem memory_storeBlock_inside (buffer : Buffer Cell) (offset index : Nat)
    (cells : List Cell) (inside : index < cells.length) :
    (buffer.storeBlock offset cells).memory (offset + index) = cells[index] := by
  simp [memory_storeBlock, inside]

theorem memory_storeBlock_outside (buffer : Buffer Cell) (offset index : Nat)
    (cells : List Cell) (outside : index < offset ∨ offset + cells.length ≤ index) :
    (buffer.storeBlock offset cells).memory index = buffer.memory index := by
  rw [memory_storeBlock]
  split_ifs with later
  · rw [List.getElem?_eq_none (by omega)]
    rfl
  · rfl

theorem extent_storeBlock (buffer : Buffer Cell) (offset : Nat) (cells : List Cell) :
    (buffer.storeBlock offset cells).extent =
      if cells = [] then buffer.extent else max buffer.extent (offset + cells.length) := by
  induction cells generalizing buffer offset with
  | nil => simp [storeBlock]
  | cons cell cells ih =>
      rw [storeBlock, ih]
      simp only [store, reduceCtorEq, if_false, List.length_cons]
      split_ifs with last
      · simp [last]
      · omega

theorem storeBlock_append (buffer : Buffer Cell) (offset : Nat) (front back : List Cell) :
    buffer.storeBlock offset (front ++ back) =
      (buffer.storeBlock offset front).storeBlock (offset + front.length) back := by
  induction front generalizing buffer offset with
  | nil => rfl
  | cons cell front ih =>
      simp only [List.cons_append, storeBlock, ih, List.length_cons]
      congr 1
      omega

theorem store_storeBlock (buffer : Buffer Cell) (offset index : Nat) (cells : List Cell)
    (cell : Cell) (inside : index < cells.length) :
    (buffer.storeBlock offset cells).store (offset + index) cell =
      buffer.storeBlock offset (cells.set index cell) := by
  ext position
  · rw [memory_store, memory_storeBlock, memory_storeBlock]
    by_cases here : position = offset + index
    · subst here
      simp [inside]
    · rw [if_neg here]
      split_ifs with later
      · rw [List.getElem?_set_ne (by omega)]
      · rfl
  · have nonempty : cells ≠ [] := by
      rintro rfl
      simp at inside
    simp only [store, extent_storeBlock, nonempty, if_false, List.set_eq_nil_iff,
      List.length_set]
    omega

theorem store_storeBlock_first (buffer : Buffer Cell) (offset : Nat) (first cell : Cell)
    (cells : List Cell) :
    (buffer.storeBlock offset (first :: cells)).store offset cell =
      buffer.storeBlock offset (cell :: cells) :=
  store_storeBlock buffer offset 0 (first :: cells) cell (by simp)

theorem store_storeBlock_second (buffer : Buffer Cell) (offset : Nat) (first second cell : Cell)
    (cells : List Cell) :
    (buffer.storeBlock offset (first :: second :: cells)).store (offset + 1) cell =
      buffer.storeBlock offset (first :: cell :: cells) :=
  store_storeBlock buffer offset 1 (first :: second :: cells) cell (by simp)

theorem memory_storeBlock_first (buffer : Buffer Cell) (offset : Nat) (first : Cell)
    (cells : List Cell) : (buffer.storeBlock offset (first :: cells)).memory offset = first :=
  memory_storeBlock_inside buffer offset 0 (first :: cells) (by simp)

theorem memory_storeBlock_second (buffer : Buffer Cell) (offset : Nat) (first second : Cell)
    (cells : List Cell) :
    (buffer.storeBlock offset (first :: second :: cells)).memory (offset + 1) = second :=
  memory_storeBlock_inside buffer offset 1 (first :: second :: cells) (by simp)

/-- The cells `[offset, offset + count)` of a memory. -/
def contents (memory : Nat → Cell) (offset count : Nat) : List Cell :=
  (List.range count).map fun index => memory (offset + index)

@[simp] theorem length_contents (memory : Nat → Cell) (offset count : Nat) :
    (contents memory offset count).length = count := by
  simp [contents]

/-- The memory holds the given cells from `offset` on. -/
def Holds (memory : Nat → Cell) (offset : Nat) : List Cell → Prop
  | [] => True
  | cell :: cells => memory offset = cell ∧ Holds memory (offset + 1) cells

@[simp] theorem holds_nil (memory : Nat → Cell) (offset : Nat) : Holds memory offset [] :=
  trivial

@[simp] theorem holds_cons (memory : Nat → Cell) (offset : Nat) (cell : Cell)
    (cells : List Cell) :
    Holds memory offset (cell :: cells) ↔
      memory offset = cell ∧ Holds memory (offset + 1) cells :=
  Iff.rfl

theorem holds_append (memory : Nat → Cell) (offset : Nat) (front back : List Cell) :
    Holds memory offset (front ++ back) ↔
      Holds memory offset front ∧ Holds memory (offset + front.length) back := by
  induction front generalizing offset with
  | nil => simp
  | cons cell front ih =>
      have shift : offset + 1 + front.length = offset + (front.length + 1) := by omega
      simp [ih, and_assoc, shift]

theorem holds_iff_getElem (memory : Nat → Cell) (offset : Nat) (cells : List Cell) :
    Holds memory offset cells ↔
      ∀ index (inside : index < cells.length), memory (offset + index) = cells[index] := by
  induction cells generalizing offset with
  | nil => simp
  | cons cell cells ih =>
      rw [holds_cons, ih]
      constructor
      · intro held index inside
        obtain ⟨first, later⟩ := held
        cases index with
        | zero => exact first
        | succ index =>
            have value := later index (by simpa using inside)
            rwa [show offset + 1 + index = offset + (index + 1) by omega] at value
      · intro all
        refine ⟨all 0 (by simp), fun index inside => ?_⟩
        have value := all (index + 1) (by simpa using inside)
        rwa [show offset + (index + 1) = offset + 1 + index by omega] at value

theorem holds_storeBlock (buffer : Buffer Cell) (offset : Nat) (cells : List Cell) :
    Holds (buffer.storeBlock offset cells).memory offset cells :=
  (holds_iff_getElem _ _ _).mpr fun index inside =>
    memory_storeBlock_inside buffer offset index cells inside

theorem holds_iff_contents (memory : Nat → Cell) (offset : Nat) (cells : List Cell) :
    Holds memory offset cells ↔ contents memory offset cells.length = cells := by
  rw [holds_iff_getElem]
  constructor
  · intro all
    refine List.ext_getElem (length_contents _ _ _) fun index _ inside => ?_
    simpa [contents] using all index inside
  · intro equal index inside
    rw [← List.getElem_of_eq equal (by simpa using inside)]
    simp [contents]

theorem holds_storeBlock_zero_iff (buffer : Buffer Cell) (block cells : List Cell) :
    Holds (buffer.storeBlock 0 block).memory 0 cells ↔
      block.take cells.length <+: cells ∧
        ∀ index (inside : index < cells.length), block.length ≤ index →
          buffer.memory index = cells[index] := by
  rw [holds_iff_getElem]
  constructor
  · intro all
    constructor
    · rw [List.prefix_iff_getElem]
      refine ⟨List.length_take_le _ _, fun index within => ?_⟩
      rw [List.length_take] at within
      have value := all index (by omega)
      rw [memory_storeBlock_inside _ _ _ _ (by omega)] at value
      rwa [List.getElem_take]
    · intro index inside beyond
      have value := all index inside
      rwa [memory_storeBlock_outside _ _ _ _ (.inr (by omega)), Nat.zero_add] at value
  · intro shown index inside
    obtain ⟨front, back⟩ := shown
    by_cases within : index < block.length
    · rw [memory_storeBlock_inside _ _ _ _ within]
      have value := (List.prefix_iff_getElem.mp front).2 index (by
        rw [List.length_take]
        omega)
      rwa [List.getElem_take] at value
    · rw [memory_storeBlock_outside _ _ _ _ (.inr (by omega)), Nat.zero_add]
      exact back index inside (Nat.not_lt.mp within)

theorem Holds.congr {memory other : Nat → Cell} {offset : Nat} {cells : List Cell}
    (held : Holds memory offset cells)
    (agree : ∀ index, index < offset + cells.length → other index = memory index) :
    Holds other offset cells :=
  (holds_iff_getElem _ _ _).mpr fun index inside =>
    (agree _ (by omega)).trans ((holds_iff_getElem _ _ _).mp held index inside)

end Buffer

end KnxDemo.Interaction
