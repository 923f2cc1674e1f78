import Mathlib.Data.List.Basic

/-!
# Chunks handed over in part

A list of chunks is handed over element by element. Each moment falls between
two elements, so some chunks are over, one may be so in part, and the others
are to come.
-/

namespace KnxDemo.Interaction

section Progress

variable {Chunk Element : Type} (elements : Chunk → List Element)

/-- Of the chunks, `done` are handed over whole and `pending` are not. -/
inductive Progress (chunks : List Chunk) (stream : List Element) :
    List Chunk → List Chunk → Prop where
  | all : stream = chunks.flatMap elements → Progress chunks stream chunks []
  | within {done others : List Chunk} {first : Chunk} {part left : List Element} :
      chunks = done ++ first :: others → elements first = part ++ left → left ≠ [] →
      stream = done.flatMap elements ++ part → Progress chunks stream done (first :: others)

variable {elements} {chunks : List Chunk} {stream : List Element} {done pending : List Chunk}

namespace Progress

theorem split (progress : Progress elements chunks stream done pending) :
    chunks = done ++ pending := by
  cases progress with
  | all => rw [List.append_nil]
  | within chunks => exact chunks

theorem eq_of_over (progress : Progress elements chunks stream done pending)
    (finished : pending = []) : stream = chunks.flatMap elements := by
  cases progress with
  | all whole => exact whole
  | within => exact nomatch finished

theorem isPrefix (progress : Progress elements chunks stream done pending) :
    stream <+: chunks.flatMap elements := by
  cases progress with
  | all whole =>
      exact whole ▸ List.prefix_refl stream
  | @within done others first part left split octets _ whole =>
      rw [split, whole, List.flatMap_append, List.flatMap_cons, octets, List.append_assoc]
      exact (List.prefix_append_right_inj _).mpr (List.prefix_append _ _)

theorem length_bounds (progress : Progress elements chunks stream done pending) :
    (done.flatMap elements).length ≤ stream.length ∧
      ∀ first ∈ pending.head?, stream.length < ((done ++ [first]).flatMap elements).length := by
  cases progress with
  | all whole =>
      rw [whole]
      exact ⟨Nat.le_refl _, fun _ first => nomatch first⟩
  | @within done others first part left split octets some whole =>
      have length : stream.length = (done.flatMap elements).length + part.length := by
        rw [whole, List.length_append]
      have positive := List.length_pos_of_ne_nil some
      constructor
      · omega
      · intro chunk head
        obtain rfl := Option.some.inj head
        rw [List.flatMap_append, List.flatMap_singleton, octets, List.length_append,
          List.length_append]
        omega

theorem unique {streams : List Element} {dones pendings : List Chunk}
    (progress : Progress elements chunks stream done pending)
    (other : Progress elements chunks streams dones pendings)
    (same : stream.length = streams.length) :
    stream = streams ∧ done = dones ∧ pending = pendings := by
  have streamSame : stream = streams := by
    rw [List.prefix_iff_eq_take.mp progress.isPrefix, List.prefix_iff_eq_take.mp other.isPrefix,
      same]
  have never {done more pending : List Chunk} {stream : List Element}
      (progress : Progress elements chunks stream done (more ++ pending))
      (longer : ((done ++ more).flatMap elements).length ≤ stream.length) : more = [] := by
    cases more with
    | nil => rfl
    | cons first more =>
        obtain ⟨-, upper⟩ := progress.length_bounds
        have bound := upper first rfl
        rw [← List.singleton_append, ← List.append_assoc, List.flatMap_append,
          List.length_append] at longer
        omega
  refine ⟨streamSame, ?_⟩
  have splits : done ++ pending = dones ++ pendings := progress.split.symm.trans other.split
  obtain ⟨more, rfl, rest⟩ | ⟨more, rfl, rest⟩ := List.append_eq_append_iff.mp splits
  · subst rest
    have lower := other.length_bounds.1
    have none := never progress (by omega)
    subst none
    exact ⟨(List.append_nil done).symm, rfl⟩
  · subst rest
    have lower := progress.length_bounds.1
    have none := never other (by omega)
    subst none
    exact ⟨List.append_nil dones, rfl⟩

end Progress

end Progress

end KnxDemo.Interaction
