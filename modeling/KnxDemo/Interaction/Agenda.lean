import Mathlib.Order.Lattice
import Mathlib.Data.List.TakeWhile

/-!
# Agendas

An agenda keeps items under keys, in the order of the keys. Items of equal keys
stay in the order in which they came.
-/

namespace KnxDemo.Interaction

structure Agenda (Key Item : Type) [LinearOrder Key] where
  entries : List (Key × Item)
  sorted : entries.Pairwise fun first second => first.1 ≤ second.1

namespace Agenda

variable {Key Item : Type} [LinearOrder Key]

/-- A new entry comes after those whose keys are not greater. -/
def place (entry : Key × Item) : List (Key × Item) → List (Key × Item)
  | [] => [entry]
  | next :: rest =>
      if entry.1 < next.1 then entry :: next :: rest else next :: place entry rest

theorem place_perm (entry : Key × Item) (entries : List (Key × Item)) :
    (place entry entries).Perm (entry :: entries) := by
  induction entries with
  | nil => exact List.Perm.refl _
  | cons next rest hypothesis =>
      rw [place]
      split
      · exact List.Perm.refl _
      · exact (hypothesis.cons next).trans (List.Perm.swap entry next rest)

theorem mem_place {entry other : Key × Item} {entries : List (Key × Item)} :
    other ∈ place entry entries ↔ other = entry ∨ other ∈ entries := by
  rw [(place_perm entry entries).mem_iff, List.mem_cons]

theorem place_sorted (entry : Key × Item) (entries : List (Key × Item))
    (sorted : entries.Pairwise fun first second => first.1 ≤ second.1) :
    (place entry entries).Pairwise fun first second => first.1 ≤ second.1 := by
  induction entries with
  | nil => exact List.pairwise_singleton _ _
  | cons next rest hypothesis =>
      have ⟨least, restSorted⟩ := List.pairwise_cons.mp sorted
      rw [place]
      split
      next before =>
        refine List.pairwise_cons.mpr ⟨fun other member => ?_, sorted⟩
        rcases List.mem_cons.mp member with rfl | later
        · exact before.le
        · exact before.le.trans (least other later)
      next notBefore =>
        refine List.pairwise_cons.mpr ⟨fun other member => ?_, hypothesis restSorted⟩
        rcases mem_place.mp member with rfl | later
        · exact not_lt.mp notBefore
        · exact least other later

def empty : Agenda Key Item := ⟨[], List.Pairwise.nil⟩

def emplace (agenda : Agenda Key Item) (key : Key) (item : Item) : Agenda Key Item :=
  ⟨place (key, item) agenda.entries, place_sorted _ _ agenda.sorted⟩

def insert (agenda : Agenda Key Item) (entries : List (Key × Item)) : Agenda Key Item :=
  entries.foldl (fun agenda entry => agenda.emplace entry.1 entry.2) agenda

/-- The entries up to a key, in their order. -/
def due (agenda : Agenda Key Item) (limit : Key) : List (Key × Item) :=
  agenda.entries.takeWhile fun entry => entry.1 ≤ limit

def later (agenda : Agenda Key Item) (limit : Key) : Agenda Key Item :=
  ⟨agenda.entries.dropWhile fun entry => entry.1 ≤ limit,
    agenda.sorted.sublist (List.dropWhile_sublist _)⟩

variable (agenda : Agenda Key Item)

@[simp] theorem entries_empty : (empty : Agenda Key Item).entries = [] := rfl

theorem emplace_perm (key : Key) (item : Item) :
    (agenda.emplace key item).entries.Perm ((key, item) :: agenda.entries) :=
  place_perm (key, item) agenda.entries

@[simp] theorem mem_emplace {key : Key} {item : Item} {entry : Key × Item} :
    entry ∈ (agenda.emplace key item).entries ↔ entry = (key, item) ∨ entry ∈ agenda.entries :=
  mem_place

theorem insert_perm (entries : List (Key × Item)) :
    (agenda.insert entries).entries.Perm (entries ++ agenda.entries) := by
  induction entries generalizing agenda with
  | nil => exact List.Perm.refl _
  | cons entry rest hypothesis =>
      calc (agenda.insert (entry :: rest)).entries
        _ = ((agenda.emplace entry.1 entry.2).insert rest).entries := rfl
        _ |>.Perm (rest ++ (agenda.emplace entry.1 entry.2).entries) := hypothesis _
        _ |>.Perm (rest ++ entry :: agenda.entries) := (agenda.emplace_perm _ _).append_left rest
        _ |>.Perm (entry :: rest ++ agenda.entries) := List.perm_middle

@[simp] theorem mem_insert {entries : List (Key × Item)} {entry : Key × Item} :
    entry ∈ (agenda.insert entries).entries ↔ entry ∈ entries ∨ entry ∈ agenda.entries := by
  rw [(agenda.insert_perm entries).mem_iff, List.mem_append]

theorem due_append_later (limit : Key) :
    agenda.due limit ++ (agenda.later limit).entries = agenda.entries :=
  List.takeWhile_append_dropWhile

theorem le_of_mem_due {limit : Key} {entry : Key × Item} (member : entry ∈ agenda.due limit) :
    entry.1 ≤ limit := by
  simpa using List.mem_takeWhile_imp member

theorem due_sorted (limit : Key) :
    (agenda.due limit).Pairwise fun first second => first.1 ≤ second.1 :=
  agenda.sorted.sublist (List.takeWhile_sublist _)

theorem lt_of_mem_later {limit : Key} {entry : Key × Item}
    (member : entry ∈ (agenda.later limit).entries) : limit < entry.1 := by
  have sorted := (agenda.later limit).sorted
  cases split : (agenda.later limit).entries with
  | nil => rw [split] at member; cases member
  | cons first rest =>
      have notDue : ¬ first.1 ≤ limit := by
        have := List.head?_dropWhile_not (fun entry => decide (entry.1 ≤ limit)) agenda.entries
        rw [show agenda.entries.dropWhile (fun entry => decide (entry.1 ≤ limit)) = first :: rest
          from split] at this
        simpa using this
      rw [split] at member sorted
      rcases List.mem_cons.mp member with rfl | inRest
      · exact not_le.mp notDue
      · exact (not_le.mp notDue).trans_le ((List.pairwise_cons.mp sorted).1 entry inRest)

theorem mem_due {limit : Key} {entry : Key × Item} :
    entry ∈ agenda.due limit ↔ entry ∈ agenda.entries ∧ entry.1 ≤ limit := by
  constructor
  · intro member
    exact ⟨(List.takeWhile_sublist _).subset member, agenda.le_of_mem_due member⟩
  · rintro ⟨member, notAfter⟩
    rw [← agenda.due_append_later limit, List.mem_append] at member
    exact member.resolve_right fun late => absurd (agenda.lt_of_mem_later late) notAfter.not_gt

theorem le_of_first {first : Key × Item} {rest : List (Key × Item)}
    (entries : agenda.entries = first :: rest) {entry : Key × Item}
    (member : entry ∈ agenda.entries) : first.1 ≤ entry.1 := by
  have sorted := agenda.sorted
  rw [entries] at member sorted
  rcases List.mem_cons.mp member with rfl | inRest
  · exact le_refl _
  · exact (List.pairwise_cons.mp sorted).1 entry inRest

end Agenda

end KnxDemo.Interaction
