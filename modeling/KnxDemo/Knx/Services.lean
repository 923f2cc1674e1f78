import KnxDemo.Knx.Parsing

/-!
# The services of a description response

The length octet of the supported-services block counts the block's own two
header octets, and the parser divides all of it by two. An accepted response
therefore has one entry more than its block holds, and the entries beyond the
message are never assigned.
-/

namespace KnxDemo.KnxServices

open KnxDemo.Bytes KnxDemo.KnxProto KnxDemo.KnxParse KnxDemo.KnxParsing
open KnxDemo.Interaction KnxDemo.Interaction.Loader

def serviceAt (memory : Nat → Byte) (place : Nat) : KnxDescriptionService where
  family := memory place
  version := memory (place + 1)

theorem eval_services_loop (memory : Nat → Byte) (buffer length entries : Nat) :
    eval memory (servicesLoop buffer length entries) =
      (List.range entries).map fun index =>
        if 2 * index + 2 ≤ length then some (serviceAt memory (buffer + 2 * index)) else none := by
  induction entries generalizing buffer length with
  | zero => rfl
  | succ entries induction =>
      rw [servicesLoop, List.range_succ_eq_map, List.map_cons, List.map_map]
      by_cases room : 2 ≤ length
      · rw [if_pos room, if_pos (by omega)]
        simp only [eval_bind, eval_load, eval_pure, induction]
        refine congrArg₂ List.cons rfl (List.map_congr_left fun index _ => ?_)
        have step : buffer + 2 + 2 * index = buffer + 2 * (index + 1) := by omega
        simp only [Function.comp_apply, Nat.succ_eq_add_one, step]
        exact if_congr (by omega) rfl rfl
      · rw [if_neg room, if_neg (by omega), eval_pure, List.replicate_succ]
        refine congrArg₂ List.cons rfl ?_
        symm
        rw [List.eq_replicate_iff]
        constructor
        · simp
        · intro entry member
          obtain ⟨index, _, rfl⟩ := List.mem_map.mp member
          exact if_neg (by simp only [Nat.succ_eq_add_one]; omega)

/-- The tests the parser makes. -/
def DescriptionAccepted (memory : Nat → Byte) (buffer length : Nat) : Prop :=
  56 ≤ length ∧ (memory buffer).toNat = 54 ∧ (memory (buffer + 1)).toNat = 1 ∧
    (memory (buffer + 54)).toNat % 2 = 0 ∧ (memory (buffer + 55)).toNat = 2

/-- The number of octet pairs in the supported-services block, which starts at offset 54
with a header of two octets. -/
def blockPairs (memory : Nat → Byte) (buffer : Nat) : Nat :=
  ((memory (buffer + 54)).toNat - 2) / 2

/-- Every service listed has been assigned the pair the message holds for it, and the
block holds as many pairs as are listed. -/
structure ServicesFromMessage (memory : Nat → Byte) (buffer length : Nat)
    (res : KnxDescriptionResponse) : Prop where
  assigned : ∀ index < res.numServices,
    res.services[index]? = some (some (serviceAt memory (buffer + (56 + 2 * index))))
  insideMessage : ∀ index < res.numServices, 56 + 2 * index + 2 ≤ length
  insideBlock : ∀ index < res.numServices,
    56 + 2 * index + 2 ≤ 54 + (memory (buffer + 54)).toNat
  room : 56 + 2 * res.numServices ≤ length
  counted : res.numServices = blockPairs memory buffer

section Response

variable (memory : Nat → Byte) (buffer length : Nat) (res : KnxDescriptionResponse)

theorem description_response_accepted (accepted : DescriptionAccepted memory buffer length) :
    (eval memory (knxDescriptionResponseParse buffer length res)).1 = true ∧
      (eval memory (knxDescriptionResponseParse buffer length res)).2.numServices =
        (memory (buffer + 54)).toNat / 2 ∧
      (eval memory (knxDescriptionResponseParse buffer length res)).2.services =
        eval memory (servicesLoop (buffer + 56) (length - 56)
          ((memory (buffer + 54)).toNat / 2)) := by
  obtain ⟨long, structureLength, type, even, blockType⟩ := accepted
  unfold knxDescriptionResponseParse
  simp only [eval_ite, eval_bind, eval_load, eval_pure, eval_copy]
  rw [if_neg (by omega), if_neg (by omega), if_neg (by omega), if_neg (by omega),
    if_neg (by omega)]
  exact ⟨rfl, rfl, rfl⟩

theorem description_response_rejected (rejected : ¬ DescriptionAccepted memory buffer length) :
    eval memory (knxDescriptionResponseParse buffer length res) = (false, res) := by
  unfold knxDescriptionResponseParse
  unfold DescriptionAccepted at rejected
  simp only [eval_ite, eval_bind, eval_load, eval_pure, eval_copy]
  split_ifs
  · rfl
  · rfl
  · rfl
  · rfl
  · rfl
  · exact absurd (by omega) rejected

/-- A response with a services block lists one service more than the block holds. -/
theorem listed_services_excess (accepted : DescriptionAccepted memory buffer length)
    (block : (memory (buffer + 54)).toNat ≠ 0) :
    (eval memory (knxDescriptionResponseParse buffer length res)).2.numServices =
      blockPairs memory buffer + 1 := by
  obtain ⟨_, listed, _⟩ := description_response_accepted memory buffer length res accepted
  obtain ⟨_, _, _, even, _⟩ := accepted
  rw [listed, blockPairs]
  omega

theorem listed_service (accepted : DescriptionAccepted memory buffer length) (index : Nat)
    (listed : index <
      (eval memory (knxDescriptionResponseParse buffer length res)).2.numServices) :
    (eval memory (knxDescriptionResponseParse buffer length res)).2.services[index]? =
      some (if 56 + 2 * index + 2 ≤ length then
        some (serviceAt memory (buffer + (56 + 2 * index))) else none) := by
  obtain ⟨_, count, services⟩ := description_response_accepted memory buffer length res accepted
  rw [count] at listed
  rw [services, eval_services_loop, List.getElem?_map, List.getElem?_range listed,
    Option.map_some, Nat.add_assoc]
  have long := accepted.1
  exact congrArg some (if_congr (by omega) rfl rfl)

/-- An accepted response lists what its message holds exactly when its services block is
declared with length zero. -/
theorem services_from_message_iff :
    ((eval memory (knxDescriptionResponseParse buffer length res)).1 = true →
      ServicesFromMessage memory buffer length
        (eval memory (knxDescriptionResponseParse buffer length res)).2) ↔
      ¬ DescriptionAccepted memory buffer length ∨ (memory (buffer + 54)).toNat = 0 := by
  by_cases accepted : DescriptionAccepted memory buffer length
  · obtain ⟨success, listed, _⟩ := description_response_accepted memory buffer length res accepted
    rw [forall_prop_of_true success]
    constructor
    · intro fromMessage
      refine .inr (Classical.byContradiction fun block => ?_)
      have excess := listed_services_excess memory buffer length res accepted block
      have counted := fromMessage.counted
      omega
    · intro condition
      have empty := condition.resolve_left (not_not.mpr accepted)
      have none : (eval memory (knxDescriptionResponseParse buffer length res)).2.numServices =
          0 := by
        rw [listed, empty]
      have long := accepted.1
      refine ⟨?_, ?_, ?_, by omega, by rw [none, blockPairs, empty]⟩
      all_goals
        intro index below
        omega
  · have rejected := description_response_rejected memory buffer length res accepted
    refine iff_of_true ?_ (.inl accepted)
    intro success
    rw [rejected] at success
    cases success

end Response

/-- A description response with one supported service, of family 2 and version 1. -/
def oneService : Nat → Byte
  | 0 => 54
  | 1 => 1
  | 54 => 4
  | 55 => 2
  | 56 => 2
  | 57 => 1
  | _ => 0

theorem one_service_listed_twice :
    ¬ ∀ (memory : Nat → Byte) (buffer length : Nat) (res : KnxDescriptionResponse),
      (eval memory (knxDescriptionResponseParse buffer length res)).1 = true →
        ServicesFromMessage memory buffer length
          (eval memory (knxDescriptionResponseParse buffer length res)).2 := by
  intro always
  have accepted : DescriptionAccepted oneService 0 58 := by
    unfold DescriptionAccepted
    decide
  obtain ⟨success, listed, _⟩ := description_response_accepted oneService 0 58 {} accepted
  have room := (always oneService 0 58 {} success).room
  rw [listed] at room
  exact absurd room (by decide)

end KnxDemo.KnxServices
