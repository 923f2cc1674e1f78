import KnxDemo.Knx.Client

/-!
# The client and its history

What the capture threads have received and assigned so far, and that the client
is at any time what was assigned last, by a thread that had received a datagram
asking for it.
-/

namespace KnxDemo.KnxHistory

open KnxDemo.KnxWrapper KnxDemo.KnxClient KnxDemo.Interaction

/-- What a turn assigns to the client, and from which reception. -/
def assignedIn : ClientTurn → Option (Reception × Assignment)
  | .other (.assigned _ reception assignment) => some (reception, assignment)
  | _ => none

def receivedIn : ClientTurn → Option Reception
  | .other (.received _ reception) => some reception
  | _ => none

def assigned (past : List ClientTurn) : List (Reception × Assignment) := past.filterMap assignedIn

def received (past : List ClientTurn) : List Reception := past.filterMap receivedIn

/-- The last assignment of the selected kind, and the reception it was made for. -/
def lastAssigned {α : Type} (select : Assignment → Option α) (past : List ClientTurn) :
    Option (Reception × α) :=
  ((assigned past).filterMap fun made => (select made.2).map (made.1, ·)).getLast?

def held {α : Type} (select : Assignment → Option α) (zero : α) (past : List ClientTurn) : α :=
  ((lastAssigned select past).map Prod.snd).getD zero

theorem filterMap_concat {α β : Type} (select : α → Option β) (front : List α) (last : α) :
    (front ++ [last]).filterMap select = front.filterMap select ++ (select last).toList := by
  rw [List.filterMap_append]
  cases selected : select last with
  | none => rw [List.filterMap_cons_none selected, List.filterMap_nil, Option.toList_none]
  | some value => rw [List.filterMap_cons_some selected, List.filterMap_nil, Option.toList_some]

theorem assigned_append (past : List ClientTurn) (turn : ClientTurn) :
    assigned (past ++ [turn]) = assigned past ++ (assignedIn turn).toList :=
  filterMap_concat assignedIn past turn

theorem received_append (past : List ClientTurn) (turn : ClientTurn) :
    received (past ++ [turn]) = received past ++ (receivedIn turn).toList :=
  filterMap_concat receivedIn past turn

theorem last_assigned_other {α : Type} (select : Assignment → Option α) (past : List ClientTurn)
    {turn : ClientTurn} (nothing : assignedIn turn = none) :
    lastAssigned select (past ++ [turn]) = lastAssigned select past := by
  rw [lastAssigned, assigned_append, nothing, Option.toList_none, List.append_nil, lastAssigned]

theorem last_assigned_append {α : Type} (select : Assignment → Option α) (past : List ClientTurn)
    (capture : Capture) (reception : Reception) (assignment : Assignment) :
    lastAssigned select (past ++ [.other (.assigned capture reception assignment)]) =
      ((select assignment).map (reception, ·)).or (lastAssigned select past) := by
  rw [lastAssigned, assigned_append, lastAssigned]
  cases selected : select assignment with
  | none => simp [assignedIn, selected]
  | some value => simp [assignedIn, selected]

/-- An assignment that a reception asks for, and that was received. -/
def Genuine (past : List ClientTurn) (made : Reception × Assignment) : Prop :=
  made.1 ∈ received past ∧ made.2 ∈ made.1.assignments

theorem Genuine.later {past : List ClientTurn} {made : Reception × Assignment}
    (genuine : Genuine past made) (turn : ClientTurn) : Genuine (past ++ [turn]) made := by
  refine ⟨?_, genuine.2⟩
  rw [received_append]
  exact List.mem_append_left _ genuine.1

/-- The client is what the history assigned to it, and nothing is assigned but what was
received. -/
structure Linked (past : List ClientTurn) (state : ClientState) : Prop where
  port : state.1.client.remotePort = held Assignment.port? 0 past
  address : state.1.client.remoteIp = held Assignment.address? "" past
  channel : state.1.client.remoteChid = held Assignment.channel? 0 past
  pending : ∀ capture, ∀ made ∈ state.1.pending capture, Genuine past made
  made : ∀ made ∈ assigned past, Genuine past made

theorem linked_initial (control tunnel : Int) (steps : List Step) :
    Linked [] (initialState control tunnel steps) where
  port := rfl
  address := rfl
  channel := rfl
  pending := fun _ _ member => absurd member List.not_mem_nil
  made := fun _ member => absurd member List.not_mem_nil

theorem Linked.of_nothing_assigned {past : List ClientTurn} {state next : ClientState}
    {turn : ClientTurn} (linked : Linked past state) (nothing : assignedIn turn = none)
    (client : next.1.client = state.1.client)
    (pending : ∀ capture, ∀ made ∈ next.1.pending capture, Genuine (past ++ [turn]) made) :
    Linked (past ++ [turn]) next where
  port := by rw [client, linked.port, held, held, last_assigned_other _ _ nothing]
  address := by rw [client, linked.address, held, held, last_assigned_other _ _ nothing]
  channel := by rw [client, linked.channel, held, held, last_assigned_other _ _ nothing]
  pending := pending
  made := by
    rw [assigned_append, nothing, Option.toList_none, List.append_nil]
    exact fun made member => (linked.made made member).later turn

theorem genuine_of_update {past : List ClientTurn}
    {pending : Capture → List (Reception × Assignment)}
    (before : ∀ capture, ∀ made ∈ pending capture, Genuine past made) {capture : Capture}
    {queue : List (Reception × Assignment)} (queued : ∀ made ∈ queue, Genuine past made)
    (other : Capture) :
    ∀ made ∈ Function.update pending capture queue other, Genuine past made := by
  by_cases same : other = capture
  · rw [same, Function.update_self]
    exact queued
  · rw [Function.update_of_ne same]
    exact before other

/-- What one turn keeps. -/
theorem linked_step (past : List ClientTurn) (state : ClientState) (turn : ClientTurn)
    (next : ClientState) (linked : Linked past state) (step : ClientStep state turn next) :
    Linked (past ++ [turn]) next := by
  cases step with
  | own answered =>
      obtain ⟨_, same⟩ := answered
      subst same
      refine linked.of_nothing_assigned (by rfl) (by rfl) ?_
      exact fun capture made member => (linked.pending capture made member).later _
  | other taken =>
      cases taken with
      | received idle =>
          rename_i capture reception
          refine linked.of_nothing_assigned (by rfl) (by rfl) (genuine_of_update
            (fun other made member => (linked.pending other made member).later _) ?_)
          intro made member
          obtain ⟨assignment, asked, equal⟩ := List.mem_map.mp member
          subst equal
          refine ⟨?_, asked⟩
          rw [received_append]
          exact List.mem_append_right _ List.mem_cons_self
      | assigned queued =>
          rename_i capture reception assignment rest
          have genuine : Genuine past (reception, assignment) :=
            linked.pending capture _ (by rw [queued]; exact List.mem_cons_self)
          constructor
          · rw [held, last_assigned_append]
            cases assignment with
            | remotePort port => rfl
            | remoteIp address => exact linked.port
            | remoteChid channel => exact linked.port
          · rw [held, last_assigned_append]
            cases assignment with
            | remotePort port => exact linked.address
            | remoteIp address => rfl
            | remoteChid channel => exact linked.address
          · rw [held, last_assigned_append]
            cases assignment with
            | remotePort port => exact linked.channel
            | remoteIp address => exact linked.channel
            | remoteChid channel => rfl
          · refine genuine_of_update
              (fun other made member => (linked.pending other made member).later _) ?_
            intro made member
            exact (linked.pending capture made (by
              rw [queued]
              exact List.mem_cons_of_mem _ member)).later _
          · intro made member
            rw [assigned_append, List.mem_append] at member
            cases member with
            | inl before => exact (linked.made made before).later _
            | inr now =>
                rw [List.mem_singleton.mp now]
                exact genuine.later _

end KnxDemo.KnxHistory
