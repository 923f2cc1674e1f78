import KnxDemo.Com.Drive

/-!
# What com_recv makes of the port's answers

The loop is described by a relation on the events at the port. A run of the loop
is one of its derivations, the octets stored are the octets delivered, in order,
and the relation leaves no choice about where the loop stops.
-/

namespace KnxDemo.ComReception

open KnxDemo.Bytes KnxDemo.ComDrive KnxDemo.Interaction

/-- The events while up to `len` octets are collected, `k` being there already,
and the octets they deliver. -/
inductive Receives (portH : Int) (len : Nat) : Nat → PortTrace → List Byte → Prop
  | full (k : Nat) (complete : len ≤ k) : Receives portH len k [] []
  | failed (k : Nat) (open_ : k < len) :
      Receives portH len k [⟨.read portH (min (len - k) 200), .failed⟩] []
  | stalled (k : Nat) (open_ : k < len) (selected : Int) (silent : waitResult selected ≠ 0) :
      Receives portH len k
        [⟨.read portH (min (len - k) 200), .again⟩, ⟨.select portH 1000, selected⟩] []
  | retried (k : Nat) (open_ : k < len) (selected : Int) (ready : waitResult selected = 0)
      (tail : PortTrace) (octets : List Byte) (later : Receives portH len k tail octets) :
      Receives portH len k
        (⟨.read portH (min (len - k) 200), .again⟩ :: ⟨.select portH 1000, selected⟩ :: tail)
        octets
  | delivered (k : Nat) (open_ : k < len) (octets : List Byte)
      (fits : octets.length ≤ min (len - k) 200) (tail : PortTrace) (rest : List Byte)
      (later : Receives portH len (k + octets.length) tail rest) :
      Receives portH len k
        (⟨.read portH (min (len - k) 200), .delivered octets fits⟩ :: tail) (octets ++ rest)

variable {portH : Int} {len k : Nat} {trace : PortTrace} {octets : List Byte}

theorem Receives.length_le (received : Receives portH len k trace octets) (below : k ≤ len) :
    k + octets.length ≤ len := by
  induction received with
  | full k complete => simpa using below
  | failed k open_ => simpa using below
  | stalled k open_ selected silent => simpa using below
  | retried k open_ selected ready tail octets later ih => exact ih below
  | delivered k open_ octets fits tail rest later ih =>
      have after := ih (by omega)
      rw [List.length_append]
      omega

theorem Receives.unique {other : PortTrace} {otherOctets : List Byte} {tail otherTail : PortTrace}
    (received : Receives portH len k trace octets)
    (receivedOther : Receives portH len k other otherOctets)
    (same : trace ++ tail = other ++ otherTail) :
    trace = other ∧ octets = otherOctets ∧ tail = otherTail := by
  induction received generalizing other otherOctets with
  | full k complete =>
      cases receivedOther with
      | full => exact ⟨rfl, rfl, same⟩
      | failed | stalled | retried | delivered => omega
  | failed k open_ =>
      cases receivedOther with
      | full => omega
      | failed => simpa using same
      | stalled | retried | delivered => simp at same
  | stalled k open_ selected silent =>
      cases receivedOther with
      | full => omega
      | stalled => simpa using same
      | retried => simp_all
      | failed | delivered => simp at same
  | retried k open_ selected ready rest octets later ih =>
      cases receivedOther with
      | full => omega
      | stalled => simp_all
      | retried _ _ _ _ otherRest otherOctets otherLater =>
          simp only [List.cons_append, List.cons.injEq, Event.mk.injEq, heq_eq_eq,
            true_and] at same
          obtain ⟨restEq, octetsEq, tailEq⟩ := ih otherLater same.2
          exact ⟨by rw [restEq, same.1], octetsEq, tailEq⟩
      | failed | delivered => simp at same
  | delivered k open_ octets fits rest more later ih =>
      cases receivedOther with
      | full => omega
      | delivered _ _ otherOctets _ otherRest otherMore otherLater =>
          simp only [List.cons_append, List.cons.injEq, Event.mk.injEq, heq_eq_eq,
            ReadAnswer.delivered.injEq, true_and] at same
          rcases same with ⟨rfl, later⟩
          obtain ⟨rfl, rfl, tailEq⟩ := ih otherLater later
          exact ⟨rfl, rfl, tailEq⟩
      | failed | stalled | retried => simp at same

def Waiting (event : Event PortInterface) : Prop :=
  match event.request with
  | .read _ _ => True
  | .select _ _ => True
  | _ => False

theorem Receives.waiting (received : Receives portH len k trace octets) :
    ∀ event ∈ trace, Waiting event := by
  induction received with
  | full k complete => simp
  | failed k open_ => simp [Waiting]
  | stalled k open_ selected silent => simp [Waiting]
  | retried k open_ selected ready tail octets later ih => simpa [Waiting] using ih
  | delivered k open_ octets fits tail rest later ih => simpa [Waiting] using ih

theorem completes_comRecvLoop (budget : Nat) (data stored : Buffer Byte) (count : Nat)
    (below : k ≤ len)
    (ran : Completes (comRecvLoop portH len budget k data) trace (count, stored)) :
    ∃ octets, Receives portH len k trace octets ∧ count = k + octets.length ∧
      stored = data.storeBlock k octets := by
  induction budget generalizing k data trace with
  | zero => exact absurd ran (not_completes_failure _ _)
  | succ budget ih =>
      unfold comRecvLoop at ran
      split_ifs at ran with unfinished
      · obtain ⟨answer, tail, rfl, after⟩ := (completes_ask_bind _ _ _ _).mp ran
        cases answer with
        | failed =>
            simp only [completes_pure, Prod.mk.injEq] at after
            rcases after with ⟨rfl, rfl, rfl⟩
            exact ⟨[], .failed k unfinished, rfl, rfl⟩
        | again =>
            obtain ⟨selected, rest, rfl, resumed⟩ := (completes_comWait_bind _ _ _ _ _).mp after
            by_cases ready : waitResult selected = 0
            · rw [if_neg (not_not.mpr ready)] at resumed
              obtain ⟨octets, received, counted, kept⟩ := ih data below resumed
              exact ⟨octets, .retried k unfinished selected ready rest octets received,
                counted, kept⟩
            · rw [if_pos ready] at resumed
              simp only [completes_pure, Prod.mk.injEq] at resumed
              rcases resumed with ⟨rfl, rfl, rfl⟩
              exact ⟨[], .stalled k unfinished selected ready, rfl, rfl⟩
        | delivered octets fits =>
            obtain ⟨rest, received, counted, kept⟩ := ih (data.storeBlock k octets) (by omega) after
            refine ⟨octets ++ rest, .delivered k unfinished octets fits tail rest received, ?_, ?_⟩
            · rw [counted, List.length_append]
              omega
            · rw [kept, Buffer.storeBlock_append]
      · simp only [completes_pure, Prod.mk.injEq] at ran
        rcases ran with ⟨rfl, rfl, rfl⟩
        exact ⟨[], .full k (by omega), by simp; omega, rfl⟩

theorem eventually_of_succ {property : Nat → Prop} (least : Nat)
    (step : ∀ budget, least ≤ budget → property (budget + 1)) :
    ∃ least, ∀ budget, least ≤ budget → property budget := by
  refine ⟨least + 1, fun budget enough => ?_⟩
  cases budget with
  | zero => exact absurd enough (Nat.not_succ_le_zero least)
  | succ budget => exact step budget (Nat.le_of_succ_le_succ enough)

theorem Receives.completes (received : Receives portH len k trace octets) (below : k ≤ len)
    (data : Buffer Byte) :
    ∃ least, ∀ budget, least ≤ budget →
      Completes (comRecvLoop portH len budget k data) trace
        (k + octets.length, data.storeBlock k octets) := by
  induction received generalizing data with
  | full k complete =>
      apply eventually_of_succ 0
      intro budget _
      have whole : len = k := by omega
      unfold comRecvLoop
      rw [if_neg (by omega)]
      exact (completes_pure _ _ _).mpr ⟨rfl, by rw [whole]; rfl⟩
  | failed k open_ =>
      apply eventually_of_succ 0
      intro budget _
      unfold comRecvLoop
      rw [if_pos open_]
      apply (completes_ask_bind _ _ _ _).mpr
      exact ⟨.failed, [], rfl, (completes_pure _ _ _).mpr ⟨rfl, rfl⟩⟩
  | stalled k open_ selected silent =>
      apply eventually_of_succ 0
      intro budget _
      unfold comRecvLoop
      rw [if_pos open_]
      apply (completes_ask_bind _ _ _ _).mpr
      refine ⟨.again, _, rfl, (completes_comWait_bind _ _ _ _ _).mpr ⟨selected, [], rfl, ?_⟩⟩
      rw [if_pos silent]
      exact (completes_pure _ _ _).mpr ⟨rfl, rfl⟩
  | retried k open_ selected ready tail octets later ih =>
      obtain ⟨least, after⟩ := ih below data
      apply eventually_of_succ least
      intro budget enough
      unfold comRecvLoop
      rw [if_pos open_]
      apply (completes_ask_bind _ _ _ _).mpr
      refine ⟨.again, _, rfl, (completes_comWait_bind _ _ _ _ _).mpr ⟨selected, tail, rfl, ?_⟩⟩
      rw [if_neg (not_not.mpr ready)]
      exact after budget enough
  | delivered k open_ octets fits tail rest later ih =>
      obtain ⟨least, after⟩ := ih (by omega) (data.storeBlock k octets)
      apply eventually_of_succ least
      intro budget enough
      unfold comRecvLoop
      rw [if_pos open_, List.length_append, Buffer.storeBlock_append, ← Nat.add_assoc]
      apply (completes_ask_bind _ _ _ _).mpr
      exact ⟨.delivered octets fits, tail, rfl, after budget enough⟩

/-- The receptions are exactly the runs of `com_recv`. -/
theorem completes_comRecv_iff (data stored : Buffer Byte) (count : Nat) :
    (∃ budget, Completes (comRecv budget portH data len) trace (count, stored)) ↔
      ∃ octets, Receives portH len 0 trace octets ∧ count = octets.length ∧
        stored = data.storeBlock 0 octets := by
  constructor
  · intro completed
    obtain ⟨budget, ran⟩ := completed
    obtain ⟨octets, received, counted, kept⟩ :=
      completes_comRecvLoop budget data stored count (Nat.zero_le len) ran
    exact ⟨octets, received, by rw [counted, Nat.zero_add], kept⟩
  · intro reception
    obtain ⟨octets, received, rfl, rfl⟩ := reception
    obtain ⟨least, completes⟩ := received.completes (Nat.zero_le len) data
    have ran := completes least (Nat.le_refl least)
    rw [Nat.zero_add] at ran
    exact ⟨least, ran⟩

theorem completes_comRecv_bind {Result : Type} (budget : Nat) (data : Buffer Byte)
    (rest : Nat × Buffer Byte → Session Result) (result : Result)
    (ran : Completes (comRecv budget portH data len >>= rest) trace result) :
    ∃ octets first second, trace = first ++ second ∧ Receives portH len 0 first octets ∧
      Completes (rest (octets.length, data.storeBlock 0 octets)) second result := by
  obtain ⟨⟨count, stored⟩, first, second, rfl, recv, after⟩ := (completes_bind _ _ _ _).mp ran
  obtain ⟨octets, received, rfl, rfl⟩ := (completes_comRecv_iff data stored count).mp ⟨budget, recv⟩
  exact ⟨octets, first, second, rfl, received, after⟩

end KnxDemo.ComReception
