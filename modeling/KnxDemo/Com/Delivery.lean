import KnxDemo.Com.Reception

/-!
# What com_recv leaves in the array

The octets that the reads of a run delivered stand in the array in order, from its
start on and without a gap, and nothing is stored behind the end of the array. A
run that stops before the array is full met an error, or a wait without data.
-/

namespace KnxDemo.ComDelivery

open KnxDemo.Bytes KnxDemo.ComDrive KnxDemo.ComReception KnxDemo.Interaction

def deliveredBy (event : Event PortInterface) : List Byte :=
  match event with
  | ⟨.read _ _, .delivered octets _⟩ => octets
  | _ => []

def deliveredOctets (trace : PortTrace) : List Byte := trace.flatMap deliveredBy

/-- The last events are a read that failed with another error than `EAGAIN`, or one that
failed with `EAGAIN` and a wait that reported no data. -/
inductive StopsEarly (trace : PortTrace) : Prop
  | failed (front : PortTrace) (portH : Int) (count : Nat)
      (last : trace = front ++ [⟨.read portH count, .failed⟩])
  | stalled (front : PortTrace) (portH : Int) (count timeout : Nat) (selected : Int)
      (silent : waitResult selected ≠ 0)
      (last : trace = front ++ [⟨.read portH count, .again⟩, ⟨.select portH timeout, selected⟩])

theorem StopsEarly.after {trace : PortTrace} (early : StopsEarly trace) (before : PortTrace) :
    StopsEarly (before ++ trace) := by
  cases early with
  | failed front portH count last =>
      exact .failed (before ++ front) portH count (by rw [last, List.append_assoc])
  | stalled front portH count timeout selected silent last =>
      exact .stalled (before ++ front) portH count timeout selected silent
        (by rw [last, List.append_assoc])

section Receives

variable {portH : Int} {len k : Nat} {trace : PortTrace} {octets : List Byte}

theorem deliveredOctets_eq (received : Receives portH len k trace octets) :
    deliveredOctets trace = octets := by
  induction received with
  | full k complete => rfl
  | failed k open_ => rfl
  | stalled k open_ selected silent => rfl
  | retried k open_ selected ready tail octets later ih => exact ih
  | delivered k open_ octets fits tail rest later ih =>
      rw [deliveredOctets, List.flatMap_cons]
      exact congrArg (octets ++ ·) ih

theorem stops_early (received : Receives portH len k trace octets)
    (missing : k + octets.length < len) : StopsEarly trace := by
  induction received with
  | full k complete => exact absurd complete (by simpa using missing)
  | failed k open_ => exact .failed [] portH _ rfl
  | stalled k open_ selected silent => exact .stalled [] portH _ _ selected silent rfl
  | retried k open_ selected ready tail octets later ih => exact (ih missing).after [_, _]
  | delivered k open_ octets fits tail rest later ih =>
      rw [List.length_append, ← Nat.add_assoc] at missing
      exact (ih missing).after [_]

end Receives

/-- The array as `com_recv` leaves it: `count` octets of what it held are new. -/
structure Delivered (memory : Nat → Byte) (len count : Nat) (stored : Buffer Byte)
    (trace : PortTrace) : Prop where
  bounded : count ≤ len
  inOrder : Buffer.contents stored.memory 0 count = deliveredOctets trace
  inside : stored.extent ≤ len
  untouched : ∀ index, len ≤ index → stored.memory index = memory index
  complete : count < len → StopsEarly trace

theorem recv_delivers (budget : Nat) (portH : Int) (memory : Nat → Byte) (len : Nat)
    (trace : PortTrace) (count : Nat) (stored : Buffer Byte)
    (ran : Completes (comRecv budget portH (Buffer.fresh memory) len) trace (count, stored)) :
    Delivered memory len count stored trace := by
  obtain ⟨octets, received, counted, kept⟩ := (completes_comRecv_iff _ _ _).mp ⟨budget, ran⟩
  have fits : octets.length ≤ len := by
    have bound := received.length_le (Nat.zero_le len)
    rwa [Nat.zero_add] at bound
  subst counted kept
  constructor
  · exact fits
  · rw [deliveredOctets_eq received]
    exact (Buffer.holds_iff_contents _ _ _).mp (Buffer.holds_storeBlock _ 0 octets)
  · rw [Buffer.extent_storeBlock, Buffer.extent_fresh]
    split_ifs with empty
    · exact Nat.zero_le len
    · omega
  · intro index beyond
    rw [Buffer.memory_storeBlock_outside _ _ _ _ (.inr (by omega)), Buffer.memory_fresh]
  · intro missing
    exact stops_early received (by rwa [Nat.zero_add])

def interrupted : PortTrace :=
  [⟨.read 3 4, .delivered [0x10, 0x20] (by decide)⟩, ⟨.read 3 2, .again⟩,
    ⟨.select 3 1000, (1 : Int)⟩, ⟨.read 3 2, .delivered [0x30] (by decide)⟩,
    ⟨.read 3 1, .failed⟩]

theorem recv_delivers_witness :
    Delivered (fun _ => 0) 4 3
      ((Buffer.fresh fun _ => (0 : Byte)).storeBlock 0 [0x10, 0x20] |>.storeBlock 2 [0x30])
      interrupted := by
  refine recv_delivers 5 3 (fun _ => 0) 4 interrupted 3 _ ?_
  exact ⟨_, _, rfl, _, _, rfl, _, _, rfl, _, _, rfl, _, _, rfl, rfl, rfl⟩

end KnxDemo.ComDelivery
