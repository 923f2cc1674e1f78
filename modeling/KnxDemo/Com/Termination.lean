import KnxDemo.Com.Drive

/-!
# When com_recv returns

The loop goes round for data, for `EAGAIN` followed by a wait, and for a read
that delivers nothing. Only the last kind brings it no closer to its end: while
reads deliver at least one octet and do not fail with `EAGAIN` right after a
wait that reported data, an octet costs at most two reads. At end of file every
read delivers nothing, and the loop never ends.
-/

namespace KnxDemo.ComTermination

open KnxDemo.Bytes KnxDemo.ComDrive KnxDemo.Interaction

def isRead (event : Event PortInterface) : Bool :=
  match event.request with
  | .read _ _ => true
  | _ => false

def readCount (trace : PortTrace) : Nat := trace.countP isRead

/-- A read that follows a wait reporting readiness does not fail with `EAGAIN`. -/
def HonoursWait (trace : PortTrace) : Prop :=
  ∀ (portH : Int) (timeout : Nat) (selected : Int) (other : Int) (count : Nat),
    [⟨.select portH timeout, selected⟩, ⟨.read other count, .again⟩] <:+: trace →
      waitResult selected ≠ 0

def Delivers (trace : PortTrace) : Prop :=
  ∀ (portH : Int) (count : Nat) (fits : [].length ≤ count),
    ⟨.read portH count, .delivered [] fits⟩ ∉ trace

theorem HonoursWait.tail {event : Event PortInterface} {trace : PortTrace}
    (honoured : HonoursWait (event :: trace)) : HonoursWait trace :=
  fun portH timeout selected other count inside =>
    honoured portH timeout selected other count (inside.trans (List.suffix_cons _ _).isInfix)

theorem Delivers.tail {event : Event PortInterface} {trace : PortTrace}
    (delivers : Delivers (event :: trace)) : Delivers trace :=
  fun portH count fits member => delivers portH count fits (List.mem_cons_of_mem _ member)

def NotAgain (trace : PortTrace) : Prop :=
  ∀ (portH : Int) (count : Nat) (tail : PortTrace), trace ≠ ⟨.read portH count, .again⟩ :: tail

theorem HonoursWait.not_again {portH : Int} {timeout : Nat} {selected : Int} {trace : PortTrace}
    (honoured : HonoursWait (⟨.select portH timeout, selected⟩ :: trace))
    (ready : waitResult selected = 0) : NotAgain trace := by
  intro other count tail failed
  refine honoured portH timeout selected other count ?_ ready
  rw [failed]
  exact (List.prefix_append _ tail).isInfix

@[simp] theorem readCount_nil : readCount [] = 0 := rfl

@[simp] theorem readCount_read (portH : Int) (count : Nat) (answer : ReadAnswer count)
    (tail : PortTrace) : readCount (⟨.read portH count, answer⟩ :: tail) = readCount tail + 1 :=
  List.countP_cons_of_pos rfl

@[simp] theorem readCount_select (portH : Int) (timeout : Nat) (selected : Int)
    (tail : PortTrace) : readCount (⟨.select portH timeout, selected⟩ :: tail) = readCount tail :=
  List.countP_cons_of_neg Bool.false_ne_true

/-- The measure is twice the number of octets still missing, one less right after a wait
that reported data. -/
theorem ends_within {portH : Int} {len : Nat} (budget k : Nat) (afterWait : Bool)
    (data : Buffer Byte) (trace : PortTrace) (result : Option (Nat × Buffer Byte))
    (enough : 2 * (len - k) < budget + afterWait.toNat)
    (unfinished : afterWait = true → k < len)
    (ran : (comRecvLoop portH len budget k data).run.Run trace result)
    (honoured : HonoursWait trace) (ready : afterWait = true → NotAgain trace)
    (delivers : Delivers trace) :
    result ≠ none ∧ readCount trace + afterWait.toNat ≤ 2 * (len - k) := by
  induction budget generalizing k afterWait data trace with
  | zero =>
      cases afterWait with
      | false => exact absurd enough (Nat.not_lt_zero _)
      | true =>
          have missing := unfinished rfl
          rw [Bool.toNat_true] at enough
          omega
  | succ budget induction =>
      unfold comRecvLoop at ran
      by_cases missing : k < len
      · rw [if_pos missing] at ran
        obtain ⟨answer, tail, rfl, after⟩ := (run_ask_bind _ _ _ _).mp ran
        have bound := Bool.toNat_le afterWait
        rw [readCount_read]
        cases answer with
        | failed =>
            obtain ⟨rfl, rfl⟩ := (Program.run_pure _ _ _).mp after
            exact ⟨Option.some_ne_none _, by rw [readCount_nil]; omega⟩
        | again =>
            cases afterWait with
            | true => exact absurd rfl (ready rfl _ _ tail)
            | false =>
                obtain ⟨selected, rest, rfl, resumed⟩ := (run_comWait_bind _ _ _ _ _).mp after
                rw [readCount_select, Bool.toNat_false]
                by_cases reported : waitResult selected = 0
                · rw [if_neg (not_not.mpr reported)] at resumed
                  have waited := honoured.tail.not_again reported
                  obtain ⟨returned, reads⟩ := induction k true data rest
                    (by rw [Bool.toNat_true]; rw [Bool.toNat_false] at enough; omega)
                    (fun _ => missing) resumed honoured.tail.tail (fun _ => waited)
                    delivers.tail.tail
                  rw [Bool.toNat_true] at reads
                  exact ⟨returned, by omega⟩
                · rw [if_pos reported] at resumed
                  obtain ⟨rfl, rfl⟩ := (Program.run_pure _ _ _).mp resumed
                  exact ⟨Option.some_ne_none _, by rw [readCount_nil]; omega⟩
        | delivered octets fits =>
            have progress : octets.length ≠ 0 := by
              intro empty
              have none := List.length_eq_zero_iff.mp empty
              subst none
              exact delivers _ _ fits List.mem_cons_self
            obtain ⟨returned, reads⟩ := induction (k + octets.length) false _ tail
              (by rw [Bool.toNat_false]; omega) (fun waited => absurd waited Bool.false_ne_true)
              after honoured.tail (fun waited => absurd waited Bool.false_ne_true) delivers.tail
            rw [Bool.toNat_false] at reads
            exact ⟨returned, by omega⟩
      · rw [if_neg missing] at ran
        obtain ⟨rfl, rfl⟩ := (Program.run_pure _ _ _).mp ran
        cases afterWait with
        | true => exact absurd (unfinished rfl) missing
        | false => exact ⟨Option.some_ne_none _, Nat.zero_le _⟩

/-! ## End of file -/

def endOfFile (portH : Int) (count : Nat) : Event PortInterface :=
  ⟨.read portH count, .delivered [] (Nat.zero_le count)⟩

theorem run_end_of_file (portH : Int) {len k : Nat} (missing : k < len) (data : Buffer Byte)
    (budget : Nat) :
    (comRecvLoop portH len budget k data).run.Run
      (List.replicate budget (endOfFile portH (min (len - k) 200))) none := by
  induction budget with
  | zero => exact (Program.run_pure _ _ _).mpr ⟨rfl, rfl⟩
  | succ budget induction =>
      unfold comRecvLoop
      rw [if_pos missing, List.replicate_succ]
      exact (run_ask_bind _ _ _ _).mpr ⟨_, _, rfl, induction⟩

theorem honours_wait_end_of_file (portH : Int) (count budget : Nat) :
    HonoursWait (List.replicate budget (endOfFile portH count)) := by
  intro other timeout selected port asked inside
  have member := inside.subset List.mem_cons_self
  have same := List.eq_of_mem_replicate member
  cases same

/-- A run of `com_recv` with a budget for more than `2 * len + 2` reads, in which no read fails
with `EAGAIN` right after a wait that reported data. -/
def AmpleRun (len : Nat) (trace : PortTrace) (result : Option (Nat × Buffer Byte)) : Prop :=
  ∃ portH data budget, 2 * len + 2 < budget ∧
    (comRecv budget portH data len).run.Run trace result ∧ HonoursWait trace

/-- The run returned, and needed no more than `2 * len + 2` reads. -/
def ReturnsInTime (len : Nat) (trace : PortTrace) (result : Option (Nat × Buffer Byte)) : Prop :=
  result ≠ none ∧ readCount trace ≤ 2 * len + 2

theorem returns_of_delivers {len : Nat} {trace : PortTrace}
    {result : Option (Nat × Buffer Byte)} (run : AmpleRun len trace result)
    (delivers : Delivers trace) : ReturnsInTime len trace result := by
  obtain ⟨portH, data, budget, enough, ran, honoured⟩ := run
  obtain ⟨returned, reads⟩ := ends_within budget 0 false data trace result
    (by rw [Bool.toNat_false]; omega) (fun waited => absurd waited Bool.false_ne_true) ran honoured
    (fun waited => absurd waited Bool.false_ne_true) delivers
  rw [Bool.toNat_false] at reads
  exact ⟨returned, by omega⟩

theorem returns_of_empty {trace : PortTrace} {result : Option (Nat × Buffer Byte)}
    (run : AmpleRun 0 trace result) : ReturnsInTime 0 trace result := by
  obtain ⟨portH, data, budget, enough, ran, _⟩ := run
  cases budget with
  | zero => exact absurd enough (Nat.not_lt_zero _)
  | succ budget =>
      obtain ⟨rfl, rfl⟩ := (Program.run_pure _ _ _).mp ran
      exact ⟨Option.some_ne_none _, Nat.zero_le _⟩

theorem ample_end_of_file {len : Nat} (positive : 0 < len) :
    AmpleRun len (List.replicate (2 * len + 3) (endOfFile 3 (min (len - 0) 200))) none :=
  ⟨3, Buffer.fresh fun _ => 0, 2 * len + 3, Nat.lt_succ_self _,
    run_end_of_file 3 positive _ _, honours_wait_end_of_file _ _ _⟩

/-- Every run without a read that returns zero ends in time, and every run does that exactly
when nothing was asked for. -/
theorem always_returns_iff (len : Nat) :
    (∀ trace result, AmpleRun len trace result → len = 0 ∨ Delivers trace →
      ReturnsInTime len trace result) ∧
    ((∀ trace result, AmpleRun len trace result → ReturnsInTime len trace result) ↔ len = 0) := by
  constructor
  · intro trace result run condition
    cases condition with
    | inl empty =>
        subst empty
        exact returns_of_empty run
    | inr delivers => exact returns_of_delivers run delivers
  · constructor
    · intro always
      by_contra positive
      exact (always _ none (ample_end_of_file (Nat.pos_of_ne_zero positive))).1 rfl
    · intro empty trace result run
      subst empty
      exact returns_of_empty run

def lateOctet : PortTrace :=
  [⟨.read 3 1, .again⟩, ⟨.select 3 1000, (1 : Int)⟩, ⟨.read 3 1, .delivered [5] (by decide)⟩]

def lateStored : Buffer Byte := (Buffer.fresh fun _ => 0).storeBlock 0 [5]

theorem late_octet_runs :
    (comRecv 5 3 (Buffer.fresh fun _ => 0) 1).run.Run lateOctet (some (1, lateStored)) := by
  unfold comRecv comRecvLoop
  rw [if_pos (by decide)]
  refine (run_ask_bind _ _ _ _).mpr ⟨.again, _, rfl, ?_⟩
  refine (run_comWait_bind _ _ _ _ _).mpr ⟨1, _, rfl, ?_⟩
  rw [if_neg (by decide)]
  unfold comRecvLoop
  rw [if_pos (by decide)]
  exact (run_ask_bind _ _ _ _).mpr ⟨.delivered [5] (by decide), [], rfl, rfl, rfl⟩

theorem late_octet_honours : HonoursWait lateOctet := by
  intro portH timeout selected other count inside
  obtain ⟨front, back, same⟩ := inside
  match front with
  | [] => simp [lateOctet] at same
  | [_] =>
      simp only [lateOctet, List.cons_append, List.nil_append, List.cons.injEq, Event.mk.injEq,
        PortRequest.read.injEq] at same
      obtain ⟨_, _, ⟨⟨rfl, rfl⟩, other⟩, _⟩ := same
      cases eq_of_heq other
  | _ :: _ :: rest =>
      have lengths := congrArg List.length same
      simp only [lateOctet, List.length_append, List.length_cons, List.length_nil] at lengths
      omega

theorem late_octet_delivers : Delivers lateOctet := by
  intro portH count fits member
  simp only [lateOctet, List.mem_cons, List.not_mem_nil, or_false, Event.mk.injEq,
    PortRequest.read.injEq] at member
  rcases member with ⟨⟨rfl, rfl⟩, same⟩ | ⟨same, _⟩ | ⟨⟨rfl, rfl⟩, same⟩
  · cases eq_of_heq same
  · cases same
  · cases eq_of_heq same

theorem always_returns_witness : ReturnsInTime 1 lateOctet (some (1, lateStored)) :=
  (always_returns_iff 1).1 lateOctet _
    ⟨3, Buffer.fresh fun _ => 0, 5, by decide, late_octet_runs, late_octet_honours⟩
    (.inr late_octet_delivers)

theorem hang_up_never_returns :
    ¬ ∀ len trace result, AmpleRun len trace result → ReturnsInTime len trace result :=
  fun always => (always 1 _ none (ample_end_of_file Nat.one_pos)).1 rfl

end KnxDemo.ComTermination
