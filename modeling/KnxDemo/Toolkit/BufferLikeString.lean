import Mathlib.Algebra.Ring.Nat
import KnxDemo.Bytes
import KnxDemo.Interaction.Refinement

/-!
# Strings that erase lazily

`BufferLikeString` keeps a string together with how many octets at either end
count as erased. Erasing at an end only moves a mark, and zero octets are
written behind what is left so that it can be passed as a C string. The capacity
of the string underneath is up to the allocator and is part of an append.
-/

namespace KnxDemo.LazyString

open KnxDemo.Bytes KnxDemo.Interaction

/-- `std::string::npos` -/
def npos : Nat := 2 ^ 64 - 1

structure BufferLikeString where
  str : List Byte
  eraseHead : Nat
  eraseTail : Nat

/-- The messages of the exceptions; `string` is one of the string underneath. -/
inductive OutOfRange where
  | message (text : String)
  | string

inductive Answer where
  | done
  | octet (value : Byte)
  | octets (value : List Byte)
  | size (value : Nat)
  | thrown (error : OutOfRange)

inductive Operation where
  | erase (pos n : Nat)
  | append (data : List Byte) (capacity : Nat)
  | pushBack (c : Byte)
  | insert (pos : Nat) (s : List Byte)
  | assign (data : List Byte)
  /-- The data to assign lies in the string itself, `start` octets behind `data()`. -/
  | assignWithin (start len : Nat)
  | clear
  | get (pos : Nat)
  | set (pos : Nat) (c : Byte)
  | resize (size : Nat) (c : Byte)
  | substr (pos n : Nat)
  | size

def sizes : Nat := 2 ^ 64

namespace BufferLikeString

variable (buffer : BufferLikeString)

def add (pos n : Nat) : Nat := (pos + n) % sizes

def sub (size n : Nat) : Nat := (size + (sizes - n)) % sizes

def size : Nat := sub (sub buffer.str.length buffer.eraseTail) buffer.eraseHead

/-- `data()[index] = c`; a zero stored behind the last octet is the terminator that is
there already. -/
def poke (index : Nat) (c : Byte) : BufferLikeString :=
  { buffer with str := buffer.str.set (buffer.eraseHead + index) c }

/-- `str.insert(pos, s)` -/
def insertAt (pos : Nat) (s : List Byte) : BufferLikeString :=
  { buffer with str := buffer.str.take pos ++ s ++ buffer.str.drop pos }

def moveData : BufferLikeString :=
  if buffer.eraseHead ≠ 0 then
    { buffer with str := buffer.str.drop buffer.eraseHead, eraseHead := 0 }
  else buffer

def erase (pos n : Nat) : BufferLikeString × Answer :=
  if pos = 0 then
    if n ≠ npos then
      if n > buffer.size then
        (buffer, .thrown (.message "BufferLikeString::erase out_of_range in head"))
      else
        let erased := { buffer with eraseHead := buffer.eraseHead + n }
        (erased.poke erased.size 0, .done)
    else
      let erased := { buffer with eraseHead := 0, eraseTail := buffer.str.length }
      (erased.poke 0 0, .done)
  else if n = npos ∨ add pos n ≥ buffer.size then
    if pos ≥ buffer.size then
      (buffer, .thrown (.message "BufferLikeString::erase out_of_range in tail"))
    else
      let erased := { buffer with eraseTail := buffer.eraseTail + sub buffer.size pos }
      (erased.poke erased.size 0, .done)
  else if add pos n > buffer.size then
    (buffer, .thrown (.message "BufferLikeString::erase out_of_range in middle"))
  else
    ({ buffer with
        str := buffer.str.take (buffer.eraseHead + pos) ++
          buffer.str.drop (buffer.eraseHead + pos + n) }, .done)

def append (data : List Byte) (capacity : Nat) : BufferLikeString × Answer :=
  if data.length = 0 then (buffer, .done)
  else
    let moved := if buffer.eraseHead > capacity / 2 then buffer.moveData else buffer
    (if moved.eraseTail = 0 then { moved with str := moved.str ++ data }
      else moved.insertAt (moved.eraseHead + moved.size) data, .done)

def pushBack (c : Byte) : BufferLikeString × Answer :=
  if buffer.eraseTail = 0 then ({ buffer with str := buffer.str ++ [c] }, .done)
  else
    let written := buffer.poke buffer.size c
    let written := { written with eraseTail := written.eraseTail - 1 }
    (written.poke written.size 0, .done)

def insert (pos : Nat) (s : List Byte) : BufferLikeString × Answer :=
  if add buffer.eraseHead pos > buffer.str.length then (buffer, .thrown .string)
  else (buffer.insertAt (add buffer.eraseHead pos) s, .done)

def assign (data : List Byte) : BufferLikeString × Answer :=
  if data.length = 0 then (buffer, .done)
  else ({ str := data, eraseHead := 0, eraseTail := 0 }, .done)

/-- The head is moved before the length is looked at. -/
def assignWithin (start len : Nat) : BufferLikeString × Answer :=
  if len = 0 then (buffer, .done)
  else
    let offset := buffer.eraseHead + start
    let moved := { buffer with eraseHead := offset }
    if offset + len > buffer.str.length then
      (moved, .thrown (.message "BufferLikeString::assign out_of_range"))
    else ({ moved with eraseTail := buffer.str.length - (offset + len) }, .done)

def clear : BufferLikeString × Answer := ({ str := [], eraseHead := 0, eraseTail := 0 }, .done)

def get (pos : Nat) : BufferLikeString × Answer :=
  if pos ≥ buffer.size then
    (buffer, .thrown (.message "BufferLikeString::operator[] out_of_range"))
  else (buffer, .octet (buffer.str[buffer.eraseHead + pos]?.getD 0))

def set (pos : Nat) (c : Byte) : BufferLikeString × Answer :=
  if pos ≥ buffer.size then
    (buffer, .thrown (.message "BufferLikeString::operator[] out_of_range"))
  else (buffer.poke pos c, .done)

/-- The string underneath is resized, and nothing counts as erased any more. -/
def resize (size : Nat) (c : Byte) : BufferLikeString × Answer :=
  ({ str := buffer.str.take size ++ List.replicate (size - buffer.str.length) c,
     eraseHead := 0, eraseTail := 0 }, .done)

def substr (pos n : Nat) : BufferLikeString × Answer :=
  if n = npos then
    if pos ≥ buffer.size then
      (buffer, .thrown (.message "BufferLikeString::substr out_of_range"))
    else (buffer, .octets ((buffer.str.drop (buffer.eraseHead + pos)).take (buffer.size - pos)))
  else if add pos n > buffer.size then
    (buffer, .thrown (.message "BufferLikeString::substr out_of_range"))
  else (buffer, .octets ((buffer.str.drop (buffer.eraseHead + pos)).take n))

end BufferLikeString

def lazyString : Object BufferLikeString Operation Answer := fun buffer operation =>
  match operation with
  | .erase pos n => buffer.erase pos n
  | .append data capacity => buffer.append data capacity
  | .pushBack c => buffer.pushBack c
  | .insert pos s => buffer.insert pos s
  | .assign data => buffer.assign data
  | .assignWithin start len => buffer.assignWithin start len
  | .clear => BufferLikeString.clear
  | .get pos => buffer.get pos
  | .set pos c => buffer.set pos c
  | .resize size c => buffer.resize size c
  | .substr pos n => buffer.substr pos n
  | .size => (buffer, .size buffer.size)

/-! ## What it stands for -/

/-- The octets erased in front of what is left, what is left, and those erased behind it. -/
structure Around (buffer : BufferLikeString) (before text behind : List Byte) : Prop where
  str : buffer.str = before ++ text ++ behind
  eraseHead : buffer.eraseHead = before.length
  eraseTail : buffer.eraseTail = behind.length
  fits : buffer.str.length < sizes

def StandsFor (buffer : BufferLikeString) (text : List Byte) : Prop :=
  ∃ before behind, Around buffer before text behind

/-- `data()[size()]` is zero, so that `data()` is a C string. -/
def Terminated (buffer : BufferLikeString) : Prop :=
  ∃ before text behind, Around buffer before text behind ∧ ∀ octet ∈ behind.head?, octet = 0

def plainString : Object (List Byte) Operation Answer := fun text operation =>
  match operation with
  | .erase pos n =>
      if pos = 0 then
        if n = npos then ([], .done)
        else if n > text.length then
          (text, .thrown (.message "BufferLikeString::erase out_of_range in head"))
        else (text.drop n, .done)
      else if n = npos ∨ text.length ≤ pos + n then
        if text.length ≤ pos then
          (text, .thrown (.message "BufferLikeString::erase out_of_range in tail"))
        else (text.take pos, .done)
      else (text.take pos ++ text.drop (pos + n), .done)
  | .append data _ => (text ++ data, .done)
  | .pushBack c => (text ++ [c], .done)
  | .insert pos s => (text.take pos ++ s ++ text.drop pos, .done)
  | .assign data => (if data = [] then text else data, .done)
  | .assignWithin start len => (if len = 0 then text else (text.drop start).take len, .done)
  | .clear => ([], .done)
  | .get pos =>
      (text, match text[pos]? with
        | some octet => .octet octet
        | none => .thrown (.message "BufferLikeString::operator[] out_of_range"))
  | .set pos c =>
      if pos < text.length then (text.set pos c, .done)
      else (text, .thrown (.message "BufferLikeString::operator[] out_of_range"))
  | .resize size c => (text.take size ++ List.replicate (size - text.length) c, .done)
  | .substr pos n =>
      (text, if n = npos then
        if pos < text.length then .octets (text.drop pos)
        else .thrown (.message "BufferLikeString::substr out_of_range")
      else if pos + n ≤ text.length then .octets ((text.drop pos).take n)
      else .thrown (.message "BufferLikeString::substr out_of_range"))
  | .size => (text, .size text.length)

/-- The calls that see no more of the string than what is left of it. No sum of sizes wraps,
nothing is inserted behind the end, and nothing erased is resized into. -/
def Visible (buffer : BufferLikeString) : Operation → Prop
  | .erase pos n | .substr pos n => n = npos ∨ pos + n < sizes
  | .append data _ => buffer.str.length + data.length < sizes
  | .pushBack _ => buffer.str.length + 1 < sizes
  | .insert pos s => pos ≤ buffer.size ∧ buffer.str.length + s.length < sizes
  | .assign data => data.length < sizes
  | .assignWithin start len => start + len ≤ buffer.size
  | .resize size _ =>
      buffer.eraseHead = 0 ∧ (buffer.eraseTail = 0 ∨ size ≤ buffer.size) ∧ size < sizes
  | _ => True

/-- An assignment from the string itself leaves the octet behind as it is. -/
def Operation.Terminates : Operation → Prop
  | .assignWithin _ len => len = 0
  | _ => True

theorem sub_of_le {size n : Nat} (most : n ≤ size) (fits : size < sizes) :
    BufferLikeString.sub size n = size - n := by
  rw [BufferLikeString.sub, ← Nat.add_sub_assoc (by omega), Nat.sub_add_comm most,
    Nat.add_mod_right, Nat.mod_eq_of_lt (by omega)]

theorem add_of_lt {pos n : Nat} (fits : pos + n < sizes) :
    BufferLikeString.add pos n = pos + n :=
  Nat.mod_eq_of_lt fits

section Around

variable {buffer : BufferLikeString} {before text behind : List Byte}

theorem Around.of_lists (before text behind : List Byte)
    (fits : before.length + text.length + behind.length < sizes) :
    Around ⟨before ++ text ++ behind, before.length, behind.length⟩ before text behind := by
  constructor
  · rfl
  · rfl
  · rfl
  · rw [List.length_append, List.length_append]
    exact fits

variable (around : Around buffer before text behind)

include around

theorem Around.eq : buffer = ⟨before ++ text ++ behind, before.length, behind.length⟩ := by
  cases buffer
  obtain ⟨str, eraseHead, eraseTail, -⟩ := around
  subst str eraseHead eraseTail
  rfl

theorem Around.length : buffer.str.length = before.length + text.length + behind.length := by
  rw [around.str, List.length_append, List.length_append]

theorem Around.lengths : before.length + text.length + behind.length < sizes := by
  rw [← around.length]
  exact around.fits

theorem Around.size : buffer.size = text.length := by
  have fits := around.lengths
  rw [BufferLikeString.size, around.eraseHead, around.eraseTail, around.length,
    sub_of_le (by omega) fits, Nat.add_sub_cancel, sub_of_le (by omega) (by omega),
    Nat.add_sub_cancel_left]

theorem Around.poke (index : Nat) (c : Byte) (inside : index < text.length) :
    Around (buffer.poke index c) before (text.set index c) behind := by
  rw [around.eq, BufferLikeString.poke]
  have str : (before ++ text ++ behind).set (before.length + index) c =
      before ++ text.set index c ++ behind := by
    rw [List.append_assoc, List.set_append_right _ _ (Nat.le_add_right _ _),
      Nat.add_sub_cancel_left, List.set_append_left _ _ inside, List.append_assoc]
  dsimp only
  rw [str]
  apply Around.of_lists
  rw [List.length_set]
  exact around.lengths

theorem Around.poke_behind (c : Byte) :
    Around (buffer.poke buffer.size c) before text (behind.set 0 c) := by
  rw [around.size, around.eq, BufferLikeString.poke]
  have str : (before ++ text ++ behind).set (before.length + text.length) c =
      before ++ text ++ behind.set 0 c := by
    rw [List.set_append_right _ _ (Nat.le_of_eq List.length_append), List.length_append,
      Nat.sub_self]
  dsimp only
  rw [str]
  have length : (behind.set 0 c).length = behind.length := List.length_set
  rw [← length]
  apply Around.of_lists
  rw [length]
  exact around.lengths

end Around

/-! ## Each operation -/

section Operations

variable {buffer : BufferLikeString} {before text behind : List Byte}
  (around : Around buffer before text behind)

/-- `before` and `behind` may change with the text, and the terminator stays. -/
def Becomes (buffer : BufferLikeString) (text behind : List Byte) : Prop :=
  ∃ before' behind', Around buffer before' text behind' ∧
    ((∀ octet ∈ behind.head?, octet = 0) → ∀ octet ∈ behind'.head?, octet = 0)

theorem zero_first (behind : List Byte) : ∀ octet ∈ (behind.set 0 0).head?, octet = 0 := by
  intro octet first
  cases behind with
  | nil => cases first
  | cons erased rest =>
      rw [List.set_cons_zero, List.head?_cons, Option.mem_some_iff] at first
      exact first.symm

include around

theorem Around.becomes : Becomes buffer text behind := ⟨before, behind, around, id⟩

theorem erase_front {n : Nat} (most : n ≤ text.length) :
    let erased := { buffer with eraseHead := buffer.eraseHead + n }
    Becomes (erased.poke erased.size 0) (text.drop n) behind := by
  intro erased
  have moved : Around erased (before ++ text.take n) (text.drop n) behind := by
    constructor
    · rw [List.append_assoc before, List.take_append_drop]
      exact around.str
    · rw [List.length_append, List.length_take, Nat.min_eq_left most]
      exact congrArg (· + n) around.eraseHead
    · exact around.eraseTail
    · exact around.fits
  exact ⟨_, _, moved.poke_behind 0, fun _ => zero_first behind⟩

theorem erase_all :
    Becomes (BufferLikeString.poke ⟨buffer.str, 0, buffer.str.length⟩ 0 0) [] behind := by
  have moved : Around ⟨buffer.str, 0, buffer.str.length⟩ [] [] buffer.str :=
    ⟨rfl, rfl, rfl, around.fits⟩
  have poked := moved.poke_behind 0
  rw [moved.size] at poked
  exact ⟨_, _, poked, fun _ => zero_first buffer.str⟩

theorem erase_back {pos : Nat} (inside : pos < text.length) :
    let erased := { buffer with
      eraseTail := (buffer.eraseTail + BufferLikeString.sub buffer.size pos) }
    Becomes (erased.poke erased.size 0) (text.take pos) behind := by
  intro erased
  have moved : Around erased before (text.take pos) (text.drop pos ++ behind) := by
    have fits := around.lengths
    constructor
    · rw [← List.append_assoc, List.append_assoc before, List.take_append_drop]
      exact around.str
    · exact around.eraseHead
    · rw [List.length_append, List.length_drop, Nat.add_comm]
      refine congrArg₂ (· + ·) around.eraseTail ?_
      rw [around.size, sub_of_le (by omega) (by omega)]
    · exact around.fits
  exact ⟨_, _, moved.poke_behind 0, fun _ => zero_first _⟩

theorem erase_middle {pos n : Nat} (inside : pos + n ≤ text.length) :
    Becomes ⟨buffer.str.take (buffer.eraseHead + pos) ++
        buffer.str.drop (buffer.eraseHead + pos + n), buffer.eraseHead, buffer.eraseTail⟩
      (text.take pos ++ text.drop (pos + n)) behind := by
  have kept : buffer.str.take (buffer.eraseHead + pos) ++
      buffer.str.drop (buffer.eraseHead + pos + n) =
        before ++ (text.take pos ++ text.drop (pos + n)) ++ behind := by
    rw [around.str, around.eraseHead, List.append_assoc, List.take_length_add_append,
      List.take_append_of_le_length (by omega), Nat.add_assoc, List.drop_length_add_append,
      List.drop_append_of_le_length inside, List.append_assoc, List.append_assoc, List.append_assoc]
  rw [kept, around.eraseHead, around.eraseTail]
  have lengths := around.lengths
  refine ⟨before, behind, Around.of_lists _ _ _ ?_, id⟩
  rw [List.length_append, List.length_take, List.length_drop]
  omega

/-- Moving the octets to the front of the string changes nothing. -/
theorem move_data : Around buffer.moveData [] text behind ∨
    (before = [] ∧ buffer.moveData = buffer) := by
  rw [BufferLikeString.moveData]
  split_ifs with erased
  · left
    rw [around.str, around.eraseHead, around.eraseTail, List.append_assoc, List.drop_left]
    have lengths := around.lengths
    exact Around.of_lists [] text behind (by rw [List.length_nil]; omega)
  · right
    rw [not_not, around.eraseHead, List.length_eq_zero_iff] at erased
    exact ⟨erased, rfl⟩

theorem insert_at {pos : Nat} (inside : pos ≤ text.length) {s : List Byte}
    (fits : buffer.str.length + s.length < sizes) :
    Becomes (buffer.insertAt (buffer.eraseHead + pos) s) (text.take pos ++ s ++ text.drop pos)
      behind := by
  have put : buffer.insertAt (buffer.eraseHead + pos) s =
      ⟨before ++ (text.take pos ++ s ++ text.drop pos) ++ behind, before.length,
        behind.length⟩ := by
    rw [BufferLikeString.insertAt, around.str, around.eraseHead, around.eraseTail,
      List.append_assoc before text, List.take_length_add_append, List.drop_length_add_append,
      List.take_append_of_le_length inside, List.drop_append_of_le_length inside]
    simp only [List.append_assoc]
  rw [put]
  rw [around.length] at fits
  refine ⟨before, behind, Around.of_lists _ _ _ ?_, id⟩
  rw [List.length_append, List.length_append, List.length_take, List.length_drop]
  omega

theorem put_behind (data : List Byte)
    (fits : buffer.str.length + data.length < sizes) :
    Becomes (if buffer.eraseTail = 0 then { buffer with str := buffer.str ++ data }
      else buffer.insertAt (buffer.eraseHead + buffer.size) data) (text ++ data) behind := by
  split_ifs with nothing
  · rw [around.eraseTail, List.length_eq_zero_iff] at nothing
    subst nothing
    have length := around.length
    have made := Around.of_lists before (text ++ data) [] (by rw [List.length_append]; omega)
    rw [List.append_nil, ← List.append_assoc] at made
    rw [around.eq, List.append_nil]
    exact ⟨before, [], made, id⟩
  · have put := insert_at around (Nat.le_refl text.length) fits
    rw [List.take_length, List.drop_length, List.append_nil, ← around.size] at put
    exact put

theorem append_becomes {data : List Byte} (capacity : Nat)
    (fits : buffer.str.length + data.length < sizes) :
    Becomes (buffer.append data capacity).1 (text ++ data) behind := by
  rw [BufferLikeString.append]
  by_cases empty : data.length = 0
  · rw [if_pos empty, List.length_eq_zero_iff.mp empty, List.append_nil]
    exact around.becomes
  rw [if_neg empty]
  by_cases far : buffer.eraseHead > capacity / 2
  · simp only [if_pos far]
    obtain front | ⟨-, same⟩ := move_data around
    · apply put_behind front data
      have length := front.length
      rw [around.length] at fits
      rw [List.length_nil] at length
      omega
    · rw [same]
      exact put_behind around data fits
  · simp only [if_neg far]
    exact put_behind around data fits

theorem push_back_becomes (c : Byte) (fits : buffer.str.length + 1 < sizes) :
    Becomes (buffer.pushBack c).1 (text ++ [c]) behind := by
  rw [BufferLikeString.pushBack]
  cases behind with
  | nil =>
      have nothing : buffer.eraseTail = 0 := around.eraseTail
      have put := put_behind around [c] fits
      rw [if_pos nothing] at put
      rw [if_pos nothing]
      exact put
  | cons erased rest =>
      have tail : buffer.eraseTail = rest.length + 1 := around.eraseTail
      rw [if_neg (by omega)]
      have written := around.poke_behind c
      rw [List.set_cons_zero] at written
      have grown : Around { buffer.poke buffer.size c with
          eraseTail := (buffer.poke buffer.size c).eraseTail - 1 } before (text ++ [c]) rest := by
        constructor
        · rw [List.append_assoc, List.append_assoc, List.singleton_append, ← List.append_assoc]
          exact written.str
        · exact written.eraseHead
        · exact congrArg (· - 1) written.eraseTail
        · exact written.fits
      exact ⟨_, _, grown.poke_behind 0, fun _ => zero_first rest⟩

theorem assign_within {start len : Nat} (inside : start + len ≤ text.length) (some : len ≠ 0) :
    (buffer.assignWithin start len).2 = .done ∧
      StandsFor (buffer.assignWithin start len).1 ((text.drop start).take len) := by
  have length := around.length
  have fits := around.fits
  have head := around.eraseHead
  rw [BufferLikeString.assignWithin, if_neg some, if_neg (by omega)]
  have parts : text = text.take start ++ (text.drop start).take len ++ text.drop (start + len) := by
    rw [List.append_assoc, ← List.drop_drop, List.take_append_drop, List.take_append_drop]
  refine ⟨rfl, before ++ text.take start, text.drop (start + len) ++ behind, ?_, ?_, ?_, fits⟩
  · show buffer.str = _
    rw [around.str]
    conv_lhs => rw [parts]
    simp only [List.append_assoc]
  · show buffer.eraseHead + start = _
    rw [List.length_append, List.length_take, head]
    omega
  · show buffer.str.length - (buffer.eraseHead + start + len) = _
    rw [List.length_append, List.length_drop]
    omega

/-- The answer is the plain string's, and what is left becomes the plain string's. -/
def Agrees (buffer : BufferLikeString) (text behind : List Byte) (operation : Operation) : Prop :=
  (lazyString buffer operation).2 = (plainString text operation).2 ∧
    Becomes (lazyString buffer operation).1 (plainString text operation).1 behind

theorem erase_agrees (pos n : Nat) (visible : Visible buffer (.erase pos n)) :
    Agrees buffer text behind (.erase pos n) := by
  have size := around.size
  have fits := around.lengths
  rw [Agrees, lazyString, plainString, BufferLikeString.erase]
  by_cases front : pos = 0
  · rw [if_pos front, if_pos front]
    by_cases all : n = npos
    · rw [if_neg (not_not.mpr all), if_pos all]
      exact ⟨rfl, erase_all around⟩
    rw [if_pos all, if_neg all, size]
    by_cases most : n > text.length
    · rw [if_pos most, if_pos most]
      exact ⟨rfl, around.becomes⟩
    · rw [if_neg most, if_neg most]
      exact ⟨rfl, erase_front around (Nat.le_of_not_lt most)⟩
  rw [if_neg front, if_neg front]
  have sum : n = npos ∨ BufferLikeString.add pos n ≥ buffer.size ↔
      n = npos ∨ text.length ≤ pos + n := by
    rw [size]
    by_cases all : n = npos
    · exact ⟨fun _ => .inl all, fun _ => .inl all⟩
    · rw [add_of_lt (visible.resolve_left all)]
  by_cases last : n = npos ∨ text.length ≤ pos + n
  · rw [if_pos (sum.mpr last), if_pos last, size]
    by_cases outside : pos ≥ text.length
    · rw [if_pos outside, if_pos outside]
      exact ⟨rfl, around.becomes⟩
    · rw [if_neg outside, if_neg outside, ← size]
      exact ⟨rfl, erase_back around (Nat.lt_of_not_le outside)⟩
  · rw [if_neg (mt sum.mp last), if_neg last]
    rw [not_or, Nat.not_le] at last
    rw [add_of_lt (visible.resolve_left last.1), size, if_neg (Nat.lt_asymm last.2)]
    exact ⟨rfl, erase_middle around (Nat.le_of_lt last.2)⟩

theorem assign_agrees (data : List Byte) (visible : Visible buffer (.assign data)) :
    Agrees buffer text behind (.assign data) := by
  rw [Agrees, lazyString, plainString, BufferLikeString.assign]
  by_cases empty : data = []
  · rw [if_pos empty, if_pos (List.length_eq_zero_iff.mpr empty)]
    exact ⟨rfl, around.becomes⟩
  · rw [if_neg empty, if_neg (mt List.length_eq_zero_iff.mp empty)]
    have lengths : ([] : List Byte).length + data.length + ([] : List Byte).length < sizes := by
      rw [List.length_nil, Nat.zero_add]
      exact visible
    have made := Around.of_lists [] data [] lengths
    rw [List.nil_append, List.append_nil] at made
    exact ⟨rfl, [], [], made, fun _ _ first => nomatch first⟩

theorem get_agrees (pos : Nat) : Agrees buffer text behind (.get pos) := by
  rw [Agrees, lazyString, plainString, BufferLikeString.get, around.size]
  by_cases outside : pos ≥ text.length
  · rw [if_pos outside, List.getElem?_eq_none outside]
    exact ⟨rfl, around.becomes⟩
  · rw [if_neg outside, around.str, around.eraseHead, List.append_assoc,
      List.getElem?_append_right (Nat.le_add_right _ _), Nat.add_sub_cancel_left,
      List.getElem?_append_left (Nat.lt_of_not_le outside),
      List.getElem?_eq_getElem (Nat.lt_of_not_le outside)]
    exact ⟨rfl, around.becomes⟩

theorem set_agrees (pos : Nat) (c : Byte) : Agrees buffer text behind (.set pos c) := by
  rw [Agrees, lazyString, plainString, BufferLikeString.set, around.size]
  by_cases outside : pos ≥ text.length
  · rw [if_pos outside, if_neg (Nat.not_lt_of_le outside)]
    exact ⟨rfl, around.becomes⟩
  · have inside := Nat.lt_of_not_le outside
    rw [if_neg outside, if_pos inside]
    exact ⟨rfl, (around.poke pos c inside).becomes⟩

theorem resize_agrees (size : Nat) (c : Byte) (visible : Visible buffer (.resize size c)) :
    Agrees buffer text behind (.resize size c) := by
  obtain ⟨head, hidden, fits⟩ := visible
  rw [around.eraseHead, List.length_eq_zero_iff] at head
  subst head
  have same : buffer.str.take size ++ List.replicate (size - buffer.str.length) c =
      text.take size ++ List.replicate (size - text.length) c := by
    rw [around.eraseTail, List.length_eq_zero_iff, around.size] at hidden
    have length := around.length
    rw [around.str, List.nil_append]
    obtain nothing | shorter := hidden
    · rw [nothing, List.append_nil]
    · rw [List.take_append_of_le_length shorter, List.length_append,
        Nat.sub_eq_zero_of_le shorter, Nat.sub_eq_zero_of_le (by omega)]
  rw [Agrees, lazyString, plainString, BufferLikeString.resize, same]
  have made := Around.of_lists [] (text.take size ++ List.replicate (size - text.length) c) []
    (by rw [List.length_append, List.length_take, List.length_replicate, List.length_nil]; omega)
  rw [List.nil_append, List.append_nil] at made
  exact ⟨rfl, [], [], made, fun _ _ first => nomatch first⟩

theorem substr_agrees (pos n : Nat) (visible : Visible buffer (.substr pos n)) :
    Agrees buffer text behind (.substr pos n) := by
  have size := around.size
  have fits := around.lengths
  rw [Agrees, lazyString, plainString, BufferLikeString.substr, size]
  have part {pos n : Nat} (inside : pos + n ≤ text.length) :
      (buffer.str.drop (buffer.eraseHead + pos)).take n = (text.drop pos).take n := by
    rw [around.str, around.eraseHead, List.append_assoc, List.drop_length_add_append,
      List.drop_append_of_le_length (by omega),
      List.take_append_of_le_length (by rw [List.length_drop]; omega)]
  by_cases all : n = npos
  · rw [if_pos all, if_pos all]
    by_cases outside : pos ≥ text.length
    · rw [if_pos outside, if_neg (Nat.not_lt_of_le outside)]
      exact ⟨rfl, around.becomes⟩
    · rw [if_neg outside, if_pos (Nat.lt_of_not_le outside), part (by omega),
        List.take_of_length_le (Nat.le_of_eq List.length_drop)]
      exact ⟨rfl, around.becomes⟩
  · rw [if_neg all, if_neg all, add_of_lt (visible.resolve_left all)]
    by_cases outside : pos + n > text.length
    · rw [if_pos outside, if_neg (Nat.not_le_of_lt outside)]
      exact ⟨rfl, around.becomes⟩
    · rw [if_neg outside, if_pos (Nat.le_of_not_lt outside), part (Nat.le_of_not_lt outside)]
      exact ⟨rfl, around.becomes⟩

end Operations

/-! ## Any calls -/

/-- Each call answers as on a plain string, and keeps the terminator unless it assigns from the
string itself. -/
theorem call_agrees {buffer : BufferLikeString} {before text behind : List Byte}
    (around : Around buffer before text behind) {operation : Operation}
    (visible : Visible buffer operation) :
    (lazyString buffer operation).2 = (plainString text operation).2 ∧
      StandsFor (lazyString buffer operation).1 (plainString text operation).1 ∧
      (operation.Terminates → (∀ octet ∈ behind.head?, octet = 0) →
        Terminated (lazyString buffer operation).1) := by
  have of_agrees {operation : Operation} (agrees : Agrees buffer text behind operation) :
      (lazyString buffer operation).2 = (plainString text operation).2 ∧
        StandsFor (lazyString buffer operation).1 (plainString text operation).1 ∧
        (operation.Terminates → (∀ octet ∈ behind.head?, octet = 0) →
          Terminated (lazyString buffer operation).1) := by
    obtain ⟨answer, before', behind', around', zero⟩ := agrees
    exact ⟨answer, ⟨before', behind', around'⟩,
      fun _ first => ⟨before', _, behind', around', zero first⟩⟩
  cases operation with
  | erase pos n => exact of_agrees (erase_agrees around pos n visible)
  | append data capacity => exact of_agrees ⟨by
      rw [lazyString, plainString, BufferLikeString.append]
      split_ifs <;> rfl, append_becomes around capacity visible⟩
  | pushBack c => exact of_agrees ⟨by
      rw [lazyString, plainString, BufferLikeString.pushBack]
      split_ifs <;> rfl, push_back_becomes around c visible⟩
  | insert pos s =>
      apply of_agrees
      have size := around.size
      have length := around.length
      have fits := around.fits
      have head := around.eraseHead
      obtain ⟨inside, grows⟩ := visible
      rw [size] at inside
      rw [Agrees, lazyString, plainString, BufferLikeString.insert, add_of_lt (by omega),
        if_neg (by omega)]
      exact ⟨rfl, insert_at around inside grows⟩
  | assign data => exact of_agrees (assign_agrees around data visible)
  | assignWithin start len =>
      by_cases nothing : len = 0
      · apply of_agrees
        rw [Agrees, lazyString, plainString, BufferLikeString.assignWithin, if_pos nothing,
          if_pos nothing]
        exact ⟨rfl, around.becomes⟩
      · rw [Visible, around.size] at visible
        obtain ⟨answer, stands⟩ := assign_within around visible nothing
        rw [plainString, if_neg nothing]
        exact ⟨answer, stands, fun terminates => absurd terminates nothing⟩
  | clear =>
      have made := Around.of_lists [] [] [] (Nat.two_pow_pos 64)
      exact of_agrees ⟨rfl, [], [], made, fun _ _ first => nomatch first⟩
  | get pos => exact of_agrees (get_agrees around pos)
  | set pos c => exact of_agrees (set_agrees around pos c)
  | resize size c => exact of_agrees (resize_agrees around size c visible)
  | substr pos n => exact of_agrees (substr_agrees around pos n visible)
  | size => exact of_agrees ⟨congrArg Answer.size around.size, around.becomes⟩

theorem lazy_string_implements :
    Object.Implements lazyString plainString StandsFor Visible := by
  intro buffer text operation ⟨before, behind, around⟩ visible
  obtain ⟨answer, stands, -⟩ := call_agrees around visible
  exact ⟨answer, stands⟩

end KnxDemo.LazyString
