import KnxDemo.Knx.Wrapper

/-!
# What the stack contributes

The handler parses the whole receive array, whatever was received. A datagram
that ends inside the header, or right behind it where a connection response
keeps its channel, lets octets of the stack decide what the client learns.
-/

namespace KnxDemo.KnxStackContent

open KnxDemo.Bytes KnxDemo.KnxProto KnxDemo.KnxParsing KnxDemo.KnxWrapper
open KnxDemo.Interaction KnxDemo.Interaction.Loader

/-- The client after a datagram is the same whatever the stack held. -/
def StackIndependent (datagram : Datagram) (client : KnxClient) : Prop :=
  ∀ stack other, receive stack datagram client = receive other datagram client

def MayAnnounce (datagram : Datagram) (service : Nat) : Prop :=
  datagram.octets.take 4 <+: serviceOctets service

/-- The datagram is the six octets of a connection response header that declares room
for a channel, and nothing more. -/
def BareConnectionResponse (datagram : Datagram) : Prop :=
  datagram.octets.length = 6 ∧ MayAnnounce datagram knxConnectionResponse ∧
    8 ≤ declaredLength (datagram.buffer fun _ => 0)

def LearnsFromStack (datagram : Datagram) : Prop :=
  0 < datagram.octets.length ∧ datagram.octets.length < 6 ∧
      (MayAnnounce datagram knxSearchResponse ∨ MayAnnounce datagram knxConnectionResponse) ∨
    BareConnectionResponse datagram

section Datagram

variable (datagram : Datagram)

theorem may_announce_of_announces {stack : Nat → Byte} {service : Nat} (small : service < 65536)
    (announced : Announces (datagram.buffer stack) service) : MayAnnounce datagram service := by
  have held := ((announces_iff _ small).mp announced).1
  exact ((Buffer.holds_storeBlock_zero_iff _ _ _).mp held).1

/-! ## Datagrams that do not reach the stack -/

section Complete

variable (stack other : Nat → Byte)

theorem declared_length_agree (complete : 6 ≤ datagram.octets.length) :
    declaredLength (datagram.buffer stack) = declaredLength (datagram.buffer other) := by
  rw [declaredLength, declaredLength, buffer_agree stack datagram other 4 (by omega),
    buffer_agree stack datagram other 5 (by omega)]

theorem announces_agree (complete : 6 ≤ datagram.octets.length) (service : Nat) :
    Announces (datagram.buffer stack) service ↔ Announces (datagram.buffer other) service := by
  rw [Announces, Announces, HeaderValid, HeaderValid, declaredService, declaredService,
    declared_length_agree datagram stack other complete,
    buffer_agree stack datagram other 0 (by omega),
    buffer_agree stack datagram other 1 (by omega), buffer_agree stack datagram other 2 (by omega),
    buffer_agree stack datagram other 3 (by omega)]

theorem search_host_agree (complete : 6 ≤ datagram.octets.length) :
    searchHost (datagram.buffer stack) datagram.octets.length =
      searchHost (datagram.buffer other) datagram.octets.length := by
  rw [searchHost_eq, searchHost_eq, size_behind_header datagram complete]
  apply congrArg Prod.snd
  apply eval_congr
  intro address member
  obtain ⟨long, _, inside⟩ := mem_footprint_host_info_parse member
  apply buffer_agree
  simp only [knxHeaderSize, knxHostInfoSize] at long inside
  omega

theorem response_channel_agree (complete : 6 ≤ datagram.octets.length)
    (announced : Announces (datagram.buffer stack) knxConnectionResponse)
    (inside : ¬ BareConnectionResponse datagram) :
    responseChannel (datagram.buffer stack) = responseChannel (datagram.buffer other) := by
  have length := declared_length_agree datagram stack other complete
  rw [responseChannel, responseChannel, ← length]
  by_cases brief : declaredLength (datagram.buffer stack) < 8
  · rw [if_pos brief, if_pos brief]
  · have channel : 6 < datagram.octets.length := by
      apply Nat.lt_of_le_of_ne complete
      intro bare
      apply inside
      refine ⟨bare.symm, may_announce_of_announces datagram (by decide) announced, ?_⟩
      rw [← declared_length_agree datagram stack _ complete]
      omega
    rw [buffer_agree stack datagram other 6 channel]

end Complete

theorem independent_of_complete (complete : 6 ≤ datagram.octets.length)
    (inside : ¬ BareConnectionResponse datagram) (client : KnxClient) :
    StackIndependent datagram client := by
  intro stack other
  have nonempty : 0 < datagram.octets.length := by omega
  have agree := announces_agree datagram stack other complete
  by_cases search : Announces (datagram.buffer stack) knxSearchResponse
  · rw [receive_search _ _ _ nonempty search,
      receive_search _ _ _ nonempty ((agree _).mp search),
      search_host_agree datagram stack other complete]
  · by_cases connection : Announces (datagram.buffer stack) knxConnectionResponse
    · rw [receive_connection _ _ _ nonempty connection,
        receive_connection _ _ _ nonempty ((agree _).mp connection),
        response_channel_agree datagram stack other complete connection inside]
    · rw [receive_other _ _ _ search connection]
      rw [agree] at search connection
      rw [receive_other _ _ _ search connection]

theorem independent_of_foreign (search : ¬ MayAnnounce datagram knxSearchResponse)
    (connection : ¬ MayAnnounce datagram knxConnectionResponse) (client : KnxClient) :
    StackIndependent datagram client := by
  have unchanged : ∀ stack, receive stack datagram client = client := fun stack =>
    receive_other stack datagram client
      (fun announced => search (may_announce_of_announces datagram (by decide) announced))
      (fun announced => connection (may_announce_of_announces datagram (by decide) announced))
  intro stack other
  rw [unchanged, unchanged]

/-! ## Stacks that decide -/

/-- A stack that completes a header naming a service, with a declared length of at least
eight, and goes on with the given octets. -/
def image (service : Nat) (octets : List Byte) : Nat → Byte :=
  fun index => ((serviceOctets service ++ [1, 8] ++ octets)[index]?).getD 0

theorem behind_image (short : datagram.octets.length ≤ 6) (service : Nat)
    (octets : List Byte) (index : Nat) :
    datagram.buffer (image service octets) (6 + index) = (octets[index]?).getD 0 := by
  rw [buffer_outside _ _ _ (by omega), image, List.getElem?_append_right]
  · congr 2
    exact Nat.add_sub_cancel_left _ _
  · exact Nat.le_add_right _ _

theorem image_declares (incomplete : datagram.octets.length < 6) (service : Nat)
    (octets : List Byte) :
    8 ≤ declaredLength (datagram.buffer (image service octets)) := by
  have low : datagram.buffer (image service octets) 5 = 8 :=
    buffer_outside _ _ _ (by omega)
  rw [declaredLength, toNat_word, low]
  exact Nat.le_add_left _ _

theorem image_announces (incomplete : datagram.octets.length < 6) {service : Nat}
    (small : service < 65536) (may : MayAnnounce datagram service) (octets : List Byte) :
    Announces (datagram.buffer (image service octets)) service := by
  have declares := image_declares datagram incomplete service octets
  rw [announces_iff _ small]
  constructor
  · apply (Buffer.holds_storeBlock_zero_iff _ _ _).mpr
    refine ⟨may, fun index inside _ => ?_⟩
    rw [Buffer.memory_fresh, image, List.append_assoc, List.getElem?_append_left inside,
      List.getElem?_eq_getElem inside, Option.getD_some]
  · rw [knxHeaderSize]
    omega

def searchImage (port : Byte) : Nat → Byte :=
  image knxSearchResponse [8, 1, 0, 0, 0, 0, 0, port]

theorem port_from_stack (incomplete : datagram.octets.length < 6)
    (nonempty : 0 < datagram.octets.length) (may : MayAnnounce datagram knxSearchResponse)
    (client : KnxClient) (port : Byte) :
    (receive (searchImage port) datagram client).remotePort = port.toNat := by
  have announced : Announces (datagram.buffer (searchImage port)) knxSearchResponse :=
    image_announces datagram incomplete (by decide) may _
  have behind : ∀ index, datagram.buffer (searchImage port) (6 + index) =
      (([8, 1, 0, 0, 0, 0, 0, port] : List Byte)[index]?).getD 0 :=
    behind_image datagram (Nat.le_of_lt incomplete) _ _
  have accepted : HostAccepted (datagram.buffer (searchImage port)) knxHeaderSize
      (sizeT (datagram.octets.length - knxHeaderSize)) := by
    refine ⟨size_inside_header datagram incomplete, ?_, .inl ?_⟩
    · exact congrArg BitVec.toNat (behind 0)
    · exact congrArg BitVec.toNat (behind 1)
  have high : (hostAt (datagram.buffer (searchImage port)) knxHeaderSize).port[0] = 0 :=
    (Vector.getElem_ofFn _).trans (behind 6)
  have low : (hostAt (datagram.buffer (searchImage port)) knxHeaderSize).port[1] = port :=
    (Vector.getElem_ofFn _).trans (behind 7)
  rw [receive_search _ _ _ nonempty announced, searchHost, if_pos accepted]
  simp only [ntohs, high, low, toNat_word]
  exact congrArg Nat.cast (Nat.zero_add port.toNat)

theorem channel_from_stack (stack : Nat → Byte) (short : datagram.octets.length ≤ 6)
    (nonempty : 0 < datagram.octets.length)
    (announced : Announces (datagram.buffer stack) knxConnectionResponse)
    (declares : 8 ≤ declaredLength (datagram.buffer stack)) (client : KnxClient) :
    (receive stack datagram client).remoteChid = (stack 6).toNat := by
  rw [receive_connection _ _ _ nonempty announced, responseChannel, if_neg (by omega),
    buffer_outside _ _ _ short]

theorem dependent_of_learns (learns : LearnsFromStack datagram) (client : KnxClient) :
    ¬ StackIndependent datagram client := by
  intro independent
  rcases learns with ⟨nonempty, incomplete, may | may⟩ | ⟨length, may, declares⟩
  · have equal := congrArg KnxClient.remotePort (independent (searchImage 1) (searchImage 2))
    rw [port_from_stack datagram incomplete nonempty may client,
      port_from_stack datagram incomplete nonempty may client] at equal
    exact absurd equal (by decide)
  · have channel : ∀ octet : Byte,
        (receive (image knxConnectionResponse [octet]) datagram client).remoteChid =
          octet.toNat := fun octet =>
      channel_from_stack datagram _ (Nat.le_of_lt incomplete) nonempty
        (image_announces datagram incomplete (by decide) may _)
        (image_declares datagram incomplete _ _) client
    have equal := congrArg KnxClient.remoteChid
      (independent (image knxConnectionResponse [1]) (image knxConnectionResponse [2]))
    rw [channel, channel] at equal
    exact absurd equal (by decide)
  · have header : ∀ stack, Announces (datagram.buffer stack) knxConnectionResponse ∧
        8 ≤ declaredLength (datagram.buffer stack) := by
      intro stack
      rw [declared_length_agree datagram stack (fun _ => 0) (by omega)]
      refine ⟨(announces_iff _ (by decide)).mpr ⟨?_, ?_⟩, declares⟩
      · apply (Buffer.holds_storeBlock_zero_iff _ _ _).mpr
        refine ⟨may, fun index inside outside => ?_⟩
        rw [length_serviceOctets] at inside
        omega
      · rw [declared_length_agree datagram stack (fun _ => 0) (by omega)]
        exact Nat.le_trans (by decide) declares
    have channel : ∀ octet : Byte,
        (receive (fun _ => octet) datagram client).remoteChid = octet.toNat := fun octet =>
      channel_from_stack datagram _ (Nat.le_of_eq length) (by omega) (header _).1 (header _).2
        client
    have equal := congrArg KnxClient.remoteChid (independent (fun _ => 1) (fun _ => 2))
    rw [channel, channel] at equal
    exact absurd equal (by decide)

end Datagram

/-- What the client learns from a datagram depends on the stack for the datagrams that
let it decide, and for no other. -/
theorem stack_independent_iff (datagram : Datagram) (client : KnxClient) :
    StackIndependent datagram client ↔ ¬ LearnsFromStack datagram := by
  constructor
  · exact fun independent learns => dependent_of_learns datagram learns client independent
  · intro determined
    by_cases complete : 6 ≤ datagram.octets.length
    · exact independent_of_complete datagram complete
        (fun bare => determined (.inr bare)) client
    · by_cases nonempty : 0 < datagram.octets.length
      · apply independent_of_foreign datagram
        · exact fun may => determined (.inl ⟨nonempty, by omega, .inl may⟩)
        · exact fun may => determined (.inl ⟨nonempty, by omega, .inr may⟩)
      · intro stack other
        rw [receive_empty _ _ _ (by omega), receive_empty _ _ _ (by omega)]


/-- A connection response header without the payload it declares. -/
def bareResponse : Datagram where
  octets := [6, 16, 2, 6, 0, 8]
  received := by decide

theorem bare_response_channel_from_stack :
    ¬ ∀ (client : KnxClient) (datagram : Datagram), 1 ≤ datagram.octets.length →
      StackIndependent datagram client := by
  intro independent
  have equal := independent {} bareResponse (by decide) (fun _ => 1) (fun _ => 2)
  have one : (receive (fun _ => 1) bareResponse {}).remoteChid = 1 := by decide +kernel
  have two : (receive (fun _ => 2) bareResponse {}).remoteChid = 2 := by decide +kernel
  rw [equal, two] at one
  exact absurd one (by decide)

end KnxDemo.KnxStackContent
