import KnxDemo.Interaction.Buffer
import KnxDemo.Knx.Parsing

/-!
# What the client learns from a datagram

`knx_packet_parse` of the wrapper and the part of the client it updates. The
receive buffer is an uninitialised stack array: behind the octets received it
holds whatever the stack held. The remote address is kept as the string the
array holds up to its terminator.
-/

namespace KnxDemo.KnxWrapper

open KnxDemo.Bytes KnxDemo.KnxProto KnxDemo.KnxParse KnxDemo.KnxParsing
open KnxDemo.Interaction KnxDemo.Interaction.Loader

def knxMuilcastRecvLen : Nat := 2048 * 100

structure KnxClient where
  controlSocket : Int := 0
  tunnelSocket : Int := 0
  remoteChid : Int := 0
  remoteIp : String := ""
  remotePort : Int := 0

def initialClient (control tunnel : Int) : KnxClient where
  controlSocket := control
  tunnelSocket := tunnel

def ntohs (port : Vector Byte 2) : Nat := (word port[0] port[1]).toNat

def inetNtoa (address : Vector Byte 4) : String :=
  ".".intercalate (address.toList.map fun octet => toString octet.toNat)

/-- `n` is the result of `recvfrom`, the memory is the buffer it has stored to. -/
def knxPacketParse (n : Int) (client : KnxClient) : FrameLoader KnxClient := do
  if 0 < n then
    -- the result is not looked at
    let (_, packetOut) ← knxParse 0 knxMuilcastRecvLen {}
    if packetOut.service = knxSearchResponse then
      let (_, host) ← knxHostInfoParse knxHeaderSize (sizeT (n - knxHeaderSize)) {}
      pure { client with remotePort := ntohs host.port, remoteIp := inetNtoa host.address }
    else if packetOut.service = knxDisconnectResponse then pure client
    else if packetOut.service = knxConnectionResponse then
      pure { client with remoteChid := packetOut.payload.connRes.channel.toNat }
    else pure client
  else pure client

inductive Assignment where
  | remotePort (port : Int)
  | remoteIp (address : String)
  | remoteChid (channel : Int)
  deriving DecidableEq

def Assignment.apply (client : KnxClient) : Assignment → KnxClient
  | .remotePort port => { client with remotePort := port }
  | .remoteIp address => { client with remoteIp := address }
  | .remoteChid channel => { client with remoteChid := channel }

def Assignment.port? : Assignment → Option Int
  | .remotePort port => some port
  | _ => none

def Assignment.address? : Assignment → Option String
  | .remoteIp address => some address
  | _ => none

def Assignment.channel? : Assignment → Option Int
  | .remoteChid channel => some channel
  | _ => none

/-- `knx_packet_parse` once more, as the assignments it makes, in the order of its statements. -/
def knxPacketAssignments (n : Int) : FrameLoader (List Assignment) := do
  if 0 < n then
    let (_, packetOut) ← knxParse 0 knxMuilcastRecvLen {}
    if packetOut.service = knxSearchResponse then
      let (_, host) ← knxHostInfoParse knxHeaderSize (sizeT (n - knxHeaderSize)) {}
      pure [.remotePort (ntohs host.port), .remoteIp (inetNtoa host.address)]
    else if packetOut.service = knxDisconnectResponse then pure []
    else if packetOut.service = knxConnectionResponse then
      pure [.remoteChid packetOut.payload.connRes.channel.toNat]
    else pure []
  else pure []

theorem packet_parse_eq_assignments (memory : Nat → Byte) (n : Int) (client : KnxClient) :
    eval memory (knxPacketParse n client) =
      (eval memory (knxPacketAssignments n)).foldl Assignment.apply client := by
  simp only [knxPacketParse, knxPacketAssignments, eval_ite, eval_bind, eval_pure]
  split_ifs
  · rfl
  · rfl
  · rfl
  · rfl
  · rfl

/-- The host information the handler takes out of a search response; `{}` is what the
zeroed structure holds when the block is rejected. -/
def searchHost (memory : Nat → Byte) (n : Int) : KnxHostInfo :=
  if HostAccepted memory knxHeaderSize (sizeT (n - knxHeaderSize)) then
    hostAt memory knxHeaderSize
  else {}

theorem searchHost_eq (memory : Nat → Byte) (n : Int) :
    searchHost memory n =
      (eval memory (knxHostInfoParse knxHeaderSize (sizeT (n - knxHeaderSize)) {})).2 := by
  rw [eval_host_info_parse, apply_ite Prod.snd, searchHost]

/-- The channel it takes out of a connection response, zero where the declared
payload is too short to hold one. -/
def responseChannel (memory : Nat → Byte) : Byte :=
  if declaredLength memory < 8 then 0 else memory 6

theorem declared_length_lt (memory : Nat → Byte) :
    declaredLength memory < knxMuilcastRecvLen := by
  have bound := (word (memory 4) (memory 5)).isLt
  rw [declaredLength, knxMuilcastRecvLen]
  omega

/-- With the whole array as the frame length, only the header check can fail before the
dispatch. -/
theorem eval_whole_array (memory : Nat → Byte) (output : KnxPacket) :
    eval memory (knxParse 0 knxMuilcastRecvLen output) =
      if HeaderValid memory then
        eval memory (payloadParse knxHeaderSize (declaredLength memory - knxHeaderSize)
          (declaredLength memory) { output with service := declaredService memory })
      else (-knxInvalidHeader, output) := by
  have bound := declared_length_lt memory
  rw [eval_knxParse, if_neg (by decide)]
  by_cases valid : HeaderValid memory
  · rw [if_neg (not_not.mpr valid), if_neg (by omega), if_pos valid]
  · rw [if_pos valid, if_neg valid]

theorem connection_response_channel (memory : Nat → Byte) (unpackResult : Int)
    (service : declaredService memory = knxConnectionResponse) :
    (eval memory (payloadParse knxHeaderSize (declaredLength memory - knxHeaderSize) unpackResult
      { service := declaredService memory })).2.payload.connRes.channel =
        responseChannel memory := by
  have dispatch : ParsedService.ofCode (declaredService memory) = .connectionResponse := by
    rw [service]
    rfl
  simp only [payloadParse, dispatch, eval_member]
  rw [eval_connection_response_parse, responseChannel]
  by_cases short : declaredLength memory < 8
  · rw [if_pos short, if_pos (by rw [knxHeaderSize]; omega)]
  · rw [if_neg short, if_neg (by rw [knxHeaderSize]; omega)]
    split_ifs <;> rfl

def serviceOctets (service : Nat) : List Byte :=
  [BitVec.ofNat 8 knxHeaderSize, 16, highByte (BitVec.ofNat 16 service),
    lowByte (BitVec.ofNat 16 service)]

@[simp] theorem length_serviceOctets (service : Nat) : (serviceOctets service).length = 4 := rfl

def Announces (memory : Nat → Byte) (service : Nat) : Prop :=
  HeaderValid memory ∧ declaredService memory = service

instance (memory : Nat → Byte) (service : Nat) : Decidable (Announces memory service) :=
  inferInstanceAs (Decidable (_ ∧ _))

theorem announces_iff (memory : Nat → Byte) {service : Nat} (small : service < 65536) :
    Announces memory service ↔
      Buffer.Holds memory 0 (serviceOctets service) ∧ knxHeaderSize ≤ declaredLength memory := by
  have named : declaredService memory = service ↔
      memory 2 = highByte (BitVec.ofNat 16 service) ∧
        memory 3 = lowByte (BitVec.ofNat 16 service) := by
    constructor
    · intro equal
      have value : BitVec.ofNat 16 service = word (memory 2) (memory 3) := by
        rw [← equal, declaredService, BitVec.ofNat_toNat, BitVec.setWidth_eq]
      rw [value, highByte_word, lowByte_word]
      exact ⟨rfl, rfl⟩
    · intro stored
      obtain ⟨high, low⟩ := stored
      rw [declaredService, high, low, word_highByte_lowByte, BitVec.toNat_ofNat,
        Nat.mod_eq_of_lt small]
  have octet : ∀ (value : Byte) (code : Nat), code < 256 →
      (value.toNat = code ↔ value = BitVec.ofNat 8 code) := by
    intro value code small
    constructor
    · intro equal
      rw [← equal, BitVec.ofNat_toNat, BitVec.setWidth_eq]
    · rintro rfl
      rw [BitVec.toNat_ofNat, Nat.mod_eq_of_lt small]
  unfold Announces HeaderValid serviceOctets
  rw [named, octet _ knxHeaderSize (by decide), octet _ 16 (by decide)]
  simp only [Buffer.holds_cons, Buffer.holds_nil, and_true]
  constructor
  · intro announced
    obtain ⟨⟨size, version, long⟩, high, low⟩ := announced
    exact ⟨⟨size, version, high, low⟩, long⟩
  · intro stored
    obtain ⟨⟨size, version, high, low⟩, long⟩ := stored
    exact ⟨⟨size, version, long⟩, high, low⟩

theorem eval_packet_assignments (memory : Nat → Byte) (n : Int) (received : 0 < n) :
    eval memory (knxPacketAssignments n) =
      if Announces memory knxSearchResponse then
        [.remotePort (ntohs (searchHost memory n).port),
          .remoteIp (inetNtoa (searchHost memory n).address)]
      else if Announces memory knxConnectionResponse then
        [.remoteChid (responseChannel memory).toNat]
      else [] := by
  simp only [knxPacketAssignments, eval_ite, eval_bind, eval_pure, eval_whole_array,
    eval_host_info_parse]
  rw [if_pos received]
  by_cases valid : HeaderValid memory
  · simp only [Announces, valid, true_and, if_true, payload_parse_service]
    by_cases search : declaredService memory = knxSearchResponse
    · simp only [if_pos search, searchHost, apply_ite Prod.snd]
    · simp only [if_neg search]
      by_cases connection : declaredService memory = knxConnectionResponse
      · rw [if_pos connection, if_pos connection, connection_response_channel memory _ connection,
          if_neg (by rw [connection]; decide)]
      · rw [if_neg connection, if_neg connection, ite_self]
  · simp only [Announces, valid, false_and, if_false]
    rfl

/-- The handler on a datagram, as a function of the buffer. -/
theorem eval_packet_parse (memory : Nat → Byte) (n : Int) (received : 0 < n)
    (client : KnxClient) :
    eval memory (knxPacketParse n client) =
      if Announces memory knxSearchResponse then
        { client with
          remotePort := ntohs (searchHost memory n).port
          remoteIp := inetNtoa (searchHost memory n).address }
      else if Announces memory knxConnectionResponse then
        { client with remoteChid := (responseChannel memory).toNat }
      else client := by
  rw [packet_parse_eq_assignments, eval_packet_assignments memory n received]
  split_ifs
  · rfl
  · rfl
  · rfl

/-! ## Datagrams -/

/-- The octets one call of `recvfrom` can deliver. -/
structure Datagram where
  octets : List Byte
  received : octets.length ≤ knxMuilcastRecvLen - 1

/-- The receive buffer: the datagram over what the stack held. -/
def Datagram.buffer (datagram : Datagram) (stack : Nat → Byte) : Nat → Byte :=
  ((Buffer.fresh stack).storeBlock 0 datagram.octets).memory

def receive (stack : Nat → Byte) (datagram : Datagram) (client : KnxClient) : KnxClient :=
  eval (datagram.buffer stack) (knxPacketParse datagram.octets.length client)

section Receive

variable (stack : Nat → Byte) (datagram : Datagram)

theorem buffer_inside (index : Nat) (inside : index < datagram.octets.length) :
    datagram.buffer stack index = datagram.octets[index] := by
  have value := Buffer.memory_storeBlock_inside (Buffer.fresh stack) 0 index _ inside
  rwa [Nat.zero_add] at value

theorem buffer_outside (index : Nat) (outside : datagram.octets.length ≤ index) :
    datagram.buffer stack index = stack index :=
  Buffer.memory_storeBlock_outside _ _ _ _ (.inr (by omega))

theorem buffer_agree (other : Nat → Byte) (index : Nat) (inside : index < datagram.octets.length) :
    datagram.buffer stack index = datagram.buffer other index := by
  rw [buffer_inside _ _ _ inside, buffer_inside _ _ _ inside]

theorem size_behind_header (complete : 6 ≤ datagram.octets.length) :
    sizeT (datagram.octets.length - knxHeaderSize) = datagram.octets.length - 6 := by
  have received := datagram.received
  rw [knxMuilcastRecvLen] at received
  have behind : ((datagram.octets.length : Int) - knxHeaderSize) =
      ((datagram.octets.length - 6 : Nat) : Int) := by
    rw [knxHeaderSize]
    omega
  rw [behind, sizeT_natCast (by omega)]

/-- The difference is negative and becomes a large length. -/
theorem size_inside_header (incomplete : datagram.octets.length < 6) :
    8 ≤ sizeT (datagram.octets.length - knxHeaderSize) := by
  rw [sizeT, BitVec.toNat_ofInt, knxHeaderSize]
  omega

theorem receive_empty (client : KnxClient) (empty : datagram.octets.length = 0) :
    receive stack datagram client = client := by
  rw [receive, empty]
  rfl

theorem receive_search (client : KnxClient) (nonempty : 0 < datagram.octets.length)
    (announced : Announces (datagram.buffer stack) knxSearchResponse) :
    receive stack datagram client =
      { client with
        remotePort := ntohs (searchHost (datagram.buffer stack) datagram.octets.length).port
        remoteIp := inetNtoa
          (searchHost (datagram.buffer stack) datagram.octets.length).address } := by
  rw [receive, eval_packet_parse _ _ (by omega), if_pos announced]

theorem receive_connection (client : KnxClient) (nonempty : 0 < datagram.octets.length)
    (announced : Announces (datagram.buffer stack) knxConnectionResponse) :
    receive stack datagram client =
      { client with remoteChid := (responseChannel (datagram.buffer stack)).toNat } := by
  have other : ¬ Announces (datagram.buffer stack) knxSearchResponse := by
    intro search
    exact absurd (search.2.symm.trans announced.2) (by decide)
  rw [receive, eval_packet_parse _ _ (by omega), if_neg other, if_pos announced]

theorem receive_other (client : KnxClient)
    (search : ¬ Announces (datagram.buffer stack) knxSearchResponse)
    (connection : ¬ Announces (datagram.buffer stack) knxConnectionResponse) :
    receive stack datagram client = client := by
  by_cases nonempty : 0 < datagram.octets.length
  · rw [receive, eval_packet_parse _ _ (by omega), if_neg search, if_neg connection]
  · exact receive_empty _ _ _ (by omega)

end Receive

end KnxDemo.KnxWrapper
