import KnxDemo.Knx.Channel
import KnxDemo.Knx.History

/-!
# Whom the client talks to

The sender loads the endpoint and the channel without knowing whether a response
has arrived, and what the capture threads assign need not come from a response
that was accepted, or granted. In runs where each request loads what was assigned
from one suitable response, the client talks only to whom it was told to.
-/

namespace KnxDemo.KnxPeers

open KnxDemo.Bytes KnxDemo.KnxProto KnxDemo.KnxGenerate KnxDemo.KnxLayout
open KnxDemo.KnxPacketLayout KnxDemo.KnxParsing KnxDemo.KnxFrameLength KnxDemo.KnxWrapper
open KnxDemo.KnxMalformed KnxDemo.KnxStackContent KnxDemo.KnxChannel KnxDemo.KnxClient
open KnxDemo.KnxHistory
open KnxDemo.Interaction KnxDemo.Interaction.Loader

/-! ## Generated requests -/

section Generated

variable {stack : Nat → Byte} {size : Nat}

theorem generated_getElem? {message : KnxMessage} (generatable : Generatable message)
    {index : Nat} (inside : index < size) (stored : index < (packetOctets stack message).length) :
    (generated stack size message)[index]? = (packetOctets stack message)[index]? := by
  have value := Buffer.memory_storeBlock_inside (Buffer.fresh stack) 0 index _ stored
  rw [generated, generate_eq generatable, Buffer.contents, List.getElem?_map,
    List.getElem?_range inside, List.getElem?_eq_getElem stored, ← value]
  rfl

theorem service_of_generated (message : KnxMessage) (generatable : Generatable message)
    (room : knxHeaderSize ≤ size) (known : message.service < 65536) {service : Nat}
    (small : service < 65536) (announces : serviceOctets service <+: generated stack size message) :
    service = message.service := by
  have octets := List.prefix_iff_getElem?.mp announces
  have long : ∀ index, index < 4 → index < (packetOctets stack message).length := by
    intro index inside
    rw [packetOctets, List.length_append, length_headerOctets]
    omega
  have high := octets 2 (by rw [length_serviceOctets]; decide)
  have low := octets 3 (by rw [length_serviceOctets]; decide)
  rw [knxHeaderSize] at room
  rw [generated_getElem? generatable (by omega) (long _ (by decide))] at high low
  have same : BitVec.ofNat 16 message.service = BitVec.ofNat 16 service := by
    rw [← word_highByte_lowByte (BitVec.ofNat 16 message.service),
      ← word_highByte_lowByte (BitVec.ofNat 16 service)]
    exact congrArg₂ word (Option.some.inj high) (Option.some.inj low)
  have values := congrArg BitVec.toNat same
  rw [BitVec.toNat_ofNat, BitVec.toNat_ofNat] at values
  omega

end Generated

theorem tunnel_request_generatable (remoteChid : Int) :
    Generatable (.tunnelRequest (tunnelRequest remoteChid)) :=
  open_light_request_valid

theorem channel_of_generated (stack : Nat → Byte) (remoteChid : Int) :
    (generated stack (knxHeaderSize + knxTunnelRequestSize (tunnelRequest remoteChid))
      (.tunnelRequest (tunnelRequest remoteChid)))[7]? = some (BitVec.ofInt 8 remoteChid) := by
  rw [generated_getElem? (tunnel_request_generatable remoteChid)]
  · rfl
  · rw [knxTunnelRequestSize, knxHeaderSize]
    omega
  · simp only [packetOctets, payloadOctets, tunnelRequestOctets, List.length_append,
      length_headerOctets, List.length_cons]
    omega

/-! ## What the sender sends -/

def LoadsHeld (past : List ClientTurn) : Event senderInterface → Prop
  | ⟨.remotePort, port⟩ => port = held Assignment.port? 0 past
  | ⟨.remoteIp, address⟩ => address = held Assignment.address? "" past
  | ⟨.remoteChid, channel⟩ => channel = held Assignment.channel? 0 past
  | _ => True

def untilLoad (request : SenderRequest) (past : List ClientTurn) : List ClientTurn :=
  beforeLast (I := senderInterface) request past

section UntilLoad

variable (request : SenderRequest) (past : List ClientTurn)

theorem until_load_others (labels : List CaptureStep) :
    untilLoad request (past ++ labels.map .other) = untilLoad request past :=
  beforeLast_others _ _ labels

theorem until_load_same (answer : request.Answer) :
    untilLoad request (past ++ [.own ⟨request, answer⟩]) = past :=
  (beforeLast_own (I := senderInterface) request past ⟨request, answer⟩).trans (if_pos rfl)

theorem until_load_different {other : SenderRequest} (different : other ≠ request)
    (answer : other.Answer) :
    untilLoad request (past ++ [.own ⟨other, answer⟩]) = untilLoad request past :=
  (beforeLast_own (I := senderInterface) request past ⟨other, answer⟩).trans (if_neg different)

end UntilLoad

/-- Connection requests go to the endpoint, and tunnel requests carry the channel, that the
client held when they were loaded. -/
def SendsHeld (past : List ClientTurn) : Event senderInterface → Prop
  | ⟨.sendto _ packet address port, _⟩ =>
    (serviceOctets knxConnectionRequest <+: packet →
        address = held Assignment.address? "" (untilLoad .remoteIp past) ∧
          port = held Assignment.port? 0 (untilLoad .remotePort past)) ∧
      (serviceOctets knxTunnelRequest <+: packet →
        packet[7]? =
          some (BitVec.ofInt 8 (held Assignment.channel? 0 (untilLoad .remoteChid past))))
  | _ => True

section Sender

variable {past : List ClientTurn}

theorem host_request_guarantees (packetIn : KnxMessage) (pAddr : String)
    (generatable : Generatable packetIn) (known : packetIn.service < 65536)
    (connection : packetIn.service ≠ knxConnectionRequest)
    (tunnel : packetIn.service ≠ knxTunnelRequest) :
    (hostRequest packetIn pAddr).Guarantees LoadsHeld SendsHeld past := by
  intro _ stack _
  refine ⟨trivial, ?_⟩
  intro _ fd _
  refine ⟨trivial, ?_⟩
  intro _ sent _
  refine ⟨⟨?_, ?_⟩, trivial⟩
  · intro announces
    exact absurd (service_of_generated packetIn generatable (by decide) known (by decide)
      announces).symm connection
  · intro announces
    exact absurd (service_of_generated packetIn generatable (by decide) known (by decide)
      announces).symm tunnel

theorem connect_guarantees : knxcConnectRQ.Guarantees LoadsHeld SendsHeld past := by
  intro _ stack _
  refine ⟨trivial, ?_⟩
  intro _ fd _
  refine ⟨trivial, ?_⟩
  intro _ port portHeld
  refine ⟨trivial, ?_⟩
  intro _ address addressHeld
  refine ⟨trivial, ?_⟩
  intro _ sent _
  refine ⟨⟨?_, ?_⟩, trivial⟩
  · intro _
    constructor
    · rw [until_load_others, until_load_same]
      exact addressHeld
    · rw [until_load_others, until_load_different _ _ (by decide), until_load_others,
        until_load_same]
      exact portHeld
  · intro announces
    exact absurd (service_of_generated connectionRequest trivial (by decide)
      (by decide) (by decide) announces) (by decide)

theorem open_light_guarantees : knxcTunnelRQOpenLight.Guarantees LoadsHeld SendsHeld past := by
  intro _ channel channelHeld
  refine ⟨trivial, ?_⟩
  intro _ stack _
  refine ⟨trivial, ?_⟩
  intro _ fd _
  refine ⟨trivial, ?_⟩
  intro _ port _
  refine ⟨trivial, ?_⟩
  intro _ address _
  refine ⟨trivial, ?_⟩
  intro _ sent _
  refine ⟨⟨?_, ?_⟩, trivial⟩
  · intro announces
    exact absurd (service_of_generated _ (tunnel_request_generatable channel)
      (Nat.le_add_right _ _) (show knxTunnelRequest < 65536 by decide) (by decide) announces)
      (show knxConnectionRequest ≠ knxTunnelRequest by decide)
  · intro _
    rw [until_load_others, until_load_different _ _ (by decide), until_load_others,
      until_load_different _ _ (by decide), until_load_others,
      until_load_different _ _ (by decide), until_load_others,
      until_load_different _ _ (by decide), until_load_others, until_load_same, ← channelHeld]
    exact channel_of_generated stack channel

theorem sender_guarantees (steps : List Step) :
    (sender steps).Guarantees LoadsHeld SendsHeld past := by
  induction steps generalizing past with
  | nil => trivial
  | cons step steps induction =>
      apply Program.guarantees_bind
      · cases step with
        | sleep seconds => exact fun _ _ _ => ⟨trivial, trivial⟩
        | search =>
            exact host_request_guarantees searchRequest _ trivial (by decide) (by decide)
              (by decide)
        | description =>
            exact host_request_guarantees descriptionRequest _ trivial (by decide) (by decide)
              (by decide)
        | connect => exact connect_guarantees
        | openLight => exact open_light_guarantees
      · exact fun _ _ => induction

end Sender

/-! ## What the capture threads take from a response -/

def endpointOf (datagram : Datagram) : KnxHostInfo := hostAt (alone datagram) knxHeaderSize

theorem assignments_of_search (reception : Reception)
    (accepted : AcceptedSearchResponse reception.datagram) :
    reception.assignments =
      [.remotePort (ntohs (endpointOf reception.datagram).port),
        .remoteIp (inetNtoa (endpointOf reception.datagram).address)] := by
  obtain ⟨complete, announced, _, host⟩ := accepted
  have room : 6 ≤ reception.datagram.octets.length := complete
  have seen := (announces_agree reception.datagram reception.stack (fun _ => 0) room _).mpr
    announced
  have fits : HostAccepted (alone reception.datagram) knxHeaderSize
      (reception.datagram.octets.length - knxHeaderSize) := by
    by_contra rejected
    rw [eval_host_info_parse, if_neg rejected] at host
    cases host
  have found : searchHost (reception.datagram.buffer reception.stack)
      reception.datagram.octets.length = endpointOf reception.datagram := by
    rw [search_host_agree _ _ (fun _ => 0) room, searchHost, size_behind_header _ room,
      ← alone]
    exact if_pos fits
  rw [Reception.assignments, Reception.buffer, eval_packet_assignments _ _ (by omega),
    if_pos seen, found]

theorem assignments_of_grant (reception : Reception) {channel : Byte}
    (granted : grantedChannel reception.datagram = some channel) :
    reception.assignments = [.remoteChid channel.toNat] := by
  cases response : connectionResponse reception.datagram with
  | none =>
      rw [grantedChannel, response] at granted
      cases granted
  | some res =>
      simp only [grantedChannel, response, Option.bind_some] at granted
      split_ifs at granted
      cases granted
      obtain ⟨nonempty, seen, stored⟩ := response_announced response reception.stack
      have other : ¬ Announces (reception.datagram.buffer reception.stack)
          knxSearchResponse := by
        intro search
        exact absurd (search.2.symm.trans seen.2) (by decide)
      rw [Reception.assignments, Reception.buffer, eval_packet_assignments _ _ (by omega),
        if_neg other, if_pos seen, stored]

theorem port_of_search {host : KnxHostInfo} {assignment : Assignment} {port : Int}
    (asked : assignment ∈ [.remotePort (ntohs host.port), .remoteIp (inetNtoa host.address)])
    (selected : assignment.port? = some port) : port = ntohs host.port := by
  simp only [List.mem_cons, List.not_mem_nil, or_false] at asked
  cases asked with
  | inl isPort =>
      subst isPort
      exact (Option.some.inj selected).symm
  | inr isAddress =>
      subst isAddress
      cases selected

theorem address_of_search {host : KnxHostInfo} {assignment : Assignment} {address : String}
    (asked : assignment ∈ [.remotePort (ntohs host.port), .remoteIp (inetNtoa host.address)])
    (selected : assignment.address? = some address) : address = inetNtoa host.address := by
  simp only [List.mem_cons, List.not_mem_nil, or_false] at asked
  cases asked with
  | inl isPort =>
      subst isPort
      cases selected
  | inr isAddress =>
      subst isAddress
      exact (Option.some.inj selected).symm

/-! ## Runs -/

/-- A connection request is sent to an endpoint from a search response received before, a tunnel
request carries a channel granted by a connection response received before. -/
def GivenPeer (past : List ClientTurn) : Event senderInterface → Prop
  | ⟨.sendto _ packet address port, _⟩ =>
    (serviceOctets knxConnectionRequest <+: packet →
        ∃ reception ∈ received past, AcceptedSearchResponse reception.datagram ∧
          address = inetNtoa (endpointOf reception.datagram).address ∧
            port = ntohs (endpointOf reception.datagram).port) ∧
      (serviceOctets knxTunnelRequest <+: packet →
        ∃ reception ∈ received past, ∃ channel,
          grantedChannel reception.datagram = some channel ∧ packet[7]? = some channel)
  | _ => True

/-- The reception from which a field was assigned that the sender loaded last. -/
def source {α : Type} (select : Assignment → Option α) (request : SenderRequest)
    (past : List ClientTurn) : Option Reception :=
  (lastAssigned select (untilLoad request past)).map Prod.fst

/-- A connection request is sent with address and port as one accepted search response had them
assigned, a tunnel request with the channel as a granting connection response had it. -/
def AnsweredInTime (past : List ClientTurn) : Event senderInterface → Prop
  | ⟨.sendto _ packet _ _, _⟩ =>
    (serviceOctets knxConnectionRequest <+: packet →
        ∃ reception, source Assignment.port? .remotePort past = some reception ∧
          source Assignment.address? .remoteIp past = some reception ∧
            AcceptedSearchResponse reception.datagram) ∧
      (serviceOctets knxTunnelRequest <+: packet →
        ∃ reception, source Assignment.channel? .remoteChid past = some reception ∧
          (grantedChannel reception.datagram).isSome)
  | _ => True

theorem loads_of_linked {past : List ClientTurn} {state : ClientState}
    (linked : Linked past state) {event : Event senderInterface}
    (loaded : Loads state.1.client event) :
    LoadsHeld past event := by
  obtain ⟨request, answer⟩ := event
  cases request with
  | remotePort => exact loaded.trans linked.port
  | remoteIp => exact loaded.trans linked.address
  | remoteChid => exact loaded.trans linked.channel
  | sleep seconds => trivial
  | localArray => trivial
  | controlSocket => trivial
  | tunnelSocket => trivial
  | sendto fd packet address port => trivial

theorem genuine_source {α : Type} {select : Assignment → Option α} (zero : α)
    {past : List ClientTurn} (genuine : ∀ made ∈ assigned past, Genuine past made)
    {request : SenderRequest} {reception : Reception}
    (loaded : source select request past = some reception) :
    reception ∈ received past ∧ ∃ assignment ∈ reception.assignments,
      select assignment = some (held select zero (untilLoad request past)) := by
  have earlier : untilLoad request past <+: past :=
    beforeLast_prefix (I := senderInterface) request past
  obtain ⟨last, found, same⟩ := Option.map_eq_some_iff.mp loaded
  subst same
  obtain ⟨made, member, selected⟩ := List.mem_filterMap.mp (List.mem_of_getLast? found)
  obtain ⟨value, chosen, equal⟩ := Option.map_eq_some_iff.mp selected
  subst equal
  obtain ⟨known, asked⟩ := genuine made ((earlier.filterMap assignedIn).subset member)
  refine ⟨known, made.2, asked, ?_⟩
  rw [held, found]
  exact chosen

theorem given_of_answered {past : List ClientTurn}
    (genuine : ∀ made ∈ assigned past, Genuine past made) {event : Event senderInterface}
    (sends : SendsHeld past event) (answered : AnsweredInTime past event) :
    GivenPeer past event := by
  obtain ⟨request, answer⟩ := event
  cases request with
  | sendto fd packet address port =>
      constructor
      · intro connection
        obtain ⟨reception, portFrom, addressFrom, accepted⟩ := answered.1 connection
        obtain ⟨addressHeld, portHeld⟩ := sends.1 connection
        obtain ⟨known, portAssigned, portAsked, portSelected⟩ := genuine_source 0 genuine portFrom
        obtain ⟨_, addressAssigned, addressAsked, addressSelected⟩ :=
          genuine_source "" genuine addressFrom
        rw [assignments_of_search reception accepted] at portAsked addressAsked
        refine ⟨reception, known, accepted, ?_, ?_⟩
        · rw [addressHeld]
          exact address_of_search addressAsked addressSelected
        · rw [portHeld]
          exact port_of_search portAsked portSelected
      · intro tunnel
        obtain ⟨reception, channelFrom, granted⟩ := answered.2 tunnel
        obtain ⟨channel, granted⟩ := Option.isSome_iff_exists.mp granted
        obtain ⟨known, assignment, asked, selected⟩ := genuine_source 0 genuine channelFrom
        rw [assignments_of_grant reception granted, List.mem_singleton] at asked
        subst asked
        refine ⟨reception, known, channel, granted, ?_⟩
        rw [sends.2 tunnel, ← Option.some.inj selected, BitVec.ofInt_natCast,
          BitVec.ofNat_toNat, BitVec.setWidth_eq]
  | _ => trivial

/-- In every interleaving whose requests are answered in time, the client talks only to an
endpoint and on a channel it was given. -/
theorem only_given_peers (control tunnel : Int) (steps : List Step) (run : List ClientTurn)
    (finish : ClientState)
    (plays : Plays ClientStep (initialState control tunnel steps) run finish)
    (answered : EachStep (OnOwn AnsweredInTime) [] run) : EachStep (OnOwn GivenPeer) [] run := by
  have initial := linked_initial control tunnel steps
  have loads : EachStep (OnOwn LoadsHeld) [] run := by
    refine plays.each initial linked_step ?_
    intro past state turn next linked step
    cases step with
    | own answered => exact loads_of_linked linked answered.1
    | other taken => trivial
  have sends := plays.guaranteed (sender_guarantees steps) loads
  have genuine : EachStep (fun past _ => ∀ made ∈ assigned past, Genuine past made) [] run :=
    plays.each initial linked_step fun _ _ _ _ linked _ => linked.made
  refine genuine.imp ?_ (sends.imp (fun _ _ => And.intro) answered)
  intro past turn genuine both
  cases turn with
  | own event => exact given_of_answered genuine both.1 both.2
  | other label => trivial

/-! ## A handshake -/

/-- The gateway answers the search. -/
def searchResponse : Datagram where
  octets := [6, 16, 2, 2, 0, 14, 8, 1, 10, 6, 120, 23, 14, 87]
  received := by decide

def searchAnswer : Reception := ⟨fun _ => 0, searchResponse⟩

theorem search_response_accepted : AcceptedSearchResponse searchResponse := by
  unfold AcceptedSearchResponse
  decide +kernel

def packet (size : Nat) (message : KnxMessage) : List Byte := generated (fun _ => 0) size message

/-- `knxTest` on the sockets 3 and 4, up to the packet of the open-light request: the gateway
answers the search, and the connection request with the given response. -/
def handshake (response : Reception) (channel : Byte) : List ClientTurn :=
  [.own ⟨.sleep 3, ()⟩,
    .own ⟨.localArray, fun _ => 0⟩, .own ⟨.controlSocket, (3 : Int)⟩,
    .own ⟨.sendto 3 (packet 14 searchRequest) "224.0.23.12" 3671, (14 : Int)⟩,
    .own ⟨.localArray, fun _ => 0⟩, .own ⟨.controlSocket, (3 : Int)⟩,
    .own ⟨.sendto 3 (packet 14 descriptionRequest) "10.6.120.23" 3671, (14 : Int)⟩,
    .other (.received .control searchAnswer),
    .other (.assigned .control searchAnswer (.remotePort 3671)),
    .other (.assigned .control searchAnswer (.remoteIp "10.6.120.23")),
    .own ⟨.sleep 5, ()⟩,
    .own ⟨.localArray, fun _ => 0⟩, .own ⟨.controlSocket, (3 : Int)⟩,
    .own ⟨.remotePort, (3671 : Int)⟩, .own ⟨.remoteIp, "10.6.120.23"⟩,
    .own ⟨.sendto 3 (packet 26 connectionRequest) "10.6.120.23" 3671, (26 : Int)⟩,
    .other (.received .control response),
    .other (.assigned .control response (.remoteChid channel.toNat)),
    .own ⟨.sleep 3, ()⟩,
    .own ⟨.remoteChid, (channel.toNat : Int)⟩,
    .own ⟨.localArray, fun _ => 0⟩, .own ⟨.tunnelSocket, (4 : Int)⟩,
    .own ⟨.remotePort, (3671 : Int)⟩, .own ⟨.remoteIp, "10.6.120.23"⟩]

def openLight (channel : Byte) : ClientTurn :=
  .own ⟨.sendto 4 (packet 22 (.tunnelRequest (tunnelRequest channel.toNat))) "10.6.120.23" 3671,
    (22 : Int)⟩

theorem search_answer_assignments :
    searchAnswer.assignments = [.remotePort 3671, .remoteIp "10.6.120.23"] := by
  decide +kernel

theorem own_turn {shared : Shared} {request : SenderRequest} {answer : request.Answer}
    {next : request.Answer → Sender Unit} {rest : List ClientTurn}
    (loaded : Loads shared.client ⟨request, answer⟩)
    (later : ∃ finish, Plays ClientStep (shared, next answer) rest finish) :
    ∃ finish, Plays ClientStep (shared, .ask request next) (.own ⟨request, answer⟩ :: rest)
      finish :=
  exists_plays_cons (.own ⟨loaded, rfl⟩) later

theorem handshake_plays {response : Reception} {channel : Byte}
    (assigns : response.assignments = [.remoteChid channel.toNat]) :
    ∃ finish, Plays ClientStep (initialState 3 4 knxTestSteps)
      (handshake response channel ++ [openLight channel]) finish := by
  refine own_turn trivial ?_
  -- the search request and the description request
  refine own_turn trivial (own_turn rfl (own_turn trivial ?_))
  refine own_turn trivial (own_turn rfl (own_turn trivial ?_))
  refine exists_plays_cons (.other (.received rfl)) ?_
  rw [search_answer_assignments]
  refine exists_plays_cons (.other (.assigned rfl)) ?_
  refine exists_plays_cons (.other (.assigned rfl)) ?_
  refine own_turn trivial ?_
  -- the connection request
  refine own_turn trivial (own_turn rfl (own_turn rfl (own_turn rfl (own_turn trivial ?_))))
  refine exists_plays_cons (.other (.received rfl)) ?_
  rw [assigns]
  refine exists_plays_cons (.other (.assigned rfl)) ?_
  refine own_turn trivial ?_
  -- the open-light request
  refine own_turn rfl ?_
  refine own_turn trivial (own_turn rfl (own_turn rfl (own_turn rfl (own_turn trivial ?_))))
  exact ⟨_, .nil _⟩

def grantedAnswer : Reception := ⟨fun _ => 0, grantedResponse⟩

theorem granted_response_grants : grantedChannel grantedResponse = some 5 := by decide +kernel

theorem granted_handshake_answered :
    EachStep (OnOwn AnsweredInTime) [] (handshake grantedAnswer 5 ++ [openLight 5]) := by
  have noSearch : ∀ service ∈ [knxConnectionRequest, knxTunnelRequest],
      ¬ serviceOctets service <+: packet 14 searchRequest := by decide +kernel
  have noDescription : ∀ service ∈ [knxConnectionRequest, knxTunnelRequest],
      ¬ serviceOctets service <+: packet 14 descriptionRequest := by decide +kernel
  have noTunnel : ¬ serviceOctets knxTunnelRequest <+: packet 26 connectionRequest := by
    decide +kernel
  have noConnection : ¬ serviceOctets knxConnectionRequest <+:
      packet 22 (.tunnelRequest (tunnelRequest (5 : Byte).toNat)) := by decide +kernel
  refine ⟨trivial, trivial, trivial, ?search, trivial, trivial, ?description, trivial, trivial,
    trivial, trivial, trivial, trivial, trivial, trivial, ?connect, trivial, trivial, trivial,
    trivial, trivial, trivial, trivial, trivial, ?openLight, trivial⟩
  case search =>
    exact ⟨fun sent => absurd sent (noSearch _ (by decide)),
      fun sent => absurd sent (noSearch _ (by decide))⟩
  case description =>
    exact ⟨fun sent => absurd sent (noDescription _ (by decide)),
      fun sent => absurd sent (noDescription _ (by decide))⟩
  case connect =>
    exact ⟨fun _ => ⟨searchAnswer, rfl, rfl, search_response_accepted⟩,
      fun sent => absurd sent noTunnel⟩
  case openLight =>
    exact ⟨fun sent => absurd sent noConnection,
      fun _ => ⟨grantedAnswer, rfl, by rw [grantedAnswer, granted_response_grants]; rfl⟩⟩

theorem only_given_peers_witness :
    EachStep (OnOwn GivenPeer) [] (handshake grantedAnswer 5 ++ [openLight 5]) := by
  obtain ⟨finish, plays⟩ :=
    handshake_plays (assignments_of_grant grantedAnswer granted_response_grants)
  exact only_given_peers 3 4 knxTestSteps _ finish plays granted_handshake_answered

def refusedAnswer : Reception := ⟨fun _ => 0, refusedResponse⟩

theorem light_request_after_refusal :
    ¬ ∀ (control tunnel : Int) (run : List ClientTurn) (finish : ClientState),
      Plays ClientStep (initialState control tunnel knxTestSteps) run finish →
        EachStep (OnOwn GivenPeer) [] run := by
  intro always
  have assigns : refusedAnswer.assignments = [.remoteChid (0 : Byte).toNat] := by decide +kernel
  obtain ⟨finish, plays⟩ := handshake_plays assigns
  have last := (always 3 4 _ finish plays).at_label
  obtain ⟨reception, known, channel, granted, _⟩ := last.2 (by decide +kernel)
  have none : ∀ reception ∈ [searchAnswer, refusedAnswer],
      grantedChannel reception.datagram = none := by
    intro reception member
    simp only [List.mem_cons, List.not_mem_nil, or_false] at member
    cases member with
    | inl search =>
        subst search
        decide +kernel
    | inr refused =>
        subst refused
        decide +kernel
  rw [none reception known] at granted
  cases granted

end KnxDemo.KnxPeers
