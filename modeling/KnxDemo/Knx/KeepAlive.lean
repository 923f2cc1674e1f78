import KnxDemo.Knx.GroupValue
import KnxDemo.Knx.Peers

/-!
# Keeping the connection alive

`thr_knx_keep_live` sends a connection state request every thirty seconds, from
fields the capture threads may assign meanwhile. The thread never ends; it is
followed for any number of rounds.
-/

namespace KnxDemo.KeepAlive

open KnxDemo.Bytes KnxDemo.KnxProto KnxDemo.KnxGenerate KnxDemo.KnxLayout
open KnxDemo.KnxPacketLayout KnxDemo.KnxParse KnxDemo.KnxRoundTrip KnxDemo.GroupValue
open KnxDemo.KnxWrapper KnxDemo.KnxClient KnxDemo.KnxHistory KnxDemo.KnxPeers
open KnxDemo.Interaction KnxDemo.Interaction.Loader

def connectionStateRequest (remoteChid : Int) : KnxConnectionStateRequest where
  channel := BitVec.ofInt 8 remoteChid
  status := 0
  host := localHost knxcPort

def knxcConStateRQ : Sender Unit := do
  let channel ← ask .remoteChid
  let stack ← ask .localArray
  let buffer := generated stack (knxHeaderSize + knxConnectionStateRequestSize)
    (.connectionStateRequest (connectionStateRequest channel))
  let fd ← ask .controlSocket
  let port ← ask .remotePort
  let _ ← knxSend fd buffer (ask .remoteIp) port

/-- The first rounds of the thread. -/
def thrKnxKeepLive : Nat → Sender Unit
  | 0 => pure ()
  | rounds + 1 => do
    ask (.sleep 30)
    knxcConStateRQ
    thrKnxKeepLive rounds

/-! ## What a round sends -/

def isSend : ClientTurn → Bool
  | .own ⟨.sendto _ _ _ _, _⟩ => true
  | _ => false

def Paced (past : List ClientTurn) : Prop :=
  ∃ before after, past = before ++ .own ⟨.sleep 30, ()⟩ :: after ∧
    ∀ turn ∈ after, isSend turn = false

/-- A packet of the thread, on the control socket: a connection state request whose channel,
and the endpoint it goes to, are what the client held when they were loaded, and which a
parser reads as that request. -/
structure KeepsAlive (control : Int) (past : List ClientTurn) (fd : Int) (packet : List Byte)
    (address : String) (port : Int) : Prop where
  socket : fd = control
  address : address = held Assignment.address? "" (untilLoad .remoteIp past)
  port : port = held Assignment.port? 0 (untilLoad .remotePort past)
  parsed : ∀ memory : Nat → Byte, Buffer.Holds memory 0 packet → ∀ output, ∃ result,
    eval memory (knxParse 0 packet.length output) = ((packet.length : Int), result) ∧
      result.service = knxConnectionStateRequest ∧
      result.payload.connStateReq =
        connectionStateRequest (held Assignment.channel? 0 (untilLoad .remoteChid past))
  paced : Paced past

def SendsKeepAlive (control : Int) (past : List ClientTurn) : Event senderInterface → Prop
  | ⟨.sendto fd packet address port, _⟩ => KeepsAlive control past fd packet address port
  | _ => True

def LoadsOpened (control : Int) (past : List ClientTurn) (event : Event senderInterface) : Prop :=
  LoadsHeld past event ∧
    match event with
    | ⟨.controlSocket, socket⟩ => socket = control
    | _ => True

theorem connection_state_octets (stack : Nat → Byte) (remoteChid : Int) :
    generated stack (knxHeaderSize + knxConnectionStateRequestSize)
        (.connectionStateRequest (connectionStateRequest remoteChid)) =
      packetOctets stack (.connectionStateRequest (connectionStateRequest remoteChid)) := by
  have length : (packetOctets stack
      (.connectionStateRequest (connectionStateRequest remoteChid))).length =
        knxHeaderSize + knxConnectionStateRequestSize := by
    simp [packetOctets, payloadOctets, channelRequestOctets, knxHeaderSize,
      knxConnectionStateRequestSize, knxHostInfoSize]
  have generatable : Generatable (.connectionStateRequest (connectionStateRequest remoteChid)) :=
    trivial
  rw [generated, generate_eq generatable, ← length]
  exact (Buffer.holds_iff_contents _ _ _).mp (Buffer.holds_storeBlock _ _ _)

theorem connection_state_parsed (stack : Nat → Byte) (remoteChid : Int) (memory : Nat → Byte)
    (held : Buffer.Holds memory 0 (generated stack
      (knxHeaderSize + knxConnectionStateRequestSize)
      (.connectionStateRequest (connectionStateRequest remoteChid)))) (output : KnxPacket) :
    ∃ result, eval memory (knxParse 0 16 output) = (16, result) ∧
      result.service = knxConnectionStateRequest ∧
      result.payload.connStateReq = connectionStateRequest remoteChid := by
  rw [connection_state_octets] at held
  have encodable : Encodable (.connectionStateRequest (connectionStateRequest remoteChid)) :=
    .inl rfl
  exact parse_held encodable held output

/-! ## Runs -/

section Rounds

variable {control : Int} {past : List ClientTurn}

theorem others_send_nothing (labels : List CaptureStep) (turn : ClientTurn)
    (member : turn ∈ labels.map Turn.other) : isSend turn = false := by
  obtain ⟨label, _, rfl⟩ := List.mem_map.mp member
  rfl

theorem con_state_guarantees (paced : Paced past) :
    knxcConStateRQ.Guarantees (LoadsOpened control) (SendsKeepAlive control) past := by
  obtain ⟨before, after, rfl, quiet⟩ := paced
  intro others₁ channel channelHeld
  refine ⟨trivial, ?_⟩
  intro others₂ stack _
  refine ⟨trivial, ?_⟩
  intro others₃ fd opened
  refine ⟨trivial, ?_⟩
  intro others₄ port portHeld
  refine ⟨trivial, ?_⟩
  intro others₅ address addressHeld
  refine ⟨trivial, ?_⟩
  intro others₆ sent _
  refine ⟨⟨opened.2, ?_, ?_, ?_, ?_⟩, trivial⟩
  · rw [until_load_others, until_load_same]
    exact addressHeld.1
  · rw [until_load_others, until_load_different _ _ (by decide), until_load_others,
      until_load_same]
    exact portHeld.1
  · rw [until_load_others, until_load_different _ _ (by decide), until_load_others,
      until_load_different _ _ (by decide), until_load_others,
      until_load_different _ _ (by decide), until_load_others,
      until_load_different _ _ (by decide), until_load_others, until_load_same, ← channelHeld.1]
    exact connection_state_parsed stack channel
  · refine ⟨before, after ++ others₁.map .other ++ [.own ⟨.remoteChid, channel⟩] ++
      others₂.map .other ++ [.own ⟨.localArray, stack⟩] ++ others₃.map .other ++
      [.own ⟨.controlSocket, fd⟩] ++ others₄.map .other ++ [.own ⟨.remotePort, port⟩] ++
      others₅.map .other ++ [.own ⟨.remoteIp, address⟩] ++ others₆.map .other, by simp, ?_⟩
    simp only [List.forall_mem_append, List.forall_mem_singleton]
    exact ⟨⟨⟨⟨⟨⟨⟨⟨⟨⟨⟨quiet, others_send_nothing _⟩, rfl⟩, others_send_nothing _⟩, rfl⟩,
      others_send_nothing _⟩, rfl⟩, others_send_nothing _⟩, rfl⟩, others_send_nothing _⟩, rfl⟩,
      others_send_nothing _⟩

theorem keep_live_guarantees (rounds : Nat) :
    (thrKnxKeepLive rounds).Guarantees (LoadsOpened control) (SendsKeepAlive control) past := by
  induction rounds generalizing past with
  | zero => trivial
  | succ rounds induction =>
      intro others _ _
      refine ⟨trivial, ?_⟩
      change (knxcConStateRQ >>= fun _ => thrKnxKeepLive rounds).Guarantees _ _ _
      apply Program.guarantees_bind
      · apply con_state_guarantees
        exact ⟨_, [], rfl, fun _ member => absurd member List.not_mem_nil⟩
      · exact fun _ _ => induction

end Rounds

def keepLiveState (control tunnel : Int) (rounds : Nat) : ClientState where
  fst := { client := initialClient control tunnel, pending := fun _ => [] }
  snd := thrKnxKeepLive rounds

theorem control_socket_kept (control : Int) (past : List ClientTurn) (state : ClientState)
    (turn : ClientTurn) (next : ClientState)
    (kept : Linked past state ∧ state.1.client.controlSocket = control)
    (step : ClientStep state turn next) :
    Linked (past ++ [turn]) next ∧ next.1.client.controlSocket = control := by
  refine ⟨linked_step past state turn next kept.1 step, ?_⟩
  cases step with
  | own answered => rw [answered.2, kept.2]
  | other taken =>
      cases taken with
      | received idle => exact kept.2
      | assigned queued =>
          rename_i capture reception assignment rest
          cases assignment with
          | remotePort port => exact kept.2
          | remoteIp address => exact kept.2
          | remoteChid channel => exact kept.2

theorem loads_opened {control : Int} {past : List ClientTurn} {state : ClientState}
    (linked : Linked past state) (socket : state.1.client.controlSocket = control)
    {event : Event senderInterface} (loaded : Loads state.1.client event) :
    LoadsOpened control past event := by
  refine ⟨loads_of_linked linked loaded, ?_⟩
  obtain ⟨request, answer⟩ := event
  cases request with
  | controlSocket => exact loaded.trans socket
  | _ => trivial

/-- However the rounds of the thread interleave with what the capture threads receive and
assign, every packet it sends keeps the connection alive, thirty seconds apart. -/
theorem keep_alive_in_every_run (control tunnel : Int) (rounds : Nat) (run : List ClientTurn)
    (finish : ClientState)
    (plays : Plays ClientStep (keepLiveState control tunnel rounds) run finish) :
    EachStep (OnOwn (SendsKeepAlive control)) [] run := by
  have initial : Linked [] (keepLiveState control tunnel rounds) ∧
      (keepLiveState control tunnel rounds).1.client.controlSocket = control := by
    refine ⟨⟨rfl, rfl, rfl, ?_, ?_⟩, rfl⟩
    · exact fun _ _ member => absurd member List.not_mem_nil
    · exact fun _ member => absurd member List.not_mem_nil
  have loads : EachStep (OnOwn (LoadsOpened control)) [] run := by
    refine plays.each initial (control_socket_kept control) ?_
    intro past state turn next kept step
    cases step with
    | own answered => exact loads_opened kept.1 kept.2 answered.1
    | other taken => trivial
  exact plays.guaranteed (keep_live_guarantees rounds) loads


/-- One round on the sockets 3 and 4, in which channel 5 is granted. -/
def oneRound : List ClientTurn :=
  [.own ⟨.sleep 30, ()⟩,
    .other (.received .control grantedAnswer),
    .other (.assigned .control grantedAnswer (.remoteChid 5)),
    .own ⟨.remoteChid, (5 : Int)⟩, .own ⟨.localArray, fun _ => 0⟩,
    .own ⟨.controlSocket, (3 : Int)⟩, .own ⟨.remotePort, (0 : Int)⟩, .own ⟨.remoteIp, ""⟩,
    .own ⟨.sendto 3 (packet 16 (.connectionStateRequest (connectionStateRequest 5))) "" 0,
      (16 : Int)⟩]

theorem one_round_plays :
    ∃ finish, Plays ClientStep (keepLiveState 3 4 1) oneRound finish := by
  have assigns : grantedAnswer.assignments = [.remoteChid 5] :=
    KnxPeers.assignments_of_grant grantedAnswer granted_response_grants
  refine own_turn trivial ?_
  refine exists_plays_cons (.other (.received rfl)) ?_
  rw [assigns]
  refine exists_plays_cons (.other (.assigned rfl)) ?_
  refine own_turn rfl (own_turn trivial (own_turn rfl (own_turn rfl (own_turn rfl ?_))))
  exact own_turn trivial ⟨_, .nil _⟩

theorem keep_alive_in_one_round : EachStep (OnOwn (SendsKeepAlive 3)) [] oneRound := by
  obtain ⟨finish, plays⟩ := one_round_plays
  exact keep_alive_in_every_run 3 4 1 oneRound finish plays

end KnxDemo.KeepAlive
