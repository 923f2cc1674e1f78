import KnxDemo.Interaction.Interference
import KnxDemo.Knx.FrameLength
import KnxDemo.Knx.Wrapper

/-!
# The client and its threads

`knxTest` sends its requests from one thread while two capture threads process
what arrives on the two sockets. All three share `g_knxClient` without a lock.
The sender is a program that loads a field of the client wherever the source
does; `char* pAddr` is the load of the string behind it. A capture thread
assigns to the client one statement at a time. An assignment itself, of the
address string too, is taken to be atomic.
-/

namespace KnxDemo.KnxClient

open KnxDemo.Bytes KnxDemo.KnxProto KnxDemo.KnxGenerate KnxDemo.KnxParse KnxDemo.KnxParsing
open KnxDemo.KnxFrameLength KnxDemo.KnxWrapper KnxDemo.Interaction KnxDemo.Interaction.Loader

def knxMuilcastAddr : String := "224.0.23.12"
def knxNetIpRouter : String := "10.6.120.23"
def knxsPort : Int := 3671
def knxcPort : Nat := 53985

/-- `inet_addr(LOCAL_IP)`, in network order. -/
def localIp : Vector Byte 4 := #v[10, 6, 120, 85]

def htons (port : Nat) : Vector Byte 2 :=
  #v[highByte (BitVec.ofNat 16 port), lowByte (BitVec.ofNat 16 port)]

/-! ## The sender -/

inductive SenderRequest where
  | sleep (seconds : Nat)
  /-- What an uninitialised local array holds. -/
  | localArray
  | controlSocket | tunnelSocket | remoteChid | remotePort | remoteIp
  | sendto (fd : Int) (packet : List Byte) (pAddr : String) (port : Int)
  deriving DecidableEq

@[reducible] def SenderRequest.Answer : SenderRequest → Type
  | .sleep _ => Unit
  | .localArray => Nat → Byte
  | .remoteIp => String
  | _ => Int

abbrev senderInterface : Interface where
  Request := SenderRequest
  Answer := SenderRequest.Answer

instance : DecidableEq senderInterface.Request := inferInstanceAs (DecidableEq SenderRequest)

abbrev Sender := Program senderInterface

def ask (request : SenderRequest) : Sender request.Answer :=
  Program.call (I := senderInterface) request

def knxSend (fd : Int) (packet : List Byte) (pAddr : Sender String) (port : Int) : Sender Int := do
  let address ← pAddr
  ask (.sendto fd packet address port)

/-- The local array of the given size after `knx_generate` has stored the message. -/
def generated (stack : Nat → Byte) (size : Nat) (message : KnxMessage) : List Byte :=
  Buffer.contents (knxGenerate (Buffer.fresh stack) message).1.memory 0 size

def localHost (port : Nat) : KnxHostInfo where
  protocol := knxProtoUdp
  address := localIp
  port := htons port

/-- A request that carries no more than the control host, to a fixed address. -/
def hostRequest (packetIn : KnxMessage) (pAddr : String) : Sender Unit := do
  let stack ← ask .localArray
  let buffer := generated stack (knxHeaderSize + knxSearchRequestSize) packetIn
  let fd ← ask .controlSocket
  let _ ← knxSend fd buffer (pure pAddr) knxsPort

def searchRequest : KnxMessage := .searchRequest { controlHost := localHost knxcPort }

def knxcSearchRQ : Sender Unit := hostRequest searchRequest knxMuilcastAddr

/-- The source fills in a search request; its layout is that of a description request. -/
def descriptionRequest : KnxMessage := .descriptionRequest { controlHost := localHost knxcPort }

def knxcDescription : Sender Unit := hostRequest descriptionRequest knxNetIpRouter

def connectionRequest : KnxMessage := .connectionRequest {
  type := knxConnectionRequestTunnel
  layer := knxConnectionLayerTunnel
  controlHost := localHost knxcPort
  tunnelHost := localHost (knxcPort + 1) }

def knxcConnectRQ : Sender Unit := do
  let stack ← ask .localArray
  let buffer := generated stack (knxHeaderSize + knxConnectionRequestSize) connectionRequest
  let fd ← ask .controlSocket
  let port ← ask .remotePort
  let _ ← knxSend fd buffer (ask .remoteIp) port

/-- The open-light request on the low octet of `remote_chid`. -/
def tunnelRequest (remoteChid : Int) : KnxTunnelRequest (List Byte) :=
  { openLightRequest with channel := BitVec.ofInt 8 remoteChid }

def knxcTunnelRQOpenLight : Sender Unit := do
  let channel ← ask .remoteChid
  let packetIn := tunnelRequest channel
  let stack ← ask .localArray
  let buffer := generated stack (knxHeaderSize + knxTunnelRequestSize packetIn)
    (.tunnelRequest packetIn)
  let fd ← ask .tunnelSocket
  let port ← ask .remotePort
  let _ ← knxSend fd buffer (ask .remoteIp) port

/-- `knxTest` behind `knx_init_sock` and the start of the two capture threads. -/
def knxTest : Sender Unit := do
  ask (.sleep 3)
  knxcSearchRQ
  knxcDescription
  ask (.sleep 5)
  knxcConnectRQ
  ask (.sleep 3)
  knxcTunnelRQOpenLight

inductive Step where
  | sleep (seconds : Nat)
  | search | description | connect | openLight

def Step.program : Step → Sender Unit
  | .sleep seconds => ask (.sleep seconds)
  | .search => knxcSearchRQ
  | .description => knxcDescription
  | .connect => knxcConnectRQ
  | .openLight => knxcTunnelRQOpenLight

/-- Steps one after the other, in any order. -/
def sender : List Step → Sender Unit
  | [] => pure ()
  | step :: steps => do
    step.program
    sender steps

def knxTestSteps : List Step :=
  [.sleep 3, .search, .description, .sleep 5, .connect, .sleep 3, .openLight]

theorem knxTest_eq : knxTest = sender knxTestSteps := rfl

/-! ## The capture threads -/

structure Reception where
  stack : Nat → Byte
  datagram : Datagram

namespace Reception

def buffer (reception : Reception) : Nat → Byte := reception.datagram.buffer reception.stack

def assignments (reception : Reception) : List Assignment :=
  eval reception.buffer (knxPacketAssignments reception.datagram.octets.length)

end Reception

inductive Capture where
  | control | tunnel
  deriving DecidableEq

/-- The shared client, and for each capture thread what it received last and the assignments
it has still to make. -/
structure Shared where
  client : KnxClient
  pending : Capture → List (Reception × Assignment)

inductive CaptureStep where
  | received (capture : Capture) (reception : Reception)
  | assigned (capture : Capture) (reception : Reception) (assignment : Assignment)

/-- A capture thread receives when it has nothing left to assign, else it makes its next
assignment. -/
inductive Captures : Shared → CaptureStep → Shared → Prop
  | received {shared : Shared} {capture : Capture} {reception : Reception}
      (idle : shared.pending capture = []) :
      Captures shared (.received capture reception)
        { shared with
          pending := Function.update shared.pending capture
            (reception.assignments.map fun assignment => (reception, assignment)) }
  | assigned {shared : Shared} {capture : Capture} {reception : Reception}
      {assignment : Assignment} {rest : List (Reception × Assignment)}
      (next : shared.pending capture = (reception, assignment) :: rest) :
      Captures shared (.assigned capture reception assignment)
        { client := assignment.apply shared.client
          pending := Function.update shared.pending capture rest }

/-! ## Runs -/

def Loads (client : KnxClient) : Event senderInterface → Prop
  | ⟨.controlSocket, socket⟩ => socket = client.controlSocket
  | ⟨.tunnelSocket, socket⟩ => socket = client.tunnelSocket
  | ⟨.remoteChid, channel⟩ => channel = client.remoteChid
  | ⟨.remotePort, port⟩ => port = client.remotePort
  | ⟨.remoteIp, address⟩ => address = client.remoteIp
  | _ => True

def Answers (shared : Shared) (event : Event senderInterface) (next : Shared) : Prop :=
  Loads shared.client event ∧ next = shared

abbrev ClientTurn := Turn senderInterface CaptureStep

abbrev ClientState := Shared × Sender Unit

abbrev ClientStep : ClientState → ClientTurn → ClientState → Prop :=
  Interleaved Answers Captures

def initialState (control tunnel : Int) (steps : List Step) : ClientState where
  fst := { client := initialClient control tunnel, pending := fun _ => [] }
  snd := sender steps

end KnxDemo.KnxClient
