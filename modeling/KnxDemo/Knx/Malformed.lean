import KnxDemo.Knx.Wrapper

/-!
# Malformed datagrams

The handler takes the service out of the header and then uses the output of
parsers whose verdict it drops. Whatever they leave in a zeroed structure
becomes the client's endpoint or channel.
-/

namespace KnxDemo.KnxMalformed

open KnxDemo.Bytes KnxDemo.KnxProto KnxDemo.KnxParse KnxDemo.KnxParsing KnxDemo.KnxWrapper
open KnxDemo.Interaction KnxDemo.Interaction.Loader

def alone (datagram : Datagram) : Nat → Byte := datagram.buffer fun _ => 0

/-- A search response with a valid header, no longer than the datagram, and host
information the parser accepts. -/
def AcceptedSearchResponse (datagram : Datagram) : Prop :=
  knxHeaderSize ≤ datagram.octets.length ∧ Announces (alone datagram) knxSearchResponse ∧
    declaredLength (alone datagram) ≤ datagram.octets.length ∧
    (eval (alone datagram) (knxHostInfoParse knxHeaderSize
      (datagram.octets.length - knxHeaderSize) {})).1 = true

/-- A connection response whose octets the packet parser accepts. -/
def AcceptedConnectionResponse (datagram : Datagram) : Prop :=
  Announces (alone datagram) knxConnectionResponse ∧
    0 ≤ (eval (alone datagram) (knxParse 0 datagram.octets.length {})).1

def Accepted (datagram : Datagram) : Prop :=
  AcceptedSearchResponse datagram ∨ AcceptedConnectionResponse datagram

/-- The client changes only if the datagram is one of the two accepted responses. -/
def ChangesOnlyIfAccepted (stack : Nat → Byte) (datagram : Datagram) (client : KnxClient) :
    Prop :=
  receive stack datagram client ≠ client → Accepted datagram

def HasEndpoint (client : KnxClient) (host : KnxHostInfo) : Prop :=
  client.remoteIp = inetNtoa host.address ∧ client.remotePort = ntohs host.port

/-- The client already has the endpoint of the host information block behind the header,
or no endpoint where that block is rejected. -/
def RepeatsEndpoint (memory : Nat → Byte) (n : Nat) (client : KnxClient) : Prop :=
  if HostAccepted memory knxHeaderSize (sizeT (n - knxHeaderSize)) then
    HasEndpoint client (hostAt memory knxHeaderSize)
  else HasEndpoint client {}

/-- The client already has the channel behind the header, or channel zero where the
declared length leaves no room for one. -/
def RepeatsChannel (memory : Nat → Byte) (client : KnxClient) : Prop :=
  if declaredLength memory < 8 then client.remoteChid = 0
  else client.remoteChid = (memory 6).toNat

def NothingNew (stack : Nat → Byte) (datagram : Datagram) (client : KnxClient) : Prop :=
  (Announces (datagram.buffer stack) knxSearchResponse →
      RepeatsEndpoint (datagram.buffer stack) datagram.octets.length client) ∧
    (Announces (datagram.buffer stack) knxConnectionResponse →
      RepeatsChannel (datagram.buffer stack) client)

section Datagram

variable (stack : Nat → Byte) (datagram : Datagram) (client : KnxClient)

theorem repeats_endpoint_iff (n : Nat) (memory : Nat → Byte) :
    RepeatsEndpoint memory n client ↔ HasEndpoint client (searchHost memory n) := by
  rw [RepeatsEndpoint, searchHost]
  split_ifs
  · rfl
  · rfl

theorem repeats_channel_iff (memory : Nat → Byte) :
    RepeatsChannel memory client ↔ client.remoteChid = (responseChannel memory).toNat := by
  rw [RepeatsChannel, responseChannel]
  split_ifs
  · rfl
  · rfl

theorem endpoint_unchanged_iff (host : KnxHostInfo) :
    { client with remotePort := ntohs host.port, remoteIp := inetNtoa host.address } = client ↔
      HasEndpoint client host := by
  cases client
  simp only [HasEndpoint, KnxClient.mk.injEq, true_and]
  tauto

theorem channel_unchanged_iff (channel : Int) :
    { client with remoteChid := channel } = client ↔ client.remoteChid = channel := by
  cases client
  simp only [KnxClient.mk.injEq, true_and, and_true]
  exact eq_comm

theorem receive_unchanged_iff :
    receive stack datagram client = client ↔
      datagram.octets.length = 0 ∨ NothingNew stack datagram client := by
  by_cases empty : datagram.octets.length = 0
  · rw [receive_empty _ _ _ empty]
    exact iff_of_true rfl (.inl empty)
  have nonempty : 0 < datagram.octets.length := Nat.pos_of_ne_zero empty
  rw [or_iff_right empty, NothingNew]
  by_cases search : Announces (datagram.buffer stack) knxSearchResponse
  · have other : ¬ Announces (datagram.buffer stack) knxConnectionResponse := by
      intro connection
      exact absurd (search.2.symm.trans connection.2) (by decide)
    rw [receive_search _ _ _ nonempty search, endpoint_unchanged_iff, forall_prop_of_true search,
      forall_prop_of_false other, and_true, repeats_endpoint_iff]
  · rw [forall_prop_of_false search, true_and]
    by_cases connection : Announces (datagram.buffer stack) knxConnectionResponse
    · rw [receive_connection _ _ _ nonempty connection, channel_unchanged_iff,
        forall_prop_of_true connection, repeats_channel_iff]
    · rw [receive_other _ _ _ search connection, forall_prop_of_false connection]
      exact iff_of_true rfl trivial

end Datagram

/-- A datagram that is not accepted leaves the client as it was exactly when it is empty or
the receive buffer shows nothing that the client does not have. -/
theorem malformed_unchanged_iff (stack : Nat → Byte) (datagram : Datagram)
    (client : KnxClient) :
    ChangesOnlyIfAccepted stack datagram client ↔
      Accepted datagram ∨ datagram.octets.length = 0 ∨ NothingNew stack datagram client := by
  rw [← receive_unchanged_iff, ChangesOnlyIfAccepted, ne_eq, not_imp_comm, or_iff_not_imp_left]

def foreignProtocolResponse : Datagram where
  octets := [6, 16, 2, 2, 0, 14, 8, 3, 10, 6, 120, 23, 14, 87]
  received := by decide

theorem rejected_response_clears_endpoint :
    ¬ ∀ (stack : Nat → Byte) (datagram : Datagram) (client : KnxClient),
      ChangesOnlyIfAccepted stack datagram client := by
  intro always
  have changed : receive (fun _ => 0) foreignProtocolResponse
      { remoteIp := "10.6.120.23", remotePort := 3671 } ≠
        { remoteIp := "10.6.120.23", remotePort := 3671 } := by
    intro same
    have cleared : (receive (fun _ => 0) foreignProtocolResponse
      { remoteIp := "10.6.120.23", remotePort := 3671 }).remotePort = 0 := by decide +kernel
    rw [same] at cleared
    exact absurd cleared (by decide)
  rcases always _ _ _ changed with ⟨_, _, _, accepted⟩ | ⟨connection, _⟩
  · exact absurd accepted (by decide +kernel)
  · exact absurd connection (by decide +kernel)

end KnxDemo.KnxMalformed
