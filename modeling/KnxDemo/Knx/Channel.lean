import Mathlib.Data.List.Induction
import KnxDemo.Knx.Malformed
import KnxDemo.Knx.StackContent

/-!
# The channel of the tunnel

The handler stores the channel of every connection response and never looks at
the status, so a refusal replaces the channel of an established connection by
its own.
-/

namespace KnxDemo.KnxChannel

open KnxDemo.Bytes KnxDemo.KnxProto KnxDemo.KnxParse KnxDemo.KnxParsing KnxDemo.KnxWrapper
open KnxDemo.KnxMalformed KnxDemo.KnxStackContent
open KnxDemo.Interaction KnxDemo.Interaction.Loader

/-! ## Connection responses -/

/-- The connection response in a datagram whose octets the packet parser accepts. -/
def connectionResponse (datagram : Datagram) : Option KnxConnectionResponse :=
  let (result, packet) := eval (alone datagram) (knxParse 0 datagram.octets.length {})
  if 0 ≤ result ∧ packet.service = knxConnectionResponse then some packet.payload.connRes else none

def grantedChannel (datagram : Datagram) : Option Byte :=
  (connectionResponse datagram).bind fun res => if res.status = 0 then some res.channel else none

def refusedChannel (datagram : Datagram) : Option Byte :=
  (connectionResponse datagram).bind fun res => if res.status = 0 then none else some res.channel

theorem granted_channel_of_refused {datagram : Datagram} {channel : Byte}
    (refused : refusedChannel datagram = some channel) : grantedChannel datagram = none := by
  unfold refusedChannel at refused
  unfold grantedChannel
  cases response : connectionResponse datagram with
  | none => rfl
  | some res =>
      simp only [response, Option.bind_some] at refused ⊢
      split_ifs at refused ⊢
      rfl

section Datagram

variable {datagram : Datagram}

theorem response_announced {res : KnxConnectionResponse}
    (response : connectionResponse datagram = some res) (stack : Nat → Byte) :
    0 < datagram.octets.length ∧ Announces (datagram.buffer stack) knxConnectionResponse ∧
      responseChannel (datagram.buffer stack) = res.channel := by
  simp only [connectionResponse] at response
  split_ifs at response with accepted
  obtain ⟨nonnegative, service⟩ := accepted
  obtain ⟨valid, whole, parsed⟩ := dispatched_of_accepted _ _ _ nonnegative
  have complete : 6 ≤ datagram.octets.length := Nat.le_trans valid.2.2 whole
  rw [parsed] at response service
  rw [payload_parse_service] at service
  have channel : res.channel = responseChannel (alone datagram) := by
    rw [← connection_response_channel _ _ service]
    exact congrArg KnxConnectionResponse.channel (Option.some.inj response).symm
  have inside : ¬ BareConnectionResponse datagram := by
    intro bare
    have room := Nat.le_trans bare.2.2 whole
    rw [bare.1] at room
    exact absurd room (by decide)
  have seen := (announces_agree datagram stack (fun _ => 0) complete _).mpr ⟨valid, service⟩
  refine ⟨by omega, seen, ?_⟩
  rw [response_channel_agree datagram stack (fun _ => 0) complete seen inside]
  exact channel.symm

theorem receive_response {res : KnxConnectionResponse}
    (response : connectionResponse datagram = some res) (stack : Nat → Byte)
    (client : KnxClient) :
    receive stack datagram client = { client with remoteChid := res.channel.toNat } := by
  obtain ⟨nonempty, seen, channel⟩ := response_announced response stack
  rw [receive_connection _ _ _ nonempty seen, channel]

theorem receive_keeps_channel (stack : Nat → Byte)
    (other : ¬ Announces (datagram.buffer stack) knxConnectionResponse) (client : KnxClient) :
    (receive stack datagram client).remoteChid = client.remoteChid := by
  by_cases nonempty : 0 < datagram.octets.length
  · by_cases search : Announces (datagram.buffer stack) knxSearchResponse
    · rw [receive_search _ _ _ nonempty search]
    · rw [receive_other _ _ _ search other]
  · rw [receive_empty _ _ _ (by omega)]

/-- A datagram the packet parser accepts, or a search response whose host information the
handler's own parser accepts. -/
def WellFormed (datagram : Datagram) : Prop :=
  AcceptedSearchResponse datagram ∨
    0 ≤ (eval (alone datagram) (knxParse 0 datagram.octets.length {})).1

theorem not_announced_of_no_response (wellFormed : WellFormed datagram)
    (none : connectionResponse datagram = none) (stack : Nat → Byte) :
    ¬ Announces (datagram.buffer stack) knxConnectionResponse := by
  intro seen
  cases wellFormed with
  | inl search =>
      obtain ⟨complete, announced, _⟩ := search
      have agree := (announces_agree datagram stack (fun _ => 0) complete _).mp seen
      exact absurd (announced.2.symm.trans agree.2) (by decide)
  | inr accepted =>
      obtain ⟨valid, whole, parsed⟩ := dispatched_of_accepted _ _ _ accepted
      have agree :=
        (announces_agree datagram stack (fun _ => 0) (Nat.le_trans valid.2.2 whole) _).mp seen
      have service : (eval (alone datagram) (knxParse 0 datagram.octets.length {})).2.service =
          knxConnectionResponse := by
        rw [parsed, payload_parse_service]
        exact agree.2
      simp only [connectionResponse, if_pos (And.intro accepted service)] at none
      cases none

end Datagram

/-! ## Runs of the handler -/

/-- A well-formed datagram and what the stack held when it was received. -/
structure Received where
  stack : Nat → Byte
  datagram : Datagram
  wellFormed : WellFormed datagram

def clientAfter (client : KnxClient) (run : List Received) : KnxClient :=
  run.foldl (fun client received => receive received.stack received.datagram client) client

/-- The channel of the last connection response with status zero, zero if there was none. -/
def lastGranted (run : List Received) : Byte :=
  (run.filterMap fun received => grantedChannel received.datagram).getLastD 0

theorem clientAfter_append (client : KnxClient) (run : List Received) (received : Received) :
    clientAfter client (run ++ [received]) =
      receive received.stack received.datagram (clientAfter client run) :=
  List.foldl_concat ..

theorem last_granted_append (run : List Received) (received : Received) :
    lastGranted (run ++ [received]) =
      (grantedChannel received.datagram).getD (lastGranted run) := by
  rw [lastGranted, List.filterMap_append]
  cases granted : grantedChannel received.datagram with
  | none => simp [granted, lastGranted]
  | some channel => simp [granted]

theorem channel_after_step (client : KnxClient) (received : Received) :
    (receive received.stack received.datagram client).remoteChid =
      match grantedChannel received.datagram, refusedChannel received.datagram with
      | some channel, _ => (channel.toNat : Int)
      | none, some channel => (channel.toNat : Int)
      | none, none => client.remoteChid := by
  cases response : connectionResponse received.datagram with
  | none =>
      have other := not_announced_of_no_response received.wellFormed response received.stack
      simp only [grantedChannel, refusedChannel, response, Option.bind_none,
        receive_keeps_channel received.stack other]
  | some res =>
      rw [receive_response response]
      simp only [grantedChannel, refusedChannel, response, Option.bind_some]
      split_ifs
      · rfl
      · rfl

/-- After every part of the run the channel is the last one granted, and no refusal changes
it. -/
structure RefusalsHarmless (client : KnxClient) (run : List Received) : Prop where
  granted : ∀ past, past <+: run → (clientAfter client past).remoteChid = (lastGranted past).toNat
  refused : ∀ past received, past ++ [received] <+: run →
    (refusedChannel received.datagram).isSome →
      (clientAfter client (past ++ [received])).remoteChid = (clientAfter client past).remoteChid

def RefusalsRepeat (run : List Received) : Prop :=
  ∀ past received channel, past ++ [received] <+: run →
    refusedChannel received.datagram = some channel → channel = lastGranted past

section Run

variable {client : KnxClient} {run : List Received}

theorem channel_last_granted (zero : client.remoteChid = 0) (repeats : RefusalsRepeat run)
    {past : List Received} (inside : past <+: run) :
    (clientAfter client past).remoteChid = (lastGranted past).toNat := by
  induction past using List.reverseRecOn with
  | nil => exact zero
  | append_singleton past received induction =>
      have before := induction ((List.prefix_append _ _).trans inside)
      rw [clientAfter_append, channel_after_step, last_granted_append]
      cases granted : grantedChannel received.datagram with
      | some channel => rfl
      | none =>
          cases refused : refusedChannel received.datagram with
          | none => exact before
          | some channel =>
              rw [repeats past received channel inside refused]
              rfl

end Run

/-- From the zeroed client on, refusals are harmless exactly where each of them carries the
channel last granted before it. -/
theorem refusals_harmless_iff (control tunnel : Int) (run : List Received) :
    RefusalsHarmless (initialClient control tunnel) run ↔ RefusalsRepeat run := by
  constructor
  · intro harmless past received channel inside refused
    have after := harmless.granted _ inside
    rw [clientAfter_append, channel_after_step, last_granted_append,
      granted_channel_of_refused refused, refused] at after
    exact BitVec.eq_of_toNat_eq (Int.ofNat_inj.mp after)
  · intro repeats
    constructor
    · intro past inside
      exact channel_last_granted rfl repeats inside
    · intro past received inside refused
      obtain ⟨channel, refused⟩ := Option.isSome_iff_exists.mp refused
      rw [channel_last_granted rfl repeats inside,
        channel_last_granted rfl repeats ((List.prefix_append _ _).trans inside),
        last_granted_append, granted_channel_of_refused refused]
      rfl

/-- The gateway grants channel 5. -/
def grantedResponse : Datagram where
  octets := [6, 16, 2, 6, 0, 20, 5, 0, 8, 1, 10, 6, 120, 23, 14, 87, 4, 4, 17, 1]
  received := by decide

def refusedResponse : Datagram where
  octets := [6, 16, 2, 6, 0, 8, 0, 36]
  received := by decide

theorem granted_response_well_formed : WellFormed grantedResponse := .inr (by decide +kernel)

theorem refused_response_well_formed : WellFormed refusedResponse := .inr (by decide +kernel)

theorem refusal_destroys_connection :
    ¬ ∀ (control tunnel : Int) (run : List Received),
      RefusalsHarmless (initialClient control tunnel) run := by
  intro always
  have harmless := always 3 4 [⟨fun _ => 0, grantedResponse, granted_response_well_formed⟩,
    ⟨fun _ => 0, refusedResponse, refused_response_well_formed⟩]
  have kept := harmless.granted _ List.prefix_rfl
  exact absurd kept (by decide +kernel)

end KnxDemo.KnxChannel
