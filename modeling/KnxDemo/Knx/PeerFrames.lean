import KnxDemo.Knx.Relay
import KnxDemo.Knx.RoundTrip

/-!
# Frames written out by hand

The wrapper sends twenty tunnelling requests and one device configuration
request from octets written out by hand, with the channel and the sequence
number filled in. The requests are what the generator would write, except for
the length, which the generator declares one octet longer.
-/

namespace KnxDemo.PeerFrames

open KnxDemo.Bytes KnxDemo.KnxProto KnxDemo.KnxGenerate KnxDemo.KnxLayout KnxDemo.KnxParse
open KnxDemo.KnxParsing KnxDemo.KnxPacketLayout KnxDemo.KnxFrameFields KnxDemo.KnxRoundTrip
open KnxDemo.Relay
open KnxDemo.Interaction KnxDemo.Interaction.Loader

/-- The octets two requests differ in: the total length and what follows the cEMI header. -/
structure PeerFrame where
  length : Byte
  ldata : List Byte

/-- `peer`, with `peer[7] = remote_chid` and `peer[8] = seq_num` done. -/
def PeerFrame.octets (frame : PeerFrame) (remoteChid : Nat) (seqNum : Int) : List Byte :=
  [0x06, 0x10, 0x04, 0x20, 0x00, frame.length, 0x04, BitVec.ofNat 8 remoteChid,
    BitVec.ofInt 8 seqNum, 0x00, 0x11, 0x00] ++ frame.ldata

def knxcTunnelRqIndAddrReadStep1 : PeerFrame :=
  ⟨0x15, [0xb0, 0xe0, 0x00, 0x00, 0x00, 0x00, 0x01, 0x01, 0x00]⟩

def knxcTunnelRqIndAddrWrite : PeerFrame :=
  ⟨0x17, [0xb0, 0xe0, 0x00, 0x00, 0x00, 0x00, 0x03, 0x00, 0xc0, 0x11, 0x01]⟩

def knxcTunnelRqIndAddrReadStep2 : PeerFrame :=
  ⟨0x15, [0xb0, 0xe0, 0x00, 0x00, 0x00, 0x00, 0x01, 0x01, 0x00]⟩

def knxcTunnelRqIndAddrConnect : PeerFrame :=
  ⟨0x14, [0xb0, 0x60, 0x00, 0x00, 0x11, 0x01, 0x00, 0x80]⟩

def knxcTunnelRqIndAddrDevDescrRead : PeerFrame :=
  ⟨0x15, [0xb0, 0x60, 0x00, 0x00, 0x11, 0x01, 0x01, 0x43, 0x00]⟩

def knxcTunnelRqIndAddrPropValueRead : PeerFrame :=
  ⟨0x19, [0xb0, 0x60, 0x00, 0x00, 0x11, 0x01, 0x05, 0x47, 0xd5, 0x00, 0x0b, 0x10, 0x01]⟩

def knxcTunnelRqIndAddrRestart : PeerFrame :=
  ⟨0x15, [0xb0, 0x60, 0x00, 0x00, 0x11, 0x01, 0x01, 0x4b, 0x80]⟩

def knxcTunnelRqIndAddrDisconnect : PeerFrame :=
  ⟨0x14, [0xb0, 0x60, 0x00, 0x00, 0x11, 0x01, 0x00, 0x81]⟩

def knxcTunnelRqEditConnect : PeerFrame :=
  ⟨0x14, [0xb0, 0x60, 0x00, 0x00, 0x11, 0x01, 0x00, 0x80]⟩

def knxcTunnelRqEditAuthReq : PeerFrame :=
  ⟨0x1a, [0xb0, 0x60, 0x00, 0x00, 0x11, 0x01, 0x06, 0x4b, 0xd1, 0x00, 0xff, 0xff, 0xff, 0xff]⟩

def knxcTunnelRqEditPropValueWrite : PeerFrame :=
  ⟨0x23, [0xb0, 0x60, 0x00, 0x00, 0x11, 0x01, 0x0f, 0x67, 0xd7, 0x05, 0x05, 0x10, 0x01, 0x04,
    0x00, 0x00, 0x00, 0x00, 0x00, 0x00, 0x00, 0x00, 0x00]⟩

def knxcTunnelRqEditMemWrite : PeerFrame :=
  ⟨0x4b, [0x30, 0x60, 0x00, 0x00, 0x11, 0x01, 0x37, 0x6e, 0xb4, 0x18, 0xe5, 0x04, 0x14, 0x13,
    0x0a, 0x80, 0x00, 0x00, 0x00, 0x00, 0x00, 0x00, 0x00, 0x00, 0x00, 0x00, 0x00, 0x00,
    0x00, 0x00, 0x00, 0x00, 0x80, 0x00, 0x00, 0x00, 0x00, 0x00, 0x00, 0x00, 0x00, 0x00,
    0x00, 0x00, 0x00, 0x00, 0x00, 0x00, 0x00, 0x00, 0x80, 0x00, 0x00, 0x00, 0x40, 0x34,
    0x42, 0x20, 0x35, 0x41, 0x20, 0x36, 0x43]⟩

def knxcTunnelRqEditRestart : PeerFrame :=
  ⟨0x15, [0xb0, 0x60, 0x00, 0x00, 0x11, 0x01, 0x01, 0x5b, 0x80]⟩

def knxcTunnelRqRs485Connect : PeerFrame :=
  ⟨0x14, [0xb0, 0x60, 0x00, 0x00, 0x11, 0x01, 0x00, 0x80]⟩

def knxcTunnelRqRs485DevDescrRead : PeerFrame :=
  ⟨0x15, [0xb0, 0x60, 0x00, 0x00, 0x11, 0x01, 0x01, 0x43, 0x00]⟩

def knxcTunnelRqRs485PropValueRead : PeerFrame :=
  ⟨0x19, [0xb0, 0x60, 0x00, 0x00, 0x11, 0x01, 0x05, 0x47, 0xd5, 0x00, 0x38, 0x10, 0x01]⟩

def knxcTunnelRqRs485PropValueWriteOpen : PeerFrame :=
  ⟨0x1a, [0xb0, 0x60, 0x00, 0x00, 0x11, 0x01, 0x06, 0x4b, 0xd7, 0x00, 0x36, 0x10, 0x01, 0x01]⟩

def knxcTunnelRqRs485PropValueWriteClose : PeerFrame :=
  ⟨0x1a, [0xb0, 0x60, 0x00, 0x00, 0x11, 0x01, 0x06, 0x4b, 0xd7, 0x00, 0x36, 0x10, 0x01, 0x00]⟩

def knxcTunnelRqRs485PropValueReadStep2 : PeerFrame :=
  ⟨0x19, [0xb0, 0x60, 0x00, 0x00, 0x11, 0x01, 0x05, 0x4f, 0xd5, 0x00, 0x36, 0x10, 0x01]⟩

def knxcTunnelRqRs485Disconnect : PeerFrame :=
  ⟨0x14, [0xb0, 0x60, 0x00, 0x00, 0x11, 0x01, 0x00, 0x81]⟩

def peerFrames : List PeerFrame :=
  [knxcTunnelRqIndAddrReadStep1, knxcTunnelRqIndAddrWrite,
    knxcTunnelRqIndAddrReadStep2, knxcTunnelRqIndAddrConnect,
    knxcTunnelRqIndAddrDevDescrRead, knxcTunnelRqIndAddrPropValueRead,
    knxcTunnelRqIndAddrRestart, knxcTunnelRqIndAddrDisconnect,
    knxcTunnelRqEditConnect, knxcTunnelRqEditAuthReq,
    knxcTunnelRqEditPropValueWrite, knxcTunnelRqEditMemWrite,
    knxcTunnelRqEditRestart, knxcTunnelRqRs485Connect,
    knxcTunnelRqRs485DevDescrRead, knxcTunnelRqRs485PropValueRead,
    knxcTunnelRqRs485PropValueWriteOpen, knxcTunnelRqRs485PropValueWriteClose,
    knxcTunnelRqRs485PropValueReadStep2, knxcTunnelRqRs485Disconnect]

def knxcTunnelRqRs485DevConfigRq (remoteChid : Nat) (seqNum : Int) : List Byte :=
  [0x06, 0x10, 0x03, 0x10, 0x00, 0x11, 0x04, BitVec.ofNat 8 remoteChid, BitVec.ofInt 8 seqNum,
    0x00, 0xfc, 0x00, 0x00, 0x01, 0x53, 0x10, 0x01]

/-! ## Well-formed frames -/

def PeerFrame.at (frame : PeerFrame) (index : Nat) : Byte := frame.ldata[index]?.getD 0

/-- The lengths a frame declares are those it has, and its first control octet is as the
generator writes it. -/
structure PeerFrame.Regular (frame : PeerFrame) : Prop where
  total : frame.length.toNat = 12 + frame.ldata.length
  reserved : (frame.at 1).toNat &&& 15 = 0
  tpdu : (frame.at 6).toNat + 8 = frame.ldata.length
  control : isControl ((frame.at 7).toNat >>> 6 &&& 3) ↔ frame.ldata.length = 8
  control1 : frame.at 0 &&& 63 ||| (if frame.ldata.length ≤ 23 then 128 else 0) = frame.at 0

instance (frame : PeerFrame) : Decidable frame.Regular :=
  decidable_of_iff (frame.length.toNat = 12 + frame.ldata.length ∧
      (frame.at 1).toNat &&& 15 = 0 ∧ (frame.at 6).toNat + 8 = frame.ldata.length ∧
      (isControl ((frame.at 7).toNat >>> 6 &&& 3) ↔ frame.ldata.length = 8) ∧
      frame.at 0 &&& 63 ||| (if frame.ldata.length ≤ 23 then 128 else 0) = frame.at 0)
    ⟨fun ⟨total, reserved, tpdu, control, control1⟩ => ⟨total, reserved, tpdu, control, control1⟩,
      fun regular => ⟨regular.total, regular.reserved, regular.tpdu, regular.control,
        regular.control1⟩⟩

theorem peer_frames_regular : ∀ frame ∈ peerFrames, frame.Regular := by
  decide +kernel

section Accepted

variable {frame : PeerFrame} (regular : frame.Regular) {memory : Nat → Byte} {buffer : Nat}
  (held : Buffer.Holds memory buffer frame.ldata)

include regular held

omit regular in
theorem octet_at (index : Nat) (inside : index < frame.ldata.length) :
    memory (buffer + index) = frame.at index := by
  rw [(Buffer.holds_iff_getElem _ _ _).mp held index inside, PeerFrame.at,
    List.getElem?_eq_getElem inside, Option.getD_some]

theorem relayed_size : relayedSize memory buffer + 7 = frame.ldata.length := by
  have tpdu := regular.tpdu
  have control := regular.control
  rw [relayedSize, octet_at held _ (by omega), octet_at held _ (by omega)]
  split_ifs with code
  · have eight := control.mp code
    omega
  · omega

theorem relayed_octets : relayedOctets memory buffer = frame.ldata := by
  have size := relayed_size regular held
  have tpdu := regular.tpdu
  have control1 := regular.control1
  have whole := (Buffer.holds_iff_contents _ _ _).mp held
  have announced : BitVec.ofNat 8 (relayedSize memory buffer - 1) = memory (buffer + 6) := by
    rw [octet_at held _ (by omega)]
    apply BitVec.eq_of_toNat_eq
    rw [BitVec.toNat_ofNat]
    omega
  rw [← octet_at held 0 (by omega), Nat.add_zero] at control1
  have brief : relayedSize memory buffer ≤ 16 ↔ frame.ldata.length ≤ 23 := by omega
  simp only [relayedOctets, brief, control1, announced]
  rw [← whole, ← size]
  simp only [contents_succ, Nat.add_assoc]
  rfl

theorem ldata_accepted (old : KnxLdata Nat) :
    ∃ parsed, eval memory (knxLdataParse buffer frame.ldata.length old) = (true, parsed) := by
  have tpdu := regular.tpdu
  have reserved := regular.reserved
  have control := regular.control
  simp only [knxLdataParse, knxTpduParse, eval_ite, eval_bind, eval_load, eval_pure]
  rw [octet_at held 1 (by omega), octet_at held 6 (by omega),
    octet_at held 7 (by omega), if_neg (by omega), if_neg (not_not.mpr reserved),
    if_neg (by omega), if_neg (Nat.succ_ne_zero _)]
  rw [isControl_iff] at control
  by_cases code : (frame.at 7).toNat >>> 6 &&& 3 = knxTpciUnnumberedControl ∨
      (frame.at 7).toNat >>> 6 &&& 3 = knxTpciNumberedControl
  · rw [if_pos code]
    exact ⟨_, rfl⟩
  · have long : frame.ldata.length ≠ 8 := fun eight => code (control.mpr eight)
    rw [if_neg code, if_neg (by omega)]
    exact ⟨_, rfl⟩

end Accepted

theorem tunnel_request_accepted {memory : Nat → Byte} (message : Nat) {length : Nat}
    {old : KnxTunnelRequest Nat} {parsed : KnxLdata Nat} (size : memory message = 4)
    (cemi : memory (message + 4) = 0x11) (addInfo : memory (message + 5) = 0)
    (accepted : eval memory (knxLdataParse (message + 6) length old.data.ldata) =
      (true, parsed)) :
    eval memory (knxTunnelRequestParse message (length + 6) old) =
      (true, {
        channel := memory (message + 1), seqNumber := memory (message + 2)
        data := {
          service := knxCemiLdataReq, addInfoLength := 0, addInfo := some (message + 6)
          ldata := parsed } }) := by
  have header : knxCemiHeaderSize + (memory (message + 5)).toNat = 2 := by
    rw [addInfo]
    rfl
  have service : (memory (message + 4)).toNat = knxCemiLdataReq := congrArg BitVec.toNat cemi
  have frame : eval memory (knxCemiParse (message + 4) (length + 2) old.data) =
      (true, {
        service := knxCemiLdataReq, addInfoLength := 0, addInfo := some (message + 6)
        ldata := parsed }) := by
    simp only [knxCemiParse, eval_ite, eval_bind, eval_load, eval_pure]
    rw [if_neg (by rw [knxCemiHeaderSize]; omega), header, if_neg (by omega), service,
      if_pos (.inr (.inl rfl)), Nat.add_sub_cancel, accepted, addInfo]
    rfl
  have structureLength : (memory message).toNat = 4 := congrArg BitVec.toNat size
  simp only [knxTunnelRequestParse, eval_ite, eval_bind, eval_load, eval_pure]
  rw [if_neg (by omega), if_neg (not_not.mpr structureLength),
    show length + 6 - 4 = length + 2 by omega, frame]

/-- What a parser makes of a hand-written frame: a request on the given channel, from
whose L_Data the generator gives back the octets that were written out. -/
structure ReadsAs (memory : Nat → Byte) (packet : KnxPacket) (frame : PeerFrame)
    (remoteChid : Nat) (seqNum : Int) : Prop where
  service : packet.service = knxTunnelRequest
  channel : packet.payload.tunnelReq.channel = BitVec.ofNat 8 remoteChid
  seqNumber : packet.payload.tunnelReq.seqNumber = BitVec.ofInt 8 seqNum
  cemi : packet.payload.tunnelReq.data.service = knxCemiLdataReq
  generated : ∃ copy, knxLdataDuplicate memory packet.payload.tunnelReq.data.ldata = some copy ∧
    ∀ (target : Buffer Byte) (offset : Nat),
      knxLdataGenerate target offset copy = (target.storeBlock offset frame.ldata, true)

/-- Every hand-written request is accepted whole, whatever the channel and the sequence
number are and whatever follows it in the receive buffer. -/
theorem peer_frames_accepted : ∀ frame ∈ peerFrames, ∀ (remoteChid : Nat) (seqNum : Int)
    (memory : Nat → Byte), Buffer.Holds memory 0 (frame.octets remoteChid seqNum) →
    ∀ (frameLength : Nat), (frame.octets remoteChid seqNum).length ≤ frameLength →
    ∀ output, ∃ packet,
      eval memory (knxParse 0 frameLength output) =
        (((frame.octets remoteChid seqNum).length : Int), packet) ∧
      ReadsAs memory packet frame remoteChid seqNum := by
  intro frame member remoteChid seqNum memory held frameLength fits output
  have regular := peer_frames_regular frame member
  have total := regular.total
  have size : (frame.octets remoteChid seqNum).length = frame.ldata.length + 12 := by
    rw [PeerFrame.octets, List.length_append, Nat.add_comm]
    rfl
  rw [PeerFrame.octets, Buffer.holds_append] at held
  obtain ⟨⟨structureLength, version, serviceHigh, serviceLow, lengthHigh, lengthLow,
    headerLength, channel, seqNumber, -, cemi, addInfo, -⟩, ldataHeld⟩ := held
  have declared : declaredLength memory = frame.ldata.length + 12 := by
    rw [declaredLength, lengthHigh, lengthLow, toNat_word, total, Nat.add_comm 12]
    exact Nat.zero_add _
  have service : declaredService memory = knxTunnelRequest := by
    rw [declaredService, serviceHigh, serviceLow]
    rfl
  have valid : HeaderValid memory := by
    refine ⟨congrArg BitVec.toNat structureLength, congrArg BitVec.toNat version, ?_⟩
    rw [declared, knxHeaderSize]
    omega
  obtain ⟨parsed, accepted⟩ :=
    ldata_accepted regular ldataHeld output.payload.tunnelReq.data.ldata
  obtain ⟨copy, duplicated, tpduFits, octets⟩ := ldata_again accepted
  have request := tunnel_request_accepted knxHeaderSize headerLength cemi addInfo
    accepted
  have rest : declaredLength memory - knxHeaderSize = frame.ldata.length + 6 := by
    rw [declared, knxHeaderSize]
    omega
  have parse := @eval_member_success memory _ _ { output with service := knxTunnelRequest }
    (·.tunnelReq) _ request (fun union tunnelReq => { union with tunnelReq })
    (frame.ldata.length + 12 : Nat)
  rw [eval_knxParse, if_neg (by rw [knxHeaderSize]; omega), if_neg (not_not.mpr valid),
    if_neg (by omega), rest, declared, service, size]
  refine ⟨_, parse, ⟨rfl, channel, seqNumber, rfl, copy, duplicated, fun target offset => ?_⟩⟩
  rw [ldata_generate_eq target offset copy tpduFits, octets, relayed_octets regular ldataHeld]

theorem peer_frames_accepted_ind_addr_connect :
    let memory : Nat → Byte := fun index =>
      (knxcTunnelRqIndAddrConnect.octets 21 300)[index]?.getD 0
    ∃ packet, eval memory (knxParse 0 20 {}) = (20, packet) ∧
      ReadsAs memory packet knxcTunnelRqIndAddrConnect 21 300 :=
  peer_frames_accepted knxcTunnelRqIndAddrConnect (by simp [peerFrames]) 21 300 _
    ((Buffer.holds_iff_contents _ _ _).mpr rfl) 20 (Nat.le_refl _) {}

theorem dev_config_unknown (remoteChid : Nat) (seqNum : Int) (memory : Nat → Byte)
    (held : Buffer.Holds memory 0 (knxcTunnelRqRs485DevConfigRq remoteChid seqNum))
    (output : KnxPacket) :
    (eval memory (knxParse 0 17 output)).1 = -knxUnknownService := by
  obtain ⟨structureLength, version, serviceHigh, serviceLow, lengthHigh, lengthLow, -⟩ := held
  have declared : declaredLength memory = 17 := by
    rw [declaredLength, lengthHigh, lengthLow]
    rfl
  have service : declaredService memory = 0x0310 := by
    rw [declaredService, serviceHigh, serviceLow]
    rfl
  have valid : HeaderValid memory := by
    refine ⟨congrArg BitVec.toNat structureLength, congrArg BitVec.toNat version, ?_⟩
    rw [declared, knxHeaderSize]
    omega
  rw [eval_knxParse, if_neg (by decide), if_neg (not_not.mpr valid), declared,
    if_neg (Nat.lt_irrefl _), service]
  rfl

end KnxDemo.PeerFrames
