import KnxDemo.Knx.Generate

/-!
# What the generators write

Every generator stores one block of octets. Where a data TPDU has no payload its
second octet is made from whatever the buffer held there before, so the layout
of a frame takes that octet as a parameter.
-/

namespace KnxDemo.KnxLayout

open KnxDemo.Bytes KnxDemo.KnxProto KnxDemo.KnxGenerate KnxDemo.Interaction

/-! ## Host information and connections -/

def hostInfoOctets (host : KnxHostInfo) : List Byte :=
  [BitVec.ofNat 8 knxHostInfoSize, BitVec.ofNat 8 host.protocol] ++ host.address.toList ++
    host.port.toList

def connectionRequestOctets (req : KnxConnectionRequest) : List Byte :=
  hostInfoOctets req.controlHost ++ hostInfoOctets req.tunnelHost ++
    [4, BitVec.ofNat 8 req.type, BitVec.ofNat 8 req.layer, 0]

def connectionResponseOctets (res : KnxConnectionResponse) : List Byte :=
  [res.channel, res.status] ++
    if res.status = 0 then hostInfoOctets res.host ++ 4 :: res.extended.toList else []

def channelRequestOctets (req : KnxChannelRequest) : List Byte :=
  [req.channel, req.status] ++ hostInfoOctets req.host

def channelResponseOctets (res : KnxChannelResponse) : List Byte := [res.channel, res.status]

def tunnelResponseOctets (res : KnxTunnelResponse) : List Byte :=
  [4, res.channel, res.seqNumber, res.status]

@[simp] theorem length_hostInfoOctets (host : KnxHostInfo) :
    (hostInfoOctets host).length = 8 := by
  simp [hostInfoOctets]

theorem host_info_generate_eq (buffer : Buffer Byte) (offset : Nat) (host : KnxHostInfo) :
    knxHostInfoGenerate buffer offset host = buffer.storeBlock offset (hostInfoOctets host) := by
  simp [knxHostInfoGenerate, hostInfoOctets, Buffer.storeBlock_append, Buffer.storeBlock,
    Nat.add_assoc]

theorem connection_request_generate_eq (buffer : Buffer Byte) (offset : Nat)
    (req : KnxConnectionRequest) :
    knxConnectionRequestGenerate buffer offset req =
      buffer.storeBlock offset (connectionRequestOctets req) := by
  simp [knxConnectionRequestGenerate, connectionRequestOctets, host_info_generate_eq,
    knxHostInfoSize, Buffer.storeBlock_append, Buffer.storeBlock, Nat.add_assoc]

theorem connection_response_generate_eq (buffer : Buffer Byte) (offset : Nat)
    (res : KnxConnectionResponse) :
    knxConnectionResponseGenerate buffer offset res =
      buffer.storeBlock offset (connectionResponseOctets res) := by
  unfold knxConnectionResponseGenerate connectionResponseOctets
  split_ifs
  · simp [host_info_generate_eq, knxHostInfoSize, Buffer.storeBlock_append, Buffer.storeBlock,
      Nat.add_assoc]
  · simp [Buffer.storeBlock]

theorem channel_request_generate_eq (buffer : Buffer Byte) (offset : Nat)
    (req : KnxChannelRequest) :
    channelRequestGenerate buffer offset req =
      buffer.storeBlock offset (channelRequestOctets req) := by
  simp [channelRequestGenerate, channelRequestOctets, host_info_generate_eq,
    Buffer.storeBlock, Nat.add_assoc]

theorem channel_response_generate_eq (buffer : Buffer Byte) (offset : Nat)
    (res : KnxChannelResponse) :
    channelResponseGenerate buffer offset res =
      buffer.storeBlock offset (channelResponseOctets res) := rfl

theorem tunnel_response_generate_eq (buffer : Buffer Byte) (offset : Nat)
    (res : KnxTunnelResponse) :
    knxTunnelResponseGenerate buffer offset res =
      buffer.storeBlock offset (tunnelResponseOctets res) := rfl

/-! ## Frames -/

def tpciOctet (info : KnxTpdu (List Byte)) : Byte :=
  BitVec.ofNat 8 ((info.tpci &&& 3) <<< 6 ||| (info.seqNumber.toNat &&& 15) <<< 2)

def withApci (apci : Nat) (octet : Byte) : Byte :=
  octet &&& 63#8 ||| BitVec.ofNat 8 ((apci &&& 3) <<< 6)

def apduOctets (stale : Byte) (apci : Nat) : List Byte → List Byte
  | [] => [withApci apci stale]
  | octet :: rest => withApci apci octet :: rest

def tpduOctets (stale : Byte) (info : KnxTpdu (List Byte)) : List Byte :=
  if isData info.tpci then
    (tpciOctet info ||| BitVec.ofNat 8 (info.apci >>> 2 &&& 3)) ::
      apduOctets stale info.apci (octetsBehind info.payload info.length)
  else if isControl info.tpci then [tpciOctet info ||| BitVec.ofNat 8 (info.control &&& 3)]
  else [tpciOctet info]

/-- The octets that are replaced in place, when there is a payload to replace them in. -/
theorem data_tpdu_generate_eq (buffer : Buffer Byte) (offset apci : Nat)
    (first octet : Byte) (rest : List Byte) :
    let stored := (buffer.store offset first).storeBlock (offset + 1) (octet :: rest)
    let stored := stored.store offset
      (stored.memory offset ||| BitVec.ofNat 8 (apci >>> 2 &&& 3))
    let stored := stored.store (offset + 1) (stored.memory (offset + 1) &&& 63#8)
    stored.store (offset + 1)
        (stored.memory (offset + 1) ||| BitVec.ofNat 8 ((apci &&& 3) <<< 6)) =
      buffer.storeBlock offset
        ((first ||| BitVec.ofNat 8 (apci >>> 2 &&& 3)) :: withApci apci octet :: rest) := by
  have whole : (buffer.store offset first).storeBlock (offset + 1) (octet :: rest) =
      buffer.storeBlock offset (first :: octet :: rest) := rfl
  simp only [whole, Buffer.memory_storeBlock_first, Buffer.store_storeBlock_first,
    Buffer.memory_storeBlock_second, Buffer.store_storeBlock_second, withApci]

theorem tpdu_generate_eq (buffer : Buffer Byte) (offset : Nat) (info : KnxTpdu (List Byte)) :
    knxTpduGenerate buffer offset info =
      buffer.storeBlock offset (tpduOctets (buffer.memory (offset + 1)) info) := by
  unfold knxTpduGenerate tpduOctets
  split_ifs
  · cases octetsBehind info.payload info.length with
    | nil =>
        ext index
        · simp [Buffer.storeBlock, Buffer.memory_store, apduOctets, withApci, tpciOctet]
          split_ifs <;> simp_all
        · simp [Buffer.storeBlock, Buffer.store, apduOctets]
    | cons octet rest => exact data_tpdu_generate_eq buffer offset info.apci _ octet rest
  · have whole : buffer.store offset (tpciOctet info) = buffer.storeBlock offset [tpciOctet info] :=
      rfl
    rw [← tpciOctet, whole]
    simp only [Buffer.memory_storeBlock_first, Buffer.store_storeBlock_first]
  · rfl

def ValidPayload (info : KnxTpdu (List Byte)) : Prop :=
  isData info.tpci → info.length ≤ (info.payload.getD []).length

theorem length_apduOctets (stale : Byte) (apci : Nat) (octets : List Byte) :
    (apduOctets stale apci octets).length = max octets.length 1 := by
  cases octets with
  | nil => rfl
  | cons octet rest =>
      simp only [apduOctets, List.length_cons]
      omega

theorem length_tpduOctets (stale : Byte) (info : KnxTpdu (List Byte))
    (known : 1 ≤ knxTpduSize info) (valid : ValidPayload info) :
    (tpduOctets stale info).length = knxTpduSize info := by
  unfold tpduOctets knxTpduSize at *
  by_cases data : isData info.tpci
  · have enough := valid data
    have length : (octetsBehind info.payload info.length).length = info.length := by
      rw [octetsBehind, List.length_take]
      omega
    simp only [if_pos data, List.length_cons, length_apduOctets, length]
    split_ifs <;> omega
  · by_cases control : isControl info.tpci
    · simp only [if_neg data, if_pos control, List.length_cons, List.length_nil]
    · simp only [if_neg data, if_neg control] at known
      omega

def ldataHead (req : KnxLdata (List Byte)) : List Byte :=
  [BitVec.ofNat 8 (bit (knxTpduSize req.tpdu ≤ 16) <<< 7 ||| notBit req.repeatFlag <<< 5
      ||| notBit req.systemBroadcast <<< 4 ||| (req.priority &&& 3) <<< 2
      ||| bit req.requestAck <<< 1 ||| bit req.error),
    BitVec.ofNat 8 ((req.addressType &&& 1) <<< 7 ||| (req.hops.toNat &&& 7) <<< 4),
    highByte req.source, lowByte req.source, highByte req.destination, lowByte req.destination,
    BitVec.ofNat 8 (knxTpduSize req.tpdu - 1)]

def ldataOctets (stale : Byte) (req : KnxLdata (List Byte)) : List Byte :=
  ldataHead req ++ tpduOctets stale req.tpdu

/-- The TPDU sizes the L_Data length octet can announce. -/
def TpduFits (info : KnxTpdu (List Byte)) : Prop := 1 ≤ knxTpduSize info ∧ knxTpduSize info ≤ 256

theorem ldata_generate_eq (buffer : Buffer Byte) (offset : Nat) (req : KnxLdata (List Byte))
    (fits : TpduFits req.tpdu) :
    knxLdataGenerate buffer offset req =
      (buffer.storeBlock offset (ldataOctets (buffer.memory (offset + 8)) req), true) := by
  rcases fits with ⟨nonempty, bounded⟩
  have accepted : ¬ (knxTpduSize req.tpdu = 0 ∨ knxTpduSize req.tpdu > 255 + 1) := by omega
  have head : (ldataHead req).length = 7 := rfl
  have stale : (buffer.storeBlock offset (ldataHead req)).memory (offset + 7 + 1) =
      buffer.memory (offset + 8) :=
    Buffer.memory_storeBlock_outside _ _ _ _ (.inr (by omega))
  simp only [knxLdataGenerate, if_neg accepted]
  rw [ldataOctets, Buffer.storeBlock_append, head, ← stale, ← tpdu_generate_eq]
  rfl

def ValidAddInfo (frame : KnxCemi (List Byte)) : Prop :=
  0 < frame.addInfoLength.toNat →
    ∃ octets, frame.addInfo = some octets ∧ frame.addInfoLength.toNat ≤ octets.length

theorem length_addInfo {frame : KnxCemi (List Byte)} (valid : ValidAddInfo frame) :
    (octetsBehind frame.addInfo frame.addInfoLength.toNat).length =
      frame.addInfoLength.toNat := by
  rw [octetsBehind, List.length_take]
  by_cases carries : 0 < frame.addInfoLength.toNat
  · obtain ⟨octets, pointer, enough⟩ := valid carries
    rw [pointer, Option.getD_some]
    omega
  · omega

/-- The offset of the second TPDU octet of a frame at `offset`. -/
def stalePosition (offset : Nat) (frame : KnxCemi (List Byte)) : Nat :=
  offset + (knxCemiHeaderSize + frame.addInfoLength.toNat) + 8

def cemiHead (frame : KnxCemi (List Byte)) : List Byte :=
  BitVec.ofNat 8 frame.service :: frame.addInfoLength ::
    octetsBehind frame.addInfo frame.addInfoLength.toNat

def cemiOctets (stale : Byte) (frame : KnxCemi (List Byte)) : List Byte :=
  cemiHead frame ++ ldataOctets stale frame.ldata

theorem length_cemiHead {frame : KnxCemi (List Byte)} (valid : ValidAddInfo frame) :
    (cemiHead frame).length = knxCemiHeaderSize + frame.addInfoLength.toNat := by
  simp only [cemiHead, List.length_cons, length_addInfo valid, knxCemiHeaderSize]
  omega

theorem cemi_head_generate_eq (buffer : Buffer Byte) (offset : Nat) (frame : KnxCemi (List Byte))
    (valid : ValidAddInfo frame) :
    (if frame.addInfoLength.toNat > 0 ∧ frame.addInfo.isSome then
        ((buffer.store offset (BitVec.ofNat 8 frame.service)).store (offset + 1)
          frame.addInfoLength).storeBlock (offset + knxCemiHeaderSize)
          (octetsBehind frame.addInfo frame.addInfoLength.toNat)
      else (buffer.store offset (BitVec.ofNat 8 frame.service)).store (offset + 1) 0) =
      buffer.storeBlock offset (cemiHead frame) := by
  by_cases carries : 0 < frame.addInfoLength.toNat
  · obtain ⟨octets, pointer, _⟩ := valid carries
    rw [if_pos ⟨carries, by rw [pointer]; rfl⟩]
    rfl
  · have empty : frame.addInfoLength = 0#8 := by
      apply BitVec.eq_of_toNat_eq
      simp only [BitVec.toNat_ofNat]
      omega
    rw [if_neg (fun both => carries both.1), cemiHead, empty]
    rfl

theorem cemi_generate_eq (buffer : Buffer Byte) (offset : Nat) (frame : KnxCemi (List Byte))
    (service : isLdata frame.service) (valid : ValidAddInfo frame)
    (fits : TpduFits frame.ldata.tpdu) :
    knxCemiGenerate buffer offset frame =
      (buffer.storeBlock offset
        (cemiOctets (buffer.memory (stalePosition offset frame)) frame), true) := by
  have head := length_cemiHead valid
  have stale : (buffer.storeBlock offset (cemiHead frame)).memory
      (offset + (knxCemiHeaderSize + frame.addInfoLength.toNat) + 8) =
        buffer.memory (stalePosition offset frame) :=
    Buffer.memory_storeBlock_outside _ _ _ _ (.inr (by omega))
  unfold knxCemiGenerate
  simp only [cemi_head_generate_eq buffer offset frame valid, if_pos service]
  rw [ldata_generate_eq _ _ _ fits, stale, cemiOctets, Buffer.storeBlock_append, head]

theorem length_cemiOctets (stale : Byte) {frame : KnxCemi (List Byte)}
    (valid : ValidAddInfo frame) (fits : TpduFits frame.ldata.tpdu)
    (payload : ValidPayload frame.ldata.tpdu) :
    (cemiOctets stale frame).length =
      knxCemiHeaderSize + frame.addInfoLength.toNat + (7 + knxTpduSize frame.ldata.tpdu) := by
  rw [cemiOctets, List.length_append, length_cemiHead valid, ldataOctets, List.length_append,
    length_tpduOctets stale _ fits.1 payload]
  rfl

def tunnelRequestOctets (stale : Byte) (req : KnxTunnelRequest (List Byte)) : List Byte :=
  [4, req.channel, req.seqNumber, 0] ++ cemiOctets stale req.data

theorem tunnel_request_generate_eq (buffer : Buffer Byte) (offset : Nat)
    (req : KnxTunnelRequest (List Byte)) (service : isLdata req.data.service)
    (valid : ValidAddInfo req.data) (fits : TpduFits req.data.ldata.tpdu) :
    knxTunnelRequestGenerate buffer offset req =
      buffer.storeBlock offset
        (tunnelRequestOctets (buffer.memory (stalePosition (offset + 4) req.data)) req) := by
  have stale : (buffer.storeBlock offset [4, req.channel, req.seqNumber, 0]).memory
      (stalePosition (offset + 4) req.data) = buffer.memory (stalePosition (offset + 4) req.data) :=
    Buffer.memory_storeBlock_outside _ _ _ _ (.inr (by
      simp only [stalePosition, List.length_cons, List.length_nil]
      omega))
  have whole : (((buffer.store offset 4).store (offset + 1) req.channel).store (offset + 2)
      req.seqNumber).store (offset + 3) 0 =
        buffer.storeBlock offset [4, req.channel, req.seqNumber, 0] := rfl
  simp only [knxTunnelRequestGenerate, whole]
  rw [cemi_generate_eq _ _ _ service valid fits, stale, tunnelRequestOctets,
    Buffer.storeBlock_append]
  rfl

/-! ## Packets -/

def headerOctets (srv length : Nat) : List Byte :=
  [BitVec.ofNat 8 knxHeaderSize, 16, highByte (BitVec.ofNat 16 srv), lowByte (BitVec.ofNat 16 srv),
    highByte (BitVec.ofNat 16 (length + knxHeaderSize)),
    lowByte (BitVec.ofNat 16 (length + knxHeaderSize))]

theorem header_generate_eq (buffer : Buffer Byte) (srv length : Nat) (fits : length ≤ 65529) :
    knxHeaderGenerate buffer srv length =
      (buffer.storeBlock 0 (headerOctets srv length), true) := by
  have accepted : ¬ length > 65535 - knxHeaderSize := by
    simp only [knxHeaderSize]
    omega
  simp only [knxHeaderGenerate, if_neg accepted, ofNat_high_octet]
  simp only [ofNat_low_octet]
  rfl

end KnxDemo.KnxLayout
