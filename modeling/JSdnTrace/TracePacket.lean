/-
  `core.TracePacket`: the probe and reply packet, its setters, and its wire format: a header
  of 37 bytes, the switch record, and one zero byte for each unit of the contId (its length
  is counted twice).

  * `serialize_of_length`, `lt_of_serialize`, `serialize_eq_ok`: when `serialize` returns, and
    the bytes it returns. `bytes_of_serialize` is what is left of it for any packet.
  * `deserialize_eq_ok_iff`, `deserialize_eq_ok`: what the decoder accepts and reads. The
    header is read relative to `offset`, the switch record at the absolute index 21.
  * `throwsOwn_serialize`, `throwsOwn_deserialize`: what goes wrong is unchecked.
-/
import JSdnTrace.SwitchInfo

namespace JSdnTrace

open Java

/-- What `new TracePacket()` draws: `new Random().nextLong()` and the clock. -/
structure Draw where
  nextLong : JLong
  now : JLong

structure TracePacket where
  /-- `null` until it is set. -/
  destinationMAC : Option MacAddress
  sourceMAC : Option MacAddress
  version : JByte
  maxHops : JByte
  probeId : JLong
  /-- `getTime()` of the `Date`. -/
  timestamp : JLong
  hop : JByte
  swInfo : SwitchInfo
  /-- A request, or else a reply. -/
  request : Bool
  deriving DecidableEq

namespace TracePacket

def packSize : Nat := 37 + SwitchInfo.len

/-- `new TracePacket()`. -/
def new (ofj : OpenFlowJ) (draw : Draw) : TracePacket where
  destinationMAC := none
  sourceMAC := none
  version := 1
  maxHops := 0
  probeId := draw.nextLong
  timestamp := draw.now
  hop := 0
  swInfo := SwitchInfo.new ofj
  request := true

def setTimestamp (p : TracePacket) (d : JLong) : TracePacket := { p with timestamp := d }

def setHop (p : TracePacket) (hop : JByte) : TracePacket := { p with hop := hop }

def setDestination (p : TracePacket) (dstMac : Option MacAddress) : TracePacket :=
  { p with destinationMAC := dstMac }

def setSwInfo (p : TracePacket) (inf : SwitchInfo) : TracePacket := { p with swInfo := inf }

def setSource (p : TracePacket) (srcMac : Option MacAddress) : TracePacket :=
  { p with sourceMAC := srcMac }

def setMaxHops (p : TracePacket) (ttl : JByte) : TracePacket := { p with maxHops := ttl }

def setType (p : TracePacket) (request : Bool) : TracePacket := { p with request := request }

/-- `ConvertToReply`: `null` on a reply, else the packet itself, turned around. -/
def convertToReply (p : TracePacket) : Option TracePacket :=
  if p.request = false then none
  else some { p with
    request := false
    sourceMAC := p.destinationMAC
    destinationMAC := p.sourceMAC }

/-- `compareTo`: hops compare as signed bytes. -/
def compareTo (p o : TracePacket) : Int :=
  if p.hop.toInt < o.hop.toInt then -1 else if p.hop = o.hop then 0 else 1

def serialize (p : TracePacket) : Except Throwable (List JByte) := do
  let length := BitVec.ofNat 32 packSize + p.swInfo.contId.length + p.swInfo.contId.length
  let data ← newArray length
  let bb := ByteBuffer.wrapAll data
  let bb ← bb.put (length.setWidth 8)
  let destination ← deref p.destinationMAC
  let bb ← bb.putLong destination.getLong
  let source ← deref p.sourceMAC
  let bb ← bb.putLong source.getLong
  let bb ← bb.put p.version
  let bb ← bb.put p.maxHops
  let bb ← bb.putLong p.probeId
  let bb ← bb.put p.hop
  let bb ← bb.putLong p.timestamp
  let bb ← bb.put (if p.request then 1 else 0)
  let swinf ← p.swInfo.serialize
  let bb ← bb.putAll swinf
  return bb.hb

/-- The first byte is read and dropped. Only the header is read through the window. -/
def deserialize (ofj : OpenFlowJ) (this : TracePacket) (data : List JByte) (offset length : Int) :
    Except Throwable TracePacket := do
  let bb ← ByteBuffer.wrap data offset length
  let (_, bb) ← bb.get
  let (destination, bb) ← bb.getLong
  let (source, bb) ← bb.getLong
  let (version, bb) ← bb.get
  let (maxHops, bb) ← bb.get
  let (probeId, bb) ← bb.getLong
  let (hop, bb) ← bb.get
  let (time, bb) ← bb.getLong
  let (req, _) ← bb.get
  let swInfo ← (SwitchInfo.new ofj).deserialize ofj data 21 SwitchInfo.len
  return { this with
    destinationMAC := some (ofj.macOf destination)
    sourceMAC := some (ofj.macOf source)
    version := version
    maxHops := maxHops
    probeId := probeId
    hop := hop
    timestamp := time
    request := decide (req = 1)
    swInfo := swInfo }

/-! ## The bytes of a packet -/

/-- `(byte) length`, the first byte of the packet. -/
def lengthByte (p : TracePacket) : JByte :=
  (BitVec.ofNat 32 packSize + p.swInfo.contId.length + p.swInfo.contId.length).setWidth 8

/-- The 37 header bytes of a packet between `dst` and `src`. -/
def header (p : TracePacket) (dst src : MacAddress) : List JByte :=
  p.lengthByte :: (longBytes dst.getLong ++ (longBytes src.getLong ++
    p.version :: p.maxHops :: (longBytes p.probeId ++
      p.hop :: (longBytes p.timestamp ++ [if p.request then 1 else 0]))))

@[simp] theorem length_header (p : TracePacket) (dst src : MacAddress) :
    (p.header dst src).length = 37 := rfl

/-- The whole packet: header, switch record and padding. -/
def wire (p : TracePacket) (dst src : MacAddress) (address : InetAddress) : List JByte :=
  p.header dst src ++ (p.swInfo.record address ++
    List.replicate p.swInfo.contId.units.length 0)

theorem throwsOwn_serialize (p : TracePacket) : ThrowsOwn p.serialize := by
  unfold serialize
  refine (throwsOwn_newArray _).bind fun data => ?_
  refine (ByteBuffer.throwsOwn_write _ _).bind fun bb => ?_
  refine (throwsOwn_deref _).bind fun destination => ?_
  refine (ByteBuffer.throwsOwn_write _ bb).bind fun bb => ?_
  refine (throwsOwn_deref _).bind fun source => ?_
  refine (ByteBuffer.throwsOwn_write _ bb).bind fun bb => ?_
  refine (ByteBuffer.throwsOwn_write _ bb).bind fun bb => ?_
  refine (ByteBuffer.throwsOwn_write _ bb).bind fun bb => ?_
  refine (ByteBuffer.throwsOwn_write _ bb).bind fun bb => ?_
  refine (ByteBuffer.throwsOwn_write _ bb).bind fun bb => ?_
  refine (ByteBuffer.throwsOwn_write _ bb).bind fun bb => ?_
  refine (ByteBuffer.throwsOwn_write _ bb).bind fun bb => ?_
  refine (SwitchInfo.throwsOwn_serialize p.swInfo).bind fun swinf => ?_
  exact (ByteBuffer.throwsOwn_write _ bb).bind fun _ => throwsOnly_ok _

/-- The puts of the header as one write. -/
theorem serialize_eq_write {p : TracePacket} {dst src : MacAddress}
    (hd : p.destinationMAC = some dst) (hs : p.sourceMAC = some src) :
    p.serialize = do
      let data ← newArray (BitVec.ofNat 32 packSize + p.swInfo.contId.length +
        p.swInfo.contId.length)
      let bb ← (ByteBuffer.wrapAll data).write (p.header dst src)
      let swinf ← p.swInfo.serialize
      let bb ← bb.putAll swinf
      return bb.hb := by
  unfold serialize
  rw [hd, hs]
  cases hn : newArray (BitVec.ofNat 32 packSize + p.swInfo.contId.length +
      p.swInfo.contId.length) with
  | error e =>
    dsimp only
    rw [hn]
    rfl
  | ok data =>
    dsimp only
    rw [hn, newArray_eq_ok hn]
    simp only [ok_bind, deref_some, ByteBuffer.wrapAll_replicate, ByteBuffer.putLong,
      ByteBuffer.put, ByteBuffer.write_write_bind, header, lengthByte, List.append_assoc,
      List.cons_append, List.nil_append]

theorem toNat_length (p : TracePacket) :
    (BitVec.ofNat 32 packSize + p.swInfo.contId.length + p.swInfo.contId.length).toNat =
      (packSize + 2 * p.swInfo.contId.units.length) % 0x100000000 := by
  rw [BitVec.toNat_add, BitVec.toNat_add, JString.length_toNat, BitVec.toNat_ofNat]
  unfold packSize SwitchInfo.len
  omega

theorem macs_of_serialize {p : TracePacket} {data : List JByte} (h : p.serialize = .ok data) :
    ∃ dst src, p.destinationMAC = some dst ∧ p.sourceMAC = some src := by
  unfold serialize at h
  obtain ⟨arr, -, h⟩ := bind_eq_ok.mp h
  obtain ⟨bb, -, h⟩ := bind_eq_ok.mp h
  obtain ⟨dst, hd, h⟩ := bind_eq_ok.mp h
  obtain ⟨bb', -, h⟩ := bind_eq_ok.mp h
  obtain ⟨src, hs, -⟩ := bind_eq_ok.mp h
  exact ⟨dst, src, deref_eq_ok.mp hd, deref_eq_ok.mp hs⟩

/-- Any packet that was built: its header, its record and zeros, as many bytes as an `int`
    can count. -/
theorem bytes_of_serialize {p : TracePacket} {data : List JByte} (h : p.serialize = .ok data) :
    ∃ dst src address k, p.destinationMAC = some dst ∧ p.sourceMAC = some src ∧
      p.swInfo.ipAddr.getAddress = some address ∧
      data = p.header dst src ++ (p.swInfo.record address ++ List.replicate k 0) ∧
      data.length = (packSize + 2 * p.swInfo.contId.units.length) % 0x100000000 ∧
      data.length < 0x80000000 := by
  obtain ⟨dst, src, hd, hs⟩ := macs_of_serialize h
  have hlen := toNat_length p
  rw [serialize_eq_write hd hs] at h
  obtain ⟨arr, harr, h⟩ := bind_eq_ok.mp h
  obtain ⟨bb, hw, h⟩ := bind_eq_ok.mp h
  obtain ⟨swinf, hsw, h⟩ := bind_eq_ok.mp h
  obtain ⟨bb', hw', h⟩ := bind_eq_ok.mp h
  cases h
  have hsmall : (BitVec.ofNat 32 packSize + p.swInfo.contId.length +
      p.swInfo.contId.length).toNat < 0x80000000 := by
    by_contra hneg
    rw [newArray_of_le (by omega)] at harr
    cases harr
  have hdata : bb'.hb.length = (packSize + 2 * p.swInfo.contId.units.length) % 0x100000000 := by
    rw [ByteBuffer.length_hb_write hw', ByteBuffer.length_hb_write hw, newArray_eq_ok harr,
      ByteBuffer.wrapAll_replicate, ← hlen]
    simp only [ByteBuffer.written, List.nil_append, List.length_replicate]
  obtain ⟨address, k, ha, rfl⟩ := SwitchInfo.serialize_eq_ok hsw
  rw [newArray_eq_ok harr, ByteBuffer.wrapAll_replicate] at hw
  obtain ⟨-, rfl⟩ := ByteBuffer.write_written_eq_ok hw
  obtain ⟨-, rfl⟩ := ByteBuffer.write_written_eq_ok hw'
  have hbytes := ByteBuffer.hb_written_zeros (p.header dst src ++ p.swInfo.record address) k
    ((BitVec.ofNat 32 packSize + p.swInfo.contId.length + p.swInfo.contId.length).toNat -
      (p.header dst src).length - (p.swInfo.record address ++ List.replicate k 0).length)
  rw [List.append_assoc, List.append_assoc] at hbytes
  exact ⟨dst, src, address, _, hd, hs, ha, hbytes, hdata, by omega⟩

theorem packSize_le_length {p : TracePacket} {data : List JByte} (h : p.serialize = .ok data) :
    packSize ≤ data.length := by
  obtain ⟨dst, src, address, k, -, -, -, rfl, -⟩ := bytes_of_serialize h
  rw [List.length_append, List.length_append, length_header, SwitchInfo.length_record]
  unfold packSize
  omega

/-- Past an `int` the packet is not built: the length is negative, or wraps to one that is
    too short for the header and the record. -/
theorem lt_of_serialize {p : TracePacket} {data : List JByte} (h : p.serialize = .ok data) :
    packSize + 2 * p.swInfo.contId.units.length < 0x80000000 := by
  have hn := p.swInfo.contId.length_lt
  have hge := packSize_le_length h
  obtain ⟨dst, src, address, k, -, -, -, -, hlen, hsmall⟩ := bytes_of_serialize h
  unfold packSize SwitchInfo.len at *
  omega

section Serialize

variable {p : TracePacket} {dst src : MacAddress} {address : InetAddress}
  (hd : p.destinationMAC = some dst) (hs : p.sourceMAC = some src)
  (ha : p.swInfo.ipAddr.getAddress = some address)

include hd hs ha

theorem serialize_of_length (hc : p.swInfo.contId.getBytes.length = p.swInfo.contId.units.length)
    (h : packSize + 2 * p.swInfo.contId.units.length < 0x80000000) :
    p.serialize = .ok (p.wire dst src address) := by
  have hlen : (BitVec.ofNat 32 packSize + p.swInfo.contId.length +
      p.swInfo.contId.length).toNat = packSize + 2 * p.swInfo.contId.units.length := by
    rw [toNat_length]
    omega
  have hrec : (p.swInfo.record address).length =
      SwitchInfo.len + p.swInfo.contId.units.length := by
    rw [SwitchInfo.length_record, hc]
  have hsw : p.swInfo.serialize = .ok (p.swInfo.record address) :=
    SwitchInfo.serialize_of_length ha hc (by unfold packSize at h; omega)
  rw [serialize_eq_write hd hs, newArray_of_lt (by omega), ok_bind,
    ByteBuffer.wrapAll_replicate,
    ByteBuffer.write_written (by rw [length_header, hlen]; unfold packSize; omega), ok_bind,
    hsw, ok_bind, ByteBuffer.putAll,
    ByteBuffer.write_written (by rw [hrec, hlen, length_header]; unfold packSize; omega), ok_bind]
  show Except.ok _ = _
  congr 1
  simp only [ByteBuffer.written, wire, List.nil_append, List.append_assoc]
  congr 3
  rw [hrec, hlen, length_header]
  unfold packSize
  omega

theorem serialize_of_lt (hc : p.swInfo.contId.Ascii)
    (h : packSize + 2 * p.swInfo.contId.units.length < 0x80000000) :
    p.serialize = .ok (p.wire dst src address) :=
  serialize_of_length hd hs ha (JString.length_getBytes_ascii hc) h

end Serialize

/-- What `serialize` returns, when it returns. -/
theorem serialize_eq_ok {p : TracePacket} {dst src : MacAddress} {address : InetAddress}
    (hd : p.destinationMAC = some dst) (hs : p.sourceMAC = some src)
    (ha : p.swInfo.ipAddr.getAddress = some address) (hc : p.swInfo.contId.Ascii)
    {data : List JByte} (h : p.serialize = .ok data) : data = p.wire dst src address := by
  rw [serialize_of_lt hd hs ha hc (lt_of_serialize h)] at h
  cases h
  rfl

/-! ## Reading a packet -/

/-- The fields read from the header at index `i`, with the switch record read elsewhere. -/
def readAt (ofj : OpenFlowJ) (data : List JByte) (i : Nat) (swInfo : SwitchInfo) :
    TracePacket where
  destinationMAC := some (ofj.macOf (longAt data (i + 1)))
  sourceMAC := some (ofj.macOf (longAt data (i + 9)))
  version := byteAt data (i + 17)
  maxHops := byteAt data (i + 18)
  probeId := longAt data (i + 19)
  hop := byteAt data (i + 27)
  timestamp := longAt data (i + 28)
  request := decide (byteAt data (i + 36) = 1)
  swInfo := swInfo

section Deserialize

variable {ofj : OpenFlowJ} {this : TracePacket} {data : List JByte} {offset length : Int}

theorem deserialize_of_le (h0 : 0 ≤ offset) (hl : 37 ≤ length)
    (h : offset + length ≤ data.length) :
    deserialize ofj this data offset length =
      ((SwitchInfo.new ofj).deserialize ofj data 21 SwitchInfo.len).map
        (readAt ofj data offset.toNat) := by
  have hw : ∀ k, k ≤ 37 → offset.toNat + k ≤ (offset + length).toNat := by intro k hk; omega
  unfold deserialize
  rw [ByteBuffer.wrap_of_le h0 (by omega) h, ok_bind]
  simp (disch := omega) only [ByteBuffer.getLong, ByteBuffer.get, ByteBuffer.read_of_le, ok_bind,
    Nat.add_assoc, Nat.reduceAdd]
  cases (SwitchInfo.new ofj).deserialize ofj data 21 SwitchInfo.len with
  | error e => rfl
  | ok swInfo => rfl

/-- A packet that was read has its header in the window, and the array holds the bytes the
    switch record is read from. -/
theorem window_of_deserialize_eq_ok {q : TracePacket}
    (h : deserialize ofj this data offset length = .ok q) :
    0 ≤ offset ∧ 37 ≤ length ∧ offset + length ≤ data.length ∧ 49 ≤ data.length := by
  unfold deserialize at h
  obtain ⟨bb, hw, h⟩ := bind_eq_ok.mp h
  obtain ⟨h0, hl, hle, -, hp, hlim⟩ := ByteBuffer.wrap_eq_ok hw
  simp only [ByteBuffer.getLong, ByteBuffer.get, ByteBuffer.read_bind_eq_ok] at h
  obtain ⟨_, _, _, _, _, _, _, _, hend, h⟩ := h
  obtain ⟨swInfo, hsw, _⟩ := bind_eq_ok.mp h
  obtain ⟨-, -, hrec⟩ := SwitchInfo.window_of_deserialize_eq_ok hsw
  unfold SwitchInfo.len at hrec
  omega

/-- The decoder accepts exactly the arrays that hold a header in the window and 49 bytes in all,
    with a port at index 41. -/
theorem deserialize_eq_ok_iff :
    (∃ q, deserialize ofj this data offset length = .ok q) ↔
      0 ≤ offset ∧ 37 ≤ length ∧ offset + length ≤ data.length ∧ 49 ≤ data.length ∧
        ofj.AcceptsPort (intAt data 41) := by
  have hrecord : (∃ r, (SwitchInfo.new ofj).deserialize ofj data 21 SwitchInfo.len = .ok r) ↔
      49 ≤ data.length ∧ ofj.AcceptsPort (intAt data 41) := by
    rw [SwitchInfo.deserialize_eq_ok_iff]
    refine ⟨fun h => ⟨?_, h.2.2.2⟩, fun h => ⟨by decide, Int.le_refl _, ?_, h.2⟩⟩
    · have hle := h.2.2.1
      unfold SwitchInfo.len at hle
      omega
    · unfold SwitchInfo.len
      omega
  rw [← hrecord]
  refine ⟨fun h => ?_, fun h => ?_⟩
  · obtain ⟨q, hq⟩ := h
    obtain ⟨h0, hl, hle, -⟩ := window_of_deserialize_eq_ok hq
    rw [deserialize_of_le h0 hl hle] at hq
    refine ⟨h0, hl, hle, ?_⟩
    cases hsw : (SwitchInfo.new ofj).deserialize ofj data 21 SwitchInfo.len with
    | error e =>
      rw [hsw] at hq
      cases hq
    | ok swInfo => exact ⟨swInfo, rfl⟩
  · obtain ⟨h0, hl, hle, swInfo, hsw⟩ := h
    rw [deserialize_of_le h0 hl hle, hsw]
    exact ⟨_, rfl⟩

/-- Given the whole array, the decoder asks for 49 bytes and a port. -/
theorem deserialize_array_eq_ok_iff :
    (∃ q, deserialize ofj this data 0 data.length = .ok q) ↔
      49 ≤ data.length ∧ ofj.AcceptsPort (intAt data 41) := by
  rw [deserialize_eq_ok_iff]
  refine ⟨fun h => h.2.2.2, fun h => ⟨Int.le_refl _, ?_, by omega, h⟩⟩
  have h49 := h.1
  omega

/-- The switch record comes from index 21, whatever the window. -/
theorem deserialize_eq_ok (hof : ofj.Faithful) {q : TracePacket}
    (h : deserialize ofj this data offset length = .ok q) :
    q = readAt ofj data offset.toNat
      (SwitchInfo.readAt ofj (SwitchInfo.new ofj) data 21 ⟨intAt data 41⟩) := by
  obtain ⟨h0, hl, hle, h49, hport⟩ := deserialize_eq_ok_iff.mp ⟨q, h⟩
  have hrec : (21 : Int) + SwitchInfo.len ≤ data.length := by unfold SwitchInfo.len; omega
  rw [deserialize_of_le h0 hl hle,
    SwitchInfo.deserialize_of_le (by omega) (Int.le_refl _) hrec] at h
  rw [show (21 : Int).toNat + 20 = 41 from rfl, hof.portOf_eq hport] at h
  cases h
  rfl

/-- Bytes that are no packet are reported by the exceptions of the buffer and of `OFPort.of`, and
    by no other. -/
theorem throwsOwn_deserialize (hof : ofj.Faithful) :
    ThrowsOwn (deserialize ofj this data offset length) := by
  unfold deserialize
  refine (ByteBuffer.throwsOwn_wrap data offset length).bind fun bb => ?_
  refine (ByteBuffer.throwsOwn_read 1 byteAt bb).bind fun ⟨_, bb⟩ => ?_
  refine (ByteBuffer.throwsOwn_read 8 longAt bb).bind fun ⟨destination, bb⟩ => ?_
  refine (ByteBuffer.throwsOwn_read 8 longAt bb).bind fun ⟨source, bb⟩ => ?_
  refine (ByteBuffer.throwsOwn_read 1 byteAt bb).bind fun ⟨version, bb⟩ => ?_
  refine (ByteBuffer.throwsOwn_read 1 byteAt bb).bind fun ⟨maxHops, bb⟩ => ?_
  refine (ByteBuffer.throwsOwn_read 8 longAt bb).bind fun ⟨probeId, bb⟩ => ?_
  refine (ByteBuffer.throwsOwn_read 1 byteAt bb).bind fun ⟨hop, bb⟩ => ?_
  refine (ByteBuffer.throwsOwn_read 8 longAt bb).bind fun ⟨time, bb⟩ => ?_
  refine (ByteBuffer.throwsOwn_read 1 byteAt bb).bind fun ⟨req, bb⟩ => ?_
  exact (SwitchInfo.throwsOwn_deserialize hof).bind fun _ => throwsOnly_ok _

end Deserialize

end TracePacket

end JSdnTrace
