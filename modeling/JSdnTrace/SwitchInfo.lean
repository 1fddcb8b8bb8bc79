/-
  `core.SwitchInfo`: what a reply says about the switch it was taken on, and its wire record
  of `len = 28` bytes and a contId.

  * `serialize_of_length`: the record of a switch, byte for byte, when the contId has one byte
    for each of its units. `serialize_eq` is the case of an ASCII contId.
  * `serialize_eq_ok`: whatever the address and the contId, a record that was built starts with
    the same fields.
  * `deserialize_eq_ok_iff`, `deserialize_of_le`: when a record is accepted, and what is read.
    The contId on the wire is not.
-/
import JSdnTrace.Java.ByteBuffer
import JSdnTrace.Java.Text
import JSdnTrace.OpenFlow

namespace JSdnTrace

open Java

/-- `java.net.InetAddress`: the bytes of an IPv4 or an IPv6 address. -/
inductive InetAddress where
  | inet4 (b0 b1 b2 b3 : JByte)
  | inet6 (bytes : Vector JByte 16)
  deriving DecidableEq

/-- `InetAddress.getAddress()`. -/
def InetAddress.getAddress : InetAddress → List JByte
  | .inet4 b0 b1 b2 b3 => [b0, b1, b2, b3]
  | .inet6 bytes => bytes.toList

/-- The host of an `InetSocketAddress`: its address, or the name that was not resolved. `equals`
    does not look at the case of a name, so the name is kept in one case. -/
inductive InetHost where
  | resolved (address : InetAddress)
  | unresolved (hostname : JString)
  deriving DecidableEq

/-- `java.net.InetSocketAddress`. -/
structure InetSocketAddress where
  host : InetHost
  port : BitVec 16
  deriving DecidableEq

/-- `InetSocketAddress.getAddress()`: `null` for a host that was not resolved. -/
def InetSocketAddress.getAddress (a : InetSocketAddress) : Option InetAddress :=
  match a.host with
  | .resolved address => some address
  | .unresolved _ => none

theorem InetSocketAddress.getAddress_eq_some {a : InetSocketAddress} {address : InetAddress} :
    a.getAddress = some address ↔ a.host = .resolved address := by
  unfold getAddress
  split
  · next h => rw [h, Option.some_inj, InetHost.resolved.injEq]
  · next h => rw [h]; exact iff_of_false (fun hn => nomatch hn) fun hn => nomatch hn

structure SwitchInfo where
  dpid : DatapathId
  ipAddr : InetSocketAddress
  /-- In milliseconds. -/
  linkLatency : U64
  ingress : OFPort
  contId : JString
  deriving DecidableEq

namespace SwitchInfo

def len : Nat := 28

/-- `new SwitchInfo()`; the address is the IPv4 wildcard with port 0. -/
def new (ofj : OpenFlowJ) : SwitchInfo where
  dpid := ofj.dpidNone
  ipAddr := ⟨.resolved (.inet4 0 0 0 0), 0⟩
  linkLatency := ofj.u64Of 0
  ingress := ofj.portAny
  contId := JString.empty

/-- The address is an IPv4 address. -/
def Ipv4 (s : SwitchInfo) : Prop :=
  ∃ b0 b1 b2 b3, s.ipAddr.getAddress = some (.inet4 b0 b1 b2 b3)

/-- The low half of the switch id. The decoder of a packet takes it for the ingress port. -/
def lowDpid (s : SwitchInfo) : JInt := s.dpid.getLong.extractLsb' 0 32

def serialize (s : SwitchInfo) : Except Throwable (List JByte) := do
  let data ← newArray (BitVec.ofNat 32 len + s.contId.length)
  let bb := ByteBuffer.wrapAll data
  let bb ← bb.putLong s.dpid.getLong
  let address ← deref s.ipAddr.getAddress
  let addr := address.getAddress
  let bb ← bb.put (byteAt addr 0)
  let bb ← bb.put (byteAt addr 1)
  let bb ← bb.put (byteAt addr 2)
  let bb ← bb.put (byteAt addr 3)
  let bb ← bb.putLong s.linkLatency.getValue
  let bb ← bb.putInt s.ingress.getPortNumber
  let bb ← bb.putInt s.contId.length
  let bb ← bb.putAll s.contId.getBytes
  return bb.hb

/-- The fields are read from the window `[offset, offset + length)` of `data`. The length of
    the contId is read and dropped: `this` keeps the contId it had. -/
def deserialize (ofj : OpenFlowJ) (this : SwitchInfo) (data : List JByte) (offset length : Int) :
    Except Throwable SwitchInfo := do
  let bb ← ByteBuffer.wrap data offset length
  let (dpid, bb) ← bb.getLong
  let (addr0, bb) ← bb.get
  let (addr1, bb) ← bb.get
  let (addr2, bb) ← bb.get
  let (addr3, bb) ← bb.get
  let (latency, bb) ← bb.getLong
  let (port, bb) ← bb.getInt
  let ingress ← ofj.portOf port
  let (_, _) ← bb.getInt
  return { this with
    dpid := ofj.dpidOf dpid
    ipAddr := ⟨.resolved (.inet4 addr0 addr1 addr2 addr3), 0⟩
    linkLatency := ofj.u64Of latency
    ingress := ingress }

/-- `equals(SwitchInfo)`. -/
def equals (a b : SwitchInfo) : Bool :=
  if a.dpid ≠ b.dpid then false
  else if a.ingress.getPortNumber ≠ b.ingress.getPortNumber then false
  else if a.ipAddr ≠ b.ipAddr then false
  else if a.linkLatency ≠ b.linkLatency then false
  else if a.contId ≠ b.contId then false
  else true

theorem equals_iff {a b : SwitchInfo} : a.equals b = true ↔ a = b := by
  obtain ⟨dpid, ipAddr, linkLatency, ⟨port⟩, contId⟩ := a
  obtain ⟨dpid', ipAddr', linkLatency', ⟨port'⟩, contId'⟩ := b
  simp only [equals, ne_eq, ite_not, Bool.if_false_right, Bool.and_true, Bool.and_eq_true,
    decide_eq_true_eq, SwitchInfo.mk.injEq, OFPort.mk.injEq]
  tauto

/-! ## The record on the wire -/

/-- The bytes `serialize` writes for a switch at `address`. -/
def record (s : SwitchInfo) (address : InetAddress) : List JByte :=
  longBytes s.dpid.getLong ++
    [byteAt address.getAddress 0, byteAt address.getAddress 1, byteAt address.getAddress 2,
      byteAt address.getAddress 3] ++
    longBytes s.linkLatency.getValue ++ intBytes s.ingress.getPortNumber ++
    intBytes s.contId.length ++ s.contId.getBytes

theorem length_record (s : SwitchInfo) (address : InetAddress) :
    (s.record address).length = len + s.contId.getBytes.length := by
  simp only [record, List.length_append, longBytes_length, intBytes_length, List.length_cons,
    List.length_nil, len]

theorem throwsOwn_serialize (s : SwitchInfo) : ThrowsOwn s.serialize := by
  unfold serialize
  refine (throwsOwn_newArray _).bind fun data => ?_
  refine (ByteBuffer.throwsOwn_write _ _).bind fun bb => ?_
  refine (throwsOwn_deref _).bind fun address => ?_
  refine (ByteBuffer.throwsOwn_write _ bb).bind fun bb => ?_
  refine (ByteBuffer.throwsOwn_write _ bb).bind fun bb => ?_
  refine (ByteBuffer.throwsOwn_write _ bb).bind fun bb => ?_
  refine (ByteBuffer.throwsOwn_write _ bb).bind fun bb => ?_
  refine (ByteBuffer.throwsOwn_write _ bb).bind fun bb => ?_
  refine (ByteBuffer.throwsOwn_write _ bb).bind fun bb => ?_
  refine (ByteBuffer.throwsOwn_write _ bb).bind fun bb => ?_
  exact (ByteBuffer.throwsOwn_write _ bb).bind fun _ => throwsOnly_ok _

/-- All the puts of `serialize` as one write of the record. -/
theorem serialize_eq_write {s : SwitchInfo} {address : InetAddress}
    (h : s.ipAddr.getAddress = some address) :
    s.serialize = do
      let data ← newArray (BitVec.ofNat 32 len + s.contId.length)
      let bb ← (ByteBuffer.wrapAll data).write (s.record address)
      return bb.hb := by
  unfold serialize
  rw [h]
  cases hn : newArray (BitVec.ofNat 32 len + s.contId.length) with
  | error e => rfl
  | ok data =>
    rw [newArray_eq_ok hn]
    simp only [ok_bind, deref_some, ByteBuffer.wrapAll_replicate, ByteBuffer.putLong,
      ByteBuffer.put, ByteBuffer.putInt, ByteBuffer.putAll, ByteBuffer.write_write_bind,
      record, List.append_assoc, List.cons_append, List.nil_append]

theorem toNat_length (s : SwitchInfo) :
    (BitVec.ofNat 32 len + s.contId.length).toNat = len + s.contId.units.length := by
  have hn := s.contId.length_lt
  rw [BitVec.toNat_add, JString.length_toNat, BitVec.toNat_ofNat]
  unfold len
  omega

theorem serialize_of_length {s : SwitchInfo} {address : InetAddress}
    (h : s.ipAddr.getAddress = some address)
    (hc : s.contId.getBytes.length = s.contId.units.length)
    (hn : len + s.contId.units.length < 0x80000000) : s.serialize = .ok (s.record address) := by
  have hlen := toNat_length s
  have hrec : (s.record address).length = len + s.contId.units.length := by
    rw [length_record, hc]
  rw [serialize_eq_write h, newArray_of_lt (by omega), ok_bind, ByteBuffer.wrapAll_replicate,
    ByteBuffer.write_written (by omega), ok_bind]
  simp [ByteBuffer.written, hrec, hlen]
  rfl

theorem serialize_eq {s : SwitchInfo} {address : InetAddress}
    (h : s.ipAddr.getAddress = some address) (ha : s.contId.Ascii)
    (hn : len + s.contId.units.length < 0x80000000) : s.serialize = .ok (s.record address) :=
  serialize_of_length h (JString.length_getBytes_ascii ha) hn

/-- Any record that was built. Zeros follow where the contId has fewer bytes than units. -/
theorem serialize_eq_ok {s : SwitchInfo} {bs : List JByte} (hs : s.serialize = .ok bs) :
    ∃ address k, s.ipAddr.getAddress = some address ∧
      bs = s.record address ++ List.replicate k 0 := by
  obtain ⟨address, ha⟩ : ∃ address, s.ipAddr.getAddress = some address := by
    unfold serialize at hs
    obtain ⟨data, -, hs⟩ := bind_eq_ok.mp hs
    obtain ⟨bb, -, hs⟩ := bind_eq_ok.mp hs
    obtain ⟨address, ha, -⟩ := bind_eq_ok.mp hs
    exact ⟨address, deref_eq_ok.mp ha⟩
  rw [serialize_eq_write ha] at hs
  obtain ⟨data, hd, hs⟩ := bind_eq_ok.mp hs
  obtain ⟨bb, hw, hs⟩ := bind_eq_ok.mp hs
  rw [newArray_eq_ok hd, ByteBuffer.wrapAll_replicate] at hw
  obtain ⟨-, rfl⟩ := ByteBuffer.write_written_eq_ok hw
  cases hs
  exact ⟨address, _, ha, rfl⟩

/-- The array has room for one byte a unit, and is returned whole. -/
theorem length_of_serialize {s : SwitchInfo} {bs : List JByte} (hs : s.serialize = .ok bs) :
    bs.length = len + s.contId.units.length := by
  obtain ⟨address, -, ha, -⟩ := serialize_eq_ok hs
  rw [serialize_eq_write ha] at hs
  obtain ⟨data, hd, hs⟩ := bind_eq_ok.mp hs
  obtain ⟨bb, hw, hs⟩ := bind_eq_ok.mp hs
  cases hs
  rw [ByteBuffer.length_hb_write hw, newArray_eq_ok hd, ByteBuffer.wrapAll_replicate,
    ← toNat_length]
  simp [ByteBuffer.written]

/-- A contId with more bytes than units does not fit. -/
theorem length_getBytes_of_serialize {s : SwitchInfo} {bs : List JByte}
    (hs : s.serialize = .ok bs) : s.contId.getBytes.length = s.contId.units.length := by
  have hlen := length_of_serialize hs
  have hge := s.contId.length_getBytes_le
  obtain ⟨address, k, -, rfl⟩ := serialize_eq_ok hs
  rw [List.length_append, length_record] at hlen
  omega

/-- Past an `int` the record is not built. -/
theorem lt_of_serialize {s : SwitchInfo} {bs : List JByte} (hs : s.serialize = .ok bs) :
    len + s.contId.units.length < 0x80000000 := by
  have hlen := toNat_length s
  obtain ⟨data, hd, -⟩ := bind_eq_ok.mp hs
  by_contra hge
  rw [newArray_of_le (by omega)] at hd
  cases hd

/-! ## Reading a record -/

/-- The fields read from the record at index `i`, over the object `this`. -/
def readAt (ofj : OpenFlowJ) (this : SwitchInfo) (data : List JByte) (i : Nat) (ingress : OFPort) :
    SwitchInfo :=
  { this with
    dpid := ofj.dpidOf (longAt data i)
    ipAddr := ⟨.resolved (.inet4 (byteAt data (i + 8)) (byteAt data (i + 9)) (byteAt data (i + 10))
      (byteAt data (i + 11))), 0⟩
    linkLatency := ofj.u64Of (longAt data (i + 12))
    ingress := ingress }

variable {ofj : OpenFlowJ} {this : SwitchInfo} {data : List JByte} {offset length : Int}

/-- Inside a window of at least `len` bytes only `OFPort.of` can reject the record. -/
theorem deserialize_of_le (h0 : 0 ≤ offset) (hl : (len : Int) ≤ length)
    (h : offset + length ≤ data.length) :
    deserialize ofj this data offset length =
      (ofj.portOf (intAt data (offset.toNat + 20))).map (readAt ofj this data offset.toNat) := by
  unfold len at hl
  have hw : ∀ k, k ≤ 28 → offset.toNat + k ≤ (offset + length).toNat := by intro k hk; omega
  unfold deserialize
  rw [ByteBuffer.wrap_of_le h0 (by omega) h, ok_bind]
  simp (disch := omega) only [ByteBuffer.getLong, ByteBuffer.get, ByteBuffer.getInt,
    ByteBuffer.read_of_le, ok_bind, Nat.add_assoc, Nat.reduceAdd]
  cases ofj.portOf (intAt data (offset.toNat + 20)) with
  | error e => rfl
  | ok port => rfl

/-- A record that was read lies in the window and the array. -/
theorem window_of_deserialize_eq_ok {r : SwitchInfo}
    (h : deserialize ofj this data offset length = .ok r) :
    0 ≤ offset ∧ (len : Int) ≤ length ∧ offset + length ≤ data.length := by
  unfold deserialize at h
  obtain ⟨bb, hw, h⟩ := bind_eq_ok.mp h
  obtain ⟨h0, hl, hle, -, hp, hlim⟩ := ByteBuffer.wrap_eq_ok hw
  simp only [ByteBuffer.getLong, ByteBuffer.get, ByteBuffer.getInt, ByteBuffer.read_bind_eq_ok]
    at h
  obtain ⟨_, _, _, _, _, _, _, h⟩ := h
  obtain ⟨port, _, h⟩ := bind_eq_ok.mp h
  obtain ⟨hend, _⟩ := ByteBuffer.read_bind_eq_ok.mp h
  dsimp only at hend
  unfold len
  omega

/-- The records that are read. The only field that can be wrong is the ingress port. -/
theorem deserialize_eq_ok_iff :
    (∃ r, deserialize ofj this data offset length = .ok r) ↔
      0 ≤ offset ∧ (len : Int) ≤ length ∧ offset + length ≤ data.length ∧
        ofj.AcceptsPort (intAt data (offset.toNat + 20)) := by
  refine ⟨fun h => ?_, fun h => ?_⟩
  · obtain ⟨r, hr⟩ := h
    obtain ⟨h0, hl, hle⟩ := window_of_deserialize_eq_ok hr
    rw [deserialize_of_le h0 hl hle] at hr
    refine ⟨h0, hl, hle, ?_⟩
    cases hport : ofj.portOf (intAt data (offset.toNat + 20)) with
    | error e =>
      rw [hport] at hr
      cases hr
    | ok port => exact ⟨port, hport⟩
  · obtain ⟨h0, hl, hle, port, hport⟩ := h
    rw [deserialize_of_le h0 hl hle, hport]
    exact ⟨_, rfl⟩

/-- A record that is rejected is never rejected with an exception of its own. -/
theorem throwsOwn_deserialize (hof : ofj.Faithful) :
    ThrowsOwn (deserialize ofj this data offset length) := by
  unfold deserialize
  refine (ByteBuffer.throwsOwn_wrap data offset length).bind fun bb => ?_
  refine (ByteBuffer.throwsOwn_read 8 longAt bb).bind fun ⟨dpid, bb⟩ => ?_
  refine (ByteBuffer.throwsOwn_read 1 byteAt bb).bind fun ⟨addr0, bb⟩ => ?_
  refine (ByteBuffer.throwsOwn_read 1 byteAt bb).bind fun ⟨addr1, bb⟩ => ?_
  refine (ByteBuffer.throwsOwn_read 1 byteAt bb).bind fun ⟨addr2, bb⟩ => ?_
  refine (ByteBuffer.throwsOwn_read 1 byteAt bb).bind fun ⟨addr3, bb⟩ => ?_
  refine (ByteBuffer.throwsOwn_read 8 longAt bb).bind fun ⟨latency, bb⟩ => ?_
  refine (ByteBuffer.throwsOwn_read 4 intAt bb).bind fun ⟨port, bb⟩ => ?_
  refine (hof.throwsOwn_portOf port).bind fun ingress => ?_
  exact (ByteBuffer.throwsOwn_read 4 intAt bb).bind fun _ => throwsOnly_ok _

end SwitchInfo

end JSdnTrace
