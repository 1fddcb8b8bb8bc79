/-
  What the bytes of a packet say about it, and what a packet says about the bytes it was read
  from.

  * `wire_delimits`: the bytes of a packet, with anything behind them, determine its fields and
    where it ends. The first byte is only the length modulo 256; it is the length word of the
    contId, 61 bytes in, that delimits the packet.
  * `serialize_delimits`: the same for the bytes that `serialize` returns.
  * `serialize_deserialize_header`: an accepted header is written back as it was read.
-/
import JSdnTrace.Lib.Delimited
import JSdnTrace.RoundTrip

namespace JSdnTrace

open Java Lib

namespace TracePacket

/-! ## The fields that are sent -/

/-- The two packets agree on the fields of the header. -/
structure SameHeader (p q : TracePacket) : Prop where
  destinationMAC : p.destinationMAC = q.destinationMAC
  sourceMAC : p.sourceMAC = q.sourceMAC
  version : p.version = q.version
  maxHops : p.maxHops = q.maxHops
  probeId : p.probeId = q.probeId
  hop : p.hop = q.hop
  timestamp : p.timestamp = q.timestamp
  request : p.request = q.request

/-- The two packets agree on every field that is sent. -/
structure SameFields (p q : TracePacket) : Prop extends SameHeader p q where
  dpid : p.swInfo.dpid = q.swInfo.dpid
  address : p.swInfo.ipAddr.getAddress = q.swInfo.ipAddr.getAddress
  linkLatency : p.swInfo.linkLatency = q.swInfo.linkLatency
  ingress : p.swInfo.ingress = q.swInfo.ingress
  contId : p.swInfo.contId = q.swInfo.contId

/-- A well-formed packet, its addresses named. -/
structure Framed where
  pkt : TracePacket
  dst : MacAddress
  src : MacAddress
  address : JByte × JByte × JByte × JByte
  dst_eq : pkt.destinationMAC = some dst
  src_eq : pkt.sourceMAC = some src
  address_eq : pkt.swInfo.ipAddr.getAddress =
    some (.inet4 address.1 address.2.1 address.2.2.1 address.2.2.2)
  ascii : pkt.swInfo.contId.Ascii

theorem WellFormed.framed {p : TracePacket} (h : p.WellFormed) : ∃ f : Framed, f.pkt = p := by
  obtain ⟨dst, hd, -⟩ := h.dst
  obtain ⟨src, hs, -⟩ := h.src
  obtain ⟨b0, b1, b2, b3, ha⟩ := h.addr
  exact ⟨⟨p, dst, src, (b0, b1, b2, b3), hd, hs, ha, h.ascii⟩, rfl⟩

namespace Framed

def header (f : Framed) : List JByte := f.pkt.header f.dst f.src

def record (f : Framed) : List JByte :=
  f.pkt.swInfo.record (.inet4 f.address.1 f.address.2.1 f.address.2.2.1 f.address.2.2.2)

def padding (f : Framed) : List JByte := List.replicate f.pkt.swInfo.contId.units.length 0

def bytes (f : Framed) : List JByte := f.header ++ (f.record ++ f.padding)

end Framed

/-! ## Encodings of the fields -/

theorem byte_delimits : Delimits (fun _ => True) (fun b : JByte => [b]) id :=
  .of_length (fun _ _ _ _ => rfl) fun _ _ _ _ h => List.singleton_inj.mp h

theorem intBytes_delimits : Delimits (fun _ => True) intBytes id :=
  .of_length (fun _ _ _ _ => rfl) fun _ _ _ _ h => intBytes_injective h

theorem longBytes_delimits : Delimits (fun _ => True) longBytes id :=
  .of_length (fun _ _ _ _ => rfl) fun _ _ _ _ h => longBytes_injective h

theorem header_delimits (D : Framed → Prop) :
    Delimits D Framed.header fun f => (f.pkt.lengthByte, f.dst.getLong, f.src.getLong,
      f.pkt.version, f.pkt.maxHops, f.pkt.probeId, f.pkt.hop, f.pkt.timestamp,
      if f.pkt.request then (1 : JByte) else 0) :=
  (byte_delimits.field fun f : Framed => f.pkt.lengthByte).append fun _ =>
  (longBytes_delimits.field fun f : Framed => f.dst.getLong).append fun _ =>
  (longBytes_delimits.field fun f : Framed => f.src.getLong).append fun _ =>
  (byte_delimits.field fun f : Framed => f.pkt.version).append fun _ =>
  (byte_delimits.field fun f : Framed => f.pkt.maxHops).append fun _ =>
  (longBytes_delimits.field fun f : Framed => f.pkt.probeId).append fun _ =>
  (byte_delimits.field fun f : Framed => f.pkt.hop).append fun _ =>
  (longBytes_delimits.field fun f : Framed => f.pkt.timestamp).append fun _ =>
  byte_delimits.field fun f : Framed => if f.pkt.request then (1 : JByte) else 0

theorem address_delimits : Delimits (fun _ => True)
    (fun a : JByte × JByte × JByte × JByte => [a.1, a.2.1, a.2.2.1, a.2.2.2]) id := by
  refine .of_length (fun _ _ _ _ => rfl) fun a b _ _ h => ?_
  obtain ⟨a0, a1, a2, a3⟩ := a
  obtain ⟨b0, b1, b2, b3⟩ := b
  cases h
  rfl

/-- A text of known length is delimited by it. -/
theorem contId_delimits {D : Framed → Prop}
    (hlen : ∀ f g, D f → D g → f.pkt.swInfo.contId.length = g.pkt.swInfo.contId.length) :
    Delimits D (fun f => f.pkt.swInfo.contId.getBytes) fun f => f.pkt.swInfo.contId := by
  refine .of_length (fun f g hf hg => ?_) fun f g _ _ h =>
    JString.eq_of_getBytes_ascii f.ascii g.ascii h
  rw [JString.length_getBytes_ascii f.ascii, JString.length_getBytes_ascii g.ascii,
    ← JString.length_toNat, ← JString.length_toNat, hlen f g hf hg]

theorem record_delimits (D : Framed → Prop) :
    Delimits D Framed.record fun f => (((((f.pkt.swInfo.dpid.getLong, f.address),
      f.pkt.swInfo.linkLatency.getValue), f.pkt.swInfo.ingress.getPortNumber),
      f.pkt.swInfo.contId.length), f.pkt.swInfo.contId) :=
  (((((longBytes_delimits.field fun f : Framed => f.pkt.swInfo.dpid.getLong).append fun _ =>
  address_delimits.field fun f : Framed => f.address).append fun _ =>
  longBytes_delimits.field fun f : Framed => f.pkt.swInfo.linkLatency.getValue).append fun _ =>
  intBytes_delimits.field fun f : Framed => f.pkt.swInfo.ingress.getPortNumber).append fun _ =>
  intBytes_delimits.field fun f : Framed => f.pkt.swInfo.contId.length).append fun _ =>
  contId_delimits fun _ _ hf hg => congrArg (·.2) (hf.2.trans hg.2.symm)

theorem padding_delimits {D : Framed → Prop}
    (hlen : ∀ f g, D f → D g → f.pkt.swInfo.contId = g.pkt.swInfo.contId) :
    Delimits D Framed.padding fun _ => () := by
  refine .of_length (fun f g hf hg => ?_) fun _ _ _ _ _ => rfl
  unfold Framed.padding
  rw [hlen f g hf hg]

/-! ## The packet as a whole -/

/-- The bytes of a packet, read off the front of a string, give back all that was sent. -/
theorem wire_delimits (f g : Framed) {xs ys : List JByte} (h : f.bytes ++ xs = g.bytes ++ ys) :
    SameFields f.pkt g.pkt ∧ xs = ys := by
  have hall : Delimits (fun _ => True) Framed.bytes _ :=
    (header_delimits _).append fun _ => (record_delimits _).append fun _ =>
    padding_delimits fun f g hf hg => congrArg (·.2) (hf.2.trans hg.2.symm)
  obtain ⟨hkey, hrest⟩ := hall f g trivial trivial xs ys h
  simp only [Prod.mk.injEq, and_true] at hkey
  obtain ⟨⟨-, hdst, hsrc, hversion, hmax, hpid, hhop, htime, hflag⟩, ⟨⟨⟨⟨hdpid, haddr⟩, hlat⟩,
    hport⟩, -⟩, hcont⟩ := hkey
  have hrequest : f.pkt.request = g.pkt.request := by
    rw [← flag_eq_one f.pkt.request, hflag, flag_eq_one]
  refine ⟨⟨⟨?_, ?_, hversion, hmax, hpid, hhop, htime, hrequest⟩, congrArg DatapathId.mk hdpid, ?_,
    congrArg U64.mk hlat, congrArg OFPort.mk hport, hcont⟩, hrest⟩
  · rw [f.dst_eq, g.dst_eq]
    exact congrArg (some ∘ MacAddress.mk) hdst
  · rw [f.src_eq, g.src_eq]
    exact congrArg (some ∘ MacAddress.mk) hsrc
  · rw [f.address_eq, g.address_eq, haddr]

theorem Framed.serialize_eq (f : Framed)
    (h : packSize + 2 * f.pkt.swInfo.contId.units.length < 0x80000000) :
    f.pkt.serialize = .ok f.bytes :=
  serialize_of_lt f.dst_eq f.src_eq f.address_eq f.ascii h

/-- Two packets with one sequence of bytes at the front of two equal strings are the same
    packet, and end at the same place. -/
theorem serialize_delimits (p q : TracePacket) (hp : p.WellFormed) (hq : q.WellFormed)
    (hpfit : packSize + 2 * p.swInfo.contId.units.length < 0x80000000)
    (hqfit : packSize + 2 * q.swInfo.contId.units.length < 0x80000000) :
    ∃ a b, p.serialize = .ok a ∧ q.serialize = .ok b ∧
      ∀ xs ys, a ++ xs = b ++ ys → SameFields p q ∧ xs = ys := by
  obtain ⟨f, rfl⟩ := hp.framed
  obtain ⟨g, rfl⟩ := hq.framed
  exact ⟨f.bytes, g.bytes, f.serialize_eq hpfit, g.serialize_eq hqfit,
    fun _ _ => wire_delimits f g⟩

theorem unitTestPacket_delimits :
    ∃ a b, unitTestPacket.serialize = .ok a ∧ blankPacket.serialize = .ok b ∧
      ∀ xs ys, a ++ xs = b ++ ys → SameFields unitTestPacket blankPacket ∧ xs = ys :=
  serialize_delimits unitTestPacket blankPacket unitTestPacket_wellFormed blankPacket_wellFormed
    (by decide) (by decide)

/-! ## Writing back what was read -/

/-- The header bytes after the first, written from the fields that were read at index `i`. -/
theorem header_readAt {ofj : OpenFlowJ} (hof : ofj.Faithful) {data : List JByte} {i : Nat}
    (h : i + 37 ≤ data.length) (hdst : (longAt data (i + 1)).toNat < 0x1000000000000)
    (hsrc : (longAt data (i + 9)).toNat < 0x1000000000000)
    (htype : byteAt data (i + 36) = 0 ∨ byteAt data (i + 36) = 1) (sw : SwitchInfo) :
    ((readAt ofj data i sw).header (ofj.macOf (longAt data (i + 1)))
      (ofj.macOf (longAt data (i + 9)))).tail = slice data (i + 1) 36 := by
  have hflag : (if (readAt ofj data i sw).request then (1 : JByte) else 0) =
      byteAt data (i + 36) := by
    unfold readAt
    rcases htype with h0 | h1
    · rw [h0]
      rfl
    · rw [h1]
      rfl
  have hbyte : ∀ j, j + 1 ≤ data.length → slice data j 1 = [byteAt data j] :=
    fun j hj => slice_eq_map hj
  have hsplit : slice data (i + 1) 36 = slice data (i + 1) 8 ++ (slice data (i + 9) 8 ++
      (slice data (i + 17) 1 ++ (slice data (i + 18) 1 ++ (slice data (i + 19) 8 ++
        (slice data (i + 27) 1 ++ (slice data (i + 28) 8 ++ slice data (i + 36) 1)))))) := by
    show slice data (i + 1) (8 + (8 + (1 + (1 + (8 + (1 + (8 + 1))))))) = _
    simp only [slice_add, Nat.add_assoc]
  rw [hsplit, slice_long (by omega), slice_long (by omega), hbyte _ (by omega),
    hbyte _ (by omega), slice_long (by omega), hbyte _ (by omega), slice_long (by omega),
    hbyte _ h, header, hflag, hof.getLong_macOf _ hdst, hof.getLong_macOf _ hsrc]
  rfl

/-- An accepted header comes back as it stood in the array, but for its first byte. -/
theorem serialize_deserialize_header {ofj : OpenFlowJ} (hof : ofj.Faithful) (draw : Draw)
    (data : List JByte) (offset length : Int) {q : TracePacket}
    (h : (new ofj draw).deserialize ofj data offset length = .ok q)
    (hdst : (longAt data (offset.toNat + 1)).toNat < 0x1000000000000)
    (hsrc : (longAt data (offset.toNat + 9)).toNat < 0x1000000000000)
    (htype : byteAt data (offset.toNat + 36) = 0 ∨ byteAt data (offset.toNat + 36) = 1) :
    ∃ bs, q.serialize = .ok bs ∧ slice bs 1 36 = slice data (offset.toNat + 1) 36 := by
  obtain ⟨h0, hl, hle, -⟩ := window_of_deserialize_eq_ok h
  have hbound : offset.toNat + 37 ≤ data.length := by omega
  have hascii : JString.empty.Ascii := by decide
  have hfit : packSize + 2 * JString.empty.units.length < 0x80000000 := by decide
  rw [deserialize_eq_ok hof h]
  refine ⟨_, serialize_of_lt rfl rfl rfl hascii hfit, ?_⟩
  rw [← header_readAt hof hbound hdst hsrc htype]
  rfl

/-- A packet behind three foreign bytes. -/
def shiftedFrame : List JByte := [7, 7, 7] ++ unitTestPacket.wire ⟨1⟩ ⟨2⟩ (.inet4 0 0 0 0)

theorem shiftedFrame_serialize_header :
    ∃ bs, (readAt OpenFlowJ.documented shiftedFrame 3 (SwitchInfo.readAt OpenFlowJ.documented
        (SwitchInfo.new OpenFlowJ.documented) shiftedFrame 21 ⟨0⟩)).serialize = .ok bs ∧
      slice bs 1 36 = slice shiftedFrame 4 36 :=
  serialize_deserialize_header OpenFlowJ.documented_faithful ⟨0, 0⟩ shiftedFrame 3 40
    (by decide +kernel) (by decide) (by decide) (Or.inr rfl)

end TracePacket

end JSdnTrace
