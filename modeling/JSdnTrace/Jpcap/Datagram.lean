/-
  Datagrams over Ethernet: the frame that `nativeSendPacket` makes of an `IPPacket`, a `TCPPacket`
  or a `UDPPacket`, and the packet that `get_packet` makes of a frame of IP.

  * `getDatagram_eq`: the packet, from the header and what stands behind it.
  * `getDatagram_sent_iff`: which datagrams come back from their frames.
-/
import JSdnTrace.Jpcap.Transport

namespace JSdnTrace.Jpcap

open Java Lib

/-- The class of an `IPPacket`, with the fields that it adds. -/
inductive Transport where
  | ip
  | udp (packet : UDPPacket)
  | tcp (packet : TCPPacket)

/-- An `IPPacket`, and its data. -/
structure Datagram where
  ip : IPPacket
  transport : Transport
  data : List JByte

/-- What stands in the buffer of `nativeSendPacket`, where it is not written: in the header, in
    the header of TCP, and behind the header. -/
structure Buffer where
  ip : Ip
  x2 : BitVec 4
  next : JByte

/-! ## Sending -/

/-- The headers that `set_packet` counts. -/
def Transport.headerLength : Transport → Nat
  | .ip => 20
  | .udp _ => 28
  | .tcp _ => 40

/-- The end of `set_packet`; `next` is the byte behind the header. -/
def Ip.finish (ip : Ip) (next : JByte) : Ip :=
  let ip := { ip with len := htons ip.len, off := htons ip.off, sum := 0 }
  { ip with sum := inCksum ip.bytes next }

namespace Datagram

/-- The number that `set_packet` takes for the class. -/
def protocol (d : Datagram) : JShort :=
  match d.transport with
  | .ip => d.ip.protocol
  | .udp _ => 17
  | .tcp _ => 6

/-- `ip_p`. -/
def proto (d : Datagram) : JByte := d.protocol.setWidth 8

/-- `ip_len`. -/
def length (d : Datagram) : Nat := d.transport.headerLength + d.data.length

/-- The header that `set_tcp` and `set_udp` are given. -/
def header (d : Datagram) (buf : Buffer) : Ip :=
  { setIp d.ip buf.ip with p := d.proto, len := BitVec.ofNat 16 d.length }

/-- What is written behind the header. -/
def segment (d : Datagram) (buf : Buffer) : List JByte :=
  match d.transport with
  | .ip => d.data
  | .udp udp => setUdp udp d.data (d.header buf)
  | .tcp tcp => setTcp tcp d.data (d.header buf) buf.x2

/-- The header that is sent. -/
def sentHeader (d : Datagram) (buf : Buffer) : Ip :=
  (d.header buf).finish ((d.segment buf).headD buf.next)

/-- `set_packet`, in the frame of `link`. -/
def ethernet (d : Datagram) (link : EthernetPacket) (buf : Buffer) : EthernetPacket :=
  { link with data := (d.sentHeader buf).bytes ++ d.segment buf }

end Datagram

/-! ## Capturing -/

/-- `tproto`: the number of IP for a fragment, and of no protocol for a header that is cut off. -/
def transportProto (data : List JByte) : JShort :=
  let clen : Int := data.length - ipHeaderLength data
  let tproto : JShort :=
    if 0 < clen ∧ htons (memoryShortAt data 6) &&& 0x1fff = 0 then (byteAt data 9).setWidth 16
    else 0x0800
  if tproto = 6 ∧ clen < 20 ∨ tproto = 17 ∧ clen < 8 ∨ tproto = 1 ∧ clen < 8 then unknownProto
  else tproto

/-- The transport header, with its length. -/
def analyzeTransport (tproto : JShort) (segment : List JByte) : Transport × Nat :=
  if tproto = 6 then (.tcp (analyzeTcp segment), tcpHeaderLength segment)
  else if tproto = 17 then (.udp (analyzeUdp segment), 8)
  else (.ip, 0)

/-- The length of what stands behind the header, as `get_packet` counts it. -/
def segmentLength (tproto : JShort) (data : List JByte) : JShort :=
  let clen := htons (memoryShortAt data 2)
  let clen :=
    if tproto ≠ unknownProto ∧ data.length < (clen.signExtend 32).toNat then
      BitVec.ofNat 16 data.length
    else clen
  clen - BitVec.ofNat 16 (ipHeaderLength data)

/-- Bytes from `start` on, counted from the first byte of the frame. -/
structure Region where
  start : Int
  length : Int

/-- All of them are among the first `n`. -/
def Region.Inside (r : Region) (n : Nat) : Prop :=
  r.length ≤ 0 ∨ 0 ≤ r.start ∧ r.start + r.length ≤ n

instance (r : Region) (n : Nat) : Decidable (r.Inside n) :=
  inferInstanceAs (Decidable (_ ∨ _))

/-- What `analyze_ip` reads: the header, and its options. -/
def ipReads (data : List JByte) : List Region :=
  [⟨14, 20⟩, ⟨34, ipHeaderLength data - 20⟩]

/-- What `analyze_tcp` and `analyze_udp` read at `start`. The checksum of UDP is not read. -/
def transportReads (tproto : JShort) (start : Int) (segment : List JByte) : List Region :=
  if tproto = 6 then [⟨start, 20⟩, ⟨start + 20, tcpHeaderLength segment - 20⟩]
  else if tproto = 17 then [⟨start, 6⟩]
  else []

/-- `hlen` in the end, where the data starts. A transport header that is longer than what is left
    of the packet is cut off. -/
def dataOffset (data : List JByte) : Int :=
  let tproto := transportProto data
  14 + ipHeaderLength data +
    min ((analyzeTransport tproto (data.drop (ipHeaderLength data))).2 : Int)
      (segmentLength tproto data).toInt

/-- What `get_packet` reads of a frame of IP with the payload `data`, but for ICMP: the headers
    one by one, then all that stands before the data, and the data. -/
def reads (data : List JByte) : List Region :=
  let tproto := transportProto data
  let hlen := ipHeaderLength data
  let clen := (segmentLength tproto data).toInt
  ⟨0, 14⟩ :: ipReads data ++ transportReads tproto (14 + hlen) (data.drop hlen) ++
    [⟨0, dataOffset data⟩, ⟨dataOffset data, 14 + hlen + clen - dataOffset data⟩]

/-- `get_packet`, on a frame of IP: `none` where it reads a byte that is not in the frame, where
    the array of the header is given a negative length, and for ICMP. -/
def getDatagram (f : Frame) : Option Datagram :=
  let data := f.payload
  let tproto := transportProto data
  if f.frametype ≠ 0x0800 ∨ tproto = 1 ∨ (∃ r ∈ reads data, ¬r.Inside f.bytes.length) ∨
      dataOffset data < 0 then none
  else
    let segment := data.drop (ipHeaderLength data)
    let (transport, hlen) := analyzeTransport tproto segment
    let clen := (segmentLength tproto data).toInt
    let cut := min (hlen : Int) clen
    some ⟨analyzeIp data, transport, slice segment cut.toNat (clen - cut).toNat⟩

/-- The class goes by the number. -/
theorem analyzeTransport_cases (tproto : JShort) (segment : List JByte) :
    tproto = 6 ∧ analyzeTransport tproto segment =
        (.tcp (analyzeTcp segment), tcpHeaderLength segment) ∨
      tproto = 17 ∧ analyzeTransport tproto segment = (.udp (analyzeUdp segment), 8) ∨
      (tproto ≠ 6 ∧ tproto ≠ 17) ∧ analyzeTransport tproto segment = (.ip, 0) := by
  unfold analyzeTransport
  by_cases h6 : tproto = 6
  · exact Or.inl ⟨h6, if_pos h6⟩
  · rw [if_neg h6]
    by_cases h17 : tproto = 17
    · exact Or.inr (Or.inl ⟨h17, if_pos h17⟩)
    · exact Or.inr (Or.inr ⟨⟨h6, h17⟩, if_neg h17⟩)

/-- A header that is taken for TCP or UDP is whole, without options. -/
theorem transportProto_whole (data : List JByte) :
    (transportProto data = 6 → ipHeaderLength data + 20 ≤ data.length) ∧
      (transportProto data = 17 → ipHeaderLength data + 8 ≤ data.length) := by
  unfold transportProto
  extract_lets clen tproto
  split
  · exact ⟨fun h => absurd h (by decide), fun h => absurd h (by decide)⟩
  · next hwhole =>
    obtain ⟨htcp, hrest⟩ := not_or.mp hwhole
    obtain ⟨hudp, -⟩ := not_or.mp hrest
    refine ⟨fun h => ?_, fun h => ?_⟩
    · have hle : 20 ≤ clen := not_lt.mp (not_and.mp htcp h)
      omega
    · have hle : 8 ≤ clen := not_lt.mp (not_and.mp hudp h)
      omega

/-- How far the reads reach. -/
theorem reads_inside_iff {data : List JByte} {n : Nat} (hn : n = 14 + data.length) :
    (∀ r ∈ reads data, r.Inside n) ↔
      20 ≤ data.length ∧
        ipHeaderLength data +
          (analyzeTransport (transportProto data) (data.drop (ipHeaderLength data))).2 ≤
            data.length ∧
        ipHeaderLength data + (segmentLength (transportProto data) data).toInt ≤ data.length := by
  obtain ⟨htcp, hudp⟩ := transportProto_whole data
  unfold reads dataOffset ipReads transportReads Region.Inside
  dsimp only
  generalize transportProto data = tproto at *
  generalize (segmentLength tproto data).toInt = clen
  obtain ⟨h6, h⟩ | ⟨h17, h⟩ | ⟨⟨h6, h17⟩, h⟩ :=
    analyzeTransport_cases tproto (data.drop (ipHeaderLength data))
  · have hwhole := htcp h6
    simp only [h, if_pos h6, List.cons_append, List.nil_append, List.forall_mem_cons]
    simp only [List.not_mem_nil, false_implies, implies_true, and_true]
    omega
  · have hwhole := hudp h17
    have h6 : tproto ≠ 6 := h17 ▸ by decide
    simp only [h, if_neg h6, if_pos h17, List.cons_append, List.nil_append, List.forall_mem_cons]
    simp only [List.not_mem_nil, false_implies, implies_true, and_true]
    omega
  · simp only [h, if_neg h6, if_neg h17, List.cons_append, List.nil_append, List.forall_mem_cons]
    simp only [List.not_mem_nil, false_implies, implies_true, and_true]
    omega

/-! ## A header without options -/

section Header

variable {ip : Ip} {rest : List JByte}

theorem transportProto_bytes (h : 20 ≤ rest.length) :
    transportProto (ip.bytes ++ rest) =
      if ip.analyze.offset = 0 then ip.p.setWidth 16 else 0x0800 := by
  have hclen : ((ip.bytes ++ rest).length : Int) - ipHeaderLength (ip.bytes ++ rest) =
      rest.length := by
    rw [ipHeaderLength_bytes, List.length_append, ip.length_bytes]
    omega
  have hlt : ∀ n : Int, n ≤ 20 → ¬(rest.length : Int) < n := by omega
  have hp : byteAt (ip.bytes ++ rest) 9 = ip.p := rfl
  unfold transportProto
  simp only [hclen, memoryShortAt_off, hp, hlt 20 le_rfl, hlt 8 (by decide), and_false, or_self,
    if_false]
  exact if_congr (and_iff_right (by omega)) rfl rfl

theorem toInt_segmentLength {tproto : JShort} {n : Nat}
    (hlen : htons ip.len = BitVec.ofNat 16 (20 + n)) (hn : n ≤ rest.length)
    (hfits : rest.length < 0x7fec) :
    (segmentLength tproto (ip.bytes ++ rest)).toInt = n := by
  have hclen : ((BitVec.ofNat 16 (20 + n)).signExtend 32).toNat = 20 + n := by
    rw [BitVec.signExtend_eq_setWidth_of_msb_false, BitVec.toNat_setWidth, BitVec.toNat_ofNat]
    · omega
    · rw [BitVec.msb_eq_decide, BitVec.toNat_ofNat]
      exact decide_eq_false (by omega)
  have hle : ¬(ip.bytes ++ rest).length < 20 + n := by
    rw [List.length_append, ip.length_bytes]
    omega
  unfold segmentLength
  simp only [memoryShortAt_len, hlen, hclen, hle, and_false, if_false, ipHeaderLength_bytes]
  have hsub : BitVec.ofNat 16 (20 + n) - BitVec.ofNat 16 20 = BitVec.ofNat 16 n := by
    rw [BitVec.ofNat_add, BitVec.add_comm, BitVec.add_sub_cancel]
  rw [hsub, BitVec.toInt_eq_toNat_of_lt, BitVec.toNat_ofNat]
  · omega
  · rw [BitVec.toNat_ofNat]
    omega

/-- What is left of the first `n` bytes. -/
theorem slice_cut (data : List JByte) (hlen n : Nat) :
    slice data (min (hlen : Int) n).toNat ((n : Int) - min (hlen : Int) n).toNat =
      (data.take n).drop hlen := by
  unfold slice
  rw [List.drop_take]
  rcases Nat.le_total hlen n with h | h
  · rw [show (min (hlen : Int) n).toNat = hlen by omega,
      show ((n : Int) - min (hlen : Int) n).toNat = n - hlen by omega]
  · rw [show ((n : Int) - min (hlen : Int) n).toNat = 0 by omega, Nat.sub_eq_zero_of_le h,
      List.take_zero, List.take_zero]

/-- `ip_len` is right, and the longest transport header is not cut off. -/
theorem getDatagram_eq {f : Frame} {tproto : JShort} {n : Nat} (htype : f.frametype = 0x0800)
    (hpayload : f.payload = ip.bytes ++ rest) (hlen : htons ip.len = BitVec.ofNat 16 (20 + n))
    (hn : n ≤ rest.length) (hmin : 20 ≤ rest.length)
    (htproto : tproto = if ip.analyze.offset = 0 then ip.p.setWidth 16 else 0x0800) :
    getDatagram f =
      if tproto = 1 ∨ rest.length < (analyzeTransport tproto rest).2 then none
      else some ⟨ip.analyze, (analyzeTransport tproto rest).1,
        (rest.take n).drop (analyzeTransport tproto rest).2⟩ := by
  have hlength : f.payload.length = 20 + rest.length := by
    rw [hpayload, List.length_append, ip.length_bytes]
  have hfits : rest.length < 0x7fec := by
    have hbytes := f.fits
    have hadd := f.length_bytes
    omega
  have hdrop : f.payload.drop 20 = rest := by
    rw [hpayload]
    rfl
  have hheader : ipHeaderLength f.payload = 20 := by rw [hpayload, ipHeaderLength_bytes]
  have hproto : transportProto f.payload = tproto := by
    rw [hpayload, transportProto_bytes hmin, htproto]
  have hclen : (segmentLength tproto f.payload).toInt = n := by
    rw [hpayload]
    exact toInt_segmentLength hlen hn hfits
  have hip : analyzeIp f.payload = ip.analyze := by rw [hpayload, analyzeIp_bytes]
  have houtside : (∃ r ∈ reads f.payload, ¬r.Inside f.bytes.length) ↔
      rest.length < (analyzeTransport tproto rest).2 := by
    have hreads := reads_inside_iff f.length_bytes
    rw [hproto, hheader, hdrop, hclen, hlength] at hreads
    rw [← not_iff_not, not_lt, not_exists]
    simp only [not_and, not_not]
    rw [hreads]
    omega
  have hoffset : ¬dataOffset f.payload < 0 := by
    unfold dataOffset
    simp only [hproto, hheader, hdrop, hclen]
    omega
  unfold getDatagram
  simp only [htype, hheader, hproto, hdrop, hclen, hip, houtside, hoffset, ne_eq, not_true,
    false_or, or_false, slice_cut]

end Header

/-! ## What was sent -/

theorem length_copied {header : Nat} {data : List JByte}
    (h : 34 + header + data.length ≤ EthernetPacket.maxPacketSize) : copied header data = data := by
  unfold copied EthernetPacket.maxPacketSize at *
  exact List.take_of_length_le (by omega)

namespace Datagram

theorem length_of_fits {d : Datagram} (buf : Buffer)
    (h : 14 + d.length ≤ EthernetPacket.maxPacketSize) :
    d.length = 20 + (d.segment buf).length := by
  obtain ⟨ip, transport, data⟩ := d
  have hadd : ∀ n, 14 + (20 + n + data.length) = 34 + n + data.length := by omega
  cases transport with
  | ip => rfl
  | udp udp =>
    have hcopied : copied 8 data = data := length_copied ((hadd 8).symm.trans_le h)
    show 28 + data.length = 20 + (setUdp udp data _).length
    rw [length_setUdp, hcopied, ← Nat.add_assoc]
  | tcp tcp =>
    have hcopied : copied 20 data = data := length_copied ((hadd 20).symm.trans_le h)
    show 40 + data.length = 20 + (setTcp tcp data _ _).length
    rw [length_setTcp, hcopied, ← Nat.add_assoc]

/-- The data of a longer datagram is cut, but then the rest is longer than the buffer. -/
theorem fits_iff (d : Datagram) (buf : Buffer) :
    34 + (d.segment buf).length ≤ EthernetPacket.maxPacketSize ↔
      14 + d.length ≤ EthernetPacket.maxPacketSize := by
  refine ⟨fun h => ?_, fun h => ?_⟩
  · have hcopied : ∀ n, 34 + (n + (copied n d.data).length) ≤ EthernetPacket.maxPacketSize →
        34 + n + d.data.length ≤ EthernetPacket.maxPacketSize := by
      intro n hn
      unfold copied EthernetPacket.maxPacketSize at *
      rw [List.length_take] at hn
      omega
    obtain ⟨ip, transport, data⟩ := d
    unfold length
    rw [← Nat.add_assoc]
    cases transport with
    | ip => exact h
    | udp udp => exact hcopied 8 (by rwa [← length_setUdp])
    | tcp tcp => exact hcopied 20 (by rwa [← length_setTcp])
  · rw [length_of_fits buf h] at h
    omega

/-- The fields that are filled in. -/
def filled (d : Datagram) : Datagram where
  ip := { d.ip with length := BitVec.ofNat 16 d.length, protocol := d.protocol }
  transport :=
    match d.transport with
    | .udp udp => .udp { udp with length := BitVec.ofNat 32 (d.data.length + 8) }
    | transport => transport
  data := d.data

theorem analyze_sentHeader_iff (d : Datagram) (buf : Buffer) :
    (d.sentHeader buf).analyze = d.filled.ip ↔
      d.ip.HeaderKept ∧ d.protocol.toNat < 256 := by
  rw [← setWidth_setWidth_iff (v := 8) 256 rfl]
  exact analyze_setIp_iff d.ip buf.ip (BitVec.ofNat 16 d.length) d.proto _ d.protocol

/-- What is read behind the header for `tproto` is what was written. -/
def SegmentKept (d : Datagram) (buf : Buffer) (pad : List JByte) (tproto : JShort) : Prop :=
  let header := analyzeTransport tproto (d.segment buf ++ pad)
  tproto ≠ 1 ∧ header.2 ≤ (d.segment buf ++ pad).length ∧ header.1 = d.filled.transport ∧
    (d.segment buf).drop header.2 = d.data

end Datagram

/-- The fields that have to be right for a class. -/
def Transport.Kept (ip : IPPacket) : Transport → Prop
  | .ip => ip.protocol.toNat < 256 ∧ (ip.offset = 0 → ip.protocol ∉ [1, 6, 17])
  | .udp packet => ip.offset = 0 ∧ packet.srcPort.toNat < 65536 ∧ packet.dstPort.toNat < 65536
  | .tcp packet => ip.offset = 0 ∧ packet.Kept

section Segment

variable {ip : IPPacket} {data : List JByte} {buf : Buffer} {pad : List JByte} {tproto : JShort}

theorem segmentKept_ip_iff :
    (Datagram.mk ip .ip data).SegmentKept buf pad tproto ↔ tproto ∉ [1, 6, 17] := by
  have hmem : tproto ∉ [1, 6, 17] ↔ tproto ≠ 1 ∧ tproto ≠ 6 ∧ tproto ≠ 17 := by
    simp only [List.mem_cons, List.not_mem_nil, or_false, not_or]
  rw [hmem]
  unfold Datagram.SegmentKept
  obtain ⟨h6, hheader⟩ | ⟨h17, hheader⟩ | ⟨⟨h6, h17⟩, hheader⟩ :=
    analyzeTransport_cases tproto ((Datagram.mk ip .ip data).segment buf ++ pad)
  · rw [hheader]
    exact iff_of_false (fun h => nomatch h.2.2.1) fun h => h.2.1 h6
  · rw [hheader]
    exact iff_of_false (fun h => nomatch h.2.2.1) fun h => h.2.2 h17
  · rw [hheader]
    exact ⟨fun h => ⟨h.1, h6, h17⟩, fun h => ⟨h.1, Nat.zero_le _, rfl, rfl⟩⟩

theorem segmentKept_udp_iff {udp : UDPPacket}
    (hfit : 42 + data.length ≤ EthernetPacket.maxPacketSize) :
    (Datagram.mk ip (.udp udp) data).SegmentKept buf pad tproto ↔
      tproto = 17 ∧ udp.srcPort.toNat < 65536 ∧ udp.dstPort.toNat < 65536 := by
  let d := Datagram.mk ip (.udp udp) data
  have hcopied : copied 8 data = data := length_copied hfit
  have hiff := analyzeUdp_setUdp_iff udp data (d.header buf) pad
  have hlength := length_setUdp udp data (d.header buf)
  have hdrop : (setUdp udp data (d.header buf)).drop 8 = copied 8 data := rfl
  rw [hcopied] at hiff hlength hdrop
  unfold Datagram.SegmentKept
  obtain ⟨h6, hheader⟩ | ⟨h17, hheader⟩ | ⟨⟨-, h17⟩, hheader⟩ :=
    analyzeTransport_cases tproto (d.segment buf ++ pad)
  · rw [hheader]
    exact iff_of_false (fun h => nomatch h.2.2.1) fun h => absurd (h6.symm.trans h.1) (by decide)
  · rw [hheader]
    refine ⟨fun h => ⟨h17, hiff.mp (Transport.udp.inj h.2.2.1)⟩, fun h => ?_⟩
    refine ⟨by rw [h17]; decide, ?_, congrArg Transport.udp (hiff.mpr h.2), hdrop⟩
    rw [List.length_append]
    exact (Nat.le_add_right 8 _).trans ((Nat.le_of_eq hlength.symm).trans (Nat.le_add_right _ _))
  · rw [hheader]
    exact iff_of_false (fun h => nomatch h.2.2.1) fun h => h17 h.1

theorem segmentKept_tcp_iff {tcp : TCPPacket}
    (hfit : 54 + data.length ≤ EthernetPacket.maxPacketSize) :
    (Datagram.mk ip (.tcp tcp) data).SegmentKept buf pad tproto ↔ tproto = 6 ∧ tcp.Kept := by
  let d := Datagram.mk ip (.tcp tcp) data
  have hcopied : copied 20 data = data := length_copied hfit
  have hiff := analyzeTcp_setTcp_iff tcp data (d.header buf) buf.x2 pad
  have hlength := length_setTcp tcp data (d.header buf) buf.x2
  have hdrop : (setTcp tcp data (d.header buf) buf.x2).drop 20 = copied 20 data := rfl
  have hheaderLength : tcpHeaderLength (d.segment buf ++ pad) = 20 := by
    show tcpHeaderLength (setTcp tcp data (d.header buf) buf.x2 ++ pad) = 20
    unfold setTcp
    rw [List.append_assoc, tcpHeaderLength_bytes rfl]
  rw [hcopied] at hlength hdrop
  unfold Datagram.SegmentKept
  obtain ⟨h6, hheader⟩ | ⟨h17, hheader⟩ | ⟨⟨h6, -⟩, hheader⟩ :=
    analyzeTransport_cases tproto (d.segment buf ++ pad)
  · rw [hheaderLength] at hheader
    rw [hheader]
    refine ⟨fun h => ⟨h6, hiff.mp (Transport.tcp.inj h.2.2.1)⟩, fun h => ?_⟩
    refine ⟨by rw [h6]; decide, ?_, congrArg Transport.tcp (hiff.mpr h.2), hdrop⟩
    rw [List.length_append]
    exact (Nat.le_add_right 20 _).trans ((Nat.le_of_eq hlength.symm).trans (Nat.le_add_right _ _))
  · rw [hheader]
    exact iff_of_false (fun h => nomatch h.2.2.1) fun h => absurd (h17.symm.trans h.1) (by decide)
  · rw [hheader]
    exact iff_of_false (fun h => nomatch h.2.2.1) fun h => h6 h.1

theorem segmentKept_iff {d : Datagram}
    (hfit : 14 + d.length ≤ EthernetPacket.maxPacketSize) :
    (d.protocol.toNat < 256 ∧
        d.SegmentKept buf pad (if d.ip.offset = 0 then d.protocol else 0x0800)) ↔
      d.transport.Kept d.ip := by
  have hnumber : ∀ n : JShort, n ≠ 0x0800 → ((if d.ip.offset = 0 then n else 0x0800) = n ↔
      d.ip.offset = 0) := by
    intro n hn
    split
    · next h => exact iff_of_true rfl h
    · next h => exact iff_of_false hn.symm h
  have hadd : ∀ n, 14 + (n + d.data.length) = 14 + n + d.data.length := by omega
  obtain ⟨ip, transport, data⟩ := d
  cases transport with
  | ip =>
    rw [segmentKept_ip_iff]
    refine and_congr_right fun _ => ?_
    show (if ip.offset = 0 then ip.protocol else 0x0800) ∉ [1, 6, 17] ↔ _
    split
    · next h => exact ⟨fun hm _ => hm, fun hm => hm h⟩
    · next h => exact iff_of_true (by decide) fun hzero => absurd hzero h
  | udp udp =>
    rw [segmentKept_udp_iff ((hadd 28).symm.trans_le hfit)]
    have hbyte : (17 : JShort).toNat < 256 := by decide
    exact (and_iff_right hbyte).trans (and_congr_left' (hnumber 17 (by decide)))
  | tcp tcp =>
    rw [segmentKept_tcp_iff ((hadd 40).symm.trans_le hfit)]
    have hbyte : (6 : JShort).toNat < 256 := by decide
    exact (and_iff_right hbyte).trans (and_congr_left' (hnumber 6 (by decide)))

end Segment

/-- A frame has at least 60 bytes. -/
theorem payload_sent {link : EthernetPacket} {ip : Ip} {segment : List JByte} {f : Frame}
    (hsent : EthernetPacket.nativeSendPacket { link with data := ip.bytes ++ segment } = some f) :
    f.frametype = link.frametype ∧
      ∃ pad, f.payload = ip.bytes ++ (segment ++ pad) ∧ 20 ≤ (segment ++ pad).length := by
  obtain ⟨htype, hpayload⟩ := f.parts_of_bytes link.length_dstMac link.length_srcMac
    (EthernetPacket.bytes_of_sent { link with data := ip.bytes ++ segment } hsent)
  refine ⟨htype, _, hpayload.trans (List.append_assoc ..), ?_⟩
  rw [List.length_append, List.length_replicate, List.length_append, Ip.length_bytes]
  omega

section Sent

variable {d : Datagram} {link : EthernetPacket} {buf : Buffer} {f : Frame}

theorem exists_sent_iff :
    (∃ f, (d.ethernet link buf).nativeSendPacket = some f) ↔
      14 + d.length ≤ EthernetPacket.maxPacketSize := by
  rw [exists_nativeSendPacket_iff, ← d.fits_iff buf]
  unfold Datagram.ethernet
  rw [List.length_append, Ip.length_bytes, ← Nat.add_assoc]

theorem htons_len (hfit : 14 + d.length ≤ EthernetPacket.maxPacketSize) :
    htons (d.sentHeader buf).len = BitVec.ofNat 16 (20 + (d.segment buf).length) := by
  rw [← Datagram.length_of_fits buf hfit]
  exact htons_htons _

theorem getDatagram_eq_filled_iff (hsent : (d.ethernet link buf).nativeSendPacket = some f) :
    getDatagram f = some d.filled ↔
      link.frametype = 0x0800 ∧ d.ip.HeaderKept ∧ d.transport.Kept d.ip := by
  have hfit := exists_sent_iff.mp ⟨f, hsent⟩
  obtain ⟨htype, pad, hpayload, hmin⟩ := payload_sent hsent
  by_cases hip : link.frametype = 0x0800
  · have hn : (d.segment buf).length ≤ (d.segment buf ++ pad).length := by
      rw [List.length_append]
      exact Nat.le_add_right ..
    rw [getDatagram_eq (htype.trans hip) hpayload (htons_len hfit) hn hmin rfl, List.take_left,
      Option.ite_none_left_eq_some, not_or, Nat.not_lt, Option.some_inj, and_iff_right hip,
      ← segmentKept_iff hfit, ← and_assoc, ← d.analyze_sentHeader_iff buf]
    -- The number is read as it was sent.
    have htproto : (d.sentHeader buf).analyze = d.filled.ip →
        (if (d.sentHeader buf).analyze.offset = 0 then (d.sentHeader buf).p.setWidth 16
          else 0x0800) = if d.ip.offset = 0 then d.protocol else 0x0800 := by
      intro h
      have hnumber := ((d.analyze_sentHeader_iff buf).mp h).2
      rw [h, ← (setWidth_setWidth_iff (v := 8) 256 rfl d.protocol).mpr hnumber]
      rfl
    refine ⟨fun h => ?_, fun h => ?_⟩
    · obtain ⟨⟨hicmp, hcut⟩, heq⟩ := h
      obtain ⟨hheader, htransport, hdata⟩ := (Datagram.mk.injEq ..).mp heq
      rw [← htproto hheader]
      exact ⟨hheader, hicmp, hcut, htransport, hdata⟩
    · obtain ⟨hheader, hkept⟩ := h
      rw [← htproto hheader] at hkept
      obtain ⟨hicmp, hcut, htransport, hdata⟩ := hkept
      exact ⟨⟨hicmp, hcut⟩, (Datagram.mk.injEq ..).mpr ⟨hheader, htransport, hdata⟩⟩
  · refine iff_of_false (fun h => ?_) fun h => hip h.1
    unfold getDatagram at h
    rw [if_pos (Or.inl (htype ▸ hip))] at h
    cases h

end Sent

/-- A datagram comes back from its frame exactly when it fits the buffer, its header is kept, and
    what stands behind the header is taken for its class. -/
theorem getDatagram_sent_iff (d : Datagram) (link : EthernetPacket) (buf : Buffer) :
    (∃ f, (d.ethernet link buf).nativeSendPacket = some f ∧ getDatagram f = some d.filled) ↔
      14 + d.length ≤ EthernetPacket.maxPacketSize ∧ link.frametype = 0x0800 ∧
        d.ip.HeaderKept ∧ d.transport.Kept d.ip := by
  refine ⟨fun h => ?_, fun h => ?_⟩
  · obtain ⟨f, hsent, hget⟩ := h
    exact ⟨exists_sent_iff.mp ⟨f, hsent⟩, (getDatagram_eq_filled_iff hsent).mp hget⟩
  · obtain ⟨hfit, hkept⟩ := h
    obtain ⟨f, hsent⟩ := exists_sent_iff.mpr hfit
    exact ⟨f, hsent, (getDatagram_eq_filled_iff hsent).mpr hkept⟩

end JSdnTrace.Jpcap
