/-
  The headers of TCP and UDP: what `set_tcp` and `set_udp` write behind the header of a datagram,
  and what `analyze_tcp` and `analyze_udp` read of it.

  * `analyzeUdp_setUdp_iff`, `analyzeTcp_setTcp_iff`: which headers are read as they were written.
  * `verifies_setUdp`, `verifies_setTcp`: their checksums.
-/
import JSdnTrace.Jpcap.Checksum

namespace JSdnTrace.Jpcap

open Java Lib EthernetPacket

/-! ## Numbers of four bytes -/

/-- A `u_long` in memory. -/
def intMemory (v : JInt) : List JByte :=
  [v.extractLsb' 0 8, v.extractLsb' 8 8, v.extractLsb' 16 8, v.extractLsb' 24 8]

/-- `*(u_long *)(data + i)`. -/
def memoryIntAt (data : List JByte) (i : Nat) : JInt :=
  byteAt data (i + 3) ++ byteAt data (i + 2) ++ byteAt data (i + 1) ++ byteAt data i

/-- `htonl`, and `ntohl`. -/
def htonl (v : JInt) : JInt :=
  v.extractLsb' 0 8 ++ v.extractLsb' 8 8 ++ v.extractLsb' 16 8 ++ v.extractLsb' 24 8

theorem memoryInt_append (v : JInt) :
    v.extractLsb' 24 8 ++ v.extractLsb' 16 8 ++ v.extractLsb' 8 8 ++ v.extractLsb' 0 8 = v :=
  intAt_intBytes v []

theorem htonl_htonl (v : JInt) : htonl (htonl v) = v := by
  unfold htonl
  simp (disch := decide) only [BitVec.extractLsb'_append_eq_of_le,
    BitVec.extractLsb'_append_eq_right, Nat.reduceSub, BitVec.extractLsb'_eq_self]
  exact memoryInt_append v

/-! ## UDP -/

/-- `struct udphdr`. -/
structure Udphdr where
  sport : JShort
  dport : JShort
  ulen : JShort
  sum : JShort

def Udphdr.bytes (udp : Udphdr) : List JByte :=
  shortMemory udp.sport ++ shortMemory udp.dport ++ shortMemory udp.ulen ++ shortMemory udp.sum

/-- `UDPPacket`, behind the fields of its `IPPacket`. -/
structure UDPPacket where
  srcPort : JInt
  dstPort : JInt
  length : JInt

/-- The data that `set_udp` and `set_tcp` copy behind the two headers. -/
def copied (header : Nat) (data : List JByte) : List JByte :=
  data.take (maxPacketSize - 20 - header)

/-- What `set_udp` writes before it adds up. -/
def UDPPacket.header (packet : UDPPacket) (data : List JByte) : Udphdr where
  sport := htons (packet.srcPort.setWidth 16)
  dport := htons (packet.dstPort.setWidth 16)
  ulen := htons (BitVec.ofNat 16 ((copied 8 data).length + 8))
  sum := 0

/-- `set_udp`. -/
def setUdp (packet : UDPPacket) (data : List JByte) (ip : Ip) : List JByte :=
  let udp := packet.header data
  let sum := inCksum2 ip udp.ulen (udp.bytes ++ copied 8 data)
  { udp with sum := if sum = 0 then 0xffff else sum }.bytes ++ copied 8 data

/-- `analyze_udp`. -/
def analyzeUdp (data : List JByte) : UDPPacket where
  srcPort := (htons (memoryShortAt data 0)).setWidth 32
  dstPort := (htons (memoryShortAt data 2)).setWidth 32
  length := (htons (memoryShortAt data 4)).setWidth 32

theorem analyzeUdp_bytes (udp : Udphdr) (rest : List JByte) :
    analyzeUdp (udp.bytes ++ rest) = ⟨(htons udp.sport).setWidth 32, (htons udp.dport).setWidth 32,
      (htons udp.ulen).setWidth 32⟩ := by
  have hsport : memoryShortAt (udp.bytes ++ rest) 0 = udp.sport := memoryShort_append udp.sport
  have hdport : memoryShortAt (udp.bytes ++ rest) 2 = udp.dport := memoryShort_append udp.dport
  have hulen : memoryShortAt (udp.bytes ++ rest) 4 = udp.ulen := memoryShort_append udp.ulen
  unfold analyzeUdp
  rw [hsport, hdport, hulen]

/-- The length is not taken from the packet. -/
theorem analyzeUdp_setUdp_iff (packet : UDPPacket) (data : List JByte) (ip : Ip)
    (rest : List JByte) :
    analyzeUdp (setUdp packet data ip ++ rest) =
        { packet with length := BitVec.ofNat 32 ((copied 8 data).length + 8) } ↔
      packet.srcPort.toNat < 65536 ∧ packet.dstPort.toNat < 65536 := by
  have hlength : (copied 8 data).length ≤ 1572 := List.length_take_le _ _
  have hulen : (BitVec.ofNat 16 ((copied 8 data).length + 8)).setWidth 32 =
      BitVec.ofNat 32 ((copied 8 data).length + 8) := by
    rw [← BitVec.toNat_inj, BitVec.toNat_setWidth, BitVec.toNat_ofNat, BitVec.toNat_ofNat]
    omega
  unfold setUdp
  rw [List.append_assoc, analyzeUdp_bytes, UDPPacket.mk.injEq]
  unfold UDPPacket.header
  simp only [htons_htons, hulen, and_true]
  exact and_congr (setWidth_setWidth_iff 65536 rfl packet.srcPort)
    (setWidth_setWidth_iff 65536 rfl packet.dstPort)

theorem length_setUdp (packet : UDPPacket) (data : List JByte) (ip : Ip) :
    (setUdp packet data ip).length = 8 + (copied 8 data).length :=
  List.length_append

theorem verifies_setUdp (packet : UDPPacket) (data : List JByte) (ip : Ip) :
    Verifies (pseudoHeader ip (htons (BitVec.ofNat 16 (setUdp packet data ip).length)) ++
      setUdp packet data ip) := by
  have hcopied : (copied 8 data).length ≤ 1572 := List.length_take_le _ _
  rw [length_setUdp, Nat.add_comm 8]
  let udp := packet.header data
  let pre := shortMemory udp.sport ++ shortMemory udp.dport ++ shortMemory udp.ulen
  have hpre : pre.length = 6 := rfl
  have hlength : (pre ++ 0 :: 0 :: copied 8 data).length ≤ 65524 := by
    rw [List.length_append, List.length_cons, List.length_cons, hpre]
    omega
  have hbytes : ∀ sum, { udp with sum := sum }.bytes ++ copied 8 data =
      pre ++ (shortMemory sum ++ copied 8 data) := fun sum => List.append_assoc pre _ _
  have hzero : udp.bytes ++ copied 8 data = pre ++ 0 :: 0 :: copied 8 data := hbytes 0
  unfold setUdp
  rw [hbytes, hzero]
  refine verifies_segment ip udp.ulen (by rw [hpre]; decide) hlength ?_
  split
  · next h => exact Or.inr ⟨h, rfl⟩
  · exact Or.inl rfl

/-- A checksum of zero would say that there is none. -/
theorem sum_setUdp_ne_zero (packet : UDPPacket) (data : List JByte) (ip : Ip)
    (rest : List JByte) : shortAt (setUdp packet data ip ++ rest) 6 ≠ 0 := by
  generalize hsum : inCksum2 ip (packet.header data).ulen
    ((packet.header data).bytes ++ copied 8 data) = sum
  have hat : shortAt (setUdp packet data ip ++ rest) 6 =
      htons (if sum = 0 then 0xffff else sum) := by
    rw [← hsum]
    rfl
  rw [hat]
  intro hzero
  have hne : (if sum = 0 then 0xffff else sum) ≠ 0 := by
    split
    · decide
    · next h => exact h
  refine hne ?_
  rw [← htons_htons (if sum = 0 then 0xffff else sum), hzero]
  rfl

/-! ## TCP -/

/-- `struct tcphdr`. The low bits of its thirteenth byte are not written. -/
structure Tcphdr where
  sport : JShort
  dport : JShort
  seq : JInt
  ack : JInt
  x2 : BitVec 4
  off : BitVec 4
  flags : JByte
  win : JShort
  sum : JShort
  urp : JShort

def Tcphdr.bytes (tcp : Tcphdr) : List JByte :=
  shortMemory tcp.sport ++ shortMemory tcp.dport ++ intMemory tcp.seq ++ intMemory tcp.ack ++
    [tcp.off ++ tcp.x2, tcp.flags] ++ shortMemory tcp.win ++ shortMemory tcp.sum ++
    shortMemory tcp.urp

/-- `TCPPacket`, behind the fields of its `IPPacket`. -/
structure TCPPacket where
  srcPort : JInt
  dstPort : JInt
  sequence : JLong
  ackNum : JLong
  urg : Bool
  ack : Bool
  psh : Bool
  rst : Bool
  syn : Bool
  fin : Bool
  rsv1 : Bool
  rsv2 : Bool
  window : JInt
  urgentPointer : JShort
  /-- May be `null`. -/
  option : Option (List JByte)

/-- A `jboolean`. -/
def jboolean (b : Bool) : JByte := if b then 1 else 0

/-- `th_flags`. -/
def TCPPacket.flags (packet : TCPPacket) : JByte :=
  (jboolean packet.rsv1 <<< 7) + (jboolean packet.rsv2 <<< 6) + (jboolean packet.urg <<< 5) +
    (jboolean packet.ack <<< 4) + (jboolean packet.psh <<< 3) + (jboolean packet.rst <<< 2) +
    (jboolean packet.syn <<< 1) + jboolean packet.fin

/-- What `set_tcp` writes before it adds up. -/
def TCPPacket.header (packet : TCPPacket) (x2 : BitVec 4) : Tcphdr where
  sport := htons (packet.srcPort.setWidth 16)
  dport := htons (packet.dstPort.setWidth 16)
  seq := htonl (packet.sequence.setWidth 32)
  ack := htonl (packet.ackNum.setWidth 32)
  x2 := x2
  off := 5
  flags := packet.flags
  win := htons (packet.window.setWidth 16)
  sum := 0
  urp := htons packet.urgentPointer

/-- `set_tcp`. -/
def setTcp (packet : TCPPacket) (data : List JByte) (ip : Ip) (x2 : BitVec 4) : List JByte :=
  let tcp := packet.header x2
  let len := htons (BitVec.ofNat 16 ((copied 20 data).length + 20))
  { tcp with sum := inCksum2 ip len (tcp.bytes ++ copied 20 data) }.bytes ++ copied 20 data

/-- `th_off*4`. -/
def tcpHeaderLength (data : List JByte) : Nat := ((byteAt data 12).extractLsb' 4 4).toNat * 4

/-- `analyze_tcp`. -/
def analyzeTcp (data : List JByte) : TCPPacket where
  srcPort := (htons (memoryShortAt data 0)).setWidth 32
  dstPort := (htons (memoryShortAt data 2)).setWidth 32
  sequence := (htonl (memoryIntAt data 4)).setWidth 64
  ackNum := (htonl (memoryIntAt data 8)).setWidth 64
  urg := decide (byteAt data 13 &&& 0x20 ≠ 0)
  ack := decide (byteAt data 13 &&& 0x10 ≠ 0)
  psh := decide (byteAt data 13 &&& 0x08 ≠ 0)
  rst := decide (byteAt data 13 &&& 0x04 ≠ 0)
  syn := decide (byteAt data 13 &&& 0x02 ≠ 0)
  fin := decide (byteAt data 13 &&& 0x01 ≠ 0)
  rsv1 := decide (byteAt data 13 &&& 0x80 ≠ 0)
  rsv2 := decide (byteAt data 13 &&& 0x40 ≠ 0)
  window := (htons (memoryShortAt data 14)).setWidth 32
  urgentPointer := htons (memoryShortAt data 18)
  option :=
    if 20 < tcpHeaderLength data then some (slice data 20 (tcpHeaderLength data - 20)) else none

/-- Every flag has its bit. -/
theorem TCPPacket.flags_spec (packet : TCPPacket) :
    decide (packet.flags &&& 0x20 ≠ 0) = packet.urg ∧
      decide (packet.flags &&& 0x10 ≠ 0) = packet.ack ∧
      decide (packet.flags &&& 0x08 ≠ 0) = packet.psh ∧
      decide (packet.flags &&& 0x04 ≠ 0) = packet.rst ∧
      decide (packet.flags &&& 0x02 ≠ 0) = packet.syn ∧
      decide (packet.flags &&& 0x01 ≠ 0) = packet.fin ∧
      decide (packet.flags &&& 0x80 ≠ 0) = packet.rsv1 ∧
      decide (packet.flags &&& 0x40 ≠ 0) = packet.rsv2 := by
  unfold TCPPacket.flags
  generalize packet.rsv1 = r1, packet.rsv2 = r2, packet.urg = u, packet.ack = a, packet.psh = p,
    packet.rst = r, packet.syn = s, packet.fin = f
  revert r1 r2 u a p r s f
  decide

theorem tcpHeaderLength_bytes {tcp : Tcphdr} (hoff : tcp.off = 5) (rest : List JByte) :
    tcpHeaderLength (tcp.bytes ++ rest) = 20 := by
  show ((tcp.off ++ tcp.x2).extractLsb' 4 4).toNat * 4 = 20
  rw [BitVec.extractLsb'_append_eq_left, hoff]
  rfl

theorem analyzeTcp_bytes {tcp : Tcphdr} (hoff : tcp.off = 5) (rest : List JByte) :
    analyzeTcp (tcp.bytes ++ rest) =
      { srcPort := (htons tcp.sport).setWidth 32
        dstPort := (htons tcp.dport).setWidth 32
        sequence := (htonl tcp.seq).setWidth 64
        ackNum := (htonl tcp.ack).setWidth 64
        urg := decide (tcp.flags &&& 0x20 ≠ 0)
        ack := decide (tcp.flags &&& 0x10 ≠ 0)
        psh := decide (tcp.flags &&& 0x08 ≠ 0)
        rst := decide (tcp.flags &&& 0x04 ≠ 0)
        syn := decide (tcp.flags &&& 0x02 ≠ 0)
        fin := decide (tcp.flags &&& 0x01 ≠ 0)
        rsv1 := decide (tcp.flags &&& 0x80 ≠ 0)
        rsv2 := decide (tcp.flags &&& 0x40 ≠ 0)
        window := (htons tcp.win).setWidth 32
        urgentPointer := htons tcp.urp
        option := none } := by
  have hsport : memoryShortAt (tcp.bytes ++ rest) 0 = tcp.sport := memoryShort_append tcp.sport
  have hdport : memoryShortAt (tcp.bytes ++ rest) 2 = tcp.dport := memoryShort_append tcp.dport
  have hseq : memoryIntAt (tcp.bytes ++ rest) 4 = tcp.seq := memoryInt_append tcp.seq
  have hack : memoryIntAt (tcp.bytes ++ rest) 8 = tcp.ack := memoryInt_append tcp.ack
  have hwin : memoryShortAt (tcp.bytes ++ rest) 14 = tcp.win := memoryShort_append tcp.win
  have hurp : memoryShortAt (tcp.bytes ++ rest) 18 = tcp.urp := memoryShort_append tcp.urp
  unfold analyzeTcp
  rw [hsport, hdport, hseq, hack, hwin, hurp, tcpHeaderLength_bytes hoff, if_neg (lt_irrefl 20)]
  rfl

/-- What comes back of a header. -/
structure TCPPacket.Kept (packet : TCPPacket) : Prop where
  srcPort : packet.srcPort.toNat < 65536
  dstPort : packet.dstPort.toNat < 65536
  sequence : packet.sequence.toNat < 0x100000000
  ackNum : packet.ackNum.toNat < 0x100000000
  window : packet.window.toNat < 65536
  option : packet.option = none

theorem analyzeTcp_setTcp_iff (packet : TCPPacket) (data : List JByte) (ip : Ip) (x2 : BitVec 4)
    (rest : List JByte) :
    analyzeTcp (setTcp packet data ip x2 ++ rest) = packet ↔ packet.Kept := by
  obtain ⟨hu, ha, hp, hr, hs, hf, hr1, hr2⟩ := packet.flags_spec
  have hshort := fun x : JInt => setWidth_setWidth_iff (v := 16) 65536 rfl x
  have hlong := fun x : JLong => setWidth_setWidth_iff (v := 32) 0x100000000 rfl x
  unfold setTcp
  rw [List.append_assoc, analyzeTcp_bytes rfl, TCPPacket.mk.injEq]
  unfold TCPPacket.header
  simp only [htons_htons, htonl_htonl, hshort, hlong]
  rw [hu, ha, hp, hr, hs, hf, hr1, hr2]
  simp only [true_and]
  refine ⟨fun h => ?_, fun h => ?_⟩
  · obtain ⟨hsrc, hdst, hseq, hack, hwin, hoption⟩ := h
    exact ⟨hsrc, hdst, hseq, hack, hwin, hoption.symm⟩
  · exact ⟨h.srcPort, h.dstPort, h.sequence, h.ackNum, h.window, h.option.symm⟩

theorem length_setTcp (packet : TCPPacket) (data : List JByte) (ip : Ip) (x2 : BitVec 4) :
    (setTcp packet data ip x2).length = 20 + (copied 20 data).length :=
  List.length_append

theorem verifies_setTcp (packet : TCPPacket) (data : List JByte) (ip : Ip) (x2 : BitVec 4) :
    Verifies (pseudoHeader ip (htons (BitVec.ofNat 16 (setTcp packet data ip x2).length)) ++
      setTcp packet data ip x2) := by
  have hcopied : (copied 20 data).length ≤ 1560 := List.length_take_le _ _
  rw [length_setTcp, Nat.add_comm 20]
  let tcp := packet.header x2
  let pre := shortMemory tcp.sport ++ shortMemory tcp.dport ++ intMemory tcp.seq ++
    intMemory tcp.ack ++ [tcp.off ++ tcp.x2, tcp.flags] ++ shortMemory tcp.win
  let post := shortMemory tcp.urp ++ copied 20 data
  have hpre : pre.length = 16 := rfl
  have hlength : (pre ++ 0 :: 0 :: post).length ≤ 65524 := by
    have hpost : post.length = 2 + (copied 20 data).length := List.length_append
    rw [List.length_append, List.length_cons, List.length_cons, hpre, hpost]
    omega
  have hbytes : ∀ sum, { tcp with sum := sum }.bytes ++ copied 20 data =
      pre ++ (shortMemory sum ++ post) := by
    intro sum
    show pre ++ shortMemory sum ++ shortMemory tcp.urp ++ copied 20 data = _
    rw [List.append_assoc, List.append_assoc]
  have hzero : tcp.bytes ++ copied 20 data = pre ++ 0 :: 0 :: post := hbytes 0
  unfold setTcp
  rw [hbytes, hzero]
  exact verifies_segment ip _ (by rw [hpre]; decide) hlength (Or.inl rfl)

end JSdnTrace.Jpcap
