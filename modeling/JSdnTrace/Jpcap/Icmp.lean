/-
  The messages of ICMP that `set_icmp` writes behind the header of a datagram. Their checksum is
  taken by `in_cksum`, and only an echo can have an odd number of bytes.

  * `verifies_setIcmp_iff`: which messages have the right checksum.
  * `sent_icmp_verifies_iff`: the same of the frame that is sent.
-/
import JSdnTrace.Jpcap.Receiver

namespace JSdnTrace.Jpcap

open Java Lib

/-- `ICMPPacket`, behind the fields of its `IPPacket`. -/
structure ICMPPacket where
  type : JByte
  code : JByte
  id : JShort
  seq : JShort
  /-- The four bytes of `redir_ip`. -/
  redirIp : JInt
  /-- May be `null`. -/
  ippacket : Option IPPacket
  origTimestamp : JInt
  recvTimestamp : JInt
  transTimestamp : JInt
  subnetmask : JInt

/-- What stands in the buffer, where it is not written: in the header, in the fourth to seventh
    byte of the message, in the header that is sent back, or in place of it, behind that header,
    and behind the message. -/
structure IcmpBuffer where
  ip : Ip
  void : JInt
  inner : Ip
  start : JInt
  tail : JInt
  next : JByte

/-- `ICMP_ECHOREPLY` and `ICMP_ECHO`. -/
def echoTypes : List JByte := [0, 8]

/-- `ICMP_REDIRECT`, `ICMP_UNREACH`, `ICMP_SOURCEQUENCH`, `ICMP_TIMXCEED`, `ICMP_PARAMPROB`. -/
def errorTypes : List JByte := [5, 3, 4, 11, 12]

/-- `ICMP_TSTAMP` and `ICMP_TSTAMPREPLY`. -/
def timestampTypes : List JByte := [13, 14]

/-- `ICMP_MASKREQ` and `ICMP_MASKREPLY`. -/
def maskTypes : List JByte := [17, 18]

namespace ICMPPacket

/-- What `set_icmp` writes behind the checksum. Nothing is written for other types. -/
def body (packet : ICMPPacket) (data : List JByte) (buf : IcmpBuffer) : Option (List JByte) :=
  let number := shortMemory (htons packet.id) ++ shortMemory (htons packet.seq)
  if packet.type ∈ echoTypes then some (number ++ data)
  else if packet.type ∈ errorTypes then
    some ((if packet.type = 5 then intBytes packet.redirIp else intBytes buf.void) ++
      match packet.ippacket with
      | some ip => (setIp ip buf.inner).bytes ++ intBytes buf.tail
      | none => intBytes buf.start)
  else if packet.type ∈ timestampTypes then
    some (number ++ intMemory (htonl packet.origTimestamp) ++
      intMemory (htonl packet.recvTimestamp) ++ intMemory (htonl packet.transTimestamp))
  else if packet.type ∈ maskTypes then some (number ++ intMemory (htonl packet.subnetmask))
  else none

/-- The message with `sum` for its checksum. -/
def bytes (packet : ICMPPacket) (sum : JShort) (body : List JByte) : List JByte :=
  [packet.type, packet.code] ++ (shortMemory sum ++ body)

end ICMPPacket

/-- `set_icmp`. -/
def setIcmp (packet : ICMPPacket) (data : List JByte) (buf : IcmpBuffer) : Option (List JByte) :=
  (packet.body data buf).map fun body =>
    packet.bytes (inCksum (packet.bytes 0 body) buf.next) body

/-- A message in its datagram. -/
structure Message where
  ip : IPPacket
  packet : ICMPPacket
  data : List JByte

/-- `set_packet`, in the frame of `link`. -/
def Message.ethernet (m : Message) (link : EthernetPacket) (buf : IcmpBuffer) :
    Option EthernetPacket :=
  (setIcmp m.packet m.data buf).map fun segment =>
    let ip := { setIp m.ip buf.ip with p := 1, len := BitVec.ofNat 16 (20 + segment.length) }
    { link with data := (ip.finish (segment.headD buf.next)).bytes ++ segment }

/-! ## The checksum -/

/-- Every message but an echo has an even number of bytes. -/
theorem even_body {packet : ICMPPacket} {data : List JByte} {buf : IcmpBuffer}
    {body : List JByte} (hbody : packet.body data buf = some body)
    (h : packet.type ∉ echoTypes) : Even body.length := by
  unfold ICMPPacket.body at hbody
  rw [if_neg h] at hbody
  split at hbody
  · obtain rfl := Option.some_inj.mp hbody
    cases packet.ippacket with
    | none => split <;> exact (by decide : Even 8)
    | some ip => split <;> exact (by decide : Even 28)
  · split at hbody
    · obtain rfl := Option.some_inj.mp hbody
      exact (by decide : Even 16)
    · split at hbody
      · obtain rfl := Option.some_inj.mp hbody
        exact (by decide : Even 8)
      · cases hbody

theorem verifies_setIcmp_iff {packet : ICMPPacket} {data : List JByte} {buf : IcmpBuffer}
    {segment : List JByte} (hset : setIcmp packet data buf = some segment)
    (hlength : segment.length ≤ 65535) :
    Verifies segment ↔ (packet.type ∈ echoTypes →
      Even data.length ∨ data.getLast? = some 0 ∧ buf.next = 0) := by
  obtain ⟨body, hbody, rfl⟩ := Option.map_eq_some_iff.mp hset
  have heven : Even [packet.type, packet.code].length := show Even 2 by decide
  refine (verifies_inCksum_iff heven hlength buf.next).trans ?_
  by_cases h : packet.type ∈ echoTypes
  · unfold ICMPPacket.body at hbody
    rw [if_pos h] at hbody
    obtain rfl := Option.some_inj.mp hbody
    let number := shortMemory (htons packet.id) ++ shortMemory (htons packet.seq)
    have hnumber : Even number.length := show Even 4 by decide
    show Even (number ++ data).length ∨ (number ++ data).getLast? = some 0 ∧ buf.next = 0 ↔ _
    rw [forall_prop_of_true h, List.length_append, Nat.even_add, iff_true_left hnumber]
    by_cases hdata : data = []
    · exact iff_of_true (Or.inl (hdata ▸ Even.zero)) (Or.inl (hdata ▸ Even.zero))
    · rw [List.getLast?_append_of_ne_nil _ hdata]
  · exact iff_of_true (Or.inl (even_body hbody h)) fun hecho => absurd hecho h

/-- The header of a message that is sent has the right checksum. The message has it unless it is
    an echo with an odd number of bytes; then the last one and the one behind it have to be
    zero. -/
theorem sent_icmp_verifies_iff {m : Message} {link e : EthernetPacket} {buf : IcmpBuffer}
    {f : Frame} (hset : m.ethernet link buf = some e) (hsent : e.nativeSendPacket = some f) :
    Verifies (f.payload.take 20) ∧
      (Verifies (segmentOf f) ↔ (m.packet.type ∈ echoTypes →
        Even m.data.length ∨ m.data.getLast? = some 0 ∧ buf.next = 0)) := by
  obtain ⟨segment, hsegment, rfl⟩ := Option.map_eq_some_iff.mp hset
  obtain ⟨-, pad, hpayload, -⟩ := payload_sent hsent
  have hfit := exists_nativeSendPacket_iff.mp ⟨f, hsent⟩
  rw [List.length_append, Ip.length_bytes] at hfit
  unfold EthernetPacket.maxPacketSize at hfit
  refine ⟨?_, ?_⟩
  · rw [hpayload]
    exact verifies_header _ _
  · rw [(segmentOf_sent hsent (htons_htons _)).2]
    exact verifies_setIcmp_iff hsegment (by omega)

/-- An echo with one byte of data. -/
def echo : Message where
  ip := header
  packet :=
    { type := 8
      code := 0
      id := 1
      seq := 1
      redirIp := 0
      ippacket := none
      origTimestamp := 0
      recvTimestamp := 0
      transTimestamp := 0
      subnetmask := 0 }
  data := [0x61]

theorem echo_not_verifies :
    ∃ e f, echo.ethernet gateway ⟨usedIp, 0, usedIp, 0, 0, 0⟩ = some e ∧
      e.nativeSendPacket = some f ∧ Verifies (f.payload.take 20) ∧ ¬Verifies (segmentOf f) := by
  obtain ⟨e, he, hlength⟩ : ∃ e,
      echo.ethernet gateway ⟨usedIp, 0, usedIp, 0, 0, 0⟩ = some e ∧ e.data.length = 29 :=
    ⟨_, rfl, rfl⟩
  obtain ⟨f, hsent⟩ := exists_nativeSendPacket_iff.mpr
    (show 14 + e.data.length ≤ 1600 by rw [hlength]; decide)
  obtain ⟨hheader, hiff⟩ := sent_icmp_verifies_iff he hsent
  exact ⟨e, f, he, hsent, hheader, fun h => absurd (hiff.mp h (by decide)) (by decide)⟩

end JSdnTrace.Jpcap
