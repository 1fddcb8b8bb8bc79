/-
  What a receiver finds in the frame of a datagram: the length of the datagram, the sum of its
  header, and the sum of what stands behind the header with the pseudo header.

  * `segmentOf_sent`: the receiver finds what was written.
  * `sent_verifies`: the length and the sums are right.
-/
import JSdnTrace.Jpcap.Datagram

namespace JSdnTrace.Jpcap

open Java Lib

/-- What stands behind a header of 20 bytes, as far as the datagram goes. -/
def segmentOf (f : Frame) : List JByte := slice f.payload 20 ((shortAt f.payload 2).toNat - 20)

/-- The addresses, the protocol and the length, in network order. -/
def pseudoHeaderOf (f : Frame) : List JByte :=
  slice f.payload 12 8 ++ [0, byteAt f.payload 9] ++
    shortBytes (BitVec.ofNat 16 (segmentOf f).length)

theorem shortMemory_htons (v : JShort) : shortMemory (htons v) = shortBytes v := by
  unfold shortMemory htons shortBytes
  rw [BitVec.extractLsb'_append_eq_right, BitVec.extractLsb'_append_eq_left]

theorem pseudoHeader_bytes (ip : Ip) (rest : List JByte) (len : JShort) :
    slice (ip.bytes ++ rest) 12 8 ++ [0, byteAt (ip.bytes ++ rest) 9] ++ shortBytes len =
      pseudoHeader ip (htons len) := by
  unfold pseudoHeader
  rw [shortMemory_htons]
  rfl

/-- The receiver takes the zeros of a short frame for no part of the datagram. -/
theorem segmentOf_sent {link : EthernetPacket} {ip : Ip} {segment : List JByte} {f : Frame}
    (hsent : EthernetPacket.nativeSendPacket { link with data := ip.bytes ++ segment } = some f)
    (hlen : htons ip.len = BitVec.ofNat 16 (20 + segment.length)) :
    (shortAt f.payload 2).toNat = 20 + segment.length ∧ segmentOf f = segment := by
  obtain ⟨-, pad, hpayload, -⟩ := payload_sent hsent
  have hfit := exists_nativeSendPacket_iff.mp ⟨f, hsent⟩
  rw [List.length_append, Ip.length_bytes] at hfit
  unfold EthernetPacket.maxPacketSize at hfit
  have hlength : (shortAt f.payload 2).toNat = 20 + segment.length := by
    have hat : shortAt f.payload 2 = BitVec.ofNat 16 (20 + segment.length) := by
      rw [hpayload, ← hlen]
      rfl
    rw [hat, BitVec.toNat_ofNat]
    omega
  refine ⟨hlength, ?_⟩
  unfold segmentOf
  rw [hlength, Nat.add_sub_cancel_left, hpayload]
  exact List.take_left

/-- The length and the checksums of a datagram that is sent are right, whatever stands in the
    buffer. -/
theorem sent_verifies {d : Datagram} {link : EthernetPacket} {buf : Buffer} {f : Frame}
    (hsent : (d.ethernet link buf).nativeSendPacket = some f) :
    Verifies (f.payload.take 20) ∧ (shortAt f.payload 2).toNat = d.length ∧
      (d.transport ≠ .ip → Verifies (pseudoHeaderOf f ++ segmentOf f)) ∧
      ∀ udp, d.transport = .udp udp → shortAt f.payload 26 ≠ 0 := by
  have hfit := exists_sent_iff.mp ⟨f, hsent⟩
  obtain ⟨-, pad, hpayload, -⟩ := payload_sent hsent
  obtain ⟨hlength, hsegment⟩ := segmentOf_sent hsent (htons_len hfit)
  rw [← Datagram.length_of_fits buf hfit] at hlength
  have hpseudo : pseudoHeaderOf f =
      pseudoHeader (d.header buf) (htons (BitVec.ofNat 16 (d.segment buf).length)) := by
    unfold pseudoHeaderOf
    rw [hsegment, hpayload]
    exact pseudoHeader_bytes (d.sentHeader buf) _ _
  refine ⟨?_, hlength, fun h => ?_, fun udp h => ?_⟩
  · rw [hpayload]
    exact verifies_header _ _
  · rw [hpseudo, hsegment]
    obtain ⟨ip, transport, data⟩ := d
    cases transport with
    | ip => exact absurd rfl h
    | udp udp => exact verifies_setUdp udp data _
    | tcp tcp => exact verifies_setTcp tcp data _ _
  · obtain ⟨ip, transport, data⟩ := d
    obtain rfl : transport = .udp udp := h
    have hat := shortAt_append (Datagram.sentHeader ⟨ip, .udp udp, data⟩ buf).bytes
      (Datagram.segment ⟨ip, .udp udp, data⟩ buf ++ pad) 6
    rw [Ip.length_bytes, ← hpayload] at hat
    rw [hat]
    exact sum_setUdp_ne_zero udp data _ pad

/-- The frames of a gateway. -/
def gateway : EthernetPacket where
  dstMac := [0x02, 0, 0, 0, 0, 0xfe]
  srcMac := [0x02, 0, 0, 0, 0, 0x01]
  frametype := 0x0800
  data := []
  length_dstMac := rfl
  length_srcMac := rfl

/-- The header of a packet from 10.0.0.1 to 10.0.0.254. -/
def header : IPPacket where
  priority := 0
  dFlag := false
  tFlag := false
  rFlag := false
  rsvTos := 0
  length := 0
  rsvFrag := false
  dontFrag := false
  moreFrag := false
  offset := 0
  hopLimit := 100
  protocol := 0
  ident := 1010101
  srcIp := 0x0a000001
  dstIp := 0x0a0000fe
  option := none

/-- A datagram of UDP with an odd number of bytes. -/
def query : Datagram := ⟨header, .udp ⟨4000, 53, 0⟩, [0x61, 0x62, 0x63]⟩

/-- What stood in the buffer before. -/
def usedIp : Ip := ⟨1, 2, 3, 4, 5, 6, 7, 8, 9⟩

theorem query_verifies :
    ∃ f, (query.ethernet gateway ⟨usedIp, 7, 9⟩).nativeSendPacket = some f ∧
      Verifies (f.payload.take 20) ∧ (shortAt f.payload 2).toNat = 31 ∧
        Verifies (pseudoHeaderOf f ++ segmentOf f) ∧ shortAt f.payload 26 ≠ 0 := by
  obtain ⟨f, hsent⟩ := exists_sent_iff.mpr (show 14 + query.length ≤ 1600 by decide)
  obtain ⟨hheader, hlength, hsegment, hsum⟩ := sent_verifies hsent
  exact ⟨f, hsent, hheader, hlength, hsegment Transport.noConfusion, hsum _ rfl⟩

end JSdnTrace.Jpcap
