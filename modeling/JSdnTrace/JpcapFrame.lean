/-
  Jpcap on an Ethernet device: the frame that `nativeSendPacket` makes of a packet, and the
  packet that `get_packet` makes of a frame. What it reads of a frame of IP or ARP, and of a
  type that it takes for a transport protocol, is the parameter `parsed`.

  * `getPacket_sent`: a packet comes back from its frame with its type, and with zeros up to the
    shortest frame.
  * `decode_sent_iff`: a trace packet is captured with its header when the sender has room for it
    and its switch id ends in the number of a port.
  * `report_of_rawCaptures`: the frames of other types do not show in the report.
-/
import JSdnTrace.EndToEnd
import JSdnTrace.TraceModule

namespace JSdnTrace

open Java Lib

/-- `ether_type`, in network order. -/
def shortBytes (v : JShort) : List JByte := [v.extractLsb' 8 8, v.extractLsb' 0 8]

def shortAt (data : List JByte) (i : Nat) : JShort := byteAt data i ++ byteAt data (i + 1)

theorem shortAt_shortBytes (v : JShort) (post : List JByte) :
    shortAt (shortBytes v ++ post) 0 = v := by
  show v.extractLsb' 8 8 ++ v.extractLsb' 0 8 = v
  rw [extract_append v (show 8 = 0 + 8 from rfl)]
  exact BitVec.extractLsb'_eq_self

theorem shortAt_append (pre data : List JByte) (i : Nat) :
    shortAt (pre ++ data) (pre.length + i) = shortAt data i := by
  unfold shortAt
  rw [Nat.add_assoc, byteAt_append, byteAt_append]

/-- `MacAddress.getBytes()`. -/
def MacAddress.getBytes (m : MacAddress) : List JByte := (longBytes m.getLong).drop 2

theorem MacAddress.length_getBytes (m : MacAddress) : m.getBytes.length = 6 := rfl

/-! ## Sending -/

/-- `jpcap.packet.EthernetPacket`, with the data of its packet. -/
structure EthernetPacket where
  dstMac : List JByte
  srcMac : List JByte
  frametype : JShort
  data : List JByte
  length_dstMac : dstMac.length = 6
  length_srcMac : srcMac.length = 6

/-- The bytes of an Ethernet frame. `get_packet` counts what stands behind the 14 bytes of its
    header with a `short`. -/
structure Frame where
  bytes : List JByte
  header_lt : 14 < bytes.length
  fits : bytes.length < 0x8000

namespace Frame

def frametype (f : Frame) : JShort := shortAt f.bytes 12

def payload (f : Frame) : List JByte := f.bytes.drop 14

theorem length_bytes (f : Frame) : f.bytes.length = 14 + f.payload.length := by
  have hdrop : f.payload.length = f.bytes.length - 14 := List.length_drop
  have hlt := f.header_lt
  omega

end Frame

namespace EthernetPacket

/-- `set_ether`. -/
def setEther (p : EthernetPacket) : List JByte := p.dstMac ++ p.srcMac ++ shortBytes p.frametype

/-- `set_packet`. -/
def setPacket (p : EthernetPacket) : List JByte := p.setEther ++ p.data

/-- The buffer of `nativeSendPacket`. A longer packet is written past its end. -/
def maxPacketSize : Nat := 1600

theorem length_setPacket (p : EthernetPacket) : p.setPacket.length = 14 + p.data.length := by
  unfold setPacket setEther shortBytes
  rw [List.length_append, List.length_append, List.length_append, p.length_dstMac,
    p.length_srcMac]
  rfl

/-- `nativeSendPacket`: the frame that `pcap_sendpacket` is given. -/
def nativeSendPacket (p : EthernetPacket) : Option Frame :=
  if h : p.setPacket.length ≤ maxPacketSize then
    some
      { bytes := p.setPacket ++ List.replicate (60 - p.setPacket.length) 0
        header_lt := by
          rw [List.length_append, List.length_replicate]
          omega
        fits := by
          rw [List.length_append, List.length_replicate]
          unfold maxPacketSize at h
          omega }
  else none

end EthernetPacket

theorem exists_nativeSendPacket_iff {p : EthernetPacket} :
    (∃ f, p.nativeSendPacket = some f) ↔ 14 + p.data.length ≤ EthernetPacket.maxPacketSize := by
  unfold EthernetPacket.nativeSendPacket
  rw [← p.length_setPacket]
  split
  · next h => exact iff_of_true ⟨_, rfl⟩ h
  · next h => exact iff_of_false (fun hex => nomatch hex) h

/-- The bytes of a frame that was sent, with the zeros of a short frame. -/
theorem EthernetPacket.bytes_of_sent {f : Frame} (p : EthernetPacket)
    (hsent : p.nativeSendPacket = some f) :
    f.bytes = p.dstMac ++ p.srcMac ++ shortBytes p.frametype ++
      (p.data ++ List.replicate (46 - p.data.length) 0) := by
  unfold nativeSendPacket at hsent
  split at hsent
  · obtain rfl := Option.some_inj.mp hsent
    show p.setPacket ++ List.replicate (60 - p.setPacket.length) 0 = _
    rw [p.length_setPacket, Nat.sub_add_eq, ← List.append_assoc]
    rfl
  · exact absurd hsent (Option.some_ne_none f).symm

/-- The parts of a frame, from its bytes. -/
theorem Frame.parts_of_bytes (f : Frame) {dst src : List JByte} {type : JShort}
    {data : List JByte} (hdst : dst.length = 6) (hsrc : src.length = 6)
    (hbytes : f.bytes = dst ++ src ++ shortBytes type ++ data) :
    f.frametype = type ∧ f.payload = data := by
  have hpre : (dst ++ src).length = 12 := by rw [List.length_append, hdst, hsrc]
  have hheader : (dst ++ src ++ shortBytes type).length = 14 := by
    rw [List.length_append, hpre]
    rfl
  refine ⟨?_, ?_⟩
  · have hat := shortAt_append (dst ++ src) (shortBytes type ++ data) 0
    rw [hpre, ← List.append_assoc, ← hbytes, shortAt_shortBytes] at hat
    exact hat
  · unfold payload
    rw [hbytes, ← hheader, List.drop_left]

/-! ## Capturing -/

namespace Jpcap

/-- IP, IPv6 and ARP, and the numbers of ICMP, TCP and UDP. -/
def parsedTypes : List JShort := [0x0800, 0x86dd, 0x0806, 1, 6, 17]

/-- `UNKNOWN_PROTO`: the header is not skipped. -/
def unknownProto : JShort := 0xffff

/-- `get_packet`. -/
def getPacket (parsed : Frame → List JByte) (f : Frame) : Packet where
  datalink := .ethernet f.frametype
  data :=
    if f.frametype ∈ parsedTypes then parsed f
    else if f.frametype = unknownProto then f.bytes
    else f.payload

variable (parsed : Frame → List JByte)

/-- A frame of no type that is treated apart, from its parts. -/
theorem getPacket_of_bytes {f : Frame} {dst src : List JByte} {type : JShort}
    {data : List JByte} (hdst : dst.length = 6) (hsrc : src.length = 6)
    (htype : type ∉ parsedTypes) (hknown : type ≠ unknownProto)
    (hbytes : f.bytes = dst ++ src ++ shortBytes type ++ data) :
    getPacket parsed f = ⟨.ethernet type, data⟩ := by
  obtain ⟨hframetype, hpayload⟩ := f.parts_of_bytes hdst hsrc hbytes
  unfold getPacket
  rw [hframetype, if_neg htype, if_neg hknown, hpayload]

/-- A packet comes back from the frame that was sent of it, with the zeros of a short frame. -/
theorem getPacket_sent {p : EthernetPacket} {f : Frame} (hsent : p.nativeSendPacket = some f)
    (htype : p.frametype ∉ parsedTypes) (hknown : p.frametype ≠ unknownProto) :
    getPacket parsed f =
      ⟨.ethernet p.frametype, p.data ++ List.replicate (46 - p.data.length) 0⟩ :=
  getPacket_of_bytes parsed p.length_dstMac p.length_srcMac htype hknown (p.bytes_of_sent hsent)

end Jpcap

/-! ## Trace packets on the wire -/

/-- `fl.serialize` makes frames without a tag and without padding. -/
def Floodlight.Untagged (fl : Floodlight) : Prop :=
  ∀ dst src type payload,
    fl.serialize dst src type payload = dst.getBytes ++ src.getBytes ++ shortBytes type ++ payload

theorem Floodlight.untagged_untagged (connected : DatapathId → Bool) :
    (Floodlight.untagged connected).Untagged := fun _ _ _ _ => rfl

namespace TraceClient

/-- `translateToPcap`. -/
def translateToPcap (toSend : TracePacket) : Except Throwable EthernetPacket := do
  let data ← toSend.serialize
  let destination ← deref toSend.destinationMAC
  let source ← deref toSend.sourceMAC
  return {
    dstMac := destination.getBytes
    srcMac := source.getBytes
    frametype := 0x8220
    data := data
    length_dstMac := destination.length_getBytes
    length_srcMac := source.length_getBytes }

end TraceClient

/-- The bytes are those of a frame around the packet `p`. -/
def FrameBytes (p : TracePacket) (bytes : List JByte) : Prop :=
  ∃ dst src data, p.destinationMAC = some dst ∧ p.sourceMAC = some src ∧
    p.serialize = .ok data ∧ bytes = dst.getBytes ++ src.getBytes ++ shortBytes 0x8220 ++ data

theorem frameBytes_of_sendTracePacket {ofj : OpenFlowJ} {fl : Floodlight} (hfl : fl.Untagged)
    {dpid : JLong} {p : TracePacket} {port : OFPort} {po : OFPacketOut}
    (h : TraceModule.sendTracePacket ofj fl dpid p port = .ok po) : FrameBytes p po.data := by
  unfold TraceModule.sendTracePacket at h
  obtain ⟨data, hdata, h⟩ := bind_eq_ok.mp h
  obtain ⟨dst, hdst, h⟩ := bind_eq_ok.mp h
  obtain ⟨src, hsrc, h⟩ := bind_eq_ok.mp h
  obtain ⟨sw, -, h⟩ := bind_eq_ok.mp h
  cases h
  exact ⟨dst, src, data, deref_eq_ok.mp hdst, deref_eq_ok.mp hsrc, hdata, hfl _ _ _ _⟩

theorem translateToPcap_eq_ok {p : TracePacket} {e : EthernetPacket}
    (h : TraceClient.translateToPcap p = .ok e) :
    p.serialize = .ok e.data ∧ e.frametype = 0x8220 := by
  unfold TraceClient.translateToPcap at h
  obtain ⟨data, hdata, h⟩ := bind_eq_ok.mp h
  obtain ⟨dst, -, h⟩ := bind_eq_ok.mp h
  obtain ⟨src, -, h⟩ := bind_eq_ok.mp h
  cases h
  exact ⟨hdata, rfl⟩

theorem exists_translateToPcap {p : TracePacket} {data : List JByte}
    (h : p.serialize = .ok data) : ∃ e, TraceClient.translateToPcap p = .ok e := by
  obtain ⟨dst, src, hdst, hsrc⟩ := TracePacket.macs_of_serialize h
  unfold TraceClient.translateToPcap
  rw [h, hdst, hsrc]
  exact ⟨_, rfl⟩

section Capture

variable (parsed : Frame → List JByte)

theorem getPacket_of_frameBytes {p : TracePacket} {f : Frame} (h : FrameBytes p f.bytes) :
    Jpcap.getPacket parsed f = ⟨.ethernet 0x8220, f.payload⟩ ∧ f.frametype = 0x8220 ∧
      p.serialize = .ok f.payload := by
  obtain ⟨dst, src, data, -, -, hdata, hbytes⟩ := h
  have hget : Jpcap.getPacket parsed f = ⟨.ethernet 0x8220, data⟩ :=
    Jpcap.getPacket_of_bytes parsed rfl rfl (by decide) (by decide) hbytes
  have hpayload : f.payload = data := by
    unfold Frame.payload
    rw [hbytes]
    rfl
  refine ⟨hget.trans (by rw [hpayload]), ?_, by rw [hpayload, hdata]⟩
  have hlink := congrArg (·.datalink) hget
  exact DatalinkPacket.ethernet.inj hlink

/-- A frame that arrives, and what `new TracePacket()` draws for it. -/
structure RawCapture where
  frame : Frame
  draw : Draw

namespace RawCapture

def toCapture (rc : RawCapture) : Capture := ⟨Jpcap.getPacket parsed rc.frame, rc.draw⟩

/-- The frame is of the trace type. -/
def IsTrace (rc : RawCapture) : Prop := rc.frame.frametype = 0x8220

instance : DecidablePred IsTrace := fun _ => inferInstanceAs (Decidable (_ = _))

theorem datalink_toCapture (rc : RawCapture) :
    (rc.toCapture parsed).frame.datalink = .ethernet 0x8220 ↔ rc.IsTrace := by
  show DatalinkPacket.ethernet rc.frame.frametype = .ethernet 0x8220 ↔ _
  rw [DatalinkPacket.ethernet.injEq]
  rfl

theorem data_toCapture {rc : RawCapture} (h : rc.IsTrace) :
    (rc.toCapture parsed).frame.data = rc.frame.payload := by
  show (if rc.frame.frametype ∈ Jpcap.parsedTypes then _ else _) = _
  rw [show rc.frame.frametype = 0x8220 from h, if_neg (by decide), if_neg (by decide)]

end RawCapture

/-- Some frame of the trace type carries `p`. -/
def arrived (rcs : List RawCapture) (p : TracePacket) : Bool :=
  rcs.any fun rc => rc.IsTrace ∧ p.serialize = .ok rc.frame.payload

namespace TraceClient

/-- The frames of other types do not reach the stores. -/
theorem decodings_captures (ofj : OpenFlowJ) (rcs : List RawCapture) :
    (rcs.map (·.toCapture parsed)).filterMap (decode ofj) =
      ((rcs.filter fun rc => rc.IsTrace).map (·.toCapture parsed)).filterMap (decode ofj) := by
  induction rcs with
  | nil => rfl
  | cons rc rcs ih =>
    by_cases h : rc.IsTrace
    · rw [List.filter_cons, if_pos (decide_eq_true h), List.map_cons, List.map_cons,
        List.filterMap_cons, List.filterMap_cons, ih]
    · have hnone : decode ofj (rc.toCapture parsed) = none :=
        if_neg fun htype => h ((rc.datalink_toCapture parsed).mp htype)
      rw [List.filter_cons, if_neg (by rwa [decide_eq_true_eq]), List.map_cons,
        List.filterMap_cons, hnone, ih]

theorem captured_captures (rcs : List RawCapture) :
    captured ((rcs.filter fun rc => rc.IsTrace).map (·.toCapture parsed)) = arrived rcs := by
  funext p
  rw [Bool.eq_iff_iff]
  unfold captured arrived
  simp only [List.any_map, List.any_filter, List.any_eq_true, Function.comp_apply,
    Bool.and_eq_true, decide_eq_true_eq]
  refine exists_congr fun rc => and_congr_right fun _ => and_congr_right fun h => ?_
  rw [RawCapture.data_toCapture parsed h]

theorem length_translateToPcap {p : TracePacket} (hp : p.WellFormed) {e : EthernetPacket}
    (he : translateToPcap p = .ok e) : e.data.length = 65 + 2 * p.swInfo.contId.units.length :=
  (WirePacket.mk p _ hp (translateToPcap_eq_ok he).1).length_data

/-- The packet is longer than the frame that is filled with zeros. -/
theorem getPacket_sentTrace {p : TracePacket} (hp : p.WellFormed) {e : EthernetPacket} {f : Frame}
    (he : translateToPcap p = .ok e) (hf : e.nativeSendPacket = some f) :
    Jpcap.getPacket parsed f = ⟨.ethernet 0x8220, e.data⟩ := by
  obtain ⟨-, htype⟩ := translateToPcap_eq_ok he
  have hsent := Jpcap.getPacket_sent parsed hf (by rw [htype]; decide) (by rw [htype]; decide)
  rw [length_translateToPcap hp he,
    show 46 - (65 + 2 * p.swInfo.contId.units.length) = 0 by omega, List.replicate_zero,
    List.append_nil, htype] at hsent
  exact hsent

/-- A trace packet that is sent is captured with its header, exactly when it fits the buffer of the
    sender and the end of its switch id is accepted as a port. -/
theorem decode_sent_iff {ofj : OpenFlowJ} (hof : ofj.Faithful) {p : TracePacket}
    (hp : p.WellFormed) (draw : Draw) :
    (∃ e f sw, translateToPcap p = .ok e ∧ e.nativeSendPacket = some f ∧
        decode ofj (RawCapture.toCapture parsed ⟨f, draw⟩) = some (p.setSwInfo sw)) ↔
      p.swInfo.contId.units.length ≤ 760 ∧ ofj.AcceptsPort p.swInfo.lowDpid := by
  refine ⟨fun h => ?_, fun h => ?_⟩
  · obtain ⟨e, f, sw, he, hf, hdecode⟩ := h
    have hfit := exists_nativeSendPacket_iff.mp ⟨f, hf⟩
    rw [length_translateToPcap hp he] at hfit
    unfold EthernetPacket.maxPacketSize at hfit
    refine ⟨by omega, ?_⟩
    unfold decode RawCapture.toCapture at hdecode
    rw [getPacket_sentTrace parsed hp he hf, if_pos rfl] at hdecode
    have hok : ∃ q, (TracePacket.new ofj draw).deserialize ofj e.data 0 e.data.length = .ok q := by
      cases hread : (TracePacket.new ofj draw).deserialize ofj e.data 0 e.data.length with
      | ok q => exact ⟨q, rfl⟩
      | error err =>
        rw [hread] at hdecode
        cases hdecode
    rw [← TracePacket.intAt_of_serialize (translateToPcap_eq_ok he).1]
    exact (TracePacket.deserialize_array_eq_ok_iff.mp hok).2
  · obtain ⟨hfits, hport⟩ := h
    have hserialize := (WirePacket.ofWellFormed p hp (by
      unfold TracePacket.packSize SwitchInfo.len
      omega)).serialize_eq
    obtain ⟨e, he⟩ := exists_translateToPcap hserialize
    have hfit : 14 + e.data.length ≤ EthernetPacket.maxPacketSize := by
      rw [length_translateToPcap hp he]
      unfold EthernetPacket.maxPacketSize
      omega
    obtain ⟨f, hf⟩ := exists_nativeSendPacket_iff.mpr hfit
    obtain ⟨hreceived, sw, hsw⟩ := received_spec hof hp hport (translateToPcap_eq_ok he).1
    refine ⟨e, f, sw, he, hf, ?_⟩
    unfold decode RawCapture.toCapture
    rw [getPacket_sentTrace parsed hp he hf, if_pos rfl, hreceived, hsw]
    rfl

/-- The probe 5 is captured. -/
theorem probePacket_sent :
    ∃ e f sw, translateToPcap (probePacket 5) = .ok e ∧ e.nativeSendPacket = some f ∧
      decode OpenFlowJ.documented (RawCapture.toCapture (fun _ => []) ⟨f, ⟨0, 0⟩⟩) =
        some ((probePacket 5).setSwInfo sw) :=
  (decode_sent_iff (fun _ => []) OpenFlowJ.documented_faithful (probePacket_wellFormed 5)
    ⟨0, 0⟩).mpr ⟨show 0 ≤ 760 by decide, (probe_readable 5).port⟩

/-- Frames of numbered packets, among frames of other types: the report shows the packets that
    arrived. -/
theorem report_of_rawCaptures {ofj : OpenFlowJ} (hof : ofj.Faithful) {ps : List TracePacket}
    (hps : Numbered ofj ps) {rcs : List RawCapture}
    (hrcs : ∀ rc ∈ rcs, rc.IsTrace → ∃ p ∈ ps, FrameBytes p rc.frame.bytes) (startTime : JLong) :
    List.Forall₂ (Shows startTime) (ps.filter (arrived rcs))
      (capture ofj startTime (rcs.map (·.toCapture parsed))).report := by
  rw [capture_eq, decodings_captures, ← capture_eq, ← captured_captures parsed]
  refine report_of_frames hof hps (fun f hf => ?_) startTime
  obtain ⟨rc, hrc, rfl⟩ := List.mem_map.mp hf
  obtain ⟨hmem, htrace⟩ := List.mem_filter.mp hrc
  obtain ⟨p, hp, hbytes⟩ := hrcs rc hmem (of_decide_eq_true htrace)
  obtain ⟨hget, -, hdata⟩ := getPacket_of_frameBytes parsed hbytes
  refine ⟨congrArg (·.datalink) hget, p, hp, ?_⟩
  show p.serialize = .ok (Jpcap.getPacket parsed rc.frame).data
  rw [hget, hdata]

end TraceClient

end Capture

end JSdnTrace
