/-
  Bytes that are no trace packet, and the exceptions they end in.

  `deserialize` announces a `PacketParsingException`, and both callers catch nothing else, but
  what it throws are the unchecked exceptions of the buffer and of `OFPort.of`.

  * `parse_eq_ok_iff`: the bytes that `PacketIn` can read.
  * `returns_packetIn_iff`, `returns_receivePacket_iff`, `reports_iff`: a caller returns, and the
    decoder keeps its word, exactly on the bytes that are read.
  * `handled_iff`: the three together.
-/
import JSdnTrace.Run
import JSdnTrace.TraceClient

namespace JSdnTrace

open Java TraceAppController TraceClient

/-- `PacketIn` can read the bytes: the first is a length that covers the header and stays in the
    array, the array reaches to the end of the switch record, and the record has a port. -/
def Readable (ofj : OpenFlowJ) (data : List JByte) : Prop :=
  37 ≤ (byteAt data 0).toInt ∧ (byteAt data 0).toInt ≤ data.length ∧ 49 ≤ data.length ∧
    ofj.AcceptsPort (intAt data 41)

instance (ofj : OpenFlowJ) (data : List JByte) : Decidable (Readable ofj data) :=
  inferInstanceAs (Decidable (_ ∧ _ ∧ _ ∧ _))

/-- The network throws nothing that `PacketIn` catches: the exception is checked, and `INetwork`
    declares none. -/
def INetwork.Unchecked (network : INetwork) : Prop :=
  ∀ dpid pkt port,
    DoesNotThrow "PacketParsingException" (network.sendTracePacket dpid pkt port)

theorem INetwork.Reliable.unchecked {network : INetwork} (h : network.Reliable) :
    network.Unchecked := by
  intro dpid pkt port
  rw [h.sendTracePacket]
  exact doesNotThrow_ok ()

variable {ofj : OpenFlowJ}

theorem parse_eq_ok_iff (draw : Draw) (data : List JByte) :
    (∃ p, parse ofj draw data = .ok p) ↔ Readable ofj data := by
  unfold parse Readable
  cases data with
  | nil => exact iff_of_false (fun h => nomatch h) fun h => absurd h.1 (by decide)
  | cons length rest =>
    show (∃ p, (TracePacket.new ofj draw).deserialize ofj (length :: rest) 0 length.toInt =
      .ok p) ↔ 37 ≤ length.toInt ∧ length.toInt ≤ (length :: rest).length ∧ _
    rw [TracePacket.deserialize_eq_ok_iff, Int.zero_add]
    exact and_iff_right (Int.le_refl 0)

variable (hof : ofj.Faithful)

include hof

theorem throwsOwn_parse (draw : Draw) (data : List JByte) : ThrowsOwn (parse ofj draw data) :=
  (throwsOwn_arrayHead data).bind fun _ => TracePacket.throwsOwn_deserialize hof

/-- `PacketIn` ends as the decoder does, or else as the call on the network. -/
theorem fst_run_packetIn (w : World) {env : Env} (hnet : env.network.Unchecked)
    (data : List JByte) (info : SwitchInfo) :
    (run (packetIn ofj env data info) w).1 =
      parse ofj env.packet data >>= fun p => (floodedReply ofj w env p info).result := by
  have hbody : (run (do
      let pkt ← liftM (parse ofj env.packet data)
      handleTrace ofj env pkt info) w).1 =
        parse ofj env.packet data >>= fun p => (floodedReply ofj w env p info).result := by
    rw [fst_run_lift_bind]
    cases hparse : parse ofj env.packet data with
    | ok p =>
      obtain ⟨source, hs⟩ := sourceMAC_of_parse ofj hparse
      rw [ok_bind, ok_bind, run_handleTrace ofj w env hs, run_sendReply]
      rfl
    | error e => rfl
  unfold packetIn
  rw [fst_run_tryCatch_print, hbody]
  rw [hbody]
  exact (throwsOwn_parse hof env.packet data).doesNotThrow.bind fun _ => hnet _ _ _

/-- On a network that does not fail `PacketIn` returns exactly when it reads the packet. -/
theorem returns_packetIn_iff (w : World) (env : Env) (hnet : env.network.Reliable)
    (data : List JByte) (info : SwitchInfo) :
    (run (packetIn ofj env data info) w).1 = .ok () ↔ Readable ofj data := by
  rw [← parse_eq_ok_iff env.packet, fst_run_packetIn hof w hnet.unchecked, bind_eq_ok]
  exact exists_congr fun p => and_iff_left (hnet.sendTracePacket _ _ _)

/-- The client returns from a frame of the trace type exactly when it decodes it. -/
theorem returns_receivePacket_iff (c : TraceClient) (draw : Draw) (data : List JByte) :
    (run (receivePacket ofj draw ⟨.ethernet 0x8220, data⟩) c).1 = .ok () ↔
      49 ≤ data.length ∧ ofj.AcceptsPort (intAt data 41) := by
  have hnot : DoesNotThrow "PacketParsingException"
      ((TracePacket.new ofj draw).deserialize ofj data 0 data.length >>= fun _ => .ok ()) :=
    (TracePacket.throwsOwn_deserialize hof).doesNotThrow.bind fun _ => doesNotThrow_ok ()
  unfold receivePacket
  rw [if_pos rfl, fst_run_tryCatch_print, fst_run_lift_bind, bind_eq_ok,
    ← TracePacket.deserialize_array_eq_ok_iff]
  · exact exists_congr fun q => and_iff_left rfl
  · rw [fst_run_lift_bind]
    exact hnot

/-- The decoder reads a packet or reports what its documentation says exactly when it reads one. -/
theorem reports_iff (this : TracePacket) (data : List JByte) (offset length : Int) :
    ((∃ q, this.deserialize ofj data offset length = .ok q) ∨
        this.deserialize ofj data offset length = .error (.other "PacketParsingException")) ↔
      0 ≤ offset ∧ 37 ≤ length ∧ offset + length ≤ data.length ∧ 49 ≤ data.length ∧
        ofj.AcceptsPort (intAt data 41) := by
  rw [← TracePacket.deserialize_eq_ok_iff]
  exact or_iff_left (TracePacket.throwsOwn_deserialize hof).doesNotThrow

/-- No input escapes exactly when it is read. -/
theorem handled_iff (w : World) (env : Env) (hnet : env.network.Reliable) (info : SwitchInfo)
    (c : TraceClient) (draw : Draw) (this : TracePacket) (data : List JByte)
    (offset length : Int) :
    ((run (packetIn ofj env data info) w).1 = .ok () ↔ Readable ofj data) ∧
    ((run (receivePacket ofj draw ⟨.ethernet 0x8220, data⟩) c).1 = .ok () ↔
      49 ≤ data.length ∧ ofj.AcceptsPort (intAt data 41)) ∧
    (((∃ q, this.deserialize ofj data offset length = .ok q) ∨
        this.deserialize ofj data offset length = .error (.other "PacketParsingException")) ↔
      0 ≤ offset ∧ 37 ≤ length ∧ offset + length ≤ data.length ∧ 49 ≤ data.length ∧
        ofj.AcceptsPort (intAt data 41)) :=
  ⟨returns_packetIn_iff hof w env hnet data info, returns_receivePacket_iff hof c draw data,
    reports_iff hof this data offset length⟩

omit hof

/-- The empty array escapes on every path. -/
theorem empty_not_handled :
    (run (packetIn OpenFlowJ.documented (Env.accepting 0 0) [] (SwitchInfo.new
        OpenFlowJ.documented)) World.init).1 = .error .arrayIndexOutOfBounds ∧
      (run (receivePacket OpenFlowJ.documented ⟨0, 0⟩ ⟨.ethernet 0x8220, []⟩)
        (TraceClient.start 0)).1 = .error .bufferUnderflow ∧
      (TracePacket.new OpenFlowJ.documented ⟨0, 0⟩).deserialize OpenFlowJ.documented [] 0 0 =
        .error .bufferUnderflow :=
  ⟨rfl, rfl, rfl⟩

/-- A request from a known host is read by both callers. -/
theorem requestBytes_handled :
    (run (packetIn OpenFlowJ.documented (Env.accepting 0 0) requestBytes (SwitchInfo.new
        OpenFlowJ.documented)) (reached OpenFlowJ.documented [.onPortStatusChange 1 3 2])).1 =
        .ok () ∧
      (run (receivePacket OpenFlowJ.documented ⟨0, 0⟩ ⟨.ethernet 0x8220, requestBytes⟩)
        (TraceClient.start 0)).1 = .ok () ∧
      ((∃ q, (TracePacket.new OpenFlowJ.documented ⟨0, 0⟩).deserialize OpenFlowJ.documented
          requestBytes 0 40 = .ok q) ∨
        (TracePacket.new OpenFlowJ.documented ⟨0, 0⟩).deserialize OpenFlowJ.documented
          requestBytes 0 40 = .error (.other "PacketParsingException")) := by
  obtain ⟨hpacketIn, hreceive, hreports⟩ := handled_iff OpenFlowJ.documented_faithful
    (reached OpenFlowJ.documented [.onPortStatusChange 1 3 2]) (Env.accepting 0 0)
    INetwork.accepting_reliable (SwitchInfo.new OpenFlowJ.documented) (TraceClient.start 0) ⟨0, 0⟩
    (TracePacket.new OpenFlowJ.documented ⟨0, 0⟩) requestBytes 0 40
  exact ⟨hpacketIn.mpr (by decide), hreceive.mpr (by decide), hreports.mpr (by decide)⟩

end JSdnTrace
