import DeviceLink.Rehearsal.Link
import DeviceLink.Rehearsal.Network

/-!
# A link over the transport

A whole link whose sessions run over transports, on a network without a way out.

* `Network.surroundings` — the transports as the world of a rehearsal.
* `Network.remote` — somebody on the other side does something.
* `Network.part` — one thing that is done.
-/

namespace DeviceLink.Network

/-- Drivers go on whenever the workers have nothing to do. -/
def surroundings (net : Network) : Surroundings Transports where
  model := Transports.model
  stir := net.stirSessions
  unordered := true

/-- Nobody on the other side can be reached. -/
def remote : LinkAct Transports := .stir fun w => (.truth false, [], w)

/-- One thing that is done; it starts one driver at most. -/
def part (act : LinkAct Transports) : LinkPart Transports where
  act
  weight := 2

end DeviceLink.Network
