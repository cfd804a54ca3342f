import DeviceLink.Transport.Sessions

/-!
# A network without a way out

A network on which every attempt to connect fails with one and the same fault.  It decides
whatever the drivers of connections leave open: a cancelled driver sees its cancellation, any
other waiting driver the fault.

* `Network` — the network, by its fault.
* `Network.turn?` — the turn that a driver takes.
* `Network.stir`, `Network.stirSessions` — one driver has its turn.
-/

namespace DeviceLink

open Transport

/-- A network on which no attempt succeeds. -/
structure Network where
  fault : ConnectionFault

namespace Network

variable {η : Type}

/-- The turn that a connection's driver takes; none when it has come to its end. -/
def turn? (net : Network) (c : Connection η) : Option DriverTurn :=
  match c.driver with
  | .returned => none
  | .waiting =>
    some (.wake (if c.cancelled then .cancellation else .event (.failed net.fault)))
  | _ => some .advance

/-- The first driver of a transport that can do something has its turn. -/
def stir (net : Network) (t : Transport η) : Option (Transport η × List (Effect η)) :=
  (List.range t.connections.length).findSome? fun n =>
    (t.connections[n]?).bind fun c => (net.turn? c).bind fun turn => t.drive n turn

/-- The first driver of all sessions that can do something has its turn. -/
def stirSessions (net : Network) (w : Transports) : Option (List Report × Transports) :=
  (List.range w.sessions.length).findSome? fun session =>
    (w.sessions[session]?).bind fun t =>
      (net.stir t).map fun (t, effects) => (effects.map Effect.report, w.set session t)

end Network

end DeviceLink
