import DeviceLink.Operation

/-!
# The chain above a stage

A stage knows of the rest of the link only that it takes five calls.

* `ChainCall` — the five calls.
-/

namespace DeviceLink

/-- What a stage hands to the chain above it. -/
inductive ChainCall (κ : Type) where
  /-- An operation is over. -/
  | complete (op : Operation κ)
  /-- An operation is not for this stage. -/
  | pass (op : Operation κ)
  | event (e : Event)
  /-- The connection is up. -/
  | connected
  /-- The connection is down. -/
  | disconnected
  deriving DecidableEq, Repr

def ChainCall.operation? {κ : Type} : ChainCall κ → Option (Operation κ)
  | complete op | pass op => some op
  | event _ | connected | disconnected => none

end DeviceLink
