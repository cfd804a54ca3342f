import DeviceLink.Dispatch.Action
import DeviceLink.Operation

/-!
# Errands

An operation that is to be brought to a link, together with what its end brings about.

* `Errand` — the operation, the errands that follow it, a panic.
-/

namespace DeviceLink

/-- An operation to bring, and what happens when it is over: others are brought, and then its
callback may panic. -/
structure Errand where
  request : Request
  next : List Errand := []
  panic : Option Dispatch.Panic := none

instance : Inhabited Errand := ⟨{ request := .connect }⟩

namespace Errand

mutual

/-- The number of operations in an errand. -/
def size : Errand → Nat
  | ⟨_, next, _⟩ => 1 + sizes next

def sizes : List Errand → Nat
  | [] => 0
  | e :: rest => e.size + sizes rest

end

end Errand

end DeviceLink
