/-!
# How much there is to do

A rehearsal goes on until nothing is left to do, within a bound that is read off what is put into
it.

* `weigh` — the weight of a list of things.
-/

namespace DeviceLink

def weigh {α : Type} (weight : α → Nat) : List α → Nat
  | [] => 0
  | a :: rest => weight a + weigh weight rest

end DeviceLink
