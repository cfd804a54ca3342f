/-!
# A channel for one value

One end sends a value, once, or is dropped; the other end looks whether something is there, or
waits for it.  A look that finds the value, or finds that none will come, uses the receiving end
up.

* `Sender`, `Oneshot` — what became of the sending end, and the channel.
* `Oneshot.send`, `Oneshot.hangUp` — what the sending end does.
* `Oneshot.take`, `Oneshot.poll` — a look, and an attempt to go on for whoever waits.
-/

namespace DeviceLink

/-- What became of the sending end of a channel. -/
inductive Sender (α : Type) where
  /-- It can still send. -/
  | held
  | sent (a : α)
  /-- It was dropped and has sent nothing. -/
  | dropped

structure Oneshot (α : Type) where
  sender : Sender α := .held
  /-- The receiving end is used up. -/
  spent : Bool := false

namespace Oneshot

variable {α : Type}

def send (c : Oneshot α) (a : α) : Oneshot α :=
  match c.sender with
  | .held => { c with sender := .sent a }
  | .sent _ | .dropped => c

def hangUp (c : Oneshot α) : Oneshot α :=
  match c.sender with
  | .held => { c with sender := .dropped }
  | .sent _ | .dropped => c

/-- Why a look finds no value. -/
inductive Missing where
  /-- It can still come. -/
  | empty
  /-- None will come, or it was taken before. -/
  | closed

/-- A look. -/
def take (c : Oneshot α) : Except Missing α × Oneshot α :=
  if c.spent then (.error .closed, c)
  else match c.sender with
    | .held => (.error .empty, c)
    | .sent a => (.ok a, { c with spent := true })
    | .dropped => (.error .closed, { c with spent := true })

/-- What an attempt to go on comes to. -/
inductive Poll (α : Type) where
  | ready (a : α)
  /-- No value will come. -/
  | closed
  | pending
  | panic (message : String)

/-- An attempt to go on; the receiving end must not be used up. -/
def poll (c : Oneshot α) : Poll α :=
  if c.spent then .panic "called after complete"
  else match c.sender with
    | .held => .pending
    | .sent a => .ready a
    | .dropped => .closed

end Oneshot

end DeviceLink
