/-!
# Documents as trees

A document is a tree of tables.  How a table came about decides how it may grow: a table under its
own header may not get a second one, a table that a dotted key made may only grow by dotted keys,
and an inline table is complete where it stands.

* `TableKind`, `Node` — the tree.
* `grow` — the one way a tree grows: at the end of a path.
* `openTable`, `openElement`, `put` — a header, a header of an array of tables, a pair.
-/

namespace DeviceLink.Toml

/-- How a table came about. -/
inductive TableKind where
  /-- By a header of its own. -/
  | header
  /-- By the header of a table inside it. -/
  | implied
  /-- By a dotted key. -/
  | dotted
  /-- In braces. -/
  | inline
  deriving DecidableEq, Repr

/-- A value, a table, or an array of tables. -/
inductive Node where
  | string (s : String)
  | integer (n : Int)
  /-- A number with a fraction or an exponent, an infinity, or none. -/
  | float
  | boolean (b : Bool)
  /-- A date, a time, or both. -/
  | moment
  | array (items : List Node)
  | table (kind : TableKind) (entries : List (String × Node))
  | tables (elements : List (List (String × Node)))

instance : Inhabited Node := ⟨.float⟩

/-- The pairs of a table, in the order in which they came. -/
abbrev Entries := List (String × Node)

namespace Entries

/-- Puts a node in the place of the one under a key, or behind all others. -/
def set (es : Entries) (key : String) (node : Node) : Entries :=
  match es with
  | [] => [(key, node)]
  | (k, n) :: rest => if k = key then (k, node) :: rest else (k, n) :: set rest key node

end Entries

/-- **A tree grows at the end of a path.**  Tables that are missing on the way are made; whatever
else is on the way must be a table that may be entered, or an array of tables, whose last element
is entered.  Dotted keys may not enter a table that has a header of its own. -/
def grow (dotted : Bool) (f : TableKind → Entries → Option Entries) :
    List String → TableKind → Entries → Option Entries
  | [], kind, es => f kind es
  | key :: path, _, es =>
    let made : TableKind := if dotted then .dotted else .implied
    match es.lookup key with
    | none => (grow dotted f path made []).map fun inner => es.set key (.table made inner)
    | some (.tables elements) =>
      match elements.reverse with
      | [] => none
      | last :: earlier =>
        (grow dotted f path .header last).map fun inner =>
          es.set key (.tables (earlier.reverse ++ [inner]))
    | some (.table .inline _) => none
    | some (.table kind inner) =>
      if dotted ∧ kind = .header then none
      else (grow dotted f path kind inner).map fun inner => es.set key (.table kind inner)
    | some _ => none

/-- Puts a value under a new key of a table that dotted keys lead to; `direct` says that none
did. -/
def putHere (direct : Bool) (key : String) (node : Node) (kind : TableKind) (es : Entries) :
    Option Entries :=
  if decide (kind = .dotted) = direct then none
  else match es.lookup key with
    | some _ => none
    | none => some (es.set key node)

def put (path : List String) (key : String) (node : Node) (es : Entries) : Option Entries :=
  grow true (putHere path.isEmpty key node) path .header es

/-- Opens a table by its header: a new one, or one that has been implied. -/
def openTable (path : List String) (key : String) (root : Entries) : Option Entries :=
  grow false (fun _ es =>
    match es.lookup key with
    | none => some (es.set key (.table .header []))
    | some (.table .implied inner) => some (es.set key (.table .header inner))
    | some _ => none) path .header root

/-- Opens a new element of an array of tables. -/
def openElement (path : List String) (key : String) (root : Entries) : Option Entries :=
  grow false (fun _ es =>
    match es.lookup key with
    | none => some (es.set key (.tables [[]]))
    | some (.tables elements) => some (es.set key (.tables (elements ++ [[]])))
    | some _ => none) path .header root

/-- Puts a value under a path of keys in the table that a header has opened. -/
def putUnder (section_ : List String) (path : List String) (key : String) (node : Node)
    (root : Entries) : Option Entries :=
  grow false (fun _ es => put path key node es) section_ .header root

end DeviceLink.Toml
