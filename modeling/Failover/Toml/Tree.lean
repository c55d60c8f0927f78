import Failover.Config.Document

/-!
# Tables of TOML

The tree that headers and keys build up. A table remembers how it came about: a header may define a
table that was only implied by a longer header, but neither one that another header defined nor one
that dotted keys built; and dotted keys only extend tables that dotted keys built.
-/

namespace Failover

namespace Toml

/-- How a table came about. -/
inductive Origin where
  /-- Its own header defined it. -/
  | header
  /-- The header of a table inside of it mentions it. -/
  | implied
  /-- A dotted key built it. -/
  | dotted
deriving DecidableEq, Inhabited

/-- A node of the tree. -/
inductive Node where
  | leaf (value : Document)
  | table (origin : Origin) (members : List (String × Node))
  /-- An array of tables, the newest one first. -/
  | tables (items : List (List (String × Node)))
deriving Inhabited

/-- The members of a table. -/
abbrev Members := List (String × Node)

namespace Members

/-- Replaces the node of a key, or adds it. -/
def put (members : Members) (key : String) (node : Node) : Members :=
  match members with
  | [] => [(key, node)]
  | (k, n) :: rest => if k = key then (key, node) :: rest else (k, n) :: put rest key node

/-- Changes the table that a path of keys leads to. Tables on the way that do not exist are implied;
an array of tables stands for its newest one. -/
def changeAt? (change : Members → Option Members) (members : Members) : List String → Option Members
  | [] => change members
  | key :: path =>
    match members.lookup key with
    | none => (changeAt? change [] path).map fun m => members.put key (.table .implied m)
    | some (.table origin inner) =>
      (changeAt? change inner path).map fun m => members.put key (.table origin m)
    | some (.tables (newest :: older)) =>
      (changeAt? change newest path).map fun m => members.put key (.tables (m :: older))
    | some _ => none

/-- Puts a value under a dotted key, given the keys in front of the last one. -/
def assign? (members : Members) (last : String) (value : Node) : List String → Option Members
  | [] =>
    match members.lookup last with
    | none => some (members.put last value)
    | some _ => none
  | key :: path =>
    match members.lookup key with
    | none => (assign? [] last value path).map fun m => members.put key (.table .dotted m)
    | some (.table .header _) => none
    | some (.table .implied inner) =>
      if path = [] then none
      else (assign? inner last value path).map fun m => members.put key (.table .implied m)
    | some (.table .dotted inner) =>
      (assign? inner last value path).map fun m => members.put key (.table .dotted m)
    | some (.tables (newest :: older)) =>
      if path = [] then none
      else (assign? newest last value path).map fun m => members.put key (.tables (m :: older))
    | some _ => none

/-- Defines the table of a header with this last key. -/
def openTable? (key : String) (members : Members) : Option Members :=
  match members.lookup key with
  | none => some (members.put key (.table .header []))
  | some (.table .implied inner) => some (members.put key (.table .header inner))
  | some _ => none

/-- Adds a table to the array of a header with this last key. -/
def openItem? (key : String) (members : Members) : Option Members :=
  match members.lookup key with
  | none => some (members.put key (.tables [[]]))
  | some (.tables items) => some (members.put key (.tables ([] :: items)))
  | some _ => none

end Members

mutual

/-- The document of a node. -/
def Node.document : Node → Document
  | .leaf value => value
  | .table _ members => .table (membersDocument members)
  | .tables items => .list (itemsDocument items).reverse

/-- The documents of the members of a table. -/
def membersDocument : List (String × Node) → List (String × Document)
  | [] => []
  | (key, node) :: rest => (key, Node.document node) :: membersDocument rest

/-- The documents of the tables of an array. -/
def itemsDocument : List (List (String × Node)) → List Document
  | [] => []
  | members :: rest => .table (membersDocument members) :: itemsDocument rest

end

end Toml

end Failover
