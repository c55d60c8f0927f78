import Failover.Json.Value

/-!
# Documents

The tree that a configuration is read from, whichever format it was written in. The formats differ
in three points, which a `Dialect` names: what stands for a variant without payload, whether a
record given as a list may have items left over, and moments in time.
-/

namespace Failover

/-- A tree of a configuration format. -/
inductive Document where
  | null
  | bool (b : Bool)
  | int (n : Int)
  | real (x : Float)
  | text (s : String)
  /-- A date or a time. It counts as a record without any known field. -/
  | moment
  | list (items : List Document)
  | table (members : List (String × Document))
deriving Inhabited

/-- The format that a document was written in. -/
inductive Dialect where
  | json
  | toml
deriving DecidableEq, Inhabited

namespace Document

mutual

/-- The document of a JSON value. -/
def ofJson : Json → Document
  | .null => null
  | .bool b => bool b
  | .int n => int n
  | .float x => real x
  | .string s => text s
  | .array items => list (ofJsonItems items)
  | .object members => table (ofJsonMembers members)

/-- The documents of the items of an array. -/
def ofJsonItems : List Json → List Document
  | [] => []
  | v :: rest => ofJson v :: ofJsonItems rest

/-- The documents of the members of an object. -/
def ofJsonMembers : List (String × Json) → List (String × Document)
  | [] => []
  | (k, v) :: rest => (k, ofJson v) :: ofJsonMembers rest

end

/-- The text of a text. -/
def text? : Document → Option String
  | text s => some s
  | _ => none

/-- A truth value. -/
def bool? : Document → Option Bool
  | bool b => some b
  | _ => none

/-- An integer of at most `bits` bits without a sign. -/
def natBelow? (bits : Nat) : Document → Option Nat
  | int n => if 0 ≤ n ∧ n.toNat < Nat.pow 2 bits then some n.toNat else none
  | _ => none

/-- An integer of 64 bits without a sign. -/
def word64? (d : Document) : Option UInt64 := (d.natBelow? 64).map UInt64.ofNat

/-- An integer of 32 bits without a sign. -/
def word32? (d : Document) : Option UInt32 := (d.natBelow? 32).map UInt32.ofNat

/-- An integer of 32 bits with a sign. -/
def int32? : Document → Option Int32
  | int n => if -0x80000000 ≤ n ∧ n < 0x80000000 then some (Int32.ofInt n) else none
  | _ => none

/-- A value that may be null. -/
def nullable? {α : Type} (read : Document → Option α) : Document → Option (Option α)
  | null => some none
  | d => (read d).map some

/-- The items of a list, each read in the same way. -/
def list? {α : Type} (read : Document → Option α) : Document → Option (List α)
  | list items => items.mapM read
  | _ => none

end Document

namespace Dialect

/-- Whether a document stands for a variant without payload. -/
def isUnit : Dialect → Document → Bool
  | json, .null => true
  | toml, .table [] => true
  | toml, .list [] => true
  | _, _ => false

/-- Whether a record given as a list may have more items than fields. -/
def allowsSurplus : Dialect → Bool
  | json => false
  | toml => true

end Dialect

end Failover
