/-!
# JSON values

A JSON value with integers kept apart from other numbers. The members of an object are kept in
increasing order of their keys, each key once; `Json.ofMembers` brings any list of members into that
form and lets the last of several members with one key win.
-/

namespace Failover

/-- A JSON value. -/
inductive Json where
  | null
  | bool (b : Bool)
  | int (n : Int)
  | float (x : Float)
  | string (s : String)
  | array (items : List Json)
  | object (members : List (String × Json))
deriving Inhabited

namespace Json

/-- Puts a member in its place, over an older one with the same key. -/
def insertMember (key : String) (value : Json) :
    List (String × Json) → List (String × Json)
  | [] => [(key, value)]
  | (k, v) :: rest =>
    if key < k then (key, value) :: (k, v) :: rest
    else if key = k then (key, value) :: rest
    else (k, v) :: insertMember key value rest

/-- The object with these members; a later member replaces an earlier one with its key. -/
def ofMembers (members : List (String × Json)) : Json :=
  object (members.foldl (fun sorted m => insertMember m.1 m.2 sorted) [])

/-- The member of an object with this key. -/
def get? (key : String) : Json → Option Json
  | object members => members.lookup key
  | _ => none

/-- Whether the value is `null`. -/
def isNull : Json → Bool
  | null => true
  | _ => false

/-- The text of a string. -/
def string? : Json → Option String
  | string s => some s
  | _ => none

/-- An integer that fits in 64 bits with a sign. -/
def int64? : Json → Option Int
  | int n => if -0x8000000000000000 ≤ n ∧ n < 0x8000000000000000 then some n else none
  | _ => none

/-- An integer from `0` to `2 ^ bits - 1`. -/
def natBelow? (bits : Nat) : Json → Option Nat
  | int n => if 0 ≤ n ∧ n.toNat < Nat.pow 2 bits then some n.toNat else none
  | _ => none

/-- The items of an array. -/
def items? : Json → Option (List Json)
  | array items => some items
  | _ => none

/-- Nothing but `null` counts as null. -/
@[simp] theorem isNull_eq_true_iff {v : Json} : v.isNull = true ↔ v = null := by
  cases v <;> simp [isNull]

end Json

end Failover
