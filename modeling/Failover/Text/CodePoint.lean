/-!
# Sets and maps of code points

A set of code points is written as a list of hexadecimal ranges in increasing order, separated by
spaces, with a dash between the ends of a range that has more than one member. In a map each range
is followed by its image.
-/

namespace Failover

namespace CodePoint

/-- The value of a hexadecimal digit in lower case. -/
def hexValue (c : Char) : Nat := if c.toNat < 97 then c.toNat - 48 else c.toNat - 87

/-- The number that hexadecimal digits stand for. -/
def hexNumber (digits : List Char) : Nat := digits.foldl (fun n c => n * 16 + hexValue c) 0

/-- The parts in front of and behind the first mark; the second one is empty if there is none. -/
def cut (mark : Char) (word : List Char) : List Char × List Char :=
  (word.takeWhile (· != mark), (word.dropWhile (· != mark)).drop 1)

/-- A range such as `41-5a`, or a single code point. -/
def rangeOf (word : List Char) : Nat × Nat :=
  let (first, last) := cut '-' word
  (hexNumber first, if last.isEmpty then hexNumber first else hexNumber last)

/-- The words between single spaces. -/
def words (text : List Char) : List (List Char) := text.splitOn ' '

end CodePoint

/-- Values for disjoint ranges of numbers in increasing order. -/
structure RangeTable (α : Type) where
  entries : Array (Nat × Nat × α)

namespace RangeTable

variable {α : Type}

/-- The entry for `n` from position `low` to before `high`. The interval of positions is halved at
each step. -/
def search (entries : Array (Nat × Nat × α)) (n : Nat) : Nat → Nat → Nat → Option (Nat × Nat × α)
  | 0, _, _ => none
  | fuel + 1, low, high =>
    if low < high then
      let middle := (low + high) / 2
      match entries[middle]? with
      | none => none
      | some (first, last, value) =>
        if n < first then search entries n fuel low middle
        else if last < n then search entries n fuel (middle + 1) high
        else some (first, last, value)
    else none

/-- The range of a number and its value. -/
def find? (t : RangeTable α) (n : Nat) : Option (Nat × Nat × α) :=
  search t.entries n (t.entries.size + 1) 0 t.entries.size

/-- The value of a number. -/
def value? (t : RangeTable α) (n : Nat) : Option α := (t.find? n).map fun entry => entry.2.2

/-- The table of a text, given how a word is read. -/
def ofText (read : List Char → Nat × Nat × α) (text : String) : RangeTable α where
  entries := ((CodePoint.words text.toList).map read).toArray

end RangeTable

/-- A set of code points. -/
structure CodePointSet where
  ranges : RangeTable Unit

namespace CodePointSet

/-- The set that a list of ranges describes. -/
def ofText (text : String) : CodePointSet where
  ranges :=
    .ofText (fun word =>
      let (first, last) := CodePoint.rangeOf word
      (first, last, ())) text

/-- Whether a character belongs to the set. -/
def contains (s : CodePointSet) (c : Char) : Bool := (s.ranges.find? c.toNat).isSome

end CodePointSet

/-- The images of a range of code points, of which only every `step`-th one has an image. A single
image goes up with the code point. -/
structure CodePointImage where
  step : Nat
  image : List Nat

/-- A map from code points to texts. -/
structure CodePointMap where
  table : RangeTable CodePointImage

namespace CodePointMap

/-- The images that a text describes: behind a range may stand a slash and the step, then `>` and
the code points of the image between points. -/
def ofText (text : String) : CodePointMap where
  table :=
    .ofText (fun word =>
      let (source, image) := CodePoint.cut '>' word
      let (range, step) := CodePoint.cut '/' source
      let (first, last) := CodePoint.rangeOf range
      (first, last,
        { step := if step.isEmpty then 1 else CodePoint.hexNumber step
          image := if image.isEmpty then [] else (image.splitOn '.').map CodePoint.hexNumber })) text

/-- The image of a character. -/
def image? (m : CodePointMap) (c : Char) : Option (List Char) :=
  match m.table.find? c.toNat with
  | none => none
  | some (first, _, i) =>
    if (c.toNat - first) % i.step ≠ 0 then none
    else
      match i.image with
      | [n] => some [Char.ofNat (n + (c.toNat - first))]
      | image => some (image.map Char.ofNat)

end CodePointMap

end Failover
