import Failover.Url.Domain.Direction
import Failover.Url.Domain.Joining
import Failover.Url.Domain.Mapping
import Failover.Url.Domain.Punycode
import Failover.Url.Percent

/-!
# Domain names

A domain name of a special URL is brought into its ASCII form: characters are replaced, letters are
composed with their marks, and each label that is not in ASCII is written in Punycode. A label that
is given in Punycode has to be such as it would have been written.
-/

namespace Failover

namespace Url

namespace Domain

/-- The ASCII characters that a domain may not hold. -/
def isForbidden (c : Char) : Bool :=
  c.toNat ≤ 0x20 || c.toNat = 0x7f ||
    ['%', '#', '/', ':', '<', '>', '?', '@', '[', '\\', ']', '^', '|'].contains c

/-- What a label in Punycode begins with. -/
def encodedMark : List Char := ['x', 'n', '-', '-']

/-- The longest part behind the mark that is read. -/
def maxEncodedLength : Nat := 2000

/-- The longest label that is written in Punycode. -/
def maxLabelLength : Nat := 1000

/-- Whether a label can stand in a domain name. -/
def isLabel (label : List Char) : Bool :=
  label.all isValid && !label.head?.any Text.isMark && joinersFit [] label

/-- Whether a text is in ASCII. -/
def isAscii (text : List Char) : Bool := text.all Punycode.isBasic

/-- The label that a part of a domain name stands for. -/
def label? (part : List Char) : Option (List Char) :=
  if encodedMark.isPrefixOf part then
    if maxEncodedLength < part.length - 4 then none
    else
      (Punycode.decode? (part.drop 4)).filter fun label =>
        !isAscii label && Text.compose label = label && isLabel label &&
          !encodedMark.isPrefixOf label
  else if isLabel part then some part
  else none

/-- The ASCII form of a label. -/
def asciiLabel? (label : List Char) : Option (List Char) :=
  if isAscii label then some label
  else if maxLabelLength < label.length then none
  else some (encodedMark ++ Punycode.encode label)

/-- Whether the directions of labels do not hide the order of their characters. -/
def directionsFit (labels : List (List Char)) : Bool :=
  !labels.any (fun l => l.any turnsDirection) || labels.all keepsOrder

/-- The ASCII form of a domain name. -/
def toAscii? (name : List Char) : Option (List Char) := do
  let text ← mapped? name
  let labels ← ((Text.compose text).splitOn '.').mapM label?
  if !directionsFit labels then none
  let ascii := List.intercalate ['.'] (← labels.mapM asciiLabel?)
  if ascii.any isForbidden then none else some ascii

end Domain

end Url

end Failover
