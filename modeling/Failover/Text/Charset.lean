import Failover.Text.Blank

/-!
# Decoding text

Octets are read as text in one of a few encodings. Whatever does not belong to the encoding becomes
the replacement character, so that decoding never fails. A byte order mark at the start decides
about the encoding and is dropped.
-/

namespace Failover

namespace Text

/-- How text is encoded. -/
inductive Charset where
  | utf8
  | utf16 (bigEndian : Bool)
  | windows1252
deriving DecidableEq, Inhabited

namespace Charset

/-- Stands for what cannot be decoded. -/
def replacement : Char := Char.ofNat 0xfffd

/-! ## UTF-8 -/

/-- A character of which some octets have been read. -/
structure Partial where
  value : Nat
  /-- The number of octets that are missing. -/
  needed : Nat
  /-- The least and the greatest octet that may come next. -/
  least : Nat
  greatest : Nat

/-- What an octet begins: a character that is complete, one that goes on, or none. -/
def begin (b : Nat) : List Char × Option Partial :=
  if b < 0x80 then ([Char.ofNat b], none)
  else if 0xc2 ≤ b ∧ b ≤ 0xdf then ([], some ⟨b - 0xc0, 1, 0x80, 0xbf⟩)
  else if 0xe0 ≤ b ∧ b ≤ 0xef then
    ([], some ⟨b - 0xe0, 2, if b = 0xe0 then 0xa0 else 0x80, if b = 0xed then 0x9f else 0xbf⟩)
  else if 0xf0 ≤ b ∧ b ≤ 0xf4 then
    ([], some ⟨b - 0xf0, 3, if b = 0xf0 then 0x90 else 0x80, if b = 0xf4 then 0x8f else 0xbf⟩)
  else ([replacement], none)

/-- Decodes UTF-8 behind the start of a character. -/
def decodeUtf8 : Option Partial → List UInt8 → List Char
  | none, [] => []
  | some _, [] => [replacement]
  | none, b :: rest =>
    let (found, next) := begin b.toNat
    found ++ decodeUtf8 next rest
  | some p, b :: rest =>
    if p.least ≤ b.toNat ∧ b.toNat ≤ p.greatest then
      let value := p.value * 64 + (b.toNat - 0x80)
      if p.needed ≤ 1 then Char.ofNat value :: decodeUtf8 none rest
      else decodeUtf8 (some ⟨value, p.needed - 1, 0x80, 0xbf⟩) rest
    else
      let (found, next) := begin b.toNat
      replacement :: (found ++ decodeUtf8 next rest)

/-! ## UTF-16 -/

/-- The 16-bit units of octets; `none` stands for half a unit at the end. -/
def units (bigEndian : Bool) : List UInt8 → List (Option Nat)
  | a :: b :: rest =>
    some (if bigEndian then a.toNat * 256 + b.toNat else b.toNat * 256 + a.toNat) ::
      units bigEndian rest
  | [_] => [none]
  | [] => []

/-- Whether a unit is the first half of a pair. -/
def isHigh (u : Nat) : Bool := 0xd800 ≤ u && u ≤ 0xdbff

/-- Whether a unit is the second half of a pair. -/
def isLow (u : Nat) : Bool := 0xdc00 ≤ u && u ≤ 0xdfff

/-- A unit that is not part of a pair. -/
def single (u : Nat) : Char := if isHigh u || isLow u then replacement else Char.ofNat u

/-- Decodes units; the first half of a pair may have been read already. -/
def decodeUnits : Option Nat → List (Option Nat) → List Char
  | none, [] => []
  | some _, [] => [replacement]
  | none, none :: rest => replacement :: decodeUnits none rest
  | some _, none :: rest => replacement :: decodeUnits none rest
  | none, some u :: rest =>
    if isHigh u then decodeUnits (some u) rest else single u :: decodeUnits none rest
  | some high, some u :: rest =>
    if isLow u then
      Char.ofNat (0x10000 + (high - 0xd800) * 0x400 + (u - 0xdc00)) :: decodeUnits none rest
    else if isHigh u then replacement :: decodeUnits (some u) rest
    else replacement :: single u :: decodeUnits none rest

/-! ## Single octets -/

/-- The characters of the octets from `80` to `9f` in Windows-1252. -/
def windowsUpper : List Nat :=
  [0x20ac, 0x81, 0x201a, 0x192, 0x201e, 0x2026, 0x2020, 0x2021, 0x2c6, 0x2030, 0x160, 0x2039, 0x152,
    0x8d, 0x17d, 0x8f, 0x90, 0x2018, 0x2019, 0x201c, 0x201d, 0x2022, 0x2013, 0x2014, 0x2dc, 0x2122,
    0x161, 0x203a, 0x153, 0x9d, 0x17e, 0x178]

/-- The character of an octet in Windows-1252. -/
def windowsChar (b : UInt8) : Char :=
  if 0x80 ≤ b.toNat ∧ b.toNat < 0xa0 then Char.ofNat (windowsUpper.getD (b.toNat - 0x80) 0xfffd)
  else Char.ofNat b.toNat

/-! ## Choosing the encoding -/

/-- The labels of the encodings. -/
def labels : List (Charset × List String) :=
  [(utf8, ["utf-8", "utf8", "unicode-1-1-utf-8", "unicode11utf8", "unicode20utf8",
      "x-unicode20utf8"]),
    (utf16 false, ["utf-16", "utf-16le", "csunicode", "iso-10646-ucs-2", "ucs-2", "unicode",
      "unicodefeff"]),
    (utf16 true, ["utf-16be", "unicodefffe"]),
    (windows1252, ["windows-1252", "ansi_x3.4-1968", "ascii", "cp1252", "cp819", "csisolatin1",
      "ibm819", "iso-8859-1", "iso-ir-100", "iso8859-1", "iso88591", "iso_8859-1",
      "iso_8859-1:1987", "l1", "latin1", "us-ascii", "x-cp1252"])]

/-- The encoding with a label. -/
def ofLabel? (label : String) : Option Charset :=
  (labels.find? fun entry => entry.2.contains label).map Prod.fst

/-- The text without blanks around it. -/
def trim (text : List Char) : List Char :=
  ((text.dropWhile isBlankChar).reverse.dropWhile isBlankChar).reverse

/-- A parameter such as `charset=utf-8`; its value may stand between quotes. -/
def parameter (part : List Char) : String × String :=
  let name := part.takeWhile (· != '=')
  let value := trim (part.drop (name.length + 1))
  (String.ofList ((trim name).map Char.toLower),
    String.ofList ((value.filter (· != '"')).map Char.toLower))

/-- The encoding that a media type names; UTF-8 if it names none that is known. -/
def ofMediaType (mediaType : Option String) : Charset :=
  match (mediaType.getD "").toList.splitOn ';' with
  | [] => utf8
  | _ :: parameters =>
    (((parameters.map parameter).lookup "charset").bind ofLabel?).getD utf8

/-- Decodes octets without a byte order mark. -/
def decodePlain (c : Charset) (bytes : List UInt8) : List Char :=
  match c with
  | utf8 => decodeUtf8 none bytes
  | utf16 bigEndian => decodeUnits none (units bigEndian bytes)
  | windows1252 => bytes.map windowsChar

/-- Decodes octets. -/
def decode (c : Charset) (bytes : List UInt8) : String :=
  String.ofList <|
    match bytes with
    | 0xef :: 0xbb :: 0xbf :: rest => decodePlain utf8 rest
    | 0xfe :: 0xff :: rest => decodePlain (utf16 true) rest
    | 0xff :: 0xfe :: rest => decodePlain (utf16 false) rest
    | bytes => decodePlain c bytes

end Charset

end Text

end Failover
