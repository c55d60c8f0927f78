import Failover.Url.Host

/-!
# URLs

`Url.parse` reads a URL in the lenient way of web browsers: blanks around it and line breaks inside
of it are dropped, backslashes count as slashes in special schemes, dot segments are resolved, and
characters that may not stand somewhere are percent encoded. `Url.toText` writes it.
-/

namespace Failover

/-- The path of a URL. -/
inductive UrlPath where
  /-- A path without a root, as in `mailto:a`. -/
  | rootless (text : List Char)
  | segments (list : List (List Char))
deriving DecidableEq, Inhabited

/-- A URL. Its parts are kept in their encoded form. -/
structure Url where
  scheme : String
  /-- The user name, empty if there is none. -/
  username : List Char
  password : Option (List Char)
  host : Option Url.Host
  /-- Whether two slashes stand in front of the host, even if that is missing. -/
  hasAuthority : Bool
  /-- The port, unless it is the one of the scheme. -/
  port : Option Nat
  path : UrlPath
  query : Option (List Char)
  fragment : Option (List Char)
deriving DecidableEq, Inhabited

namespace Url

/-- The kinds of schemes that are read differently. -/
inductive SchemeKind where
  | file
  | special
  | plain
deriving DecidableEq, Inhabited

/-- The kind of a scheme. -/
def SchemeKind.of (scheme : String) : SchemeKind :=
  if scheme = "file" then file
  else if ["http", "https", "ws", "wss", "ftp"].contains scheme then special
  else plain

/-- The port that a scheme stands for. -/
def defaultPort? (scheme : String) : Option Nat :=
  if scheme = "http" ∨ scheme = "ws" then some 80
  else if scheme = "https" ∨ scheme = "wss" then some 443
  else if scheme = "ftp" then some 21
  else none

/-- Whether a backslash counts as a slash. -/
def SchemeKind.readsBackslash (kind : SchemeKind) : Bool := kind ≠ plain

/-- Whether a character ends a segment. -/
def SchemeKind.isSlash (kind : SchemeKind) (c : Char) : Bool :=
  c = '/' || (kind.readsBackslash && c = '\\')

/-- Whether a character ends the authority. -/
def SchemeKind.endsAuthority (kind : SchemeKind) (c : Char) : Bool :=
  c = '?' || c = '#' || kind.isSlash c

/-- Whether a character may be dropped from either end. -/
def isEdgeBlank (c : Char) : Bool := c.toNat ≤ 0x20

/-- The characters of a URL that count. -/
def significant (text : String) : List Char :=
  let trimmed := ((text.toList.dropWhile isEdgeBlank).reverse.dropWhile isEdgeBlank).reverse
  trimmed.filter fun c => c ≠ '\t' ∧ c ≠ '\n' ∧ c ≠ '\r'

/-- Whether a character may stand in a scheme. -/
def isSchemeChar (c : Char) : Bool := c.isAlphanum || c = '+' || c = '-' || c = '.'

/-- The scheme in front of the first colon, and the rest. -/
def splitScheme? (text : List Char) : Option (String × List Char) :=
  let scheme := text.takeWhile isSchemeChar
  match scheme, text.drop scheme.length with
  | first :: _, ':' :: rest =>
    if first.isAlpha then some (String.ofList (scheme.map Char.toLower), rest) else none
  | _, _ => none

/-! ## Paths -/

/-- Whether a segment stands for the segment itself. -/
def isSingleDot (segment : List Char) : Bool :=
  let s := String.ofList (segment.map Char.toLower)
  s = "." || s = "%2e"

/-- Whether a segment stands for the one above it. -/
def isDoubleDot (segment : List Char) : Bool :=
  let s := String.ofList (segment.map Char.toLower)
  s = ".." || s = "%2e." || s = ".%2e" || s = "%2e%2e"

/-- Whether a segment is a drive letter. -/
def isDriveLetter : List Char → Bool
  | [c, d] => c.isAlpha && (d = ':' || d = '|')
  | _ => false

/-- The segments without the last one. The drive letter of a file stays. -/
def shorten (kind : SchemeKind) (done : List (List Char)) : List (List Char) :=
  match done with
  | [only] => if kind = .file && isDriveLetter only then done else []
  | done => done.drop 1

/-- The segments, in reverse, after one more. -/
def addSegment (kind : SchemeKind) (done : List (List Char)) (segment : List Char) (isLast : Bool) :
    List (List Char) :=
  if isDoubleDot segment then
    let above := shorten kind done
    if isLast then [] :: above else above
  else if isSingleDot segment then if isLast then [] :: done else done
  else if kind = .file && done.isEmpty && isDriveLetter segment then
    [segment.take 1 ++ [':']]
  else segment :: done

/-- The path of raw segments. -/
def resolve (kind : SchemeKind) (done : List (List Char)) : List (List Char) → List (List Char)
  | [] => done.reverse
  | segment :: rest => resolve kind (addSegment kind done segment rest.isEmpty) rest

/-- The raw segments of a path. -/
def splitSegments (kind : SchemeKind) (path : List Char) : List (List Char) :=
  path.splitOnP kind.isSlash

/-- The path that a text stands for. One slash in front of it is its root. -/
def pathOf (kind : SchemeKind) (path : List Char) : List (List Char) :=
  let rest :=
    match path with
    | c :: rest => if kind.isSlash c then rest else path
    | [] => []
  let segments := resolve kind [] ((splitSegments kind rest).map (percentEncode pathSet))
  if kind = .file then
    match segments.dropWhile (· == []) with
    | [] => [[]]
    | nonempty => nonempty
  else segments

/-- Whether a character ends the path. -/
def endsPath (c : Char) : Bool := c = '?' || c = '#'

/-- The query and the fragment of what follows the path. -/
def queryAndFragment (kind : SchemeKind) (rest : List Char) :
    Option (List Char) × Option (List Char) :=
  let querySetOf := if kind = .plain then querySet else specialQuerySet
  let fragmentOf (text : List Char) : Option (List Char) :=
    match text with
    | '#' :: f => some (percentEncode fragmentSet f)
    | _ => none
  match rest with
  | '?' :: after =>
    let query := after.takeWhile (· != '#')
    (some (percentEncode querySetOf query), fragmentOf (after.drop query.length))
  | rest => (none, fragmentOf rest)

/-- Puts the path, the query and the fragment into a URL. -/
def withRest (u : Url) (kind : SchemeKind) (text : List Char) : Url :=
  let path := text.takeWhile fun c => !endsPath c
  let (query, fragment) := queryAndFragment kind (text.drop path.length)
  let segments := if kind = .plain && path.isEmpty then [] else pathOf kind path
  { u with path := .segments segments, query := query, fragment := fragment }

/-! ## Authorities -/

/-- The parts in front of and behind the last at sign. -/
def splitUserinfo (authority : List Char) : Option (List Char) × List Char :=
  let host := (authority.reverse.takeWhile (· != '@')).reverse
  if host.length = authority.length then (none, authority)
  else (some (authority.take (authority.length - host.length - 1)), host)

/-- The text of the host: it ends at the first colon outside of brackets. -/
def hostText : Bool → List Char → List Char
  | _, [] => []
  | inBrackets, c :: rest =>
    if c = ':' && !inBrackets then []
    else c :: hostText (if c = '[' then true else if c = ']' then false else inBrackets) rest

/-- The number of a port. -/
def portNumber : List Char → Except Problem (Option Nat)
  | [] => .ok none
  | digits =>
    match digits.foldl (fun (n? : Option Nat) c =>
        n?.bind fun n => (digitValue? 10 c).bind fun d =>
          if n * 10 + d ≤ 65535 then some (n * 10 + d) else none) (some 0) with
    | some n => .ok (some n)
    | none => .error .invalidPort

/-- The user name and the password of a user information. An empty password is none. -/
def credentials (info : List Char) : List Char × Option (List Char) :=
  let username := info.takeWhile (· != ':')
  let password := info.drop (username.length + 1)
  (percentEncode userinfoSet username,
    if password.isEmpty then none else some (percentEncode userinfoSet password))

/-- The URL with the authority at the start of a text. -/
def withAuthority (u : Url) (kind : SchemeKind) (text : List Char) :
    Except Problem (Url × List Char) := do
  let authority := text.takeWhile fun c => !kind.endsAuthority c
  let rest := text.drop authority.length
  let (info, hostAndPort) := splitUserinfo authority
  if info = some [] && hostAndPort.isEmpty && !rest.isEmpty then throw .emptyHost
  let (username, password) := credentials (info.getD [])
  let named := hostText false hostAndPort
  let afterHost := hostAndPort.drop named.length
  if kind = .special && named.isEmpty then throw .emptyHost
  let host ← if kind = .plain then Host.ofPlainText named else Host.ofSpecialText named
  if host = .name [] && !afterHost.isEmpty then throw .emptyHost
  let portText := (afterHost.drop 1).takeWhile (· != '\\')
  let port ← portNumber portText
  if host = .name [] && (!username.isEmpty || password.isSome) then throw .emptyHost
  let placed := { u with
    username := username
    password := password
    host := if host = .name [] then none else some host
    hasAuthority := true
    port := if port = defaultPort? u.scheme then none else port }
  return (placed, (afterHost.drop 1).drop portText.length ++ rest)

/-! ## Reading and writing -/

/-- A URL of which only the scheme is known. -/
def ofScheme (scheme : String) : Url where
  scheme := scheme
  username := []
  password := none
  host := none
  hasAuthority := false
  port := none
  path := .segments []
  query := none
  fragment := none

/-- The URL of a file, given what follows the scheme. -/
def parseFile (text : List Char) : Except Problem Url :=
  let u := { ofScheme "file" with hasAuthority := true }
  match text with
  | a :: b :: rest =>
    if SchemeKind.file.isSlash a && SchemeKind.file.isSlash b then
      let named := rest.takeWhile fun c => !SchemeKind.file.endsAuthority c
      let after := rest.drop named.length
      if isDriveLetter named then .ok (u.withRest .file rest)
      else if named.isEmpty then .ok (u.withRest .file after)
      else
        match Host.ofSpecialText named with
        | .error e => .error e
        | .ok host =>
          let host := if host = .name "localhost".toList then none else some host
          .ok ({ u with host := host }.withRest .file after)
    else .ok (u.withRest .file text)
  | text => .ok (u.withRest .file text)

/-- Reads what follows the scheme. -/
def parseAfter (scheme : String) (text : List Char) : Except Problem Url := do
  let kind := SchemeKind.of scheme
  let u := ofScheme scheme
  match kind with
  | .file => parseFile text
  | .special =>
    let (u, rest) ← u.withAuthority kind (text.dropWhile kind.isSlash)
    return u.withRest kind rest
  | .plain =>
    match text with
    | '/' :: '/' :: text =>
      let (u, rest) ← u.withAuthority kind text
      return u.withRest kind rest
    | '/' :: _ => return u.withRest kind text
    | text =>
      let path := text.takeWhile fun c => !endsPath c
      let (query, fragment) := queryAndFragment kind (text.drop path.length)
      return { u with
        path := .rootless (percentEncode controlSet path), query := query, fragment := fragment }

/-- Reads a URL. -/
def parse (text : String) : Except Problem Url :=
  match splitScheme? (significant text) with
  | none => .error .missingScheme
  | some (scheme, rest) => parseAfter scheme rest

/-- The path as it is written. -/
def pathText (u : Url) : String :=
  match u.path with
  | .rootless text => String.ofList text
  | .segments list => String.ofList (list.flatMap fun s => '/' :: s)

/-- A part behind its mark. -/
def partText (mark : String) : Option (List Char) → String
  | none => ""
  | some text => mark ++ String.ofList text

/-- The user name and the password in front of a host. -/
def credentialsText (u : Url) : String :=
  if u.username.isEmpty && u.password.isNone then ""
  else String.ofList u.username ++ partText ":" u.password ++ "@"

/-- The host and the port. -/
def hostAndPortText (u : Url) : String :=
  (u.host.map Host.toText).getD "" ++
    (match u.port with
      | none => ""
      | some n => ":" ++ toString n)

/-- What stands between the scheme and the path. A path that begins with two slashes needs a dot in
front of it if there is no authority. -/
def authorityText (u : Url) : String :=
  if u.hasAuthority then "//" ++ u.credentialsText ++ u.hostAndPortText
  else
    match u.path with
    | .segments ([] :: _ :: _) => "/."
    | _ => ""

/-- The written form of a URL. -/
def toText (u : Url) : String :=
  u.scheme ++ ":" ++ u.authorityText ++ u.pathText ++ partText "?" u.query ++
    partText "#" u.fragment

/-- What a request for the URL names: its path and its query. -/
def target (u : Url) : String := u.pathText ++ partText "?" u.query

/-- The URL without a user name and a password. -/
def withoutCredentials (u : Url) : Url := { u with username := [], password := none }

end Url

end Failover
