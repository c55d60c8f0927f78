import Failover.Http.Message

/-!
# Messages on the wire

How requests and responses look as octets. A message is a head of lines, a blank line and a body.
The body of a response is as long as its head says, comes in chunks, or lasts until the connection
ends. Reading takes what has arrived so far and asks for more if that does not decide what the
message is.
-/

namespace Failover

namespace Http

namespace Wire

/-- What stands between two lines. -/
def lineEnd : String := "\r\n"

/-! ## Heads -/

/-- The text of octets, each of which stands for one character. -/
def text (octets : List UInt8) : String := String.ofList (octets.map fun b => Char.ofNat b.toNat)

/-- The first line, without its end, and what follows it. -/
def line? (octets : List UInt8) : Option (List UInt8 × List UInt8) :=
  let line := octets.takeWhile (· != 10)
  match octets.drop line.length with
  | [] => none
  | _ :: rest => some (if line.getLast? = some 13 then line.dropLast else line, rest)

/-- Taking off a line leaves fewer octets. -/
theorem length_lt_of_line? {octets line rest : List UInt8} (h : line? octets = some (line, rest)) :
    rest.length < octets.length := by
  simp only [line?] at h
  split at h
  · cases h
  · rename_i later found
    cases h
    have := congrArg List.length found
    simp only [List.length_drop, List.length_cons] at this
    omega

/-- The lines in front of the first blank line, and what follows that. -/
def head? (octets : List UInt8) : Option (List String × List UInt8) :=
  match _found : line? octets with
  | none => none
  | some ([], rest) => some ([], rest)
  | some (line, rest) => (head? rest).map fun (lines, rest) => (text line :: lines, rest)
termination_by octets.length
decreasing_by exact length_lt_of_line? _found

/-- Taking off a head leaves fewer octets. -/
theorem length_lt_of_head? {octets rest : List UInt8} {lines : List String}
    (h : head? octets = some (lines, rest)) : rest.length < octets.length := by
  fun_induction head? octets generalizing lines rest with
  | case1 => cases h
  | case2 octets later found => cases h; exact length_lt_of_line? found
  | case3 octets line later _ found ih =>
    obtain ⟨⟨more, last⟩, hm, he⟩ := Option.map_eq_some_iff.1 h
    cases he
    exact Nat.lt_trans (ih hm) (length_lt_of_line? found)

/-- The value of a header. Names do not depend on case. -/
def header? (lines : List String) (name : String) : Option String :=
  lines.findSome? fun line =>
    let chars := line.toList
    let found := chars.takeWhile (· != ':')
    if String.ofList (found.map Char.toLower) = name ∧ found.length < chars.length then
      let value := (chars.drop (found.length + 1)).dropWhile Char.isWhitespace
      some (String.ofList (value.reverse.dropWhile Char.isWhitespace).reverse)
    else none

/-! ## Requests -/

/-- The server, as a request names it. -/
def authority (o : Origin) : String :=
  let usual := if o.isSecure then 443 else 80
  o.host.toText ++ (if o.port = usual then "" else ":" ++ toString o.port)

/-- The octets of a request for a server. The connection is not used again. -/
def ofRequest (o : Origin) (r : Request) : ByteArray :=
  let optional (name : String) (value : Option String) : List String :=
    (value.map fun v => name ++ ": " ++ v).toList
  let length := if r.body.isEmpty then [] else [s!"content-length: {r.body.utf8ByteSize}"]
  let lines :=
    [r.line, "host: " ++ authority o, "accept: */*", "connection: close"] ++
      r.authorization.map (fun v => "authorization: " ++ v) ++
      optional "content-type" r.contentType ++ optional "user-agent" r.userAgent ++ length
  (lineEnd.intercalate (lines ++ ["", r.body])).toUTF8

/-- What has arrived of a request. -/
inductive Arrival where
  | incomplete
  | malformed
  | request (r : Request)

/-- Reads a request. Its body is left alone. -/
def request (octets : List UInt8) : Arrival :=
  match head? octets with
  | none => .incomplete
  | some ([], _) => .malformed
  | some (first :: lines, _) =>
    match first.splitOn " " with
    | [verb, target, _] =>
      .request
        { verb := verb
          target := target
          authorization := (header? lines "authorization").toList
          contentType := header? lines "content-type"
          userAgent := header? lines "user-agent"
          body := ""
          patience := none }
    | _ => .malformed

/-! ## Responses -/

/-- The octets of a response. The connection is not used again. -/
def ofResponse (r : Response) : ByteArray :=
  let kind := (r.contentType.map fun v => "content-type: " ++ v).toList
  let lines :=
    ["HTTP/1.1 " ++ Status.text r.status] ++ kind ++
      [s!"content-length: {r.body.length + r.missing}", "connection: close", "", ""]
  (lineEnd.intercalate lines).toUTF8 ++ ⟨r.body.toArray⟩

/-- How every response begins. -/
def opening : List UInt8 := "HTTP/1.".toUTF8.toList

/-- The code in the first line of a response. -/
def status (first : String) : Except HeadPart Nat :=
  match (first.toList.drop opening.length).span (· != ' ') with
  | ([minor], ' ' :: rest) =>
    let digits := rest.takeWhile (· != ' ')
    if minor ≠ '0' ∧ minor ≠ '1' then .error .version
    else if digits.length = 3 ∧ digits.all Char.isDigit then
      .ok (digits.foldl (fun n c => 10 * n + (c.toNat - 48)) 0)
    else .error .status
  | _ => .error .version

/-- The value of a hexadecimal digit. -/
def hexDigit? (c : Char) : Option Nat :=
  if c.isDigit then some (c.toNat - 48)
  else if 'a' ≤ c.toLower ∧ c.toLower ≤ 'f' then some (c.toLower.toNat - 87)
  else none

/-- The length of a chunk, which may have an extension. -/
def chunkLength? (line : List UInt8) : Option Nat :=
  let digits := (text line).toList.takeWhile fun c => c != ';' && c != ' '
  if digits.isEmpty then none
  else digits.foldl (fun n c => n.bind fun n => (hexDigit? c).map (16 * n + ·)) (some 0)

/-- The contents of chunks, and whether the last chunk is among them. -/
def chunks (octets : List UInt8) : List UInt8 × Bool :=
  match _found : line? octets with
  | none => ([], false)
  | some (line, rest) =>
    match chunkLength? line with
    | none => ([], false)
    | some 0 => ([], true)
    | some n =>
      let part := rest.take n
      if part.length < n then (part, false)
      else
        let (more, complete) := chunks (rest.drop (n + 2))
        (part ++ more, complete)
termination_by octets.length
decreasing_by
  have := length_lt_of_line? _found
  simp only [List.length_drop]
  omega

/-- The part of a body that has arrived and the number of octets that are known to be missing; none
if only the end of the connection shows where the body ends. -/
def body (lines : List String) (octets : List UInt8) : List UInt8 × Option Nat :=
  if header? lines "transfer-encoding" = some "chunked" then
    let (found, complete) := chunks octets
    (found, some (if complete then 0 else 1))
  else
    match (header? lines "content-length").bind String.toNat? with
    | some n => (octets.take n, some (n - octets.length))
    | none => (octets, none)

/-- Reads a response from what has arrived on a connection, which may have been closed. There is
none if more has to arrive. -/
def response (octets : List UInt8) (closed : Bool) : Option Exchange :=
  if octets.take opening.length ≠ opening.take octets.length then some (.garbled .version)
  else
    match _found : head? octets with
    | none => if closed then some .dropped else none
    | some ([], _) => some (.garbled .version)
    | some (first :: lines, rest) =>
      match status first with
      | .error part => some (.garbled part)
      | .ok code =>
        if Status.isInterim code then response rest closed
        else
          let kind := header? lines "content-type"
          if Status.isBodiless code then some (.response ⟨code, kind, [], 0⟩)
          else
            match body lines rest with
            | (found, some 0) => some (.response ⟨code, kind, found, 0⟩)
            | (found, missing) =>
              if closed then some (.response ⟨code, kind, found, missing.getD 0⟩) else none
termination_by octets.length
decreasing_by exact length_lt_of_head? _found

end Wire

end Http

end Failover
