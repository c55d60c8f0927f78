import Failover.Http.Message
import Failover.Text.Base64
import Failover.Text.Charset
import Failover.Text.Quoted
import Failover.Url.Basic

/-!
# The HTTP client

A `Draft` is what the caller wants to send; `Client.send` adds what follows from the URL and sends
it. A user name and a password in the URL are taken out of it and sent as credentials, in front of
those of the draft. Requests are made over `http` and `https` only.
-/

namespace Failover

namespace Http

/-- A user name and a password. -/
structure Credentials where
  username : String
  password : String
deriving DecidableEq, Inhabited

/-- The header that carries credentials. -/
def Credentials.header (c : Credentials) : String :=
  "Basic " ++ Text.Base64.ofText (c.username ++ ":" ++ c.password)

/-- A request without what follows from its URL. -/
structure Draft where
  verb : String
  url : String
  credentials : Option Credentials
  contentType : Option String
  userAgent : Option String
  body : String
  /-- How long to wait for the response; forever if there is none. -/
  patience : Option Duration
deriving DecidableEq, Inhabited

namespace Client

/-- Why no response came. -/
inductive Cause where
  | unknownHost
  | refused (address : Net.SocketAddress)
  | dropped
  | garbled (part : HeadPart)
deriving DecidableEq, Inhabited

/-- Why a request brought nothing. URLs are without credentials. -/
inductive Problem where
  /-- The URL cannot be read. -/
  | invalidUrl (problem : Url.Problem)
  /-- The URL has no host, or its scheme is another one. -/
  | unsupportedScheme (url : String)
  /-- The host cannot stand in a request. -/
  | unwritableHost (url : String)
  | noResponse (url : String) (cause : Cause)
  /-- The body broke off. -/
  | incompleteBody
deriving DecidableEq, Inhabited

/-! ## Problems in words -/

/-- The problem in words. -/
def Problem.message : Problem → String
  | invalidUrl _ => "builder error"
  | unsupportedScheme url | unwritableHost url => "builder error for url (" ++ url ++ ")"
  | noResponse url _ => "error sending request for url (" ++ url ++ ")"
  | incompleteBody => "error decoding response body"

/-- The name of what is wrong with a URL. -/
def urlProblemName : Url.Problem → String
  | .emptyHost => "EmptyHost"
  | .invalidDomain => "IdnaError"
  | .invalidPort => "InvalidPort"
  | .invalidIpv4 => "InvalidIpv4Address"
  | .invalidIpv6 => "InvalidIpv6Address"
  | .invalidDomainCharacter => "InvalidDomainCharacter"
  | .missingScheme => "RelativeUrlWithoutBase"

/-- The cause in diagnostic form. -/
def Cause.toText : Cause → String
  | unknownHost =>
    Text.tuple "hyper_util::client::legacy::Error"
      ["Connect",
        Text.tuple "ConnectError"
          [Text.quoted "dns error",
            Text.record "Custom"
              [("kind", "Uncategorized"),
                ("error", Text.quoted <| "failed to lookup address information: " ++
                  "Temporary failure in name resolution")]]]
  | refused address =>
    Text.tuple "hyper_util::client::legacy::Error"
      ["Connect",
        Text.tuple "ConnectError"
          [Text.quoted "tcp connect error", address.toText,
            Text.record "Os"
              [("code", "111"), ("kind", "ConnectionRefused"),
                ("message", Text.quoted "Connection refused")]]]
  | dropped =>
    Text.tuple "hyper_util::client::legacy::Error" ["SendRequest", Text.tuple "hyper::Error" ["IncompleteMessage"]]
  | garbled part =>
    let name :=
      match part with
      | .version => "Version"
      | .status => "Status"
    Text.tuple "hyper_util::client::legacy::Error"
      ["SendRequest", Text.tuple "hyper::Error" [Text.tuple "Parse" [name]]]

/-- The problem in diagnostic form. -/
def Problem.toText (p : Problem) : String :=
  Text.record "reqwest::Error" <|
    match p with
    | invalidUrl problem => [("kind", "Builder"), ("source", urlProblemName problem)]
    | unsupportedScheme url =>
      [("kind", "Builder"), ("url", Text.quoted url), ("source", "BadScheme")]
    | unwritableHost url =>
      [("kind", "Builder"), ("url", Text.quoted url),
        ("source", Text.quoted "Parsed Url is not a valid Uri")]
    | noResponse url cause =>
      [("kind", "Request"), ("url", Text.quoted url), ("source", cause.toText)]
    | incompleteBody =>
      [("kind", "Decode"),
        ("source",
          Text.tuple "hyper::Error"
            ["Body", Text.record "Custom" [("kind", "UnexpectedEof"), ("error", "IncompleteBody")]])]

/-! ## From drafts to requests -/

/-- The text that a part of a URL stands for, if it is one. -/
def decodedPart? (part : List Char) : Option String :=
  (Url.ofOctets? (Url.percentDecode (Url.octets part))).map String.ofList

/-- The credentials in a URL. A password that is no text does not count, and nothing counts if the
user name is none. -/
def ofUrl? (u : Url) : Option Credentials :=
  match decodedPart? u.username, u.password.bind decodedPart? with
  | some username, none => if username = "" then none else some ⟨username, ""⟩
  | some username, some password => some ⟨username, password⟩
  | none, _ => none

/-- Whether a host can stand in a request. -/
def isWritable : Url.Host → Bool
  | .name text => !text.any fun c => c = '"' || c = '{' || c = '}' || c.toNat = 0x60
  | _ => true

/-- The request of a draft, the server that it is for, and the URL without the credentials that were
taken out of it. -/
def prepare (d : Draft) : Except Problem (Request × Origin × String) :=
  match Url.parse d.url with
  | .error problem => .error (.invalidUrl problem)
  | .ok parsed =>
    let own := ofUrl? parsed
    let url := if own.isSome then parsed.withoutCredentials else parsed
    match url.host with
    | none => .error (.unsupportedScheme url.toText)
    | some host =>
      if url.scheme ≠ "http" ∧ url.scheme ≠ "https" then .error (.unsupportedScheme url.toText)
      else if !isWritable host then .error (.unwritableHost url.toText)
      else
        .ok
          ({ verb := d.verb
             target := url.target
             authorization := (own.toList ++ d.credentials.toList).map Credentials.header
             contentType := d.contentType
             userAgent := d.userAgent
             body := d.body
             patience := d.patience },
            { isSecure := url.scheme = "https"
              host := host
              port := (url.port.or (Url.defaultPort? url.scheme)).getD 0 },
            url.toText)

/-! ## Sending -/

/-- How a request ended. -/
inductive Outcome where
  | failed (problem : Problem)
  /-- There is never a response. -/
  | silence
  | response (r : Response)

/-- The end of a request to a URL, from what became of it. -/
def Outcome.ofExchange (url : String) : Exchange → Outcome
  | .unknownHost => failed (.noResponse url .unknownHost)
  | .refused address => failed (.noResponse url (.refused address))
  | .dropped => failed (.noResponse url .dropped)
  | .garbled part => failed (.noResponse url (.garbled part))
  | .silence => silence
  | .response r => response r

variable {σ : Type}

/-- Sends a prepared request. -/
def perform (net : Network σ) (s : σ) (request : Request) (origin : Origin) (url : String) :
    Outcome × σ :=
  let (exchange, s) := net.exchange s origin request
  (.ofExchange url exchange, s)

/-- Sends a draft. -/
def send (net : Network σ) (s : σ) (d : Draft) : Outcome × σ :=
  match prepare d with
  | .error problem => (.failed problem, s)
  | .ok (request, origin, url) => perform net s request origin url

/-- The body of a response as text. -/
def text (r : Response) : Except Problem String :=
  match r.content? with
  | none => .error .incompleteBody
  | some bytes => .ok ((Text.Charset.ofMediaType r.contentType).decode bytes)

end Client

end Http

end Failover
