import Failover.Config.Decode
import Failover.Config.Validation
import Failover.Toml.Reading

/-!
# Loading configurations

A configuration is decoded, the passwords that name an environment variable are filled in, and the
result is checked. Missing variables are reported together with everything else that is wrong; a
filled-in password changes nothing else.
-/

namespace Failover

/-- The values of environment variables. A variable that is not set has none, and neither has one
whose value is not Unicode: to whoever looks it up it counts as not set. -/
abbrev Environment := String → Option String

/-- Why a file could not be read. -/
inductive FileProblem where
  | notFound
  | isDirectory
  | notUtf8
deriving DecidableEq, Inhabited

namespace FileProblem

/-- The problem in words. -/
def message : FileProblem → String
  | notFound => "No such file or directory (os error 2)"
  | isDirectory => "Is a directory (os error 21)"
  | notUtf8 => "stream did not contain valid UTF-8"

/-- The problem in diagnostic form. -/
def toText : FileProblem → String
  | notFound =>
    Text.record "Os"
      [("code", "2"), ("kind", "NotFound"), ("message", Text.quoted "No such file or directory")]
  | isDirectory =>
    Text.record "Os"
      [("code", "21"), ("kind", "IsADirectory"), ("message", Text.quoted "Is a directory")]
  | notUtf8 =>
    Text.record "Error"
      [("kind", "InvalidData"), ("message", Text.quoted "stream did not contain valid UTF-8")]

end FileProblem

/-- Why a configuration could not be loaded. -/
inductive ConfigError where
  | file (problem : FileProblem)
  /-- The text is no configuration. -/
  | malformed
  /-- The configuration has these problems. -/
  | invalid (problems : List ConfigProblem)
deriving DecidableEq, Inhabited

/-- The error in words. The reason why a text is malformed is left out. -/
def ConfigError.message : ConfigError → String
  | file problem => "IO error: " ++ problem.message
  | malformed => "Parse error"
  | invalid problems =>
    "Validation failed: " ++ ", ".intercalate (problems.map ConfigProblem.message)

/-- The error in diagnostic form. The reason why a text is malformed is left out. -/
def ConfigError.toText : ConfigError → String
  | file problem => Text.tuple "Io" [problem.toText]
  | malformed => Text.tuple "Parse" [".."]
  | invalid problems => Text.tuple "Validation" [Text.list ConfigProblem.toText problems]

namespace EndpointConfig

/-- Fills in the password if it is held by an environment variable that is set. -/
def resolve (env : Environment) (c : EndpointConfig) : EndpointConfig :=
  match c.passwordEnv with
  | none => c
  | some name =>
    match env name with
    | some password => { c with password := password }
    | none => c

/-- What is wrong if the environment variable for the password is not set. -/
def missingEnv (env : Environment) (c : EndpointConfig) : List ConfigProblem :=
  match c.passwordEnv with
  | none => []
  | some name => if (env name).isSome then [] else [.missingPasswordEnv c.url name]

end EndpointConfig

namespace Config

/-- Fills in the passwords that are held by environment variables. -/
def resolve (env : Environment) (c : Config) : Config :=
  { c with endpoints := c.endpoints.map (EndpointConfig.resolve env) }

/-- The environment variables that are not set. -/
def missingEnvs (env : Environment) (c : Config) : List ConfigProblem :=
  c.endpoints.flatMap (EndpointConfig.missingEnv env)

/-- Loads a configuration from its text, given how texts are decoded and URLs are read. -/
def load (decode : String → Option Config) (readUrl : UrlReader) (env : Environment)
    (text : String) : Except ConfigError Config :=
  match decode text with
  | none => .error .malformed
  | some c =>
    let resolved := c.resolve env
    match c.missingEnvs env ++ resolved.problems readUrl with
    | [] => .ok resolved
    | problems => .error (.invalid problems)

/-- Decodes a configuration in TOML. -/
def ofToml? (text : String) : Option Config :=
  (Toml.read? text).bind (Config.ofDocument? .toml)

/-- Whether a text can be the name of an environment variable. -/
def isEnvName (name : String) : Bool :=
  name ≠ "" && name.toList.all fun c => c ≠ '=' && c.toNat ≠ 0

/-- The environment in which only proper names are looked up. -/
def properEnv (env : Environment) : Environment := fun name =>
  if isEnvName name then env name else none

/-- Loads a configuration from a text in TOML. -/
def loadToml (env : Environment) (text : String) : Except ConfigError Config :=
  load ofToml? Url.schemeOf (properEnv env) text

/-- Loads a configuration from the octets of a file. -/
def loadBytes (env : Environment) (content : ByteArray) : Except ConfigError Config :=
  match String.fromUTF8? content with
  | none => .error (.file .notUtf8)
  | some text => loadToml env text

end Config

end Failover
