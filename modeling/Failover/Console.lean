import Failover.Command.Invocation
import Failover.Config.Load
import Failover.Manager
import Failover.Rpc.OverHttp

/-!
# The management command

`status` and `health` print what a status server answers, and `call` makes a single call over the
endpoints of a configuration file. JSON is printed over several lines, everything else as it is.
-/

namespace Failover

/-- What a program leaves behind when it ends. -/
structure Exit where
  code : Nat
  stdout : String
  stderr : String
deriving DecidableEq, Inhabited

namespace Exit

/-- The end of a program that did its work. -/
def success (stdout : String) : Exit := ⟨0, stdout, ""⟩

/-- The end of a program that could not go on, given the reason in diagnostic form. -/
def failure (reason : String) : Exit := ⟨1, "", "Error: " ++ reason ++ "\n"⟩

/-- The end of a program that was called with wrong arguments. -/
def misuse : Exit := ⟨2, "", "error: unexpected arguments\n\nFor more information, try '--help'.\n"⟩

end Exit

/-- What surrounds a program: files, environment variables, the network, and what a manager needs.
-/
structure Surroundings (σ : Type) where
  files : String → Except FileProblem ByteArray
  env : Environment
  network : Http.Network σ
  /-- The identifier of the next request. -/
  identifier : σ → String
  clock : Clock
  draw : Nat → Nat

namespace Surroundings

variable {σ : Type}

/-- The transport of a manager. -/
def transport (h : Surroundings σ) : Rpc.Transport σ := Rpc.OverHttp.transport h.network h.identifier

/-- The configuration in a file. -/
def loadConfig (h : Surroundings σ) (path : String) : Except ConfigError Config :=
  match h.files path with
  | .error problem => .error (.file problem)
  | .ok content => Config.loadBytes h.env content

/-- A manager that runs as configured. -/
def manager (h : Surroundings σ) (wire : σ) (c : Config) : Except Error (Manager σ × Journal) :=
  Manager.build c.endpoints (Settings.ofConfig c) h.transport wire h.clock h.draw

end Surroundings

namespace Console

/-- A parameter: JSON, or a text if it is none. -/
def param (argument : String) : Json := (Json.ofText? argument).getD (.string argument)

/-- A body on its own lines: JSON over several of them, everything else as it is. -/
def pageText (body : String) : String :=
  match Json.ofText? body with
  | some v => v.pretty 0 ++ "\n"
  | none => body ++ "\n"

/-- The warning about a code that does not stand for success. -/
def warning (status : Nat) : String :=
  if Http.Status.isSuccess status then ""
  else "Error: status server returned " ++ Http.Status.text status ++ "\n"

/-- The request for a page of a status server. -/
def pageDraft (url path : String) : Http.Draft :=
  ⟨"GET", url ++ path, none, none, none, "", none⟩

/-- The end of a command that asked for a page; none if it waits forever. -/
def pageExit : Http.Client.Outcome → Option Exit
  | .silence => none
  | .failed problem => some (.failure problem.toText)
  | .response r =>
    match Http.Client.text r with
    | .error problem => some (.failure problem.toText)
    | .ok body => some ⟨0, pageText body, warning r.status⟩

/-- The end of a command that made a call; none if it waits forever. A fault is reported like an
abort of the whole program. -/
def callExit : Option CallResult → Option Exit
  | none => none
  | some (.value v) => some (.success (v.pretty 0 ++ "\n"))
  | some (.error e) => some (.failure e.toText)
  | some (.fault f) => some ⟨101, "", f.text.getD "unknown" ++ "\n"⟩

variable {σ : Type}

/-- Prints a page of a status server. -/
def showPage (h : Surroundings σ) (s : σ) (url path : String) : Option Exit × σ :=
  let (ended, s) := Http.Client.send h.network s (pageDraft url path)
  (pageExit ended, s)

/-- A manager of the endpoints that a configuration file names, or how the command ends without one.
-/
def openManager (h : Surroundings σ) (s : σ) (config : String) : Except Exit (Manager σ) :=
  match h.loadConfig config with
  | .error e => .error (.failure e.toText)
  | .ok c =>
    match h.manager s c with
    | .error e => .error (.failure e.toText)
    | .ok (m, _) => .ok m

/-- The request of a call. -/
def callRequest (method : String) (params : List String) : Rpc.Request := ⟨method, params.map param⟩

/-- Makes a call. -/
def makeCall (h : Surroundings σ) (s : σ) (config method : String) (params : List String) :
    Option Exit × σ :=
  match openManager h s config with
  | .error exit => (some exit, s)
  | .ok m =>
    let (result, m, _) := m.call (callRequest method params)
    (callExit result, m.world.wire)

/-- Carries out a task. -/
def perform (h : Surroundings σ) (s : σ) : Command.Task → Option Exit × σ
  | .status url => showPage h s url "/status"
  | .health url => showPage h s url "/health"
  | .call config method params => makeCall h s config method params

/-- Runs the management command; there is no end if it waits forever. -/
def run (h : Surroundings σ) (s : σ) (arguments : List String) : Option Exit × σ :=
  match Command.Task.ofArguments arguments with
  | .run task => perform h s task
  | .help page => (some (.success page), s)
  | .misuse => (some .misuse, s)

end Console

end Failover
