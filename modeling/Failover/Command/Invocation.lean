import Failover.Command.Arguments

/-!
# Invocations

What the two programs are asked for: the management command, which queries a status server or makes
a single call, and the service itself.
-/

namespace Failover

namespace Command

/-- What a command line asks for. -/
inductive Invocation (α : Type) where
  | run (task : α)
  /-- A page of help. -/
  | help (page : String)
  | misuse

/-! ## Pages of help -/

/-- The lines of a page. -/
def page (lines : List String) : String := String.join (lines.map (· ++ "\n"))

/-- The option for help, with the blanks that line up its description. -/
def helpLine (blanks : Nat) : String := "  -h, --help" ++ "".pushn ' ' blanks ++ "Print help"

/-- The option for the configuration file. -/
def configLine : String :=
  "  -c, --config <CONFIG>  Path to the TOML configuration file [default: failover.toml]"

/-- The address at which the status server is looked for. -/
def defaultUrl : String := "http://localhost:8081"

/-- The file in which the configuration is looked for. -/
def defaultConfig : String := "failover.toml"

/-- The option for the configuration file: it cannot be empty. -/
def configOption : ValuedOption := ⟨"config", 'c', false⟩

/-! ## The management command -/

/-- What the management command does. -/
inductive Task where
  | status (url : String)
  | health (url : String)
  | call (config method : String) (params : List String)
deriving DecidableEq, Inhabited

namespace Task

/-- Help on the command as a whole. -/
def overviewPage : String :=
  page
    ["Management CLI for the RPC failover daemon",
      "",
      "Usage: failover-cli [OPTIONS] <COMMAND>",
      "",
      "Commands:",
      "  status  Show per-endpoint health",
      "  health  Show the health summary",
      "  call    Run one JSON-RPC call through a local manager",
      "  help    Print this message or the help of the given subcommand(s)",
      "",
      "Options:",
      "  -u, --url <URL>  Base URL of a running daemon's status server [default: " ++ defaultUrl ++
        "]",
      helpLine 7]

/-- Help on a subcommand without arguments. -/
def plainPage (name summary : String) : String :=
  page [summary, "", "Usage: failover-cli " ++ name, "", "Options:", helpLine 2]

/-- Help on `call`. -/
def callPage : String :=
  page
    ["Run one JSON-RPC call through a local manager",
      "",
      "Usage: failover-cli call [OPTIONS] <METHOD> [PARAMS]...",
      "",
      "Arguments:",
      "  <METHOD>     ",
      "  [PARAMS]...  Positional parameters; each is parsed as JSON, falling back to a string",
      "",
      "Options:",
      configLine,
      helpLine 13]

/-- Help on `help`. -/
def helpPage : String :=
  page
    ["Print this message or the help of the given subcommand(s)",
      "",
      "Usage: failover-cli help [COMMAND]...",
      "",
      "Arguments:",
      "  [COMMAND]...  Print help for the subcommand(s)"]

/-- Help on a subcommand. -/
def pageOf? (name : String) : Option String :=
  if name = "status" then some (plainPage name "Show per-endpoint health")
  else if name = "health" then some (plainPage name "Show the health summary")
  else if name = "call" then some callPage
  else if name = "help" then some helpPage
  else none

/-- In front of the subcommand there may be the address of the status server. -/
def outerGrammar : Grammar := ⟨some ⟨"url", 'u', true⟩, true, none⟩

/-- `status` and `health` take nothing. -/
def plainGrammar : Grammar := ⟨none, false, some 0⟩

/-- `call` takes a method and its parameters. -/
def callGrammar : Grammar := ⟨some configOption, false, none⟩

/-- The task of a subcommand, which still needs the address of the status server. -/
def ofSubcommand (name : String) (arguments : List String) : Except Stop (String → Task) :=
  if name = "status" then (plainGrammar.scan .nothing arguments).map fun _ => status
  else if name = "health" then (plainGrammar.scan .nothing arguments).map fun _ => health
  else if name = "call" then
    match callGrammar.scan .nothing arguments with
    | .error stop => .error stop
    | .ok (found, _) =>
      match found.words.reverse with
      | [] => .error .misuse
      | method :: params =>
        .ok fun _ => call (found.value.getD defaultConfig) method params
  else .error .misuse

/-- What `help` shows about the path of a subcommand. -/
def helpOn : List String → Invocation Task
  | [] => .help overviewPage
  | [name] =>
    match pageOf? name with
    | some page => .help page
    | none => .misuse
  | _ => .misuse

/-- What arguments ask for. -/
def ofArguments (arguments : List String) : Invocation Task :=
  match outerGrammar.scan .nothing arguments with
  | .error .help => .help overviewPage
  | .error .misuse | .ok (_, []) => .misuse
  | .ok (found, name :: rest) =>
    if name = "help" then helpOn rest
    else
      match ofSubcommand name rest, found.settle outerGrammar with
      | .error .help, _ => helpOn [name]
      | .ok task, .ok found => .run (task (found.value.getD defaultUrl))
      | _, _ => .misuse

end Task

/-! ## The service -/

/-- Help on the service. -/
def servicePage : String :=
  page
    ["Health-checked failover across JSON-RPC endpoints",
      "",
      "Usage: rpc-failover [OPTIONS]",
      "",
      "Options:",
      configLine,
      helpLine 13]

/-- The configuration file that the arguments of the service name. -/
def serviceConfig (arguments : List String) : Invocation String :=
  match (⟨some configOption, false, some 0⟩ : Grammar).scan .nothing arguments with
  | .error .help => .help servicePage
  | .error .misuse => .misuse
  | .ok (found, _) => .run (found.value.getD defaultConfig)

end Command

end Failover
