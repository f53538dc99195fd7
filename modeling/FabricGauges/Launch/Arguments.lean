/-!
# Command line arguments

The exporter takes the file of its settings, and an address and a log level that take precedence
over the file. Arguments are read from left to right, and the first one that asks for help or for
the version, or that makes no sense, decides.
-/

namespace FabricGauges

/-- The options that take a value. -/
inductive ArgumentOption where
  | config
  | listen
  | logLevel
deriving DecidableEq, Repr

/-- The values of the options that were given. -/
structure Arguments where
  config : Option String := none
  listen : Option String := none
  logLevel : Option String := none
deriving DecidableEq, Repr

/-- What a command line asks for. -/
inductive Invocation where
  | run (arguments : Arguments)
  | help
  | version
  /-- The command line makes no sense. -/
  | misuse
deriving DecidableEq, Repr

/-- One argument. -/
inductive Argument where
  /-- An option, with its value if that is part of the argument. -/
  | option (option : ArgumentOption) (value : Option String)
  | help
  | version
  /-- What follows are no options. -/
  | separator
  | other
deriving DecidableEq, Repr

namespace Argument

/-- The argument of a long name and what follows an equals sign. -/
def ofLong (name : String) (value : Option String) : Argument :=
  match name, value with
  | "config", value => .option .config value
  | "listen", value => .option .listen value
  | "log-level", value => .option .logLevel value
  | "help", none => .help
  | "version", none => .version
  | _, _ => .other

/-- The argument that a text writes. A value may follow a short name at once or after an equals
sign. -/
def ofText (text : String) : Argument :=
  match text.toList with
  | ['-', '-'] => .separator
  | '-' :: '-' :: long =>
    let name := String.ofList (long.takeWhile (· ≠ '='))
    match long.dropWhile (· ≠ '=') with
    | [] => ofLong name none
    | _ :: value => ofLong name (some (String.ofList value))
  | ['-', 'c'] => .option .config none
  | '-' :: 'c' :: '=' :: value => .option .config (some (String.ofList value))
  | '-' :: 'c' :: value => .option .config (some (String.ofList value))
  | '-' :: 'h' :: _ => .help
  | '-' :: 'V' :: _ => .version
  | _ => .other

end Argument

namespace Arguments

/-- The value of an option. -/
def value (a : Arguments) : ArgumentOption → Option String
  | .config => a.config
  | .listen => a.listen
  | .logLevel => a.logLevel

/-- The arguments with a value for an option. -/
def set (a : Arguments) (option : ArgumentOption) (value : String) : Arguments :=
  match option with
  | .config => { a with config := some value }
  | .listen => { a with listen := some value }
  | .logLevel => { a with logLevel := some value }

/-- The file of the settings. -/
def configPath (a : Arguments) : String := a.config.getD "nsxt-exporter.json5"

end Arguments

/-- Whether a text cannot be the value of the option before it, since it looks like an option. -/
def looksLikeOption (text : String) : Bool := text.startsWith "-" && text != "-"

namespace Invocation

/-- What the rest of a command line asks for after some options. No option is given twice. -/
def parse (given : Arguments) : List String → Invocation
  | [] => .run given
  | text :: rest =>
    match Argument.ofText text with
    | .help => .help
    | .version => .version
    -- all arguments are options, so none may come behind the separator
    | .separator => if rest.isEmpty then .run given else .misuse
    | .other => .misuse
    | .option option (some value) =>
      if (given.value option).isSome then .misuse else parse (given.set option value) rest
    | .option option none =>
      match rest with
      | [] => .misuse
      | value :: rest =>
        if looksLikeOption value || (given.value option).isSome then .misuse
        else parse (given.set option value) rest

/-- What a command line asks for. -/
def ofArguments (texts : List String) : Invocation := parse {} texts

end Invocation

/-- What the options mean. -/
def usage : String :=
  "Export NSX-T cluster, load balancer and gateway state as Prometheus metrics\n\n" ++
  "Usage: nsxt-exporter [OPTIONS]\n\n" ++
  "Options:\n" ++
  "  -c, --config <CONFIG>        Path to configuration file (JSON5 format)\n" ++
  "      --listen <LISTEN>        HTTP listen address (overrides config)\n" ++
  "      --log-level <LOG_LEVEL>  Log level (trace, debug, info, warn, error); overrides config\n" ++
  "  -h, --help                   Print help\n" ++
  "  -V, --version                Print version"

/-- The line that names the version. -/
def versionLine : String := "nsxt-exporter 0.2.0"

end FabricGauges
