import Telemetry.Config.Basic
import Telemetry.Numeral

/-!
# Command line options

Options are given on the command line or, where they are not, by environment variables. What is
wrong with a command line is the first fault that is found from left to right. An option that
takes a value is only looked at when the next argument is known not to be its value; so an unknown
argument behind it is found first.
-/

namespace Telemetry

/-- What is wrong with a command line, or asked for instead of a run. -/
inductive OptionFault where
  /-- The value of an option is no port. -/
  | malformedValue
  /-- The value of an option is missing or empty. -/
  | missingValue
  /-- The value of a flag is neither `true` nor `false`. -/
  | notABoolean
  /-- An argument is no option. -/
  | unknownArgument
  /-- An option is given twice. -/
  | repeatedOption
  /-- A flag is given a value. -/
  | unexpectedValue
  | helpRequested
  | versionRequested
  deriving DecidableEq, Repr

/-- What is given on the command line or in the environment. -/
structure Options where
  grpcPort : Option UInt16
  httpPort : Option UInt16
  uiPort : Option UInt16
  verbose : Option Bool
  debug : Option Bool
  staticDir : Option String
  /-- The configuration file to read. -/
  config : Option String
  /-- The configuration is only checked. -/
  checkConfig : Option Bool
  deriving DecidableEq, Repr

/-- An option that takes a value. -/
inductive ValueOption where
  | grpcPort
  | httpPort
  | uiPort
  | staticDir
  | config
  deriving DecidableEq, Repr

/-- An option that takes none. -/
inductive FlagOption where
  | verbose
  | debug
  | checkConfig
  | help
  | version
  deriving DecidableEq, Repr

/-- An option of either sort. -/
inductive OptionName where
  | value (option : ValueOption)
  | flag (option : FlagOption)
  deriving DecidableEq, Repr

namespace OptionName

/-- The option of a long name. -/
def ofLong? (name : List Char) : Option OptionName :=
  [("grpc", value .grpcPort), ("http", value .httpPort), ("ui", value .uiPort),
    ("static-dir", value .staticDir), ("config", value .config), ("verbose", flag .verbose),
    ("debug", flag .debug), ("check-config", flag .checkConfig), ("help", flag .help),
    ("version", flag .version)].lookup (String.ofList name)

/-- The option of a letter. -/
def ofShort? (letter : Char) : Option OptionName :=
  [('c', value .config), ('v', flag .verbose), ('d', flag .debug), ('h', flag .help),
    ('V', flag .version)].lookup letter

end OptionName

namespace Options

/-- Nothing is given. -/
def none : Options :=
  ⟨Option.none, Option.none, Option.none, Option.none, Option.none, Option.none, Option.none,
    Option.none⟩

/-- Reads a port: a decimal integer with or without a sign that has 16 bits. -/
def port (text : String) : Except OptionFault UInt16 :=
  let magnitude := match text.toList with
    | '-' :: digits => (Numeral.number? digits).filter (· == 0)
    | unsigned => Numeral.unsigned? unsigned
  match magnitude with
  | some n => if n < UInt16.size then .ok (UInt16.ofNat n) else .error .malformedValue
  | Option.none => .error .malformedValue

/-- Reads the name of a file or a directory. It is not empty. -/
def fileName (text : String) : Except OptionFault String :=
  if text = "" then .error .missingValue else .ok text

/-- Reads a truth value. -/
def bool (text : String) : Except OptionFault Bool :=
  if text = "true" then .ok true
  else if text = "false" then .ok false
  else .error .notABoolean

/-- The value of an option that must not be given before. -/
def once {α : Type} (before : Option α) (read : Except OptionFault α) :
    Except OptionFault (Option α) :=
  match before with
  | some _ => .error .repeatedOption
  | Option.none => read.map some

/-- The options with a value given for one. -/
def setValue (o : Options) (option : ValueOption) (text : String) : Except OptionFault Options :=
  match option with
  | .grpcPort => do return { o with grpcPort := ← once o.grpcPort (port text) }
  | .httpPort => do return { o with httpPort := ← once o.httpPort (port text) }
  | .uiPort => do return { o with uiPort := ← once o.uiPort (port text) }
  | .staticDir => do return { o with staticDir := ← once o.staticDir (fileName text) }
  | .config => do return { o with config := ← once o.config (fileName text) }

/-- The options with a flag given. -/
def setFlag (o : Options) (option : FlagOption) : Except OptionFault Options :=
  match option with
  | .verbose => do return { o with verbose := ← once o.verbose (.ok true) }
  | .debug => do return { o with debug := ← once o.debug (.ok true) }
  | .checkConfig => do return { o with checkConfig := ← once o.checkConfig (.ok true) }
  | .help => .error .helpRequested
  | .version => .error .versionRequested

/-- The options read so far, and the option that was read last and waits for its value. -/
structure Progress where
  options : Options
  waiting : Option (ValueOption × Option String)

namespace Progress

/-- The options with the one that waits. Its value must be there by now. -/
def settle (p : Progress) : Except OptionFault Options :=
  match p.waiting with
  | Option.none => .ok p.options
  | some (_, Option.none) => .error .missingValue
  | some (option, some text) => p.options.setValue option text

/-- Takes a flag. -/
def flag (p : Progress) (option : FlagOption) : Except OptionFault Progress := do
  let o ← (← p.settle).setFlag option
  pure ⟨o, Option.none⟩

/-- Takes an option with the value that is attached to it, or makes it wait for its value. -/
def option (p : Progress) (option : ValueOption) (attached : Option String) :
    Except OptionFault Progress := do
  let o ← p.settle
  match attached with
  | some text =>
    let o ← o.setValue option text
    pure ⟨o, Option.none⟩
  | Option.none => pure ⟨o, some (option, Option.none)⟩

/-- Takes the letters of an argument with one dash. What follows the letter of an option that
takes a value is its value, an equals sign in front of which is left out. -/
def letters (p : Progress) : List Char → Except OptionFault Progress
  | [] => .ok p
  | letter :: rest =>
    match OptionName.ofShort? letter with
    | some (.flag f) => do (← p.flag f).letters rest
    | some (.value v) =>
      -- All that is left of the argument is the value.
      match rest with
      | [] => p.option v Option.none
      | '=' :: text => p.option v (some (String.ofList text))
      | text => p.option v (some (String.ofList text))
    | Option.none => .error .unknownArgument

/-- Takes an argument with two dashes, given what follows them. -/
def long (p : Progress) (text : List Char) : Except OptionFault Progress :=
  let name := text.takeWhile (· ≠ '=')
  let attached := match text.drop name.length with
    | _ :: value => some (String.ofList value)
    | [] => Option.none
  match OptionName.ofLong? name, attached with
  | some (.value v), attached => p.option v attached
  | some (.flag f), Option.none => p.flag f
  | some (.flag _), some _ => .error .unexpectedValue
  | Option.none, _ => .error .unknownArgument

/-- Takes an argument that is no option: the value of the option that waits for one. -/
def plain (p : Progress) (text : String) : Except OptionFault Progress :=
  match p.waiting with
  | some (option, Option.none) => .ok { p with waiting := some (option, some text) }
  | _ => .error .unknownArgument

/-- Takes an argument. -/
def argument (p : Progress) (text : String) : Except OptionFault Progress :=
  match text.toList with
  | '-' :: '-' :: rest => p.long rest
  | '-' :: letter :: rest => p.letters (letter :: rest)
  | _ => p.plain text

/-- Takes arguments. Two dashes end the options, and nothing may follow them. -/
def arguments (p : Progress) : List String → Except OptionFault Options
  | [] => p.settle
  | text :: rest =>
    if text = "--" then if rest = [] then p.settle else .error .unknownArgument
    else do (← p.argument text).arguments rest

end Progress

/-- Reads a command line. -/
def parse (arguments : List String) : Except OptionFault Options :=
  Progress.arguments ⟨none, Option.none⟩ arguments

/-- A value that is given already, else the value of an environment variable. -/
def orVariable {α : Type} (given : Option α) (fromVariable : Option String)
    (read : String → Except OptionFault α) : Except OptionFault (Option α) :=
  match given, fromVariable with
  | some a, _ => .ok (some a)
  | Option.none, some text => (read text).map some
  | Option.none, Option.none => .ok Option.none

/-- The options with those from the environment that are not given. -/
def orEnvironment (o : Options) (env : String → Option String) : Except OptionFault Options := do
  let grpcPort ← orVariable o.grpcPort (env "OTELSCOPE_GRPC_PORT") port
  let httpPort ← orVariable o.httpPort (env "OTELSCOPE_HTTP_PORT") port
  let uiPort ← orVariable o.uiPort (env "OTELSCOPE_UI_PORT") port
  let verbose ← orVariable o.verbose (env "OTELSCOPE_VERBOSE") bool
  let debug ← orVariable o.debug (env "OTELSCOPE_DEBUG") bool
  let staticDir ← orVariable o.staticDir (env "OTELSCOPE_STATIC_DIR") fileName
  let config ← orVariable o.config (env "OTELSCOPE_CONFIG") fileName
  pure { o with grpcPort, httpPort, uiPort, verbose, debug, staticDir, config }

/-- The options of a run. -/
def read (arguments : List String) (env : String → Option String) : Except OptionFault Options := do
  (← parse arguments).orEnvironment env

/-- What the options say about the configuration. A flag that is false says nothing. -/
def settings (o : Options) : Settings :=
  { grpcPort := o.grpcPort
    httpPort := o.httpPort
    uiPort := o.uiPort
    staticDir := o.staticDir
    level := Option.none
    verbose := o.verbose.filter fun b => b }

end Options

end Telemetry
