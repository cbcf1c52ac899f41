import Telemetry.Error

/-!
# Configuration

Where the receivers and the read interface listen, where the static files are, and what is logged.
A receiver whose port is zero is not started, so only other ports have to differ.
-/

namespace Telemetry

/-- How much is logged. -/
inductive LogLevel where
  | trace
  | debug
  | info
  | warn
  | error
  deriving DecidableEq, Repr

namespace LogLevel

/-- The name of a level. -/
def name : LogLevel → String
  | .trace => "trace"
  | .debug => "debug"
  | .info => "info"
  | .warn => "warn"
  | .error => "error"

/-- All levels. -/
def all : List LogLevel := [.trace, .debug, .info, .warn, .error]

/-- The level of a name. -/
def ofName? (name : String) : Option LogLevel :=
  all.find? fun level => level.name == name

/-- How much a level shows: a level shows what every lower level shows, too. -/
def rank : LogLevel → Nat
  | .error => 1
  | .warn => 2
  | .info => 3
  | .debug => 4
  | .trace => 5

end LogLevel

/-- A complete configuration. -/
structure Config where
  grpcPort : UInt16
  httpPort : UInt16
  /-- The port of the read interface. -/
  uiPort : UInt16
  staticDir : String
  level : LogLevel
  /-- Every record is printed when it arrives. -/
  verbose : Bool
  debug : Bool
  deriving DecidableEq, Repr

/-- What one source says about the configuration. -/
structure Settings where
  grpcPort : Option UInt16
  httpPort : Option UInt16
  uiPort : Option UInt16
  staticDir : Option String
  level : Option LogLevel
  verbose : Option Bool
  deriving DecidableEq, Repr

/-- A source that says nothing. -/
def Settings.none : Settings :=
  ⟨Option.none, Option.none, Option.none, Option.none, Option.none, Option.none⟩

namespace Config

/-- The configuration if no source says anything. -/
def usual : Config :=
  { grpcPort := 4317
    httpPort := 4318
    uiPort := 8080
    staticDir := "static"
    level := .info
    verbose := false
    debug := false }

/-- The configuration changed in all that a source says. -/
def override (c : Config) (s : Settings) : Config :=
  { c with
    grpcPort := s.grpcPort.getD c.grpcPort
    httpPort := s.httpPort.getD c.httpPort
    uiPort := s.uiPort.getD c.uiPort
    staticDir := s.staticDir.getD c.staticDir
    level := s.level.getD c.level
    verbose := s.verbose.getD c.verbose }

/-- The pairs of listeners whose ports have to differ. -/
def portPairs (c : Config) : List ((String × UInt16) × (String × UInt16)) :=
  let grpc := ("grpc", c.grpcPort)
  let http := ("http", c.httpPort)
  let ui := ("ui", c.uiPort)
  [(grpc, http), (grpc, ui), (http, ui)]

/-- Two listeners share a port. -/
def clash (a b : UInt16) : Bool :=
  a != 0 && a == b

/-- Accepts a configuration with which everything can be started. -/
def validate (c : Config) : Except Error Config :=
  if c.uiPort = 0 then .error (.config "ui_port must be greater than 0")
  else match c.portPairs.find? fun (a, b) => clash a.2 b.2 with
    | some ((nameA, port), (nameB, _)) =>
      .error (.config s!"{nameA} and {nameB} ports must be different: both set to {port.toNat}")
    | none => .ok c

end Config

end Telemetry
