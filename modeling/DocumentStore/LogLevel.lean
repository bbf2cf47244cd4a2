import DocumentStore.Text.Blank

/-!
# Log levels

Levels of severity, from errors to traces. A level admits messages of its
own severity and of every graver one. The name of a level is read without
regard to case and to blanks around it.
-/

namespace DocumentStore

/-- A level, gravest first. -/
inductive LogLevel where
  | error
  | warn
  | info
  | debug
  | trace
  deriving DecidableEq, Repr

/-- A text that names no level. -/
structure UnknownLevel where
  text : String

namespace UnknownLevel

/-- The wording of the error. -/
def message (e : UnknownLevel) : String := "unknown log level '" ++ e.text ++ "'"

end UnknownLevel

namespace LogLevel

/-- All levels, gravest first. -/
def all : List LogLevel := [.error, .warn, .info, .debug, .trace]

/-- The name of a level. -/
def name : LogLevel → String
  | .error => "ERROR"
  | .warn => "WARN"
  | .info => "INFO"
  | .debug => "DEBUG"
  | .trace => "TRACE"

/-- Where a level stands, the gravest at zero. -/
def rank : LogLevel → Nat
  | .error => 0
  | .warn => 1
  | .info => 2
  | .debug => 3
  | .trace => 4

/-- The level a text names; a warning may be spelled out. -/
def ofText? (text : String) : Except UnknownLevel LogLevel :=
  match String.ofList ((trim text.toList).map Char.toUpper) with
  | "ERROR" => .ok .error
  | "WARN" => .ok .warn
  | "WARNING" => .ok .warn
  | "INFO" => .ok .info
  | "DEBUG" => .ok .debug
  | "TRACE" => .ok .trace
  | _ => .error ⟨text⟩

/-- Whether messages of a level are written while another is set. -/
def admits (current level : LogLevel) : Bool := level.rank ≤ current.rank

/-- The level set by an environment's setting, if it is there and names
one; any other setting leaves the level as it is. -/
def fromSetting? (setting : Option String) : Option LogLevel :=
  setting.bind fun text => (ofText? text).toOption

end LogLevel

end DocumentStore
