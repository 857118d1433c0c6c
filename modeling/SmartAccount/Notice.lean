import SmartAccount.Numeral
/-!
# Notices

What a program tells its operator besides its answer: one line of text with a level.
-/

namespace SmartAccount

/-- How much a notice matters. -/
inductive Level where
  | error
  | warn
  | info
  | debug
  | trace
  deriving DecidableEq

/-- The name of a level. -/
def Level.name : Level → String
  | .error => "ERROR"
  | .warn => "WARN"
  | .info => "INFO"
  | .debug => "DEBUG"
  | .trace => "TRACE"

/-- The levels, from the one that matters most. -/
def Level.all : List Level := [.error, .warn, .info, .debug, .trace]

/-- The level that a text names: by its name in letters of either case, or by its number among
all levels, from one. -/
def Level.ofName? (text : String) : Option Level :=
  match Level.all.find? (·.name = text.toUpper) with
  | some level => some level
  | none => Numeral.plain? text >>= fun n => if n = 0 then none else Level.all[n - 1]?

/-- One line for the operator. -/
structure Notice where
  level : Level
  text : String
  deriving DecidableEq

end SmartAccount
