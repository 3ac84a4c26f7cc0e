/-!
# Log lines

What a run tells about itself apart from its results. A line is written inside the scope of a named
check run or outside of any.
-/

namespace ImportRules

/-- How much a log line matters. -/
inductive LogLevel where
  | debug
  | info
  | warn
  deriving DecidableEq, Repr

def LogLevel.name : LogLevel → String
  | .debug => "DEBUG"
  | .info => "INFO"
  | .warn => "WARN"

/-- A log line, with the name of the run that it belongs to, if any. -/
structure LogLine where
  level : LogLevel
  text : String
  scope : Option String := none
  deriving DecidableEq, Repr

namespace LogLine

/-- A log line as written. -/
def describe (line : LogLine) : String :=
  match line.scope with
  | some name => s!"{line.level.name} check\x7bname={name}\x7d: {line.text}"
  | none => s!"{line.level.name} {line.text}"

/-- The line inside the scope of a run. -/
def inScope (name : String) (line : LogLine) : LogLine :=
  { line with scope := some name }

end LogLine

end ImportRules
