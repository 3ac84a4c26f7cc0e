/-!
# Modes and errors of rules
-/

namespace ImportRules

/-- Whether a rule demands something or forbids it. -/
inductive RuleMode where
  | should
  | shouldNot
  deriving DecidableEq, Repr

namespace RuleMode

/-- The mode with a given name. -/
def ofName? : String → Option RuleMode
  | "should" => some .should
  | "should-not" => some .shouldNot
  | _ => none

def name : RuleMode → String
  | .should => "should"
  | .shouldNot => "should-not"

end RuleMode

/-- Why a rule is refused. -/
inductive RuleError where
  /-- Nothing limits the units that the rule is about. -/
  | noFilters
  deriving DecidableEq, Repr

def RuleError.message : RuleError → String
  | .noFilters => "rule has no filters on either side; it would apply to every unit"

end ImportRules
