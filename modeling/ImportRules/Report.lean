import ImportRules.Violation
/-!
# Findings and reports

A finding is a violation with the check that found it and that check's severity. A report holds the
findings of a run and says how much was looked at.
-/

namespace ImportRules

/-- How serious the findings of a check are. -/
inductive Severity where
  | info
  | warning
  | error
  deriving DecidableEq, Repr

namespace Severity

def name : Severity → String
  | .info => "info"
  | .warning => "warning"
  | .error => "error"

/-- The severity with a given name. -/
def ofName? : String → Option Severity
  | "error" => some .error
  | "warning" => some .warning
  | "info" => some .info
  | _ => none

/-- Position in the order from least to most serious. -/
def rank : Severity → Nat
  | .info => 0
  | .warning => 1
  | .error => 2

/-- One severity is no less serious than another. -/
def atLeast (severity threshold : Severity) : Bool :=
  threshold.rank ≤ severity.rank

end Severity

/-- A violation with the check that found it. -/
structure Finding where
  check : String
  severity : Severity
  violation : Violation
  deriving DecidableEq, Repr

namespace Finding

/-- The finding on one line. -/
def summary (finding : Finding) : String :=
  s!"{finding.check}: {finding.severity.name} {finding.violation.summary}"

/-- The finding with all the imports behind it. -/
def block (finding : Finding) : String :=
  s!"{finding.violation.code} {finding.check}\n" ++
    s!"  {finding.severity.name}: {finding.violation.describe}\n"

def toJson (finding : Finding) : Json :=
  .object
    [("check", .string finding.check),
     ("severity", .string finding.severity.name),
     ("violation", finding.violation.toJson)]

end Finding

/-- The findings of a run, in the order of its checks. -/
structure Report where
  findings : List Finding := []
  edgesChecked : Nat := 0
  checksRun : Nat := 0
  deriving DecidableEq, Repr

namespace Report

/-- Some finding is at least as serious as the threshold. -/
def failsAt (report : Report) (threshold : Severity) : Bool :=
  report.findings.any (·.severity.atLeast threshold)

/-- The findings of one check. -/
def ofCheck (report : Report) (check : String) : List Finding :=
  report.findings.filter (·.check == check)

/-- Number of findings of one severity. -/
def count (report : Report) (severity : Severity) : Nat :=
  report.findings.countP (·.severity == severity)

/-- The last line of a written report. -/
def totals (report : Report) : String :=
  let errors := report.count .error
  let warnings := report.count .warning
  let infos := report.count .info
  s!"Total: {errors} error(s), {warnings} warning(s), {infos} info(s) " ++
    s!"from {report.checksRun} check(s) over {report.edgesChecked} edge(s)\n"

/-- The findings at or above a threshold, written out. -/
def format (report : Report) (threshold : Severity) : String :=
  let failing := report.findings.filter (·.severity.atLeast threshold)
  s!"\n=== archgraph: {failing.length} violation(s) ===\n\n" ++
    String.join (failing.map fun finding => finding.block ++ "\n") ++ report.totals

def toJson (report : Report) : Json :=
  .object
    [("findings", .array (report.findings.map Finding.toJson)),
     ("edges_checked", .ofNat report.edgesChecked),
     ("checks_run", .ofNat report.checksRun)]

end Report

end ImportRules
