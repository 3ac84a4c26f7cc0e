import ImportRules.Check
import ImportRules.Command.Arguments
import ImportRules.Json.Printer
/-!
# What commands print
-/

namespace ImportRules.Command

/-- Lines of output, each with its line end. -/
def lines (texts : List String) : String :=
  String.join (texts.map (· ++ "\n"))

/-- A text filled up with spaces to a number of characters. -/
def padded (width : Nat) (text : String) : String :=
  text ++ "".pushn ' ' (width - text.length)

/-- The colour of a severity. -/
def colour : Severity → String
  | .error => "\x1b[31m"
  | .warning => "\x1b[33m"
  | .info => "\x1b[34m"

/-- The end of a coloured text. -/
def plain : String :=
  "\x1b[0m"

/-- A finding for a reader at a terminal. -/
def findingLines (finding : Finding) : List String :=
  let severity := colour finding.severity ++ finding.severity.name ++ plain
  [s!"{finding.violation.code} {finding.check}",
   s!"  {severity}: {finding.violation.describe}", ""]

/-- The colour of the last line: that of an error if the run fails, of a warning if there is
anything worse than a hint, and green otherwise. -/
def totalsColour (report : Report) (failOn : Severity) : String :=
  if report.failsAt failOn then colour .error
  else if 0 < report.count .error + report.count .warning then colour .warning
  else "\x1b[32m"

/-- A report for a reader at a terminal. -/
def textReport (report : Report) (failOn : Severity) : String :=
  let errors := report.count .error
  let warnings := report.count .warning
  let infos := report.count .info
  let totals := s!"Found {errors} error(s), {warnings} warning(s), {infos} info(s) " ++
    s!"from {report.checksRun} check(s) over {report.edgesChecked} edge(s)"
  lines (report.findings.flatMap findingLines ++
    [totalsColour report failOn ++ totals ++ plain])

/-- A report in a format. -/
def formatReport (report : Report) (failOn : Severity) : OutputFormat → String
  | .text => textReport report failOn
  | .json => lines [report.toJson.pretty]
  | .compact => lines (report.findings.map Finding.summary)

/-- Edges as a JSON list, in the form of an edge file. -/
def edgeList (edges : List Edge) : String :=
  lines [(Json.array (edges.map Edge.toJson)).pretty]

/-- Codes of violations with the checks that find them. -/
def checkKinds : List (String × String × String) :=
  [("CYCLE001", "cycles", "No dependency cycles between projected labels"),
   ("DEP001", "dependency", "Objects should / should not depend on subjects"),
   ("DIAGRAM001", "diagram", "Edges must be relations of a PlantUML component diagram"),
   ("DIAGRAM001", "forbidden", "Edges must not match listed relations"),
   ("FILE001", "files", "Matching units should / should not match a pattern"),
   ("EMPTY001", "-", "A dependency or file rule matched no units")]

/-- A rule below the head of a table. -/
def tableRule : String :=
  "".pushn '-' 80

/-- The table of all kinds of checks. -/
def kindsTable : String :=
  lines (["Check kinds:", "",
      padded 12 "Code" ++ " " ++ padded 12 "Kind" ++ " Description", tableRule] ++
    checkKinds.map fun (code, kind, description) =>
      padded 12 code ++ " " ++ padded 12 kind ++ " " ++ description)

/-- What is said where there is no configuration. -/
def noConfig : String :=
  "No archgraph.toml found. Run `archgraph init` to create one."

/-- The table of the checks of a configuration. -/
def checksTable (path : String) (checks : List NamedCheck) : String :=
  lines (["", s!"Configured in {path}:", "",
      padded 30 "Name" ++ " " ++ padded 12 "Kind" ++ " Severity", tableRule] ++
    (checks.map fun named =>
      padded 30 named.name ++ " " ++ padded 12 named.check.kind ++ " " ++ named.severity.name) ++
    ["", "Use --only to run specific checks, e.g.:",
      "  archgraph check --only no-layer-cycles,layers"])

/-- The version of the program. -/
def versionText : String :=
  lines ["archgraph 0.1.0"]

/-- Options that every command has. -/
def commonHelp : List String :=
  ["  -v, --verbose          Enable verbose output",
   "  -c, --config <CONFIG>  Path to configuration file",
   "  -h, --help             Print help"]

/-- Help on the whole program, or on one command. -/
def helpText : Option String → String
  | some "check" =>
      lines ["Run the configured checks", "", "Usage: archgraph check [OPTIONS] [PATH]", "",
        "Arguments:",
        "  [PATH]  Project directory (default: current directory) [default: .]", "", "Options:",
        "  -f, --format <FORMAT>    Output format [default: text] " ++
          "[possible values: text, json, compact]",
        "  -v, --verbose            Enable verbose output",
        "  -c, --config <CONFIG>    Path to configuration file",
        "      --only <ONLY>        Only run specific checks (comma-separated names)",
        "      --fail-on <FAIL_ON>  Lowest severity that fails the run [default: error]",
        "  -h, --help               Print help"]
  | some "list-checks" =>
      lines (["List check kinds and the configured checks", "",
        "Usage: archgraph list-checks [OPTIONS] [PATH]", "", "Arguments:",
        "  [PATH]  Project directory (default: current directory) [default: .]", "",
        "Options:"] ++ commonHelp)
  | some "init" =>
      lines ["Initialize configuration file", "", "Usage: archgraph init [OPTIONS]", "",
        "Options:", "      --force            Overwrite existing config",
        "  -v, --verbose          Enable verbose output",
        "  -c, --config <CONFIG>  Path to configuration file",
        "  -h, --help             Print help"]
  | some "edges" =>
      lines (["Print extracted raw edges as JSON", "", "Usage: archgraph edges [OPTIONS] [PATH]",
        "", "Arguments:",
        "  [PATH]  Project directory (default: current directory) [default: .]", "",
        "Options:"] ++ commonHelp)
  | _ =>
      lines (["Architecture rule checks over import graphs", "",
        "Usage: archgraph [OPTIONS] <COMMAND>", "", "Commands:",
        "  check        Run the configured checks",
        "  list-checks  List check kinds and the configured checks",
        "  init         Initialize configuration file",
        "  edges        Print extracted raw edges as JSON",
        "  help         Print this message or the help of the given subcommand(s)", "",
        "Options:"] ++ commonHelp ++ ["  -V, --version          Print version"])

/-- The configuration that is written for a new project. -/
def starterConfig : String :=
  lines
    ["# archgraph configuration",
     "",
     "[extraction]",
     "# Scan a TS/JS project (tsconfig.json or directory) ...",
     "project = \".\"",
     "# ... or load pre-extracted edges instead:",
     "# edges = \"build/edges.json\"",
     "",
     "exclude = [",
     "    \"**/*.test.ts\",",
     "    \"**/*.spec.ts\",",
     "]",
     "",
     "# No cycles between top-level folders under src/",
     "[[cycles]]",
     "name = \"no-module-cycles\"",
     "projection = \x7b kind = \"slices\", pattern = \"src/(*)/**\" \x7d",
     "",
     "# [[dependency]]",
     "# name = \"domain-is-independent\"",
     "# mode = \"should-not\"",
     "# objects = [\x7b glob = \"src/domain/**\" \x7d]",
     "# subjects = [\x7b glob = \"src/infrastructure/**\" \x7d]",
     "",
     "# [[diagram]]",
     "# name = \"layers\"",
     "# projection = \x7b kind = \"slices\", pattern = \"src/(*)/**\" \x7d",
     "# file = \"docs/architecture.puml\"",
     "# ignore_unknown_nodes = true",
     "",
     "# [[files]]",
     "# name = \"service-naming\"",
     "# objects = [\x7b glob = \"src/services\", target = \"directory\" \x7d]",
     "# pattern = \x7b glob = \"*.service.ts\", target = \"filename\" \x7d",
     "# severity = \"warning\""]

/-- What is said when a configuration has been written. -/
def createdText (path : String) : String :=
  lines [s!"Created {path}", "", "Next steps:", "  1. Edit archgraph.toml to configure checks",
    "  2. Run: archgraph check"]

end ImportRules.Command
