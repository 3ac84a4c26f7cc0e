import ImportRules.Ignore.Glob
import ImportRules.Path
import ImportRules.Text.Blank
/-!
# Ignore files

An ignore file holds one rule in a line. A rule names files and directories that are passed over,
or with an exclamation mark before it those that are not. Of all rules that fit a path the last one
decides. A line that is no rule is left out, and it is kept in mind that there was one.
-/

namespace ImportRules

/-- What ignore files say about a path. -/
inductive Verdict where
  | ignored
  | kept
  deriving DecidableEq, Repr

/-- A rule of an ignore file. -/
structure IgnoreRule where
  regex : Regex
  verdict : Verdict
  /-- The rule is about directories only. -/
  onlyDirectory : Bool

namespace IgnoreRule

/-- Whether a rule fits a path, which is given from the directory of the ignore file. -/
def fits (rule : IgnoreRule) (path : List Char) (isDirectory : Bool) : Bool :=
  (isDirectory || !rule.onlyDirectory) && rule.regex.isMatch path

/-- Blanks at the end of a line do not count, unless the last one is escaped. -/
def trimLine (line : List Char) : List Char :=
  if [' ', '\\'].isPrefixOf line.reverse then line else Text.trimEnd Text.isBlank line

/-- The start of a rule: what it says of a path, whether it is tied to the directory of the file,
and the glob behind these marks. -/
def readMarks : List Char → Verdict × Bool × List Char
  | '\\' :: '!' :: rest => (.ignored, false, '!' :: rest)
  | '\\' :: '#' :: rest => (.ignored, false, '#' :: rest)
  | '!' :: '/' :: rest => (.kept, true, rest)
  | '!' :: rest => (.kept, false, rest)
  | '/' :: rest => (.ignored, true, rest)
  | rest => (.ignored, false, rest)

/-- The end of a rule: whether it is about directories only, and the glob before that mark. -/
def readDirectoryMark (glob : List Char) : Bool × List Char :=
  match glob.reverse with
  | '/' :: '\\' :: front => (true, front.reverse)
  | '/' :: front => (true, front.reverse)
  | _ => (false, glob)

/-- A glob without a `/` fits at any depth, unless it is tied to the directory of the file. -/
def atAnyDepth (tied : Bool) (glob : List Char) : List Char :=
  if tied || glob.contains '/' || glob == ['*', '*'] then glob
  else ['*', '*', '/'] ++ glob

/-- A glob that ends in two stars does not fit the directory itself. -/
def belowOnly (glob : List Char) : List Char :=
  if ['*', '*', '/'].isPrefixOf glob.reverse then glob ++ ['/', '*'] else glob

/-- What a line of an ignore file comes to. -/
inductive Line where
  | blank
  | rule (rule : IgnoreRule)
  | malformed

/-- Reads a line. -/
def ofLine (line : List Char) : Line :=
  match line with
  | '#' :: _ => .blank
  | _ =>
      match trimLine line with
      | [] => .blank
      | line =>
          let (verdict, tied, glob) := readMarks line
          let (onlyDirectory, glob) := readDirectoryMark glob
          match IgnoreGlob.ofText? (String.ofList (belowOnly (atAnyDepth tied glob))) with
          | some regex => .rule ⟨regex, verdict, onlyDirectory⟩
          | none => .malformed

end IgnoreRule

/-- The rules of an ignore file, and whether a line of it is malformed. -/
structure IgnoreFile where
  rules : List IgnoreRule := []
  malformed : Bool := false

namespace IgnoreFile

/-- The lines of a file up to the first that is not UTF-8. -/
def linesOf (content : ByteArray) : List (List Char) :=
  let pieces := content.toList.splitOn 10
  let ended := pieces.dropLast.map fun piece =>
    if piece.getLast? = some 13 then piece.dropLast else piece
  let last := pieces.getLast?.toList.filter fun piece => !piece.isEmpty
  let read := (ended ++ last).map fun piece => String.fromUTF8? ⟨piece.toArray⟩
  (read.takeWhile Option.isSome).filterMap fun line => line.map String.toList

/-- Drops marks of the byte order at the start of the first line. -/
def dropMarks : List (List Char) → List (List Char)
  | [] => []
  | line :: rest => line.dropWhile (· == '\uFEFF') :: rest

def ofContent (content : ByteArray) : IgnoreFile :=
  let lines := (dropMarks (linesOf content)).map IgnoreRule.ofLine
  { rules := lines.filterMap fun
      | .rule rule => some rule
      | _ => none
    malformed := lines.any fun
      | .malformed => true
      | _ => false }

/-- What a file says about a path, which is given from the directory of the file. -/
def verdict? (file : IgnoreFile) (path : Path) (isDirectory : Bool) : Option Verdict :=
  let path := IgnoreGlob.byteChars path.bytes
  (file.rules.reverse.find? fun rule => rule.fits path isDirectory).map (·.verdict)

end IgnoreFile

end ImportRules
