import ImportRules.Text.Basic
/-!
# Glob patterns

A glob describes whole texts with `/` between segments: `?` stands for one character and `*` for
any run of characters, both without `/`; a bracket stands for one character of a set; `**`, which
must be a whole segment, stands for any number of segments. Malformed globs are refused with the
place of the fault, counted in characters.
-/

namespace ImportRules

namespace Glob

/-- A member of a bracket set: a single character is the range of itself. -/
structure CharRange where
  low : Char
  high : Char
  deriving DecidableEq, Repr

/-- A part of a glob. -/
inductive Token where
  | char (c : Char)
  | anyChar
  /-- Any run of characters within a segment. -/
  | anyRun
  /-- Any number of whole segments. -/
  | anyPath
  | within (set : List CharRange)
  | outside (set : List CharRange)
  deriving DecidableEq, Repr

/-- Why a text is no glob. -/
inductive Cause where
  | tooManyStars
  | partialSegment
  | openBracket
  deriving DecidableEq, Repr

/-- A fault and the number of characters before it. -/
structure Fault where
  position : Nat
  cause : Cause
  deriving DecidableEq, Repr

def Cause.message : Cause → String
  | .tooManyStars => "wildcards are either regular `*` or recursive `**`"
  | .partialSegment => "recursive wildcards must form a single path component"
  | .openBracket => "invalid range pattern"

def Fault.message (fault : Fault) : String :=
  s!"Pattern syntax error near position {fault.position}: {fault.cause.message}"

/-- The ranges of a bracket: `a-z` is a range, everything else stands for itself. -/
def ranges : List Char → List CharRange
  | low :: '-' :: high :: rest => ⟨low, high⟩ :: ranges rest
  | c :: rest => ⟨c, c⟩ :: ranges rest
  | [] => []

/-- The text up to the next closing bracket and the text behind it. -/
def bracketEnd? (text : List Char) : Option (List Char × List Char) :=
  match text.dropWhile (· != ']') with
  | [] => none
  | _ :: rest => some (text.takeWhile (· != ']'), rest)

theorem bracketEnd?_length {text inside rest : List Char}
    (h : bracketEnd? text = some (inside, rest)) : rest.length < text.length := by
  unfold bracketEnd? at h
  split at h
  · simp at h
  next c rest' hdrop =>
    simp only [Option.some.injEq, Prod.mk.injEq] at h
    obtain ⟨_, rfl⟩ := h
    have hle := (List.dropWhile_sublist (l := text) (· != ']')).length_le
    rw [hdrop] at hle
    simp only [List.length_cons] at hle
    omega

/-- A further segment wildcard directly behind another one adds nothing, unless they open the
glob. -/
def addAnyPath (done : List Token) : List Token :=
  match done with
  | .anyPath :: _ :: _ => done
  | _ => .anyPath :: done

/-- Reads the tokens of a glob. `position` counts the characters read, `last` is the latest of
them and `done` holds the tokens so far, latest first. -/
def readTokens (position : Nat) (last : Option Char) (done : List Token) :
    List Char → Except Fault (List Token)
  | [] => .ok done.reverse
  | '?' :: rest => readTokens (position + 1) (some '?') (.anyChar :: done) rest
  | '*' :: '*' :: '*' :: _ => .error ⟨position + 2, .tooManyStars⟩
  | '*' :: '*' :: rest =>
      if position == 0 || last == some '/' then
        match rest with
        | [] => .ok (addAnyPath done).reverse
        | '/' :: rest => readTokens (position + 3) (some '/') (addAnyPath done) rest
        | _ => .error ⟨position + 2, .partialSegment⟩
      else .error ⟨position - 1, .partialSegment⟩
  | '*' :: rest => readTokens (position + 1) (some '*') (.anyRun :: done) rest
  | '[' :: '!' :: first :: more =>
      match h : bracketEnd? more with
      | some (inside, rest) =>
          have := bracketEnd?_length h
          readTokens (position + inside.length + 4) (some ']')
            (.outside (ranges (first :: inside)) :: done) rest
      | none => .error ⟨position, .openBracket⟩
  | '[' :: first :: more =>
      if first == '!' then .error ⟨position, .openBracket⟩
      else
        match h : bracketEnd? more with
        | some (inside, rest) =>
            have := bracketEnd?_length h
            readTokens (position + inside.length + 3) (some ']')
              (.within (ranges (first :: inside)) :: done) rest
        | none => .error ⟨position, .openBracket⟩
  | '[' :: [] => .error ⟨position, .openBracket⟩
  | c :: rest => readTokens (position + 1) (some c) (.char c :: done) rest
termination_by text => text.length

/-- Outcome of matching a part of a glob: either it matches, or it may still match further on in
the text, or no later start can help either. -/
inductive Outcome where
  | accept
  | retry
  | reject
  deriving DecidableEq, Repr

/-- The first outcome unless it leaves room for the second. -/
def Outcome.orElse (first second : Outcome) : Outcome :=
  match first with
  | .retry => second
  | decided => decided

/-- Lets a run of characters grow within a segment until the rest of the glob is decided. -/
def growRun (rest : List Char → Outcome) : List Char → Outcome
  | [] => rest []
  | c :: text =>
      (rest (c :: text)).orElse (if c = '/' then .retry else growRun rest text)

/-- Lets whole segments pass until the rest of the glob is decided; at the end of the text the rest
must match the empty text. -/
def growPath (rest : List Char → Outcome) : List Char → Outcome
  | [] => rest []
  | c :: text =>
      if c = '/' then (rest text).orElse (growPath rest text) else growPath rest text

/-- Whether a token that stands for one character accepts it. -/
def Token.accepts (c : Char) : Token → Bool
  | .char expected => c == expected
  | .anyChar => c != '/'
  | .within set => c != '/' && set.any fun range => range.low ≤ c && c ≤ range.high
  | .outside set => c != '/' && !set.any fun range => range.low ≤ c && c ≤ range.high
  | .anyRun | .anyPath => false

/-- Matches tokens against a whole text. -/
def matchTokens : List Token → List Char → Outcome
  | [], [] => .accept
  | [], _ :: _ => .retry
  | .anyRun :: tokens, text => growRun (matchTokens tokens) text
  | .anyPath :: tokens, text =>
      (matchTokens tokens text).orElse (growPath (matchTokens tokens) text)
  | _ :: _, [] => .reject
  | token :: tokens, c :: text => if token.accepts c then matchTokens tokens text else .retry

/-- A glob that ends in `/**` behind plain text accepts everything below the directory that the
plain text names, however many slashes end it. -/
def directoryOf? (raw : List Char) : Option (List Char) :=
  match ['/', '*', '*'].isSuffixOf? raw with
  | some front =>
      let directory := Text.trimEnd (· == '/') front
      if directory.any fun c => c == '*' || c == '?' || c == '[' then none else some directory
  | none => none

end Glob

/-- A glob as written and as read. -/
structure Glob where
  raw : String
  tokens : List Glob.Token

namespace Glob

/-- Reads a glob. -/
def ofText (text : String) : Except Fault Glob :=
  (readTokens 0 none [] text.toList).map fun tokens => ⟨text, tokens⟩

/-- Whether a glob describes the whole of a text. -/
def isMatch (glob : Glob) (text : String) : Bool :=
  matchTokens glob.tokens text.toList == .accept ||
    (directoryOf? glob.raw.toList).any fun directory =>
      (directory ++ ['/']).isPrefixOf text.toList

end Glob

end ImportRules
