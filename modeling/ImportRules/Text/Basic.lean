/-!
# Text

Texts are read as lists of characters, so that every reader is a function on a list and every
statement about it is a statement about lists. Sizes that a report shows are counted in bytes of
the UTF-8 form, never in characters.
-/

namespace ImportRules.Text

/-- The pieces of a text between the occurrences of a separator. A text without the separator is
its own only piece, also when it is empty. -/
def pieces (separator : Char) (text : String) : List String :=
  (text.toList.splitOn separator).map String.ofList

/-- Pieces written one after the other with a separator between them. -/
def joined (separator : String) (parts : List String) : String :=
  String.intercalate separator parts

/-- A text without its longest ending of characters that satisfy `drop`. -/
def trimEnd (drop : Char → Bool) (text : List Char) : List Char :=
  (text.reverse.dropWhile drop).reverse

/-- A text without the characters that satisfy `drop` at either end. -/
def trimBoth (drop : Char → Bool) (text : List Char) : List Char :=
  trimEnd drop (text.dropWhile drop)

/-- Whether one text occurs somewhere in another. The empty text occurs everywhere. -/
def occursIn (part : List Char) : List Char → Bool
  | [] => part.isEmpty
  | c :: rest => part.isPrefixOf (c :: rest) || occursIn part rest

/-- Size of a text in bytes. -/
def byteLength : List Char → Nat
  | [] => 0
  | c :: rest => c.utf8Size + byteLength rest

/-- A text cut after every newline. Each piece but the last ends in a newline, and the last does
not unless the text does; the empty text has no piece. -/
def linesWithEnds : List Char → List (List Char)
  | [] => []
  | c :: rest =>
      if c = '\n' then [c] :: linesWithEnds rest
      else
        match linesWithEnds rest with
        | [] => [[c]]
        | line :: lines => (c :: line) :: lines

/-- The first line of a text, without its line end. -/
def firstLine (text : List Char) : List Char :=
  let line := text.takeWhile (· ≠ '\n')
  if line.length < text.length then
    match line.getLast? with
    | some '\r' => line.dropLast
    | _ => line
  else line

end ImportRules.Text
