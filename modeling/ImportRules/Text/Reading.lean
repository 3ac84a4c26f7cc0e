/-!
# Reading a text from its start

A reader takes something off the start of a text and gives it together with the text behind it.
Repetition goes on only while it uses up characters, so that it ends for every reader.
-/

namespace ImportRules

/-- Takes something off the start of a text, `none` if it is not there. -/
abbrev Reader (α : Type) :=
  List Char → Option (α × List Char)

namespace Reader

variable {α : Type}

/-- As many items as there are, one directly after the other. -/
def many (item : Reader α) (text : List Char) : List α × List Char :=
  match item text with
  | none => ([], text)
  | some (first, rest) =>
      if _h : rest.length < text.length then
        let (items, rest) := many item rest
        (first :: items, rest)
      else ([], text)
termination_by text.length

/-- At least one item, with a separator between any two. A separator with no item behind it is left
in the text. -/
def separated (item : Reader α) (separator : Char) (text : List Char) :
    Option (List α × List Char) :=
  match item text with
  | none => none
  | some (first, c :: rest) =>
      if _h : c = separator ∧ rest.length < text.length then
        match separated item separator rest with
        | some (items, rest) => some (first :: items, rest)
        | none => some ([first], c :: rest)
      else some ([first], c :: rest)
  | some (first, []) => some ([first], [])
termination_by text.length

/-- A given character. -/
def expect (wanted : Char) : Reader Unit
  | c :: rest => if c = wanted then some ((), rest) else none
  | [] => none

/-- A given number of characters of a kind. -/
def exactly (count : Nat) (kind : Char → Bool) : Reader (List Char)
  | text =>
      let taken := text.take count
      if taken.length = count ∧ taken.all kind then some (taken, text.drop count) else none

/-- The longest run of characters of a kind, at least one. -/
def run (kind : Char → Bool) : Reader (List Char)
  | text =>
      match text.takeWhile kind with
      | [] => none
      | taken => some (taken, text.dropWhile kind)

end Reader

end ImportRules
