import ImportRules.Text.Age
import ImportRules.Text.Boundary
import ImportRules.Text.Script
/-!
# Character properties by name

A property is asked for by a single name (a trait, a category or a script) or as a kind of property
with a value. Names are compared without regard to case, blanks, hyphens, underscores, characters
outside ASCII and a leading "is".
-/

namespace ImportRules.Text.Property

/-- What is compared of a name: its ASCII characters in lower case, without blanks, hyphens and
underscores. -/
def significant (name : List Char) : List Char :=
  (name.filter fun c => c.toNat < 128 && c != ' ' && c != '_' && c != '-').map Char.toLower

/-- The form in which names are compared. The "is" of "isc" belongs to the name, so that it does not
become the name of a category. -/
def normalName (name : List Char) : String :=
  if (name.take 2).map Char.toLower == ['i', 's'] then
    let rest := significant (name.drop 2)
    if rest == ['c'] then "isc" else String.ofList rest
  else String.ofList (significant name)

/-- Names that a category shares with another kind of property; alone they mean the category. -/
def sharedNames : List String := ["cf", "sc", "lc"]

/-- The characters with the property of a single name. -/
def single? (name : List Char) : Option CharSet :=
  let name := normalName name
  (if sharedNames.contains name then none else Trait.named? name) <|> Category.named? name <|>
    Script.named? name

/-- The characters for which a kind of property has a value. -/
def valued? (kind value : List Char) : Option CharSet :=
  let value := normalName value
  match normalName kind with
  | "gc" | "generalcategory" => Category.named? value
  | "sc" | "script" => Script.named? value
  | "scx" | "scriptextensions" => Script.extension? value
  | "age" => Age.named? value
  | "gcb" | "graphemeclusterbreak" => Boundary.grapheme? value
  | "wb" | "wordbreak" => Boundary.word? value
  | "sb" | "sentencebreak" => Boundary.sentence? value
  | _ => none

end ImportRules.Text.Property
