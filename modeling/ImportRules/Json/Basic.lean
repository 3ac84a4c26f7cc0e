/-!
# JSON values

The members of an object are kept in the order in which they are written, also when a name
repeats. A number is kept as it is written, since nothing here computes with it.
-/

namespace ImportRules

/-- A JSON value. -/
inductive Json where
  | null
  | bool (value : Bool)
  | number (literal : String)
  | string (text : String)
  /-- A string that escapes one half of a surrogate pair without the other, or an object with such a
  string as a name. It may be passed over but stands for no data. -/
  | brokenString
  | array (items : List Json)
  | object (members : List (String × Json))
  deriving Repr

namespace Json

/-- A natural number as a JSON value. -/
def ofNat (n : Nat) : Json :=
  .number (toString n)

/-- A list of texts as a JSON value. -/
def ofTexts (texts : List String) : Json :=
  .array (texts.map .string)

end Json

end ImportRules
