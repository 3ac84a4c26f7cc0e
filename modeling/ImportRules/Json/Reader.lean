import ImportRules.Json.Basic
import ImportRules.Json.Token
/-!
# Reading JSON

A value is read from its tokens by a machine with a stack: one token at a time it is told what may
come next and what has been read of every bracket that is still open. Reading a row of tokens is a
fold, so that what is read before and after any point of a text can be taken apart.
-/

namespace ImportRules.Json

/-- An open bracket and what has been read behind it, latest first. -/
inductive Open where
  | array (items : List Json)
  /-- An object whose last name still waits for its value. A name without content is broken. -/
  | object (members : List (Option String × Json)) (name : Option String)

/-- What may come next. -/
inductive Expecting where
  | value (stack : List Open)
  /-- A value or the end of the array just opened. -/
  | firstItem (stack : List Open)
  /-- A name or the end of the object just opened. -/
  | firstName (stack : List Open)
  | name (members : List (Option String × Json)) (stack : List Open)
  | colon (members : List (Option String × Json)) (name : Option String) (stack : List Open)
  /-- A value is complete: what may follow depends on the innermost open bracket. -/
  | separator (value : Json) (stack : List Open)

/-- The object with the given members, latest first. -/
def closedObject (members : List (Option String × Json)) : Json :=
  match members.reverse.mapM fun (name, value) => name.map fun name => (name, value) with
  | some members => .object members
  | none => .brokenString

/-- A token where a value has to start. -/
def startValue (stack : List Open) : Token → Option Expecting
  | .null => some (.separator .null stack)
  | .bool value => some (.separator (.bool value) stack)
  | .number literal => some (.separator (.number literal) stack)
  | .string (some text) => some (.separator (.string text) stack)
  | .string none => some (.separator .brokenString stack)
  | .openArray => some (.firstItem stack)
  | .openObject => some (.firstName stack)
  | _ => none

/-- A token where a name has to stand. -/
def startMember (members : List (Option String × Json)) (stack : List Open) :
    Token → Option Expecting
  | .string name => some (.colon members name stack)
  | _ => none

/-- Takes in one token. -/
def advance : Expecting → Token → Option Expecting
  | .value stack, token => startValue stack token
  | .firstItem stack, .closeArray => some (.separator (.array []) stack)
  | .firstItem stack, token => startValue (.array [] :: stack) token
  | .firstName stack, .closeObject => some (.separator (.object []) stack)
  | .firstName stack, token => startMember [] stack token
  | .name members stack, token => startMember members stack token
  | .colon members name stack, .colon => some (.value (.object members name :: stack))
  | .colon .., _ => none
  | .separator value (.array items :: stack), .comma =>
      some (.value (.array (value :: items) :: stack))
  | .separator value (.array items :: stack), .closeArray =>
      some (.separator (.array (value :: items).reverse) stack)
  | .separator value (.object members name :: stack), .comma =>
      some (.name ((name, value) :: members) stack)
  | .separator value (.object members name :: stack), .closeObject =>
      some (.separator (closedObject ((name, value) :: members)) stack)
  | .separator .., _ => none

/-- The value that a row of tokens spells. -/
def ofTokens? (tokens : List Token) : Option Json :=
  match tokens.foldlM advance (.value []) with
  | some (.separator value []) => some value
  | _ => none

/-- The value that a text spells. -/
def ofText? (text : List Char) : Option Json :=
  (tokens? text).bind ofTokens?

end ImportRules.Json
