import ImportRules.Text.Hex
import ImportRules.Toml.Lexeme
/-!
# Numbers and date-times in TOML

A value that starts with a digit or a sign is tried as a date-time, then as a float, then as an
integer. An underscore may stand between two digits. Integers have 64 bits, and a float must not be
too large, unless it is negative.
-/

namespace ImportRules.Toml

/-- A digit, or an underscore and a digit. -/
def groupedDigit (isDigit : Char → Bool) : Reader Char
  | '_' :: c :: rest => if isDigit c then some (c, rest) else none
  | c :: rest => if isDigit c then some (c, rest) else none
  | [] => none

/-- Digits, the first without an underscore before it. The underscores are left out. -/
def groupedDigits (isDigit : Char → Bool) : Reader (List Char)
  | c :: rest =>
      if isDigit c then
        let (digits, rest) := Reader.many (groupedDigit isDigit) rest
        some (c :: digits, rest)
      else none
  | [] => none

/-- The sign of a number, and whether there is one. -/
def sign : List Char → Option Char × List Char
  | '+' :: rest => (some '+', rest)
  | '-' :: rest => (some '-', rest)
  | text => (none, text)

/-- Decimal digits without a leading zero, unless zero is the only digit. -/
def wholeDigits : Reader (List Char)
  | '0' :: rest => some (['0'], rest)
  | text => groupedDigits Char.isDigit text

/-- The value of digits in a base. -/
def digitsValue (base : Nat) (digits : List Char) : Nat :=
  digits.foldl (fun value c => value * base + Text.hexValue [c]) 0

/-- An integer within 64 bits. -/
def bounded (value : Int) : Option Int :=
  if Int64.minValue.toInt ≤ value ∧ value ≤ Int64.maxValue.toInt then some value else none

/-- An integer in a base other than ten, behind its mark. -/
def basedInteger (base : Nat) (isDigit : Char → Bool) (text : List Char) :
    Option (Int × List Char) := do
  let (digits, rest) ← groupedDigits isDigit text
  let value ← bounded (digitsValue base digits)
  some (value, rest)

def wholeNumber : Reader Int
  | '0' :: 'x' :: rest => basedInteger 16 isHexDigit rest
  | '0' :: 'o' :: rest => basedInteger 8 (fun c => '0' ≤ c && c ≤ '7') rest
  | '0' :: 'b' :: rest => basedInteger 2 (fun c => c == '0' || c == '1') rest
  | text => do
      let (sign, text) := sign text
      let (digits, rest) ← wholeDigits text
      let size : Int := digitsValue 10 digits
      let value ← bounded (if sign = some '-' then -size else size)
      some (value, rest)

/-- Whether digits times a power of ten are too large for a float of 64 bits, which are those that
round to a power of two with exponent 1024. Far from that bound the number of digits decides. -/
def isOverflow (digits : List Char) (exponent : Int) : Bool :=
  let digits := digits.dropWhile (· == '0')
  let magnitude := digits.length + exponent
  if digits.isEmpty || magnitude < 300 then false
  else if 320 < magnitude then true
  else
    let bound := (Nat.pow 2 54 - 1) * Nat.pow 2 970
    let value := digitsValue 10 digits
    if 0 ≤ exponent then bound ≤ value * Nat.pow 10 exponent.toNat
    else bound * Nat.pow 10 (-exponent).toNat ≤ value

/-- The digits behind a point, none without a point. -/
def fraction : Reader (List Char)
  | '.' :: rest => groupedDigits Char.isDigit rest
  | text => some ([], text)

/-- The exponent of a float, `none` inside if it has none. -/
def exponent : Reader (Option Int)
  | c :: rest =>
      if c = 'e' ∨ c = 'E' then do
        let (sign, rest) := sign rest
        let (digits, rest) ← groupedDigits Char.isDigit rest
        let size : Int := digitsValue 10 digits
        some (some (if sign = some '-' then -size else size), rest)
      else some (none, c :: rest)
  | [] => some (none, [])

/-- A float with a fraction or an exponent, or the words for infinity and for no number. -/
def realNumber (text : List Char) : Option (String × List Char) := do
  let (sign, unsigned) := sign text
  match unsigned with
  | 'i' :: 'n' :: 'f' :: rest => some (String.ofList (sign.toList ++ ['i', 'n', 'f']), rest)
  | 'n' :: 'a' :: 'n' :: rest => some (String.ofList (sign.toList ++ ['n', 'a', 'n']), rest)
  | _ =>
      let (whole, rest) ← wholeDigits unsigned
      let (decimals, rest) ← fraction rest
      let (power, rest) ← exponent rest
      if decimals.isEmpty && power.isNone then none
      else if sign != some '-' && isOverflow (whole ++ decimals) (power.getD 0 - decimals.length)
      then none
      else some (String.ofList (text.take (text.length - rest.length)), rest)

/-- A decimal number of two digits within bounds. -/
def twoDigits (low high : Nat) (text : List Char) : Option (Nat × List Char) := do
  let (digits, rest) ← Reader.exactly 2 Char.isDigit text
  let value := digitsValue 10 digits
  if low ≤ value ∧ value ≤ high then some (value, rest) else none

/-- Number of days of a month. -/
def daysInMonth (year month : Nat) : Nat :=
  if month = 2 then
    if year % 4 = 0 ∧ (year % 100 ≠ 0 ∨ year % 400 = 0) then 29 else 28
  else if month ∈ [4, 6, 9, 11] then 30
  else 31

/-- What a reader took off the start of a text. -/
def taken (text rest : List Char) : List Char :=
  text.take (text.length - rest.length)

def date (text : List Char) : Option (List Char × List Char) := do
  let (year, rest) ← Reader.exactly 4 Char.isDigit text
  let (_, rest) ← Reader.expect '-' rest
  let (month, rest) ← twoDigits 1 12 rest
  let (_, rest) ← Reader.expect '-' rest
  let (_, rest) ← twoDigits 1 (daysInMonth (digitsValue 10 year) month) rest
  some (taken text rest, rest)

/-- The fraction of a second: nine digits at most, without zeros at the end. -/
def secondFraction : List Char → List Char × List Char
  | '.' :: rest =>
      match Reader.run Char.isDigit rest with
      | none => ([], '.' :: rest)
      | some (digits, behind) =>
          match ((digits.take 9).reverse.dropWhile (· == '0')).reverse with
          | [] => ([], behind)
          | digits => ('.' :: digits, behind)
  | text => ([], text)

def time (text : List Char) : Option (List Char × List Char) := do
  let (_, rest) ← twoDigits 0 23 text
  let (_, rest) ← Reader.expect ':' rest
  let (_, rest) ← twoDigits 0 59 rest
  let (_, rest) ← Reader.expect ':' rest
  let (_, rest) ← twoDigits 0 60 rest
  let (decimals, behind) := secondFraction rest
  some (taken text rest ++ decimals, behind)

/-- Distance from universal time, empty if none is given. No distance is written with a plus. -/
def offset : List Char → List Char × List Char
  | 'Z' :: rest => (['Z'], rest)
  | 'z' :: rest => (['Z'], rest)
  | c :: text =>
      let clock := do
        let (hours, rest) ← twoDigits 0 23 text
        let (_, rest) ← Reader.expect ':' rest
        let (minutes, rest) ← twoDigits 0 59 rest
        some (hours + minutes, taken text rest, rest)
      match clock with
      | some (distance, digits, rest) =>
          if c = '+' ∨ c = '-' then ((if distance = 0 then '+' else c) :: digits, rest)
          else ([], c :: text)
      | none => ([], c :: text)
  | [] => ([], [])

/-- A date, a time, or a date with a time that a blank or the letter T divides. -/
def moment (text : List Char) : Option (String × List Char) :=
  match date text with
  | some (day, c :: rest) =>
      match time rest with
      | some (clock, behind) =>
          if c = 'T' ∨ c = 't' ∨ c = ' ' then
            let (distance, behind) := offset behind
            some (String.ofList (day ++ ['T'] ++ clock ++ distance), behind)
          else some (String.ofList day, c :: rest)
      | none => some (String.ofList day, c :: rest)
  | some (day, []) => some (String.ofList day, [])
  | none => (time text).map fun (clock, rest) => (String.ofList clock, rest)

end ImportRules.Toml
