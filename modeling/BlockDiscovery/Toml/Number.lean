import BlockDiscovery.Toml.Value

/-!
# Numbers of a configuration

Numbers may have a sign, and underscores between digits.  Integers may be written in
hexadecimal, octal or binary, without a sign then.
-/

namespace BlockDiscovery.Toml

open BlockDiscovery BlockDiscovery.Decimal

/-- Digits without the underscores between them: at least one digit, and one at both
ends of every underscore. -/
def separated? (isDigit : Char → Bool) : List Char → Option (List Char)
  | [] => none
  | [c] => if isDigit c then some [c] else none
  | c :: d :: rest =>
    if !isDigit c then none
    else if d = '_' then (separated? isDigit rest).map (c :: ·)
    else (separated? isDigit (d :: rest)).map (c :: ·)

/-- A sign taken off: whether it was a minus, and the rest. -/
def signed : List Char → Bool × List Char
  | '-' :: rest => (true, rest)
  | '+' :: rest => (false, rest)
  | s => (false, s)

/-- The value of digits in a base. -/
def valueIn (base : Nat) (digits : List Char) : Nat :=
  digits.foldl (fun n c => n * base + (Text.hexDigit? c).getD 0) 0

/-- Whether a character is a digit of a base. -/
def isDigitOf (base : Nat) (c : Char) : Bool := (Text.hexDigit? c).any (· < base)

/-- Decimal digits without a needless leading zero. -/
def wholeDigits? (s : List Char) : Option (List Char) :=
  (separated? Char.isDigit s).bind fun digits =>
    match digits with
    | '0' :: _ :: _ => none
    | digits => some digits

def integer? (word : List Char) : Option Int :=
  match word with
  | '0' :: 'x' :: rest => (separated? (isDigitOf 16) rest).map fun ds => (valueIn 16 ds : Int)
  | '0' :: 'o' :: rest => (separated? (isDigitOf 8) rest).map fun ds => (valueIn 8 ds : Int)
  | '0' :: 'b' :: rest => (separated? (isDigitOf 2) rest).map fun ds => (valueIn 2 ds : Int)
  | _ =>
    let (negative, rest) := signed word
    (wholeDigits? rest).map fun ds =>
      let n : Int := Text.digitsValue ds
      if negative then -n else n

/-- The exponent that follows the letter `e`. -/
def exponent? (s : List Char) : Option Int :=
  let (negative, rest) := signed s
  (separated? Char.isDigit rest).map fun ds =>
    let n : Int := Text.digitsValue ds
    if negative then -n else n

def isExponentMark (c : Char) : Bool := c = 'e' || c = 'E'

/-- The finite number with the given digits, fraction digits and exponent. -/
def finite? (negative : Bool) (whole fraction : List Char) (exponent : Int) : Option Real :=
  -- leading zeros would count against the bound on the digits
  let digits := (whole ++ fraction).dropWhile (· = '0')
  (Binary64.nearestDecimal? (Text.digitsValue digits) digits.length
    (exponent - fraction.length)).map fun x => .finite (x.withSign negative)

/-- The floating-point number that a word writes: it has a fraction, an exponent, or a
name. -/
def real? (word : List Char) : Option Real :=
  let (negative, rest) := signed word
  if rest = "inf".toList then some (.infinite negative)
  else if rest = "nan".toList then some .undefined
  else
    let mantissa := rest.takeWhile fun c => !isExponentMark c
    let power := rest.dropWhile fun c => !isExponentMark c
    let exponent :=
      match power with
      | [] => some 0
      | _ :: digits => exponent? digits
    match Text.cutAt? '.' mantissa, exponent with
    | _, none => none
    | some (whole, fraction), some e =>
      match wholeDigits? whole, separated? Char.isDigit fraction with
      | some whole, some fraction => finite? negative whole fraction e
      | _, _ => none
    | none, some e =>
      if power.isEmpty then none
      else (wholeDigits? mantissa).bind fun whole => finite? negative whole [] e

end BlockDiscovery.Toml
