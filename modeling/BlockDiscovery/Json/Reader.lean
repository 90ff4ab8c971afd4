import BlockDiscovery.Json.Document

/-!
# Reading JSON text

`Doc.read` turns a text into a document and the text behind it.  The readers of
tokens come first: string literals (read strictly and loosely), numerals, and the
three words.  A reader never looks further than the first place that is wrong.
-/

namespace BlockDiscovery.Json

open BlockDiscovery

/-- The blanks that JSON allows between tokens. -/
def isJsonBlank (c : Char) : Bool := c = ' ' || c = '\n' || c = '\t' || c = '\r'

def skipBlank (s : List Char) : List Char := s.dropWhile isJsonBlank

/-! ## String literals -/

/-- The characters that stand for another one after a backslash. -/
def escaped? (c : Char) : Option Char :=
  if c = '"' then some '"'
  else if c = '\\' then some '\\'
  else if c = '/' then some '/'
  else if c = 'b' then some '\x08'
  else if c = 'f' then some '\x0c'
  else if c = 'n' then some '\n'
  else if c = 'r' then some '\r'
  else if c = 't' then some '\t'
  else none

/-- The 16-bit unit that four hexadecimal digits name. -/
def codeUnit? (a b c d : Char) : Option Nat := do
  let a ← Text.hexDigit? a
  let b ← Text.hexDigit? b
  let c ← Text.hexDigit? c
  let d ← Text.hexDigit? d
  return ((a * 16 + b) * 16 + c) * 16 + d

/-- A unit that must be followed by a low surrogate. -/
def isHighSurrogate (n : Nat) : Bool := 0xD800 ≤ n && n ≤ 0xDBFF

/-- A unit that may only follow a high surrogate. -/
def isLowSurrogate (n : Nat) : Bool := 0xDC00 ≤ n && n ≤ 0xDFFF

/-- The character two surrogates name. -/
def pairedChar (high low : Nat) : Char :=
  Char.ofNat (0x10000 + (high - 0xD800) * 0x400 + (low - 0xDC00))

/-- The fault of an escape whose four digits are not all there: the text is
truncated when fewer than four bytes follow, and malformed otherwise. -/
def digitFault (rest : List Char) : Fault :=
  if (String.ofList (rest.take 4)).utf8ByteSize < 4 then .truncated else .malformed

/-- The characters of a string literal after its opening quote, and the text
behind its closing quote; `done` holds the characters so far, last first. -/
def readString (done : List Char) : List Char → Except Fault (List Char × List Char)
  | [] => .error .truncated
  | c :: rest =>
    if c = '"' then .ok (done.reverse, rest)
    else if c = '\\' then
      match rest with
      | [] => .error .truncated
      | 'u' :: h₁ :: h₂ :: h₃ :: h₄ :: more =>
        match codeUnit? h₁ h₂ h₃ h₄ with
        | none => .error .malformed
        | some unit =>
          -- a low half without the high one before it
          if isLowSurrogate unit then .error .malformed
          else if isHighSurrogate unit then
            match more with
            | '\\' :: 'u' :: l₁ :: l₂ :: l₃ :: l₄ :: tail =>
              match codeUnit? l₁ l₂ l₃ l₄ with
              | none => .error .malformed
              | some low =>
                if isLowSurrogate low then readString (pairedChar unit low :: done) tail
                else .error .malformed
            | '\\' :: 'u' :: few => .error (digitFault few)
            -- the second half may begin where the text ends
            | [] | ['\\'] => .error .truncated
            | _ => .error .malformed
          else readString (Char.ofNat unit :: done) more
      | 'u' :: few => .error (digitFault few)
      | e :: more =>
        match escaped? e with
        | some c => readString (c :: done) more
        | none => .error .malformed
    else if c.toNat < 0x20 then .error .malformed
    else readString (c :: done) rest

/-- The text behind a string literal, from after its opening quote, when the
literal is only passed over. -/
def passString : List Char → Except Fault (List Char)
  | [] => .error .truncated
  | c :: rest =>
    if c = '"' then .ok rest
    else if c = '\\' then
      match rest with
      | [] => .error .truncated
      | 'u' :: h₁ :: h₂ :: h₃ :: h₄ :: more =>
        match codeUnit? h₁ h₂ h₃ h₄ with
        | none => .error .malformed
        -- halves of pairs pass, since nobody wants the character
        | some _ => passString more
      | 'u' :: few => .error (digitFault few)
      | e :: more =>
        match escaped? e with
        | some _ => passString more
        | none => .error .malformed
    else if c.toNat < 0x20 then .error .malformed
    else passString rest

/-! ## Numerals -/

/-- A numeral as written: its sign, the digits before and after the point, and
the sign and digits of the exponent. -/
structure Numeral where
  negative : Bool
  whole : List Char
  fraction : Option (List Char)
  exponent : Option (Bool × List Char)
  deriving Repr, DecidableEq

def isDigit (c : Char) : Bool := '0' ≤ c && c ≤ '9'

def takeDigits (s : List Char) : List Char × List Char := (s.takeWhile isDigit, s.dropWhile isDigit)

/-- The fault of a numeral that lacks a digit where `s` begins. -/
def missingDigit (s : List Char) : Fault := if s.isEmpty then .truncated else .malformed

/-- The digits before the point: a zero stands alone. -/
def readWhole (s : List Char) : Except Fault (List Char × List Char) :=
  match takeDigits s with
  | ([], rest) => .error (missingDigit rest)
  | ('0' :: _ :: _, _) => .error .malformed
  | (ds, rest) => .ok (ds, rest)

/-- The digits after a point, if there is one. -/
def readFraction : List Char → Except Fault (Option (List Char) × List Char)
  | '.' :: rest =>
    match takeDigits rest with
    | ([], rest) => .error (missingDigit rest)
    | (ds, rest) => .ok (some ds, rest)
  | s => .ok (none, s)

/-- The exponent, if there is one. -/
def readExponent : List Char → Except Fault (Option (Bool × List Char) × List Char)
  | e :: rest =>
    if e = 'e' ∨ e = 'E' then
      let (negative, rest) :=
        match rest with
        | '-' :: more => (true, more)
        | '+' :: more => (false, more)
        | _ => (false, rest)
      match takeDigits rest with
      | ([], rest) => .error (missingDigit rest)
      | (ds, rest) => .ok (some (negative, ds), rest)
    else .ok (none, e :: rest)
  | [] => .ok (none, [])

/-- The numeral a text starts with. -/
def readNumeral (s : List Char) : Except Fault (Numeral × List Char) := do
  let (negative, s) :=
    match s with
    | '-' :: rest => (true, rest)
    | _ => (false, s)
  let (whole, s) ← readWhole s
  let (fraction, s) ← readFraction s
  let (exponent, s) ← readExponent s
  return (⟨negative, whole, fraction, exponent⟩, s)

/-- Take digits into a significand below `2 ^ 64`, up to the first that does not
fit: the significand, how many were taken and how many were left. -/
def takeSignificand (significand : Nat) : List Char → Nat × Nat × Nat
  | [] => (significand, 0, 0)
  | d :: rest =>
    let next := significand * 10 + (d.toNat - '0'.toNat)
    if next < 0x1_0000_0000_0000_0000 then
      let (s, taken, left) := takeSignificand next rest
      (s, taken + 1, left)
    else (significand, 0, rest.length + 1)

/-- The number a numeral names: an exact integer when it has neither fraction nor
exponent and is in range, and else the double that its leading digits and its
decimal exponent give.  Negative zero is a double. -/
def Numeral.value? (n : Numeral) : Option Number :=
  let (significand, _, dropped) := takeSignificand 0 n.whole
  let (significand, taken, _) :=
    match n.fraction with
    | some ds => takeSignificand significand ds
    | none => (significand, 0, 0)
  -- a digit that did not fit stands for a power of ten
  let exponent : Int := (dropped : Int) - taken +
    match n.exponent with
    | some (true, ds) => -(Text.digitsValue ds : Int)
    | some (false, ds) => (Text.digitsValue ds : Int)
    | none => 0
  let double :=
    (Decimal.Binary64.ofDecimal? significand exponent).map fun x => Number.double (x.withSign n.negative)
  if n.fraction.isNone ∧ n.exponent.isNone ∧ dropped = 0 then
    -- minus zero is no integer
    if n.negative then
      if 0 < significand ∧ significand ≤ 0x8000_0000_0000_0000 then some (.int (-significand)) else double
    else some (.int significand)
  else double

/-! ## Documents -/

/-- What a reader found: a document and, unless it is broken, the text behind it. -/
structure Reading where
  doc : Doc
  rest : Option (List Char)
  deriving Inhabited

/-- No value stands here. -/
def Reading.broken (strict loose : Fault) : Reading := ⟨.broken strict loose, none⟩

/-- A word, of which the first letter was seen and `letters` remain. -/
def readWord (doc : Doc) : List Char → List Char → Reading
  | [], s => ⟨doc, some s⟩
  | _ :: _, [] => .broken .truncated .truncated
  | l :: letters, c :: s => if l = c then readWord doc letters s else .broken .malformed .malformed

/-- A string literal, from after its opening quote: its strict reading and the
text behind it, or the faults of both readers. -/
def readLiteral (s : List Char) : Except (Fault × Fault) (Except Fault String × List Char) :=
  let strict := (readString [] s).map fun (cs, _) => String.ofList cs
  match passString s with
  | .ok rest => .ok (strict, rest)
  | .error loose =>
    match strict with
    -- not reached: what is read strictly is passed over too
    | .ok _ => .error (loose, loose)
    | .error fault => .error (fault, loose)

/-- A number; passed over loosely, a numeral without its digits is malformed even
where the text ends. -/
def readNumber (s : List Char) : Reading :=
  match readNumeral s with
  | .error fault => .broken fault .malformed
  | .ok (numeral, rest) =>
    match numeral.value? with
    | some n => ⟨.number (.ok n), some rest⟩
    | none => ⟨.number (.error .malformed), some rest⟩

mutual

/-- The value a text starts with, blanks before it skipped.  The first argument
bounds the number of calls; twice the length of the text is enough. -/
def readValue : Nat → List Char → Reading
  | 0, _ => .broken .malformed .malformed
  | fuel + 1, s =>
    match skipBlank s with
    | [] => .broken .truncated .truncated
    | c :: rest =>
      if c = '"' then
        match readLiteral rest with
        | .ok (string, rest) => ⟨.string string, some rest⟩
        | .error (strict, loose) => .broken strict loose
      else if c = '[' then
        match skipBlank rest with
        | [] => ⟨.array [] (.broken .truncated .truncated), none⟩
        | d :: more =>
          if d = ']' then ⟨.array [] .closed, some more⟩ else readItems fuel [] (d :: more)
      else if c = '\x7b' then
        match skipBlank rest with
        | [] => ⟨.object [] (.broken .truncated .truncated), none⟩
        | d :: more =>
          if d = '\x7d' then ⟨.object [] .closed, some more⟩ else readMembers fuel [] (d :: more)
      else if c = 'n' then readWord .null ['u', 'l', 'l'] rest
      else if c = 't' then readWord (.bool true) ['r', 'u', 'e'] rest
      else if c = 'f' then readWord (.bool false) ['a', 'l', 's', 'e'] rest
      else if c = '-' ∨ isDigit c then readNumber (c :: rest)
      else .broken .malformed .malformed

/-- The items of an array from the place of one of them; `done` holds those
before it, last first. -/
def readItems : Nat → List Doc → List Char → Reading
  | 0, _, _ => .broken .malformed .malformed
  | fuel + 1, done, s =>
    let item := readValue fuel s
    let done := item.doc :: done
    match item.rest with
    -- the item is broken, and says so itself
    | none => ⟨.array done.reverse .closed, none⟩
    | some s =>
      match skipBlank s with
      | [] => ⟨.array done.reverse (.broken .truncated .truncated), none⟩
      | c :: rest =>
        if c = ']' then ⟨.array done.reverse .closed, some rest⟩
        else if c = ',' then readItems fuel done rest
        else ⟨.array done.reverse (.broken .malformed .malformed), none⟩

/-- The members of an object from the place of a key; `done` holds those before
it, last first. -/
def readMembers : Nat → List (Except Fault String × Doc) → List Char → Reading
  | 0, _, _ => .broken .malformed .malformed
  | fuel + 1, done, s =>
    match skipBlank s with
    | [] => ⟨.object done.reverse (.broken .truncated .truncated), none⟩
    | c :: rest =>
      if c = '"' then
        match readLiteral rest with
        | .error (strict, loose) => ⟨.object done.reverse (.broken strict loose), none⟩
        | .ok (key, s) =>
          match skipBlank s with
          -- the key counts, with a broken value
          | [] => ⟨.object ((key, .broken .truncated .truncated) :: done).reverse .closed, none⟩
          | c :: rest =>
            if c = ':' then
              let member := readValue fuel rest
              let done := (key, member.doc) :: done
              match member.rest with
              | none => ⟨.object done.reverse .closed, none⟩
              | some s =>
                match skipBlank s with
                | [] => ⟨.object done.reverse (.broken .truncated .truncated), none⟩
                | c :: rest =>
                  if c = '\x7d' then ⟨.object done.reverse .closed, some rest⟩
                  else if c = ',' then readMembers fuel done rest
                  else ⟨.object done.reverse (.broken .malformed .malformed), none⟩
            else ⟨.object ((key, .broken .malformed .malformed) :: done).reverse .closed, none⟩
      else ⟨.object done.reverse (.broken .malformed .malformed), none⟩

end

/-- The document a text starts with. -/
def Doc.read (s : List Char) : Reading := readValue (2 * s.length + 2) s

/-- Whether the text is one JSON value as far as a loose reader can tell, with
nothing but blanks around it. -/
def isLooseJson (s : List Char) : Bool :=
  match Doc.read s with
  | ⟨doc, some rest⟩ => doc.flaw.isNone && (skipBlank rest).isEmpty
  | ⟨_, none⟩ => false

end BlockDiscovery.Json
