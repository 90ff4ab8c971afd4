import BlockDiscovery.Text.Blank

/-!
# Strings of a configuration

Basic strings know escapes, literal strings take every character as it stands.  Both
come on one line, or between three quotes on several lines; a line break right after
the opening quotes does not count, and up to two quotes may stand before the closing
ones.
-/

namespace BlockDiscovery.Toml

open BlockDiscovery

/-- A reader: what it read and the rest of the text. -/
abbrev Scan (α : Type) := List Char → Option (α × List Char)

/-- Whether a character may stand in a string as it is. -/
def isStringChar (c : Char) : Bool := c = '\t' || (0x20 ≤ c.toNat && c.toNat ≠ 0x7F)

/-- Whether a character separates words on a line. -/
def isSpace (c : Char) : Bool := c = ' ' || c = '\t'

def newline? : List Char → Option (List Char)
  | '\n' :: rest => some rest
  | '\r' :: '\n' :: rest => some rest
  | _ => none

/-- Whether a number is the code of a character. -/
def isCode (n : Nat) : Bool := n < 0xD800 || (0xE000 ≤ n && n ≤ 0x10FFFF)

def hexCode : Nat → Nat → Scan Nat
  | 0, n, s => some (n, s)
  | _ + 1, _, [] => none
  | count + 1, n, c :: rest =>
    (Text.hexDigit? c).bind fun d => hexCode count (n * 16 + d) rest

/-- The character that hexadecimal digits name. -/
def codePoint (count : Nat) : Scan Char := fun s =>
  match hexCode count 0 s with
  | some (n, rest) => if isCode n then some (Char.ofNat n, rest) else none
  | none => none

/-- The character that an escape names, from behind the backslash. -/
def escaped : Scan Char
  | 'b' :: rest => some ('\x08', rest)
  | 't' :: rest => some ('\t', rest)
  | 'n' :: rest => some ('\n', rest)
  | 'f' :: rest => some ('\x0c', rest)
  | 'r' :: rest => some ('\r', rest)
  | 'e' :: rest => some ('\x1b', rest)
  | '"' :: rest => some ('"', rest)
  | '\\' :: rest => some ('\\', rest)
  | 'x' :: rest => codePoint 2 rest
  | 'u' :: rest => codePoint 4 rest
  | 'U' :: rest => codePoint 8 rest
  | _ => none

/-- A character before what a reader has read. -/
def consTo (c : Char) : List Char × List Char → List Char × List Char
  | (s, rest) => (c :: s, rest)

/-- The rest of a basic string on one line; `fuel` bounds its length. -/
def basicRest : Nat → Scan (List Char)
  | 0, _ => none
  | _ + 1, [] => none
  | fuel + 1, c :: rest =>
    if c = '"' then some ([], rest)
    else if c = '\\' then
      (escaped rest).bind fun (e, rest) => (basicRest fuel rest).map (consTo e)
    else if isStringChar c then (basicRest fuel rest).map (consTo c)
    else none

/-- The rest of a literal string on one line. -/
def literalRest : Scan (List Char)
  | [] => none
  | c :: rest =>
    if c = '\'' then some ([], rest)
    else if isStringChar c then (literalRest rest).map (consTo c)
    else none

/-- What a run of quotes in a string on several lines means: the quotes that belong to
the string, and whether the string ends. -/
def quoteRun (quote : Char) (run : Nat) : Option (List Char × Bool) :=
  if run < 3 then some (List.replicate run quote, false)
  else if run ≤ 5 then some (List.replicate (run - 3) quote, true)
  else none

/-- Blanks and line breaks at the start of a text taken off; `fuel` bounds their
number. -/
def skipBreaks : Nat → List Char → List Char
  | 0, s => s
  | fuel + 1, s =>
    match s with
    | c :: rest =>
      if isSpace c then skipBreaks fuel rest
      else
        match newline? s with
        | some rest => skipBreaks fuel rest
        | none => s
    | [] => []

/-- The rest of a string on several lines; `isBasic` says that escapes count. -/
def longRest (isBasic : Bool) (quote : Char) : Nat → Scan (List Char)
  | 0, _ => none
  | _ + 1, [] => none
  | fuel + 1, c :: rest =>
    if c = quote then
      let run := (c :: rest).takeWhile (· = quote)
      let after := (c :: rest).dropWhile (· = quote)
      match quoteRun quote run.length with
      | some (quotes, true) => some (quotes, after)
      | some (quotes, false) =>
        (longRest isBasic quote fuel after).map fun (s, rest) => (quotes ++ s, rest)
      | none => none
    else if c = '\\' ∧ isBasic then
      -- a backslash at the end of a line takes the break and all blanks after it along
      match newline? (rest.dropWhile isSpace) with
      | some next => longRest isBasic quote fuel (skipBreaks next.length next)
      | none => (escaped rest).bind fun (e, rest) => (longRest isBasic quote fuel rest).map (consTo e)
    else if isStringChar c ∨ c = '\n' then (longRest isBasic quote fuel rest).map (consTo c)
    else if c = '\r' then
      match rest with
      | '\n' :: _ => (longRest isBasic quote fuel rest).map (consTo c)
      | _ => none
    else none

/-- The text after an opening line break. -/
def dropBreak (s : List Char) : List Char := (newline? s).getD s

/-- A string on one line. -/
def shortString : Scan (List Char)
  | '"' :: rest => basicRest (rest.length + 1) rest
  | '\'' :: rest => literalRest rest
  | _ => none

def anyString (s : List Char) : Option (List Char × List Char) :=
  match s with
  | '"' :: '"' :: '"' :: rest => longRest true '"' (rest.length + 1) (dropBreak rest)
  | '\'' :: '\'' :: '\'' :: rest => longRest false '\'' (rest.length + 1) (dropBreak rest)
  | s => shortString s

end BlockDiscovery.Toml
