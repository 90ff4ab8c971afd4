import BlockDiscovery.Text.Blank

/-!
# Leading source locations

A message may start with `path:line:column:`, `path:line:`, `path(line, column)`
or `path(line):`.  `stripLocation` drops such a start and the blanks behind it.
-/

namespace BlockDiscovery.Diagnostic

open BlockDiscovery

/-- Whether a text is a non-empty run of decimal digits. -/
def isNumeral (s : List Char) : Bool := !s.isEmpty && s.all fun c => '0' ≤ c && c ≤ '9'

/-- The text before and after the last colon, if there is one. -/
def cutAtLastColon? (s : List Char) : Option (List Char × List Char) :=
  (Text.cutAt? ':' s.reverse).map fun (after, before) => (before.reverse, after.reverse)

/-- Whether a first word, its final colon dropped, is a location: its last piece
between colons is a number, the piece before is not empty, and if that is a number
too, a path precedes both. -/
def isColonLocation (word : List Char) : Bool :=
  match cutAtLastColon? word with
  | none => false
  | some (before, last) =>
    let (path, middle) :=
      match cutAtLastColon? before with
      | some (path, middle) => (path, middle)
      -- one colon: there is no column
      | none => ([], before)
    isNumeral last && !middle.isEmpty && (!isNumeral middle || !path.isEmpty)

/-- The text behind a location written with colons, if it starts with one. -/
def afterColonLocation? (s : List Char) : Option (List Char) :=
  let word := s.takeWhile fun c => !Text.isBlank c
  let rest := s.dropWhile fun c => !Text.isBlank c
  match word.getLast? with
  | some ':' => if isColonLocation word.dropLast then some (Text.trimStart rest) else none
  | _ => none

/-- The text behind a location written with parentheses, if it starts with one: a
path without blanks, then numbers between commas inside the parentheses, then an
optional colon. -/
def afterParenLocation? (s : List Char) : Option (List Char) :=
  match Text.cutAt? '(' s with
  | none => none
  | some (path, rest) =>
    if path.isEmpty || path.any Text.isBlank then none
    else
      match Text.cutAt? ')' rest with
      | none => none
      | some (inside, rest) =>
        if (Text.pieces ',' inside).all fun n => isNumeral (Text.trim n) then
          match rest with
          | ':' :: rest => some (Text.trimStart rest)
          | _ => some (Text.trimStart rest)
        else none

/-- The text without leading blanks and, if it starts with one, the location. -/
def stripLocation (s : List Char) : List Char :=
  let s := Text.trimStart s
  ((afterParenLocation? s).or (afterColonLocation? s)).getD s

end BlockDiscovery.Diagnostic
