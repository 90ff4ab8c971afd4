import BlockDiscovery.Text.Blank

/-!
# Leading labels

Severity labels such as `error:` or `error[E0080]:`, which may repeat, and the
class of an exception such as `ValueError:`.
-/

namespace BlockDiscovery.Diagnostic

open BlockDiscovery

/-! ## Severity -/

def severityWords : List (List Char) :=
  ["error".toList, "warning".toList, "note".toList, "help".toList, "hint".toList, "info".toList,
    "fatal".toList]

/-- Whether a character is a letter `a` to `z` or `A` to `Z`. -/
def isLetter (c : Char) : Bool := ('a' ≤ c && c ≤ 'z') || ('A' ≤ c && c ≤ 'Z')

/-- The text behind a bracketed code, if the text starts with a bracket; `none`
when the bracket stays open. -/
def afterCode? : List Char → Option (List Char)
  | '[' :: rest => (Text.cutAt? ']' rest).map Prod.snd
  | rest => some rest

/-- The text behind the severity label it starts with, if it starts with one: a
severity word in any case, an optional bracketed code and a colon. -/
def afterSeverity? (s : List Char) : Option (List Char) :=
  if severityWords.any fun w => Text.sameIgnoringCase w (s.takeWhile isLetter) then
    match afterCode? (s.dropWhile isLetter) with
    -- the colon must follow at once
    | some (':' :: rest) => some rest
    | _ => none
  else none

/-- Drop blanks and severity labels from the start, at most `limit` labels. -/
def dropSeverities : Nat → List Char → List Char
  | 0, s => Text.trimStart s
  | limit + 1, s =>
    match afterSeverity? (Text.trimStart s) with
    | some rest => dropSeverities limit rest
    | none => Text.trimStart s

/-- The text without leading blanks and severity labels.  A label is longer than
one character, so the length of the text bounds their number. -/
def stripSeverity (s : List Char) : List Char := dropSeverities s.length s

/-! ## Exceptions -/

/-- The characters of a dotted class name. -/
def isNameChar (c : Char) : Bool :=
  isLetter c || ('0' ≤ c && c ≤ '9') || c = '_' || c = '.'

/-- Whether a dotted name ends in a class that names an exception. -/
def namesException (name : List Char) : Bool :=
  let className := ((Text.pieces '.' name).getLast?).getD name
  ["Error", "Exception", "Warning"].any fun ending => ending.toList.isSuffixOf className

/-- The text without leading blanks and, if it starts with one, the class of an
exception and its colon. -/
def stripException (s : List Char) : List Char :=
  let s := Text.trimStart s
  match Text.cutAt? ':' s with
  | some (name, rest) =>
    if !name.isEmpty && name.all isNameChar && namesException name then Text.trimStart rest else s
  | none => s

end BlockDiscovery.Diagnostic
