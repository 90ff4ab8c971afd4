import BlockDiscovery.Block.Notification

/-!
# Payloads inside diagnostics

A diagnostic announces a block by the marker `vivafolio:` and a JSON object behind
it.  The object is found by matching braces, which counts neither braces inside
string literals nor escaped quotes.
-/

namespace BlockDiscovery.Diagnostic

open BlockDiscovery BlockDiscovery.Json

/-- The word that introduces a payload. -/
def marker : List Char := "vivafolio:".toList

/-- The first line that contains the marker. -/
def markerLine? (s : List Char) : Option (List Char) :=
  (Text.lines s).find? (Text.hasWord marker)

/-! ## Brace matching -/

/-- Where brace matching is, in or out of a string literal. -/
inductive BraceState where
  | outside
  | inString
  | escaped
  deriving Repr, DecidableEq

/-- The shortest start of the text that closes every brace it opens, from a given
depth and state on; `none` when a brace closes too many or the text ends first. -/
def balancedFrom? : Nat → BraceState → List Char → Option (List Char)
  | _, _, [] => none
  | depth, .escaped, c :: rest => (balancedFrom? depth .inString rest).map (c :: ·)
  | depth, .inString, c :: rest =>
    (balancedFrom? depth
      (if c = '\\' then .escaped else if c = '"' then .outside else .inString) rest).map (c :: ·)
  | depth, .outside, c :: rest =>
    if c = '"' then (balancedFrom? depth .inString rest).map (c :: ·)
    else if c = '\x7b' then (balancedFrom? (depth + 1) .outside rest).map (c :: ·)
    else if c = '\x7d' then
      match depth with
      | 0 => none
      | 1 => some [c]
      | depth + 2 => (balancedFrom? (depth + 1) .outside rest).map (c :: ·)
    else (balancedFrom? depth .outside rest).map (c :: ·)

/-- The object a text starts with, as far as braces tell. -/
def leadingObject? (s : List Char) : Option (List Char) :=
  match s with
  | c :: _ => if c = '\x7b' then balancedFrom? 0 .outside s else none
  | [] => none

/-- A payload as adapters hand it on: the marker, one space and the object. -/
def payloadText (object : List Char) : List Char := marker ++ ' ' :: object

/-- The payload of a text: that of the first marker with a complete object behind
it. -/
def payload? (s : List Char) : Option (List Char) :=
  ((Text.afterEach marker s).findSome? fun rest => leadingObject? (Text.trimStart rest)).map payloadText

/-! ## Quoted payloads -/

/-- The text with one level of quoting undone: a backslash before a quote or a
backslash is dropped. -/
def unescapeQuotes : List Char → List Char
  | [] => []
  | [c] => [c]
  | c :: d :: rest =>
    if c = '\\' ∧ (d = '"' ∨ d = '\\') then d :: unescapeQuotes rest
    else c :: unescapeQuotes (d :: rest)

/-! ## Parsing -/

/-- Why an adapted text yields no block. -/
inductive PayloadError where
  | missingMarker
  | invalidJson (problem : DecodeError)
  deriving Repr, DecidableEq

/-- The message of a payload error.  Where an invalid payload is not of the right
form, only the category of the problem is told. -/
def PayloadError.message : PayloadError → List Char
  | .missingMarker => "diagnostic carries no `vivafolio:` marker".toList
  | .invalidJson problem => "invalid block payload: ".toList ++ problem.message

/-- The notification that an adapted text carries behind its first marker. -/
def parsePayload (s : List Char) : Except PayloadError Block.Notification :=
  match Text.afterEach marker s with
  | [] => .error .missingMarker
  | rest :: _ => (decodeText Block.Notification.decode (Text.trim rest)).mapError .invalidJson

end BlockDiscovery.Diagnostic
