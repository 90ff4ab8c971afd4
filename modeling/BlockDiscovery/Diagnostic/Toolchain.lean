import BlockDiscovery.Diagnostic.Escape
import BlockDiscovery.Diagnostic.Label
import BlockDiscovery.Diagnostic.Location
import BlockDiscovery.Diagnostic.Payload

/-!
# Cleaning the diagnostics of each toolchain

Every toolchain decorates messages in its own way.  An `Adapter` removes that noise:
it hands on the payload of a message if there is one, and else the text that
remains when the toolchain's decoration is gone.
-/

namespace BlockDiscovery.Diagnostic

open BlockDiscovery BlockDiscovery.Json

/-- How the messages of a language are cleaned. -/
inductive Adapter where
  | passthrough
  | rust
  | python
  | nim
  | zig
  | d
  | crystal
  | lean
  | go
  /-- Only the escape sequences are removed. -/
  | escapesOnly
  /-- Only one level of quoting is undone. -/
  | unescape
  deriving Repr, DecidableEq, Inhabited

/-! ## Finding the payload -/

/-- Whether a payload's object is valid JSON for a reader that only passes over
it. -/
def isJsonPayload (payload : List Char) : Bool :=
  match marker.isPrefixOf? payload with
  | some json => isLooseJson json
  | none => false

/-- The payload of a text: as it stands if that is valid, else with one level of
quoting undone if that is valid, else as it stands. -/
def payloadIn? (s : List Char) : Option (List Char) :=
  let direct := payload? s
  if direct.any isJsonPayload then direct
  else if Text.hasWord ['\\', '"'] s then
    -- undoing the quoting of text that is none could spoil the payload, so it comes second
    let unescaped := payload? (unescapeQuotes s)
    if unescaped.any isJsonPayload then unescaped else direct
  else direct

/-! ## Removing noise -/

/-- The text without a location and the severity labels behind it. -/
def stripLocated (s : List Char) : List Char := stripSeverity (stripLocation s)

/-- The last line that is not blank; the whole text when every line is. -/
def lastFilledLine (s : List Char) : List Char :=
  ((Text.lines s).reverse.find? fun line => !(Text.trim line).isEmpty).getD s

/-- Tracebacks and exception classes. -/
def pythonNoise (s : List Char) : List Char :=
  let line := if "Traceback".toList.isPrefixOf s then lastFilledLine s else s
  stripSeverity (stripException line)

def nimAnnouncement : List Char := "unhandled exception:".toList

/-- A location, labels and the announcement of an unhandled exception. -/
def nimNoise (s : List Char) : List Char :=
  let rest := stripLocated s
  match nimAnnouncement.isPrefixOf? rest with
  | some message => Text.trimStart message
  | none => rest

def isLabelled (line : List Char) : Bool :=
  (stripSeverity line).length < (Text.trimStart line).length

/-- Everything before the first labelled line, and everything after it. -/
def crystalNoise (s : List Char) : List Char :=
  stripSeverity (((Text.lines s).find? isLabelled).getD s)

/-- Clean a message: drop escape sequences, hand on the payload if there is one, and
else remove the toolchain's noise from the line with the marker, or from the whole
text when no line has one. -/
def cleanWith (noise : List Char → List Char) (message : List Char) : List Char :=
  let s := stripEscapes message
  match payloadIn? s with
  | some payload => payload
  | none => Text.trim (noise (Text.trim ((markerLine? s).getD s)))

/-- The text an adapter makes of a message. -/
def Adapter.clean : Adapter → List Char → List Char
  | .passthrough => Text.trim
  | .rust | .zig | .d | .lean | .go => cleanWith stripLocated
  | .python => cleanWith pythonNoise
  | .nim => cleanWith nimNoise
  | .crystal => cleanWith crystalNoise
  | .escapesOnly => stripEscapes
  | .unescape => unescapeQuotes

end BlockDiscovery.Diagnostic
