import BlockDiscovery.Text.Blank

/-!
# Terminal escape sequences

Toolchains colour their messages.  `stripEscapes` drops the escape sequences of a
text, complete or cut short, and keeps every other character.
-/

namespace BlockDiscovery.Diagnostic

def esc : Char := '\x1b'

/-- The bell, which ends a control string. -/
def bell : Char := '\x07'

/-- The control sequence introducer as a single character. -/
def singleIntroducer : Char := Char.ofNat 0x9b

/-- The characters that end a control sequence. -/
def endsControlSequence (c : Char) : Bool := '@' ≤ c && c ≤ '~'

/-- After the escape character, the openers of a control string. -/
def opensControlString (c : Char) : Bool :=
  c = ']' || c = 'P' || c = 'X' || c = '^' || c = '_'

/-- After the escape character, the openers of a charset designation, which takes
one more character. -/
def designatesCharset (c : Char) : Bool := c = '(' || c = ')' || c = '*' || c = '+'

/-- Where a scan of escape sequences is. -/
inductive EscapeState where
  /-- Outside every sequence. -/
  | plain
  /-- Behind an escape character. -/
  | opened
  /-- Inside a control sequence. -/
  | sequence
  /-- Inside a control string. -/
  | controlString
  /-- Inside a control string, behind an escape character. -/
  | controlStringEscape
  /-- Before the last character of a charset designation. -/
  | charset
  deriving Repr, DecidableEq

/-- The state after one character, and whether the character is kept. -/
def EscapeState.next (s : EscapeState) (c : Char) : EscapeState × Bool :=
  match s with
  | .plain =>
    if c = esc then (.opened, false)
    else if c = singleIntroducer then (.sequence, false)
    else (.plain, true)
  | .opened =>
    if c = '[' then (.sequence, false)
    else if opensControlString c then (.controlString, false)
    else if designatesCharset c then (.charset, false)
    else (.plain, false)
  | .sequence => (if endsControlSequence c then .plain else .sequence, false)
  | .controlString =>
    (if c = bell then .plain else if c = esc then .controlStringEscape else .controlString, false)
  | .controlStringEscape =>
    (if c = '\\' then .plain
     else if c = bell then .plain
     -- the string goes on, perhaps with its end
     else if c = esc then .controlStringEscape
     else .controlString, false)
  | .charset => (.plain, false)

/-- The characters a scan keeps, from a given state on. -/
def keptFrom : EscapeState → List Char → List Char
  | _, [] => []
  | s, c :: rest =>
    match s.next c with
    | (s, true) => c :: keptFrom s rest
    | (s, false) => keptFrom s rest

def stripEscapes (s : List Char) : List Char := keptFrom .plain s

end BlockDiscovery.Diagnostic
