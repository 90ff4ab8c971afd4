import BlockDiscovery.Uri.Host
import BlockDiscovery.Uri.Path

/-!
# Reading the path of a URI

`segments?` reads a URI as web browsers do, as far as it names something in a file
system: it has the path segments of an address without a host or with the host
`localhost`, and nothing for every other address and for text that is no absolute
URI.  Queries and fragments are passed over.
-/

namespace BlockDiscovery.Uri

open BlockDiscovery

/-! ## Schemes -/

/-- How addresses of a scheme are read. -/
inductive SchemeKind where
  | file
  /-- There must be a host, and a backslash counts as a slash. -/
  | web
  | other
  deriving Repr, DecidableEq

/-- The kind of a scheme in lower case. -/
def SchemeKind.ofName (name : List Char) : SchemeKind :=
  if name = "file".toList then .file
  else if ["http", "https", "ws", "wss", "ftp"].any (·.toList = name) then .web
  else .other

/-- Whether a character may stand in a scheme after its first letter. -/
def isSchemeChar (c : Char) : Bool :=
  c.isAlpha || c.isDigit || c = '+' || c = '-' || c = '.'

/-- The scheme of a URI and what follows the colon. -/
def schemeOf? (uri : List Char) : Option (SchemeKind × List Char) :=
  match Text.cutAt? ':' uri with
  | some (c :: name, rest) =>
    if c.isAlpha && name.all isSchemeChar then
      some (.ofName (Text.asciiLower (c :: name)), rest)
    else none
  | _ => none

/-- Whether a character separates segments. -/
def SchemeKind.separates (kind : SchemeKind) (c : Char) : Bool :=
  c = '/' || (c = '\\' && kind ≠ .other)

/-! ## Segments -/

/-- The pieces of a text between characters that satisfy `p`. -/
def piecesBy (p : Char → Bool) : List Char → List (List Char)
  | [] => [[]]
  | c :: rest =>
    if p c then [] :: piecesBy p rest
    else
      match piecesBy p rest with
      | [] => [[c]]
      | first :: more => (c :: first) :: more

/-- A dot or an escaped dot at the start of a text, taken off. -/
def dropDot? (s : List Char) : Option (List Char) :=
  match s with
  | '.' :: rest => some rest
  | '%' :: '2' :: e :: rest => if e = 'e' ∨ e = 'E' then some rest else none
  | _ => none

/-- Whether a segment is one dot, plain or escaped. -/
def isDot (segment : List Char) : Bool := dropDot? segment = some []

/-- Whether a segment is two dots, each plain or escaped. -/
def isDoubleDot (segment : List Char) : Bool := (dropDot? segment).any isDot

/-- Whether a text is a drive: a letter with a colon or a bar. -/
def isDrive (segment : List Char) : Bool :=
  match segment with
  | [c, mark] => c.isAlpha && (mark = ':' || mark = '|')
  | _ => false

/-- The segments above the last one; a drive stays. -/
def parent (segments : List (List Char)) : List (List Char) :=
  match segments.getLast? with
  | some last => if isDrive last then segments else segments.dropLast
  | none => []

/-- A segment as it is kept below the segments above it: a drive at the start of the
path of a file address is written with a colon. -/
def SchemeKind.settle (kind : SchemeKind) (above : List (List Char)) (segment : List Char) :
    List Char :=
  if kind = .file ∧ above = [] ∧ isDrive segment then segment.take 1 ++ [':'] else segment

/-- Resolve dots: `above` holds the segments before, and the last segment is empty
where dots stood. -/
def resolveDots (kind : SchemeKind) (above : List (List Char)) :
    List (List Char) → List (List Char)
  | [] => above
  | [last] =>
    if isDoubleDot last then parent above ++ [[]]
    else if isDot last then above ++ [[]]
    else above ++ [kind.settle above last]
  | segment :: rest =>
    if isDoubleDot segment then resolveDots kind (parent above) rest
    else if isDot segment then resolveDots kind above rest
    else resolveDots kind (above ++ [kind.settle above segment]) rest

/-- The segments that a text writes. -/
def segmentsOf (kind : SchemeKind) (text : List Char) : List (List Char) :=
  resolveDots kind [] (piecesBy kind.separates text)

/-- The segments of a path, whose first separator is passed over. -/
def pathSegments (kind : SchemeKind) (path : List Char) : List (List Char) :=
  segmentsOf kind <|
    match path with
    | c :: rest => if kind.separates c then rest else path
    | [] => []

/-- The segments of a file address: empty segments at the start are dropped, and one
segment is always left. -/
def dropEmptyStart (segments : List (List Char)) : List (List Char) :=
  match segments.dropWhile List.isEmpty with
  | [] => [[]]
  | segments => segments

/-! ## Authorities -/

/-- What follows the last `@` of a text, if there is one. -/
def afterLastAt? (s : List Char) : Option (List Char) :=
  if s.contains '@' then (Text.pieces '@' s).getLast? else none

/-- Whether the text after a host is a port: nothing, or a colon and a number below
`2 ^ 16`, which may be left out. -/
def isPort (s : List Char) : Bool :=
  match s with
  | [] => true
  | ':' :: digits => digits.all Char.isDigit && Text.digitsValue digits < 0x1_0000
  | _ => false

/-- Whether an authority names the local machine. -/
def isLocalAuthority (kind : SchemeKind) (authority : List Char) : Bool :=
  let credentials := afterLastAt? authority
  let hostAndPort := credentials.getD authority
  let host := hostAndPort.takeWhile (· ≠ ':')
  let port := hostAndPort.dropWhile (· ≠ ':')
  -- only other schemes may leave the host out, and then all of the authority
  if host.isEmpty then kind = .other && credentials.isNone && port.isEmpty
  else isPort port && (if kind = .other then host = localhost else isLocalhost host)

/-! ## Addresses -/

def endsPath (c : Char) : Bool := c = '?' || c = '#'

/-- The segments of a file address with an authority.  After an empty or local host
the path starts with an empty segment; a path that starts with a drive makes every host
local. -/
def hostedFile? (rest : List Char) : Option (List (List Char)) :=
  let host := rest.takeWhile fun c => !SchemeKind.file.separates c
  let path := rest.dropWhile fun c => !SchemeKind.file.separates c
  -- two slashes before a drive are no authority
  if isDrive host then some (segmentsOf .file rest)
  else if host.isEmpty || isLocalhost host then some (segmentsOf .file path)
  else
    let segments := pathSegments .file path
    if isHost host && segments.head?.any isDrive then some segments else none

/-- The segments of a file address, from what follows the scheme. -/
def fileAddress? (rest : List Char) : Option (List (List Char)) :=
  let segments? :=
    match rest with
    | a :: b :: after =>
      if SchemeKind.file.separates a && SchemeKind.file.separates b then hostedFile? after
      else some (pathSegments .file rest)
    | _ => some (pathSegments .file rest)
  segments?.map dropEmptyStart

/-- The segments of an address with an authority, from what follows the slashes. -/
def authorityAddress? (kind : SchemeKind) (rest : List Char) : Option (List (List Char)) :=
  let authority := rest.takeWhile fun c => !kind.separates c
  let path := rest.dropWhile fun c => !kind.separates c
  if !isLocalAuthority kind authority then none
  else if kind = .other && path.isEmpty then none
  else some (pathSegments kind path)

/-- The segments of a web address, from what follows the scheme. -/
def webAddress? (rest : List Char) : Option (List (List Char)) :=
  authorityAddress? .web (rest.dropWhile SchemeKind.web.separates)

/-- The segments of an address of another scheme, from what follows the scheme. -/
def otherAddress? (rest : List Char) : Option (List (List Char)) :=
  match rest with
  | '/' :: '/' :: after => authorityAddress? .other after
  | '/' :: _ => some (pathSegments .other rest)
  | _ => none

/-- The text of a URI without controls and spaces at its ends, and without tabs and
line breaks anywhere. -/
def tidy (uri : List Char) : List Char :=
  (Text.dropEdgesWhile (fun c => c.toNat ≤ 0x20) uri).filter fun c =>
    c ≠ '\t' && c ≠ '\n' && c ≠ '\r'

/-- The path segments that a URI names on the local machine, still percent coded. -/
def segments? (uri : List Char) : Option (List (List Char)) :=
  match schemeOf? (tidy uri) with
  | none => none
  | some (kind, rest) =>
    let rest := rest.takeWhile fun c => !endsPath c
    match kind with
    | .file => fileAddress? rest
    | .web => webAddress? rest
    | .other => otherAddress? rest

end BlockDiscovery.Uri
