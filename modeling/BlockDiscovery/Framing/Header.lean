import BlockDiscovery.Text.Blank

/-!
# Frame headers

A frame is a header block, an empty line and a body.  The only header that matters
names the length of the body in bytes; other headers, stray text and lines that are
not UTF-8 are passed over.
-/

namespace BlockDiscovery.Framing

open BlockDiscovery

/-- The characters of UTF-8 bytes, or `none` if they are not UTF-8. -/
def characters? (bytes : ByteArray) : Option (List Char) :=
  (String.fromUTF8? bytes).map String.toList

def bytesOf (s : List Char) : ByteArray := (String.ofList s).toUTF8

/-- The name of the header that gives the length of the body. -/
def lengthName : List Char := "Content-Length".toList

/-- The natural number below `2 ^ 64` that a numeral writes: decimal digits, which
may follow one plus sign. -/
def wordOf? (s : List Char) : Option Nat :=
  let digits :=
    match s with
    | '+' :: rest => rest
    | _ => s
  if digits.isEmpty then none
  else if digits.all fun c => '0' ≤ c && c ≤ '9' then
    let n := Text.digitsValue digits
    if n < 0x1_0000_0000_0000_0000 then some n else none
  else none

/-- The length that one header line gives, if it gives one. -/
def lineLength? (line : List Char) : Option Nat :=
  match Text.cutAt? ':' (Text.trim line) with
  | some (name, value) =>
    if Text.sameIgnoringCase (Text.trim name) lengthName then wordOf? (Text.trim value) else none
  | none => none

/-- The lines of a header block, cut at line feeds. -/
def headerLines (header : List UInt8) : List (List UInt8) :=
  header.foldr (fun b lines =>
    if b = 0x0A then [] :: lines
    else
      match lines with
      | [] => [[b]]
      | line :: more => (b :: line) :: more) [[]]

/-- The length of the body that a header block announces: that of its first line
that gives one. -/
def bodyLength? (header : ByteArray) : Option Nat :=
  (headerLines header.data.toList).findSome? fun line =>
    (characters? ⟨line.toArray⟩).bind lineLength?

end BlockDiscovery.Framing
