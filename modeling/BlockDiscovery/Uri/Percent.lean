import BlockDiscovery.Text.Utf8

/-!
# Percent coding

An octet that may not stand in a URI is written as a percent sign and two upper-case
hexadecimal digits.  Decoding reads digits of either case and leaves a percent sign
without two digits behind it as it is.
-/

namespace BlockDiscovery.Uri

open BlockDiscovery

def percentSign : UInt8 := 0x25

/-- The octet that two characters write in hexadecimal. -/
def octet? (high low : UInt8) : Option UInt8 :=
  match Text.hexDigit? (Char.ofNat high.toNat), Text.hexDigit? (Char.ofNat low.toNat) with
  | some h, some l => some (UInt8.ofNat (h * 16 + l))
  | _, _ => none

/-- Undo percent coding. -/
def percentDecode : List UInt8 → List UInt8
  | c :: a :: b :: rest =>
    if c = percentSign then
      match octet? a b with
      | some o => o :: percentDecode rest
      | none => c :: percentDecode (a :: b :: rest)
    else c :: percentDecode (a :: b :: rest)
  | short => short

/-- Whether an octet stands in a path segment as it is. -/
def isPlain (o : UInt8) : Bool :=
  0x20 < o && o < 0x7F && !("\"#<>?`\x7b\x7d/%\\".toList.map fun c => UInt8.ofNat c.toNat).contains o

/-- An octet in a path segment. -/
def encodeOctet (o : UInt8) : List Char :=
  if isPlain o then [Char.ofNat o.toNat]
  else ['%', Text.hexUpper (o.toNat / 16), Text.hexUpper (o.toNat % 16)]

def percentEncode (segment : List UInt8) : List Char := segment.flatMap encodeOctet

end BlockDiscovery.Uri
