import BlockDiscovery.Text.Blank

/-!
# UTF-8

Characters as bytes and bytes as characters.  `lossy` reads any bytes: each longest
run of bytes that starts a character and goes wrong becomes one replacement
character.
-/

namespace BlockDiscovery.Text

def utf8 (s : List Char) : List UInt8 := s.flatMap String.utf8EncodeChar

/-- The characters of UTF-8 bytes, or `none` if they are not UTF-8. -/
def ofUtf8? (bytes : List UInt8) : Option (List Char) :=
  (String.fromUTF8? ⟨bytes.toArray⟩).map String.toList

/-- The character that stands for bytes that are none. -/
def replacement : Char := '\uFFFD'

/-- How many bytes follow a first byte, and the bounds of the one that comes next. -/
def following? (first : UInt8) : Option (Nat × UInt8 × UInt8) :=
  if 0xC2 ≤ first ∧ first ≤ 0xDF then some (1, 0x80, 0xBF)
  else if first = 0xE0 then some (2, 0xA0, 0xBF)
  else if first = 0xED then some (2, 0x80, 0x9F)
  else if 0xE1 ≤ first ∧ first ≤ 0xEF then some (2, 0x80, 0xBF)
  else if first = 0xF0 then some (3, 0x90, 0xBF)
  else if 0xF1 ≤ first ∧ first ≤ 0xF3 then some (3, 0x80, 0xBF)
  else if first = 0xF4 then some (3, 0x80, 0x8F)
  else none

/-- The bits of a code point that its first byte holds, when `count` bytes follow. -/
def leadingBits (first : UInt8) (count : Nat) : Nat := first.toNat % (1 <<< (6 - count))

/-- Read bytes inside a character: `wanted` more bytes are to come, the next of them
between `low` and `high`, and `code` holds the bits so far.  With nothing wanted a
character starts. -/
def lossyFrom : Nat → UInt8 → UInt8 → Nat → List UInt8 → List Char
  | 0, _, _, _, [] => []
  | _ + 1, _, _, _, [] => [replacement]
  | 0, _, _, _, b :: rest =>
    if b < 0x80 then Char.ofNat b.toNat :: lossyFrom 0 0 0 0 rest
    else
      match following? b with
      | some (count, low, high) => lossyFrom count low high (leadingBits b count) rest
      | none => replacement :: lossyFrom 0 0 0 0 rest
  | wanted + 1, low, high, code, b :: rest =>
    if low ≤ b ∧ b ≤ high then
      let code := code * 64 + b.toNat % 64
      if wanted = 0 then Char.ofNat code :: lossyFrom 0 0 0 0 rest
      else lossyFrom wanted 0x80 0xBF code rest
    else
      replacement ::
        (if b < 0x80 then Char.ofNat b.toNat :: lossyFrom 0 0 0 0 rest
        else
          match following? b with
          | some (count, low, high) => lossyFrom count low high (leadingBits b count) rest
          | none => replacement :: lossyFrom 0 0 0 0 rest)

/-- The characters of any bytes. -/
def lossy (bytes : List UInt8) : List Char := lossyFrom 0 0 0 0 bytes

end BlockDiscovery.Text
