import BlockDiscovery.Uri.Percent

/-!
# Hosts

A host is an IPv6 address in brackets or a name, and a name that ends in a number must
be an IPv4 address.  A name may be percent coded, and its letters may be written in
other styles, which are read as plain lower-case letters.

Of those styles only what can spell the name of the local host is kept here.  Other
characters beyond ASCII stand for themselves and are never refused, and neither is a
label that begins with `xn--`: which of them a name may hold is a matter of the tables
for international names, and a name that holds one is not the local host.
-/

namespace BlockDiscovery.Uri

open BlockDiscovery

/-! ## The letters of a name -/

/-- Where the alphabets in other styles begin: circled, wide, outlined, squared and
mathematical letters. -/
def alphabets : List Nat :=
  [0x24B6, 0x24D0, 0xFF21, 0xFF41, 0x1CCD6, 0x1F130] ++
    (List.range 26).map fun n => 0x1D400 + 26 * n

/-- Places in the mathematical alphabets where no letter stands. -/
def unusedPlaces : List Nat :=
  [0x1D455, 0x1D49D, 0x1D4A0, 0x1D4A1, 0x1D4A3, 0x1D4A4, 0x1D4A7, 0x1D4A8, 0x1D4AD, 0x1D4BA,
    0x1D4BC, 0x1D4C4, 0x1D506, 0x1D50B, 0x1D50C, 0x1D515, 0x1D51D, 0x1D53A, 0x1D53F, 0x1D545,
    0x1D547, 0x1D548, 0x1D549, 0x1D551]

/-- The letters of the local host outside the alphabets: raised and lowered ones,
symbols and numerals, the long `s` and letters that are written as one. -/
def singleLetters : List (String × List Nat) :=
  [("l", [0x2E1, 0x1D38, 0x2097, 0x2112, 0x2113, 0x216C, 0x217C]),
    ("o", [0xBA, 0x1D3C, 0x1D52, 0x2092, 0x2134]),
    ("c", [0x1D9C, 0x2102, 0x212D, 0x216D, 0x217D, 0xA7F2, 0x1F12B]),
    ("a", [0xAA, 0x1D2C, 0x1D43, 0x2090]),
    ("h", [0x2B0, 0x1D34, 0x2095, 0x210B, 0x210C, 0x210D, 0x210E]),
    ("s", [0x17F, 0x2E2, 0x209B, 0xA7F1]),
    ("t", [0x1D40, 0x1D57, 0x209C]),
    ("st", [0xFB05, 0xFB06]),
    ("cal", [0x3388])]

/-- Characters that a name is read without, such as soft hyphens and variation
selectors. -/
def ignoredRanges : List (Nat × Nat) :=
  [(0xAD, 0xAD), (0x34F, 0x34F), (0x115F, 0x1160), (0x17B4, 0x17B5), (0x180B, 0x180F),
    (0x200B, 0x200B), (0x2060, 0x2064), (0x206A, 0x206F), (0x3164, 0x3164), (0xFE00, 0xFE0F),
    (0xFEFF, 0xFEFF), (0xFFA0, 0xFFA0), (0x1BCA0, 0x1BCA3), (0x1D173, 0x1D17A),
    (0xE0100, 0xE01EF)]

/-- What a character of a name is read as. -/
def plainLetters (c : Char) : List Char :=
  let code := c.toNat
  if code < 0x80 then [c.toLower]
  else if ignoredRanges.any fun (first, last) => first ≤ code ∧ code ≤ last then []
  else if unusedPlaces.contains code then [c]
  else
    match alphabets.find? fun first => first ≤ code ∧ code < first + 26 with
    | some first => [Char.ofNat ('a'.toNat + (code - first))]
    | none =>
      match singleLetters.find? fun (_, codes) => codes.contains code with
      | some (letters, _) => letters.toList
      | none => [c]

/-- A name with the percent coding undone and its letters made plain. -/
def plainName? (host : List Char) : Option (List Char) :=
  (Text.ofUtf8? (percentDecode (Text.utf8 host))).map fun name => name.flatMap plainLetters

/-- The one host whose files are local. -/
def localhost : List Char := "localhost".toList

/-- Whether a host of a known scheme is the local one, however it is written. -/
def isLocalhost (host : List Char) : Bool := plainName? host = some localhost

/-! ## IPv4 addresses -/

/-- The number that digits write in a base; no digits write zero. -/
def numberIn? (base : Nat) (digits : List Char) : Option Nat :=
  digits.foldlM (fun n c => ((Text.hexDigit? c).filter (· < base)).map (n * base + ·)) 0

/-- The number in a part of an IPv4 address: hexadecimal behind `0x`, octal behind
another zero. -/
def ipv4Part? : List Char → Option Nat
  | [] => none
  | '0' :: 'x' :: digits => numberIn? 16 digits
  | '0' :: digit :: digits => numberIn? 8 (digit :: digits)
  | digits => numberIn? 10 digits

/-- The parts of a name between dots, without an empty one at the end. -/
def nameParts (name : List Char) : List (List Char) :=
  let parts := Text.pieces '.' name
  if parts.getLast? = some [] then parts.dropLast else parts

def endsInNumber (name : List Char) : Bool :=
  match (nameParts name).getLast? with
  | some last => (last ≠ [] && last.all Char.isDigit) || (ipv4Part? last).isSome
  | none => false

/-- Whether a name is an IPv4 address: at most four numbers, of which the last one
fills the octets that the others leave. -/
def isIpv4 (name : List Char) : Bool :=
  match (nameParts name).mapM ipv4Part? with
  | some numbers =>
    numbers.length ≤ 4 && numbers.dropLast.all (· < 256) &&
      numbers.getLast?.any (· < 1 <<< (8 * (5 - numbers.length)))
  | none => false

/-! ## IPv6 addresses -/

/-- Whether a text is a group of an IPv6 address. -/
def isIpv6Group (group : List Char) : Bool :=
  group ≠ [] && group.length ≤ 4 && (numberIn? 16 group).isSome

/-- Whether a text is an IPv4 address as it may end an IPv6 address: four decimal
octets without leading zeros. -/
def isDottedQuad (text : List Char) : Bool :=
  let octets := Text.pieces '.' text
  octets.length = 4 && octets.all fun octet =>
    (octet = ['0'] || octet.head? ≠ some '0') && octet ≠ [] && (numberIn? 10 octet).any (· < 256)

/-- How many of the eight groups a text of groups fills. -/
def groupsIn? (text : List Char) (mayEndDotted : Bool) : Option Nat :=
  if text = [] then some 0
  else
    let groups := Text.pieces ':' text
    if groups.all isIpv6Group then some groups.length
    else if mayEndDotted && groups.dropLast.all isIpv6Group && groups.getLast?.any isDottedQuad then
      some (groups.length + 1)
    else none

/-- The text before and after the first pair of colons, if there is one. -/
def cutAtGap? : List Char → Option (List Char × List Char)
  | ':' :: ':' :: rest => some ([], rest)
  | c :: rest => (cutAtGap? rest).map fun (before, after) => (c :: before, after)
  | [] => none

/-- Whether a text is an IPv6 address; a pair of colons stands for one group at
least. -/
def isIpv6 (text : List Char) : Bool :=
  match cutAtGap? text with
  | none => groupsIn? text true = some 8
  | some (before, after) =>
    match groupsIn? before false, groupsIn? after true with
    | some m, some n => m + n ≤ 7
    | _, _ => false

/-! ## Hosts -/

/-- Whether a character may stand in a name. -/
def isHostChar (c : Char) : Bool :=
  0x20 < c.toNat && c.toNat ≠ 0x7F && !"#%/:<>?@[\\]^|".toList.contains c

/-- Whether a text is a host of a known scheme. -/
def isHost : List Char → Bool
  | '[' :: text => text.getLast? = some ']' && isIpv6 text.dropLast
  | host =>
    (plainName? host).any fun name =>
      name ≠ [] && name.all isHostChar && (!endsInNumber name || isIpv4 name)

end BlockDiscovery.Uri
