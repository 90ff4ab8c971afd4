/-!
# Blank characters, trimming and lines

Text is a list of characters here.  The module fixes which characters count as
blank, how text is trimmed, how it falls into lines, and the few searches the
rest of the library asks for.
-/

namespace BlockDiscovery.Text

/-! ## Trimming -/

/-- The characters with the Unicode property `White_Space`. -/
def isBlank (c : Char) : Bool :=
  let n := c.toNat
  (9 ≤ n && n ≤ 13) || n == 0x20 || n == 0x85 || n == 0xA0 || n == 0x1680 ||
    (0x2000 ≤ n && n ≤ 0x200A) || n == 0x2028 || n == 0x2029 || n == 0x202F ||
    n == 0x205F || n == 0x3000

/-- Drop the longest run of characters satisfying `p` from the end. -/
def dropEndWhile (p : Char → Bool) (s : List Char) : List Char :=
  (s.reverse.dropWhile p).reverse

/-- Drop the runs of characters satisfying `p` from both ends. -/
def dropEdgesWhile (p : Char → Bool) (s : List Char) : List Char :=
  dropEndWhile p (s.dropWhile p)

def trimStart (s : List Char) : List Char := s.dropWhile isBlank

def trimEnd (s : List Char) : List Char := dropEndWhile isBlank s

def trim (s : List Char) : List Char := trimEnd (trimStart s)

/-! ## Lines and pieces -/

/-- The pieces between the occurrences of `sep`; one more than there are
occurrences. -/
def pieces (sep : Char) : List Char → List (List Char)
  | [] => [[]]
  | c :: rest =>
    if c = sep then [] :: pieces sep rest
    else
      match pieces sep rest with
      | [] => [[c]]
      | first :: more => (c :: first) :: more

/-- A line that ended in a line feed, without the carriage return before it. -/
def dropReturn (line : List Char) : List Char :=
  match line.getLast? with
  | some '\r' => line.dropLast
  | _ => line

/-- The lines of a text: it is cut after every line feed, and a cut line also
loses one carriage return.  What follows the last line feed is a line unless it
is empty, and keeps its carriage return. -/
def linesOfPieces : List (List Char) → List (List Char)
  | [] => []
  | [last] => if last.isEmpty then [] else [last]
  | line :: more => dropReturn line :: linesOfPieces more

/-- The lines of a text. -/
def lines (s : List Char) : List (List Char) := linesOfPieces (pieces '\n' s)

/-- The text before and after the first `sep`, if there is one. -/
def cutAt? (sep : Char) : List Char → Option (List Char × List Char)
  | [] => none
  | c :: rest =>
    if c = sep then some ([], rest)
    else (cutAt? sep rest).map fun (before, after) => (c :: before, after)

/-- What follows the first `sep` is shorter than the whole. -/
theorem length_lt_of_cutAt? {sep : Char} {s before after : List Char}
    (h : cutAt? sep s = some (before, after)) : after.length < s.length := by
  induction s generalizing before with
  | nil => simp [cutAt?] at h
  | cons c rest ih =>
    unfold cutAt? at h
    split at h
    · simp only [Option.some.injEq, Prod.mk.injEq] at h
      simp [← h.2]
    · simp only [Option.map_eq_some_iff, Prod.exists, Prod.mk.injEq] at h
      obtain ⟨b, a, hcut, _, rfl⟩ := h
      have := ih hcut
      simp only [List.length_cons]
      omega

/-! ## Searching -/

/-- The texts that follow each occurrence of `word`, in order of occurrence. -/
def afterEach (word : List Char) : List Char → List (List Char)
  | [] => (word.isPrefixOf? []).toList
  | c :: rest => (word.isPrefixOf? (c :: rest)).toList ++ afterEach word rest

def hasWord (word : List Char) : List Char → Bool
  | [] => word.isEmpty
  | c :: rest => word.isPrefixOf (c :: rest) || hasWord word rest

/-! ## ASCII -/

/-- The text with the letters `A` to `Z` in lower case. -/
def asciiLower (s : List Char) : List Char := s.map Char.toLower

/-- Equality up to the case of the letters `A` to `Z`. -/
def sameIgnoringCase (a b : List Char) : Bool := asciiLower a == asciiLower b

def decimal (n : Nat) : List Char := Nat.toDigits 10 n

def digitsValue (ds : List Char) : Nat :=
  ds.foldl (fun n d => n * 10 + (d.toNat - '0'.toNat)) 0

def hexDigit? (c : Char) : Option Nat :=
  if '0' ≤ c ∧ c ≤ '9' then some (c.toNat - '0'.toNat)
  else if 'a' ≤ c ∧ c ≤ 'f' then some (c.toNat - 'a'.toNat + 10)
  else if 'A' ≤ c ∧ c ≤ 'F' then some (c.toNat - 'A'.toNat + 10)
  else none

/-- The lower-case hexadecimal digit of a number below sixteen. -/
def hexLower (n : Nat) : Char :=
  if n < 10 then Char.ofNat ('0'.toNat + n) else Char.ofNat ('a'.toNat + (n - 10))

/-- The upper-case hexadecimal digit of a number below sixteen. -/
def hexUpper (n : Nat) : Char :=
  if n < 10 then Char.ofNat ('0'.toNat + n) else Char.ofNat ('A'.toNat + (n - 10))

end BlockDiscovery.Text
