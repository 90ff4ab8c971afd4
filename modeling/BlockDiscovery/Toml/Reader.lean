import BlockDiscovery.Toml.Moment
import BlockDiscovery.Toml.Number
import BlockDiscovery.Toml.Text
import BlockDiscovery.Toml.Tree

/-!
# Reading a configuration

A document is a list of statements, one a line: `key = value`, the header of a table,
or the header of an item of an array of tables.  Reading fails as a whole or gives the
one table that the document is.
-/

namespace BlockDiscovery.Toml

open BlockDiscovery

/-! ## Blanks and comments -/

def skipSpaces (s : List Char) : List Char := s.dropWhile isSpace

/-- The text after a comment, if one stands here; a comment holds no controls. -/
def skipComment (s : List Char) : Option (List Char) :=
  match s with
  | '#' :: rest =>
    let after := rest.dropWhile isStringChar
    if after.isEmpty ∨ (newline? after).isSome then some after else none
  | s => some s

/-- The text after the end of a line, which may hold blanks and a comment. -/
def endLine? (s : List Char) : Option (List Char) :=
  (skipComment (skipSpaces s)).bind fun s => if s.isEmpty then some [] else newline? s

/-- The text without blanks, comments and line breaks at its start; `fuel` bounds their
number. -/
def skipFiller : Nat → List Char → Option (List Char)
  | 0, _ => none
  | fuel + 1, s =>
    match skipComment (skipSpaces s) with
    | none => none
    | some s =>
      match newline? s with
      | some rest => skipFiller fuel rest
      | none => some s

/-! ## Keys -/

/-- Whether a character may stand in a key without quotes. -/
def isKeyChar (c : Char) : Bool := c.isAlphanum || c = '_' || c = '-'

def keyPart : Scan String := fun s =>
  match s with
  | '"' :: _ | '\'' :: _ => (shortString s).map fun (k, rest) => (String.ofList k, rest)
  | s =>
    let key := s.takeWhile isKeyChar
    if key.isEmpty then none else some (String.ofList key, s.dropWhile isKeyChar)

/-- A key, its parts separated by dots; `fuel` bounds their number. -/
def keyPath : Nat → Scan (List String)
  | 0, _ => none
  | fuel + 1, s => do
    let (part, rest) ← keyPart (skipSpaces s)
    match skipSpaces rest with
    | '.' :: rest =>
      let (parts, rest) ← keyPath fuel rest
      some (part :: parts, rest)
    | rest => some ([part], rest)

/-! ## Values -/

/-- Whether a character belongs to a word: a value without quotes and brackets. -/
def isWordChar (c : Char) : Bool := c.isAlphanum || ['_', '-', '+', '.', ':'].contains c

/-- The word at the start of a text.  A date and a time of day may be separated by one
space. -/
def word (s : List Char) : List Char × List Char :=
  let first := s.takeWhile isWordChar
  let rest := s.dropWhile isWordChar
  match rest with
  | ' ' :: more =>
    let second := more.takeWhile isWordChar
    if (date? first).any (·.2.isEmpty) && (time? second).isSome then
      (first ++ ' ' :: second, more.dropWhile isWordChar)
    else (first, rest)
  | rest => (first, rest)

/-- The value that a word is. -/
def ofWord? (w : List Char) : Option Value :=
  if w = "true".toList then some (.boolean true)
  else if w = "false".toList then some (.boolean false)
  else
    match integer? w, real? w, moment? w with
    | some n, _, _ => some (.integer n)
    | none, some x, _ => some (.real x)
    | none, none, some text => some (.moment (String.ofList text))
    | none, none, none => none

/-- How many arrays and tables may stand inside one another. -/
def nestingLimit : Nat := 80

mutual

/-- A value; `room` is how many arrays and tables may still be opened. -/
def readValue : Nat → Nat → Scan Value
  | 0, _, _ => none
  | fuel + 1, room, s =>
    match s with
    | '"' :: _ | '\'' :: _ => (anyString s).map fun (t, rest) => (.string (String.ofList t), rest)
    | '[' :: rest =>
      match room with
      | 0 => none
      | room + 1 => (readItems fuel room rest).map fun (vs, rest) => (.array vs, rest)
    | '\x7b' :: rest =>
      match room with
      | 0 => none
      | room + 1 =>
        (readEntries fuel room [] rest).map fun (entries, rest) =>
          (.table (entriesToValue entries), rest)
    | s =>
      let (w, rest) := word s
      (ofWord? w).map fun v => (v, rest)

/-- The items of an array and its closing bracket. -/
def readItems : Nat → Nat → Scan (List Value)
  | 0, _, _ => none
  | fuel + 1, room, s => do
    match ← skipFiller (s.length + 1) s with
    -- also after a comma
    | ']' :: rest => some ([], rest)
    | s =>
      let (v, rest) ← readValue fuel room s
      match ← skipFiller (rest.length + 1) rest with
      | ',' :: rest =>
        let (vs, rest) ← readItems fuel room rest
        some (v :: vs, rest)
      | ']' :: rest => some ([v], rest)
      | _ => none

/-- The entries of an inline table, added to those before, and its closing brace. -/
def readEntries : Nat → Nat → Entries → Scan Entries
  | 0, _, _, _ => none
  | fuel + 1, room, entries, s => do
    match ← skipFiller (s.length + 1) s with
    | '\x7d' :: rest => some (entries, rest)
    | s =>
      let (keys, rest) ← keyPath (s.length + 1) s
      match rest with
      | '=' :: rest =>
        let (v, rest) ← readValue fuel room (skipSpaces rest)
        let entries ← addAt [] keys v entries
        match ← skipFiller (rest.length + 1) rest with
        | ',' :: rest => readEntries fuel room entries rest
        | '\x7d' :: rest => some (entries, rest)
        | _ => none
      | _ => none

end

/-! ## Statements -/

/-- The table that statements add to, by its names, and all entries so far. -/
structure Document where
  table : List String
  entries : Entries

/-- The names in a header, up to its closing bracket. -/
def headerKeys? (s : List Char) : Option (List String × List Char) :=
  match keyPath (s.length + 1) s with
  | some (keys, ']' :: rest) => some (keys, rest)
  | _ => none

/-- Take in the statement at the start of a text. -/
def readStatement (d : Document) (s : List Char) : Option (Document × List Char) :=
  match s with
  | '[' :: '[' :: rest =>
    match headerKeys? rest with
    | some (keys, ']' :: rest) =>
      (openAt true keys d.entries).map fun entries => (⟨keys, entries⟩, rest)
    | _ => none
  | '[' :: rest =>
    (headerKeys? rest).bind fun (keys, rest) =>
      (openAt false keys d.entries).map fun entries => (⟨keys, entries⟩, rest)
  | s =>
    match keyPath (s.length + 1) s with
    | some (keys, '=' :: rest) =>
      (readValue (rest.length + 1) nestingLimit (skipSpaces rest)).bind fun (v, rest) =>
        (addAt d.table keys v d.entries).map fun entries => (⟨d.table, entries⟩, rest)
    | _ => none

/-- Take in statements to the end of the text; `fuel` bounds their number. -/
def readStatements : Nat → Document → List Char → Option Document
  | 0, _, _ => none
  | fuel + 1, d, s =>
    match skipFiller (s.length + 1) s with
    | none => none
    | some [] => some d
    | some s =>
      (readStatement d s).bind fun (d, rest) =>
        (endLine? rest).bind fun rest => readStatements fuel d rest

/-- The text without a byte order mark at its start. -/
def dropMark : List Char → List Char
  | c :: rest => if c = '\uFEFF' then rest else c :: rest
  | [] => []

/-- The entries of the document that a text holds. -/
def read? (text : List Char) : Option (List (String × Value)) :=
  let s := dropMark text
  (readStatements (s.length + 1) ⟨[], []⟩ s).map fun d => entriesToValue d.entries

end BlockDiscovery.Toml
