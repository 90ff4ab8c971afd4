import BlockDiscovery.Json.Reader
import BlockDiscovery.Json.Printer
import BlockDiscovery.Text.Printable

/-!
# Decoding documents into types

A `Decoder` takes a document to a value of some type or to the first problem in
document order.  Records are decoded by a `Schema`, which lists their fields in
order: as an object the fields may come in any order and unknown ones are passed
over, as an array they come in the order of the schema.  The `Nat` a decoder takes
is how many arrays and objects may still be opened inside one another.
-/

namespace BlockDiscovery.Json

open BlockDiscovery

/-! ## Problems -/

/-- What stood in the place of a value of another type. -/
inductive Found where
  | null
  | bool (b : Bool)
  | number (n : Number)
  | string (s : String)
  | sequence
  | map
  deriving Repr, DecidableEq

/-- Why a document is no value of the wanted type. -/
inductive DecodeError where
  | fault (f : Fault)
  /-- A value of another type. -/
  | mismatch (found : Found) (wanted : String)
  /-- An integer outside the range of the type. -/
  | outOfRange (n : Int) (wanted : String)
  | duplicateField (name : String)
  | missingField (name : String)
  /-- An array that ends before a field that has no default. -/
  | tooShort (length : Nat) (record : String) (fields : Nat)
  /-- An array that goes on after the last field. -/
  | surplus (length : Nat)
  deriving Repr, DecidableEq

/-- The category of a problem, as reports name it. -/
inductive Category where
  | malformed
  | truncated
  | data
  deriving Repr, DecidableEq

/-- How messages name what was found. -/
def Found.text : Found → List Char
  | .null => "null".toList
  | .bool b => "boolean `".toList ++ (if b then "true" else "false").toList ++ ['`']
  | .number (.int n) => "integer `".toList ++ integerText n ++ ['`']
  | .number (.double x) => "floating point `".toList ++ x.text ++ ['`']
  | .string s => "string ".toList ++ Text.debugQuote s.toList
  | .sequence => "sequence".toList
  | .map => "map".toList

namespace DecodeError

/-- The category of a problem: only a well-formed document has type problems. -/
def category : DecodeError → Category
  | .fault .malformed => .malformed
  | .fault .truncated => .truncated
  | _ => .data

def message : DecodeError → List Char
  | .fault _ => []
  | .mismatch found wanted =>
    "invalid type: ".toList ++ found.text ++ ", expected ".toList ++ wanted.toList
  | .outOfRange n wanted =>
    "invalid value: integer `".toList ++ integerText n ++ "`, expected ".toList ++ wanted.toList
  | .duplicateField name => "duplicate field `".toList ++ name.toList ++ ['`']
  | .missingField name => "missing field `".toList ++ name.toList ++ ['`']
  | .tooShort length record fields =>
    "invalid length ".toList ++ Text.decimal length ++ ", expected struct ".toList ++ record.toList ++
      " with ".toList ++ Text.decimal fields ++ " elements".toList
  | .surplus length =>
    "invalid length ".toList ++ Text.decimal length ++ ", expected fewer elements in array".toList

end DecodeError

/-! ## Decoders of plain types -/

/-- A decoder of a type; its first argument is how many arrays and objects may
still be opened. -/
abbrev Decoder (α : Type) := Nat → Doc → Except DecodeError α

/-- The problem with a document that is no value of the wanted type.  A token that
cannot be read strictly is reported as such. -/
def Doc.mismatch (wanted : String) : Doc → DecodeError
  | .null => .mismatch .null wanted
  | .bool b => .mismatch (.bool b) wanted
  | .number (.ok n) => .mismatch (.number n) wanted
  | .number (.error fault) => .fault fault
  | .string (.ok s) => .mismatch (.string s) wanted
  | .string (.error fault) => .fault fault
  | .array _ _ => .mismatch .sequence wanted
  | .object _ _ => .mismatch .map wanted
  | .broken strict _ => .fault strict

/-- The problem, for a strict reader, with how an array or object ended. -/
def Close.check : Close → Except DecodeError Unit
  | .closed => .ok ()
  | .broken strict _ => .error (.fault strict)

namespace Decoder

/-- Strings, under a name that says what the string is for. -/
def stringAs (wanted : String) : Decoder String := fun _ doc =>
  match doc with
  | .string (.ok s) => .ok s
  | doc => .error (doc.mismatch wanted)

def string : Decoder String := stringAs "a string"

def bool : Decoder Bool := fun _ doc =>
  match doc with
  | .bool b => .ok b
  | doc => .error (doc.mismatch "a boolean")

/-- Integers from `low` up to, not including, `high`. -/
def integer (low high : Int) (wanted : String) : Decoder Int := fun _ doc =>
  match doc with
  | .number (.ok (.int n)) =>
    if low ≤ n ∧ n < high then .ok n else .error (.outOfRange n wanted)
  | doc => .error (doc.mismatch wanted)

/-- Natural numbers below `2 ^ 32`. -/
def unsigned32 : Decoder Nat := fun room doc =>
  (integer 0 0x1_0000_0000 "u32" room doc).map Int.toNat

/-- Natural numbers below `2 ^ 64`. -/
def unsigned64 : Decoder Nat := fun room doc =>
  (integer 0 0x1_0000_0000_0000_0000 "u64" room doc).map Int.toNat

def signed64 : Decoder Int := integer (-0x8000_0000_0000_0000) 0x8000_0000_0000_0000 "i64"

/-- An optional value: null is none. -/
def optional {α : Type} (decode : Decoder α) : Decoder (Option α) := fun room doc =>
  match doc with
  | .null => .ok none
  | doc => (decode room doc).map some

def list {α : Type} (decode : Decoder α) : Decoder (List α) := fun room doc =>
  match doc with
  | .array items close =>
    match room with
    | 0 => .error (.fault .malformed)
    | room + 1 => do
      -- problems of items come before how the array ended
      let values ← items.mapM (decode room)
      close.check
      return values
  | doc => .error (doc.mismatch "a sequence")

/-- A key; one that cannot be read strictly is a fault. -/
def key (k : Except Fault String) : Except DecodeError String :=
  k.mapError .fault

/-- Objects with values of one type, in order of their keys; of a repeated key the
last value stays. -/
def dictionary {α : Type} (decode : Decoder α) : Decoder (List (String × α)) := fun room doc =>
  match doc with
  | .object members close =>
    match room with
    | 0 => .error (.fault .malformed)
    | room + 1 => do
      let entries ← members.foldlM (fun done (k, d) => do
        let k ← key k
        let v ← decode room d
        return insertEntry k v done) []
      close.check
      return entries
  | doc => .error (doc.mismatch "a map")

def value : Decoder Value := fun room doc =>
  match room, doc with
  | _, .null => .ok .null
  | _, .bool b => .ok (.bool b)
  | _, .number (.ok n) => .ok (.number n)
  | _, .number (.error fault) => .error (.fault fault)
  | _, .string (.ok s) => .ok (.string s)
  | _, .string (.error fault) => .error (.fault fault)
  | _, .broken strict _ => .error (.fault strict)
  | 0, .array _ _ => .error (.fault .malformed)
  | 0, .object _ _ => .error (.fault .malformed)
  | room + 1, .array items close => do
    let values ← items.mapM (value room)
    close.check
    return .array values
  | room + 1, .object members close => do
    let entries ← members.foldlM (fun done (k, d) => do
      let k ← key k
      let v ← value room d
      return insertEntry k v done) []
    close.check
    return .object entries

end Decoder

/-! ## Decoders of records -/

/-- A field of a record: its name, whether it must be there, and how its document
changes the record. -/
structure Field (α : Type) where
  name : String
  required : Bool
  load : Nat → Doc → α → Except DecodeError α

/-- A field that must be there. -/
def Field.needed {α β : Type} (name : String) (decode : Decoder β) (set : β → α → α) : Field α :=
  ⟨name, true, fun room doc record => (decode room doc).map (set · record)⟩

/-- A field that keeps what the blank record holds when it is absent. -/
def Field.defaulted {α β : Type} (name : String) (decode : Decoder β) (set : β → α → α) : Field α :=
  ⟨name, false, fun room doc record => (decode room doc).map (set · record)⟩

/-- How a record is decoded. -/
structure Schema (α : Type) where
  /-- The name of the record in messages. -/
  name : String
  /-- The record before any field was read; it holds the defaults. -/
  blank : α
  fields : List (Field α)

namespace Schema

variable {α : Type}

/-- The first field that must be there and was not seen. -/
def missing? (schema : Schema α) (seen : List String) : Option String :=
  (schema.fields.find? fun f => f.required && !seen.contains f.name).map Field.name

/-- One member of a record written as an object. -/
def absorb (schema : Schema α) (room : Nat) (state : α × List String)
    (member : Except Fault String × Doc) : Except DecodeError (α × List String) := do
  let (record, seen) := state
  let name ← Decoder.key member.1
  match schema.fields.find? (·.name = name) with
  | some field =>
    if seen.contains name then throw (.duplicateField name)
    let record ← field.load room member.2 record
    return (record, name :: seen)
  | none =>
    -- an unknown member is passed over, but its text must be JSON
    match member.2.flaw with
    | some fault => throw (.fault fault)
    | none => return (record, seen)

/-- A record written as an array, from the field with the given place on. -/
def loadItems (schema : Schema α) (room : Nat) (close : Close) :
    Nat → List (Field α) → List Doc → α → Except DecodeError (α × List Doc)
  | _, [], rest, record => .ok (record, rest)
  | place, field :: fields, doc :: docs, record => do
    let record ← field.load room doc record
    loadItems schema room close (place + 1) fields docs record
  | place, field :: fields, [], record => do
    close.check
    -- fields that are left keep their defaults
    if field.required then throw (.tooShort place schema.name schema.fields.length)
    loadItems schema room close (place + 1) fields [] record

def decode (schema : Schema α) : Decoder α := fun room doc =>
  match doc with
  | .object members close =>
    match room with
    | 0 => .error (.fault .malformed)
    | room + 1 => do
      let (record, seen) ← members.foldlM (schema.absorb room) (schema.blank, [])
      close.check
      match schema.missing? seen with
      | some name => throw (.missingField name)
      | none => return record
  | .array items close =>
    match room with
    | 0 => .error (.fault .malformed)
    | room + 1 => do
      let (record, rest) ← schema.loadItems room close 0 schema.fields items schema.blank
      if rest.isEmpty then
        close.check
        return record
      else throw (.surplus items.length)
  | doc => .error (doc.mismatch ("struct " ++ schema.name))

end Schema

/-! ## Texts and values -/

/-- How many arrays and objects may lie inside one another in a text. -/
def nestingLimit : Nat := 127

/-- Decode a text that holds one value.  In a text, an array that goes on after the
last field of a record is malformed. -/
def decodeText {α : Type} (decode : Decoder α) (s : List Char) : Except DecodeError α :=
  let reading := Doc.read s
  match decode nestingLimit reading.doc with
  | .error (.surplus _) => .error (.fault .malformed)
  | .error problem => .error problem
  | .ok a =>
    match reading.rest with
    | none => .error (.fault .malformed)
    | some rest => if (skipBlank rest).isEmpty then .ok a else .error (.fault .malformed)

/-- Decode a value that was read before; its members are taken in their order. -/
def decodeValue {α : Type} (decode : Decoder α) (v : Value) : Except DecodeError α :=
  decode nestingLimit v.toDoc

def Value.ofText (s : List Char) : Except DecodeError Value := decodeText Decoder.value s

end BlockDiscovery.Json
