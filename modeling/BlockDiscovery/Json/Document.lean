import BlockDiscovery.Json.Value

/-!
# Lexical JSON documents

A `Doc` is what a text holds before anyone asks for a value of some type.  A text
is read twice over: strictly, as values, and loosely, as text that is only passed
over.  The two differ in strings (a lone surrogate escape is a fault only when the
string is wanted) and in numbers (a magnitude beyond the doubles is a fault only
when the number is wanted), so a `Doc` records the strict reading of each token
beside the fact that it could be passed over.  Where even that failed the document
ends in a broken place, with the fault that either reader reports there.
-/

namespace BlockDiscovery.Json

/-- Why a text is not JSON. -/
inductive Fault where
  /-- A character that cannot stand where it stands. -/
  | malformed
  /-- The text ended too early. -/
  | truncated
  deriving Repr, DecidableEq, Inhabited

/-- How the text of an array or object came to its end. -/
inductive Close where
  | closed
  /-- It did not: the fault of the strict reader and of the loose one. -/
  | broken (strict loose : Fault)
  deriving Repr, DecidableEq, Inhabited

/-- A document read from a text, or made from a value. -/
inductive Doc where
  | null
  | bool (b : Bool)
  | number (n : Except Fault Number)
  | string (s : Except Fault String)
  | array (items : List Doc) (close : Close)
  | object (members : List (Except Fault String × Doc)) (close : Close)
  /-- No value stands here: the fault of the strict reader and of the loose one. -/
  | broken (strict loose : Fault)
  deriving Inhabited

/-- The fault a loose reader reports at the end of an array or object. -/
def Close.flaw : Close → Option Fault
  | .closed => none
  | .broken _ loose => some loose

mutual

/-- The fault a loose reader reports, if it does not pass over the document. -/
def Doc.flaw : Doc → Option Fault
  | .broken _ loose => some loose
  | .array items close => (flawOfItems items).or close.flaw
  | .object members close => (flawOfMembers members).or close.flaw
  | .null | .bool _ | .number _ | .string _ => none

def flawOfItems : List Doc → Option Fault
  | [] => none
  | d :: rest => d.flaw.or (flawOfItems rest)

def flawOfMembers : List (Except Fault String × Doc) → Option Fault
  | [] => none
  | (_, d) :: rest => d.flaw.or (flawOfMembers rest)

end

mutual

/-- The document that a value is. -/
def Value.toDoc : Value → Doc
  | .null => .null
  | .bool b => .bool b
  | .number n => .number (.ok n)
  | .string s => .string (.ok s)
  | .array items => .array (itemDocs items) .closed
  | .object members => .object (memberDocs members) .closed

def itemDocs : List Value → List Doc
  | [] => []
  | v :: rest => v.toDoc :: itemDocs rest

def memberDocs : List (String × Value) → List (Except Fault String × Doc)
  | [] => []
  | (k, v) :: rest => (.ok k, v.toDoc) :: memberDocs rest

end

end BlockDiscovery.Json
