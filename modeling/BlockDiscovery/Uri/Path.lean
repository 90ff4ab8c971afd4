import BlockDiscovery.Uri.Percent

/-!
# File paths

A path is a list of bytes in which only the slash has a meaning.  It need not be
UTF-8; to be shown it is read loosely.
-/

namespace BlockDiscovery.Uri

open BlockDiscovery

structure Path where
  bytes : List UInt8
  deriving Repr, DecidableEq, Inhabited

/-- The byte that separates the components of a path. -/
def slash : UInt8 := 0x2F

def dot : UInt8 := 0x2E

/-- The pieces of bytes between slashes. -/
def piecesOf : List UInt8 → List (List UInt8)
  | [] => [[]]
  | b :: rest =>
    if b = slash then [] :: piecesOf rest
    else
      match piecesOf rest with
      | [] => [[b]]
      | first :: more => (b :: first) :: more

namespace Path

def ofText (s : List Char) : Path := ⟨Text.utf8 s⟩

def ofString (s : String) : Path := ofText s.toList

/-- The path as it is shown to people. -/
def display (p : Path) : List Char := Text.lossy p.bytes

def isAbsolute (p : Path) : Bool := p.bytes.head? = some slash

def isEmpty (p : Path) : Bool := p.bytes.isEmpty

/-- The components of a path: the pieces between slashes that are neither empty nor
one dot. -/
def components (p : Path) : List (List UInt8) :=
  (piecesOf p.bytes).filter fun c => !c.isEmpty && c ≠ [dot]

/-- The path of components below the root. -/
def ofComponents (components : List (List UInt8)) : Path :=
  ⟨components.flatMap (slash :: ·)⟩

/-- A path below a base directory, unless it is absolute itself. -/
def under (base p : Path) : Path :=
  if p.isAbsolute then p else ⟨base.bytes ++ slash :: p.bytes⟩

end Path

end BlockDiscovery.Uri
