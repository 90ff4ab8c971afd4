import BlockDiscovery.Uri.Path

/-!
# File trees

The files and directories a program can see, by their components below the root.
`read` gives the bytes of a file or says why there are none, in the words of the
system.
-/

namespace BlockDiscovery.Files

open BlockDiscovery
open BlockDiscovery.Uri (Path)

/-- A file with its bytes, or a directory. -/
inductive Node where
  | file (bytes : ByteArray)
  | directory

/-- Why a file cannot be read. -/
inductive FileError where
  | notFound
  | notADirectory
  | isADirectory
  | nameTooLong
  /-- The path holds a zero byte. -/
  | badName
  /-- The bytes are not UTF-8. -/
  | notText
  deriving Repr, DecidableEq

namespace FileError

def message : FileError → String
  | .notFound => "No such file or directory (os error 2)"
  | .notADirectory => "Not a directory (os error 20)"
  | .isADirectory => "Is a directory (os error 21)"
  | .nameTooLong => "File name too long (os error 36)"
  | .badName => "file name contained an unexpected NUL byte"
  | .notText => "stream did not contain valid UTF-8"

end FileError

/-- Components of a path below the root. -/
abbrev Place := List (List UInt8)

/-- The nodes of a tree below its root. -/
structure FileTree where
  nodes : List (Place × Node)

namespace FileTree

def empty : FileTree := ⟨[]⟩

def get? (t : FileTree) (place : Place) : Option Node :=
  if place.isEmpty then some .directory
  else (t.nodes.find? fun n => n.1 = place).map Prod.snd

/-- Put a node at a place, in the stead of what stands there. -/
def put (t : FileTree) (place : Place) (node : Node) : FileTree :=
  ⟨(place, node) :: t.nodes.filter fun n => n.1 ≠ place⟩

/-- The places above a place, itself excluded and the root excluded. -/
def above (place : Place) : List Place :=
  (List.range place.length).filterMap fun n => if n = 0 then none else some (place.take n)

/-- Put a node at a place and make the directories above it. -/
def add (t : FileTree) (place : Place) (node : Node) : FileTree :=
  let t := (above place).foldl
    (fun t p => if (t.get? p).isSome then t else t.put p .directory) t
  t.put place node

/-- The pieces of a path between slashes, the empty ones left out.  A slash at the end
stands for the directory itself. -/
def steps (p : Path) : List (List UInt8) :=
  let pieces := (Uri.piecesOf p.bytes).filter fun c => !c.isEmpty
  if p.bytes.getLast? = some Uri.slash ∧ !pieces.isEmpty then pieces ++ [[Uri.dot]] else pieces

/-- The longest name of a file in bytes. -/
def maxName : Nat := 255

/-- Follow steps from a place; only directories lead on. -/
def follow (t : FileTree) : Place → List (List UInt8) → Except FileError (Place × Node)
  | place, [] =>
    match t.get? place with
    | some node => .ok (place, node)
    | none => .error .notFound
  | place, step :: rest =>
    match t.get? place with
    | none => .error .notFound
    | some (.file _) => .error .notADirectory
    | some .directory =>
      if step = [Uri.dot] then follow t place rest
      -- above the root is the root
      else if step = [Uri.dot, Uri.dot] then follow t place.dropLast rest
      else if maxName < step.length then .error .nameTooLong
      else follow t (place ++ [step]) rest

/-- What a path leads to from a working directory. -/
def find (t : FileTree) (directory p : Path) : Except FileError (Place × Node) :=
  if p.bytes.contains 0 then .error .badName
  else if p.isEmpty then .error .notFound
  else if p.isAbsolute then t.follow [] (steps p)
  else t.follow directory.components (steps p)

/-- Whether a path leads to a file or a directory. -/
def reaches (t : FileTree) (directory p : Path) : Bool :=
  match t.find directory p with
  | .ok _ => true
  | .error _ => false

def read (t : FileTree) (directory p : Path) : Except FileError ByteArray :=
  match t.find directory p with
  | .ok (_, .file bytes) => .ok bytes
  | .ok (_, .directory) => .error .isADirectory
  | .error e => .error e

def readText (t : FileTree) (directory p : Path) : Except FileError String :=
  (t.read directory p).bind fun bytes =>
    match String.fromUTF8? bytes with
    | some text => .ok text
    | none => .error .notText

end FileTree

end BlockDiscovery.Files
