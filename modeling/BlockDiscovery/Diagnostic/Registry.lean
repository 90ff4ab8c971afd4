import BlockDiscovery.Diagnostic.Toolchain

/-!
# Adapters by language

A registry maps language ids, without regard to the case of ASCII letters, to
adapters.  A language that is not registered is passed through.
-/

namespace BlockDiscovery.Diagnostic

open BlockDiscovery BlockDiscovery.Json

/-- Adapters by language id in lower case, in increasing order of the ids. -/
structure Registry where
  entries : List (String × Adapter)
  deriving Repr, Inhabited

namespace Registry

/-- The form of a language id that the registry knows. -/
def normalId (language : String) : String := String.ofList (Text.asciiLower language.toList)

def empty : Registry := ⟨[]⟩

def get? (r : Registry) (language : String) : Option Adapter :=
  lookup (normalId language) r.entries

/-- Register an adapter; a language that had one gets the new one. -/
def register (r : Registry) (language : String) (adapter : Adapter) : Registry :=
  ⟨insertEntry (normalId language) adapter r.entries⟩

def isRegistered (r : Registry) (language : String) : Bool := (r.get? language).isSome

/-- The adapter of a language, or the one that passes text through. -/
def resolve (r : Registry) (language : String) : Adapter := (r.get? language).getD .passthrough

/-- The registered ids in order. -/
def languages (r : Registry) : List String := r.entries.map Prod.fst

def builtins : List (String × Adapter) :=
  [("rust", .rust), ("rs", .rust), ("python", .python), ("py", .python), ("nim", .nim),
    ("zig", .zig), ("d", .d), ("dlang", .d), ("crystal", .crystal), ("cr", .crystal),
    ("lean", .lean), ("lean4", .lean), ("go", .go)]

/-- The registry of the built-in adapters. -/
def standard : Registry :=
  builtins.foldl (fun r (language, adapter) => r.register language adapter) empty

end Registry

end BlockDiscovery.Diagnostic
