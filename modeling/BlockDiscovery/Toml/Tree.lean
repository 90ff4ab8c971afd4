import BlockDiscovery.Toml.Value

/-!
# Tables of a configuration

A document fills its tables statement by statement.  What a statement may add depends
on how a table came to be: by its own header, only as part of the name of another
table, or by a dotted key.  `Tree.update` finds or makes the tables on a path and
changes the last of them.
-/

namespace BlockDiscovery.Toml

open BlockDiscovery.Json (insertEntry lookup)

/-- How a table came to be. -/
inductive Origin where
  /-- It has a header of its own. -/
  | header
  /-- The header of a table inside it names it. -/
  | implied
  /-- A dotted key names it. -/
  | dotted
  deriving Repr, DecidableEq, Inhabited

/-- What stands under a key while the document is read. -/
inductive Tree where
  /-- A value that nothing can be added to. -/
  | leaf (v : Value)
  | table (origin : Origin) (entries : List (String × Tree))
  /-- The tables of an array of tables. -/
  | tables (items : List (List (String × Tree)))
  deriving Inhabited

/-- The entries of a table while the document is read. -/
abbrev Entries := List (String × Tree)

mutual

def Tree.toValue : Tree → Value
  | .leaf v => v
  | .table _ entries => .table (entriesToValue entries)
  | .tables items => .array (tablesToValue items)

def entriesToValue : List (String × Tree) → List (String × Value)
  | [] => []
  | (k, t) :: rest => (k, t.toValue) :: entriesToValue rest

def tablesToValue : List (List (String × Tree)) → List Value
  | [] => []
  | entries :: rest => .table (entriesToValue entries) :: tablesToValue rest

end

/-- One step of a path: a key, and whether it belongs to a dotted key. -/
structure PathStep where
  key : String
  dotted : Bool
  deriving Repr, DecidableEq

/-- Change the table that a path leads to.  Missing tables are made; an array of tables
stands for its last table; a dotted key does not lead into a table with a header of its
own. -/
def update (change : Origin → Entries → Option Entries) :
    List PathStep → Origin → Entries → Option Entries
  | [], origin, entries => change origin entries
  | step :: rest, _, entries =>
    match lookup step.key entries with
    | none => do
      let origin := if step.dotted then .dotted else .implied
      let inner ← update change rest origin []
      some (insertEntry step.key (.table origin inner) entries)
    | some (.leaf _) => none
    | some (.table origin inner) =>
      if step.dotted ∧ origin = .header then none
      else do
        let inner ← update change rest origin inner
        some (insertEntry step.key (.table origin inner) entries)
    | some (.tables items) =>
      match items.getLast? with
      | none => none
      | some last => do
        let last ← update change rest .header last
        some (insertEntry step.key (.tables (items.dropLast ++ [last])) entries)

/-- Add a value under a new key.  `isDotted` says that the key was the end of a dotted
one: then the table must stem from dotted keys, and else it must not. -/
def addValue (key : String) (v : Value) (isDotted : Bool) (origin : Origin) (entries : Entries) :
    Option Entries :=
  if (origin = .dotted) ≠ isDotted then none
  else if (lookup key entries).isSome then none
  else some (insertEntry key (.leaf v) entries)

/-- Open a table by its header. -/
def openTable (key : String) (_ : Origin) (entries : Entries) : Option Entries :=
  match lookup key entries with
  | none => some (insertEntry key (.table .header []) entries)
  -- a table may get its own header after those inside it, once
  | some (.table .implied inner) => some (insertEntry key (.table .header inner) entries)
  | some _ => none

/-- Open the next table of an array of tables by its header. -/
def openItem (key : String) (_ : Origin) (entries : Entries) : Option Entries :=
  match lookup key entries with
  | none => some (insertEntry key (.tables [[]]) entries)
  | some (.tables items) => some (insertEntry key (.tables (items ++ [[]])) entries)
  | some _ => none

/-- A path of header names. -/
def plainPath (keys : List String) : List PathStep := keys.map fun k => ⟨k, false⟩

/-- Add a value under a key, which may be dotted, below the table with the given
names. -/
def addAt (table : List String) (keys : List String) (v : Value) (entries : Entries) :
    Option Entries :=
  match keys.getLast? with
  | none => none
  | some key =>
    let path := keys.dropLast.map fun k => PathStep.mk k true
    update (addValue key v (!path.isEmpty)) (plainPath table ++ path) .header entries

/-- Open the table or the item that a header names. -/
def openAt (isItem : Bool) (keys : List String) (entries : Entries) : Option Entries :=
  match keys.getLast? with
  | none => none
  | some key =>
    update (if isItem then openItem key else openTable key) (plainPath keys.dropLast) .header entries

end BlockDiscovery.Toml
