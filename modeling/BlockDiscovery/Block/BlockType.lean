import BlockDiscovery.Text.Blank

/-!
# Block types

A block type is a URI under the Block Protocol's prefix.  Payloads may name it by
its short kind, by that URI, or by a URI elsewhere; `BlockType.ofText` brings all
three to the one written form, prefix, kind and a closing slash.
-/

namespace BlockDiscovery.Block

open BlockDiscovery

/-- The prefix that every block type URI shares. -/
def typePrefixText : String := "https://blockprotocol.org/@blockprotocol/types/block-type/"

def typeLead : List Char := typePrefixText.toList

/-- A block type, as its URI. -/
structure BlockType where
  uri : List Char
  deriving Repr, DecidableEq, Inhabited

namespace BlockType

def isSlash (c : Char) : Bool := c = '/'

def lastSegment (path : List Char) : List Char := ((Text.pieces '/' path).getLast?).getD []

def withoutQuery (uri : List Char) : List Char := uri.takeWhile fun c => c != '?' && c != '#'

/-- The kind that a raw name stands for: what follows the shared prefix, the last
path segment of any other web address, or the name itself; slashes at its ends are
dropped. -/
def kindOf (raw : List Char) : List Char :=
  let name := Text.trim raw
  match typeLead.isPrefixOf? name with
  | some rest => Text.dropEdgesWhile isSlash rest
  | none =>
    if "https://".toList.isPrefixOf name || "http://".toList.isPrefixOf name then
      lastSegment (Text.dropEndWhile isSlash (withoutQuery name))
    else Text.dropEdgesWhile isSlash name

/-- The block type that a raw name stands for. -/
def ofText (raw : List Char) : BlockType := ⟨typeLead ++ kindOf raw ++ ['/']⟩

/-- The short kind of a block type under the shared prefix. -/
def kind? (t : BlockType) : Option (List Char) :=
  (typeLead.isPrefixOf? t.uri).map (Text.dropEndWhile isSlash)

end BlockType

end BlockDiscovery.Block
