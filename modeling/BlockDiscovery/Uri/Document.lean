import BlockDiscovery.Uri.Address

/-!
# Paths and URIs of documents

A document is named by the URI of its path.  Servers may spell a URI in another way;
`normalize` brings every spelling of a local path to the one that `Path.uri?` writes
and leaves other URIs as they are.
-/

namespace BlockDiscovery.Uri

open BlockDiscovery

def Path.uri? (p : Path) : Option (List Char) :=
  if p.isAbsolute then
    let segments := p.components.map percentEncode
    some ("file://".toList ++ if segments.isEmpty then ['/'] else segments.flatMap ('/' :: ·))
  else none

/-- Bytes that end in a drive get a slash behind it. -/
def closeDrive (bytes : List UInt8) : List UInt8 :=
  -- a drive alone would be a relative path
  match bytes.reverse with
  | mark :: letter :: _ :: _ =>
    if isDrive [Char.ofNat letter.toNat, Char.ofNat mark.toNat] then bytes ++ [slash] else bytes
  | _ => bytes

/-- The path that a URI names on the local machine. -/
def pathOf? (uri : List Char) : Option Path :=
  (segments? uri).map fun segments =>
    ⟨closeDrive (segments.flatMap fun s => slash :: percentDecode (Text.utf8 s))⟩

/-- The canonical spelling of a URI. -/
def normalize (uri : List Char) : List Char := ((pathOf? uri).bind Path.uri?).getD uri

def canonical (uri : String) : String := String.ofList (normalize uri.toList)

end BlockDiscovery.Uri
