import BlockDiscovery.Diagnostic.Registry
import BlockDiscovery.Protocol.Diagnostics

/-!
# From diagnostics to blocks

The published diagnostics of a document are cleaned by the adapter of its language, in
the order of publication, and those that carry a valid payload become blocks.  A block
that does not say where it comes from gets the document and the range of its
diagnostic.
-/

namespace BlockDiscovery.Diagnostic

open BlockDiscovery.Protocol (Diagnostic)

/-- The cleaned text of a diagnostic and its range. -/
structure Adapted where
  text : List Char
  range : Block.Range
  deriving Repr, DecidableEq

/-- Clean every diagnostic with the adapter of a language. -/
def Registry.adapt (r : Registry) (language : String) (diagnostics : List Diagnostic) :
    List Adapted :=
  diagnostics.map fun d => ⟨(r.resolve language).clean d.message.toList, d.range⟩

/-- The block that an adapted diagnostic of a document declares, if it carries a valid
payload. -/
def Adapted.block? (a : Adapted) (uri : String) : Option Block.Notification :=
  match parsePayload a.text with
  | .ok n =>
    -- what the payload says of its place has precedence
    some { n with sourceUri := some (n.sourceUri.getD uri), range := some (n.range.getD a.range) }
  | .error _ => none

/-- The blocks that the diagnostics of a document declare. -/
def Registry.blocks (r : Registry) (language uri : String) (diagnostics : List Diagnostic) :
    List Block.Notification :=
  (r.adapt language diagnostics).filterMap (·.block? uri)

end BlockDiscovery.Diagnostic
