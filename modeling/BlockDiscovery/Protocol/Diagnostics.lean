import BlockDiscovery.Block.Notification

/-!
# Published diagnostics

The diagnostics that a server publishes for a document.  Their text is opaque to the
protocol.
-/

namespace BlockDiscovery.Protocol

open BlockDiscovery.Json
open BlockDiscovery.Block (Position Range)

structure Diagnostic where
  range : Range
  severity : Option Nat
  source : Option String
  message : String
  deriving Repr, DecidableEq, Inhabited

/-- The diagnostics of a document, as they are published. -/
structure Publication where
  uri : String
  version : Option Int
  diagnostics : List Diagnostic
  deriving Repr, DecidableEq, Inhabited

def positionSchema : Schema Position where
  name := "LspPosition"
  blank := ⟨0, 0⟩
  fields :=
    [.needed "line" .unsigned32 fun v p => { p with line := v },
      .needed "character" .unsigned32 fun v p => { p with character := v }]

/-- Ranges of a diagnostic; one without an end stops at the start of the document. -/
def rangeSchema : Schema Range where
  name := "LspRange"
  blank := ⟨⟨0, 0⟩, ⟨0, 0⟩⟩
  fields :=
    [.needed "start" positionSchema.decode fun v r => { r with start := v },
      .defaulted "end" positionSchema.decode fun v r => { r with stop := v }]

def Diagnostic.schema : Schema Diagnostic where
  name := "LspDiagnostic"
  blank := ⟨⟨⟨0, 0⟩, ⟨0, 0⟩⟩, none, none, ""⟩
  fields :=
    [.needed "range" rangeSchema.decode fun v d => { d with range := v },
      .defaulted "severity" (.optional .unsigned64) fun v d => { d with severity := v },
      .defaulted "source" (.optional .string) fun v d => { d with source := v },
      .needed "message" .string fun v d => { d with message := v }]

def Publication.schema : Schema Publication where
  name := "PublishDiagnosticsParams"
  blank := ⟨"", none, []⟩
  fields :=
    [.needed "uri" .string fun v p => { p with uri := v },
      .defaulted "version" (.optional .signed64) fun v p => { p with version := v },
      .needed "diagnostics" (.list Diagnostic.schema.decode) fun v p => { p with diagnostics := v }]

def Publication.decode : Decoder Publication := Publication.schema.decode

end BlockDiscovery.Protocol
