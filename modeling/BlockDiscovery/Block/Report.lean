import BlockDiscovery.Block.Notification

/-!
# Discovery reports

The outcome of looking for the blocks of one file.  There always is one: a failure
is told in `error`, and a failed report carries no blocks.
-/

namespace BlockDiscovery.Block

open BlockDiscovery.Json

/-- The outcome of one discovery. -/
structure Report where
  success : Bool
  blocks : List Notification
  error : Option String
  deriving Repr, BEq, Inhabited

namespace Report

def found (blocks : List Notification) : Report := ⟨true, blocks, none⟩

def failure (message : String) : Report := ⟨false, [], some message⟩

/-- The JSON form of a report, its members in the order of the record. -/
def toValue (r : Report) : Value :=
  .object <|
    [("success", .bool r.success), ("blocks", .array (r.blocks.map Notification.toValue))] ++
    optionalMember "error" (r.error.map .string)

def schema : Schema Report where
  name := "CommunicationResult"
  blank := ⟨false, [], none⟩
  fields :=
    [.needed "success" .bool fun v r => { r with success := v },
      .needed "blocks" (.list Notification.decode) fun v r => { r with blocks := v },
      .defaulted "error" (.optional .string) fun v r => { r with error := v }]

def decode : Decoder Report := schema.decode

end Report

end BlockDiscovery.Block
