import BlockDiscovery.Block.BlockType
import BlockDiscovery.Json.Decode

/-!
# Block notifications

The notification that a block host receives for one block, the entity graph it
carries, and the JSON forms of both.  A payload may leave out every member that has
a default; optional members that are absent stay absent when written.
-/

namespace BlockDiscovery.Block

open BlockDiscovery.Json

/-! ## The records -/

/-- An entity with free-form properties. -/
structure Entity where
  entityId : String
  properties : Value
  deriving Repr, BEq, Inhabited

/-- Entities and the links between them. -/
structure EntityGraph where
  entities : List Entity
  links : List Value
  deriving Repr, BEq, Inhabited

def EntityGraph.empty : EntityGraph := ⟨[], []⟩

def EntityGraph.single (entityId : String) (properties : Value) : EntityGraph :=
  ⟨[⟨entityId, properties⟩], []⟩

/-- A file that the host loads for a block. -/
structure Resource where
  logicalName : String
  physicalPath : String
  cachingTag : String
  deriving Repr, DecidableEq, Inhabited

/-- A place in a document, both counts from zero. -/
structure Position where
  line : Nat
  character : Nat
  deriving Repr, DecidableEq, Inhabited

/-- A stretch of a document. -/
structure Range where
  start : Position
  stop : Position
  deriving Repr, DecidableEq, Inhabited

/-- A block as its host is told of it. -/
structure Notification where
  blockId : String
  blockType : BlockType
  displayMode : String
  entityId : String
  entityGraph : EntityGraph
  resources : Option (List Resource)
  supportsHotReload : Bool
  initialHeight : Nat
  sourceUri : Option String
  range : Option Range
  deriving Repr, BEq, Inhabited

/-- The display mode of a block that names none. -/
def defaultDisplayMode : String := "multi-line"

/-- The initial height in pixels of a block that names none. -/
def defaultInitialHeight : Nat := 200

namespace Notification

/-- A notification with the default presentation. -/
def make (blockId : String) (blockType : BlockType) (entityId : String) (graph : EntityGraph) :
    Notification where
  blockId := blockId
  blockType := blockType
  displayMode := defaultDisplayMode
  entityId := entityId
  entityGraph := graph
  resources := none
  supportsHotReload := false
  initialHeight := defaultInitialHeight
  sourceUri := none
  range := none

/-- The properties of the entity that the block is bound to, if the graph holds
it. -/
def primaryProperties? (n : Notification) : Option Value :=
  (n.entityGraph.entities.find? fun e => e.entityId == n.entityId).map Entity.properties

end Notification

/-! ## Writing -/

def Entity.toValue (e : Entity) : Value :=
  .object [("entityId", .string e.entityId), ("properties", e.properties)]

def EntityGraph.toValue (g : EntityGraph) : Value :=
  .object [("entities", .array (g.entities.map Entity.toValue)), ("links", .array g.links)]

def Resource.toValue (r : Resource) : Value :=
  .object [("logicalName", .string r.logicalName), ("physicalPath", .string r.physicalPath),
    ("cachingTag", .string r.cachingTag)]

def Position.toValue (p : Position) : Value :=
  .object [("line", .nat p.line), ("character", .nat p.character)]

def Range.toValue (r : Range) : Value :=
  .object [("start", r.start.toValue), ("end", r.stop.toValue)]

/-- The member of an optional value: none when it is absent. -/
def optionalMember (name : String) (v : Option Value) : List (String × Value) :=
  v.toList.map fun v => (name, v)

/-- The JSON form of a notification, its members in the order of the record. -/
def Notification.toValue (n : Notification) : Value :=
  .object <|
    [("blockId", .string n.blockId), ("blockType", .string (String.ofList n.blockType.uri)),
      ("displayMode", .string n.displayMode), ("entityId", .string n.entityId),
      ("entityGraph", n.entityGraph.toValue)] ++
    optionalMember "resources" (n.resources.map fun rs => .array (rs.map Resource.toValue)) ++
    [("supportsHotReload", .bool n.supportsHotReload), ("initialHeight", .nat n.initialHeight)] ++
    optionalMember "sourceUri" (n.sourceUri.map .string) ++
    optionalMember "range" (n.range.map Range.toValue)

/-! ## Reading -/

/-- Entities: the properties default to an empty object. -/
def Entity.schema : Schema Entity where
  name := "Entity"
  blank := ⟨"", .object []⟩
  fields :=
    [.needed "entityId" .string fun v e => { e with entityId := v },
      .defaulted "properties" .value fun v e => { e with properties := v }]

/-- Entity graphs: both lists default to the empty one. -/
def EntityGraph.schema : Schema EntityGraph where
  name := "EntityGraph"
  blank := .empty
  fields :=
    [.defaulted "entities" (.list Entity.schema.decode) fun v g => { g with entities := v },
      .defaulted "links" (.list .value) fun v g => { g with links := v }]

def Resource.schema : Schema Resource where
  name := "BlockResource"
  blank := ⟨"", "", ""⟩
  fields :=
    [.needed "logicalName" .string fun v r => { r with logicalName := v },
      .needed "physicalPath" .string fun v r => { r with physicalPath := v },
      .needed "cachingTag" .string fun v r => { r with cachingTag := v }]

def Position.schema : Schema Position where
  name := "BlockPosition"
  blank := ⟨0, 0⟩
  fields :=
    [.needed "line" .unsigned32 fun v p => { p with line := v },
      .needed "character" .unsigned32 fun v p => { p with character := v }]

def Range.schema : Schema Range where
  name := "BlockRange"
  blank := ⟨⟨0, 0⟩, ⟨0, 0⟩⟩
  fields :=
    [.needed "start" Position.schema.decode fun v r => { r with start := v },
      .needed "end" Position.schema.decode fun v r => { r with stop := v }]

/-- A block type is written as any name of it. -/
def BlockType.decode : Decoder BlockType := fun room doc =>
  (Decoder.string room doc).map fun s => .ofText s.toList

def Notification.schema : Schema Notification where
  name := "VivafolioBlockNotification"
  blank := .make "" ⟨[]⟩ "" .empty
  fields :=
    [.needed "blockId" .string fun v n => { n with blockId := v },
      .needed "blockType" BlockType.decode fun v n => { n with blockType := v },
      .defaulted "displayMode" .string fun v n => { n with displayMode := v },
      .needed "entityId" .string fun v n => { n with entityId := v },
      .defaulted "entityGraph" EntityGraph.schema.decode fun v n => { n with entityGraph := v },
      .defaulted "resources" (.optional (.list Resource.schema.decode))
        fun v n => { n with resources := v },
      .defaulted "supportsHotReload" .bool fun v n => { n with supportsHotReload := v },
      .defaulted "initialHeight" .unsigned32 fun v n => { n with initialHeight := v },
      .defaulted "sourceUri" (.optional .string) fun v n => { n with sourceUri := v },
      .defaulted "range" (.optional Range.schema.decode) fun v n => { n with range := v }]

def Notification.decode : Decoder Notification := Notification.schema.decode

end BlockDiscovery.Block
