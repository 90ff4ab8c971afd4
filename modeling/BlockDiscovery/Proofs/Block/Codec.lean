import BlockDiscovery.Block.Report
import BlockDiscovery.Proofs.Block.BlockType
import BlockDiscovery.Proofs.Json.Record

/-! # Notifications and reports as JSON

For each record there is one lemma about reading it, from the values of its members in
any order.  It serves what was written, where the order is that of the record, and it
serves payloads, where the order is that of the keys.
-/

namespace BlockDiscovery.Block

open BlockDiscovery BlockDiscovery.Json

/-! ## Complete payloads -/

def needed (name : String) (holds : Value → Prop) : Member := ⟨name, false, holds⟩

/-- The member may be absent; null is no value of it. -/
def optional (name : String) (holds : Value → Prop) : Member := ⟨name, true, holds⟩

def IsPosition : Value → Prop := IsRecord [needed "line" IsCount, needed "character" IsCount]

def IsRange : Value → Prop := IsRecord [needed "start" IsPosition, needed "end" IsPosition]

def IsResource : Value → Prop :=
  IsRecord [needed "logicalName" IsText, needed "physicalPath" IsText, needed "cachingTag" IsText]

def IsEntity : Value → Prop :=
  IsRecord [needed "entityId" IsText, needed "properties" fun _ => True]

def IsGraph : Value → Prop :=
  IsRecord [needed "entities" (IsListOf IsEntity), needed "links" (IsListOf fun _ => True)]

/-- A written block type: the shared prefix, a kind without slashes at its ends, a slash. -/
def IsTypeUri (v : Value) : Prop :=
  ∃ kind, Bare kind ∧ v = .string (String.ofList (typeLead ++ kind ++ ['/']))

def payloadMembers : List Member :=
  [needed "blockId" IsText, needed "blockType" IsTypeUri, needed "displayMode" IsText,
    needed "entityId" IsText, needed "entityGraph" IsGraph, optional "resources" (IsListOf IsResource),
    needed "supportsHotReload" IsFlag, needed "initialHeight" IsCount, optional "sourceUri" IsText,
    optional "range" IsRange]

/-- A complete payload of a notification. -/
def IsPayload : Value → Prop := IsRecord payloadMembers

/-! ## Positions and ranges -/

variable {v : Value}

theorem decodes_position {line character : Value} {p : Position}
    (object : v.Holds [("line", line), ("character", character)])
    (first : Decodes Decoder.unsigned32 line p.line)
    (second : Decodes Decoder.unsigned32 character p.character) : Decodes Position.schema.decode v p := by
  have loads : List.Forall₂ (Loads Position.schema) [("line", line), ("character", character)] _ :=
    .cons (loads_field rfl first) (.cons (loads_field rfl second) .nil)
  have read := decodes_record object loads (by simp) (by simp [Position.schema, Field.needed])
    (by simp [Commutes])
  exact read

theorem restores_position (h : IsPosition v) (ordered : v.Ordered) :
    Restores Position.schema.decode Position.toValue v := by
  obtain ⟨_, _ | ⟨line, _ | ⟨character, _ | _⟩⟩, object⟩ := h.values ordered (by decide)
  obtain ⟨_, rfl, ⟨l, smallLine, rfl⟩, _⟩ := line.needed
  obtain ⟨_, rfl, ⟨c, smallCharacter, rfl⟩, _⟩ := character.needed
  exact ⟨⟨l, c⟩, decodes_position object (decodes_unsigned32 smallLine)
    (decodes_unsigned32 smallCharacter), object.ofMembers ordered⟩

theorem decodes_range {start stop : Value} {r : Range}
    (object : v.Holds [("start", start), ("end", stop)])
    (first : Decodes Position.schema.decode start r.start)
    (second : Decodes Position.schema.decode stop r.stop) : Decodes Range.schema.decode v r := by
  have loads : List.Forall₂ (Loads Range.schema) [("start", start), ("end", stop)] _ :=
    .cons (loads_field rfl first) (.cons (loads_field rfl second) .nil)
  have read := decodes_record object loads (by simp) (by simp [Range.schema, Field.needed])
    (by simp [Commutes])
  exact read

theorem restores_range (h : IsRange v) (ordered : v.Ordered) :
    Restores Range.schema.decode Range.toValue v := by
  obtain ⟨_, _ | ⟨start, _ | ⟨stop, _ | _⟩⟩, object⟩ := h.values ordered (by decide)
  obtain ⟨_, rfl, isStart, orderedStart⟩ := start.needed
  obtain ⟨_, rfl, isStop, orderedStop⟩ := stop.needed
  obtain ⟨p, readStart, rfl⟩ := restores_position isStart orderedStart
  obtain ⟨q, readStop, rfl⟩ := restores_position isStop orderedStop
  exact ⟨⟨p, q⟩, decodes_range object readStart readStop, object.ofMembers ordered⟩

/-! ## Resources -/

theorem decodes_resource {r : Resource} (object : v.Holds [("logicalName", .string r.logicalName),
    ("physicalPath", .string r.physicalPath), ("cachingTag", .string r.cachingTag)]) :
    Decodes Resource.schema.decode v r := by
  have loads : List.Forall₂ (Loads Resource.schema) [("logicalName", .string r.logicalName),
      ("physicalPath", .string r.physicalPath), ("cachingTag", .string r.cachingTag)] _ :=
    .cons (loads_field rfl (decodes_string _)) (.cons (loads_field rfl (decodes_string _))
      (.cons (loads_field rfl (decodes_string _)) .nil))
  have read := decodes_record object loads (by simp) (by simp [Resource.schema, Field.needed])
    (by simp [Commutes])
  exact read

theorem restores_resource (h : IsResource v) (ordered : v.Ordered) :
    Restores Resource.schema.decode Resource.toValue v := by
  obtain ⟨_, _ | ⟨logical, _ | ⟨physical, _ | ⟨tag, _ | _⟩⟩⟩, object⟩ := h.values ordered (by decide)
  obtain ⟨_, rfl, ⟨logicalName, rfl⟩, _⟩ := logical.needed
  obtain ⟨_, rfl, ⟨physicalPath, rfl⟩, _⟩ := physical.needed
  obtain ⟨_, rfl, ⟨cachingTag, rfl⟩, _⟩ := tag.needed
  exact ⟨⟨logicalName, physicalPath, cachingTag⟩, decodes_resource object, object.ofMembers ordered⟩

/-! ## Entity graphs -/

theorem decodes_entity {e : Entity}
    (object : v.Holds [("entityId", .string e.entityId), ("properties", e.properties)])
    (ordered : e.properties.Ordered) : Decodes Entity.schema.decode v e := by
  have loads : List.Forall₂ (Loads Entity.schema)
      [("entityId", .string e.entityId), ("properties", e.properties)] _ :=
    .cons (loads_field rfl (decodes_string _)) (.cons (loads_field rfl (decodes_value ordered)) .nil)
  have read := decodes_record object loads (by simp)
    (by simp [Entity.schema, Field.needed, Field.defaulted]) (by simp [Commutes])
  exact read

theorem restores_entity (h : IsEntity v) (ordered : v.Ordered) :
    Restores Entity.schema.decode Entity.toValue v := by
  obtain ⟨_, _ | ⟨id, _ | ⟨free, _ | _⟩⟩, object⟩ := h.values ordered (by decide)
  obtain ⟨_, rfl, ⟨entityId, rfl⟩, _⟩ := id.needed
  obtain ⟨properties, rfl, _, inner⟩ := free.needed
  refine ⟨⟨entityId, properties⟩, decodes_entity object inner, ?_⟩
  have same := Value.sorted_of_ordered properties inner
  rw [Entity.toValue, Value.sorted_object, List.map_cons, List.map_singleton, same]
  exact object.ofMembers ordered

theorem decodes_graph {entities links : Value} {g : EntityGraph}
    (object : v.Holds [("entities", entities), ("links", links)])
    (readEntities : Decodes (Decoder.list Entity.schema.decode) entities g.entities)
    (readLinks : Decodes (Decoder.list Decoder.value) links g.links) :
    Decodes EntityGraph.schema.decode v g := by
  have loads : List.Forall₂ (Loads EntityGraph.schema) [("entities", entities), ("links", links)] _ :=
    .cons (loads_field rfl readEntities) (.cons (loads_field rfl readLinks) .nil)
  have read := decodes_record object loads (by simp) (by simp [EntityGraph.schema, Field.defaulted])
    (by simp [Commutes])
  exact read

theorem restores_graph (h : IsGraph v) (ordered : v.Ordered) :
    Restores EntityGraph.schema.decode EntityGraph.toValue v := by
  obtain ⟨_, _ | ⟨entities, _ | ⟨links, _ | _⟩⟩, object⟩ := h.values ordered (by decide)
  obtain ⟨_, rfl, listed, orderedEntities⟩ := entities.needed
  obtain ⟨_, rfl, ⟨free, rfl, _⟩, orderedFree⟩ := links.needed
  obtain ⟨values, read, rfl⟩ := restores_list listed orderedEntities fun _ => restores_entity
  have readFree := decodes_values (Value.orderedItems_iff.mp orderedFree)
  refine ⟨⟨values, free⟩, decodes_graph object read readFree, ?_⟩
  have same := Value.sorted_of_ordered (.array free) orderedFree
  rw [EntityGraph.toValue, Value.sorted_object, List.map_cons, List.map_singleton, same]
  exact object.ofMembers ordered

/-! ## Notifications -/

/-- The members of a written notification, in their order, from the values of those that
are no plain types or may be absent. -/
def membersWith (n : Notification) (graph : Value) (resources source range : Option Value) :
    List (String × Value) :=
  [("blockId", .string n.blockId), ("blockType", .string (String.ofList n.blockType.uri)),
    ("displayMode", .string n.displayMode), ("entityId", .string n.entityId), ("entityGraph", graph)] ++
  (optionalMember "resources" resources ++
    ([("supportsHotReload", .bool n.supportsHotReload), ("initialHeight", .nat n.initialHeight)] ++
      (optionalMember "sourceUri" source ++ optionalMember "range" range)))

theorem membersWith_nodup (n : Notification) (graph : Value) (resources source range : Option Value) :
    ((membersWith n graph resources source range).map Prod.fst).Nodup := by
  cases resources <;> cases source <;> cases range <;> simp [membersWith, optionalMember]

theorem decodes_notification {graph : Value} {resources source range : Option Value} {n : Notification}
    (object : v.Holds (membersWith n graph resources source range))
    (kind : Decodes BlockType.decode (.string (String.ofList n.blockType.uri)) n.blockType)
    (height : n.initialHeight < 2 ^ 32)
    (readGraph : Decodes EntityGraph.schema.decode graph n.entityGraph)
    (readResources : Present (Decoder.list Resource.schema.decode) resources n.resources)
    (readSource : Present Decoder.string source n.sourceUri)
    (readRange : Present Range.schema.decode range n.range) : Decodes Notification.decode v n := by
  have loads : List.Forall₂ (Loads Notification.schema) (membersWith n graph resources source range) _ :=
    List.rel_append
      (.cons (loads_field rfl (decodes_string _)) (.cons (loads_field rfl kind)
        (.cons (loads_field rfl (decodes_string _)) (.cons (loads_field rfl (decodes_string _))
          (.cons (loads_field rfl readGraph) .nil)))))
      (List.rel_append (loads_optional rfl readResources)
        (List.rel_append
          (.cons (loads_field rfl (decodes_bool _))
            (.cons (loads_field rfl (decodes_unsigned32 height)) .nil))
          (List.rel_append (loads_optional rfl readSource) (loads_optional rfl readRange))))
  have read := decodes_record object loads (membersWith_nodup n graph resources source range)
    (by simp [Notification.schema, Field.needed, Field.defaulted, membersWith])
    (by cases n.resources <;> cases n.sourceUri <;> cases n.range <;> simp [Commutes])
  unfold Notification.decode
  convert read using 1
  -- the blank notification has no optional member, so one that is absent is left absent
  obtain ⟨_, _, _, _, _, resources, _, _, sourceUri, range⟩ := n
  cases resources <;> cases sourceUri <;> cases range <;> rfl

theorem optionalMember_map_sorted (name : String) (x : Option Value) :
    (optionalMember name x).map (fun m => (m.1, m.2.sorted)) =
      optionalMember name (x.map Value.sorted) := by
  cases x <;> rfl

theorem membersOf_payload (n : Notification) (graph : Value) (resources source range : Option Value) :
    membersOf payloadMembers [some (.string n.blockId), some (.string (String.ofList n.blockType.uri)),
      some (.string n.displayMode), some (.string n.entityId), some graph, resources,
      some (.bool n.supportsHotReload), some (.nat n.initialHeight), source, range] =
    membersWith n graph resources source range := by
  simp [membersOf, payloadMembers, membersWith, optionalMember, needed, optional]

theorem restores_payload (h : IsPayload v) (ordered : v.Ordered) :
    Restores Notification.decode Notification.toValue v := by
  obtain ⟨values, fits, object⟩ := h.values ordered (by decide)
  obtain _ | ⟨id, _ | ⟨kind, _ | ⟨mode, _ | ⟨entity, _ | ⟨graph, _ | ⟨resources, _ | ⟨reload, _ |
    ⟨height, _ | ⟨source, _ | ⟨range, _ | _⟩⟩⟩⟩⟩⟩⟩⟩⟩⟩ := fits
  obtain ⟨_, rfl, ⟨blockId, rfl⟩, _⟩ := id.needed
  obtain ⟨_, rfl, ⟨short, bare, rfl⟩, _⟩ := kind.needed
  obtain ⟨_, rfl, ⟨displayMode, rfl⟩, _⟩ := mode.needed
  obtain ⟨_, rfl, ⟨entityId, rfl⟩, _⟩ := entity.needed
  obtain ⟨_, rfl, isGraph, orderedGraph⟩ := graph.needed
  obtain ⟨_, rfl, ⟨supportsHotReload, rfl⟩, _⟩ := reload.needed
  obtain ⟨_, rfl, ⟨initialHeight, small, rfl⟩, _⟩ := height.needed
  obtain ⟨entityGraph, readGraph, rfl⟩ := restores_graph isGraph orderedGraph
  obtain ⟨files, readResources, rfl⟩ := resources.restores fun _ isList ordered =>
    ⟨isList.ne_null, restores_list isList ordered fun _ => restores_resource⟩
  obtain ⟨sourceUri, readSource, rfl⟩ := source.restores fun _ isText _ =>
    ⟨isText.ne_null, restores_text isText⟩
  obtain ⟨stretch, readRange, rfl⟩ := range.restores fun _ isRange ordered =>
    ⟨isRange.ne_null, restores_range isRange ordered⟩
  let n : Notification := ⟨blockId, ⟨typeLead ++ short ++ ['/']⟩, displayMode, entityId, entityGraph,
    files, supportsHotReload, initialHeight, sourceUri, stretch⟩
  have object := membersOf_payload n _ _ _ _ ▸ object
  refine ⟨n, decodes_notification object (BlockType.decodes_uri bare) small readGraph readResources
    readSource readRange, ?_⟩
  rw [Notification.toValue, Value.sorted_object]
  simp only [List.map_append, List.map_cons, List.map_nil, optionalMember_map_sorted, List.append_assoc]
  exact object.ofMembers ordered

/-! ## What is written -/

/-- A free value whose members are in order and whose numbers are integers. -/
def IsPlain (v : Value) : Prop := v.Ordered ∧ v.Integral

/-- Both counts are of 32 bits. -/
def Position.Small (p : Position) : Prop := p.line < 2 ^ 32 ∧ p.character < 2 ^ 32

/-- The counts are of 32 bits, the block type was made from a name, and the free values
have members in order and integers for numbers. -/
structure Notification.Proper (n : Notification) : Prop where
  blockType : ∃ raw, n.blockType = .ofText raw
  height : n.initialHeight < 2 ^ 32
  range : ∀ r ∈ n.range, r.start.Small ∧ r.stop.Small
  properties : ∀ e ∈ n.entityGraph.entities, IsPlain e.properties
  links : ∀ link ∈ n.entityGraph.links, IsPlain link

theorem decodes_written_position {p : Position} (small : p.Small) :
    Decodes Position.schema.decode p.toValue p :=
  decodes_position ⟨_, rfl, .refl _⟩ (decodes_unsigned32 small.1) (decodes_unsigned32 small.2)

theorem decodes_written_range {r : Range} (start : r.start.Small) (stop : r.stop.Small) :
    Decodes Range.schema.decode r.toValue r :=
  decodes_range ⟨_, rfl, .refl _⟩ (decodes_written_position start) (decodes_written_position stop)

theorem decodes_written_list {α : Type} {decode : Decoder α} {write : α → Value} {values : List α}
    (each : ∀ a ∈ values, Decodes decode (write a) a) :
    Decodes (Decoder.list decode) (.array (values.map write)) values := by
  apply decodes_list
  rw [List.forall₂_map_left_iff, List.forall₂_same]
  exact each

theorem present_written {α : Type} {decode : Decoder α} {write : α → Value} {x : Option α}
    (each : ∀ a ∈ x, write a ≠ .null ∧ Decodes decode (write a) a) : Present decode (x.map write) x := by
  cases x with
  | none => exact .none
  | some a => exact .some (each a rfl)

theorem decodes_written_graph {g : EntityGraph} (properties : ∀ e ∈ g.entities, IsPlain e.properties)
    (links : ∀ link ∈ g.links, IsPlain link) : Decodes EntityGraph.schema.decode g.toValue g := by
  apply decodes_graph ⟨_, rfl, .refl _⟩
  · apply decodes_written_list
    intro e member
    exact decodes_entity ⟨_, rfl, .refl _⟩ (properties e member).1
  · exact decodes_values fun link member => (links link member).1

theorem decodes_written {n : Notification} (proper : n.Proper) : Decodes Notification.decode n.toValue n := by
  obtain ⟨raw, named⟩ := proper.blockType
  have object : n.toValue.Holds (membersWith n n.entityGraph.toValue
      (n.resources.map fun rs => .array (rs.map Resource.toValue)) (n.sourceUri.map .string)
      (n.range.map Range.toValue)) :=
    ⟨_, rfl, by simp [membersWith]⟩
  apply decodes_notification object
  · rw [named]
    exact BlockType.decodes_uri (BlockType.bare_kindOf raw)
  · exact proper.height
  · exact decodes_written_graph proper.properties proper.links
  · apply present_written
    intro rs _
    exact ⟨nofun, decodes_written_list fun r _ => decodes_resource ⟨_, rfl, .refl _⟩⟩
  · apply present_written
    intro s _
    exact ⟨nofun, decodes_string s⟩
  · apply present_written
    intro r member
    exact ⟨nofun, decodes_written_range (proper.range r member).1 (proper.range r member).2⟩

theorem decodes_written_report {r : Report} (proper : ∀ n ∈ r.blocks, n.Proper) :
    Decodes Report.decode r.toValue r := by
  have problem : Present Decoder.string (r.error.map .string) r.error := by
    apply present_written
    intro s _
    exact ⟨nofun, decodes_string s⟩
  have blocks : Decodes (Decoder.list Notification.decode) (.array (r.blocks.map Notification.toValue))
      r.blocks :=
    decodes_written_list fun n member => decodes_written (proper n member)
  have loads : List.Forall₂ (Loads Report.schema) ([("success", .bool r.success),
      ("blocks", .array (r.blocks.map Notification.toValue))] ++
      optionalMember "error" (r.error.map .string)) _ :=
    List.rel_append (.cons (loads_field rfl (decodes_bool _)) (.cons (loads_field rfl blocks) .nil))
      (loads_optional rfl problem)
  have read := decodes_record ⟨_, rfl, .refl _⟩ loads
    (by cases r.error <;> simp [optionalMember])
    (by simp [Report.schema, Field.needed, Field.defaulted])
    (by cases r.error <;> simp [Commutes])
  unfold Report.decode Report.toValue
  convert read using 1
  obtain ⟨_, _, error⟩ := r
  cases error <;> rfl

/-! ## Numbers of what is written -/

theorem integral_nat {n : Nat} (small : n < 2 ^ 32) : (Value.nat n).Integral := by
  simp only [Value.nat, Value.Integral, Number.exactRange]
  omega

theorem integral_position {p : Position} (small : p.Small) : p.toValue.Integral := by
  simp [Position.toValue, Value.integral_object, integral_nat small.1, integral_nat small.2]

theorem integral_text (s : String) : (Value.string s).Integral := by
  simp [Value.Integral]

theorem integral_flag (b : Bool) : (Value.bool b).Integral := by
  simp [Value.Integral]

theorem integral_graph {g : EntityGraph} (properties : ∀ e ∈ g.entities, IsPlain e.properties)
    (links : ∀ link ∈ g.links, IsPlain link) : g.toValue.Integral := by
  have entities : ∀ e ∈ g.entities, e.toValue.Integral := by
    intro e member
    simp [Entity.toValue, Value.integral_object, integral_text, (properties e member).2]
  have free : ∀ link ∈ g.links, link.Integral := fun link member => (links link member).2
  simpa [EntityGraph.toValue, Value.integral_object, Value.integral_array] using ⟨entities, free⟩

theorem integral_optional {name : String} {x : Option Value} (h : ∀ v ∈ x, v.Integral) :
    ∀ m ∈ optionalMember name x, m.2.Integral := by
  intro m member
  obtain ⟨v, present, rfl⟩ := List.mem_map.mp member
  exact h v (Option.mem_toList.mp present)

theorem integral_written {n : Notification} (proper : n.Proper) : n.toValue.Integral := by
  have resources : ∀ v ∈ n.resources.map fun rs => Value.array (rs.map Resource.toValue), v.Integral := by
    simp [Value.integral_array, Resource.toValue, Value.integral_object, integral_text]
  have range : ∀ v ∈ n.range.map Range.toValue, v.Integral := by
    intro v member
    obtain ⟨r, present, rfl⟩ := Option.mem_map.mp member
    obtain ⟨start, stop⟩ := proper.range r present
    simp [Range.toValue, Value.integral_object, integral_position start, integral_position stop]
  have source : ∀ v ∈ n.sourceUri.map Value.string, v.Integral := by
    simp [integral_text]
  have height := integral_nat proper.height
  have graph := integral_graph proper.properties proper.links
  rw [Notification.toValue, Value.integral_object]
  simp only [List.forall_mem_append]
  refine ⟨⟨⟨⟨?_, integral_optional resources⟩, ?_⟩, integral_optional source⟩, integral_optional range⟩
  · simp [integral_text, graph]
  · simp [integral_flag, height]

theorem integral_written_report {r : Report} (proper : ∀ n ∈ r.blocks, n.Proper) :
    r.toValue.Integral := by
  have blocks : ∀ n ∈ r.blocks, n.toValue.Integral := fun n member => integral_written (proper n member)
  have error : ∀ v ∈ r.error.map Value.string, v.Integral := by
    simp [integral_text]
  rw [Report.toValue, Value.integral_object, List.forall_mem_append]
  refine ⟨?_, integral_optional error⟩
  simpa [Value.integral_array, integral_flag] using blocks

/-- The JSON of notifications and reports loses nothing.  What is written of a
notification is read as that notification, and so for a report; and a complete payload,
with any free values, is what is written of the notification that it is read as. -/
theorem notification_codec :
    (∀ n : Notification, n.Proper → n.toValue.nesting ≤ nestingLimit →
      decodeText Notification.decode n.toValue.render = .ok n) ∧
    (∀ r : Report, (∀ n ∈ r.blocks, n.Proper) → r.toValue.nesting ≤ nestingLimit →
      decodeText Report.decode r.toValue.render = .ok r) ∧
    (∀ j : Value, j.Ordered → IsPayload j → ∃ n : Notification,
      (∀ room, j.nesting ≤ room → Notification.decode room j.toDoc = .ok n) ∧ n.toValue.sorted = j) := by
  refine ⟨?_, ?_, ?_⟩
  · intro n proper shallow
    exact decodeText_render (decodes_written proper) (integral_written proper) shallow
  · intro r proper shallow
    exact decodeText_render (decodes_written_report proper) (integral_written_report proper) shallow
  · intro j ordered payload
    exact restores_payload payload ordered

/-- A notification with a resource and a range, a report of it, and a payload with one of
its optional members. -/
theorem notification_codec_table :
    ∃ (n : Notification) (r : Report) (j : Value),
      n = { Notification.make "b" (.ofText "/table".toList) "e" (.single "e" (.array [.int (-1)])) with
        resources := some [⟨"i", "p", "t"⟩], range := some ⟨⟨3, 0⟩, ⟨3, 50⟩⟩ } ∧
      r = ⟨false, [n], some "late"⟩ ∧
      j = .object [("blockId", .string "b"),
        ("blockType", .string "https://blockprotocol.org/@blockprotocol/types/block-type/table/"),
        ("displayMode", .string "inline"),
        ("entityGraph", .object [("entities", .array []), ("links", .array [.null])]),
        ("entityId", .string "e"), ("initialHeight", .nat 7), ("sourceUri", .string "file:///a"),
        ("supportsHotReload", .bool true)] ∧
      decodeText Notification.decode n.toValue.render = .ok n ∧
      decodeText Report.decode r.toValue.render = .ok r ∧
      ∃ m : Notification, (∀ room, j.nesting ≤ room → Notification.decode room j.toDoc = .ok m) ∧
        m.toValue.sorted = j := by
  refine ⟨_, _, _, rfl, rfl, rfl, ?_⟩
  obtain ⟨notifications, reports, payloads⟩ := notification_codec
  have proper : Notification.Proper { Notification.make "b" (.ofText "/table".toList) "e"
      (.single "e" (.array [.int (-1)])) with
      resources := some [⟨"i", "p", "t"⟩], range := some ⟨⟨3, 0⟩, ⟨3, 50⟩⟩ } := by
    refine ⟨⟨_, rfl⟩, by decide, ?_, ?_, ?_⟩
    · rintro r ⟨⟩
      exact ⟨⟨by decide, by decide⟩, ⟨by decide, by decide⟩⟩
    · intro e member
      obtain rfl := List.mem_singleton.mp member
      exact ⟨⟨trivial, trivial⟩, ⟨by decide, by decide⟩, trivial⟩
    · intro link member
      cases member
  refine ⟨notifications _ proper (by decide), reports _ ?_ (by decide), payloads _ ?_ ?_⟩
  · intro n member
    obtain rfl := List.mem_singleton.mp member
    exact proper
  · simp only [Value.Ordered, Value.OrderedMembers, Value.OrderedItems, Value.nat, and_true, true_and]
    constructor <;> decide
  · refine ⟨_, rfl, by decide, ?_⟩
    have graph : IsGraph (.object [("entities", .array []), ("links", .array [.null])]) := by
      refine ⟨_, rfl, by decide, ?_⟩
      simp [needed, IsListOf]
    have uri : IsTypeUri
        (.string "https://blockprotocol.org/@blockprotocol/types/block-type/table/") :=
      ⟨"table".toList, by decide, rfl⟩
    have small : IsCount (.nat 7) := ⟨7, by decide, rfl⟩
    simp [payloadMembers, needed, optional, IsText, IsFlag, graph, uri, small]

end BlockDiscovery.Block
