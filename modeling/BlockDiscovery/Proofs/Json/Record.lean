import BlockDiscovery.Proofs.Json.Entries
import BlockDiscovery.Proofs.Json.RoundTrip
import Mathlib.Data.List.Pairwise
import Mathlib.Data.List.Perm.Basic

/-! # Decoding records

What a decoder makes of a value (`Decodes`), for plain types and then for records.  A
record may list its members in any order (`Value.Holds`): each member changes the record
in its own place, so the changes commute (`decodes_record`).  What members a complete
record has is said by `IsRecord`.
-/

namespace BlockDiscovery.Json

open BlockDiscovery

variable {α β : Type}

/-! ## Parts of a value -/

namespace Value

theorem orderedItems_iff {items : List Value} : OrderedItems items ↔ ∀ v ∈ items, v.Ordered := by
  induction items with
  | nil => simp [OrderedItems]
  | cons v items ih => simp [OrderedItems, ih]

theorem orderedMembers_iff {members : List (String × Value)} :
    OrderedMembers members ↔ ∀ m ∈ members, m.2.Ordered := by
  induction members with
  | nil => simp [OrderedMembers]
  | cons m members ih => simp [OrderedMembers, ih]

theorem integral_array {items : List Value} : (Value.array items).Integral ↔ ∀ v ∈ items, v.Integral := by
  rw [Integral]
  induction items with
  | nil => simp [IntegralItems]
  | cons v items ih => simp [IntegralItems, ih]

theorem integral_object {members : List (String × Value)} :
    (Value.object members).Integral ↔ ∀ m ∈ members, m.2.Integral := by
  rw [Integral]
  induction members with
  | nil => simp [IntegralMembers]
  | cons m members ih => simp [IntegralMembers, ih]

/-- The value is an object with these members, in any order. -/
def Holds (v : Value) (ms : List (String × Value)) : Prop :=
  ∃ members, v = .object members ∧ members.Perm ms

variable {v : Value} {ms : List (String × Value)}

theorem Holds.ofMembers (object : v.Holds ms) (ordered : v.Ordered) : ofMembers ms = v := by
  obtain ⟨members, rfl, order⟩ := object
  exact ofMembers_perm order ordered.1

end Value

/-! ## Plain types -/

/-- The decoder reads the value, wherever there is room for it, as `a`. -/
def Decodes (decode : Decoder α) (v : Value) (a : α) : Prop :=
  ∀ room, v.nesting ≤ room → decode room v.toDoc = .ok a

/-- What the printer writes for a value that a decoder reads is read by it as a text. -/
theorem decodeText_render {decode : Decoder α} {v : Value} {a : α} (h : Decodes decode v a)
    (exact : v.Integral) (shallow : v.nesting ≤ nestingLimit) : decodeText decode v.render = .ok a := by
  have read := readValue_render v (2 * v.render.length + 2) [] exact (by omega) stops_nil
  rw [List.append_nil] at read
  simp [decodeText, Doc.read, read, h nestingLimit shallow, skipBlank]

theorem decodes_string (s : String) : Decodes Decoder.string (.string s) s := by
  intro room _
  rfl

theorem decodes_bool (b : Bool) : Decodes Decoder.bool (.bool b) b := by
  intro room _
  rfl

theorem decodes_unsigned32 {n : Nat} (small : n < 2 ^ 32) : Decodes Decoder.unsigned32 (.nat n) n := by
  intro room _
  have range : (0 : Int) ≤ n ∧ (n : Int) < 0x1_0000_0000 := by omega
  simp only [Decoder.unsigned32, Decoder.integer, Value.nat, Value.toDoc, if_pos range]
  rfl

theorem decodes_value {v : Value} (ordered : v.Ordered) : Decodes Decoder.value v v := by
  intro room deep
  exact value_toDoc v room ordered deep

variable {decode : Decoder α}

theorem decodes_list {items : List Value} {values : List α}
    (each : List.Forall₂ (Decodes decode) items values) :
    Decodes (Decoder.list decode) (.array items) values := by
  intro room deep
  cases room with
  | zero => simp [Value.nesting] at deep
  | succ room =>
    have inner : Value.nestingItems items ≤ room := by simpa [Value.nesting] using deep
    have read : (itemDocs items).mapM (decode room) = .ok values := by
      clear deep
      induction each with
      | nil => rfl
      | cons first _ ih =>
        rw [Value.nestingItems] at inner
        rw [itemDocs, List.mapM_cons, first room (by omega), ih (by omega)]
        rfl
    simp only [Decoder.list, Value.toDoc, read]
    rfl

theorem decodes_values {items : List Value} (ordered : ∀ v ∈ items, v.Ordered) :
    Decodes (Decoder.list Decoder.value) (.array items) items := by
  apply decodes_list
  rw [List.forall₂_same]
  intro v member
  exact decodes_value (ordered v member)

theorem decodes_optional {v : Value} {a : α} (filled : v ≠ .null) (h : Decodes decode v a) :
    Decodes (Decoder.optional decode) v (some a) := by
  intro room deep
  have read := h room deep
  cases v with
  | null => contradiction
  | _ =>
    rw [Value.toDoc] at read ⊢
    simp only [Decoder.optional, read]
    rfl

/-! ## Records -/

variable {schema : Schema α} {room : Nat} {k : String} {v : Value} {update : α → α}
  {ms : List (String × Value)} {updates : List (α → α)}

/-- A field of the record reads the member and changes the record by `update`. -/
def Loads (schema : Schema α) (m : String × Value) (update : α → α) : Prop :=
  ∃ field, schema.fields.find? (·.name = m.1) = some field ∧
    ∀ room, m.2.nesting ≤ room → ∀ record, field.load room m.2.toDoc record = .ok (update record)

theorem loads_field {required : Bool} {decode : Decoder β} {set : β → α → α} {b : β}
    (found : schema.fields.find? (·.name = k) =
      some ⟨k, required, fun room doc record => (decode room doc).map (set · record)⟩)
    (h : Decodes decode v b) : Loads schema (k, v) (set b) := by
  refine ⟨_, found, fun room deep record => ?_⟩
  simp only [h room deep]
  rfl

/-- What stands for an optional member is read as what the record holds. -/
def Present (decode : Decoder α) : Option Value → Option α → Prop :=
  Option.Rel fun v a => v ≠ .null ∧ Decodes decode v a

theorem loads_optional {required : Bool} {decode : Decoder β} {set : Option β → α → α}
    {x : Option Value} {y : Option β}
    (found : schema.fields.find? (·.name = k) =
      some ⟨k, required, fun room doc record => (Decoder.optional decode room doc).map (set · record)⟩)
    (h : Present decode x y) :
    List.Forall₂ (Loads schema) (x.toList.map fun v => (k, v)) (y.toList.map fun b => set (some b)) := by
  cases h with
  | none => exact .nil
  | some present => exact .cons (loads_field found (decodes_optional present.1 present.2)) .nil

theorem absorb_loads {record : α} {seen : List String} (h : Loads schema (k, v) update)
    (deep : v.nesting ≤ room) (new : k ∉ seen) :
    schema.absorb room (record, seen) (.ok k, v.toDoc) = .ok (update record, k :: seen) := by
  obtain ⟨field, found, load⟩ := h
  have read := load room deep record
  have unseen : seen.contains k = false := by simpa using new
  simp only [Schema.absorb, Decoder.key, Except.mapError, bind, Except.bind, found, unseen, read]
  rfl

theorem foldlM_absorb {record : α} {seen : List String}
    (loads : List.Forall₂ (Loads schema) ms updates) (deep : Value.nestingMembers ms ≤ room)
    (distinct : (ms.map Prod.fst).Nodup) (new : ∀ k ∈ ms.map Prod.fst, k ∉ seen) :
    (memberDocs ms).foldlM (schema.absorb room) (record, seen) =
      .ok (updates.foldl (fun r update => update r) record, (ms.map Prod.fst).reverse ++ seen) := by
  -- on the members, each of which is new to those that were seen before it
  induction loads generalizing record seen with
  | nil => rfl
  | @cons m update ms updates first _ ih =>
    obtain ⟨k, v⟩ := m
    rw [Value.nestingMembers] at deep
    rw [List.map_cons, List.nodup_cons] at distinct
    have here : schema.absorb room (record, seen) (.ok k, v.toDoc) = _ :=
      absorb_loads first (by omega) (new k (by simp))
    have others : ∀ l ∈ ms.map Prod.fst, l ∉ k :: seen := by
      intro l member
      have earlier := new l (List.mem_cons_of_mem _ member)
      have differs : l ≠ k := by
        rintro rfl
        exact distinct.1 member
      simp [earlier, differs]
    have rest : (memberDocs ms).foldlM (schema.absorb room) (update record, k :: seen) = _ :=
      ih (by omega) distinct.2 others
    rw [memberDocs, List.foldlM_cons, here]
    simpa [bind, Except.bind] using rest

/-- Changes that may be made in either order. -/
def Commutes (f g : α → α) : Prop := ∀ record, f (g record) = g (f record)

instance : Std.Symm (Commutes (α := α)) := ⟨fun _ _ h record => (h record).symm⟩

/-- A record whose members are in any order is read by making the changes of its members
in the order of the schema. -/
theorem decodes_record (object : v.Holds ms) (loads : List.Forall₂ (Loads schema) ms updates)
    (distinct : (ms.map Prod.fst).Nodup)
    (complete : ∀ field ∈ schema.fields, field.required = true → field.name ∈ ms.map Prod.fst)
    (commute : updates.Pairwise Commutes) :
    Decodes schema.decode v (updates.foldl (fun r update => update r) schema.blank) := by
  obtain ⟨members, rfl, order⟩ := object
  obtain ⟨reordered, loads, same⟩ := List.perm_comp_forall₂ order loads
  have names := order.map Prod.fst
  intro room deep
  cases room with
  | zero => simp [Value.nesting] at deep
  | succ room =>
    have inner : Value.nestingMembers members ≤ room := by simpa [Value.nesting] using deep
    have absorbed : (memberDocs members).foldlM (schema.absorb room) (schema.blank, []) = _ :=
      foldlM_absorb loads inner (names.nodup_iff.mpr distinct) (by simp)
    have all : schema.missing? (members.map Prod.fst).reverse = none := by
      rw [Schema.missing?, Option.map_eq_none_iff, List.find?_eq_none]
      intro field declared
      by_cases required : field.required = true
      · have present := names.mem_iff.mpr (complete field declared required)
        simpa [required] using present
      · simp [required]
    -- the changes were folded in the order of the text, and any order gives the same record
    have both := commute.forall_of_forall (fun _ _ _ => rfl)
    have folded := same.foldl_eq' (f := fun r update => update r)
      (fun f member g other record => (both (same.mem_iff.mp other) (same.mem_iff.mp member) record))
      schema.blank
    rw [List.append_nil] at absorbed
    simp only [Value.toDoc, Schema.decode, absorbed, bind, Except.bind, Close.check, all, folded]
    rfl

/-! ## Complete records -/

/-- A member that a record declares: its name, whether it may be absent, and what its value
is like. -/
structure Member where
  name : String
  optional : Bool
  holds : Value → Prop

/-- An object that has every member declared, except that optional ones may be absent, and
no other. -/
def IsRecord (declared : List Member) (v : Value) : Prop :=
  ∃ members, v = .object members ∧
    (∀ m ∈ declared, m.optional = false → m.name ∈ members.map Prod.fst) ∧
    ∀ e ∈ members, ∃ m ∈ declared, m.name = e.1 ∧ m.holds e.2

theorem IsRecord.ne_null {declared : List Member} (record : IsRecord declared v) : v ≠ .null := by
  obtain ⟨members, rfl, _⟩ := record
  exact nofun

/-- What stands in the place of a member, in an object that is in order, fits it. -/
def Member.Fits (m : Member) : Option Value → Prop
  | none => m.optional = true
  | some v => m.holds v ∧ v.Ordered

theorem Member.Fits.needed {name : String} {holds : Value → Prop} {x : Option Value}
    (fits : Member.Fits ⟨name, false, holds⟩ x) : ∃ v, x = some v ∧ holds v ∧ v.Ordered := by
  cases x with
  | none => cases fits
  | some v => exact ⟨v, rfl, fits⟩

/-- The members with their values in the order in which they are declared. -/
def membersOf (declared : List Member) (values : List (Option Value)) : List (String × Value) :=
  (List.zipWith (fun m x => x.toList.map fun v => (m.name, v)) declared values).flatten

theorem membersOf_map (declared : List Member) (read : Member → Option Value) :
    membersOf declared (declared.map read) =
      declared.flatMap fun m => (read m).toList.map fun v => (m.name, v) := by
  rw [membersOf, List.zipWith_map_right, List.zipWith_self, List.flatMap_def]

theorem membersOf_nodup {declared : List Member} (names : (declared.map Member.name).Nodup)
    (read : Member → Option Value) : (membersOf declared (declared.map read)).Nodup := by
  have front : ((membersOf declared (declared.map read)).map Prod.fst).Sublist
      (declared.map Member.name) := by
    rw [membersOf_map]
    induction declared with
    | nil => exact .slnil
    | cons m declared ih =>
      have rest := ih (List.nodup_cons.mp names).2
      rw [List.flatMap_cons, List.map_append, List.map_cons]
      cases read m with
      | none => exact rest.cons m.name
      | some v => exact rest.cons_cons m.name
  exact (front.nodup names).of_map

theorem IsRecord.values {declared : List Member} (record : IsRecord declared v) (ordered : v.Ordered)
    (names : (declared.map Member.name).Nodup) :
    ∃ values, List.Forall₂ Member.Fits declared values ∧ v.Holds (membersOf declared values) := by
  obtain ⟨members, rfl, complete, only⟩ := record
  have distinct := SortedKeys.nodup ordered.1
  refine ⟨declared.map fun m => lookup m.name members, ?_, members, rfl, ?_⟩
  · rw [List.forall₂_map_right_iff, List.forall₂_same]
    intro m member
    cases found : lookup m.name members with
    | none =>
      have absent := lookup_eq_none_iff.mp found
      cases needed : m.optional with
      | true => exact needed
      | false => exact absurd (complete m member needed) absent
    | some v =>
      have inside := mem_of_lookup found
      obtain ⟨other, declared, same, holds⟩ := only _ inside
      rw [List.inj_on_of_nodup_map names declared member same] at holds
      exact ⟨holds, Value.orderedMembers_iff.mp ordered.2 _ inside⟩
  · rw [List.perm_ext_iff_of_nodup (distinct.of_map) (membersOf_nodup names _), membersOf_map]
    rintro ⟨k, v⟩
    simp only [List.mem_flatMap, List.mem_map, Option.mem_toList, Prod.mk.injEq]
    constructor
    · intro member
      obtain ⟨m, declared, same, _⟩ := only _ member
      exact ⟨m, declared, v, by rw [same]; exact lookup_of_mem distinct member, same, rfl⟩
    · rintro ⟨m, _, _, found, rfl, rfl⟩
      exact mem_of_lookup found

/-! ## Values of plain types -/

def IsText (v : Value) : Prop := ∃ s, v = .string s

def IsFlag (v : Value) : Prop := ∃ b, v = .bool b

def IsCount (v : Value) : Prop := ∃ n < 2 ^ 32, v = .nat n

def IsListOf (kind : Value → Prop) (v : Value) : Prop := ∃ items, v = .array items ∧ ∀ i ∈ items, kind i

theorem IsText.ne_null (h : IsText v) : v ≠ .null := by
  obtain ⟨s, rfl⟩ := h
  exact nofun

theorem IsListOf.ne_null {kind : Value → Prop} (h : IsListOf kind v) : v ≠ .null := by
  obtain ⟨items, rfl, _⟩ := h
  exact nofun

/-! ## Writing what was read -/

/-- The value is what is written of its own reading, up to the order of members. -/
def Restores (decode : Decoder α) (write : α → Value) (v : Value) : Prop :=
  ∃ a, Decodes decode v a ∧ (write a).sorted = v

variable {write : α → Value}

theorem restores_text (h : IsText v) : Restores Decoder.string .string v := by
  obtain ⟨s, rfl⟩ := h
  exact ⟨s, decodes_string s, rfl⟩

theorem restores_list {kind : Value → Prop} (h : IsListOf kind v) (ordered : v.Ordered)
    (each : ∀ w, kind w → w.Ordered → Restores decode write w) :
    Restores (Decoder.list decode) (fun values => .array (values.map write)) v := by
  obtain ⟨items, rfl, kinds⟩ := h
  have all : ∀ w ∈ items, Restores decode write w := by
    intro w member
    exact each w (kinds w member) (Value.orderedItems_iff.mp ordered w member)
  have whole : ∃ values, List.Forall₂ (Decodes decode) items values ∧
      Value.sortedItems (values.map write) = items := by
    clear kinds ordered
    induction items with
    | nil => exact ⟨[], .nil, rfl⟩
    | cons w items ih =>
      obtain ⟨a, read, same⟩ := all w List.mem_cons_self
      obtain ⟨values, others, rest⟩ := ih fun w member => all w (List.mem_cons_of_mem _ member)
      exact ⟨a :: values, .cons read others, by rw [List.map_cons, Value.sortedItems, same, rest]⟩
  obtain ⟨values, read, same⟩ := whole
  exact ⟨values, decodes_list read, by rw [Value.sorted, same]⟩

/-- An optional member that is there is written of its reading; one that is not is not. -/
theorem Member.Fits.restores {name : String} {holds : Value → Prop} {x : Option Value}
    (fits : Member.Fits ⟨name, true, holds⟩ x)
    (each : ∀ w, holds w → w.Ordered → w ≠ .null ∧ Restores decode write w) :
    ∃ y : Option α, Present decode x y ∧ (y.map write).map Value.sorted = x := by
  cases x with
  | none => exact ⟨none, .none, rfl⟩
  | some w =>
    obtain ⟨filled, a, read, same⟩ := each w fits.1 fits.2
    exact ⟨some a, .some ⟨filled, read⟩, by rw [Option.map_some, Option.map_some, same]⟩

end BlockDiscovery.Json
