import BlockDiscovery.Block.Notification
import BlockDiscovery.Proofs.Json.Record
import BlockDiscovery.Proofs.Text.Blank

/-! # Written block types

A kind has no slash at either end (`Bare`), whatever name it was taken from.  So the URI
that is written for it stands for the same kind again, as does its JSON text.
-/

namespace BlockDiscovery.Block

open BlockDiscovery BlockDiscovery.Json

/-- The text neither starts nor ends in a slash. -/
def Bare (kind : List Char) : Prop := kind.head? ≠ some '/' ∧ kind.getLast? ≠ some '/'

instance (kind : List Char) : Decidable (Bare kind) := inferInstanceAs (Decidable (_ ∧ _))

variable {kind : List Char}

theorem Bare.head (bare : Bare kind) (c : Char) (first : kind.head? = some c) : BlockType.isSlash c = false := by
  have other : c ≠ '/' := by
    rintro rfl
    exact bare.1 first
  simp [BlockType.isSlash, other]

theorem Bare.last (bare : Bare kind) (c : Char) (last : kind.getLast? = some c) : BlockType.isSlash c = false := by
  have other : c ≠ '/' := by
    rintro rfl
    exact bare.2 last
  simp [BlockType.isSlash, other]

namespace BlockType

theorem bare_dropEdges (s : List Char) : Bare (Text.dropEdgesWhile isSlash s) := by
  constructor
  · intro first
    cases Text.head?_dropEdgesWhile first
  · intro last
    cases Text.getLast?_dropEdgesWhile last

theorem bare_of_notMem (h : '/' ∉ kind) : Bare kind :=
  ⟨fun first => h (List.mem_of_mem_head? first), fun last => h (List.mem_of_mem_getLast? last)⟩

/-- The last segment of a path is made of characters of the path, and none of them is a slash. -/
theorem mem_of_mem_lastSegment {path : List Char} {c : Char} (h : c ∈ lastSegment path) :
    c ∈ path ∧ c ≠ '/' := by
  rw [lastSegment] at h
  cases last : (Text.pieces '/' path).getLast? with
  | none =>
    rw [last] at h
    cases h
  | some piece =>
    rw [last] at h
    exact Text.mem_of_mem_pieces (List.mem_of_mem_getLast? last) h

theorem bare_lastSegment (path : List Char) : Bare (lastSegment path) :=
  bare_of_notMem fun slash => (mem_of_mem_lastSegment slash).2 rfl

theorem bare_kindOf (raw : List Char) : Bare (kindOf raw) := by
  rw [kindOf]
  split
  · exact bare_dropEdges _
  split
  · exact bare_lastSegment _
  · exact bare_dropEdges _

/-! ## Written URIs -/

theorem isPrefixOf?_uri (kind : List Char) :
    typeLead.isPrefixOf? (typeLead ++ kind ++ ['/']) = some (kind ++ ['/']) := by
  rw [List.append_assoc, List.isPrefixOf?_eq_some_iff_append_eq]

/-- A written URI stands for the kind it was written for. -/
theorem ofText_uri (bare : Bare kind) :
    ofText (typeLead ++ kind ++ ['/']) = ⟨typeLead ++ kind ++ ['/']⟩ := by
  have whole : Text.trim (typeLead ++ kind ++ ['/']) = typeLead ++ kind ++ ['/'] := by
    apply Text.trim_of_edges (c := 'h') (d := '/') _ (List.getLast?_concat) (by decide) (by decide)
    rw [List.append_assoc, List.head?_append]
    rfl
  have inner : Text.dropEdgesWhile isSlash (kind ++ ['/']) = kind :=
    Text.dropEdgesWhile_concat rfl bare.head bare.last
  simp only [ofText, kindOf, whole, isPrefixOf?_uri, inner]

theorem ofText_ofText (raw : List Char) : ofText (ofText raw).uri = ofText raw :=
  ofText_uri (bare_kindOf raw)

theorem kind?_uri (bare : Bare kind) : kind? ⟨typeLead ++ kind ++ ['/']⟩ = some kind := by
  rw [kind?, isPrefixOf?_uri, Option.map_some, Text.dropEndWhile_concat rfl bare.last]

theorem decodes_uri (bare : Bare kind) :
    Decodes decode (.string (String.ofList (typeLead ++ kind ++ ['/'])))
      ⟨typeLead ++ kind ++ ['/']⟩ := by
  intro room deep
  have read := decodes_string (String.ofList (typeLead ++ kind ++ ['/'])) room deep
  simp only [decode, read, Except.map, String.toList_ofList, ofText_uri bare]

/-! ## Web addresses -/

/-- The name is a web address, but none of a block type. -/
def Foreign (name : List Char) : Prop :=
  ("https://".toList <+: name ∨ "http://".toList <+: name) ∧ ¬ typeLead <+: name

instance (name : List Char) : Decidable (Foreign name) := inferInstanceAs (Decidable (_ ∧ _))

theorem kindOf_foreign {raw : List Char} (foreign : Foreign (Text.trim raw)) :
    kindOf raw = lastSegment (Text.dropEndWhile isSlash (withoutQuery (Text.trim raw))) := by
  have notOwn : typeLead.isPrefixOf? (Text.trim raw) = none := by
    apply Option.eq_none_iff_forall_ne_some.mpr
    intro rest own
    exact foreign.2 ⟨rest, List.isPrefixOf?_eq_some_iff_append_eq.mp own⟩
  have web : ("https://".toList.isPrefixOf (Text.trim raw) || "http://".toList.isPrefixOf (Text.trim raw)) = true := by
    rw [Bool.or_eq_true, List.isPrefixOf_iff_prefix, List.isPrefixOf_iff_prefix]
    exact foreign.1
  simp only [kindOf, notOwn, web, if_true]

/-- The kind of a web address is within one segment of its path. -/
theorem notMem_kindOf_foreign {raw : List Char} (foreign : Foreign (Text.trim raw)) :
    '/' ∉ kindOf raw ∧ '?' ∉ kindOf raw ∧ '#' ∉ kindOf raw := by
  have kept : Text.dropEndWhile isSlash (withoutQuery (Text.trim raw)) <+: withoutQuery (Text.trim raw) :=
    List.rdropWhile_prefix isSlash _
  have segment : ∀ c ∈ kindOf raw, (c ≠ '?' ∧ c ≠ '#') ∧ c ≠ '/' := by
    intro c member
    rw [kindOf_foreign foreign] at member
    obtain ⟨inPath, other⟩ := mem_of_mem_lastSegment member
    have inside := kept.subset inPath
    rw [withoutQuery] at inside
    exact ⟨by simpa using List.mem_takeWhile_imp inside, other⟩
  exact ⟨fun slash => (segment _ slash).2 rfl, fun query => (segment _ query).1.1 rfl,
    fun fragment => (segment _ fragment).1.2 rfl⟩

/-- Every name stands for a block type that is written as the shared prefix, a kind that no slash
begins or ends, and a slash.  The kind can be read off what is written, and what is written, as a
name or as a JSON text, stands for the block type again.  The kind of a web address is within one
segment of its path. -/
theorem ofText_normal_form (raw : List Char) : ∃ kind, Bare kind ∧
    (ofText raw).uri = typeLead ++ kind ++ ['/'] ∧ kind? (ofText raw) = some kind ∧
    ofText (ofText raw).uri = ofText raw ∧
    decodeText decode (Value.string (String.ofList (ofText raw).uri)).render = .ok (ofText raw) ∧
    (Foreign (Text.trim raw) → '/' ∉ kind ∧ '?' ∉ kind ∧ '#' ∉ kind) :=
  ⟨kindOf raw, bare_kindOf raw, rfl, kind?_uri (bare_kindOf raw), ofText_ofText raw,
    decodeText_render (decodes_uri (bare_kindOf raw)) trivial (Nat.zero_le _), notMem_kindOf_foreign⟩

/-- A web address with a slash behind its last segment and slashes in query and fragment. -/
theorem ofText_normal_form_foreign :
    Foreign (Text.trim "\t http://example.com/blocks/table//?of=/a#/b ".toList) ∧
    ∃ kind, kind? (ofText "\t http://example.com/blocks/table//?of=/a#/b ".toList) = some kind ∧
      '/' ∉ kind ∧ '?' ∉ kind ∧ '#' ∉ kind := by
  have foreign : Foreign (Text.trim "\t http://example.com/blocks/table//?of=/a#/b ".toList) := by decide
  obtain ⟨kind, _, _, read, _, _, within⟩ :=
    ofText_normal_form "\t http://example.com/blocks/table//?of=/a#/b ".toList
  exact ⟨foreign, kind, read, within foreign⟩

end BlockType

end BlockDiscovery.Block
