import BlockDiscovery.Proofs.Uri.Percent
import BlockDiscovery.Uri.Document
import Mathlib.Data.List.Basic

/-! # URIs of paths can be read back

The URI of a path writes its components, each behind a slash.  Reading it gives the components
back, as long as none of them is two dots, and writing those gives the same URI: it is its own
canonical spelling.  This holds for components of any octets, and also where the first one looks
like a drive, since the empty host makes it the second segment that is read.
-/

namespace BlockDiscovery.Uri

open BlockDiscovery

/-! ## Components of a path -/

theorem piecesOf_append {piece : List UInt8} (whole : slash ∉ piece) (rest : List UInt8) :
    piecesOf (piece ++ slash :: rest) = piece :: piecesOf rest := by
  induction piece with
  | nil => exact if_pos rfl
  | cons b piece ih =>
    simp only [List.mem_cons, not_or] at whole
    rw [List.cons_append, piecesOf, if_neg (Ne.symm whole.1), ih whole.2]

theorem piecesOf_whole {piece : List UInt8} (whole : slash ∉ piece) : piecesOf piece = [piece] := by
  induction piece with
  | nil => rfl
  | cons b piece ih =>
    simp only [List.mem_cons, not_or] at whole
    rw [piecesOf, if_neg (Ne.symm whole.1), ih whole.2]

/-- Pieces that are written below the root are found again. -/
theorem piecesOf_below {first : List UInt8} {more : List (List UInt8)} (own : slash ∉ first)
    (others : ∀ piece ∈ more, slash ∉ piece) : piecesOf (first ++ more.flatMap (slash :: ·)) = first :: more := by
  induction more generalizing first with
  | nil =>
    rw [List.flatMap_nil, List.append_nil]
    exact piecesOf_whole own
  | cons next more ih =>
    rw [List.flatMap_cons, List.cons_append, piecesOf_append own,
      ih (others next List.mem_cons_self) fun piece member => others piece (List.mem_cons_of_mem _ member)]

theorem slash_notMem_piece {bytes piece : List UInt8} (member : piece ∈ piecesOf bytes) : slash ∉ piece := by
  induction bytes generalizing piece with
  | nil =>
    rw [List.mem_singleton.mp member]
    exact List.not_mem_nil
  | cons b bytes ih =>
    rw [piecesOf] at member
    split at member
    · obtain rfl | later := List.mem_cons.mp member
      · exact List.not_mem_nil
      · exact ih later
    · next differs =>
      cases rest : piecesOf bytes with
      | nil =>
        rw [rest] at member
        rw [List.mem_singleton.mp member, List.mem_singleton]
        exact Ne.symm differs
      | cons first more =>
        rw [rest] at member ih
        obtain rfl | later := List.mem_cons.mp member
        · exact fun inside => (List.mem_cons.mp inside).elim (Ne.symm differs) (ih List.mem_cons_self)
        · exact ih (List.mem_cons_of_mem _ later)

/-- What can be a component of a path. -/
structure IsComponent (c : List UInt8) : Prop where
  whole : slash ∉ c
  filled : c ≠ []
  moves : c ≠ [dot]

theorem isComponent_of_mem {p : Path} {c : List UInt8} (member : c ∈ p.components) : IsComponent c := by
  obtain ⟨piece, kept⟩ := List.mem_filter.mp member
  simp only [Bool.and_eq_true, Bool.not_eq_true', List.isEmpty_eq_false_iff, decide_eq_true_eq] at kept
  exact ⟨slash_notMem_piece piece, kept.1, kept.2⟩

theorem components_below {pieces : List (List UInt8)} (whole : ∀ piece ∈ pieces, slash ∉ piece) :
    Path.components ⟨pieces.flatMap (slash :: ·)⟩ = pieces.filter fun c => !c.isEmpty && c ≠ [dot] := by
  have split : piecesOf (pieces.flatMap (slash :: ·)) = [] :: pieces := piecesOf_below List.not_mem_nil whole
  rw [Path.components, split]
  exact List.filter_cons_of_neg Bool.false_ne_true

theorem filter_components {components : List (List UInt8)} (sound : ∀ c ∈ components, IsComponent c) :
    components.filter (fun c => !c.isEmpty && c ≠ [dot]) = components := by
  refine List.filter_eq_self.mpr fun c member => ?_
  simp [(sound c member).filled, (sound c member).moves]

/-! ## Segments of an address -/

section Segments

variable {p : Char → Bool} {separator : Char} {first : List Char} {more : List (List Char)}

theorem piecesBy_append (separates : p separator = true) (whole : ∀ c ∈ first, p c = false) (rest : List Char) :
    piecesBy p (first ++ separator :: rest) = first :: piecesBy p rest := by
  induction first with
  | nil => exact if_pos separates
  | cons c first ih =>
    obtain ⟨own, others⟩ := List.forall_mem_cons.mp whole
    rw [List.cons_append, piecesBy, if_neg (Bool.eq_false_iff.mp own), ih others]

theorem piecesBy_whole (whole : ∀ c ∈ first, p c = false) : piecesBy p first = [first] := by
  induction first with
  | nil => rfl
  | cons c first ih =>
    obtain ⟨own, others⟩ := List.forall_mem_cons.mp whole
    rw [piecesBy, if_neg (Bool.eq_false_iff.mp own), ih others]

theorem piecesBy_below (separates : p separator = true) (own : ∀ c ∈ first, p c = false)
    (others : ∀ s ∈ more, ∀ c ∈ s, p c = false) :
    piecesBy p (first ++ more.flatMap (separator :: ·)) = first :: more := by
  induction more generalizing first with
  | nil =>
    rw [List.flatMap_nil, List.append_nil]
    exact piecesBy_whole own
  | cons next more ih =>
    obtain ⟨here, later⟩ := List.forall_mem_cons.mp others
    rw [List.flatMap_cons, List.cons_append, piecesBy_append separates own, ih here later]

/-- Segments that can be read back as they are written. -/
structure Readable (segments : List (List Char)) : Prop where
  visible : ∀ s ∈ segments, ∀ c ∈ s, inSegment c = true
  plain : ∀ s ∈ segments, isDot s = false ∧ isDoubleDot s = false

/-- Below other segments a segment is kept as it is, also if it looks like a drive. -/
theorem settle_below {above : List (List Char)} (below : above ≠ []) (kind : SchemeKind) (s : List Char) :
    kind.settle above s = s := if_neg fun h => below h.2.1

theorem resolveDots_plain {kind : SchemeKind} {above segments : List (List Char)} (below : above ≠ [])
    (plain : ∀ s ∈ segments, isDot s = false ∧ isDoubleDot s = false) :
    resolveDots kind above segments = above ++ segments := by
  induction segments generalizing above with
  | nil =>
    rw [resolveDots, List.append_nil]
  | cons s segments ih =>
    obtain ⟨⟨single, double⟩, later⟩ := List.forall_mem_cons.mp plain
    have goesOn : resolveDots kind above (s :: segments) = resolveDots kind (above ++ [s]) segments := by
      cases segments with
      | nil => simp [resolveDots, single, double, settle_below below]
      | cons => simp [resolveDots, single, double, settle_below below]
    rw [goesOn, ih (List.append_ne_nil_of_right_ne_nil _ (List.cons_ne_nil _ _)) later, List.append_assoc]
    rfl

theorem dropEmptyStart_below {segments : List (List Char)}
    (filled : segments = [[]] ∨ segments.head? ≠ some [] ∧ segments ≠ []) :
    dropEmptyStart ([] :: segments) = segments := by
  rw [dropEmptyStart, List.dropWhile_cons_of_pos rfl]
  obtain rfl | ⟨first, some⟩ := filled
  · rfl
  · cases segments with
    | nil => exact absurd rfl some
    | cons s segments =>
      have kept : s.isEmpty = false := by
        rw [List.isEmpty_eq_false_iff]
        rintro rfl
        exact first rfl
      rw [List.dropWhile_cons_of_neg (Bool.eq_false_iff.mp kept)]

/-! ## Reading an address -/

/-- The address without a host that writes some segments. -/
def addressOf (segments : List (List Char)) : List Char := "file://".toList ++ segments.flatMap ('/' :: ·)

theorem tidy_of_visible {uri : List Char} (visible : ∀ c ∈ uri, 0x20 < c.toNat) : tidy uri = uri := by
  have start : uri.dropWhile (fun c => c.toNat ≤ 0x20) = uri := by
    refine List.dropWhile_eq_self_iff.mpr fun filled => ?_
    simpa using visible _ (List.getElem_mem filled)
  have last : Text.dropEndWhile (fun c => c.toNat ≤ 0x20) uri = uri := by
    refine List.rdropWhile_eq_self_iff.mpr fun filled => ?_
    simpa using visible _ (List.getLast_mem filled)
  rw [tidy, Text.dropEdgesWhile, start, last]
  refine List.filter_eq_self.mpr fun c member => ?_
  have high := visible c member
  simp only [Bool.and_eq_true, decide_eq_true_eq]
  refine ⟨⟨?_, ?_⟩, ?_⟩ <;> rintro rfl <;> revert high <;> decide

theorem addressOf_visible {segments : List (List Char)} (visible : ∀ s ∈ segments, ∀ c ∈ s, inSegment c = true) :
    ∀ c ∈ addressOf segments, 0x20 < c.toNat ∧ endsPath c = false := by
  intro c member
  obtain scheme | path := List.mem_append.mp member
  · have all : ("file://".toList.all fun c => decide (0x20 < c.toNat ∧ endsPath c = false)) = true := by decide
    exact of_decide_eq_true (List.all_eq_true.mp all c scheme)
  · obtain ⟨s, inside, here⟩ := List.mem_flatMap.mp path
    obtain rfl | own := List.mem_cons.mp here
    · decide
    · have char := visible s inside c own
      simp only [inSegment, Bool.and_eq_true, decide_eq_true_eq, Bool.not_eq_true'] at char
      exact ⟨char.1.1, char.2⟩

theorem schemeOf?_file (rest : List Char) : schemeOf? ("file:".toList ++ rest) = some (.file, rest) := by
  have cut : Text.cutAt? ':' ("file".toList ++ ':' :: rest) = some ("file".toList, rest) :=
    Text.cutAt?_append rest (by decide)
  have scheme : schemeOf? ("file".toList ++ ':' :: rest) = some (.file, rest) := by
    rw [schemeOf?, cut]
    rfl
  exact scheme

theorem piecesBy_visible {segments : List (List Char)} (visible : ∀ s ∈ segments, ∀ c ∈ s, inSegment c = true) :
    piecesBy SchemeKind.file.separates (segments.flatMap ('/' :: ·)) = [] :: segments := by
  refine piecesBy_below rfl (List.forall_mem_nil _) fun s member c inside => ?_
  have char := visible s member c inside
  simp only [inSegment, Bool.and_eq_true, Bool.not_eq_true'] at char
  exact char.1.2

/-- The path begins with a slash, so that the first segment has an empty one above it. -/
theorem hostedFile?_visible {segments : List (List Char)} (visible : ∀ s ∈ segments, ∀ c ∈ s, inSegment c = true)
    (some : segments ≠ []) :
    hostedFile? (segments.flatMap ('/' :: ·)) = .some (resolveDots .file [[]] segments) := by
  have pieces := piecesBy_visible visible
  cases segments with
  | nil => exact absurd rfl some
  | cons s segments =>
    have resolved : segmentsOf .file ((s :: segments).flatMap ('/' :: ·)) = resolveDots .file [[]] (s :: segments) := by
      rw [segmentsOf, pieces]
      rfl
    exact congrArg Option.some resolved

/-- An address is read as the segments that it writes, once the dots among them are resolved. -/
theorem segments?_visible {segments : List (List Char)} (visible : ∀ s ∈ segments, ∀ c ∈ s, inSegment c = true)
    (some : segments ≠ []) :
    segments? (addressOf segments) = .some (dropEmptyStart (resolveDots .file [[]] segments)) := by
  have shown := addressOf_visible visible
  have scheme : schemeOf? (addressOf segments) = .some (.file, '/' :: '/' :: segments.flatMap ('/' :: ·)) :=
    schemeOf?_file _
  have path : ('/' :: '/' :: segments.flatMap ('/' :: ·)).takeWhile (fun c => !endsPath c) =
      '/' :: '/' :: segments.flatMap ('/' :: ·) := by
    refine List.takeWhile_eq_self_iff.mpr fun c member => ?_
    rw [(shown c (List.mem_append_right "file:".toList member)).2]
    rfl
  rw [segments?, tidy_of_visible fun c member => (shown c member).1, scheme]
  dsimp only
  have slashes : (SchemeKind.file.separates '/' && SchemeKind.file.separates '/') = true := rfl
  rw [path, fileAddress?, if_pos slashes, hostedFile?_visible visible some, Option.map_some]

/-- Segments without dots are read as they are. -/
theorem segments?_addressOf {segments : List (List Char)} (readable : Readable segments)
    (filled : segments = [[]] ∨ segments.head? ≠ some [] ∧ segments ≠ []) :
    segments? (addressOf segments) = some segments := by
  have some : segments ≠ [] := by
    obtain rfl | ⟨_, some⟩ := filled
    · exact List.cons_ne_nil _ _
    · exact some
  rw [segments?_visible readable.visible some, resolveDots_plain (List.cons_ne_nil _ _) readable.plain]
  exact congrArg Option.some (dropEmptyStart_below filled)

end Segments

/-! ## The URI of a path -/

/-- The segments that write components; the root is written as an empty one. -/
def segmentsFor (components : List (List UInt8)) : List (List Char) :=
  if components.isEmpty then [[]] else components.map percentEncode

theorem uri?_eq {p : Path} (absolute : p.isAbsolute = true) :
    p.uri? = some (addressOf (segmentsFor p.components)) := by
  have path : (if (p.components.map percentEncode).isEmpty then ['/']
      else (p.components.map percentEncode).flatMap ('/' :: ·)) = (segmentsFor p.components).flatMap ('/' :: ·) := by
    rw [segmentsFor, List.isEmpty_map]
    split
    · rfl
    · rfl
  rw [Path.uri?, if_pos absolute]
  exact congrArg (fun path => some ("file://".toList ++ path)) path

variable {components : List (List UInt8)}

theorem visible_segmentsFor (components : List (List UInt8)) :
    ∀ s ∈ segmentsFor components, ∀ c ∈ s, inSegment c = true := by
  intro s member
  rw [segmentsFor] at member
  split at member
  · rw [List.mem_singleton.mp member]
    exact List.forall_mem_nil _
  · obtain ⟨c, _, rfl⟩ := List.mem_map.mp member
    exact fun _ => percentEncode_inSegment

theorem readable_segmentsFor (sound : ∀ c ∈ components, IsComponent c) (forward : [dot, dot] ∉ components) :
    Readable (segmentsFor components) := by
  refine ⟨visible_segmentsFor components, ?_⟩
  rw [segmentsFor]
  split
  · exact List.forall_mem_singleton.mpr ⟨rfl, rfl⟩
  · refine List.forall_mem_map.mpr fun c inside =>
      ⟨Bool.eq_false_iff.mpr fun single => ?_, Bool.eq_false_iff.mpr fun double => ?_⟩
    · exact (sound c inside).moves (isDot_percentEncode.mp single)
    · exact forward (isDoubleDot_percentEncode.mp double ▸ inside)

theorem segmentsFor_filled (sound : ∀ c ∈ components, IsComponent c) :
    segmentsFor components = [[]] ∨
      (segmentsFor components).head? ≠ some [] ∧ segmentsFor components ≠ [] := by
  cases components with
  | nil => exact .inl rfl
  | cons c components =>
    refine .inr ⟨fun first => ?_, List.cons_ne_nil _ _⟩
    exact (sound c List.mem_cons_self).filled (percentEncode_eq_nil.mp (Option.some.inj first))

/-- The pieces of a path that the segments for components name. -/
def piecesFor (components : List (List UInt8)) : List (List UInt8) :=
  if components.isEmpty then [[]] else components

theorem decoded_segmentsFor (components : List (List UInt8)) :
    (segmentsFor components).map (fun s => percentDecode (Text.utf8 s)) = piecesFor components := by
  rw [segmentsFor, piecesFor]
  split
  · rfl
  · rw [List.map_map]
    simp only [Function.comp_def, percentDecode_percentEncode, List.map_id']

theorem closeDrive_cases (bytes : List UInt8) : closeDrive bytes = bytes ∨ closeDrive bytes = bytes ++ [slash] := by
  rw [closeDrive]
  split
  · split
    · exact .inr rfl
    · exact .inl rfl
  · exact .inl rfl

theorem piecesFor_whole (sound : ∀ c ∈ components, IsComponent c) :
    ∀ piece ∈ piecesFor components, slash ∉ piece := by
  intro piece member
  rw [piecesFor] at member
  split at member
  · rw [List.mem_singleton.mp member]
    exact List.not_mem_nil
  · exact (sound piece member).whole

theorem filter_piecesFor (sound : ∀ c ∈ components, IsComponent c) :
    (piecesFor components).filter (fun c => !c.isEmpty && c ≠ [dot]) = components := by
  rw [piecesFor]
  split
  · next root =>
    rw [List.isEmpty_iff.mp root]
    rfl
  · exact filter_components sound

/-- A slash at the end adds no component. -/
theorem components_closeDrive {pieces : List (List UInt8)} (whole : ∀ piece ∈ pieces, slash ∉ piece) :
    Path.components ⟨closeDrive (pieces.flatMap (slash :: ·))⟩ = pieces.filter fun c => !c.isEmpty && c ≠ [dot] := by
  obtain same | closed := closeDrive_cases (pieces.flatMap (slash :: ·))
  · rw [same, components_below whole]
  · have more : pieces.flatMap (slash :: ·) ++ [slash] = (pieces ++ [[]]).flatMap (slash :: ·) := by
      rw [List.flatMap_append]
      rfl
    rw [closed, more, components_below, List.filter_append]
    · exact List.append_nil _
    · exact List.forall_mem_append.mpr ⟨whole, List.forall_mem_singleton.mpr List.not_mem_nil⟩

theorem head?_closeDrive {bytes : List UInt8} (absolute : bytes.head? = some slash) :
    (closeDrive bytes).head? = some slash := by
  obtain same | closed := closeDrive_cases bytes
  · rw [same, absolute]
  · rw [closed, List.head?_append, absolute]
    rfl

theorem head?_piecesFor (components : List (List UInt8)) :
    ((piecesFor components).flatMap (slash :: ·)).head? = some slash := by
  cases components with
  | nil => rfl
  | cons => rfl

/-- The path that the URI of a path names has its components. -/
theorem pathOf?_addressOf (sound : ∀ c ∈ components, IsComponent c) (forward : [dot, dot] ∉ components) :
    ∃ q, pathOf? (addressOf (segmentsFor components)) = some q ∧ q.isAbsolute = true ∧
      q.components = components := by
  have read := segments?_addressOf (readable_segmentsFor sound forward) (segmentsFor_filled sound)
  refine ⟨⟨closeDrive ((piecesFor components).flatMap (slash :: ·))⟩, ?_, ?_,
    (components_closeDrive (piecesFor_whole sound)).trans (filter_piecesFor sound)⟩
  · rw [pathOf?, read, Option.map_some, ← decoded_segmentsFor, List.flatMap_map]
  · exact decide_eq_true (head?_closeDrive (head?_piecesFor components))

/-- What a path without two dots writes is its own canonical spelling. -/
theorem normalize_addressOf (sound : ∀ c ∈ components, IsComponent c) (forward : [dot, dot] ∉ components) :
    normalize (addressOf (segmentsFor components)) = addressOf (segmentsFor components) := by
  obtain ⟨q, read, absolute, same⟩ := pathOf?_addressOf sound forward
  rw [normalize, read, Option.bind_some, uri?_eq absolute, same, Option.getD_some]

end BlockDiscovery.Uri
