import BlockDiscovery.Json.Decode
import BlockDiscovery.Proofs.Json.Token
import Mathlib.Data.String.Basic

/-! # Reading back what the printer writes

Main statement: `ofText_render`, that the compact text of a value whose numbers are
exact integers, whose members are in order and whose nesting is within the limit is
read as that value.  The text is first read as the document of the value
(`readValue_render`), which is then decoded (`value_toDoc`).
-/

namespace BlockDiscovery.Json

open BlockDiscovery

/-! ## The document of a text -/

theorem integerText_head (n : Int) :
    ∃ c rest, integerText n = c :: rest ∧ (c = '-' ∨ isDigit c = true) := by
  by_cases negative : n < 0
  · exact ⟨'-', Text.decimal n.natAbs, by simp [integerText, negative], .inl rfl⟩
  · obtain ⟨d, ds, text, digit⟩ := decimal_head n.natAbs
    exact ⟨d, ds, by simp [integerText, negative, text], .inr digit⟩

theorem numberStart_ne {c : Char} (h : c = '-' ∨ isDigit c = true) :
    isJsonBlank c = false ∧ c ≠ '"' ∧ c ≠ '[' ∧ c ≠ '\x7b' ∧ c ≠ 'n' ∧ c ≠ 't' ∧ c ≠ 'f' ∧
      c ≠ ']' := by
  have differs : ∀ d : Char, d ≠ '-' → isDigit d = false → c ≠ d := by
    rintro d minus digit rfl
    exact h.elim minus (by simp [digit])
  refine ⟨?_, differs _ (by decide) (by decide), differs _ (by decide) (by decide),
    differs _ (by decide) (by decide), differs _ (by decide) (by decide),
    differs _ (by decide) (by decide), differs _ (by decide) (by decide),
    differs _ (by decide) (by decide)⟩
  simp [isJsonBlank, differs ' ' (by decide) (by decide), differs '\n' (by decide) (by decide),
    differs '\t' (by decide) (by decide), differs '\r' (by decide) (by decide)]

theorem readValue_number {c : Char} {rest : List Char} (fuel : Nat)
    (h : c = '-' ∨ isDigit c = true) : readValue (fuel + 1) (c :: rest) = readNumber (c :: rest) := by
  obtain ⟨blank, quote, bracket, brace, n, t, f, _⟩ := numberStart_ne h
  simp [readValue, skipBlank, blank, quote, bracket, brace, n, t, f, h]

theorem render_head {v : Value} (exact : v.Integral) :
    ∃ c rest, v.render = c :: rest ∧ isJsonBlank c = false ∧ c ≠ ']' := by
  cases v with
  | null => exact ⟨'n', _, rfl, by decide⟩
  | bool b => cases b <;> exact ⟨_, _, rfl, by decide⟩
  | number n =>
    cases n with
    | double x => exact exact.elim
    | int n =>
      obtain ⟨c, rest, text, start⟩ := integerText_head n
      obtain ⟨blank, _, _, _, _, _, _, bracket⟩ := numberStart_ne start
      exact ⟨c, rest, text, blank, bracket⟩
  | string s => exact ⟨'"', _, rfl, by decide⟩
  | array items => cases items <;> exact ⟨'[', _, rfl, by decide⟩
  | object members =>
    cases members with
    | nil => exact ⟨'\x7b', _, rfl, by decide⟩
    | cons m rest =>
      obtain ⟨k, v⟩ := m
      exact ⟨'\x7b', _, rfl, by decide⟩

theorem readValue_array {c : Char} {rest : List Char} (fuel : Nat) (blank : isJsonBlank c = false)
    (filled : c ≠ ']') :
    readValue (fuel + 1) ('[' :: c :: rest) = readItems fuel [] (c :: rest) := by
  have bracket : isJsonBlank '[' = false := by decide
  simp [readValue, skipBlank, bracket, blank, filled]

theorem readValue_object (fuel : Nat) (rest : List Char) :
    readValue (fuel + 1) ('\x7b' :: '"' :: rest) = readMembers fuel [] ('"' :: rest) := by
  simp [readValue, skipBlank, isJsonBlank]

theorem readItems_last {fuel : Nat} {done : List Doc} {s rest : List Char} {item : Doc}
    (h : readValue fuel s = ⟨item, some (']' :: rest)⟩) :
    readItems (fuel + 1) done s = ⟨.array (done.reverse ++ [item]) .closed, some rest⟩ := by
  simp [readItems, h, skipBlank, isJsonBlank]

theorem readItems_next {fuel : Nat} {done : List Doc} {s rest : List Char} {item : Doc}
    (h : readValue fuel s = ⟨item, some (',' :: rest)⟩) :
    readItems (fuel + 1) done s = readItems fuel (item :: done) rest := by
  simp [readItems, h, skipBlank, isJsonBlank]

theorem readMembers_last {fuel : Nat} {done : List (Except Fault String × Doc)} {k : String}
    {s rest : List Char} {member : Doc} (h : readValue fuel s = ⟨member, some ('\x7d' :: rest)⟩) :
    readMembers (fuel + 1) done (quote k ++ ':' :: s) =
      ⟨.object (done.reverse ++ [(.ok k, member)]) .closed, some rest⟩ := by
  have key := readLiteral_quote k (':' :: s)
  simp [readMembers, quote, skipBlank, isJsonBlank, key, h]

theorem readMembers_next {fuel : Nat} {done : List (Except Fault String × Doc)} {k : String}
    {s rest : List Char} {member : Doc} (h : readValue fuel s = ⟨member, some (',' :: rest)⟩) :
    readMembers (fuel + 1) done (quote k ++ ':' :: s) =
      readMembers fuel ((.ok k, member) :: done) rest := by
  have key := readLiteral_quote k (':' :: s)
  simp [readMembers, quote, skipBlank, isJsonBlank, key, h]

theorem stops_renderItems (items : List Value) (rest : List Char) :
    Stops (renderItems items ++ rest) := by
  cases items <;> exact stops_cons (by decide) (by decide)

theorem stops_renderMembers (members : List (String × Value)) (rest : List Char) :
    Stops (renderMembers members ++ rest) := by
  cases members with
  | nil => exact stops_cons (by decide) (by decide)
  | cons m more =>
    obtain ⟨k, v⟩ := m
    exact stops_cons (by decide) (by decide)

mutual

/-- The text of a value is read as its document, when the reader may make twice as many
calls as the text is long. -/
theorem readValue_render : ∀ (v : Value) (fuel : Nat) (rest : List Char), v.Integral →
    2 * v.render.length ≤ fuel → Stops rest →
    readValue fuel (v.render ++ rest) = ⟨v.toDoc, some rest⟩
  | v, 0, _, exact, enough, _ => by
    obtain ⟨c, more, text, _⟩ := render_head exact
    simp [text] at enough
  | .null, fuel + 1, rest, _, _, _ => by
    simp [Value.render, readValue, skipBlank, isJsonBlank, readWord, Value.toDoc]
  | .bool true, fuel + 1, rest, _, _, _ => by
    simp [Value.render, readValue, skipBlank, isJsonBlank, readWord, Value.toDoc]
  | .bool false, fuel + 1, rest, _, _, _ => by
    simp [Value.render, readValue, skipBlank, isJsonBlank, readWord, Value.toDoc]
  | .number (.double _), _, _, exact, _, _ => exact.elim
  | .number (.int n), fuel + 1, rest, exact, _, stops => by
    obtain ⟨c, more, text, start⟩ := integerText_head n
    have read := readNumber_integerText exact stops
    rw [text, List.cons_append] at read
    rw [Value.render, Number.render, text, List.cons_append, readValue_number fuel start, read,
      Value.toDoc]
  | .string s, fuel + 1, rest, _, _, _ => by
    have literal := readLiteral_quote s rest
    simp [Value.render, quote, readValue, skipBlank, isJsonBlank, literal, Value.toDoc]
  | .array [], fuel + 1, rest, _, _, _ => by
    simp [Value.render, readValue, skipBlank, isJsonBlank, Value.toDoc, itemDocs]
  | .array (v :: items), fuel + 1, rest, exact, enough, _ => by
    -- the bracket pays for the call that opens the array and the one that closes it
    have inner : 2 * (v.render.length + (renderItems items).length) + 1 ≤ fuel := by
      simp only [Value.render, List.length_cons, List.length_append] at enough
      omega
    have read := readItems_render v items fuel [] rest exact.1 exact.2 inner
    obtain ⟨c, more, text, blank, bracket⟩ := render_head exact.1
    rw [text, List.cons_append] at read
    rw [Value.render, List.cons_append, List.append_assoc, text, List.cons_append,
      readValue_array fuel blank bracket, read]
    rfl
  | .object [], fuel + 1, rest, _, _, _ => by
    simp [Value.render, readValue, skipBlank, isJsonBlank, Value.toDoc, memberDocs]
  | .object ((k, v) :: members), fuel + 1, rest, exact, enough, _ => by
    have inner : 2 * (v.render.length + (renderMembers members).length) + 1 ≤ fuel := by
      simp only [Value.render, List.length_cons, List.length_append] at enough
      omega
    have read := readMembers_render k v members fuel [] rest exact.1 exact.2 inner
    rw [quote, List.cons_append] at read
    rw [Value.render, List.cons_append, List.append_assoc, List.cons_append, List.append_assoc, quote,
      List.cons_append, readValue_object, read]
    rfl
termination_by v => sizeOf v

theorem readItems_render : ∀ (v : Value) (items : List Value) (fuel : Nat) (done : List Doc)
    (rest : List Char), v.Integral → Value.IntegralItems items →
    2 * (v.render.length + (renderItems items).length) + 1 ≤ fuel →
    readItems fuel done (v.render ++ (renderItems items ++ rest)) =
      ⟨.array (done.reverse ++ itemDocs (v :: items)) .closed, some rest⟩
  | _, _, 0, _, _, _, _, enough => by omega
  | v, [], fuel + 1, done, rest, exact, _, enough =>
    readItems_last (readValue_render v fuel (renderItems [] ++ rest) exact (by omega)
      (stops_renderItems [] rest))
  | v, w :: items, fuel + 1, done, rest, exact, exactItems, enough => by
    have item := readValue_render v fuel (renderItems (w :: items) ++ rest) exact (by omega)
      (stops_renderItems (w :: items) rest)
    have more := readItems_render w items fuel (v.toDoc :: done) rest exactItems.1 exactItems.2 (by
      simp only [renderItems, List.length_cons, List.length_append] at enough
      omega)
    rw [renderItems, List.cons_append, List.append_assoc] at item ⊢
    rw [readItems_next item, more, List.reverse_cons, List.append_assoc]
    rfl
termination_by v items => sizeOf v + sizeOf items

theorem readMembers_render : ∀ (k : String) (v : Value) (members : List (String × Value))
    (fuel : Nat) (done : List (Except Fault String × Doc)) (rest : List Char), v.Integral →
    Value.IntegralMembers members →
    2 * (v.render.length + (renderMembers members).length) + 1 ≤ fuel →
    readMembers fuel done (quote k ++ ':' :: (v.render ++ (renderMembers members ++ rest))) =
      ⟨.object (done.reverse ++ memberDocs ((k, v) :: members)) .closed, some rest⟩
  | _, _, _, 0, _, _, _, _, enough => by omega
  | k, v, [], fuel + 1, done, rest, exact, _, enough =>
    readMembers_last (readValue_render v fuel (renderMembers [] ++ rest) exact (by omega)
      (stops_renderMembers [] rest))
  | k, v, (l, w) :: members, fuel + 1, done, rest, exact, exactMembers, enough => by
    have member := readValue_render v fuel (renderMembers ((l, w) :: members) ++ rest) exact (by omega)
      (stops_renderMembers ((l, w) :: members) rest)
    have more := readMembers_render l w members fuel ((.ok k, v.toDoc) :: done) rest exactMembers.1
      exactMembers.2 (by
        simp only [renderMembers, List.length_cons, List.length_append] at enough
        omega)
    rw [renderMembers, List.cons_append, List.append_assoc, List.cons_append, List.append_assoc]
      at member ⊢
    rw [readMembers_next member, more, List.reverse_cons, List.append_assoc]
    rfl
termination_by _ v members => sizeOf v + sizeOf members

end

/-! ## The value of a document -/

theorem insertEntry_last {α : Type} {key : String} (value : α) {entries : List (String × α)}
    (behind : ∀ e ∈ entries, e.1 < key) :
    insertEntry key value entries = entries ++ [(key, value)] := by
  induction entries with
  | nil => rfl
  | cons e entries ih =>
    obtain ⟨k, v⟩ := e
    have before : k < key := behind (k, v) List.mem_cons_self
    rw [insertEntry, if_neg (not_lt_of_gt before), if_neg (ne_of_gt before),
      ih (fun e member => behind e (List.mem_cons_of_mem _ member))]
    rfl

mutual

theorem value_toDoc : ∀ (v : Value) (room : Nat), v.Ordered → v.nesting ≤ room →
    Decoder.value room v.toDoc = .ok v
  | .null, room, _, _ => by cases room <;> rfl
  | .bool b, room, _, _ => by cases room <;> rfl
  | .number n, room, _, _ => by cases room <;> rfl
  | .string s, room, _, _ => by cases room <;> rfl
  | .array items, 0, _, deep => by simp [Value.nesting] at deep
  | .array items, room + 1, ordered, deep => by
    have values := items_toDoc items room ordered (by simpa [Value.nesting] using deep)
    rw [Value.toDoc, Decoder.value, values]
    rfl
  | .object members, 0, _, deep => by simp [Value.nesting] at deep
  | .object members, room + 1, ordered, deep => by
    have entries := members_toDoc members room [] ordered.2 (by simpa using ordered.1)
      (by simpa [Value.nesting] using deep)
    rw [Value.toDoc, Decoder.value, entries]
    rfl
termination_by v => sizeOf v

theorem items_toDoc : ∀ (items : List Value) (room : Nat), Value.OrderedItems items →
    Value.nestingItems items ≤ room → (itemDocs items).mapM (Decoder.value room) = .ok items
  | [], _, _, _ => rfl
  | v :: items, room, ordered, deep => by
    rw [Value.nestingItems] at deep
    have first := value_toDoc v room ordered.1 (by omega)
    have more := items_toDoc items room ordered.2 (by omega)
    rw [itemDocs, List.mapM_cons, first, more]
    rfl
termination_by items => sizeOf items

theorem members_toDoc : ∀ (members : List (String × Value)) (room : Nat)
    (done : List (String × Value)), Value.OrderedMembers members →
    ((done ++ members).map Prod.fst).Pairwise (· < ·) → Value.nestingMembers members ≤ room →
    (memberDocs members).foldlM (fun done (k, d) => do
      let k ← Decoder.key k
      let v ← Decoder.value room d
      return insertEntry k v done) done = .ok (done ++ members)
  | [], _, done, _, _, _ => by simp [memberDocs, pure, Except.pure]
  | (k, v) :: members, room, done, ordered, sorted, deep => by
    -- the entries done stay in front: the keys increase along `done ++ members`
    rw [Value.nestingMembers] at deep
    have first := value_toDoc v room ordered.1 (by omega)
    have more := members_toDoc members room (done ++ [(k, v)]) ordered.2 (by simpa using sorted)
      (by omega)
    have behind : ∀ e ∈ done, e.1 < k := by
      intro e member
      rw [List.map_append, List.pairwise_append] at sorted
      exact sorted.2.2 e.1 (List.mem_map_of_mem member) k (by simp)
    rw [memberDocs, List.foldlM_cons]
    change ((Decoder.value room v.toDoc).bind fun v => .ok (insertEntry k v done)).bind _ = _
    rw [first]
    change List.foldlM _ (insertEntry k v done) (memberDocs members) = _
    rw [insertEntry_last v behind, more, List.append_assoc]
    rfl
termination_by members => sizeOf members

end

/-- What the printer writes for a value is read as that value. -/
theorem ofText_render {v : Value} (exact : v.Integral) (ordered : v.Ordered)
    (shallow : v.nesting ≤ nestingLimit) : Value.ofText v.render = .ok v := by
  -- the reader gives itself two calls more than a text of this length can need
  have read := readValue_render v (2 * v.render.length + 2) [] exact (by omega) stops_nil
  rw [List.append_nil] at read
  simp [Value.ofText, decodeText, Doc.read, read, value_toDoc v nestingLimit ordered shallow, skipBlank]

end BlockDiscovery.Json
