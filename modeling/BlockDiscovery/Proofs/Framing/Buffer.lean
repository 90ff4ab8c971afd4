import BlockDiscovery.Proofs.Framing.Stream

/-! # The buffer behind the list of bytes

`nextFrame` and `takeFrames` work on indices into one buffer.  Here each is read as
the function of `Stream` on the bytes from an index on, down to `feed_eq`: a feed takes
every frame off the bytes that were held and the new ones.
-/

namespace BlockDiscovery.Framing

open BlockDiscovery BlockDiscovery.Json

/-! ## Bytes at an index -/

/-- The bytes of a buffer from an index on. -/
def bytesFrom (b : ByteArray) (start : Nat) : List UInt8 := b.data.toList.drop start

theorem length_bytesFrom (b : ByteArray) (start : Nat) :
    (bytesFrom b start).length = b.size - start := by
  simp [bytesFrom]

theorem bytesFrom_cons {b : ByteArray} {i : Nat} (h : i < b.size) :
    bytesFrom b i = b[i] :: bytesFrom b (i + 1) := by
  rw [bytesFrom, bytesFrom, List.drop_eq_getElem_cons (by simpa using h)]
  rfl

theorem extract_eq {b : ByteArray} {i j : Nat} :
    b.extract i j = ⟨((bytesFrom b i).take (j - i)).toArray⟩ := by
  apply ByteArray.ext
  rw [ByteArray.data_extract]
  apply Array.toList_inj.mp
  simp [bytesFrom, Array.toList_extract, List.extract_eq_take_drop]

theorem endsHeaderAt_iff {b : ByteArray} {i : Nat} :
    endsHeaderAt b i = true ↔ ∃ behind, bytesFrom b i = terminator ++ behind := by
  unfold endsHeaderAt
  split
  next inside =>
    rw [bytesFrom_cons (by omega), bytesFrom_cons (by omega), bytesFrom_cons (by omega),
      bytesFrom_cons (by omega)]
    simp [terminator, and_assoc]
  next outside =>
    have short := length_bytesFrom b i
    simp only [Bool.false_eq_true, false_iff, not_exists]
    intro behind equal
    rw [equal] at short
    simp [terminator] at short
    omega

theorem headerEnd?_eq {b : ByteArray} {fuel i : Nat} (enough : b.size - i ≤ fuel) :
    headerEnd? b fuel i =
      (cutHeader? (bytesFrom b i)).map fun (header, _) => i + header.length := by
  induction fuel generalizing i with
  | zero =>
    have empty : bytesFrom b i = [] :=
      List.eq_nil_of_length_eq_zero (by rw [length_bytesFrom]; omega)
    rw [empty]
    rfl
  | succ fuel ih =>
    by_cases here : endsHeaderAt b i = true
    · obtain ⟨behind, front⟩ := endsHeaderAt_iff.mp here
      rw [headerEnd?, if_pos here, front, cutHeader?_terminator]
      rfl
    · rw [headerEnd?, if_neg here]
      split
      next inside =>
        rw [ih (by omega), bytesFrom_cons (by omega : i < b.size), cutHeader?_cons, Option.map_map]
        · congr 1
          funext pair
          simp only [Function.comp, List.length_cons]
          omega
        · intro behind equal
          rw [← bytesFrom_cons] at equal
          exact here (endsHeaderAt_iff.mpr ⟨behind, equal⟩)
      -- the scan stops where four bytes no longer fit, and a list that short has no cut
      next outside =>
        have short := length_bytesFrom b i
        cases cut : cutHeader? (bytesFrom b i) with
        | none => rfl
        | some pair =>
          have whole := congrArg List.length (cutHeader?_eq cut)
          simp only [List.length_append, terminator, List.length_cons] at whole
          omega

/-! ## Frames at an index -/

/-- The step that a lead is in a buffer of the given size. -/
def Lead.toStep (size : Nat) : Lead → Step
  | .message value rest => .message value (size - rest.length)
  | .skipped rest => .skipped (size - rest.length)
  | .incomplete => .incomplete
  | .fatal error => .fatal error

theorem nextFrame_eq {b : ByteArray} {start : Nat} (inside : start ≤ b.size) :
    nextFrame b start = (lead (bytesFrom b start)).toStep b.size := by
  unfold nextFrame lead
  rw [headerEnd?_eq (Nat.le_refl _), length_bytesFrom]
  cases cut : cutHeader? (bytesFrom b start) with
  | none =>
    simp only [Option.map_none]
    split <;> rfl
  | some pair =>
    obtain ⟨header, behind⟩ := pair
    have whole := cutHeader?_eq cut
    have lengths : b.size - start = header.length + (4 + behind.length) := by
      rw [← length_bytesFrom, whole, List.length_append, List.length_append]
      rfl
    have headerBytes : b.extract start (start + header.length) = ⟨header.toArray⟩ := by
      rw [extract_eq, whole, Nat.add_sub_cancel_left, List.take_left']
      rfl
    have behindBytes : bytesFrom b (start + header.length + 4) = behind := by
      have : bytesFrom b (start + header.length + 4) =
          (bytesFrom b start).drop (header.length + 4) := by
        simp only [bytesFrom, List.drop_drop, Nat.add_assoc]
      rw [this, whole, ← List.drop_drop, List.drop_left' rfl]
      rfl
    simp only [Option.map_some, headerBytes]
    cases bodyLength? ⟨header.toArray⟩ with
    | none =>
      simp only [Lead.toStep, Step.skipped.injEq]
      omega
    | some length =>
      -- the decoder compares an end index with the size, `lead` compares two lengths
      simp only
      by_cases large : maxBody < length
      · simp only [large, if_true, Lead.toStep]
      by_cases short : behind.length < length
      · have : b.size < start + header.length + 4 + length := by omega
        simp only [large, short, this, if_true, if_false, Lead.toStep]
      have enough : ¬ b.size < start + header.length + 4 + length := by omega
      have bodyBytes : b.extract (start + header.length + 4) (start + header.length + 4 + length) =
          ⟨(behind.take length).toArray⟩ := by
        rw [extract_eq, behindBytes, Nat.add_sub_cancel_left]
      simp only [large, short, enough, if_false, bodyBytes]
      cases bodyMessage? ⟨(behind.take length).toArray⟩ with
      | none =>
        simp only [Lead.toStep, Step.skipped.injEq, List.length_drop]
        omega
      | some value =>
        simp only [Lead.toStep, Step.message.injEq, List.length_drop, true_and]
        omega

/-! ## Feeds -/

/-- What taking frames comes to for a decoder: the messages, or the error alone. -/
def Taken.outcome (t : Taken) (done : List Value) (dropped : Nat) :
    Except FramingError (List Value) × FrameDecoder :=
  match t.ending with
  | .waiting rest => (.ok (done ++ t.messages), ⟨⟨rest.toArray⟩, dropped + t.dropped⟩)
  | .broken error => (.error error, ⟨ByteArray.empty, dropped + t.dropped⟩)

theorem Taken.outcome_after (t : Taken) (messages done : List Value) (k dropped : Nat)
    (rest : List UInt8) :
    (Taken.after ⟨messages, k, .waiting rest⟩ t).outcome done dropped =
      t.outcome (done ++ messages) (dropped + k) := by
  simp only [Taken.outcome, Taken.after, List.append_assoc, Nat.add_assoc]

theorem bytesFrom_rest {b : ByteArray} {start : Nat} {rest : List UInt8}
    (h : (lead (bytesFrom b start)).rest? = some rest) :
    bytesFrom b (b.size - rest.length) = rest := by
  have inner : rest <:+ b.data.toList := (lead_rest h).1.trans (List.drop_suffix _ _)
  exact (List.suffix_iff_eq_drop.mp inner).symm

theorem takeFrames_eq {b : ByteArray} {fuel start : Nat} (done : List Value) (dropped : Nat)
    (inside : start ≤ b.size) (enough : b.size - start < fuel) :
    FrameDecoder.takeFrames b fuel start done dropped =
      (takeAll (bytesFrom b start)).outcome done.reverse dropped := by
  -- a frame takes bytes, so fuel beyond the bytes that are left is never used up
  induction fuel generalizing start done dropped with
  | zero => omega
  | succ fuel ih =>
    unfold FrameDecoder.takeFrames
    rw [nextFrame_eq inside]
    have room := length_bytesFrom b start
    cases front : lead (bytesFrom b start) with
    | message value rest =>
      have left : (lead (bytesFrom b start)).rest? = some rest := by rw [front]; rfl
      have shorter := (lead_rest left).2
      rw [takeAll_message front, Taken.outcome_after]
      simp only [Lead.toStep]
      rw [ih _ _ (by omega) (by omega), bytesFrom_rest left, List.reverse_cons]
      rfl
    | skipped rest =>
      have left : (lead (bytesFrom b start)).rest? = some rest := by rw [front]; rfl
      have shorter := (lead_rest left).2
      rw [takeAll_skipped front, Taken.outcome_after]
      simp only [Lead.toStep]
      rw [ih _ _ (by omega) (by omega), bytesFrom_rest left, List.append_nil]
    | incomplete =>
      rw [takeAll_incomplete front]
      simp only [Lead.toStep, Taken.outcome, List.append_nil, Nat.add_zero, extract_eq]
      rw [List.take_of_length_le (by omega)]
    | fatal error =>
      rw [takeAll_fatal front]
      rfl

/-- The bytes that a decoder holds. -/
def FrameDecoder.bytes (d : FrameDecoder) : List UInt8 := d.buffer.data.toList

/-- A feed takes every frame off the held bytes and the new ones. -/
theorem feed_eq (d : FrameDecoder) (bytes : ByteArray) :
    d.feed bytes = (takeAll (d.bytes ++ bytes.data.toList)).outcome [] d.dropped := by
  unfold FrameDecoder.feed
  rw [takeFrames_eq [] d.dropped (Nat.zero_le _) (by omega)]
  simp [bytesFrom, FrameDecoder.bytes]

end BlockDiscovery.Framing
