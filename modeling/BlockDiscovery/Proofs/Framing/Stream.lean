import BlockDiscovery.Framing.Decoder
import Mathlib.Data.List.Basic

/-! # Frames at the front of a list of bytes

The decoder works on indices into one buffer.  This module says the same of a list of
bytes: `lead` tells what the bytes begin with and what stays behind it, and `takeAll`
takes frames off the front for as long as there is one.

Main statement: `takeAll_append`, that bytes which come later change nothing about the
frames before them.
-/

namespace BlockDiscovery.Framing

open BlockDiscovery BlockDiscovery.Json

/-! ## The end of a header block -/

/-- The empty line that ends a header block, with the line end before it. -/
def terminator : List UInt8 := [13, 10, 13, 10]

/-- The bytes before the first terminator and those behind it. -/
def cutHeader? : List UInt8 → Option (List UInt8 × List UInt8)
  | [] => none
  | b :: rest =>
    match terminator.isPrefixOf? (b :: rest) with
    | some behind => some ([], behind)
    | none => (cutHeader? rest).map fun (header, behind) => (b :: header, behind)

theorem isPrefixOf?_terminator {s behind : List UInt8} :
    terminator.isPrefixOf? s = some behind ↔ s = terminator ++ behind := by
  rw [List.isPrefixOf?_eq_some_iff_append_eq, eq_comm]

theorem cutHeader?_terminator (behind : List UInt8) :
    cutHeader? (terminator ++ behind) = some ([], behind) := by
  rfl

theorem cutHeader?_cons {b : UInt8} {rest : List UInt8}
    (h : ∀ behind, b :: rest ≠ terminator ++ behind) :
    cutHeader? (b :: rest) = (cutHeader? rest).map fun (header, behind) => (b :: header, behind) := by
  cases front : terminator.isPrefixOf? (b :: rest) with
  | none => simp only [cutHeader?, front]
  | some behind => exact absurd (isPrefixOf?_terminator.mp front) (h behind)

theorem cutHeader?_eq {s header behind : List UInt8} (h : cutHeader? s = some (header, behind)) :
    s = header ++ (terminator ++ behind) := by
  induction s generalizing header with
  | nil => simp [cutHeader?] at h
  | cons b rest ih =>
    unfold cutHeader? at h
    split at h
    next front =>
      obtain ⟨rfl, rfl⟩ := by simpa using h
      exact isPrefixOf?_terminator.mp front
    next =>
      obtain ⟨⟨inner, _⟩, cut, equal⟩ := Option.map_eq_some_iff.mp h
      obtain ⟨rfl, rfl⟩ := by simpa using equal
      rw [ih cut, List.cons_append]

theorem cutHeader?_header {header : List UInt8} (behind : List UInt8) (h : 13 ∉ header) :
    cutHeader? (header ++ (terminator ++ behind)) = some (header, behind) := by
  induction header with
  | nil => exact cutHeader?_terminator behind
  | cons b header ih =>
    simp only [List.mem_cons, not_or] at h
    rw [List.cons_append, cutHeader?_cons, ih h.2]
    · rfl
    · intro inner equal
      exact h.1 (List.cons.inj equal).1.symm

theorem terminator_front {s more behind : List UInt8} (long : 4 ≤ s.length)
    (h : s ++ more = terminator ++ behind) : ∃ inner, s = terminator ++ inner := by
  have whole : terminator <+: s ++ more := ⟨behind, h.symm⟩
  obtain ⟨inner, equal⟩ :=
    List.prefix_of_prefix_length_le whole (List.prefix_append s more)
      (by simpa [terminator] using long)
  exact ⟨inner, equal.symm⟩

/-- A terminator found stays the first one when bytes follow. -/
theorem cutHeader?_append {s header behind : List UInt8} (more : List UInt8)
    (h : cutHeader? s = some (header, behind)) :
    cutHeader? (s ++ more) = some (header, behind ++ more) := by
  induction s generalizing header with
  | nil => simp [cutHeader?] at h
  | cons b rest ih =>
    have whole := cutHeader?_eq h
    cases header with
    | nil =>
      rw [whole, List.nil_append, List.append_assoc]
      exact cutHeader?_terminator _
    | cons c header =>
      have front : ∀ inner, b :: rest ≠ terminator ++ inner := by
        intro inner equal
        rw [equal, cutHeader?_terminator] at h
        simp at h
      have long : 4 ≤ (b :: rest).length := by
        rw [whole]
        simp only [List.length_append, List.length_cons, terminator]
        omega
      rw [cutHeader?_cons front] at h
      obtain ⟨⟨inner, after⟩, cut, equal⟩ := Option.map_eq_some_iff.mp h
      obtain ⟨⟨rfl, rfl⟩, rfl⟩ : (b = c ∧ inner = header) ∧ after = behind := by simpa using equal
      rw [List.cons_append, cutHeader?_cons, ih cut]
      · rfl
      · intro behind' equal
        obtain ⟨inner, shorter⟩ := terminator_front long equal
        exact front inner shorter

/-! ## What a list of bytes begins with -/

/-- What bytes begin with, and the bytes that stay behind it. -/
inductive Lead where
  | message (value : Value) (rest : List UInt8)
  | skipped (rest : List UInt8)
  | incomplete
  | fatal (error : FramingError)

/-- The frame at the front of some bytes. -/
def lead (s : List UInt8) : Lead :=
  match cutHeader? s with
  | none => if maxHeader < s.length then .fatal (.headerTooLarge maxHeader) else .incomplete
  | some (header, behind) =>
    match bodyLength? ⟨header.toArray⟩ with
    | none => .skipped behind
    | some length =>
      if maxBody < length then .fatal (.frameTooLarge length maxBody)
      else if behind.length < length then .incomplete
      else
        match bodyMessage? ⟨(behind.take length).toArray⟩ with
        | some value => .message value (behind.drop length)
        | none => .skipped (behind.drop length)

/-- The bytes that a complete frame leaves. -/
def Lead.rest? : Lead → Option (List UInt8)
  | .message _ rest | .skipped rest => some rest
  | .incomplete | .fatal _ => none

/-- The same lead with more bytes behind it. -/
def Lead.extend (more : List UInt8) : Lead → Lead
  | .message value rest => .message value (rest ++ more)
  | .skipped rest => .skipped (rest ++ more)
  | .incomplete => .incomplete
  | .fatal error => .fatal error

/-- A complete frame is a header block and what it announces: nothing, or a body that is there in
full. -/
theorem complete_cases {s rest : List UInt8} (h : (lead s).rest? = some rest) :
    ∃ header behind, cutHeader? s = some (header, behind) ∧
      (bodyLength? ⟨header.toArray⟩ = none ∧ rest = behind ∨
        ∃ length, bodyLength? ⟨header.toArray⟩ = some length ∧ length ≤ maxBody ∧
          length ≤ behind.length ∧ rest = behind.drop length) := by
  cases cut : cutHeader? s with
  | none =>
    simp only [lead, cut] at h
    split at h <;> simp [Lead.rest?] at h
  | some pair =>
    obtain ⟨header, behind⟩ := pair
    refine ⟨header, behind, rfl, ?_⟩
    simp only [lead, cut] at h
    cases announced : bodyLength? ⟨header.toArray⟩ with
    | none =>
      obtain rfl : behind = rest := by simpa [announced, Lead.rest?] using h
      exact .inl ⟨rfl, rfl⟩
    | some length =>
      simp only [announced] at h
      by_cases large : maxBody < length
      · simp [large, Lead.rest?] at h
      by_cases short : behind.length < length
      · simp [large, short, Lead.rest?] at h
      obtain rfl : behind.drop length = rest := by
        simp only [large, short, if_false] at h
        split at h <;> simpa [Lead.rest?] using h
      exact .inr ⟨length, rfl, by omega, by omega, rfl⟩

/-- A frame that is complete stays what it is when bytes follow. -/
theorem lead_append {s rest : List UInt8} (more : List UInt8) (h : (lead s).rest? = some rest) :
    lead (s ++ more) = (lead s).extend more := by
  obtain ⟨header, behind, cut, ⟨announced, rfl⟩ | ⟨length, announced, small, full, rfl⟩⟩ := complete_cases h
  · simp only [lead, cut, cutHeader?_append more cut, announced]
    rfl
  · have large : ¬ maxBody < length := by omega
    have short : ¬ behind.length < length := by omega
    have enough : ¬ (behind ++ more).length < length := by
      rw [List.length_append]
      omega
    simp only [lead, cut, cutHeader?_append more cut, announced, large, short, enough, if_false]
    rw [List.take_append_of_le_length full, List.drop_append_of_le_length full]
    cases bodyMessage? ⟨(behind.take length).toArray⟩ <;> rfl

theorem lead_rest {s rest : List UInt8} (h : (lead s).rest? = some rest) :
    rest <:+ s ∧ rest.length + 4 ≤ s.length := by
  obtain ⟨header, behind, cut, within⟩ := complete_cases h
  have inner : rest <:+ behind := by
    obtain ⟨_, rfl⟩ | ⟨length, _, _, _, rfl⟩ := within
    · exact List.suffix_rfl
    · exact List.drop_suffix length behind
  have whole := cutHeader?_eq cut
  -- the four bytes of the terminator are what makes every frame progress
  have lengths : s.length = header.length + (4 + behind.length) := by
    rw [whole, List.length_append, List.length_append]
    rfl
  have bound := inner.length_le
  refine ⟨?_, by omega⟩
  rw [whole, ← List.append_assoc]
  exact inner.trans (List.suffix_append _ _)

/-! ## Taking every frame -/

/-- What is left when no more frame can be taken. -/
inductive Ending where
  | waiting (rest : List UInt8)
  | broken (error : FramingError)

/-- The frames at the front of some bytes: their messages, how many were dropped, and
what comes after them. -/
structure Taken where
  messages : List Value
  dropped : Nat
  ending : Ending

def Taken.after (first later : Taken) : Taken where
  messages := first.messages ++ later.messages
  dropped := first.dropped + later.dropped
  ending := later.ending

/-- Take frames off the front of some bytes as long as there is one. -/
def takeAll (s : List UInt8) : Taken :=
  match _front : lead s with
  | .message value rest => Taken.after ⟨[value], 0, .waiting rest⟩ (takeAll rest)
  | .skipped rest => Taken.after ⟨[], 1, .waiting rest⟩ (takeAll rest)
  | .incomplete => ⟨[], 0, .waiting s⟩
  | .fatal error => ⟨[], 0, .broken error⟩
termination_by s.length
decreasing_by
  all_goals
    have := (lead_rest (s := s) (by rw [_front]; rfl)).2
    omega

theorem takeAll_message {s rest : List UInt8} {value : Value} (h : lead s = .message value rest) :
    takeAll s = Taken.after ⟨[value], 0, .waiting rest⟩ (takeAll rest) := by
  rw [takeAll]
  split <;> simp_all

theorem takeAll_skipped {s rest : List UInt8} (h : lead s = .skipped rest) :
    takeAll s = Taken.after ⟨[], 1, .waiting rest⟩ (takeAll rest) := by
  rw [takeAll]
  split <;> simp_all

theorem takeAll_incomplete {s : List UInt8} (h : lead s = .incomplete) :
    takeAll s = ⟨[], 0, .waiting s⟩ := by
  rw [takeAll]
  split <;> simp_all

theorem takeAll_fatal {s : List UInt8} {error : FramingError} (h : lead s = .fatal error) :
    takeAll s = ⟨[], 0, .broken error⟩ := by
  rw [takeAll]
  split <;> simp_all

theorem Taken.after_assoc (a b c : Taken) : (a.after b).after c = a.after (b.after c) := by
  simp [Taken.after, Nat.add_assoc]

/-- Bytes that come later are taken together with those that were left, and the frames
taken before stay as they are. -/
theorem takeAll_append {s rest : List UInt8} (more : List UInt8)
    (h : (takeAll s).ending = .waiting rest) :
    takeAll (s ++ more) = (takeAll s).after (takeAll (rest ++ more)) := by
  -- on the frames taken from `s`: each is still in front of `s ++ more` by `lead_append`
  induction s using takeAll.induct with
  | case1 s value behind front ih =>
    have longer := lead_append more (s := s) (by rw [front]; rfl)
    rw [front] at longer
    rw [takeAll_message front] at h ⊢
    rw [takeAll_message longer, ih h, Taken.after_assoc]
    rfl
  | case2 s behind front ih =>
    have longer := lead_append more (s := s) (by rw [front]; rfl)
    rw [front] at longer
    rw [takeAll_skipped front] at h ⊢
    rw [takeAll_skipped longer, ih h, Taken.after_assoc]
    rfl
  | case3 s front =>
    rw [takeAll_incomplete front] at h ⊢
    obtain rfl : s = rest := by simpa using h
    simp [Taken.after]
  | case4 s error front =>
    rw [takeAll_fatal front] at h
    simp at h

theorem takeAll_rest {s rest : List UInt8} (h : (takeAll s).ending = .waiting rest) :
    lead rest = .incomplete := by
  induction s using takeAll.induct with
  | case1 s value behind front ih => exact ih (by rwa [takeAll_message front] at h)
  | case2 s behind front ih => exact ih (by rwa [takeAll_skipped front] at h)
  | case3 s front =>
    rw [takeAll_incomplete front] at h
    obtain rfl : s = rest := by simpa using h
    exact front
  | case4 s error front =>
    rw [takeAll_fatal front] at h
    simp at h

end BlockDiscovery.Framing
