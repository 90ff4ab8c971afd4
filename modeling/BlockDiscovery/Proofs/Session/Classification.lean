import BlockDiscovery.Proofs.Session.Correlation

/-! # Responses and the numbers that were given

The dispatcher does not remember which requests it has issued.  It gives them consecutive
numbers, and compares the number of a response with the next one: what is smaller and has no
entry in the table counts as late.  That is right of every number but zero, which is smaller than
the first one and is never given.
-/

namespace BlockDiscovery.Session

open BlockDiscovery.Json BlockDiscovery.Protocol Dispatcher

variable {capacity : Nat} {turns : List Turn} {k : Desk}

/-! ## The numbers that were given -/

theorem Desk.turn_nextId (k : Desk) (operation : Operation) :
    (k.turn operation).after.dispatcher.nextId = k.dispatcher.nextId + (k.turn operation).issued.length := by
  cases operation with
  | send method params timeout => exact send_nextId _ _ _ _ _
  | notify | sendRaw | closeWriter =>
    obtain ⟨channel, completions, frame, _⟩ := enqueue_frame k.dispatcher k.tasks _
    exact congrArg (fun out => out.1.nextId) frame
  | trySendRaw frame =>
    obtain ⟨channel, same, _⟩ := tryEnqueue_frame k.dispatcher frame
    change (k.dispatcher.tryEnqueue frame).2.nextId = _
    rw [same]
    rfl
  | cancel ticket => rfl
  | resolve id body =>
    change (k.dispatcher.resolve id body).2.1.nextId = _
    rw [resolve]
    split
    · split <;> rfl
    · rw [deliver_frame]
      rfl
  | failAll reason failure =>
    change (k.dispatcher.failAll reason failure).2.1.nextId = _
    rw [failAll, deliverAll_frame]
    rfl
  | take =>
    change k.dispatcher.takeItem.2.1.nextId = _
    rw [takeItem]
    dsimp only
    split
    · rfl
    · rw [arrive_frame]
      rfl
  | dropWriter => exact (dropWriter_strands k.dispatcher).nextId
  | advance ms =>
    change (k.dispatcher.advanceTo _).1.nextId = _
    rw [advanceTo, expireDue_frame]
    rfl

theorem Run.nextId (run : Run capacity turns k) :
    k.dispatcher.nextId = 1 + (turns.flatMap Turn.issued).length := by
  induction run with
  | start => rfl
  | turn operation run ih =>
    rw [Desk.turn_nextId, ih, flatMap_turn, List.length_append, Nat.add_assoc]

/-- Requests are numbered from one on, also those that are refused. -/
theorem Run.issued_ids (run : Run capacity turns k) : (turns.flatMap Turn.issued).map Request.id =
    List.range' 1 (turns.flatMap Turn.issued).length := by
  induction run with
  | start => rfl
  | @turn turns k operation run ih =>
    rw [flatMap_turn, List.map_append, ih, List.length_append, ← List.range'_append_1, ← run.nextId]
    cases operation with
    | send => rfl
    | _ => rfl

theorem Run.issued_iff (run : Run capacity turns k) (id : Nat) :
    (∃ r ∈ turns.flatMap Turn.issued, r.id = id) ↔ 0 < id ∧ id < k.dispatcher.nextId := by
  rw [← List.mem_map, run.issued_ids, List.mem_range'_1, run.nextId]
  exact Iff.rfl

/-! ## What a response meets -/

namespace Dispatcher

variable {d : Dispatcher} {id : Nat}

theorem resolve_pending (there : ∃ p ∈ d.pending, p.id = id) (body : Value) :
    (d.resolve id body).1 = .delivered := by
  obtain ⟨p, member, same⟩ := there
  obtain ⟨missing, _⟩ | ⟨_, _, delivered, _⟩ := resolve_cases d id body
  · have other := List.find?_eq_none.mp missing p member
    simp [same] at other
  · exact delivered

theorem resolve_missing (missing : ∀ p ∈ d.pending, p.id ≠ id) (body : Value) : d.resolve id body =
    if id < d.nextId then (.late, { d with stats := { d.stats with late := d.stats.late + 1 } }, [])
    else (.unknown, d, []) := by
  have none : d.pending.find? (fun p => p.id = id) = none :=
    List.find?_eq_none.mpr fun p member => by simpa using missing p member
  rw [resolve, none]

end Dispatcher

/-- Responses are told apart by what was issued.  A response is delivered if its request is
pending.  It is late, and counted as such, if its request was issued and is not pending any more,
and also if its number is zero.  It is unknown, and changes nothing, if its number is not zero and
no request was issued with it. -/
theorem responses_classified (run : Run capacity turns k) (id : Nat) (body : Value) :
    let t := k.turn (.resolve id body)
    (t.answer = .resolution .delivered ↔ ∃ p ∈ k.dispatcher.pending, p.id = id) ∧
    (t.answer = .resolution .late ↔ (id = 0 ∨ ∃ r ∈ turns.flatMap Turn.issued, r.id = id) ∧
      ∀ p ∈ k.dispatcher.pending, p.id ≠ id) ∧
    (t.answer = .resolution .unknown ↔ id ≠ 0 ∧ ∀ r ∈ turns.flatMap Turn.issued, r.id ≠ id) ∧
    (t.answer = .resolution .late → t.completions = [] ∧ t.after.dispatcher = { k.dispatcher with
      stats := { k.dispatcher.stats with late := k.dispatcher.stats.late + 1 } }) ∧
    (t.answer = .resolution .unknown → t.completions = [] ∧ t.after.dispatcher = k.dispatcher) := by
  intro t
  have known : (∃ p ∈ k.dispatcher.pending, p.id = id) → ∃ r ∈ turns.flatMap Turn.issued, r.id = id := by
    rintro ⟨p, member, same⟩
    obtain ⟨r, issued, rfl⟩ := run.request_of_entry member
    exact ⟨r, issued, same⟩
  have issued := run.issued_iff id
  have below : id = 0 ∨ (∃ r ∈ turns.flatMap Turn.issued, r.id = id) ↔ id < k.dispatcher.nextId := by
    rw [issued, run.nextId]
    omega
  have above : (id ≠ 0 ∧ ∀ r ∈ turns.flatMap Turn.issued, r.id ≠ id) ↔ ¬ id < k.dispatcher.nextId := by
    rw [← below, not_or, not_exists]
    simp only [not_and]
  have answer : t.answer = .resolution (k.dispatcher.resolve id body).1 := rfl
  have after : (t.after.dispatcher, t.completions) = (k.dispatcher.resolve id body).2 := rfl
  rw [answer, below, above]
  simp only [Answer.resolution.injEq]
  by_cases there : ∃ p ∈ k.dispatcher.pending, p.id = id
  · have delivered := resolve_pending there body
    have given := below.mp (.inr (known there))
    obtain ⟨p, member, same⟩ := there
    rw [delivered]
    refine ⟨iff_of_true rfl ⟨p, member, same⟩, iff_of_false nofun fun late => late.2 p member same,
      iff_of_false nofun fun new => new given, nofun, nofun⟩
  · have missing : ∀ p ∈ k.dispatcher.pending, p.id ≠ id := fun p member same => there ⟨p, member, same⟩
    rw [resolve_missing missing] at after ⊢
    split at after
    · next given =>
      obtain ⟨left, completions⟩ := Prod.mk.inj after
      rw [if_pos given]
      exact ⟨iff_of_false nofun there, iff_of_true rfl ⟨given, missing⟩,
        iff_of_false nofun fun new => new given, fun _ => ⟨completions, left⟩, nofun⟩
    · next new =>
      obtain ⟨left, completions⟩ := Prod.mk.inj after
      rw [if_neg new]
      exact ⟨iff_of_false nofun there, iff_of_false nofun fun late => new late.1,
        iff_of_true rfl new, nofun, fun _ => ⟨completions, left⟩⟩

/-- Three requests, of which one is pending, one is resolved and one was given up in line. -/
theorem responses_classified_three_requests : ∃ turns k, Run 1 turns k ∧
    (k.turn (.resolve 1 .null)).answer = .resolution .late ∧
    (k.turn (.resolve 2 .null)).answer = .resolution .delivered ∧
    (k.turn (.resolve 3 .null)).answer = .resolution .late ∧
    (k.turn (.resolve 4 .null)).answer = .resolution .unknown := by
  have run := (Run.start : Run 1 [] _).append [.send "a" none 100, .send "b" none 100, .send "c" none 100,
    .cancel 2, .resolve 1 .null]
  refine ⟨_, _, run, ?_, ?_, ?_, ?_⟩
  · exact (responses_classified run 1 .null).2.1.mpr (by decide)
  · exact (responses_classified run 2 .null).1.mpr (by decide)
  · exact (responses_classified run 3 .null).2.1.mpr (by decide)
  · exact (responses_classified run 4 .null).2.2.1.mpr (by decide)

/-- The number zero is never given, but a response that carries it counts as late. -/
theorem zero_counts_as_late : ∃ turns k, Run 1 turns k ∧
    (∀ r ∈ turns.flatMap Turn.issued, r.id ≠ 0) ∧
    (k.turn (.resolve 0 .null)).answer = .resolution .late ∧
    k.dispatcher.stats.late = 0 ∧ (k.turn (.resolve 0 .null)).after.dispatcher.stats.late = 1 :=
  ⟨_, _, .start, List.forall_mem_nil _, rfl, rfl, rfl⟩

end BlockDiscovery.Session
