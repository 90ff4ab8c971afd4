import BlockDiscovery.Proofs.Session.Chronicle
import BlockDiscovery.Proofs.Session.Keys

/-! # Requests and their responses

A response that was delivered took the entry of one request, the one with its number, and
that request reports this response and no other.
-/

namespace BlockDiscovery.Session

open BlockDiscovery.Json BlockDiscovery.Protocol Dispatcher

/-- The response that a turn delivers to the request with a number. -/
def Turn.delivered (t : Turn) (id : Nat) : List Value :=
  match t.operation, t.answer with
  | .resolve number body, .resolution .delivered => if number = id then [body] else []
  | _, _ => []

/-- The body of a verdict that is a response. -/
def Verdict.body? : Verdict → Option Value
  | .response body => some body
  | .failure _ => none

theorem Turn.mem_delivered {t : Turn} {id : Nat} {body : Value} :
    body ∈ t.delivered id ↔ t.operation = .resolve id body ∧ t.answer = .resolution .delivered := by
  rw [delivered]
  split
  · next number other operation answer =>
    rw [operation, answer]
    split
    · next same =>
      subst same
      simp [eq_comm]
    · next different => simp [different]
  · next others => exact ⟨nofun, fun both => absurd both.2 (others _ _ both.1)⟩

/-! ## The entry that a response takes -/

/-- What a response does that is delivered, late or unknown. -/
theorem resolve_cases (d : Dispatcher) (id : Nat) (body : Value) :
    (d.pending.find? (fun p => p.id = id) = none ∧ (d.resolve id body).1 ≠ .delivered ∧
      (d.resolve id body).2.1.pending = d.pending) ∨
    ∃ p, d.pending.find? (fun p => p.id = id) = some p ∧ (d.resolve id body).1 = .delivered ∧
      (d.resolve id body).2.1.pending = d.pending.filter fun p => p.id ≠ id := by
  rw [resolve]
  split
  · next none =>
    refine .inl ⟨none, ?_⟩
    split
    · exact ⟨by rintro ⟨⟩, rfl⟩
    · exact ⟨by rintro ⟨⟩, rfl⟩
  · next p found => exact .inr ⟨p, found, rfl, by rw [deliver_frame]; rfl⟩

variable {capacity : Nat} {turns : List Turn} {k : Desk} {t : Turn} {r : Request}

theorem Run.find_entry (run : Run capacity turns k) {id : Nat} {p : Pending}
    (found : k.dispatcher.pending.find? (fun p => p.id = id) = some p) :
    ∃ r ∈ turns.flatMap Turn.issued, r.id = id ∧ p = r.entry := by
  obtain ⟨r, issued, same⟩ := run.request_of_entry (List.mem_of_find?_eq_some found)
  have number : p.id = id := by simpa using List.find?_some found
  exact ⟨r, issued, by rwa [same] at number, same⟩

/-- What is delivered to the number of a request is the verdict on its entry. -/
theorem Run.delivered_turn (run : Run capacity turns k) (operation : Operation)
    (own : ∀ q ∈ turns.flatMap Turn.issued, q.id = r.id → q = r) :
    (k.turn operation).delivered r.id =
      ((k.turn operation).verdict? r.entry).toList.filterMap Verdict.body? := by
  cases operation with
  | resolve id body =>
    obtain ⟨_, other, same⟩ | ⟨p, found, delivered, pending⟩ := resolve_cases k.dispatcher id body
    · have kept : (k.turn (.resolve id body)).verdict? r.entry = none :=
        Turn.verdict?_eq_none fun member => by
          change r.entry ∈ (k.dispatcher.resolve id body).2.1.pending
          rwa [same]
      rw [kept]
      refine List.eq_nil_iff_forall_not_mem.mpr fun b member => other ?_
      exact Answer.resolution.inj (Turn.mem_delivered.mp member).2
    · obtain ⟨q, issued, number, rfl⟩ := run.find_entry found
      have delivers : (k.turn (.resolve id body)).delivered r.id = if id = r.id then [body] else [] := by
        simp only [Turn.delivered, Desk.turn, Desk.reply, delivered]
      rw [delivers]
      split
      · next same =>
        obtain rfl := own q issued (number.trans same)
        have taken : (k.turn (.resolve id body)).verdict? q.entry = some (.response body) := by
          refine if_pos ⟨List.mem_of_find?_eq_some found, fun member => ?_⟩
          change q.entry ∈ (k.dispatcher.resolve id body).2.1.pending at member
          rw [pending] at member
          exact of_decide_eq_true (List.mem_filter.mp member).2 number
        rw [taken]
        rfl
      · next different =>
        have kept : (k.turn (.resolve id body)).verdict? r.entry = none :=
          Turn.verdict?_eq_none fun member => by
            change r.entry ∈ (k.dispatcher.resolve id body).2.1.pending
            rw [pending]
            exact List.mem_filter.mpr ⟨member, decide_eq_true (Ne.symm different)⟩
        rw [kept]
        rfl
  | failAll reason failure =>
    change [] = _
    rw [Turn.verdict?]
    split <;> rfl
  | _ =>
    rw [Desk.verdict?_of_other rfl]
    rfl

/-- The responses that were delivered to a request, as its history has them. -/
theorem Run.delivered_eq (run : Run capacity turns k)
    (own : ∀ q ∈ turns.flatMap Turn.issued, q.id = r.id → q = r) :
    turns.flatMap (fun t => t.delivered r.id) =
      (r.history turns).verdicts.filterMap fun v => v.2.body? := by
  induction run with
  | start => rfl
  | @turn turns k operation run ih =>
    rw [flatMap_turn] at own
    have old := fun q issued => own q (List.mem_append_left _ issued)
    rw [flatMap_turn, ih old, history_turn, run.delivered_turn operation old]
    simp only [History.append, Turn.history, List.filterMap_append, List.filterMap_map]
    rfl

/-! ## Reports -/

theorem outcomeOf_value {method : String} {body v : Value}
    (h : outcomeOf method body = .ok (.value v)) : responseError? body = none ∧ v = body.getD "result" := by
  rw [outcomeOf] at h
  split at h
  · cases h
  · next none =>
    cases h
    exact ⟨none, rfl⟩

theorem outcomeOf_rpc {method own : String} {body : Value} {code : Int} {message : String}
    (h : outcomeOf own body = .error (.rpc method code message)) :
    method = own ∧ responseError? body = some (code, message) := by
  rw [outcomeOf] at h
  split at h
  · next error =>
    cases h
    exact ⟨rfl, error⟩
  · cases h

/-- A request reports the verdict on its entry, or that it had none. -/
theorem Story.report {h : History} {progress : Option Progress} {clock : Nat} {c : Completion}
    (story : Story r h progress clock) (reports : c ∈ h.reports) :
    (∃ time verdict, h.verdicts = [(time, verdict)] ∧ c.outcome = verdict.outcome r.method) ∨
      c.outcome = .error (.timeout r.method r.timeout) ∨ c.outcome = .error .writerClosed ∨
        ∃ reason, c.outcome = .error (.connectionFailed reason) := by
  cases story with
  | waiting | answered | sent | withdrawn => cases reports
  | responded time start verdict inTime =>
    obtain rfl := List.mem_singleton.mp reports
    exact .inl ⟨time, verdict, rfl, rfl⟩
  | expired =>
    obtain rfl := List.mem_singleton.mp reports
    exact .inr (.inl rfl)
  | unsent failure cause =>
    obtain rfl := List.mem_singleton.mp reports
    obtain rfl | ⟨reason, rfl⟩ := cause
    · exact .inr (.inr (.inl rfl))
    · exact .inr (.inr (.inr ⟨reason, rfl⟩))

/-- A verdict that is a failure is the one that all requests were rejected with. -/
theorem Turn.rejects_of_verdict {p : Pending} {cause : Failure}
    (h : t.verdict? p = some (.failure cause)) :
    ∃ reason, t.operation = .failAll reason cause ∧ p ∈ t.before.dispatcher.pending := by
  rw [verdict?] at h
  split at h
  · next removed =>
    split at h
    · cases h
    · next reason _ operation =>
      cases h
      exact ⟨reason, operation, removed.1⟩
    · cases h
  · cases h

/-- A request that was answered by a response, and whose frame was in the channel, reports
this response. -/
theorem Story.answer {h : History} {progress : Option Progress} {clock : Nat} {body : Value}
    (story : Story r h progress clock) (admitted : h.admissions ≠ [])
    (delivered : body ∈ h.verdicts.filterMap fun v => v.2.body?) :
    h.reports = [⟨r.ticket, outcomeOf r.method body⟩] := by
  cases story with
  | waiting | sent | expired => cases delivered
  | answered | unsent => exact absurd rfl admitted
  | responded time start verdict inTime =>
    cases verdict with
    | response own =>
      obtain rfl := List.mem_singleton.mp delivered
      rfl
    | failure cause => cases delivered
  | withdrawn time given live torn =>
    obtain rfl | rfl := torn
    · cases delivered
    · exact absurd rfl admitted

/-! ## Correlation -/

section Correlation

variable {front back : List Turn}

/-- A response that is delivered takes the entry of one request out of the table. -/
theorem Run.entry_taken (run : Run capacity (front ++ t :: back) k) {id : Nat} {body : Value}
    (delivered : body ∈ t.delivered id) :
    ∃ r pending rest, ((front ++ t :: back).flatMap Turn.issued).filter (fun q => q.id = id) = [r] ∧
      r ∈ front.flatMap Turn.issued ∧ t.before.dispatcher.pending = pending ++ r.entry :: rest ∧
      t.after.dispatcher.pending = pending ++ rest := by
  obtain ⟨j, operation, before, rfl, _⟩ := run.turnAt
  obtain ⟨resolves, answer⟩ := Turn.mem_delivered.mp delivered
  rw [Desk.turn_operation] at resolves
  subst resolves
  obtain ⟨_, other, _⟩ | ⟨p, found, _, taken⟩ := resolve_cases j.dispatcher id body
  · exact absurd (Answer.resolution.inj answer) other
  obtain ⟨r, issued, rfl, rfl⟩ := before.find_entry found
  obtain ⟨pending, rest, split⟩ := List.append_of_mem (List.mem_of_find?_eq_some found)
  have whole : r ∈ (front ++ j.turn (.resolve r.id body) :: back).flatMap Turn.issued := by
    rw [List.flatMap_append]
    exact List.mem_append_left _ issued
  refine ⟨r, pending, rest, filter_key run.chronicle.ids whole, issued, split, ?_⟩
  have ids := before.balanced.sound.matched.entry_ids
  rw [split] at ids taken
  exact taken.trans (filter_without_key ids)

/-- What a request reports, by a turn of a run: the one response that was delivered to it, the
failure that it was rejected with, or that it was neither answered nor rejected. -/
theorem Run.report (run : Run capacity (front ++ t :: back) k)
    (issued : r ∈ (front ++ t :: back).flatMap Turn.issued) {c : Completion} (reports : c ∈ t.reports r.ticket) :
    (∃ body, (front ++ [t]).flatMap (fun u => u.delivered r.id) = [body] ∧
      c.outcome = outcomeOf r.method body) ∨
    (∃ cause, c.outcome = .error cause ∧ ∃ u ∈ front ++ [t], ∃ reason,
      u.operation = .failAll reason cause ∧ r.entry ∈ u.before.dispatcher.pending) ∨
    c.outcome = .error (.timeout r.method r.timeout) ∨ c.outcome = .error .writerClosed ∨
      ∃ reason, c.outcome = .error (.connectionFailed reason) := by
  obtain ⟨_, _, _, _, whole⟩ := run.turnAt
  have reported : c ∈ (r.history (front ++ [t])).reports :=
    List.mem_flatMap.mpr ⟨t, List.mem_append_right _ (List.mem_singleton_self t), reports⟩
  rw [List.append_cons] at run issued
  have known := run.issued_of_report whole issued reported
  obtain ⟨progress, _, story⟩ := whole.chronicle.stories r known
  have delivered := whole.delivered_eq (whole.own known)
  obtain ⟨time, verdict, only, outcome⟩ | others := story.report reported
  · cases verdict with
    | response body =>
      rw [only] at delivered
      exact .inl ⟨body, delivered, outcome⟩
    | failure cause =>
      have member : (time, Verdict.failure cause) ∈ (r.history (front ++ [t])).verdicts :=
        only ▸ List.mem_singleton_self _
      obtain ⟨u, turn, _, verdict⟩ := Request.verdict_turn member
      obtain ⟨reason, rejects, entry⟩ := Turn.rejects_of_verdict verdict
      exact .inr (.inl ⟨cause, outcome, u, turn, reason, rejects, entry⟩)
  · exact .inr (.inr others)

end Correlation

/-- Responses and requests belong together.  No two requests have the same number.  A
response that is delivered takes the entry of one request, and no other, out of the
table.  Who reports a result, or an error that the server answered with, was delivered one
response with its own number until then, and reports what that response says, if it was
not rejected with this very error.  And a request whose frame entered the channel and to
which a response was delivered reports that response, and nothing else in the whole run. -/
theorem responses_correlated (run : Run capacity turns k) :
    ((turns.flatMap Turn.issued).map Request.id).Nodup ∧
    (∀ front t back id body, turns = front ++ t :: back → body ∈ t.delivered id →
      ∃ r pending rest, (turns.flatMap Turn.issued).filter (fun q => q.id = id) = [r] ∧
        r ∈ front.flatMap Turn.issued ∧
        t.before.dispatcher.pending = pending ++ r.entry :: rest ∧
        t.after.dispatcher.pending = pending ++ rest) ∧
    (∀ front t back r c, turns = front ++ t :: back → r ∈ turns.flatMap Turn.issued →
      c ∈ t.reports r.ticket →
      (∀ v, c.outcome = .ok (.value v) → ∃ body,
        (front ++ [t]).flatMap (fun u => u.delivered r.id) = [body] ∧
        responseError? body = none ∧ v = body.getD "result") ∧
      ∀ method code message, c.outcome = .error (.rpc method code message) →
        (∃ body, (front ++ [t]).flatMap (fun u => u.delivered r.id) = [body] ∧
          method = r.method ∧ responseError? body = some (code, message)) ∨
        ∃ u ∈ front ++ [t], ∃ reason, u.operation = .failAll reason (.rpc method code message) ∧
          r.entry ∈ u.before.dispatcher.pending) ∧
    ∀ t ∈ turns, ∀ r ∈ turns.flatMap Turn.issued, ∀ body ∈ t.delivered r.id,
      r.ticket ∈ turns.flatMap Turn.entered →
      turns.flatMap (fun u => u.reports r.ticket) = [⟨r.ticket, outcomeOf r.method body⟩] := by
  refine ⟨run.chronicle.ids, ?_, ?_, ?_⟩
  · rintro front t back id body rfl delivered
    exact run.entry_taken delivered
  · rintro front t back r c rfl issued reports
    obtain ⟨body, delivered, outcome⟩ | ⟨cause, outcome, rejected⟩ | lapsed | closed | ⟨reason, refused⟩ :=
      run.report issued reports
    · exact ⟨fun v value => ⟨body, delivered, outcomeOf_value (outcome.symm.trans value)⟩,
        fun method code message rpc => .inl ⟨body, delivered, outcomeOf_rpc (outcome.symm.trans rpc)⟩⟩
    · refine ⟨fun v value => (nomatch outcome.symm.trans value), fun method code message rpc => .inr ?_⟩
      cases outcome.symm.trans rpc
      exact rejected
    · exact ⟨fun _ value => (nomatch lapsed.symm.trans value), fun _ _ _ rpc => (nomatch lapsed.symm.trans rpc)⟩
    · exact ⟨fun _ value => (nomatch closed.symm.trans value), fun _ _ _ rpc => (nomatch closed.symm.trans rpc)⟩
    · exact ⟨fun _ value => (nomatch refused.symm.trans value), fun _ _ _ rpc => (nomatch refused.symm.trans rpc)⟩
  · intro t turn r issued body delivered entered
    obtain ⟨progress, _, story⟩ := run.chronicle.stories r issued
    refine story.answer (fun never => ?_) ?_
    · obtain ⟨u, member, enters⟩ := List.mem_flatMap.mp entered
      refine absurd (List.flatMap_eq_nil_iff.mp never u member) ?_
      simp [Turn.history, enters]
    · rw [← run.delivered_eq (run.own issued)]
      exact List.mem_flatMap.mpr ⟨t, turn, delivered⟩

/-- Two requests are answered in the other order, one with an error; what comes after that
changes nothing. -/
theorem responses_correlated_out_of_order : ∃ turns k, Run 2 turns k ∧
    turns.flatMap (fun u => u.reports 0) = [⟨0, .error (.rpc "a" 7 "no")⟩] ∧
    turns.flatMap (fun u => u.reports 1) = [⟨1, .ok (.value .null)⟩] := by
  have run := (Run.start : Run 2 [] _).append [.send "a" none 5, .send "b" none 5,
    .resolve 2 (.object []),
    .resolve 1 (.object [("error", .object [("code", .int 7), ("message", .string "no")])]),
    .failAll "gone" .connectionClosed, .resolve 1 .null, .advance 9, .dropWriter]
  have answered := (responses_correlated run).2.2.2
  refine ⟨_, _, run, ?_, ?_⟩
  · exact answered _ (List.mem_of_getElem? (i := 3) rfl) ⟨1, "a", 0, 5⟩ List.mem_cons_self _
      (List.mem_singleton_self _) List.mem_cons_self
  · exact answered _ (List.mem_of_getElem? (i := 2) rfl) ⟨2, "b", 1, 5⟩
      (List.mem_cons_of_mem _ List.mem_cons_self) _ (List.mem_singleton_self _)
      (List.mem_cons_of_mem _ List.mem_cons_self)

/-- A request that was rejected with such an error reports it without any response. -/
theorem rpc_without_response : ∃ turns k r, Run 1 turns k ∧ r ∈ turns.flatMap Turn.issued ∧
    turns.flatMap (fun u => u.reports r.ticket) = [⟨r.ticket, .error (.rpc "m" 1 "x")⟩] ∧
    turns.flatMap (fun u => u.delivered r.id) = [] := by
  have run := (Run.start : Run 1 [] _).append [.send "m" none 100, .failAll "r" (.rpc "m" 1 "x")]
  exact ⟨_, _, ⟨1, "m", 0, 100⟩, run, List.mem_singleton_self _, rfl, rfl⟩

end BlockDiscovery.Session
