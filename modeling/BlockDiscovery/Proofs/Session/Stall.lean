import BlockDiscovery.Proofs.Session.Deadline
import BlockDiscovery.Proofs.Session.Rejection

/-! # Requests that wait for room

The time of a request runs from the moment its frame is in the channel.  So a request whose frame
got there in time has reported something when its time is over, and one that stands in line
before the channel is delayed as long as the writer takes nothing, however long that is.
-/

namespace BlockDiscovery.Session

open BlockDiscovery.Json BlockDiscovery.Protocol Dispatcher

/-! ## Stories of requests that nobody cancels -/

section Story

variable {r : Request} {h : History} {progress : Option Progress} {clock : Nat}

/-- Who was not cancelled has reported something, waits for room, or has time left. -/
theorem Story.outlook (story : Story r h progress clock) (kept : h.cancels = []) :
    (∃ c, h.reports = [c]) ∨ h.reports = [] ∧ ((∃ answer, progress = some (.waiting answer)) ∨
      ∃ start, h.admissions = [start] ∧ clock < start + r.timeout) := by
  cases story with
  | waiting => exact .inr ⟨rfl, .inl ⟨none, rfl⟩⟩
  | answered time verdict => exact .inr ⟨rfl, .inl ⟨_, rfl⟩⟩
  | sent start live => exact .inr ⟨rfl, .inr ⟨start, rfl, live⟩⟩
  | responded | expired | unsent => exact .inl ⟨_, rfl⟩
  | withdrawn time given =>
    obtain rfl : _ = [] := kept
    cases given

/-- Whose frame was in the channel does not wait for room. -/
theorem Story.not_waiting (story : Story r h progress clock) {start : Nat} (admitted : start ∈ h.admissions)
    (answer : Option Outcome) : progress ≠ some (.waiting answer) := by
  rintro rfl
  cases story with
  | waiting | answered => cases admitted

end Story

section Members

variable {r : Request} {turns : List Turn}

theorem Request.admission_turn {time : Nat} (member : time ∈ (r.history turns).admissions) :
    ∃ t ∈ turns, t.before.dispatcher.clock = time ∧ r.ticket ∈ t.entered := by
  obtain ⟨t, turn, inside⟩ := List.mem_flatMap.mp member
  rw [Turn.history] at inside
  dsimp only at inside
  split at inside
  · next entered => exact ⟨t, turn, (List.mem_singleton.mp inside).symm, entered⟩
  · cases inside

theorem Request.cancels_eq_nil (kept : ∀ t ∈ turns, t.cancels r.ticket = false) :
    (r.history turns).cancels = [] := by
  refine List.eq_nil_iff_forall_not_mem.mpr fun time member => ?_
  obtain ⟨t, turn, _, cancels⟩ := Request.cancel_turn member
  cases (kept t turn).symm.trans cancels

end Members

/-! ## A stalled channel -/

/-- Whether an operation lets somebody who stands in line with this ticket leave it. -/
def Operation.moves (ticket : Ticket) : Operation → Bool
  | .take | .dropWriter => true
  | .cancel u => u = ticket
  | _ => false

section Stall

variable {capacity : Nat} {turns : List Turn} {k : Desk} {r : Request}

/-- A task that waits in line reports nothing as long as the line does not move. -/
theorem Desk.stall {s : Send} {answer : Option Outcome} (sound : k.dispatcher.Sound k.tasks)
    (distinct : k.dispatcher.line.Nodup) (was : k.dispatcher.send? s.ticket = some s)
    (waits : s.progress = .waiting answer) (inside : s.ticket ∈ k.dispatcher.line) {operation : Operation}
    (still : operation.moves s.ticket = false) :
    (k.turn operation).reports s.ticket = [] ∧ s.ticket ∈ (k.turn operation).after.dispatcher.line := by
  have outside : s.ticket ∉ (k.turn operation).entered := by
    intro enters
    obtain ⟨take, _⟩ | new := eq_of_entered enters
    · rw [turn_operation] at take
      rw [take] at still
      cases still
    · rw [turn_before] at new
      exact Nat.ne_of_lt (sound.given was) new
  have kept : operation ≠ .cancel s.ticket := by
    rintro rfl
    simp [Operation.moves] at still
  have there : operation ≠ .dropWriter := by
    rintro rfl
    cases still
  have stays := line_stays sound inside outside kept there
  obtain ⟨e, meets⟩ := Desk.meets sound distinct was operation
  have silent : (s.on (k.turn operation).after.dispatcher.clock e).2 = [] := by
    have leaves := (meets.line stays).2
    cases e with
    | nothing => rfl
    | time | answered => simp only [Send.on, waits]
    | admitted | stranded | refused | cancelled => cases leaves
  exact ⟨(congrArg Prod.snd meets.view).trans silent, stays⟩

theorem Run.stall (run : Run capacity turns k) (issued : r ∈ turns.flatMap Turn.issued)
    (inside : r.ticket ∈ k.dispatcher.line) (operations : List Operation)
    (still : ∀ operation ∈ operations, operation.moves r.ticket = false) :
    (k.run operations).1.flatMap (fun t => t.reports r.ticket) = [] ∧
      r.ticket ∈ (k.run operations).2.dispatcher.line := by
  induction operations generalizing turns k with
  | nil => exact ⟨rfl, inside⟩
  | cons operation operations ih =>
    obtain ⟨now, later⟩ := List.forall_mem_cons.mp still
    obtain ⟨progress, stands, _⟩ := run.chronicle.stories r issued
    obtain ⟨answer, rfl⟩ := stands.line inside
    obtain ⟨silent, stays⟩ := Desk.stall (s := r.task (.waiting answer)) run.balanced.sound run.chronicle.line
      stands.task rfl inside now
    obtain ⟨quiet, last⟩ := ih (run.turn operation) ((flatMap_turn ..).symm ▸ List.mem_append_left _ issued) stays later
    exact ⟨List.append_eq_nil_iff.mpr ⟨silent, quiet⟩, last⟩

end Stall

/-! ## When a request has reported -/

section Requests

variable {capacity : Nat} {turns : List Turn} {k : Desk} {r : Request}

/-- A request whose frame is in the channel has reported something when its time is over. -/
theorem Run.reported_of_entered (run : Run capacity turns k) (issued : r ∈ turns.flatMap Turn.issued)
    (kept : ∀ u ∈ turns, u.cancels r.ticket = false) {u : Turn} (turn : u ∈ turns) (entered : r.ticket ∈ u.entered)
    (past : r.due u ≤ k.dispatcher.clock) : ∃ c, turns.flatMap (fun v => v.reports r.ticket) = [c] := by
  obtain ⟨progress, _, story⟩ := run.chronicle.stories r issued
  have admitted := Request.admission_mem turn entered
  obtain reported | ⟨_, ⟨answer, waits⟩ | ⟨start, only, live⟩⟩ := story.outlook (Request.cancels_eq_nil kept)
  · exact reported
  · exact absurd waits (story.not_waiting admitted answer)
  · rw [only] at admitted
    obtain rfl := List.mem_singleton.mp admitted
    exact absurd past (Nat.not_le_of_lt live)

/-- When the time since a request was issued is over, it has reported something, or it had to stand
in line: it still does, or its frame entered the channel later than it was issued. -/
theorem Run.late_in_line (run : Run capacity turns k) {t : Turn} (issues : t ∈ turns) (issued : r ∈ t.issued)
    (kept : ∀ u ∈ turns, u.cancels r.ticket = false) (past : r.due t ≤ k.dispatcher.clock) :
    (∃ c, turns.flatMap (fun v => v.reports r.ticket) = [c]) ∨
    turns.flatMap (fun v => v.reports r.ticket) = [] ∧ (r.ticket ∈ k.dispatcher.line ∨
      ∃ u ∈ turns, r.ticket ∈ u.entered ∧ t.before.dispatcher.clock < u.before.dispatcher.clock ∧
        k.dispatcher.clock < r.due u) := by
  obtain ⟨progress, stands, story⟩ := run.chronicle.stories r (List.mem_flatMap.mpr ⟨t, issues, issued⟩)
  obtain reported | ⟨silent, ⟨answer, rfl⟩ | ⟨start, only, live⟩⟩ := story.outlook (Request.cancels_eq_nil kept)
  · exact .inl reported
  · exact .inr ⟨silent, .inl (run.queued _ _ _ stands.task rfl)⟩
  · obtain ⟨u, turn, rfl, entered⟩ := Request.admission_turn (only ▸ List.mem_singleton_self start)
    refine .inr ⟨silent, .inr ⟨u, turn, entered, ?_, live⟩⟩
    rw [Request.due] at past
    omega

/-- When the requests of a run have reported something. -/
structure ReportsInTime (turns : List Turn) (k : Desk) : Prop where
  /-- A request that nobody cancels has done so when its time since its frame entered the channel is over. -/
  entered : ∀ r ∈ turns.flatMap Turn.issued, (∀ u ∈ turns, u.cancels r.ticket = false) →
    ∀ u ∈ turns, r.ticket ∈ u.entered → r.due u ≤ k.dispatcher.clock →
      ∃ c, turns.flatMap (fun v => v.reports r.ticket) = [c]
  /-- When its time since it was issued is over, it has done so, or it has stood in line meanwhile. -/
  issued : ∀ t ∈ turns, ∀ r ∈ t.issued, (∀ u ∈ turns, u.cancels r.ticket = false) →
    r.due t ≤ k.dispatcher.clock →
      (∃ c, turns.flatMap (fun v => v.reports r.ticket) = [c]) ∨
      turns.flatMap (fun v => v.reports r.ticket) = [] ∧ (r.ticket ∈ k.dispatcher.line ∨
        ∃ u ∈ turns, r.ticket ∈ u.entered ∧ t.before.dispatcher.clock < u.before.dispatcher.clock ∧
          k.dispatcher.clock < r.due u)
  /-- Who stands in line stays there and reports nothing, however much time passes and whatever else
  happens, until the writer takes an item or goes away. -/
  stalled : ∀ r ∈ turns.flatMap Turn.issued, r.ticket ∈ k.dispatcher.line →
    ∀ operations : List Operation, (∀ operation ∈ operations, operation.moves r.ticket = false) →
      (k.run operations).1.flatMap (fun t => t.reports r.ticket) = [] ∧
        r.ticket ∈ (k.run operations).2.dispatcher.line

theorem Run.reportsInTime (run : Run capacity turns k) : ReportsInTime turns k where
  entered _ issued kept _ turn entered past := run.reported_of_entered issued kept turn entered past
  issued _ issues _ issued kept past := run.late_in_line issues issued kept past
  stalled _ issued inside operations still := run.stall issued inside operations still

end Requests

end BlockDiscovery.Session
