import BlockDiscovery.Proofs.Session.Advance
import BlockDiscovery.Proofs.Session.Career

/-! # What a discovery tells of its connection

A discovery that has collected diagnostics met a connection that was ready; by then it may have been shut
down or have failed.  A failure is reported.  A shutdown is not: the discovery succeeds with what came
before.
-/

namespace BlockDiscovery.Session

open BlockDiscovery.Json BlockDiscovery.Protocol BlockDiscovery.Config
open BlockDiscovery.Block (Report)
open BlockDiscovery.Files (FileTree)

/-- Whether a discovery has succeeded without finding anything. -/
def TaskResult.isBlank : TaskResult → Bool
  | .report ⟨true, [], none⟩ => true
  | _ => false

namespace Client

open Connection

variable {settings : ServerSettings} {registry : Diagnostic.Registry} {tasks n : Nat} {c e : Client}
  {k : Connection} {host : Host} {t : Task} {uri : String} {changes : List Change}

namespace Career

/-- A connection that was shown a text has been ready. -/
theorem shown (career : Career settings registry changes c tasks) (shows : c.Shows n) :
    ∃ k, c.connections[n]? = some k ∧ Phase.ready.rank ≤ k.phase.rank := by
  induction career with
  | fresh =>
    obtain ⟨_, member, _⟩ := shows
    cases member
  | step event career fits ih =>
    have reacts := career.reacts fits
    obtain before | ⟨k, found, ready⟩ := reacts.shows n shows
    · obtain ⟨k, found, late⟩ := ih before
      obtain ⟨incidents, goes, _⟩ := reacts.old n k found
      exact ⟨_, goes, late.trans (k.course_rank incidents)⟩
    · exact ⟨k, found, ready ▸ le_rfl⟩

/-- A connection parts only after a clean-up. -/
theorem parted (career : Career settings registry changes c tasks) (found : c.connections[n]? = some k)
    (parting : k.Parting) : ∃ s ∈ changes, s.event = .cleanup ∧ s.before.current = some n := by
  obtain ⟨_, _, course, explained⟩ := career.course found
  obtain ⟨step, member, u, asks⟩ := course.asked parting
  obtain ⟨s, inside, explains⟩ := explained step member
  rw [asks] at explains
  exact ⟨s, inside, explains⟩

end Career

theorem conclude_cases (c : Client) (k : Connection) (u : Ticket) (uri : String)
    (diagnostics : List Protocol.Diagnostic) :
    (∃ reason, k.phase = .failed reason ∧
      c.conclude k u uri diagnostics = c.failTask u (.connectionFailed reason)) ∨
    (∀ reason, k.phase ≠ .failed reason) ∧
      ∃ blocks, c.conclude k u uri diagnostics = c.finish u (.report (.found blocks)) := by
  rw [conclude]
  split
  · next reason failed => exact .inl ⟨reason, failed, rfl⟩
  · next lives => exact .inr ⟨lives, _, rfl⟩

/-- What a discovery that has collected diagnostics reports. -/
theorem collection_reports (collects : t.stage = .collecting uri) (polled : c.pollTask host t = some e) :
    ∃ before k result r, c.connections[t.connection]? = some before ∧ k.phase = before.phase ∧
      e.connections[t.connection]? = some k ∧ e.finished = c.finished ++ [(t.ticket, result)] ∧
      result.report? = some r ∧
      ((∃ reason, k.phase = .failed reason ∧ r = .failure (Failure.connectionFailed reason).message) ∨
        (∀ reason, k.phase ≠ .failed reason) ∧ ∃ blocks, r = .found blocks) := by
  obtain ⟨before, found, goes⟩ := Option.bind_eq_some_iff.mp polled
  rw [collects] at goes
  obtain ⟨⟨diagnostics, k⟩, taken, rfl⟩ := Option.map_eq_some_iff.mp goes
  have phase : (k.unwatch t.ticket).phase = before.phase := by
    obtain ⟨_, _, same⟩ := Option.map_eq_some_iff.mp taken
    cases same
    rfl
  have put : (c.connections.set t.connection (k.unwatch t.ticket))[t.connection]? = some (k.unwatch t.ticket) :=
    List.getElem?_set_self (List.getElem?_eq_some_iff.mp found).1
  dsimp only
  obtain ⟨reason, failed, ends⟩ | ⟨lives, blocks, ends⟩ :=
    (c.setConnection t.connection (k.unwatch t.ticket)).conclude_cases (k.unwatch t.ticket) t.ticket uri diagnostics
  · rw [ends]
    exact ⟨before, k.unwatch t.ticket, _, _, found, phase, put, rfl, rfl, .inl ⟨reason, failed, rfl⟩⟩
  · rw [ends]
    exact ⟨before, k.unwatch t.ticket, _, _, found, phase, put, rfl, rfl, .inr ⟨lives, blocks, rfl⟩⟩

/-- The server of the first connection answers a request. -/
def answering (id : Int) : Event :=
  .undergo 0 (.read (Framing.encodeFrame (.object [("id", .int id), ("result", .null)])))

/-- A discovery begins to collect diagnostics. -/
def collecting : List Event :=
  let ensuring : Event := .poll .obliging ⟨0, 0, .ensuring "file:///a" "x"⟩
  [.discover .obliging (FileTree.empty.add [[97]] (.file "x".toUTF8)) (.ofString "/a"),
    ensuring, answering 1, ensuring, ensuring, ensuring, .poll .obliging ⟨0, 0, .syncing "file:///a"⟩]

/-- Meanwhile the connection is shut down, as it should be. -/
def cleaning : List Event :=
  let stopping : Event := .poll .obliging ⟨1, 0, .stopping⟩
  [.cleanup, stopping, answering 2, stopping, stopping, stopping] ++ List.replicate 6 (.undergo 0 .takeItem) ++
    [stopping, .undergo 0 (.exited (some 0)), stopping]

/-- Unless its connection was to be shut down, a discovery that has collected diagnostics succeeds just
when the connection is still ready.  A connection that has failed is always told; one that was shut down
is not. -/
theorem collection_tells_of_failure (career : Career settings registry changes c tasks) (member : t ∈ c.tasks)
    (collects : t.stage = .collecting uri) (polled : c.pollTask host t = some e) :
    ∃ k result r, e.connections[t.connection]? = some k ∧
      e.finished = c.finished ++ [(t.ticket, result)] ∧ result.report? = some r ∧
      (k.phase = .ready ∨ k.phase.isEnding = true) ∧
      (∀ reason, k.phase = .failed reason → r = .failure (Failure.connectionFailed reason).message) ∧
      ((∀ reason, k.phase ≠ .failed reason) → ∃ blocks, r = .found blocks) ∧
      ((∀ s ∈ changes, s.event = .cleanup → s.before.current ≠ some t.connection) →
        (r.success = true ↔ k.phase = .ready) ∧ (r.success = false → r.blocks = [] ∧ r.error.isSome = true)) := by
  obtain ⟨before, k, result, r, found, phase, after, finished, reported, told⟩ := collection_reports collects polled
  have late : Phase.ready.rank ≤ k.phase.rank := by
    obtain ⟨other, there, late⟩ := career.shown ⟨t, member, rfl, by rw [collects]; rfl⟩
    rw [found] at there
    cases there
    rwa [phase]
  refine ⟨k, result, r, after, finished, reported, Phase.ready_or_ending late, ?_, ?_, fun unasked => ?_⟩
  · intro reason failed
    obtain ⟨other, same, fails⟩ | ⟨lives, _⟩ := told
    · rw [failed] at same
      cases same
      exact fails
    · exact absurd failed (lives reason)
  · intro lives
    obtain ⟨reason, failed, _⟩ | ⟨_, found⟩ := told
    · exact absurd failed (lives reason)
    · exact found
  · have stays : k.phase.isParting = false := by
      by_contra parts
      rw [phase] at parts
      obtain ⟨s, inside, cleans, current⟩ := career.parted found (.inl (Bool.of_not_eq_false parts))
      exact unasked s inside cleans current
    obtain ⟨reason, failed, rfl⟩ | ⟨lives, blocks, rfl⟩ := told
    · simp [failed, Report.failure]
    · have ready := (Phase.ready_or_failed late stays).resolve_right fun ⟨reason, failed⟩ => lives reason failed
      simp [ready, Report.found]

/-- The phase of the first connection. -/
def firstPhase (c : Client) : Option Phase := (c.connections[0]?).map Connection.phase

/-- The server exits while its diagnostics are awaited, and the discovery fails. -/
theorem collection_tells_of_failure_after_exit : ∃ changes c t e k result r,
    Career (.make "nim" "nim") .empty changes c 1 ∧ t ∈ c.tasks ∧ t.stage = .collecting "file:///a" ∧
    c.pollTask .obliging t = some e ∧ e.connections[t.connection]? = some k ∧
    k.phase = .failed "language server exited unexpectedly with code 1" ∧
    e.finished = c.finished ++ [(t.ticket, result)] ∧ result.report? = some r ∧
    r = .failure (Failure.connectionFailed "language server exited unexpectedly with code 1").message := by
  let events := collecting ++ [.undergo 0 (.exited (some 1))]
  have career : Career (.make "nim" "nim") .empty _ _ 1 :=
    Career.fresh.replay (by decide +kernel : (fresh (.make "nim" "nim") .empty).Allows 0 events)
  let c := ((fresh (.make "nim" "nim") .empty).replay 0 events).2.1
  have member : ⟨0, 0, .collecting "file:///a"⟩ ∈ c.tasks := by decide +kernel
  have ends : (c.pollTask .obliging ⟨0, 0, .collecting "file:///a"⟩).map firstPhase =
      some (some (.failed "language server exited unexpectedly with code 1")) := by decide +kernel
  obtain ⟨e, polled, last⟩ := Option.map_eq_some_iff.mp ends
  obtain ⟨k, result, r, found, finished, reported, _, failed, _⟩ :=
    collection_tells_of_failure career member rfl polled
  have phase : k.phase = .failed "language server exited unexpectedly with code 1" := by
    simpa [firstPhase, found] using last
  exact ⟨_, c, _, e, k, result, r, career, member, rfl, polled, found, phase, finished, reported, failed _ phase⟩

/-- The connection is shut down while diagnostics are awaited, and the discovery succeeds without any. -/
theorem shutdown_passes_for_success : ¬ ∀ settings registry changes c tasks host t uri e k,
    Career settings registry changes c tasks → t ∈ c.tasks → t.stage = .collecting uri →
    c.pollTask host t = some e → e.connections[t.connection]? = some k →
    (∃ result ∈ e.finished, result.1 = t.ticket ∧ result.2.isBlank = true) → k.phase = .ready := by
  intro claim
  let events := collecting ++ cleaning
  have career : Career (.make "nim" "nim") .empty _ _ 2 :=
    Career.fresh.replay (by decide +kernel : (fresh (.make "nim" "nim") .empty).Allows 0 events)
  let c := ((fresh (.make "nim" "nim") .empty).replay 0 events).2.1
  have member : ⟨0, 0, .collecting "file:///a"⟩ ∈ c.tasks := by decide +kernel
  have ends : (c.pollTask .obliging ⟨0, 0, .collecting "file:///a"⟩).map
      (fun e => (e.firstPhase, e.finished.any fun result => result.1 = 0 && result.2.isBlank)) =
        some (some .closed, true) := by decide +kernel
  obtain ⟨e, polled, last⟩ := Option.map_eq_some_iff.mp ends
  obtain ⟨phase, blank⟩ := Prod.mk.inj last
  obtain ⟨k, found, closed⟩ := Option.map_eq_some_iff.mp phase
  have blank : ∃ result ∈ e.finished, result.1 = 0 ∧ result.2.isBlank = true := by simpa using blank
  cases closed.symm.trans (claim _ _ _ _ _ _ _ _ e k career member rfl polled found blank)

end Client

end BlockDiscovery.Session
