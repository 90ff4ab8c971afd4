import BlockDiscovery.Proofs.Session.Outcome
import BlockDiscovery.Proofs.Session.Progression

/-! # How a connection advances

The phase of a connection only goes forward, and a connection parts from its server in peace only if it
was asked to.
-/

namespace BlockDiscovery.Session

open BlockDiscovery.Json BlockDiscovery.Protocol BlockDiscovery.Config

namespace Phase

variable {p : Phase}

/-- Whether a connection parts from its server in peace. -/
def isParting : Phase → Bool
  | .shuttingDown | .closed => true
  | _ => false

theorem ready_or_ending (late : Phase.ready.rank ≤ p.rank) : p = .ready ∨ p.isEnding = true := by
  cases p <;> simp_all [rank, isEnding, isTerminal]

theorem ready_or_failed (late : Phase.ready.rank ≤ p.rank) (stays : p.isParting = false) :
    p = .ready ∨ ∃ reason, p = .failed reason := by
  cases p <;> simp_all [rank, isParting]

end Phase

/-- Whether a call at this stage shuts the connection down, or waits to. -/
def CallStage.parts : CallStage → Bool
  | .closingQueue => true
  | stage => stage.isClosing

namespace Connection

variable {c e f : Connection} {u : Ticket} {stage : CallStage} {host : Host}

/-- A connection is parting from its server, or was asked to. -/
def Parting (c : Connection) : Prop := c.phase.isParting = true ∨ ∃ call ∈ c.calls, call.2.parts = true

/-- The phase goes forward, and nobody asks for a shutdown. -/
structure Advances (c e : Connection) : Prop where
  rank : c.phase.rank ≤ e.phase.rank
  parting : e.Parting → c.Parting

theorem Advances.trans (first : Advances c e) (second : Advances e f) : Advances c f :=
  ⟨first.rank.trans second.rank, first.parting ∘ second.parting⟩

theorem advances_of_calls (phase : e.phase = c.phase)
    (calls : ∀ call ∈ e.calls, call ∈ c.calls ∨ call.2.parts = false) : Advances c e where
  rank := by rw [phase]
  parting := by
    rintro (parting | ⟨call, member, parts⟩)
    · exact .inl (phase ▸ parting)
    · obtain old | stays := calls call member
      · exact .inr ⟨call, old, parts⟩
      · cases stays.symm.trans parts

theorem Advances.refl (c : Connection) : Advances c c := advances_of_calls rfl fun _ => .inl

theorem advances_of_keeps (keeps : Keeps c e) (rests : Rests c e) : Advances c e :=
  advances_of_calls keeps.phase fun _ member => .inl (rests.calls ▸ member)

/-- A call goes on. -/
theorem advances_of_setStage (u : Ticket) (stage : CallStage) (phase : e.phase = c.phase)
    (calls : e.calls = (c.setStage u stage).calls) (stays : stage.parts = false) : Advances c e := by
  refine advances_of_calls phase fun call member => ?_
  rw [calls] at member
  obtain ⟨old, inside, rfl⟩ := List.mem_map.mp member
  split
  · exact .inr stays
  · exact .inl inside

/-- A call ends. -/
theorem advances_of_endCall (u : Ticket) (phase : e.phase = c.phase) (calls : e.calls = (c.endCall u).calls) :
    Advances c e := by
  refine advances_of_calls phase fun call member => .inl ?_
  rw [calls] at member
  exact (List.mem_filter.mp member).1

/-- A call begins. -/
theorem advances_of_addCall (u : Ticket) (stage : CallStage) (phase : e.phase = c.phase)
    (calls : e.calls = (c.addCall u stage).calls) (stays : stage.parts = false) : Advances c e := by
  refine advances_of_calls phase fun call member => ?_
  rw [calls] at member
  obtain old | new := List.mem_append.mp member
  · exact .inl old
  · exact .inr (by rw [List.mem_singleton.mp new]; exact stays)

section Advances

variable (c)

theorem move_advances {next : Phase} (stays : next.isParting = false) : Advances c (c.move next).2 := by
  cases allowed : c.phase.allows next with
  | false =>
    rw [move_of_refused allowed]
    exact .refl c
  | true =>
    rw [move_of_allows allowed]
    refine ⟨(Phase.rank_lt_of_allows allowed).le, ?_⟩
    rintro (parting | asked)
    · cases stays.symm.trans parting
    · exact .inr asked

theorem failWith_advances (reason : String) (failure : Failure) : Advances c (c.failWith reason failure) := by
  have moved : Advances c (c.move (.failed reason)).2 := c.move_advances rfl
  have fails : c.failWith reason failure =
      if (c.move (.failed reason)).1 then (c.move (.failed reason)).2.abandon reason failure
      else (c.move (.failed reason)).2 := rfl
  rw [fails]
  split
  · exact moved.trans (advances_of_calls rfl fun _ => .inl)
  · exact moved

theorem failUnexpectedly_advances (reason : String) (failure : Failure) :
    Advances c (c.failUnexpectedly reason failure) := by
  rw [failUnexpectedly_eq]
  split
  · exact .refl c
  · exact c.failWith_advances reason failure

theorem withServer_advances (change : ServerHandle → ServerHandle) : Advances c (c.withServer change) :=
  advances_of_calls rfl fun _ => .inl

theorem resumeReader_advances : Advances c c.resumeReader := by
  rw [resumeReader]
  split
  · split
    · exact (c.withServer_advances _).trans (failUnexpectedly_advances _ _ _)
    · split
      · exact (c.withServer_advances _).trans (failUnexpectedly_advances _ _ _)
      · exact .refl c
    · exact .refl c
  · exact .refl c

theorem readFailed_advances (failure : Failure) : Advances c (c.readFailed failure) :=
  (c.withServer_advances _).trans (failWith_advances _ _ _)

theorem read_advances (bytes : ByteArray) : Advances c (c.read bytes) := by
  have decoded (decoder : Framing.FrameDecoder) : Advances c { c with decoder } :=
    advances_of_calls rfl fun _ => .inl
  rw [read]
  split
  · exact (decoded _).trans (advances_of_keeps (foldl_receive_keeps _ _) (foldl_receive_rests _ _))
  · exact (decoded _).trans (readFailed_advances _ _)

theorem advanceTo_advances (time : Nat) : Advances c (c.advanceTo time) := by
  have later : Advances c ((c.dispatched (c.dispatcher.advanceTo time)).routed (c.router.advanceTo time)) :=
    advances_of_calls rfl fun _ => .inl
  exact later.trans (resumeReader_advances _)

theorem releaseServer_advances : Advances c c.releaseServer :=
  advances_of_keeps c.releaseServer_keeps c.releaseServer_rests

/-! ## Calls that make ready -/

theorem handshakeFailed_advances (failure : Failure) : Advances c (c.handshakeFailed u failure).1 :=
  ((c.failWith_advances _ _).trans (releaseServer_advances _)).trans (advances_of_endCall u rfl rfl)

theorem beginHandshake_advances : Advances c (c.beginHandshake host u).1 := by
  rw [beginHandshake]
  split
  · exact c.handshakeFailed_advances _
  · exact advances_of_setStage u .handshaking rfl rfl rfl

theorem start_advances : Advances c (c.start host u).1 := by
  let finished : Connection := { c with session := .finished }
  let starting : Connection := (finished.move .starting).2
  have taken : Advances c finished := advances_of_calls rfl fun _ => .inl
  have begun : Advances c starting := taken.trans (move_advances _ rfl)
  rw [start]
  dsimp only
  split
  · next reason _ =>
    have failed : Advances c (starting.move (.failed (Failure.spawn c.settings.command reason).message)).2 :=
      begun.trans (move_advances _ rfl)
    exact failed.trans (advances_of_endCall u rfl rfl)
  · have launched : Advances c { starting with server := some .fresh } :=
      begun.trans (advances_of_calls rfl fun _ => .inl)
    exact (launched.trans (move_advances _ rfl)).trans (beginHandshake_advances _)

theorem takeTurn_advances : Advances c (c.takeTurn host u).1 := by
  rw [takeTurn]
  split
  · exact c.start_advances
  · exact advances_of_setStage u .awaitingReady rfl rfl rfl

theorem finishHandshake_advances : Advances c (c.finishHandshake u).1 := by
  have moved : Advances c (c.move .ready).2 := c.move_advances rfl
  rw [finishHandshake]
  dsimp only
  split
  · exact (moved.trans (releaseServer_advances _)).trans (advances_of_endCall u rfl rfl)
  · exact moved.trans (advances_of_setStage u .awaitingReady rfl rfl rfl)

/-! ## Calls that shut down -/

theorem move_rank (next : Phase) : c.phase.rank ≤ (c.move next).2.phase.rank := by
  cases allowed : c.phase.allows next with
  | false => rw [move_of_refused allowed]
  | true =>
    rw [move_of_allows allowed]
    exact (Phase.rank_lt_of_allows allowed).le

theorem finishShutdown_rank : c.phase.rank ≤ (c.finishShutdown u).1.phase.rank := by
  have moved : c.phase.rank ≤ (c.releaseServer.move .closed).2.phase.rank :=
    c.releaseServer_advances.rank.trans (move_rank _ _)
  rw [finishShutdown]
  dsimp only
  split <;> exact moved

theorem beginShutdown_rank : c.phase.rank ≤ (c.beginShutdown u).1.phase.rank := by
  rw [beginShutdown]
  split
  · have moved := move_rank { c with session := .finished } .shuttingDown
    dsimp only
    split <;> exact moved
  · exact finishShutdown_rank { c.dropWriter with session := .finished }
  · exact c.finishShutdown_rank

/-- Whoever shuts down was asked to. -/
theorem advances_of_parts (stands : c.stage? u = some stage) (parts : stage.parts = true)
    (rank : c.phase.rank ≤ e.phase.rank) : Advances c e :=
  ⟨rank, fun _ => .inr ⟨(u, stage), Regular.mem_of_stage? stands, parts⟩⟩

theorem takeOutcome_advances {outcome : Outcome} (taken : c.takeOutcome u = some (outcome, e)) : Advances c e :=
  advances_of_keeps (c.takeOutcome_keeps u taken) (c.takeOutcome_rests taken)

theorem pollStage_advances (stands : c.stage? u = some stage) {out : Connection × Option CallResult}
    (polled : c.pollStage host u stage = some out) : Advances c out.1 := by
  cases stage with
  | queuing =>
    obtain ⟨_, same⟩ := Option.ite_none_right_eq_some.mp polled
    cases same
    exact c.takeTurn_advances
  | handshaking =>
    obtain ⟨⟨outcome, e⟩, taken, rfl⟩ := Option.map_eq_some_iff.mp polled
    have takes := c.takeOutcome_advances taken
    cases outcome with
    | error failure => exact takes.trans (handshakeFailed_advances _ failure)
    | ok => exact takes.trans (advances_of_setStage u .announcing rfl rfl rfl)
  | announcing =>
    obtain ⟨⟨outcome, e⟩, taken, rfl⟩ := Option.map_eq_some_iff.mp polled
    have takes := c.takeOutcome_advances taken
    cases outcome with
    | error failure => exact takes.trans (handshakeFailed_advances _ failure)
    | ok => exact takes.trans (finishHandshake_advances _)
  | awaitingReady =>
    obtain ⟨_, same⟩ := Option.ite_none_right_eq_some.mp polled
    cases same
    exact advances_of_endCall u rfl rfl
  | syncing kind =>
    obtain ⟨⟨outcome, e⟩, taken, rfl⟩ := Option.map_eq_some_iff.mp polled
    exact (c.takeOutcome_advances taken).trans (advances_of_endCall u rfl rfl)
  | closingQueue =>
    obtain ⟨_, same⟩ := Option.ite_none_right_eq_some.mp polled
    cases same
    exact c.advances_of_parts stands rfl c.beginShutdown_rank
  | requestingShutdown | announcingExit | closingInput =>
    obtain ⟨⟨outcome, e⟩, taken, rfl⟩ := Option.map_eq_some_iff.mp polled
    exact c.advances_of_parts stands rfl (c.takeOutcome_advances taken).rank
  | awaitingWriter deadline =>
    obtain ⟨_, same⟩ := Option.ite_none_right_eq_some.mp polled
    cases same
    exact c.advances_of_parts stands rfl le_rfl
  | awaitingExit deadline =>
    rw [pollStage] at polled
    split at polled
    · cases polled
      exact c.advances_of_parts stands rfl c.finishShutdown_rank
    · obtain ⟨_, same⟩ := Option.ite_none_right_eq_some.mp polled
      cases same
      exact c.advances_of_parts stands rfl le_rfl
  | awaitingKill =>
    obtain ⟨_, same⟩ := Option.ite_none_right_eq_some.mp polled
    cases same
    exact c.advances_of_parts stands rfl c.finishShutdown_rank

end Advances

/-- Only a shutdown that is asked for makes a connection part. -/
theorem undergo_advances (c : Connection) {incident : Incident} (stays : ∀ u, incident ≠ .shutdown u) :
    Advances c (c.undergo incident).1 := by
  cases incident with
  | shutdown u => exact absurd rfl (stays u)
  | ensureReady u => exact advances_of_addCall u .queuing rfl rfl rfl
  | syncDocument u uri text =>
    by_cases ready : c.phase = .ready
    · rw [undergo, syncDocument_of_ready ready]
      exact advances_of_addCall u (.syncing _) rfl rfl rfl
    · obtain ⟨failure, refused⟩ := checkReady_of_unready ready
      rw [undergo, syncDocument, refused]
      exact .refl c
  | cancelSync u =>
    rw [undergo]
    split
    · exact advances_of_endCall u rfl rfl
    · exact .refl c
  | poll host u =>
    rw [undergo]
    cases polled : c.poll host u with
    | none => exact .refl c
    | some out =>
      obtain ⟨stage, stands, goes⟩ := Option.bind_eq_some_iff.mp polled
      exact c.pollStage_advances stands goes
  | exited code => exact (c.withServer_advances _).trans (failUnexpectedly_advances _ _ _)
  | outputEnded => exact c.withServer_advances _
  | resumeReader => exact c.resumeReader_advances
  | read bytes => exact c.read_advances bytes
  | readFailed failure => exact c.readFailed_advances failure
  | takeItem => exact advances_of_keeps c.takeItem_keeps c.takeItem_rests
  | dropWriter => exact advances_of_keeps c.dropWriter_keeps c.dropWriter_rests
  | releaseServer => exact c.releaseServer_advances
  | advance milliseconds => exact c.advanceTo_advances _
  | watch | unwatch | collect => exact advances_of_calls rfl fun _ => .inl
  | takeCollected u =>
    rw [undergo]
    cases taken : c.takeCollected u with
    | none => exact .refl c
    | some =>
      obtain ⟨_, _, rfl⟩ := Option.map_eq_some_iff.mp taken
      exact advances_of_calls rfl fun _ => .inl

theorem undergo_rank (c : Connection) (incident : Incident) : c.phase.rank ≤ (c.undergo incident).1.phase.rank := by
  by_cases shuts : ∃ u, incident = .shutdown u
  · obtain ⟨u, rfl⟩ := shuts
    exact le_rfl
  · exact (c.undergo_advances fun u same => shuts ⟨u, same⟩).rank

theorem course_rank (c : Connection) (incidents : List Incident) :
    c.phase.rank ≤ (c.course incidents).2.phase.rank := by
  induction incidents generalizing c with
  | nil => exact le_rfl
  | cons incident incidents ih => exact (c.undergo_rank incident).trans (ih _)

end Connection

theorem Course.asked {settings : ServerSettings} {clock : Nat} {steps : List Step} {c : Connection}
    (course : Course settings clock steps c) (parting : c.Parting) : ∃ s ∈ steps, ∃ u, s.incident = .shutdown u := by
  induction course with
  | start => simp [Connection.Parting, Connection.fresh, Connection.phase, Lifecycle.fresh, Phase.isParting] at parting
  | @step steps c incident _ ih =>
    by_cases shuts : ∃ u, incident = .shutdown u
    · exact ⟨_, List.mem_append_right _ (List.mem_singleton_self _), shuts⟩
    · have before := (c.undergo_advances fun u same => shuts ⟨u, same⟩).parting parting
      obtain ⟨s, member, asks⟩ := ih before
      exact ⟨s, List.mem_append_left _ member, asks⟩

end BlockDiscovery.Session
