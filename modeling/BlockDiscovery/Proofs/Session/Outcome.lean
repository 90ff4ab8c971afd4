import BlockDiscovery.Proofs.Session.Farewell
import BlockDiscovery.Proofs.Session.Regular

/-! # How calls end

`Ends` lists what a call can come to, and what it leaves: a call that could not make the connection
ready leaves it ended, and one that could not bring a text was told that nobody takes items.  `Sound`
is what this rests on; every incident keeps it, if new calls have new tickets.
-/

namespace BlockDiscovery.Session

open BlockDiscovery.Json BlockDiscovery.Protocol BlockDiscovery.Config

/-- Whether an incident is none of the client's: the server does something, the writer does, or time
passes. -/
def Incident.isForeign (incident : Incident) : Bool :=
  incident.isOutside || match incident with
    | .takeItem | .dropWriter => true
    | _ => false

namespace Connection

variable {tasks : Nat} {c e : Connection} {u : Ticket} {stage : CallStage} {host : Host} {failure : Failure}

/-! ## Readiness -/

theorem checkReady_of_ready (ready : c.phase = .ready) : c.lifecycle.checkReady = .ok () := by
  rw [Lifecycle.checkReady, show c.lifecycle.phase = .ready from ready]
  rfl

theorem checkReady_of_unready (unready : c.phase ≠ .ready) : ∃ failure, c.lifecycle.checkReady = .error failure := by
  cases ready : c.lifecycle.checkReady with
  | ok => exact absurd (Coherent.checkReady_ok ready) unready
  | error failure => exact ⟨failure, rfl⟩

/-- A ready connection lets a text in, with its next version. -/
theorem syncDocument_of_ready (ready : c.phase = .ready) (u : Ticket) (uri text : String) :
    c.syncDocument u uri text =
      (({ c with documents := insertEntry uri (c.syncMessage uri text).2.1 c.documents }.dispatched
        (c.dispatcher.notify u (c.syncMessage uri text).2.2.1 (some (c.syncMessage uri text).2.2.2))).addCall u
          (.syncing (c.syncMessage uri text).1), none) := by
  rw [Connection.syncDocument, checkReady_of_ready ready]

/-- Who asks for readiness after the end is told of the end. -/
theorem isFatal_of_readiness {phase : Phase} (terminal : phase.isTerminal = true)
    (refused : phase.readiness = .error failure) : failure.isFatal = true := by
  cases phase with
  | closed | failed =>
    cases refused
    rfl
  | _ => cases terminal

/-! ## How a call ends -/

/-- A call that could not make the connection ready leaves it ended, and was told so unless the
handshake failed. -/
structure Unready (c : Connection) (failure : Failure) (e : Connection) : Prop where
  ended : e.phase.isTerminal = true
  cause : failure.isFatal = true ∨ c.phase.isTerminal = true ∨
    e.phase = .failed ("initialize failed: " ++ failure.message)

/-- How the call of a ticket can end, and what it leaves. -/
inductive Ends (c : Connection) (u : Ticket) : CallResult → Connection → Prop
  | ready (phase : c.phase = .ready) : Ends c u (.ready (.ok ())) (c.endCall u)
  | unready {failure : Failure} {e : Connection} (unready : Unready c failure e) :
      Ends c u (.ready (.error failure)) e
  | synced (kind : DocumentSync) (e : Connection) : Ends c u (.synced (.ok kind)) e
  | unsynced {e : Connection} (phase : e.phase = c.phase) (shut : e.dispatcher.channel.isOpen = false) :
      Ends c u (.synced (.error .writerClosed)) e
  | stopped (e : Connection) : Ends c u .stopped e

/-- A handshake that fails ends the connection, if that has not ended before. -/
theorem handshakeFailed_unready (failure : Failure) (begun : c.phase = .initializing ∨ c.phase.isTerminal = true) :
    Unready c failure (c.handshakeFailed u failure).1 := by
  let reason := "initialize failed: " ++ failure.message
  have ends : (c.handshakeFailed u failure).1.phase = (c.failWith reason (.connectionFailed reason)).phase :=
    ((releaseServer_keeps _).trans (leave_keeps _ u)).phase
  have fails : c.failWith reason (.connectionFailed reason) =
      if (c.move (.failed reason)).1 then (c.move (.failed reason)).2.abandon reason (.connectionFailed reason)
      else (c.move (.failed reason)).2 := rfl
  obtain initializing | terminal := begun
  · have allowed : c.phase.allows (.failed reason) = true := by
      rw [initializing]
      rfl
    have phase : (c.handshakeFailed u failure).1.phase = .failed reason := by
      rw [ends, fails, move_of_allows allowed]
      rfl
    exact ⟨phase ▸ rfl, .inr (.inr phase)⟩
  · have phase : (c.handshakeFailed u failure).1.phase = c.phase := by
      rw [ends, fails, move_of_refused (Phase.not_allows_of_isTerminal terminal)]
      rfl
    exact ⟨phase ▸ terminal, .inr (.inl terminal)⟩

theorem Unready.before {d : Connection} (unready : Unready c failure e) (phase : c.phase = d.phase) :
    Unready d failure e :=
  ⟨unready.ended, phase ▸ unready.cause⟩

/-- A connection that was alive when its handshake failed has failed for that. -/
theorem Unready.of_alive {d : Connection} (unready : Unready c failure e) (alive : c.phase.isTerminal = false) :
    Unready d failure e :=
  ⟨unready.ended, unready.cause.imp_right fun cause => .inr (cause.resolve_left (by rw [alive]; exact nofun))⟩

section Ends

variable {result : CallResult}

theorem beginHandshake_ends (phase : c.phase = .initializing) (ends : c.beginHandshake host u = (e, some result)) :
    ∃ failure, result = .ready (.error failure) ∧ Unready c failure e := by
  rw [beginHandshake] at ends
  split at ends
  · next failure _ =>
    cases ends
    exact ⟨failure, rfl, handshakeFailed_unready failure (.inl phase)⟩
  · cases ends

theorem start_ends (fresh : c.phase = .uninitialized) (ends : c.start host u = (e, some result)) :
    ∃ failure, result = .ready (.error failure) ∧ Unready c failure e := by
  have allowed : ({ c with session := .finished } : Connection).phase.allows .starting = true := by
    change c.phase.allows .starting = true
    rw [fresh]
    rfl
  rw [start, move_of_allows allowed] at ends
  dsimp only at ends
  split at ends
  · rw [move_of_allows rfl] at ends
    cases ends
    exact ⟨_, rfl, rfl, .inl rfl⟩
  · rw [move_of_allows rfl] at ends
    obtain ⟨failure, same, unready⟩ := beginHandshake_ends rfl ends
    exact ⟨failure, same, unready.of_alive rfl⟩

theorem takeTurn_ends (coherent : c.Coherent) (ends : c.takeTurn host u = (e, some result)) :
    ∃ failure, result = .ready (.error failure) ∧ Unready c failure e := by
  rw [takeTurn] at ends
  split at ends
  · next idle => exact start_ends (coherent.idle idle) ends
  · cases ends

theorem finishHandshake_ends (begun : c.phase = .initializing ∨ c.phase.isTerminal = true)
    (ends : c.finishHandshake u = (e, some result)) :
    ∃ failure, result = .ready (.error failure) ∧ Unready c failure e := by
  rw [finishHandshake] at ends
  cases allowed : c.phase.allows .ready with
  | true =>
    rw [move_of_allows allowed] at ends
    cases ends
  | false =>
    have terminal : c.phase.isTerminal = true := begun.resolve_left fun initializing => by
      rw [initializing] at allowed
      cases allowed
    rw [move_of_refused allowed] at ends
    dsimp only at ends
    cases refused : c.lifecycle.checkReady with
    | ok =>
      rw [refused] at ends
      cases ends
    | error failure =>
      rw [refused] at ends
      cases ends
      have phase := (c.releaseServer_keeps.trans (leave_keeps _ u)).phase
      exact ⟨failure, rfl, (congrArg Phase.isTerminal phase).trans terminal,
        .inl (isFatal_of_readiness terminal refused)⟩

theorem beginShutdown_ends (ends : c.beginShutdown u = (e, some result)) : result = .stopped := by
  rw [beginShutdown] at ends
  split at ends
  · dsimp only at ends
    split at ends <;> cases ends
  · cases ends
    rfl
  · cases ends
    rfl

/-- A failure that is no answer to a request means that nobody takes items. -/
theorem Free.taken (free : Free u c) (taken : c.takeOutcome u = some (.error failure, e)) :
    failure = .writerClosed ∧ e.dispatcher.channel.isOpen = false := by
  obtain ⟨d, found, same⟩ := Option.map_eq_some_iff.mp taken
  have own : d.ticket = u := by simpa using List.find?_some found
  have plain := free.outcome d (List.mem_of_find?_eq_some found) own
  obtain ⟨fails, rfl⟩ := Prod.mk.inj same
  exact plain.eq_writerClosed fails

/-- What a call comes to, whatever it waited for. -/
theorem Regular.ends (h : Regular tasks c) (coherent : c.Coherent) (stands : (u, stage) ∈ c.calls)
    (polled : c.pollStage host u stage = some (e, some result)) : Ends c u result e := by
  have begun (shakes : stage.shakes = true) : c.phase = .initializing ∨ c.phase.isTerminal = true := by
    obtain ⟨_, one⟩ := h.shaking
    exact (one _ stands shakes).2
  have refused (ends : ∃ failure, result = .ready (.error failure) ∧ Unready c failure e) : Ends c u result e := by
    obtain ⟨_, rfl, unready⟩ := ends
    exact .unready unready
  cases stage with
  | queuing =>
    obtain ⟨_, same⟩ := Option.ite_none_right_eq_some.mp polled
    exact refused (takeTurn_ends coherent (Option.some.inj same))
  | closingQueue =>
    obtain ⟨_, same⟩ := Option.ite_none_right_eq_some.mp polled
    obtain rfl := beginShutdown_ends (Option.some.inj same)
    exact .stopped e
  | handshaking =>
    obtain ⟨⟨outcome, d⟩, taken, same⟩ := Option.map_eq_some_iff.mp polled
    have phase := (c.takeOutcome_keeps u taken).phase
    cases outcome with
    | error failure =>
      cases same
      exact .unready ((handshakeFailed_unready failure (phase ▸ begun rfl)).before phase)
    | ok => cases same
  | announcing =>
    obtain ⟨⟨outcome, d⟩, taken, same⟩ := Option.map_eq_some_iff.mp polled
    have phase := (c.takeOutcome_keeps u taken).phase
    cases outcome with
    | error failure =>
      cases same
      exact .unready ((handshakeFailed_unready failure (phase ▸ begun rfl)).before phase)
    | ok =>
      obtain ⟨failure, rfl, unready⟩ := finishHandshake_ends (phase ▸ begun rfl) same
      exact .unready (unready.before phase)
  | awaitingReady =>
    obtain ⟨settled, same⟩ := Option.ite_none_right_eq_some.mp polled
    cases same
    cases ready : c.lifecycle.checkReady with
    | ok => exact .ready (Coherent.checkReady_ok ready)
    | error failure =>
      have unready : c.phase ≠ .ready := fun phase => by cases (checkReady_of_ready phase).symm.trans ready
      have terminal : c.phase.isTerminal = true := by simpa [Phase.isSettled, unready] using settled
      exact .unready ⟨terminal, .inl (isFatal_of_readiness terminal ready)⟩
  | syncing kind =>
    obtain ⟨⟨outcome, d⟩, taken, same⟩ := Option.map_eq_some_iff.mp polled
    cases same
    cases outcome with
    | ok => exact .synced kind _
    | error failure =>
      obtain ⟨rfl, shut⟩ := (h.free_of_stage stands rfl).taken taken
      exact .unsynced (c.takeOutcome_keeps u taken).phase shut
  | requestingShutdown | announcingExit | closingInput =>
    obtain ⟨⟨outcome, d⟩, _, same⟩ := Option.map_eq_some_iff.mp polled
    cases same
  | awaitingWriter deadline =>
    obtain ⟨_, same⟩ := Option.ite_none_right_eq_some.mp polled
    cases same
  | awaitingExit deadline =>
    rw [Connection.pollStage] at polled
    split at polled
    · cases polled
      exact .stopped _
    · obtain ⟨_, same⟩ := Option.ite_none_right_eq_some.mp polled
      cases same
  | awaitingKill =>
    obtain ⟨_, same⟩ := Option.ite_none_right_eq_some.mp polled
    cases same
    exact .stopped _

end Ends

/-! ## Soundness -/

/-- What the connections of a client are that has given so many tickets. -/
structure Sound (tasks : Nat) (c : Connection) : Prop where
  coherent : c.Coherent
  regular : Regular tasks c

namespace Sound

theorem mono {more : Nat} (h : Sound tasks c) (le : tasks ≤ more) : Sound more c := ⟨h.coherent, h.regular.mono le⟩

theorem rests (h : Sound tasks c) (incident : Incident) (rests : Rests c (c.undergo incident).1) :
    Sound tasks (c.undergo incident).1 :=
  ⟨(h.coherent.undergo incident).coherent, h.regular.rests rests⟩

theorem joins (h : Sound tasks c) (incident : Incident)
    (asks : incident = .ensureReady tasks ∨ incident = .shutdown tasks) :
    Sound (tasks + 1) (c.undergo incident).1 := by
  refine ⟨(h.coherent.undergo incident).coherent, ?_⟩
  obtain rfl | rfl := asks
  · exact h.regular.joins (rfl : CallStage.queues .queuing = true) rfl rfl rfl rfl
  · exact h.regular.joins (rfl : CallStage.queues .closingQueue = true) rfl rfl rfl rfl

theorem poll (h : Sound tasks c) {out : Connection × Option CallResult} (polled : c.poll host u = some out) :
    Sound tasks out.1 := by
  have coherent := (h.coherent.undergo (.poll host u)).coherent
  rw [undergo, polled] at coherent
  exact ⟨coherent, h.regular.poll h.coherent polled⟩

theorem syncDocument (h : Sound tasks c) (given : u < tasks) (idle : u ∉ c.calls.map Prod.fst) (uri text : String) :
    Sound tasks (c.syncDocument u uri text).1 :=
  ⟨(h.coherent.undergo (.syncDocument u uri text)).coherent, h.regular.syncDocument given idle uri text⟩

/-- Watches are no affair of calls. -/
theorem watch (h : Sound tasks c) (u : Ticket) (uri : String) : Sound tasks (c.watch u uri) :=
  h.rests (.watch u uri) (rests_of_same rfl (.inl rfl) rfl (List.Subset.refl _))

theorem unwatch (h : Sound tasks c) (u : Ticket) : Sound tasks (c.unwatch u) :=
  h.rests (.unwatch u) (rests_of_same rfl (.inl rfl) rfl (List.Subset.refl _))

theorem collect (h : Sound tasks c) (u : Ticket) : Sound tasks (c.collect u) :=
  h.rests (.collect u) (rests_of_same rfl (.inl rfl) rfl (List.Subset.refl _))

theorem takeCollected (h : Sound tasks c) {diagnostics : List Protocol.Diagnostic}
    (taken : c.takeCollected u = some (diagnostics, e)) : Sound tasks e := by
  obtain ⟨_, _, same⟩ := Option.map_eq_some_iff.mp taken
  cases same
  have keeps : Keeps c { c with collected := c.collected.filter fun d => d.ticket ≠ u } :=
    ⟨rfl, rfl, .refl _, .refl _, id⟩
  exact ⟨keeps.coherent h.coherent, h.regular.rests (rests_of_same rfl (.inl rfl) rfl (List.Subset.refl _))⟩

theorem releaseServer (h : Sound tasks c) : Sound tasks c.releaseServer := h.rests .releaseServer c.releaseServer_rests

theorem advanceTo (h : Sound tasks c) (time : Nat) : Sound tasks (c.advanceTo time) :=
  ⟨(h.coherent.advanceTo time).coherent, h.regular.rests (c.advanceTo_rests time)⟩

/-- Whatever the server and the writer do, the connection stays sound. -/
theorem undergo (h : Sound tasks c) {incident : Incident} (foreign : incident.isForeign = true) :
    Sound tasks (c.undergo incident).1 := by
  refine h.rests incident ?_
  cases incident with
  | exited code => exact (c.withServer_rests _).trans (failUnexpectedly_rests _ _ _)
  | outputEnded => exact c.withServer_rests _
  | resumeReader => exact c.resumeReader_rests
  | read bytes => exact c.read_rests bytes
  | readFailed failure => exact c.readFailed_rests failure
  | advance milliseconds => exact c.advanceTo_rests _
  | takeItem => exact c.takeItem_rests
  | dropWriter => exact c.dropWriter_rests
  | _ => cases foreign

end Sound

end Connection

end BlockDiscovery.Session
