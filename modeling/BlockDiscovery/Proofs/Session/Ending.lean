import BlockDiscovery.Proofs.Session.Course
import BlockDiscovery.Proofs.Session.Refusal
import BlockDiscovery.Proofs.Session.Rejection

/-! # The end of a connection

A connection can end in many ways: the server cannot be started, the handshake fails, the process
exits, its output ends or cannot be read, or it is shut down.  Whichever comes first decides: the
phase, the dispatcher and the router end together, and nothing that happens later changes that.

`Coherent` is what every incident keeps.  Most of what happens to a connection leaves alone what
that is about, which is what `Keeps` says.
-/

namespace BlockDiscovery.Session

open BlockDiscovery.Json BlockDiscovery.Protocol BlockDiscovery.Config

/-! ## Phases -/

namespace Phase

variable {p q : Phase}

/-- Whether a connection is being shut down or has ended. -/
def isEnding (p : Phase) : Bool := p = .shuttingDown || p.isTerminal

theorem isEnding_of_isTerminal (terminal : p.isTerminal = true) : p.isEnding = true := by
  simp [isEnding, terminal]

theorem not_allows_of_isTerminal (terminal : p.isTerminal = true) : p.allows q = false := by
  cases p <;> cases q <;> simp_all [isTerminal, allows, isLive]

theorem alive_of_allows (allowed : p.allows q = true) : p.isTerminal = false := by
  by_contra ended
  cases (not_allows_of_isTerminal (Bool.of_not_eq_false ended)).symm.trans allowed

/-- Only a connection that was started can fail. -/
theorem started_of_allows_failed {reason : String} (allowed : p.allows (.failed reason) = true) :
    p ≠ .uninitialized := by
  rintro rfl
  cases allowed

theorem eq_initializing_of_allows_ready (allowed : p.allows .ready = true) : p = .initializing := by
  cases p with
  | initializing => rfl
  | _ => cases allowed

theorem allows_shuttingDown_iff : p.allows .shuttingDown = true ↔ p = .ready := by
  cases p <;> simp [allows]

theorem allows_closed (p : Phase) : p.allows .closed = true ∨ p = .ready ∨ p.isTerminal = true := by
  cases p <;> simp [isTerminal, allows]

end Phase

/-- Whether a call at this stage has begun to shut down the server. -/
def CallStage.isClosing : CallStage → Bool
  | .requestingShutdown | .announcingExit | .closingInput | .awaitingWriter _ | .awaitingExit _
  | .awaitingKill => true
  | _ => false

namespace Connection

variable {c e f : Connection}

/-! ## What belongs together -/

/-- Every shutdown that has begun shows in the phase. -/
def ClosesOpenly (c : Connection) : Prop :=
  ∀ call ∈ c.calls, call.2.isClosing = true → c.phase.isEnding = true

/-- The phase, the dispatcher and the router agree on whether the connection has ended, and the
phase agrees with who holds the server. -/
structure Coherent (c : Connection) : Prop where
  refuses : c.dispatcher.refusal.isSome = c.phase.isTerminal
  reason : ∀ reason, c.phase = .failed reason → c.dispatcher.refusal = some reason
  table : c.phase.isTerminal = true → c.dispatcher.pending = []
  closed : c.router.closed = c.phase.isTerminal
  slots : c.phase.isTerminal = true → c.router.slots = []
  idle : c.session = .idle → c.phase = .uninitialized
  ready : c.phase = .ready → c.session = .running
  running : c.session = .running → c.phase = .ready ∨ c.phase.isEnding = true
  closing : c.ClosesOpenly

theorem coherent_fresh (settings : ServerSettings) (clock : Nat) : Coherent (.fresh settings clock) where
  refuses := rfl
  reason _ failed := by cases failed
  table terminal := by cases terminal
  closed := rfl
  slots terminal := by cases terminal
  idle _ := rfl
  ready phase := by cases phase
  running session := by cases session
  closing := List.forall_mem_nil _

/-! ## What leaves the end alone -/

/-- Nothing that an end is about changes from one connection to the next. -/
structure Keeps (c e : Connection) : Prop where
  lifecycle : e.lifecycle = c.lifecycle
  session : e.session = c.session
  dispatcher : c.dispatcher.Keeps e.dispatcher
  router : c.router.Keeps e.router
  closing : c.ClosesOpenly → e.ClosesOpenly

theorem Keeps.refl (c : Connection) : Keeps c c := ⟨rfl, rfl, .refl _, .refl _, id⟩

theorem Keeps.trans (first : Keeps c e) (second : Keeps e f) : Keeps c f where
  lifecycle := second.lifecycle.trans first.lifecycle
  session := second.session.trans first.session
  dispatcher := first.dispatcher.trans second.dispatcher
  router := first.router.trans second.router
  closing := second.closing ∘ first.closing

theorem Keeps.phase (keeps : Keeps c e) : e.phase = c.phase := congrArg Lifecycle.phase keeps.lifecycle

theorem Keeps.coherent (keeps : Keeps c e) (h : Coherent c) : Coherent e where
  refuses := by rw [keeps.phase, keeps.dispatcher.refusal, h.refuses]
  reason := by
    rw [keeps.phase, keeps.dispatcher.refusal]
    exact h.reason
  table terminal := by
    rw [keeps.phase] at terminal
    have fewer := keeps.dispatcher.table (h.refuses.trans terminal)
    rw [h.table terminal] at fewer
    exact List.eq_nil_of_subset_nil fewer
  closed := by rw [keeps.phase, keeps.router.closed, h.closed]
  slots terminal := by
    rw [keeps.phase] at terminal
    exact keeps.router.slots (h.closed.trans terminal) (h.slots terminal)
  idle := by
    rw [keeps.phase, keeps.session]
    exact h.idle
  ready := by
    rw [keeps.phase, keeps.session]
    exact h.ready
  running := by
    rw [keeps.phase, keeps.session]
    exact h.running
  closing := keeps.closing h.closing

section Keeps

variable (c) (ticket : Ticket)

theorem dispatched_keeps {result : Dispatcher × List Completion} (keeps : c.dispatcher.Keeps result.1) :
    Keeps c (c.dispatched result) :=
  ⟨rfl, rfl, keeps, .refl _, id⟩

theorem routed_keeps {result : Router × List Collected} (keeps : c.router.Keeps result.1) :
    Keeps c (c.routed result) :=
  ⟨rfl, rfl, .refl _, keeps, id⟩

theorem server_keeps (server : Option ServerHandle) : Keeps c { c with server } :=
  ⟨rfl, rfl, .refl _, .refl _, id⟩

theorem withServer_keeps (change : ServerHandle → ServerHandle) : Keeps c (c.withServer change) :=
  c.server_keeps (c.server.map change)

theorem dropWriter_keeps : Keeps c c.dropWriter :=
  (c.dispatched_keeps (Dispatcher.dropWriter_keeps _)).trans (withServer_keeps _ _)

theorem releaseServer_keeps : Keeps c c.releaseServer := by
  rw [releaseServer]
  split
  · exact .refl c
  · exact c.dropWriter_keeps.trans (withServer_keeps _ _)

theorem addCall_keeps {stage : CallStage} (opens : stage.isClosing = false) :
    Keeps c (c.addCall ticket stage) := by
  refine ⟨rfl, rfl, .refl _, .refl _, fun closes call member closing => ?_⟩
  obtain old | new := List.mem_append.mp member
  · exact closes call old closing
  · rw [List.mem_singleton.mp new, opens] at closing
    cases closing

theorem setStage_keeps {stage : CallStage} (openly : stage.isClosing = true → c.phase.isEnding = true) :
    Keeps c (c.setStage ticket stage) := by
  refine ⟨rfl, rfl, .refl _, .refl _, fun closes call member closing => ?_⟩
  obtain ⟨old, inside, rfl⟩ := List.mem_map.mp member
  split at closing
  · exact openly closing
  · exact closes old inside closing

/-- A call asks the dispatcher for something and waits for the answer. -/
theorem asks_keeps {result : Dispatcher × List Completion} (keeps : c.dispatcher.Keeps result.1)
    {stage : CallStage} (openly : stage.isClosing = true → c.phase.isEnding = true) :
    Keeps c ((c.dispatched result).setStage ticket stage) :=
  (c.dispatched_keeps keeps).trans (setStage_keeps _ ticket openly)

/-- Calls that end do no harm. -/
theorem filter_calls_keeps {keep : Ticket × CallStage → Bool} : Keeps c { c with calls := c.calls.filter keep } :=
  ⟨rfl, rfl, .refl _, .refl _, fun closes call member => closes call (List.mem_filter.mp member).1⟩

theorem lock_keeps (lock : List Ticket) : Keeps c { c with lock } := ⟨rfl, rfl, .refl _, .refl _, id⟩

theorem unlock_keeps : Keeps c (c.unlock ticket) := c.lock_keeps _

theorem leave_keeps : Keeps c ((c.unlock ticket).endCall ticket) :=
  (c.unlock_keeps ticket).trans (filter_calls_keeps _)

theorem receive_keeps (message : Value) : Keeps c (c.receive message) := by
  rw [receive]
  split
  · exact .refl c
  · exact c.dispatched_keeps (Dispatcher.resolve_keeps _ _ _)
  · exact ⟨rfl, rfl, Dispatcher.tryEnqueue_keeps _ _, .refl _, id⟩
  · exact c.routed_keeps ((Router.route_keeps _ _ _).trans (Router.run_keeps _))

theorem foldl_receive_keeps (messages : List Value) : Keeps c (messages.foldl receive c) := by
  induction messages generalizing c with
  | nil => exact .refl c
  | cons message messages ih => exact (c.receive_keeps message).trans (ih _)

theorem takeItem_keeps : Keeps c c.takeItem.2 := by
  have taken := c.dispatched_keeps (Dispatcher.takeItem_keeps c.dispatcher)
  rw [takeItem]
  dsimp only
  split
  · exact taken.trans (dropWriter_keeps _)
  · exact taken

theorem takeOutcome_keeps {outcome : Outcome} (taken : c.takeOutcome ticket = some (outcome, e)) : Keeps c e := by
  obtain ⟨_, _, same⟩ := Option.map_eq_some_iff.mp taken
  cases same
  exact ⟨rfl, rfl, .refl _, .refl _, id⟩

theorem router_keeps {router : Router} (keeps : c.router.Keeps router) : Keeps c { c with router } :=
  ⟨rfl, rfl, .refl _, keeps, id⟩

theorem takeCollected_keeps : Keeps c (((c.takeCollected ticket).map Prod.snd).getD c) := by
  rw [takeCollected]
  cases c.collected.find? fun d => d.ticket = ticket with
  | none => exact .refl c
  | some => exact ⟨rfl, rfl, .refl _, .refl _, id⟩

theorem cancelSync_keeps : Keeps c (c.cancelSync ticket) where
  lifecycle := rfl
  session := rfl
  dispatcher := Dispatcher.cancel_keeps _ _
  router := .refl _
  closing := (c.filter_calls_keeps).closing

end Keeps

/-! ## How the phase moves -/

/-- What comes of a coherent connection: a coherent one, and an end stays as it is. -/
structure Leads (c e : Connection) : Prop where
  coherent : Coherent e
  final : c.phase.isTerminal = true → e.phase = c.phase

theorem Keeps.leads (keeps : Keeps c e) (h : Coherent c) : Leads c e := ⟨keeps.coherent h, fun _ => keeps.phase⟩

theorem Leads.refl (h : Coherent c) : Leads c c := ⟨h, fun _ => rfl⟩

theorem Leads.trans (first : Leads c e) (second : Leads e f) : Leads c f where
  coherent := second.coherent
  final terminal := by
    have phase := first.final terminal
    exact (second.final (phase ▸ terminal)).trans phase

theorem Leads.keeps (first : Leads c e) (keeps : Keeps e f) : Leads c f :=
  first.trans (keeps.leads first.coherent)

theorem leads_of_alive (alive : c.phase.isTerminal = false) (h : Coherent e) : Leads c e :=
  ⟨h, fun terminal => by cases alive.symm.trans terminal⟩

theorem move_of_allows {next : Phase} (allowed : c.phase.allows next = true) :
    c.move next = (true, { c with lifecycle := { c.lifecycle with phase := next } }) := by
  have allowed : c.lifecycle.phase.allows next = true := allowed
  simp [move, Lifecycle.move, allowed]

theorem move_of_refused {next : Phase} (refused : c.phase.allows next = false) : c.move next = (false, c) := by
  have refused : c.lifecycle.phase.allows next = false := refused
  simp [move, Lifecycle.move, refused]

/-- A connection that has not started is free to: it fails at once or begins the handshake. -/
theorem start_eq (phase : c.phase = .uninitialized) (host : Host) (ticket : Ticket) : c.start host ticket =
    match host.launch c.settings with
    | some reason =>
      let failure := Failure.spawn c.settings.command reason
      let failed : Connection := { c with
        session := .finished
        lifecycle := { c.lifecycle with phase := .failed failure.message } }
      (failed.abandon failure.message (.connectionFailed failure.message)).refuse ticket failure
    | none =>
      let started : Connection := { c with
        session := .finished
        lifecycle := { c.lifecycle with phase := .initializing }
        server := some .fresh }
      started.beginHandshake host ticket := by
  have first : ({ c with session := .finished } : Connection).move .starting =
      (true, { c with session := .finished, lifecycle := { c.lifecycle with phase := .starting } }) := by
    refine move_of_allows ?_
    change c.phase.allows .starting = true
    rw [phase]
    rfl
  rw [Connection.start, first]
  dsimp only
  cases host.launch c.settings with
  | some reason =>
    dsimp only
    rw [move_of_allows rfl]
  | none =>
    dsimp only
    rw [move_of_allows rfl]

namespace Coherent

/-- Before the end the phase moves on, and the server changes hands. -/
theorem moved (h : Coherent c) (next : Phase) (session : SessionState) (alive : c.phase.isTerminal = false)
    (lives : next.isTerminal = false) (held : session ≠ .idle) (ready : next = .ready → session = .running)
    (running : session = .running → next = .ready ∨ next.isEnding = true)
    (ending : c.phase.isEnding = true → next.isEnding = true) :
    Coherent { c with session, lifecycle := { c.lifecycle with phase := next } } where
  refuses := h.refuses.trans (alive.trans lives.symm)
  reason reason failed := by
    change next = .failed reason at failed
    rw [failed] at lives
    cases lives
  table terminal := by cases lives.symm.trans terminal
  closed := h.closed.trans (alive.trans lives.symm)
  slots terminal := by cases lives.symm.trans terminal
  idle idle := absurd idle held
  ready := ready
  running := running
  closing call member closing := ending (h.closing call member closing)

/-- A phase in which the server is being started or stopped. -/
theorem moved_finished (h : Coherent c) (next : Phase) (alive : c.phase.isTerminal = false)
    (lives : next.isTerminal = false) (unready : next ≠ .ready)
    (ending : c.phase.isEnding = true → next.isEnding = true) :
    Coherent { c with session := .finished, lifecycle := { c.lifecycle with phase := next } } := by
  refine h.moved next .finished alive lives ?_ (fun ready => absurd ready unready) ?_ ending
  · simp
  · simp

/-- The phase that ends a connection, and the clean-up that follows. -/
theorem ended (h : Coherent c) (next : Phase) (reason : String) (alive : c.phase.isTerminal = false)
    (terminal : next.isTerminal = true) (held : c.session ≠ .idle)
    (same : ∀ other, next = .failed other → other = reason) (failure : Failure) :
    Coherent ({ c with lifecycle := { c.lifecycle with phase := next } }.abandon reason failure) where
  refuses := by
    change (c.dispatcher.failAll reason failure).2.1.refusal.isSome = next.isTerminal
    rw [Dispatcher.failAll_refusal, terminal]
    rfl
  reason other failed := by
    have fresh : c.dispatcher.refusal = none := by
      have refuses := h.refuses.trans alive
      cases refusal : c.dispatcher.refusal with
      | none => rfl
      | some => rw [refusal] at refuses; cases refuses
    change (c.dispatcher.failAll reason failure).2.1.refusal = some other
    rw [Dispatcher.failAll_refusal, fresh, same other failed]
    rfl
  table _ := (failAll_pending c.dispatcher reason failure).1
  closed := (Router.close_run c.router).1.trans terminal.symm
  slots _ := (Router.close_run c.router).2
  idle idle := absurd idle held
  ready ready := by
    change next = .ready at ready
    rw [ready] at terminal
    cases terminal
  running _ := .inr (Phase.isEnding_of_isTerminal terminal)
  closing _ _ _ := Phase.isEnding_of_isTerminal terminal

/-- Whoever stops the server holds it afterwards, also when it was not running. -/
theorem finished (h : Coherent c) (unready : c.phase ≠ .ready) : Coherent { c with session := .finished } where
  refuses := h.refuses
  reason := h.reason
  table := h.table
  closed := h.closed
  slots := h.slots
  idle idle := by cases idle
  ready ready := absurd ready unready
  running running := by cases running
  closing := h.closing

theorem held (h : Coherent c) (started : c.phase ≠ .uninitialized) : c.session ≠ .idle :=
  fun idle => started (h.idle idle)

theorem failWith (h : Coherent c) (reason : String) (failure : Failure) : Leads c (c.failWith reason failure) := by
  have fails : c.failWith reason failure =
      if (c.move (.failed reason)).1 then (c.move (.failed reason)).2.abandon reason failure
      else (c.move (.failed reason)).2 := rfl
  cases allowed : c.phase.allows (.failed reason) with
  | true =>
    have alive := Phase.alive_of_allows allowed
    have held := h.held (Phase.started_of_allows_failed allowed)
    rw [fails, move_of_allows allowed]
    refine leads_of_alive alive (h.ended _ reason alive rfl held (fun other same => ?_) failure)
    cases same
    rfl
  | false =>
    rw [fails, move_of_refused allowed]
    exact .refl h

theorem failUnexpectedly (h : Coherent c) (reason : String) (failure : Failure) :
    Leads c (c.failUnexpectedly reason failure) := by
  by_cases closing : c.phase = .shuttingDown
  · have explained : c.failUnexpectedly reason failure = c := by
      have closing : c.lifecycle.phase = .shuttingDown := closing
      simp [Connection.failUnexpectedly, Lifecycle.failUnexpected, closing]
    rw [explained]
    exact .refl h
  · have unexplained : c.failUnexpectedly reason failure = c.failWith reason failure := by
      have closing : c.lifecycle.phase ≠ .shuttingDown := closing
      simp [Connection.failUnexpectedly, Connection.failWith, Lifecycle.failUnexpected, closing]
    rw [unexplained]
    exact h.failWith reason failure

theorem onExit (h : Coherent c) (code : Option Int) : Leads c (c.onExit code) := h.failUnexpectedly _ _

theorem resumeReader (h : Coherent c) : Leads c c.resumeReader := by
  have stops := c.withServer_keeps fun s => { s with reader := .stopped }
  rw [Connection.resumeReader]
  split
  · split
    · exact (stops.leads h).trans ((stops.coherent h).onExit _)
    · split
      · exact (stops.leads h).trans ((stops.coherent h).failUnexpectedly _ _)
      · exact .refl h
    · exact .refl h
  · exact .refl h

theorem readFailed (h : Coherent c) (failure : Failure) : Leads c (c.readFailed failure) := by
  have stops := c.withServer_keeps fun s => { s with reader := .stopped }
  exact (stops.leads h).trans ((stops.coherent h).failWith _ _)

theorem read (h : Coherent c) (bytes : ByteArray) : Leads c (c.read bytes) := by
  have decoded (decoder : Framing.FrameDecoder) : Keeps c { c with decoder } :=
    ⟨rfl, rfl, .refl _, .refl _, id⟩
  rw [Connection.read]
  split
  · next messages decoder _ => exact ((decoded decoder).trans (foldl_receive_keeps _ messages)).leads h
  · next error decoder _ =>
    exact ((decoded decoder).leads h).trans (((decoded decoder).coherent h).readFailed _)

theorem advanceTo (h : Coherent c) (time : Nat) : Leads c (c.advanceTo time) := by
  have later := (c.dispatched_keeps (Dispatcher.advanceTo_keeps c.dispatcher time)).trans
    (routed_keeps _ (Router.advanceTo_keeps c.router time))
  exact (later.leads h).trans (later.coherent h).resumeReader

end Coherent

/-! ## Calls -/

/-- What comes of a coherent connection when a call goes on: a shutdown that returns leaves a
connection that has ended. -/
structure Proceeds (c : Connection) (out : Connection × Option CallResult) : Prop extends Leads c out.1 where
  stopped : out.2 = some .stopped → out.1.phase.isTerminal = true

theorem Leads.proceeds {result : Option CallResult} (leads : Leads c e) (goesOn : result ≠ some .stopped) :
    Proceeds c (e, result) :=
  ⟨leads, fun stopped => absurd stopped goesOn⟩

theorem Leads.goesOn (leads : Leads c e) : Proceeds c (e, none) := leads.proceeds fun stopped => by cases stopped

theorem Leads.follows {out : Connection × Option CallResult} (leads : Leads c e) (proceeds : Proceeds e out) :
    Proceeds c out :=
  ⟨leads.trans proceeds.toLeads, proceeds.stopped⟩

theorem Leads.refuse (leads : Leads c e) (ticket : Ticket) (failure : Failure) :
    Proceeds c (e.refuse ticket failure) :=
  (leads.keeps (e.leave_keeps ticket)).proceeds fun stopped => by cases stopped

/-- A call lets the next one have the session and waits until the connection is ready. -/
theorem Leads.handsOver (leads : Leads c e) (ticket : Ticket) :
    Proceeds c ((e.unlock ticket).setStage ticket .awaitingReady, none) :=
  ((leads.keeps (e.unlock_keeps ticket)).keeps
    (setStage_keeps _ ticket fun closing => by cases closing)).goesOn

namespace Coherent

variable (ticket : Ticket) (host : Host)

theorem handshakeFailed (h : Coherent c) (failure : Failure) : Proceeds c (c.handshakeFailed ticket failure) :=
  ((h.failWith _ _).keeps (releaseServer_keeps _)).refuse ticket failure

theorem beginHandshake (h : Coherent c) : Proceeds c (c.beginHandshake host ticket) := by
  rw [Connection.beginHandshake]
  split
  · exact h.handshakeFailed ticket _
  · have sent := Dispatcher.send_keeps c.dispatcher ticket "initialize"
    exact ((c.asks_keeps ticket (sent _ _) fun closing => by cases closing).leads h).goesOn

/-- A server is started only once, and nothing can happen to the connection before the handshake. -/
theorem start (h : Coherent c) (idle : c.session = .idle) : Proceeds c (c.start host ticket) := by
  have phase : c.phase = .uninitialized := h.idle idle
  have alive : c.phase.isTerminal = false := by rw [phase]; rfl
  have unending : c.phase.isEnding = true → False := by simp [phase, Phase.isEnding, Phase.isTerminal]
  have starting : Coherent { c with session := .finished, lifecycle := { c.lifecycle with phase := .starting } } :=
    h.moved_finished .starting alive rfl (by simp) fun ending => (unending ending).elim
  rw [start_eq phase]
  split
  · refine Leads.refuse (leads_of_alive alive (starting.ended _ _ rfl rfl ?_ ?_ _)) ticket _
    · exact fun idle => by cases idle
    · exact fun other same => by cases same; rfl
  · have launched := (server_keeps _ (some .fresh)).coherent starting
    have initializing := launched.moved_finished .initializing rfl rfl (by simp) fun ending => by cases ending
    exact (leads_of_alive alive initializing).follows (initializing.beginHandshake ticket host)

theorem takeTurn (h : Coherent c) : Proceeds c (c.takeTurn host ticket) := by
  rw [Connection.takeTurn]
  split
  · next idle => exact h.start ticket host idle
  · exact (Leads.refl h).handsOver ticket

theorem checkReady_ok {l : Lifecycle} (ready : l.checkReady = .ok ()) : l.phase = .ready := by
  rw [Lifecycle.checkReady] at ready
  cases phase : l.phase <;> rw [phase] at ready <;> cases ready

/-- The connection becomes ready in the same step in which its server is handed over. -/
theorem finishHandshake (h : Coherent c) : Proceeds c (c.finishHandshake ticket) := by
  cases allowed : c.phase.allows .ready with
  | true =>
    have alive := Phase.alive_of_allows allowed
    have phase := Phase.eq_initializing_of_allows_ready allowed
    have ready : Coherent { c with session := .running, lifecycle := { c.lifecycle with phase := .ready } } := by
      refine h.moved .ready .running alive rfl (by simp) (fun _ => rfl) (fun _ => .inl rfl) ?_
      simp [phase, Phase.isEnding, Phase.isTerminal]
    rw [Connection.finishHandshake, move_of_allows allowed]
    exact (leads_of_alive alive ready).handsOver ticket
  | false =>
    rw [Connection.finishHandshake, move_of_refused allowed]
    dsimp only
    cases ready : c.lifecycle.checkReady with
    | error failure => exact (c.releaseServer_keeps.leads h).refuse ticket failure
    | ok =>
      have running := h.ready (checkReady_ok ready)
      have same : Leads c { c with session := .running } := by
        rw [← running]
        exact .refl h
      exact same.handsOver ticket

theorem finishShutdown (h : Coherent c) (unready : c.phase ≠ .ready) (held : c.session ≠ .idle) :
    Proceeds c (c.finishShutdown ticket) := by
  have released := c.releaseServer_keeps
  have coherent := released.coherent h
  have finishes : c.finishShutdown ticket =
      ((((if (c.releaseServer.move .closed).1 then
        (c.releaseServer.move .closed).2.abandon "connection closed" .connectionClosed
        else (c.releaseServer.move .closed).2).unlock ticket).endCall ticket), some .stopped) := rfl
  obtain allowed | ready | terminal := Phase.allows_closed c.releaseServer.phase
  · have alive := Phase.alive_of_allows allowed
    have ended := coherent.ended .closed "connection closed" alive rfl
      (by rwa [released.session]) (fun other same => by cases same) .connectionClosed
    rw [finishes, move_of_allows allowed]
    refine ⟨(released.leads h).trans ((leads_of_alive alive ended).keeps (leave_keeps _ ticket)), fun _ => rfl⟩
  · rw [released.phase] at ready
    exact absurd ready unready
  · rw [finishes, move_of_refused (Phase.not_allows_of_isTerminal terminal)]
    exact ⟨(released.trans (leave_keeps _ ticket)).leads h, fun _ => terminal⟩

/-- A shutdown takes the server away from whoever holds it. -/
theorem beginShutdown (h : Coherent c) : Proceeds c (c.beginShutdown ticket) := by
  rw [Connection.beginShutdown]
  split
  · next running =>
    cases allowed : c.phase.allows .shuttingDown with
    | true =>
      have alive := Phase.alive_of_allows allowed
      have closing := h.moved_finished .shuttingDown alive rfl (by simp) fun _ => rfl
      have moves : ({ c with session := .finished } : Connection).move .shuttingDown = _ := move_of_allows allowed
      rw [moves]
      exact ((leads_of_alive alive closing).keeps
        (asks_keeps _ ticket (Dispatcher.send_keeps _ _ _ _ _) fun _ => rfl)).goesOn
    | false =>
      have unready : c.phase ≠ .ready := fun ready => by
        cases (Phase.allows_shuttingDown_iff.mpr ready).symm.trans allowed
      have ending := (h.running running).resolve_left unready
      have moves : ({ c with session := .finished } : Connection).move .shuttingDown = _ := move_of_refused allowed
      rw [moves]
      have leads : Leads c { c with session := .finished } := ⟨h.finished unready, fun _ => rfl⟩
      exact ((leads.keeps (withServer_keeps _ _)).keeps (setStage_keeps _ ticket fun _ => ending)).goesOn
  · next idle =>
    have unready : c.phase ≠ .ready := by
      rw [h.idle idle]
      exact fun ready => by cases ready
    have dropped := c.dropWriter_keeps
    have finished := (dropped.coherent h).finished unready
    have leads : Leads c { c.dropWriter with session := .finished } := ⟨finished, fun _ => rfl⟩
    exact leads.follows (finished.finishShutdown ticket unready fun idle => by cases idle)
  · next finished =>
    refine h.finishShutdown ticket (fun ready => ?_) (fun idle => ?_)
    · cases (h.ready ready).symm.trans finished
    · cases idle.symm.trans finished

/-- What a call does with the outcome that it waited for. -/
theorem taken (h : Coherent c) {go : Outcome × Connection → Connection × Option CallResult}
    {out : Connection × Option CallResult} (took : (c.takeOutcome ticket).map go = some out)
    (goes : ∀ outcome e, Keeps c e → Coherent e → Proceeds e (go (outcome, e))) : Proceeds c out := by
  obtain ⟨⟨outcome, e⟩, found, rfl⟩ := Option.map_eq_some_iff.mp took
  have keeps := c.takeOutcome_keeps ticket found
  exact (keeps.leads h).follows (goes outcome e keeps (keeps.coherent h))

/-- A call that is shutting down the server when it can go on. -/
theorem ending_of_stage (h : Coherent c) {stage : CallStage} (stands : c.stage? ticket = some stage)
    (closing : stage.isClosing = true) : c.phase.isEnding = true := by
  obtain ⟨call, found, rfl⟩ := Option.map_eq_some_iff.mp stands
  exact h.closing call (List.mem_of_find?_eq_some found) closing

theorem unready_of_ending (ending : c.phase.isEnding = true) : c.phase ≠ .ready := by
  intro ready
  rw [ready] at ending
  cases ending

theorem held_of_ending (h : Coherent c) (ending : c.phase.isEnding = true) : c.session ≠ .idle := by
  refine h.held fun fresh => ?_
  rw [fresh] at ending
  cases ending

theorem pollStage (h : Coherent c) {stage : CallStage} (stands : c.stage? ticket = some stage)
    {out : Connection × Option CallResult} (polled : c.pollStage host ticket stage = some out) :
    Proceeds c out := by
  have ending := h.ending_of_stage ticket stands
  cases stage with
  | queuing =>
    obtain ⟨_, same⟩ := Option.ite_none_right_eq_some.mp polled
    cases same
    exact h.takeTurn ticket host
  | closingQueue =>
    obtain ⟨_, same⟩ := Option.ite_none_right_eq_some.mp polled
    cases same
    exact h.beginShutdown ticket
  | handshaking =>
    refine h.taken ticket polled fun outcome e _ coherent => ?_
    cases outcome with
    | error failure => exact coherent.handshakeFailed ticket failure
    | ok =>
      have sent := Dispatcher.enqueue_keeps e.dispatcher ticket
      exact ((e.asks_keeps ticket (sent _) fun closing => by cases closing).leads coherent).goesOn
  | announcing =>
    refine h.taken ticket polled fun outcome e _ coherent => ?_
    cases outcome with
    | error failure => exact coherent.handshakeFailed ticket failure
    | ok => exact coherent.finishHandshake ticket
  | awaitingReady =>
    obtain ⟨_, same⟩ := Option.ite_none_right_eq_some.mp polled
    cases same
    exact ((c.filter_calls_keeps).leads h).proceeds fun stopped => by cases stopped
  | syncing kind =>
    refine h.taken ticket polled fun outcome e _ coherent => ?_
    exact ((e.filter_calls_keeps).leads coherent).proceeds fun stopped => by cases stopped
  | requestingShutdown | announcingExit =>
    refine h.taken ticket polled fun outcome e keeps coherent => ?_
    have sent := Dispatcher.enqueue_keeps e.dispatcher ticket
    exact ((e.asks_keeps ticket (sent _) fun _ => keeps.phase ▸ ending rfl).leads coherent).goesOn
  | closingInput =>
    refine h.taken ticket polled fun outcome e keeps coherent => ?_
    exact ((e.setStage_keeps ticket fun _ => keeps.phase ▸ ending rfl).leads coherent).goesOn
  | awaitingWriter deadline =>
    obtain ⟨_, same⟩ := Option.ite_none_right_eq_some.mp polled
    cases same
    exact ((c.setStage_keeps ticket fun _ => ending rfl).leads h).goesOn
  | awaitingExit deadline =>
    rw [Connection.pollStage] at polled
    split at polled
    · cases polled
      exact h.finishShutdown ticket (unready_of_ending (ending rfl)) (h.held_of_ending (ending rfl))
    · obtain ⟨_, same⟩ := Option.ite_none_right_eq_some.mp polled
      cases same
      exact (((c.withServer_keeps _).trans (setStage_keeps _ ticket fun _ => ending rfl)).leads h).goesOn
  | awaitingKill =>
    obtain ⟨_, same⟩ := Option.ite_none_right_eq_some.mp polled
    cases same
    exact h.finishShutdown ticket (unready_of_ending (ending rfl)) (h.held_of_ending (ending rfl))

theorem poll (h : Coherent c) : Proceeds c ((c.poll host ticket).getD (c, none)) := by
  cases polled : c.poll host ticket with
  | none => exact (Leads.refl h).goesOn
  | some out =>
    obtain ⟨stage, stands, goes⟩ := Option.bind_eq_some_iff.mp polled
    exact h.pollStage ticket host stands goes

theorem syncDocument (h : Coherent c) (uri text : String) : Proceeds c (c.syncDocument ticket uri text) := by
  rw [Connection.syncDocument]
  split
  · exact (Leads.refl h).proceeds fun stopped => by cases stopped
  · obtain ⟨kind, version, method, params⟩ := c.syncMessage uri text
    have written : Keeps c { c with documents := insertEntry uri version c.documents } :=
      ⟨rfl, rfl, .refl _, .refl _, id⟩
    have sent := dispatched_keeps { c with documents := insertEntry uri version c.documents }
      (Dispatcher.enqueue_keeps c.dispatcher ticket (.message (notification method (some params))))
    exact (((written.trans sent).trans (addCall_keeps _ ticket rfl)).leads h).goesOn

/-- No incident takes the connection apart. -/
theorem undergo (h : Coherent c) (incident : Incident) : Proceeds c (c.undergo incident) := by
  cases incident with
  | ensureReady ticket =>
    have asked : Keeps c (c.addCall ticket .queuing) := c.addCall_keeps ticket rfl
    exact ((asked.trans (lock_keeps _ _)).leads h).goesOn
  | shutdown ticket =>
    have asked : Keeps c (c.addCall ticket .closingQueue) := c.addCall_keeps ticket rfl
    exact ((asked.trans (lock_keeps _ _)).leads h).goesOn
  | syncDocument ticket uri text => exact h.syncDocument ticket uri text
  | cancelSync ticket =>
    rw [Connection.undergo]
    split
    · exact ((c.cancelSync_keeps ticket).leads h).goesOn
    · exact (Leads.refl h).goesOn
  | poll host ticket => exact h.poll ticket host
  | exited code =>
    have known := c.withServer_keeps fun s => { s with exit := some code }
    exact ((known.leads h).trans ((known.coherent h).onExit code)).goesOn
  | outputEnded => exact ((c.withServer_keeps _).leads h).goesOn
  | resumeReader => exact h.resumeReader.goesOn
  | read bytes => exact (h.read bytes).goesOn
  | readFailed failure => exact (h.readFailed failure).goesOn
  | takeItem => exact (c.takeItem_keeps.leads h).goesOn
  | dropWriter => exact (c.dropWriter_keeps.leads h).goesOn
  | releaseServer => exact (c.releaseServer_keeps.leads h).goesOn
  | advance milliseconds => exact (h.advanceTo _).goesOn
  | watch ticket uri => exact ((c.router_keeps (Router.watch_keeps _ ticket uri)).leads h).goesOn
  | unwatch ticket => exact ((c.router_keeps (Router.unwatch_keeps _ ticket)).leads h).goesOn
  | collect ticket =>
    have run := (Router.collect_keeps c.router ticket ticket c.settings.diagnosticsTimeout
      c.settings.settleTime).trans (Router.run_keeps _)
    exact ((c.routed_keeps run).leads h).goesOn
  | takeCollected ticket => exact ((c.takeCollected_keeps ticket).leads h).goesOn

end Coherent

end Connection

/-! ## Courses -/

section Courses

variable {settings : ServerSettings} {clock : Nat} {steps : List Step} {c : Connection}

theorem Course.coherent (course : Course settings clock steps c) : c.Coherent := by
  induction course with
  | start => exact Connection.coherent_fresh settings clock
  | step incident _ ih => exact (ih.undergo incident).coherent

theorem Course.final (course : Course settings clock steps c) :
    ∀ s ∈ steps, s.after.phase.isTerminal = true → c.phase = s.after.phase := by
  induction course with
  | start => exact List.forall_mem_nil _
  | step incident course ih =>
    intro s member terminal
    obtain old | new := List.mem_append.mp member
    · have phase := ih s old terminal
      exact ((course.coherent.undergo incident).final (phase ▸ terminal)).trans phase
    · rw [List.mem_singleton.mp new]

theorem Course.stopped (course : Course settings clock steps c) :
    ∀ s ∈ steps, s.result = some .stopped → s.after.phase.isTerminal = true := by
  induction course with
  | start => exact List.forall_mem_nil _
  | step incident course ih =>
    intro s member stops
    obtain old | new := List.mem_append.mp member
    · exact ih s old stops
    · rw [List.mem_singleton.mp new] at stops ⊢
      exact (course.coherent.undergo incident).stopped stops

/-- A connection ends as one.  Its phase is terminal exactly when the dispatcher refuses requests
and the router is closed, and neither happens without the other; then nothing is pending or
watched.  The first end stands: a failure is what later requests are told, and no later step
changes it.  After a shutdown has returned, the connection has ended. -/
theorem connection_ends_as_one (course : Course settings clock steps c) :
    (c.phase.isTerminal = true ↔ (∃ reason, c.dispatcher.Refuses reason) ∧ c.router.closed = true) ∧
    ((∃ reason, c.dispatcher.Refuses reason) ↔ c.router.closed = true) ∧
    (c.phase.isTerminal = true → c.dispatcher.pending = [] ∧ c.router.slots = []) ∧
    (∀ reason, c.phase = .failed reason → c.dispatcher.Refuses reason) ∧
    (∀ s ∈ steps, s.after.phase.isTerminal = true → c.phase = s.after.phase) ∧
    ∀ s ∈ steps, s.result = some .stopped → c.phase.isTerminal = true := by
  have h := course.coherent
  have refuses : (∃ reason, c.dispatcher.Refuses reason) ↔ c.phase.isTerminal = true := by
    rw [← h.refuses, Option.isSome_iff_exists]
    exact exists_congr fun _ => Dispatcher.refuses_iff
  refine ⟨?_, ?_, fun terminal => ⟨h.table terminal, h.slots terminal⟩, fun reason failed => ?_, course.final,
    fun s member stops => ?_⟩
  · rw [refuses, h.closed, and_self]
  · rw [refuses, h.closed]
  · exact Dispatcher.refuses_iff.mpr (h.reason reason failed)
  · have terminal := course.stopped s member stops
    rwa [course.final s member terminal]

/-- A host on which every server can be started. -/
def Host.obliging : Host := ⟨fun _ => none, .ofString "/", .null⟩

/-- The output of the server cannot be read during the handshake, and then the connection is shut
down. -/
theorem connection_ends_as_one_unreadable : ∃ steps c, Course (.make "nim" "nim") 0 steps c ∧
    (∃ s ∈ steps, s.result = some .stopped) ∧
    c.phase = .failed "reading from language server: broken pipe" ∧ c.router.closed = true ∧
    c.dispatcher.Refuses "reading from language server: broken pipe" ∧
    c.dispatcher.pending = [] ∧ c.router.slots = [] := by
  have course := (Course.start : Course (.make "nim" "nim") 0 [] _).append [.ensureReady 0, .poll .obliging 0,
    .readFailed (.io "broken pipe"), .shutdown 1, .poll .obliging 0, .poll .obliging 1]
  obtain ⟨ends, _, empty, refuses, _, stopped⟩ := connection_ends_as_one course
  have last := List.mem_of_getElem? (i := 5) (rfl : ([] ++ ((Connection.fresh (.make "nim" "nim") 0).course
    [.ensureReady 0, .poll .obliging 0, .readFailed (.io "broken pipe"), .shutdown 1, .poll .obliging 0,
      .poll .obliging 1]).1)[5]? = some _)
  have terminal := stopped _ last rfl
  have failed := refuses "reading from language server: broken pipe" (by decide +kernel)
  exact ⟨_, _, course, ⟨_, last, rfl⟩, by decide +kernel, (ends.mp terminal).2, failed, empty terminal⟩

end Courses

end BlockDiscovery.Session
