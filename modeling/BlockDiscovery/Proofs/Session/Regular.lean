import BlockDiscovery.Proofs.Session.Ending
import BlockDiscovery.Proofs.Session.Telling

/-! # Calls that are told of their own affairs

A client gives every call a ticket of its own.  Then a call that has sent a request is the only one
that can be told its outcome, and one call at most is in the middle of a handshake.  `Regular` is
what every incident keeps; most of them leave the calls alone, which is what `Rests` says, and a
call that goes on changes nothing for the others, which is what `Turns` says.
-/

namespace BlockDiscovery.Session

open BlockDiscovery BlockDiscovery.Json BlockDiscovery.Protocol BlockDiscovery.Config Dispatcher

namespace CallStage

/-- Whether a call at this stage has sent a request and waits for its outcome. -/
def asks : CallStage → Bool
  | .handshaking | .requestingShutdown => true
  | _ => false

/-- Whether a call at this stage is in the middle of a handshake. -/
def shakes : CallStage → Bool
  | .handshaking | .announcing => true
  | _ => false

/-- Whether a call at this stage waits for its turn. -/
def queues : CallStage → Bool
  | .queuing | .closingQueue => true
  | _ => false

end CallStage

namespace Connection

variable {tasks : Nat} {c e f : Connection} {u : Ticket} {stage : CallStage} {stage? : Option CallStage}

/-- One call at most shakes hands, and the connection is neither ready nor being shut down meanwhile. -/
def Shaking (c : Connection) : Prop :=
  ∃ owner, ∀ call ∈ c.calls, call.2.shakes = true →
    call.1 = owner ∧ (c.phase = .initializing ∨ c.phase.isTerminal = true)

/-- What holds of a connection when every call has a ticket of its own, below the given bound. -/
structure Regular (tasks : Nat) (c : Connection) : Prop where
  distinct : (c.calls.map Prod.fst).Nodup
  given : ∀ call ∈ c.calls, call.1 < tasks
  line : ∀ u ∈ c.dispatcher.line, u < tasks
  told : ∀ d ∈ c.completions, d.ticket < tasks
  shaking : c.Shaking
  /-- Every request is that of a call that waits for its outcome. -/
  requests : ∀ u ∈ c.dispatcher.tickets, ∃ stage, (u, stage) ∈ c.calls ∧ stage.asks = true
  /-- So is every outcome that only a request can have. -/
  outcomes : ∀ d ∈ c.completions,
    d.Plain c.dispatcher.channel ∨ ∃ stage, (d.ticket, stage) ∈ c.calls ∧ stage.asks = true
  apart : ∀ d ∈ c.completions, d.ticket ∉ c.dispatcher.tickets
  /-- A call that waits for its turn has done nothing yet. -/
  unborn : ∀ call ∈ c.calls, call.2.queues = true →
    call.1 ∉ c.dispatcher.line ∧ ∀ d ∈ c.completions, d.ticket ≠ call.1

theorem regular_fresh (tasks : Nat) (settings : ServerSettings) (clock : Nat) :
    Regular tasks (.fresh settings clock) where
  distinct := .nil
  given := List.forall_mem_nil _
  line := List.forall_mem_nil _
  told := List.forall_mem_nil _
  shaking := ⟨0, List.forall_mem_nil _⟩
  requests := List.forall_mem_nil _
  outcomes := List.forall_mem_nil _
  apart := List.forall_mem_nil _
  unborn := List.forall_mem_nil _

/-! ## What leaves the calls alone -/

/-- From one connection to the next nobody asks for anything, and the connection may end. -/
structure Rests (c e : Connection) : Prop where
  calls : e.calls = c.calls
  phase : e.phase = c.phase ∨ e.phase.isTerminal = true
  tickets : e.dispatcher.tickets ⊆ c.dispatcher.tickets
  line : e.dispatcher.line ⊆ c.dispatcher.line
  completions : ∀ d ∈ e.completions, d ∈ c.completions ∨
    (d.ticket ∈ c.dispatcher.tickets ∨ d.ticket ∈ c.dispatcher.line) ∧
      (d.ticket ∉ c.dispatcher.tickets → d.Plain e.dispatcher.channel) ∧ d.ticket ∉ e.dispatcher.tickets
  shut : c.dispatcher.channel.isOpen = false → e.dispatcher.channel.isOpen = false

/-- What has nothing to do with calls may change. -/
theorem rests_of_same (calls : e.calls = c.calls) (phase : e.phase = c.phase ∨ e.phase.isTerminal = true)
    (dispatcher : e.dispatcher = c.dispatcher) (completions : e.completions ⊆ c.completions) : Rests c e where
  calls := calls
  phase := phase
  tickets := dispatcher ▸ List.Subset.refl _
  line := dispatcher ▸ List.Subset.refl _
  completions _ member := .inl (completions member)
  shut := dispatcher ▸ id

theorem Rests.refl (c : Connection) : Rests c c := rests_of_same rfl (.inl rfl) rfl (List.Subset.refl _)

theorem Rests.trans (first : Rests c e) (second : Rests e f) : Rests c f where
  calls := second.calls.trans first.calls
  phase := second.phase.elim (fun same => same ▸ first.phase) .inr
  tickets := List.Subset.trans second.tickets first.tickets
  line := List.Subset.trans second.line first.line
  completions d member := by
    obtain earlier | ⟨known, plain, gone⟩ := second.completions d member
    · obtain old | ⟨known, plain, gone⟩ := first.completions d earlier
      · exact .inl old
      · exact .inr ⟨known, fun missing => (plain missing).mono second.shut, fun inside => gone (second.tickets inside)⟩
    · exact .inr ⟨known.imp (fun asked => first.tickets asked) fun waits => first.line waits,
        fun missing => plain fun inside => missing (first.tickets inside), gone⟩
  shut := second.shut ∘ first.shut

/-- A call is at one stage. -/
theorem Regular.same_stage (h : Regular tasks c) {other : CallStage} (first : (u, stage) ∈ c.calls)
    (second : (u, other) ∈ c.calls) : stage = other :=
  congrArg Prod.snd (List.inj_on_of_nodup_map h.distinct first second rfl)

/-- A ticket has no request, and was told nothing that only a request can be told. -/
structure Free (u : Ticket) (c : Connection) : Prop where
  request : u ∉ c.dispatcher.tickets
  outcome : ∀ d ∈ c.completions, d.ticket = u → d.Plain c.dispatcher.channel

theorem Regular.free (h : Regular tasks c) (silent : ∀ stage, (u, stage) ∈ c.calls → stage.asks = false) :
    Free u c where
  request member := by
    obtain ⟨stage, call, asks⟩ := h.requests u member
    cases (silent stage call).symm.trans asks
  outcome d member own := by
    refine (h.outcomes d member).resolve_right fun ⟨stage, call, asks⟩ => ?_
    cases (silent stage (own ▸ call)).symm.trans asks

/-- A call that does not wait for an outcome has no request. -/
theorem Regular.free_of_stage (h : Regular tasks c) (stands : (u, stage) ∈ c.calls) (silent : stage.asks = false) :
    Free u c :=
  h.free fun _ call => h.same_stage stands call ▸ silent

theorem Free.rests (free : Free u c) (rests : Rests c e) : Free u e where
  request member := free.request (rests.tickets member)
  outcome d member own := by
    obtain old | ⟨_, plain, _⟩ := rests.completions d member
    · exact (free.outcome d old own).mono rests.shut
    · exact plain (own ▸ free.request)

theorem Regular.rests (h : Regular tasks c) (rests : Rests c e) : Regular tasks e where
  distinct := rests.calls ▸ h.distinct
  given := rests.calls ▸ h.given
  line u member := h.line u (rests.line member)
  told d member := by
    obtain old | ⟨asked | waits, _⟩ := rests.completions d member
    · exact h.told d old
    · obtain ⟨stage, call, _⟩ := h.requests _ asked
      exact h.given _ call
    · exact h.line _ waits
  shaking := by
    obtain ⟨owner, one⟩ := h.shaking
    refine ⟨owner, fun call member shakes => ?_⟩
    obtain ⟨own, phase⟩ := one call (rests.calls ▸ member) shakes
    exact ⟨own, rests.phase.elim (fun same => same.symm ▸ phase) .inr⟩
  requests u member := rests.calls ▸ h.requests u (rests.tickets member)
  outcomes d member := by
    rw [rests.calls]
    obtain old | ⟨_, plain, _⟩ := rests.completions d member
    · exact (h.outcomes d old).imp_left fun plain => plain.mono rests.shut
    · by_cases asked : d.ticket ∈ c.dispatcher.tickets
      · exact .inr (h.requests _ asked)
      · exact .inl (plain asked)
  apart d member := by
    obtain old | ⟨_, _, gone⟩ := rests.completions d member
    · exact fun inside => h.apart d old (rests.tickets inside)
    · exact gone
  unborn call member queues := by
    rw [rests.calls] at member
    obtain ⟨outside, untold⟩ := h.unborn call member queues
    refine ⟨fun inside => outside (rests.line inside), fun d told own => ?_⟩
    obtain old | ⟨asked | waits, _⟩ := rests.completions d told
    · exact untold d old own
    · have queues : call.2.asks = false := by
        cases stage : call.2 <;> simp_all [CallStage.queues, CallStage.asks]
      exact (h.free_of_stage member queues).request (own ▸ asked)
    · exact outside (own ▸ waits)

section Rests

variable (c)

theorem dispatched_rests {result : Dispatcher × List Completion} (tells : c.dispatcher.Tells result) :
    Rests c (c.dispatched result) where
  calls := rfl
  phase := .inl rfl
  tickets := tells.tickets
  line := tells.line
  completions d member := (List.mem_append.mp member).imp_right fun new =>
    ⟨tells.known d new, tells.plain d new, tells.ended d new⟩
  shut := tells.shut

theorem routed_rests (result : Router × List Collected) : Rests c (c.routed result) :=
  rests_of_same rfl (.inl rfl) rfl (List.Subset.refl _)

theorem withServer_rests (change : ServerHandle → ServerHandle) : Rests c (c.withServer change) :=
  rests_of_same rfl (.inl rfl) rfl (List.Subset.refl _)

theorem lock_rests (lock : List Ticket) : Rests c { c with lock } :=
  rests_of_same rfl (.inl rfl) rfl (List.Subset.refl _)

theorem unlock_rests (ticket : Ticket) : Rests c (c.unlock ticket) := c.lock_rests _

theorem move_rests {next : Phase} (terminal : next.isTerminal = true) : Rests c (c.move next).2 := by
  cases allowed : c.phase.allows next with
  | true =>
    rw [move_of_allows allowed]
    exact rests_of_same rfl (.inr terminal) rfl (List.Subset.refl _)
  | false =>
    rw [move_of_refused allowed]
    exact .refl c

theorem dropWriter_rests : Rests c c.dropWriter :=
  (c.dispatched_rests (dropWriter_tells _)).trans (withServer_rests _ _)

theorem releaseServer_rests : Rests c c.releaseServer := by
  rw [releaseServer]
  split
  · exact .refl c
  · exact c.dropWriter_rests.trans (withServer_rests _ _)

theorem abandon_rests (reason : String) (failure : Failure) : Rests c (c.abandon reason failure) :=
  (c.dispatched_rests (failAll_tells _ reason failure)).trans (routed_rests _ _)

theorem failWith_rests (reason : String) (failure : Failure) : Rests c (c.failWith reason failure) := by
  have moved : Rests c (c.move (.failed reason)).2 := c.move_rests rfl
  have fails : c.failWith reason failure =
      if (c.move (.failed reason)).1 then (c.move (.failed reason)).2.abandon reason failure
      else (c.move (.failed reason)).2 := rfl
  rw [fails]
  split
  · exact moved.trans (abandon_rests _ reason failure)
  · exact moved

theorem failUnexpectedly_eq (reason : String) (failure : Failure) : c.failUnexpectedly reason failure =
    if c.phase = .shuttingDown then c else c.failWith reason failure := by
  split
  · next closing =>
    have closing : c.lifecycle.phase = .shuttingDown := closing
    simp [failUnexpectedly, Lifecycle.failUnexpected, closing]
  · next others =>
    have others : c.lifecycle.phase ≠ .shuttingDown := others
    simp [failUnexpectedly, failWith, Lifecycle.failUnexpected, others]

theorem failUnexpectedly_rests (reason : String) (failure : Failure) :
    Rests c (c.failUnexpectedly reason failure) := by
  rw [failUnexpectedly_eq]
  split
  · exact .refl c
  · exact c.failWith_rests reason failure

theorem resumeReader_rests : Rests c c.resumeReader := by
  rw [resumeReader]
  split
  · split
    · exact (c.withServer_rests _).trans (failUnexpectedly_rests _ _ _)
    · split
      · exact (c.withServer_rests _).trans (failUnexpectedly_rests _ _ _)
      · exact .refl c
    · exact .refl c
  · exact .refl c

theorem readFailed_rests (failure : Failure) : Rests c (c.readFailed failure) :=
  (c.withServer_rests _).trans (failWith_rests _ _ _)

theorem receive_rests (message : Value) : Rests c (c.receive message) := by
  rw [receive]
  split
  · exact .refl c
  · exact c.dispatched_rests (resolve_tells _ _ _)
  · next id method _ =>
    have answers := c.dispatched_rests (tryEnqueue_tells c.dispatcher (methodNotFound id method))
    rw [dispatched, List.append_nil] at answers
    exact answers
  · exact c.routed_rests _

theorem foldl_receive_rests (messages : List Value) : Rests c (messages.foldl receive c) := by
  induction messages generalizing c with
  | nil => exact .refl c
  | cons message messages ih => exact (c.receive_rests message).trans (ih _)

theorem read_rests (bytes : ByteArray) : Rests c (c.read bytes) := by
  have decoded (decoder : Framing.FrameDecoder) : Rests c { c with decoder } :=
    rests_of_same rfl (.inl rfl) rfl (List.Subset.refl _)
  rw [read]
  split
  · exact (decoded _).trans (foldl_receive_rests _ _)
  · exact (decoded _).trans (readFailed_rests _ _)

theorem takeItem_rests : Rests c c.takeItem.2 := by
  have taken := c.dispatched_rests (takeItem_tells c.dispatcher)
  rw [takeItem]
  dsimp only
  split
  · exact taken.trans (dropWriter_rests _)
  · exact taken

theorem advanceTo_rests (time : Nat) : Rests c (c.advanceTo time) :=
  ((c.dispatched_rests (advanceTo_tells _ time)).trans (routed_rests _ _)).trans (resumeReader_rests _)

theorem takeOutcome_rests {outcome : Outcome} (taken : c.takeOutcome u = some (outcome, e)) : Rests c e := by
  obtain ⟨_, _, same⟩ := Option.map_eq_some_iff.mp taken
  cases same
  exact rests_of_same rfl (.inl rfl) rfl (List.filter_subset_self _)

end Rests

/-- Who takes up an outcome has no request any more. -/
theorem Regular.free_of_taken (h : Regular tasks c) {outcome : Outcome}
    (taken : c.takeOutcome u = some (outcome, e)) : Free u e := by
  obtain ⟨d, found, same⟩ := Option.map_eq_some_iff.mp taken
  cases same
  have own : d.ticket = u := by simpa using List.find?_some found
  refine ⟨own ▸ h.apart d (List.mem_of_find?_eq_some found), fun other member same => ?_⟩
  exact absurd same (of_decide_eq_true (List.mem_filter.mp member).2)

/-! ## One call -/

/-- The call of a ticket comes, ends or goes on to a stage, and the others stay as they are. -/
structure Recasts (u : Ticket) (stage? : Option CallStage) (c e : Connection) : Prop where
  distinct : (c.calls.map Prod.fst).Nodup → (e.calls.map Prod.fst).Nodup
  others : ∀ call ∈ c.calls, call.1 ≠ u → call ∈ e.calls
  old : ∀ call ∈ e.calls, call ∈ c.calls ∧ call.1 ≠ u ∨ call.1 = u ∧ stage? = some call.2
  new : ∀ stage, stage? = some stage → (u, stage) ∈ e.calls

theorem endCall_recasts (calls : e.calls = (c.endCall u).calls) : Recasts u none c e where
  distinct distinct := calls ▸ (List.filter_sublist.map Prod.fst).nodup distinct
  others call member other := calls ▸ List.mem_filter.mpr ⟨member, decide_eq_true other⟩
  old call member := by
    obtain ⟨inside, other⟩ := List.mem_filter.mp (calls ▸ member)
    exact .inl ⟨inside, of_decide_eq_true other⟩
  new _ same := by cases same

theorem setStage_recasts (calls : e.calls = (c.setStage u stage).calls) {before : CallStage}
    (stands : (u, before) ∈ c.calls) : Recasts u (some stage) c e where
  distinct distinct := by
    have keys : (c.setStage u stage).calls.map Prod.fst = c.calls.map Prod.fst := by
      rw [setStage, List.map_map]
      refine List.map_congr_left fun call _ => ?_
      rw [Function.comp_apply]
      split
      · next own => exact own.symm
      · rfl
    rw [calls, keys]
    exact distinct
  others call member other := calls ▸ List.mem_map.mpr ⟨call, member, if_neg other⟩
  old call member := by
    obtain ⟨before, inside, rfl⟩ := List.mem_map.mp (calls ▸ member)
    split
    · exact .inr ⟨rfl, rfl⟩
    · next other => exact .inl ⟨inside, other⟩
  new _ same := by
    cases same
    exact calls ▸ List.mem_map.mpr ⟨_, stands, if_pos rfl⟩

theorem addCall_recasts (calls : e.calls = (c.addCall u stage).calls) (idle : u ∉ c.calls.map Prod.fst) :
    Recasts u (some stage) c e where
  distinct distinct := by
    rw [calls, addCall, List.map_append]
    refine List.nodup_append.mpr ⟨distinct, List.nodup_singleton _, fun v old _ new same => ?_⟩
    rw [same, List.mem_singleton.mp new] at old
    exact idle old
  others call member _ := calls ▸ List.mem_append_left _ member
  old call member := by
    obtain old | new := List.mem_append.mp (calls ▸ member)
    · exact .inl ⟨old, fun own => idle (own ▸ List.mem_map_of_mem old)⟩
    · exact .inr ⟨by rw [List.mem_singleton.mp new], by rw [List.mem_singleton.mp new]⟩
  new _ same := by
    cases same
    exact calls ▸ List.mem_append_right _ (List.mem_singleton_self _)

/-- The call of a ticket goes on, with what it offers and is told. -/
structure Turns (u : Ticket) (stage? : Option CallStage) (c e : Connection) : Prop
    extends Recasts u stage? c e where
  tickets : ∀ v ∈ e.dispatcher.tickets, v ≠ u ∧ v ∈ c.dispatcher.tickets ∨
    v = u ∧ ∃ stage, stage? = some stage ∧ stage.asks = true
  line : ∀ v ∈ e.dispatcher.line, v ∈ c.dispatcher.line ∨ v = u
  completions : ∀ d ∈ e.completions, d.ticket ≠ u ∧ d ∈ c.completions ∨
    d.ticket = u ∧ (d.Plain e.dispatcher.channel ∨ ∃ stage, stage? = some stage ∧ stage.asks = true) ∧
      u ∉ e.dispatcher.tickets
  shut : c.dispatcher.channel.isOpen = false → e.dispatcher.channel.isOpen = false

theorem Regular.turns (h : Regular tasks c) (turns : Turns u stage? c e) (given : u < tasks)
    (busy : ∀ stage, stage? = some stage → stage.queues = false)
    (shaking : e.Shaking) : Regular tasks e where
  distinct := turns.distinct h.distinct
  given call member := by
    obtain ⟨old, _⟩ | ⟨own, _⟩ := turns.old call member
    · exact h.given call old
    · exact own ▸ given
  line v member := (turns.line v member).elim (h.line v) fun own => own ▸ given
  told d member := by
    obtain ⟨_, old⟩ | ⟨own, _⟩ := turns.completions d member
    · exact h.told d old
    · exact own ▸ given
  shaking := shaking
  requests v member := by
    obtain ⟨other, old⟩ | ⟨rfl, stage, same, asks⟩ := turns.tickets v member
    · obtain ⟨stage, call, asks⟩ := h.requests v old
      exact ⟨stage, turns.others _ call other, asks⟩
    · exact ⟨stage, turns.new stage same, asks⟩
  outcomes d member := by
    obtain ⟨other, old⟩ | ⟨rfl, outcome, _⟩ := turns.completions d member
    · refine (h.outcomes d old).imp (fun plain => plain.mono turns.shut) fun ⟨stage, call, asks⟩ => ?_
      exact ⟨stage, turns.others _ call other, asks⟩
    · exact outcome.imp_right fun ⟨stage, same, asks⟩ => ⟨stage, turns.new stage same, asks⟩
  apart d member inside := by
    obtain ⟨other, old⟩ | ⟨own, _, gone⟩ := turns.completions d member
    · obtain ⟨_, there⟩ | ⟨own, _⟩ := turns.tickets _ inside
      · exact h.apart d old there
      · exact other own
    · exact gone (own ▸ inside)
  unborn call member queues := by
    obtain ⟨old, other⟩ | ⟨_, same⟩ := turns.old call member
    · obtain ⟨outside, untold⟩ := h.unborn call old queues
      refine ⟨fun inside => (turns.line _ inside).elim outside other, fun d told own => ?_⟩
      obtain ⟨_, earlier⟩ | ⟨mine, _⟩ := turns.completions d told
      · exact untold d earlier own
      · exact other (own.symm.trans mine)
    · cases (busy _ same).symm.trans queues

section Turns

variable (free : Free u c)

include free in
/-- A call goes on without the dispatcher. -/
theorem turns_alone (recasts : Recasts u stage? c e) (dispatcher : e.dispatcher = c.dispatcher)
    (completions : e.completions = c.completions) : Turns u stage? c e where
  toRecasts := recasts
  tickets v member := by
    rw [dispatcher] at member
    exact .inl ⟨fun own => free.request (own ▸ member), member⟩
  line v member := .inl (dispatcher ▸ member)
  completions d member := by
    rw [completions] at member
    by_cases own : d.ticket = u
    · exact .inr ⟨own, .inl (dispatcher ▸ free.outcome d member own), dispatcher ▸ free.request⟩
    · exact .inl ⟨own, member⟩
  shut := dispatcher ▸ id

include free in
/-- A call offers an item and waits for no answer. -/
theorem turns_enqueue (recasts : Recasts u stage? c e) (item : Item)
    (dispatcher : e.dispatcher = (c.dispatcher.enqueue u item).1)
    (completions : e.completions = c.completions ++ (c.dispatcher.enqueue u item).2) : Turns u stage? c e := by
  obtain ⟨tickets, line, same, told⟩ := enqueue_told c.dispatcher u item
  have shut : c.dispatcher.channel.isOpen = false → e.dispatcher.channel.isOpen = false := by
    rw [dispatcher, same]
    exact id
  exact {
    toRecasts := recasts
    tickets := fun v member => by
      rw [dispatcher, tickets] at member
      exact .inl ⟨fun own => free.request (own ▸ member), member⟩
    line := fun v member => by
      rw [dispatcher] at member
      exact (List.mem_append.mp (line member)).imp_right List.mem_singleton.mp
    completions := fun d member => by
      have gone : u ∉ e.dispatcher.tickets := by
        rw [dispatcher, tickets]
        exact free.request
      rw [completions] at member
      obtain old | new := List.mem_append.mp member
      · by_cases own : d.ticket = u
        · exact .inr ⟨own, .inl ((free.outcome d old own).mono shut), gone⟩
        · exact .inl ⟨own, old⟩
      · exact .inr ⟨(told d new).1, .inl ((told d new).2.mono shut), gone⟩
    shut := shut }

include free in
/-- A call sends its first request. -/
theorem turns_send (untold : ∀ d ∈ c.completions, d.ticket ≠ u) (recasts : Recasts u (some stage) c e)
    (asks : stage.asks = true) (method : String) (params : Option Value) (timeout : Nat)
    (dispatcher : e.dispatcher = (c.dispatcher.send u method params timeout).1)
    (completions : e.completions = c.completions ++ (c.dispatcher.send u method params timeout).2) :
    Turns u (some stage) c e := by
  have sends := send_asks c.dispatcher u method params timeout
  exact {
    toRecasts := recasts
    tickets := fun v member => by
      rw [dispatcher] at member
      by_cases own : v = u
      · exact .inr ⟨own, stage, rfl, asks⟩
      · refine .inl ⟨own, (List.mem_append.mp (sends.tickets member)).resolve_right fun new => ?_⟩
        exact own (List.mem_singleton.mp new)
    line := fun v member => by
      rw [dispatcher] at member
      exact (List.mem_append.mp (sends.line member)).imp_right List.mem_singleton.mp
    completions := fun d member => by
      rw [completions] at member
      obtain old | new := List.mem_append.mp member
      · exact .inl ⟨untold d old, old⟩
      · have own := sends.own d new
        have gone := sends.ended free.request d new
        rw [← dispatcher, own] at gone
        exact .inr ⟨own, .inr ⟨stage, rfl, asks⟩, gone⟩
    shut := dispatcher ▸ sends.shut }

end Turns

/-- The handshake goes on as before. -/
theorem Regular.shaking_kept (h : Regular tasks c) (recasts : Recasts u stage? c e)
    (calm : ∀ stage, stage? = some stage → stage.shakes = false)
    (phase : e.phase = c.phase ∨ e.phase.isTerminal = true) : e.Shaking := by
  obtain ⟨owner, one⟩ := h.shaking
  refine ⟨owner, fun call member shakes => ?_⟩
  obtain ⟨old, _⟩ | ⟨_, same⟩ := recasts.old call member
  · obtain ⟨own, before⟩ := one call old shakes
    exact ⟨own, phase.elim (fun same => same.symm ▸ before) .inr⟩
  · cases (calm _ same).symm.trans shakes

/-- The call that shakes hands goes on. -/
theorem shaking_own (only : ∀ call ∈ c.calls, call.2.shakes = true → call.1 = u) (recasts : Recasts u stage? c e)
    (phase : e.phase = .initializing ∨ e.phase.isTerminal = true) : e.Shaking := by
  refine ⟨u, fun call member shakes => ⟨?_, phase⟩⟩
  obtain ⟨old, other⟩ | ⟨own, _⟩ := recasts.old call member
  · exact absurd (only call old shakes) other
  · exact own

/-- The handshake is over. -/
theorem shaking_over (only : ∀ call ∈ c.calls, call.2.shakes = true → call.1 = u) (recasts : Recasts u stage? c e)
    (calm : ∀ stage, stage? = some stage → stage.shakes = false) : e.Shaking := by
  refine ⟨u, fun call member shakes => ?_⟩
  obtain ⟨old, other⟩ | ⟨_, same⟩ := recasts.old call member
  · exact absurd (only call old shakes) other
  · cases (calm _ same).symm.trans shakes

namespace Regular

/-- Before the handshake and after it nobody shakes hands. -/
theorem calm (h : Regular tasks c) (early : c.phase ≠ .initializing) (alive : c.phase.isTerminal = false) :
    ∀ call ∈ c.calls, call.2.shakes = false := by
  intro call member
  obtain ⟨owner, one⟩ := h.shaking
  by_contra shakes
  obtain initializing | terminal := (one call member (Bool.of_not_eq_false shakes)).2
  · exact early initializing
  · cases alive.symm.trans terminal

/-- The phase may change when nobody shakes hands. -/
theorem rephased (h : Regular tasks c) (calm : ∀ call ∈ c.calls, call.2.shakes = false)
    (calls : e.calls = c.calls) (dispatcher : e.dispatcher = c.dispatcher)
    (completions : e.completions = c.completions) : Regular tasks e where
  distinct := calls ▸ h.distinct
  given := calls ▸ h.given
  line := dispatcher ▸ h.line
  told := completions ▸ h.told
  shaking := ⟨0, fun call member shakes => by cases (calm call (calls ▸ member)).symm.trans shakes⟩
  requests := calls ▸ dispatcher ▸ h.requests
  outcomes := calls ▸ dispatcher ▸ completions ▸ h.outcomes
  apart := dispatcher ▸ completions ▸ h.apart
  unborn := calls ▸ dispatcher ▸ completions ▸ h.unborn

variable {host : Host}

/-- A call ends. -/
theorem leaves (h : Regular tasks c) (free : Free u c) (given : u < tasks) : Regular tasks (c.endCall u) := by
  have recasts : Recasts u none c (c.endCall u) := endCall_recasts rfl
  exact h.turns (turns_alone free recasts rfl rfl) given (fun _ same => by cases same)
    (h.shaking_kept recasts (fun _ same => by cases same) (.inl rfl))

/-- A call goes on to wait for something else than the dispatcher. -/
theorem goesOn (h : Regular tasks c) (free : Free u c) {before : CallStage} (stands : (u, before) ∈ c.calls)
    (silent : stage.queues = false ∧ stage.shakes = false) : Regular tasks (c.setStage u stage) := by
  have recasts : Recasts u (some stage) c (c.setStage u stage) := setStage_recasts rfl stands
  refine h.turns (turns_alone free recasts rfl rfl) (h.given _ stands) ?_ (h.shaking_kept recasts ?_ (.inl rfl))
  · rintro _ ⟨⟩
    exact silent.1
  · rintro _ ⟨⟩
    exact silent.2

/-- A call goes on to wait for room. -/
theorem offers (h : Regular tasks c) (free : Free u c) {before : CallStage} (stands : (u, before) ∈ c.calls)
    (silent : stage.queues = false ∧ stage.shakes = false) (item : Item) :
    Regular tasks ((c.dispatched (c.dispatcher.enqueue u item)).setStage u stage) := by
  have recasts : Recasts u (some stage) c ((c.dispatched (c.dispatcher.enqueue u item)).setStage u stage) :=
    setStage_recasts rfl stands
  refine h.turns (turns_enqueue free recasts item rfl rfl) (h.given _ stands) ?_
    (h.shaking_kept recasts ?_ (.inl rfl))
  · rintro _ ⟨⟩
    exact silent.1
  · rintro _ ⟨⟩
    exact silent.2

/-- A call lets the next one have the session, and ends. -/
theorem quits (h : Regular tasks c) (free : Free u c) (given : u < tasks) :
    Regular tasks ((c.unlock u).endCall u) := by
  have unlocks := c.unlock_rests u
  exact (h.rests unlocks).leaves (free.rests unlocks) given

theorem handshakeFailed (h : Regular tasks c) (free : Free u c) (given : u < tasks) (failure : Failure) :
    Regular tasks (c.handshakeFailed u failure).1 := by
  have ends := (c.failWith_rests ("initialize failed: " ++ failure.message)
    (.connectionFailed ("initialize failed: " ++ failure.message))).trans (releaseServer_rests _)
  exact (h.rests ends).quits (free.rests ends) given

theorem beginHandshake (h : Regular tasks c) (host : Host) (stands : (u, .queuing) ∈ c.calls)
    (phase : c.phase = .initializing) (calm : ∀ call ∈ c.calls, call.2.shakes = false) :
    Regular tasks (c.beginHandshake host u).1 := by
  have free := h.free_of_stage stands rfl
  rw [Connection.beginHandshake]
  split
  · exact h.handshakeFailed free (h.given _ stands) _
  · next uri _ =>
    let e := (c.dispatched (c.dispatcher.send u "initialize"
      (some (handshakeParams host.processId uri c.settings.initOptions)) c.settings.requestTimeout)).setStage u
        .handshaking
    have recasts : Recasts u (some .handshaking) c e := setStage_recasts rfl stands
    have turns := turns_send free (h.unborn _ stands rfl).2 recasts rfl _ _ _ rfl rfl
    refine h.turns turns (h.given _ stands) ?_ (shaking_own ?_ recasts (.inl phase))
    · rintro _ ⟨⟩
      rfl
    · exact fun call member shakes => by cases (calm call member).symm.trans shakes

theorem start (h : Regular tasks c) (coherent : c.Coherent) (idle : c.session = .idle) (host : Host)
    (stands : (u, .queuing) ∈ c.calls) : Regular tasks (c.start host u).1 := by
  have phase := coherent.idle idle
  have calm := h.calm (by rw [phase]; exact nofun) (by rw [phase]; rfl)
  have free := h.free_of_stage stands rfl
  rw [start_eq phase]
  split
  · next reason _ =>
    let failure := Failure.spawn c.settings.command reason
    let failed : Connection := { c with
      session := .finished
      lifecycle := { c.lifecycle with phase := .failed failure.message } }
    have fails : Rests c failed := rests_of_same rfl (.inr rfl) rfl (List.Subset.refl _)
    have ends := fails.trans (failed.abandon_rests failure.message (.connectionFailed failure.message))
    exact (h.rests ends).quits (free.rests ends) (h.given _ stands)
  · let started : Connection := { c with
      session := .finished
      lifecycle := { c.lifecycle with phase := .initializing }
      server := some .fresh }
    exact (h.rephased (e := started) calm rfl rfl rfl).beginHandshake host stands rfl calm

theorem takeTurn (h : Regular tasks c) (coherent : c.Coherent) (host : Host) (stands : (u, .queuing) ∈ c.calls) :
    Regular tasks (c.takeTurn host u).1 := by
  rw [Connection.takeTurn]
  split
  · next idle => exact h.start coherent idle host stands
  · have unlocks := c.unlock_rests u
    exact (h.rests unlocks).goesOn ((h.free_of_stage stands rfl).rests unlocks) stands ⟨rfl, rfl⟩

theorem finishHandshake (h : Regular tasks c) (free : Free u c) (stands : (u, .announcing) ∈ c.calls) :
    Regular tasks (c.finishHandshake u).1 := by
  obtain ⟨owner, one⟩ := h.shaking
  obtain ⟨rfl, _⟩ := one _ stands rfl
  have only : ∀ call ∈ c.calls, call.2.shakes = true → call.1 = u := fun call member shakes => (one call member shakes).1
  have calm : ∀ stage, some CallStage.awaitingReady = some stage → stage.shakes = false := by
    rintro _ ⟨⟩
    rfl
  have busy : ∀ stage, some CallStage.awaitingReady = some stage → stage.queues = false := by
    rintro _ ⟨⟩
    rfl
  have goes {e : Connection} (calls : e.calls = (c.setStage u .awaitingReady).calls)
      (dispatcher : e.dispatcher = c.dispatcher) (completions : e.completions = c.completions) : Regular tasks e := by
    have recasts := setStage_recasts calls stands
    exact h.turns (turns_alone free recasts dispatcher completions) (h.given _ stands) busy
      (shaking_over only recasts calm)
  cases allowed : c.phase.allows .ready with
  | true =>
    rw [Connection.finishHandshake, move_of_allows allowed]
    exact goes rfl rfl rfl
  | false =>
    rw [Connection.finishHandshake, move_of_refused allowed]
    dsimp only
    cases c.lifecycle.checkReady with
    | error failure =>
      have released := c.releaseServer_rests
      exact (h.rests released).quits (free.rests released) (h.given _ stands)
    | ok => exact goes rfl rfl rfl

theorem finishShutdown (h : Regular tasks c) (free : Free u c) (given : u < tasks) :
    Regular tasks (c.finishShutdown u).1 := by
  have moved : Rests c (c.releaseServer.move .closed).2 := c.releaseServer_rests.trans (move_rests _ rfl)
  have finishes : (c.finishShutdown u).1 =
      ((if (c.releaseServer.move .closed).1 then
        (c.releaseServer.move .closed).2.abandon "connection closed" .connectionClosed
        else (c.releaseServer.move .closed).2).unlock u).endCall u := rfl
  rw [finishes]
  split
  · have ends := moved.trans (abandon_rests _ "connection closed" .connectionClosed)
    exact (h.rests ends).quits (free.rests ends) given
  · exact (h.rests moved).quits (free.rests moved) given

theorem beginShutdown (h : Regular tasks c) (stands : (u, .closingQueue) ∈ c.calls) :
    Regular tasks (c.beginShutdown u).1 := by
  have free := h.free_of_stage stands rfl
  have given := h.given _ stands
  rw [Connection.beginShutdown]
  split
  · cases allowed : c.phase.allows .shuttingDown with
    | true =>
      have ready := Phase.allows_shuttingDown_iff.mp allowed
      have calm := h.calm (fun same => by cases ready.symm.trans same) (by rw [ready]; rfl)
      let closing : Connection := { c with
        session := .finished
        lifecycle := { c.lifecycle with phase := .shuttingDown } }
      let e := (closing.dispatched (c.dispatcher.send u "shutdown" none c.settings.shutdownGrace)).setStage u
        .requestingShutdown
      have moves : ({ c with session := .finished } : Connection).move .shuttingDown = (true, closing) :=
        move_of_allows allowed
      rw [moves]
      have recasts : Recasts u (some .requestingShutdown) closing e := setStage_recasts rfl stands
      have free : Free u closing := ⟨free.request, free.outcome⟩
      have turns := turns_send free (h.unborn _ stands rfl).2 recasts rfl _ _ _ rfl rfl
      refine (h.rephased (e := closing) calm rfl rfl rfl).turns turns given ?_ (shaking_over ?_ recasts ?_)
      · rintro _ ⟨⟩
        rfl
      · exact fun call member shakes => by cases (calm call member).symm.trans shakes
      · rintro _ ⟨⟩
        rfl
    | false =>
      have moves : ({ c with session := .finished } : Connection).move .shuttingDown = _ := move_of_refused allowed
      rw [moves]
      have killed : Rests c (({ c with session := .finished } : Connection).withServer
          fun s => { s with killed := true }) := rests_of_same rfl (.inl rfl) rfl (List.Subset.refl _)
      exact (h.rests killed).goesOn (free.rests killed) stands ⟨rfl, rfl⟩
  · have dropped : Rests c { c.dropWriter with session := .finished } :=
      c.dropWriter_rests.trans (rests_of_same rfl (.inl rfl) rfl (List.Subset.refl _))
    exact (h.rests dropped).finishShutdown (free.rests dropped) given
  · exact h.finishShutdown free given

theorem pollStage (h : Regular tasks c) (coherent : c.Coherent) (stands : (u, stage) ∈ c.calls)
    {out : Connection × Option CallResult} (polled : c.pollStage host u stage = some out) : Regular tasks out.1 := by
  have given := h.given _ stands
  have takes {outcome : Outcome} {e : Connection} (taken : c.takeOutcome u = some (outcome, e)) :
      Regular tasks e ∧ Free u e ∧ (u, stage) ∈ e.calls :=
    ⟨h.rests (c.takeOutcome_rests taken), h.free_of_taken taken, (c.takeOutcome_rests taken).calls ▸ stands⟩
  cases stage with
  | queuing =>
    obtain ⟨_, same⟩ := Option.ite_none_right_eq_some.mp polled
    cases same
    exact h.takeTurn coherent host stands
  | closingQueue =>
    obtain ⟨_, same⟩ := Option.ite_none_right_eq_some.mp polled
    cases same
    exact h.beginShutdown stands
  | handshaking =>
    obtain ⟨⟨outcome, e⟩, taken, rfl⟩ := Option.map_eq_some_iff.mp polled
    obtain ⟨h', free, stands'⟩ := takes taken
    cases outcome with
    | error failure => exact h'.handshakeFailed free given failure
    | ok =>
      obtain ⟨owner, one⟩ := h'.shaking
      obtain ⟨rfl, phase⟩ := one _ stands' rfl
      let next := (e.dispatched (e.dispatcher.notify u "initialized" (some (.object [])))).setStage u .announcing
      have recasts : Recasts u (some .announcing) e next := setStage_recasts rfl stands'
      refine h'.turns (turns_enqueue free recasts _ rfl rfl) given ?_
        (shaking_own (fun call member shakes => (one call member shakes).1) recasts phase)
      rintro _ ⟨⟩
      rfl
  | announcing =>
    obtain ⟨⟨outcome, e⟩, taken, rfl⟩ := Option.map_eq_some_iff.mp polled
    obtain ⟨h', free, stands'⟩ := takes taken
    cases outcome with
    | error failure => exact h'.handshakeFailed free given failure
    | ok => exact h'.finishHandshake free stands'
  | requestingShutdown | announcingExit =>
    obtain ⟨⟨outcome, e⟩, taken, rfl⟩ := Option.map_eq_some_iff.mp polled
    obtain ⟨h', free, stands'⟩ := takes taken
    exact h'.offers free stands' ⟨rfl, rfl⟩ _
  | closingInput =>
    obtain ⟨⟨outcome, e⟩, taken, rfl⟩ := Option.map_eq_some_iff.mp polled
    obtain ⟨h', free, stands'⟩ := takes taken
    exact h'.goesOn free stands' ⟨rfl, rfl⟩
  | syncing kind =>
    obtain ⟨⟨outcome, e⟩, taken, rfl⟩ := Option.map_eq_some_iff.mp polled
    obtain ⟨h', free, _⟩ := takes taken
    exact h'.leaves free given
  | awaitingReady =>
    obtain ⟨_, same⟩ := Option.ite_none_right_eq_some.mp polled
    cases same
    exact h.leaves (h.free_of_stage stands rfl) given
  | awaitingWriter deadline =>
    obtain ⟨_, same⟩ := Option.ite_none_right_eq_some.mp polled
    cases same
    exact h.goesOn (h.free_of_stage stands rfl) stands ⟨rfl, rfl⟩
  | awaitingExit deadline =>
    have free := h.free_of_stage stands rfl
    rw [Connection.pollStage] at polled
    split at polled
    · cases polled
      exact h.finishShutdown free given
    · obtain ⟨_, same⟩ := Option.ite_none_right_eq_some.mp polled
      cases same
      have killed := c.withServer_rests fun s => { s with killed := true }
      exact (h.rests killed).goesOn (free.rests killed) stands ⟨rfl, rfl⟩
  | awaitingKill =>
    obtain ⟨_, same⟩ := Option.ite_none_right_eq_some.mp polled
    cases same
    exact h.finishShutdown (h.free_of_stage stands rfl) given

theorem mem_of_stage? (stands : c.stage? u = some stage) : (u, stage) ∈ c.calls := by
  obtain ⟨⟨owner, _⟩, found, rfl⟩ := Option.map_eq_some_iff.mp stands
  obtain rfl : owner = u := by simpa using List.find?_some found
  exact List.mem_of_find?_eq_some found

theorem poll (h : Regular tasks c) (coherent : c.Coherent) {out : Connection × Option CallResult}
    (polled : c.poll host u = some out) : Regular tasks out.1 := by
  obtain ⟨stage, stands, goes⟩ := Option.bind_eq_some_iff.mp polled
  exact h.pollStage coherent (mem_of_stage? stands) goes

/-! ## New calls -/

theorem idle (h : Regular tasks c) : tasks ∉ c.calls.map Prod.fst := by
  intro member
  obtain ⟨call, inside, same⟩ := List.mem_map.mp member
  exact Nat.lt_irrefl _ (same ▸ h.given call inside)

/-- A call with a new ticket waits for its turn. -/
theorem joins (h : Regular tasks c) (queues : stage.queues = true) (calls : e.calls = (c.addCall tasks stage).calls)
    (phase : e.phase = c.phase) (dispatcher : e.dispatcher = c.dispatcher)
    (completions : e.completions = c.completions) : Regular (tasks + 1) e := by
  have recasts := addCall_recasts calls h.idle
  have keeps (call : Ticket × CallStage) (member : call ∈ c.calls) : call ∈ e.calls := by
    rw [calls]
    exact List.mem_append_left _ member
  have new {call : Ticket × CallStage} (member : call ∈ e.calls) : call ∈ c.calls ∨ call = (tasks, stage) := by
    rw [calls] at member
    exact (List.mem_append.mp member).imp_right List.mem_singleton.mp
  exact {
    distinct := recasts.distinct h.distinct
    given := fun call member => by
      obtain old | rfl := new member
      · exact Nat.lt_succ_of_lt (h.given call old)
      · exact Nat.lt_succ_self _
    line := fun u member => Nat.lt_succ_of_lt (h.line u (dispatcher ▸ member))
    told := fun d member => Nat.lt_succ_of_lt (h.told d (completions ▸ member))
    shaking := by
      refine h.shaking_kept recasts (fun stage same => ?_) (.inl phase)
      cases same
      cases stage <;> simp_all [CallStage.queues, CallStage.shakes]
    requests := fun u member => by
      obtain ⟨stage, call, asks⟩ := h.requests u (dispatcher ▸ member)
      exact ⟨stage, keeps _ call, asks⟩
    outcomes := fun d member => by
      rw [dispatcher]
      exact (h.outcomes d (completions ▸ member)).imp_right fun ⟨stage, call, asks⟩ => ⟨stage, keeps _ call, asks⟩
    apart := dispatcher ▸ completions ▸ h.apart
    unborn := fun call member queues => by
      rw [dispatcher, completions]
      obtain old | rfl := new member
      · exact h.unborn call old queues
      · exact ⟨fun inside => Nat.lt_irrefl _ (h.line _ inside), fun d told own => Nat.lt_irrefl _ (own ▸ h.told d told)⟩ }

theorem mono {more : Nat} (h : Regular tasks c) (le : tasks ≤ more) : Regular more c where
  distinct := h.distinct
  given call member := Nat.lt_of_lt_of_le (h.given call member) le
  line u member := Nat.lt_of_lt_of_le (h.line u member) le
  told d member := Nat.lt_of_lt_of_le (h.told d member) le
  shaking := h.shaking
  requests := h.requests
  outcomes := h.outcomes
  apart := h.apart
  unborn := h.unborn

/-- A document is brought with a ticket that has no call. -/
theorem syncDocument (h : Regular tasks c) (given : u < tasks) (idle : u ∉ c.calls.map Prod.fst)
    (uri text : String) : Regular tasks (c.syncDocument u uri text).1 := by
  rw [Connection.syncDocument]
  split
  · exact h
  · obtain ⟨kind, version, method, params⟩ := c.syncMessage uri text
    have free := h.free fun stage call => absurd (List.mem_map_of_mem call) idle
    let written : Connection := { c with documents := insertEntry uri version c.documents }
    let e := (written.dispatched (c.dispatcher.notify u method (some params))).addCall u (.syncing kind)
    have recasts : Recasts u (some (.syncing kind)) c e := addCall_recasts rfl idle
    refine h.turns (turns_enqueue free recasts _ rfl rfl) given ?_ (h.shaking_kept recasts ?_ (.inl rfl))
    · rintro _ ⟨⟩
      rfl
    · rintro _ ⟨⟩
      rfl

/-- A text is given up. -/
theorem cancelSync (h : Regular tasks c) {kind : DocumentSync} (stands : (u, .syncing kind) ∈ c.calls) :
    Regular tasks (c.cancelSync u) := by
  have recasts : Recasts u none c (c.cancelSync u) := endCall_recasts rfl
  have cancels := cancel_tells c.dispatcher u
  have turns : Turns u none c (c.cancelSync u) := {
    toRecasts := recasts
    tickets := fun v member => .inl ⟨fun own => not_mem_without u c.dispatcher.sends (own ▸ member), cancels.tickets member⟩
    line := fun v member => .inl (cancels.line member)
    completions := fun d member => by
      obtain ⟨old, other⟩ := List.mem_filter.mp member
      exact .inl ⟨of_decide_eq_true other, old⟩
    shut := cancels.shut }
  exact h.turns turns (h.given _ stands) (fun _ same => by cases same)
    (h.shaking_kept recasts (fun _ same => by cases same) (.inl rfl))

end Regular

end Connection

end BlockDiscovery.Session
