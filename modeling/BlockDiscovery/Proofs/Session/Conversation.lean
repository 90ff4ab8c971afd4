import BlockDiscovery.Proofs.Session.Scene

/-! # The course of a conversation

Calls interleave wherever they wait, but only one of them speaks in a scene, and documents are
brought only while the server runs.  So whatever the server does and however the calls take
turns, what a connection says is a beginning of the script.
-/

namespace BlockDiscovery.Session

open BlockDiscovery BlockDiscovery.Json BlockDiscovery.Protocol BlockDiscovery.Config Dispatcher

namespace Connection

variable {answered : Prop} {limit : Option Nat} {scene next : Scene} {c e f g : Connection} {taken said : List Item}

/-! ## Playing a scene -/

/-- A connection plays a scene after something was said.  The end of the handshake was said only if
the handshake was answered.  If there is a limit, then something comes of the farewell's request by then. -/
structure Plays (answered : Prop) (limit : Option Nat) (scene : Scene) (c : Connection) (said : List Item) :
    Prop where
  session : c.session = scene.session
  calls : ∀ call ∈ c.calls, scene.Admits call
  tight : c.dispatcher.channel.Tight
  tasks : scene.Tasks answered c.settings.shutdownGrace limit c.dispatcher c.completions
  spoken : scene.Spoken c.settings.language c.documents said
  greeted : initialized ∈ said → answered

theorem plays_fresh (answered : Prop) (settings : ServerSettings) (clock : Nat) :
    Plays answered none .fresh (.fresh settings clock) [] where
  session := rfl
  calls := List.forall_mem_nil _
  tight := Channel.tight_fresh _
  tasks := ⟨rfl, rfl, rfl, rfl, rfl, rfl⟩
  spoken := ⟨rfl, rfl⟩
  greeted member := by cases member

theorem Plays.quiet (plays : Plays answered limit scene c said) (quiet : Quiet answered c taken e) :
    Plays answered limit scene e said where
  session := quiet.session.trans plays.session
  calls call member := (quiet.calls call member).elim (plays.calls call) Scene.admits_of_silent
  tight := by
    obtain ⟨_, _, conveys⟩ := quiet.conveys plays.tight
    exact conveys.tight
  tasks := by
    rw [quiet.settings]
    exact quiet.tasks scene _ limit plays.tasks
  spoken := by
    rw [quiet.settings, quiet.documents]
    exact plays.spoken
  greeted := plays.greeted

theorem Plays.mono {later : Prop} (plays : Plays answered limit scene c said) (implies : answered → later) :
    Plays later limit scene c said where
  session := plays.session
  calls := plays.calls
  tight := plays.tight
  tasks := by
    have tasks := plays.tasks
    cases scene with
    | handshaking ticket =>
      obtain ⟨unlimited, timeout, solo⟩ := tasks
      exact ⟨unlimited, timeout, solo.mono implies⟩
    | _ => exact tasks
  spoken := plays.spoken
  greeted := implies ∘ plays.greeted

/-- A scene admits every call that there is. -/
theorem Plays.admits (plays : Plays answered limit scene c said) {ticket : Ticket} {stage : CallStage}
    (stands : c.stage? ticket = some stage) : scene.Admits (ticket, stage) := by
  obtain ⟨⟨owner, _⟩, found, rfl⟩ := Option.map_eq_some_iff.mp stands
  obtain rfl : owner = ticket := by simpa using List.find?_some found
  exact plays.calls _ (List.mem_of_find?_eq_some found)

/-! ## From scene to scene -/

/-- What comes of a connection that plays a scene: it offers some items to the channel, and plays a
scene after what it said with them. -/
def Continues (answered : Prop) (limit : Option Nat) (c : Connection) (taken said : List Item) (e : Connection) :
    Prop :=
  ∃ scene offered, c.dispatcher.channel.Conveys taken offered e.dispatcher.channel ∧
    (∀ item ∈ offered, item.isReply = true → item.Declines) ∧
    Plays answered limit scene e (said ++ speech offered)

theorem Plays.continues (plays : Plays answered limit scene c said) (quiet : Quiet answered c taken e) :
    Continues answered limit c taken said e := by
  obtain ⟨offered, declines, conveys⟩ := quiet.conveys plays.tight
  have silent : speech offered = [] := speech_of_replies fun item member => (declines item member).isReply
  refine ⟨scene, offered, conveys, fun item member _ => declines item member, ?_⟩
  rw [silent, List.append_nil]
  exact plays.quiet quiet

theorem Plays.follows (plays : Plays answered limit scene c said) (quiet : Quiet answered c taken e)
    (goes : Plays answered limit scene e said → Continues answered limit e [] said f) :
    Continues answered limit c taken said f := by
  obtain ⟨before, declines, first⟩ := quiet.conveys plays.tight
  obtain ⟨next, after, second, replies, last⟩ := goes (plays.quiet quiet)
  have silent : speech before = [] := speech_of_replies fun item member => (declines item member).isReply
  refine ⟨next, before ++ after, first.trans second, fun item member reply => ?_, ?_⟩
  · exact (List.mem_append.mp member).elim (declines item) fun late => replies item late reply
  · rwa [speech_append, silent, List.nil_append]

/-- One item is said. -/
theorem continues_speaking (next : Scene) (tight : c.dispatcher.channel.Tight) {item : Item} {name : String}
    (named : item.name? = some name) {ticket : Ticket}
    (channel : e.dispatcher.channel = (c.dispatcher.channel.push ticket item).2)
    (plays : e.dispatcher.channel.Tight → Plays answered limit next e (said ++ [item])) :
    Continues answered limit c [] said e := by
  have conveys := tight.push ticket item
  rw [← channel] at conveys
  refine ⟨next, [item], conveys, fun other member reply => ?_, ?_⟩
  · rw [List.mem_singleton.mp member, Item.isReply, named] at reply
    cases reply
  · rw [speech_of_named named]
    exact plays conveys.tight

/-- The scene changes, and nothing is said. -/
theorem continues_silently (next : Scene) (tight : c.dispatcher.channel.Tight)
    (channel : e.dispatcher.channel = c.dispatcher.channel)
    (plays : e.dispatcher.channel.Tight → Plays answered limit next e said) :
    Continues answered limit c [] said e := by
  have conveys := tight.rests
  refine ⟨next, [], channel ▸ conveys, List.forall_mem_nil _, ?_⟩
  rw [show speech [] = [] from rfl, List.append_nil]
  exact plays (channel ▸ tight)

/-- The conversation is over when the call that was speaking is gone. -/
theorem Plays.ends (plays : Plays answered limit scene c said) (channel : e.dispatcher.channel = c.dispatcher.channel)
    (settings : e.settings = c.settings) (calls : e.calls = c.calls) (finished : e.session = .finished)
    (quiet : Quiet answered e [] f) (gone : ∀ call ∈ f.calls, scene.speaker? ≠ some call) :
    Continues answered limit c [] said f := by
  obtain ⟨offered, declines, conveys⟩ := quiet.conveys (channel ▸ plays.tight)
  have unsaid : speech offered = [] := speech_of_replies fun item member => (declines item member).isReply
  refine ⟨.ended, offered, channel ▸ conveys, fun item member _ => declines item member, ?_⟩
  rw [unsaid, List.append_nil]
  have conforms := plays.spoken.conforms
  rw [← settings, ← quiet.settings] at conforms
  exact {
    session := quiet.session.trans finished
    calls := fun call member => by
      obtain old | silent := quiet.calls call member
      · exact ⟨fun speaks => absurd ((plays.calls call (calls ▸ old)).speaker speaks) (gone call member), fun _ => rfl⟩
      · exact Scene.admits_of_silent silent
    tight := conveys.tight
    tasks := trivial
    spoken := conforms
    greeted := plays.greeted }

/-- A call that was speaking fails. -/
theorem Plays.refused (plays : Plays answered limit scene c said)
    (channel : e.dispatcher.channel = c.dispatcher.channel)
    (settings : e.settings = c.settings) (calls : e.calls = c.calls) (finished : e.session = .finished)
    (quiet : Quiet answered e [] f) {ticket : Ticket} (own : ∀ call, scene.speaker? = some call → call.1 = ticket)
    (failure : Failure) : Continues answered limit c [] said (f.refuse ticket failure).1 := by
  refine plays.ends channel settings calls finished (quiet.trans (f.leave_quiet ticket)) fun call member speaks => ?_
  exact of_decide_eq_true (List.mem_filter.mp member).2 (own call speaks)

/-- There is one call that speaks in a scene. -/
theorem own_of_speaker {ticket : Ticket} {stage : CallStage} (speaker : scene.speaker? = some (ticket, stage)) :
    ∀ call, scene.speaker? = some call → call.1 = ticket := by
  intro call same
  cases speaker.symm.trans same
  rfl

/-- A call goes to another stage: it speaks in the next scene, or it says nothing. -/
theorem admits_setStage (calls : ∀ call ∈ c.calls, scene.Admits call) {ticket : Ticket} {stage : CallStage}
    (own : ∀ call, scene.speaker? = some call → call.1 = ticket)
    (speaks : stage.speaks = true → next.speaker? = some (ticket, stage)) (silent : stage.isSyncing = false)
    (later : next.isEarly = true → scene.isEarly = true) :
    ∀ call ∈ (c.setStage ticket stage).calls, next.Admits call := by
  intro call member
  obtain ⟨old, inside, rfl⟩ := List.mem_map.mp member
  split
  · exact ⟨speaks, fun syncs => by cases silent.symm.trans syncs⟩
  · next other =>
    have admits := calls old inside
    refine ⟨fun speaks => absurd (own old (admits.speaker speaks)) other, fun syncs => ?_⟩
    by_contra early
    cases (admits.late syncs).symm.trans (later (Bool.of_not_eq_false early))

theorem takeOutcome_eq {ticket : Ticket} {outcome : Outcome} (taken : c.takeOutcome ticket = some (outcome, e)) :
    (∃ d ∈ c.completions, d.outcome = outcome) ∧
      e = { c with completions := c.completions.filter fun d => d.ticket ≠ ticket } := by
  obtain ⟨d, found, same⟩ := Option.map_eq_some_iff.mp taken
  cases same
  exact ⟨⟨d, List.mem_of_find?_eq_some found, rfl⟩, rfl⟩

theorem mem_of_other {item : Item} {name : String} (named : item.name? = some name) (other : name ≠ "initialized")
    (member : initialized ∈ said ++ [item]) : initialized ∈ said := by
  refine (List.mem_append.mp member).resolve_right fun last => other ?_
  rw [← List.mem_singleton.mp last] at named
  exact (Option.some.inj named).symm

/-- A connection that has not ended takes requests. -/
theorem Coherent.accepts (coherent : c.Coherent) (alive : c.phase.isTerminal = false) :
    c.dispatcher.refusal = none := by
  have refuses := coherent.refuses
  rw [alive] at refuses
  exact Option.isNone_iff_eq_none.mp (Option.isSome_eq_false_iff.mp refuses)

/-! ## The handshake -/

section Handshake

variable {ticket : Ticket}

/-- The handshake begins with the first message. -/
theorem Plays.beginHandshake (plays : Plays answered limit .fresh c said) (accepts : c.dispatcher.refusal = none)
    (lifecycle : Lifecycle) (server : Option ServerHandle) (host : Host) (ticket : Ticket) :
    Continues answered limit c [] said
      (({ c with session := .finished, lifecycle, server } : Connection).beginHandshake host ticket).1 := by
  rw [Connection.beginHandshake]
  split
  · next failure _ =>
    exact plays.refused (e := { c with session := .finished, lifecycle, server }) rfl rfl rfl rfl
      ((failWith_quiet _ _ _).trans (releaseServer_quiet _)) (fun _ speaks => by cases speaks) failure
  · next uri _ =>
    obtain ⟨documents, rfl⟩ := plays.spoken
    have solo := plays.tasks.2.send accepts answered ticket "initialize"
      (some (handshakeParams host.processId uri c.settings.initOptions)) c.settings.requestTimeout
    have channel := send_channel plays.tight accepts ticket "initialize"
      (some (handshakeParams host.processId uri c.settings.initOptions)) c.settings.requestTimeout
    rw [plays.tasks.2.first] at channel
    refine continues_speaking (.handshaking ticket) plays.tight (name?_request ..) channel fun tight => ?_
    exact {
      session := rfl
      calls := admits_setStage plays.calls (fun _ speaks => by cases speaks) (fun _ => rfl) rfl fun _ => rfl
      tight := tight
      tasks := ⟨plays.tasks.1, _, solo⟩
      spoken := ⟨documents, _, rfl⟩
      greeted := fun member => plays.greeted (mem_of_other (name?_request ..) (by decide) member) }

/-- A server is started only once. -/
theorem Plays.start (plays : Plays answered limit .fresh c said) (coherent : c.Coherent) (host : Host)
    (ticket : Ticket) :
    Continues answered limit c [] said (c.start host ticket).1 := by
  have phase : c.phase = .uninitialized := coherent.idle plays.session
  have accepts := coherent.accepts (by rw [phase]; rfl)
  rw [start_eq phase]
  split
  · exact plays.refused (e := { c with session := .finished }) rfl rfl rfl rfl
      ((lifecycle_quiet _ _).trans (abandon_quiet _ _ _)) (fun _ speaks => by cases speaks) _
  · exact plays.beginHandshake accepts _ _ host ticket

/-- The answer to the handshake has come. -/
theorem Plays.handshake (plays : Plays answered limit (.handshaking ticket) c said) {outcome : Outcome}
    (taken : c.takeOutcome ticket = some (outcome, e)) :
    Continues answered limit c [] said
      (match outcome with
        | .error failure => e.handshakeFailed ticket failure
        | .ok _ => ((e.dispatched (e.dispatcher.notify ticket "initialized" (some (.object [])))).setStage ticket
            .announcing, none)).1 := by
  obtain ⟨⟨d, member, same⟩, rfl⟩ := takeOutcome_eq taken
  cases outcome with
  | error failure =>
    exact plays.refused (e := { c with completions := c.completions.filter fun d => d.ticket ≠ ticket })
      rfl rfl rfl plays.session ((failWith_quiet _ _ _).trans (releaseServer_quiet _)) (own_of_speaker rfl) failure
  | ok reply =>
    obtain ⟨unlimited, timeout, solo⟩ := plays.tasks
    obtain ⟨answered, nobody⟩ : answered ∧ c.dispatcher.sends = [] := by
      cases solo with
      | waits _ _ _ _ _ untold | sent _ _ _ _ untold =>
        rw [untold] at member
        cases member
      | told outcome _ task _ report sound =>
        rw [report] at member
        obtain rfl := List.mem_singleton.mp member
        exact ⟨sound reply same, task⟩
    obtain ⟨documents, params, rfl⟩ := plays.spoken
    refine continues_speaking (.announcing ticket) plays.tight (name?_notification ..)
      (enqueue_channel _ _ _) fun tight => ?_
    exact {
      session := plays.session
      calls := admits_setStage plays.calls (own_of_speaker rfl) (fun _ => rfl) rfl fun early => by cases early
      tight := tight
      tasks := ⟨unlimited, (enqueue_sends ..).trans nobody⟩
      spoken := ⟨documents, params, rfl⟩
      greeted := fun _ => answered }

theorem Plays.finishHandshake (plays : Plays answered limit (.announcing ticket) c said) (coherent : c.Coherent)
    (completions : List Completion) :
    Continues answered limit c [] said (({ c with completions } : Connection).finishHandshake ticket).1 := by
  cases allowed : ({ c with completions } : Connection).phase.allows .ready with
  | true =>
    obtain ⟨documents, params, spoken⟩ := plays.spoken
    rw [Connection.finishHandshake, move_of_allows allowed]
    refine continues_silently .running plays.tight rfl fun tight => ?_
    exact {
      session := rfl
      calls := admits_setStage plays.calls (own_of_speaker rfl) (fun speaks => by cases speaks) rfl fun early => by
        cases early
      tight := tight
      tasks := plays.tasks
      spoken := ⟨params, [], documents ▸ tracks_nil, spoken.trans (List.append_nil _).symm⟩
      greeted := plays.greeted }
  | false =>
    rw [Connection.finishHandshake, move_of_refused allowed]
    dsimp only
    cases ready : c.lifecycle.checkReady with
    | error failure =>
      exact plays.refused (e := { c with completions }) rfl rfl rfl plays.session (releaseServer_quiet _)
        (own_of_speaker rfl) failure
    | ok =>
      have running := coherent.ready (Coherent.checkReady_ok ready)
      cases running.symm.trans plays.session

theorem Plays.announced (plays : Plays answered limit (.announcing ticket) c said) (coherent : c.Coherent)
    {outcome : Outcome} (taken : c.takeOutcome ticket = some (outcome, e)) :
    Continues answered limit c [] said
      (match outcome with
        | .error failure => e.handshakeFailed ticket failure
        | .ok _ => e.finishHandshake ticket).1 := by
  obtain ⟨_, rfl⟩ := takeOutcome_eq taken
  cases outcome with
  | error failure =>
    exact plays.refused (e := { c with completions := c.completions.filter fun d => d.ticket ≠ ticket })
      rfl rfl rfl plays.session ((failWith_quiet _ _ _).trans (releaseServer_quiet _)) (own_of_speaker rfl) failure
  | ok => exact plays.finishHandshake coherent _

end Handshake

/-! ## Documents -/

/-- A document is brought only while the server runs, and is counted. -/
theorem Plays.syncDocument (plays : Plays answered limit scene c said) (coherent : c.Coherent) (ticket : Ticket)
    (uri text : String) : Continues answered limit c [] said (c.syncDocument ticket uri text).1 := by
  rw [Connection.syncDocument]
  split
  · exact plays.continues (.refl c)
  · next ready =>
    have running := coherent.ready (Coherent.checkReady_ok ready)
    obtain rfl := Scene.eq_running (plays.session.symm.trans running)
    obtain ⟨params, notices, tracks, rfl⟩ := plays.spoken
    have tracked := tracks.next uri text
    obtain ⟨version, item⟩ := syncMessage_notice tracks uri text
    obtain ⟨name, named, other⟩ : ∃ name, (Notice.item c.settings.language
        ⟨uri, (lookup uri c.documents).getD 0 + 1, text⟩).name? = some name ∧ name ≠ "initialized" :=
      (Notice.name?_item _ _).elim (fun opened => ⟨_, opened, by decide⟩) fun changed => ⟨_, changed, by decide⟩
    rw [← version] at tracked
    rw [← item] at named
    refine continues_speaking .running plays.tight named
      (enqueue_channel c.dispatcher ticket _) fun tight => ?_
    exact {
      session := running
      calls := fun call member => by
        obtain old | new := List.mem_append.mp member
        · exact plays.calls call old
        · rw [List.mem_singleton.mp new]
          exact ⟨fun speaks => (by cases speaks), fun _ => rfl⟩
      tight := tight
      tasks := ⟨plays.tasks.1, (enqueue_sends ..).trans plays.tasks.2⟩
      spoken := by
        refine ⟨params, _, tracked, ?_⟩
        rw [List.map_append, ← List.append_assoc, item, version]
        rfl
      greeted := fun member => plays.greeted (mem_of_other named other member) }

/-! ## The farewell -/

section Farewell

variable {ticket : Ticket}

theorem Plays.beginShutdown (plays : Plays answered limit scene c said) (coherent : c.Coherent) (ticket : Ticket) :
    Continues answered limit c [] said (c.beginShutdown ticket).1 := by
  rw [Connection.beginShutdown]
  split
  · next running =>
    obtain rfl := Scene.eq_running (plays.session.symm.trans running)
    cases allowed : c.phase.allows .shuttingDown with
    | true =>
      obtain ⟨params, notices, tracks, rfl⟩ := plays.spoken
      obtain ⟨unlimited, nobody⟩ := plays.tasks
      have accepts := coherent.accepts (Phase.alive_of_allows allowed)
      have moves : ({ c with session := .finished } : Connection).move .shuttingDown = _ := move_of_allows allowed
      rw [moves]
      refine continues_speaking (.requesting ticket) plays.tight (name?_request ..)
        (send_channel plays.tight accepts ticket "shutdown" none c.settings.shutdownGrace) fun tight => ?_
      exact {
        session := rfl
        calls := admits_setStage plays.calls (fun _ speaks => by cases speaks) (fun _ => rfl) rfl fun early => by
          cases early
        tight := tight
        tasks := by
          rw [unlimited]
          exact ⟨_, send_asked nobody accepts ticket "shutdown" none c.settings.shutdownGrace c.completions⟩
        spoken := ⟨params, notices, _, tracks.all_counted, rfl⟩
        greeted := fun member => plays.greeted (mem_of_other (name?_request ..) (by decide) member) }
    | false =>
      have moves : ({ c with session := .finished } : Connection).move .shuttingDown = _ := move_of_refused allowed
      rw [moves]
      exact plays.ends (e := { c with session := .finished }) rfl rfl rfl rfl
        ((withServer_quiet _ _).trans (setStage_quiet _ ticket ⟨rfl, rfl⟩)) fun _ _ speaks => by cases speaks
  · next idle =>
    obtain rfl := Scene.eq_fresh (plays.session.symm.trans idle)
    refine plays.follows c.dropWriter_quiet fun dropped => ?_
    exact dropped.ends (e := { c.dropWriter with session := .finished }) rfl rfl rfl rfl
      (finishShutdown_quiet _ ticket) fun _ _ speaks => by cases speaks
  · exact plays.continues (c.finishShutdown_quiet ticket)

/-- Whatever came of the request, the farewell goes on. -/
theorem Plays.exits (plays : Plays answered limit (.requesting ticket) c said) (completions : List Completion) :
    Continues answered limit c [] said ((({ c with completions } : Connection).dispatched
      (c.dispatcher.notify ticket "exit" none)).setStage ticket .announcingExit) := by
  obtain ⟨params, notices, id, counted, rfl⟩ := plays.spoken
  refine continues_speaking (.exiting ticket) plays.tight (name?_notification ..)
    (enqueue_channel c.dispatcher ticket _) fun tight => ?_
  exact {
    session := plays.session
    calls := admits_setStage plays.calls (own_of_speaker rfl) (fun _ => rfl) rfl fun early => by cases early
    tight := tight
    tasks := trivial
    spoken := ⟨params, notices, id, counted, List.append_assoc ..⟩
    greeted := fun member => plays.greeted (mem_of_other (name?_notification ..) (by decide) member) }

theorem Plays.closes (plays : Plays answered limit (.exiting ticket) c said) (completions : List Completion) :
    Continues answered limit c [] said ((({ c with completions } : Connection).dispatched
      (c.dispatcher.enqueue ticket .close)).setStage ticket .closingInput) := by
  obtain ⟨params, notices, id, counted, rfl⟩ := plays.spoken
  refine continues_speaking (.closing ticket) plays.tight name?_close
    (enqueue_channel c.dispatcher ticket _) fun tight => ?_
  exact {
    session := plays.session
    calls := admits_setStage plays.calls (own_of_speaker rfl) (fun _ => rfl) rfl fun early => by cases early
    tight := tight
    tasks := trivial
    spoken := ⟨params, notices, id, counted, List.append_assoc ..⟩
    greeted := fun member => plays.greeted (mem_of_other name?_close (by decide) member) }

end Farewell

/-! ## Calls -/

/-- A call takes up an outcome and says nothing. -/
theorem Plays.takesUp (plays : Plays answered limit scene c said) {ticket : Ticket} {outcome : Outcome}
    (taken : c.takeOutcome ticket = some (outcome, e))
    (tasks : scene.Tasks answered c.settings.shutdownGrace limit c.dispatcher
      (c.completions.filter fun d => d.ticket ≠ ticket))
    (quiet : Quiet answered e [] f) : Continues answered limit c [] said f := by
  obtain ⟨_, rfl⟩ := takeOutcome_eq taken
  let e : Connection := { c with completions := c.completions.filter fun d => d.ticket ≠ ticket }
  have same : Plays answered limit scene e said :=
    ⟨plays.session, plays.calls, plays.tight, tasks, plays.spoken, plays.greeted⟩
  exact same.continues quiet

/-- A document has been brought. -/
theorem Plays.synced (plays : Plays answered limit scene c said) (late : scene.isEarly = false) {ticket : Ticket}
    {outcome : Outcome} (taken : c.takeOutcome ticket = some (outcome, e)) :
    Continues answered limit c [] said (e.endCall ticket) := by
  cases speaker : scene.speaker? with
  | none =>
    refine plays.takesUp taken (plays.tasks.others late fun _ speaks => ?_) (e.endCall_quiet ticket)
    cases speaker.symm.trans speaks
  | some call =>
    by_cases own : call.1 = ticket
    · obtain ⟨_, rfl⟩ := takeOutcome_eq taken
      refine plays.ends (e := { c with completions := c.completions.filter fun d => d.ticket ≠ ticket }) rfl rfl rfl
        (plays.session.trans (Scene.session_of_speaker speaker)) (endCall_quiet _ ticket) fun other member speaks => ?_
      cases speaker.symm.trans speaks
      exact of_decide_eq_true (List.mem_filter.mp member).2 own
    · refine plays.takesUp taken (plays.tasks.others late fun other speaks => ?_) (e.endCall_quiet ticket)
      cases speaker.symm.trans speaks
      exact own

/-- A call that wants a ready connection has its turn. -/
theorem Plays.takeTurn (plays : Plays answered limit scene c said) (coherent : c.Coherent) (host : Host)
    (ticket : Ticket) :
    Continues answered limit c [] said (c.takeTurn host ticket).1 := by
  rw [Connection.takeTurn]
  split
  · next idle =>
    obtain rfl := Scene.eq_fresh (plays.session.symm.trans idle)
    exact plays.start coherent host ticket
  · exact plays.continues (c.handOver_quiet ticket)

theorem Plays.pollStage (plays : Plays answered limit scene c said) (coherent : c.Coherent) (host : Host)
    {ticket : Ticket} {stage : CallStage} (stands : c.stage? ticket = some stage) {out : Connection × Option CallResult}
    (polled : c.pollStage host ticket stage = some out) : Continues answered limit c [] said out.1 := by
  have admits := plays.admits stands
  cases stage with
  | queuing =>
    obtain ⟨_, same⟩ := Option.ite_none_right_eq_some.mp polled
    cases same
    exact plays.takeTurn coherent host ticket
  | closingQueue =>
    obtain ⟨_, same⟩ := Option.ite_none_right_eq_some.mp polled
    cases same
    exact plays.beginShutdown coherent ticket
  | handshaking =>
    obtain ⟨⟨outcome, e⟩, taken, rfl⟩ := Option.map_eq_some_iff.mp polled
    obtain rfl : scene = .handshaking ticket := Scene.eq_of_speaker (admits.speaker rfl)
    exact plays.handshake taken
  | announcing =>
    obtain ⟨⟨outcome, e⟩, taken, rfl⟩ := Option.map_eq_some_iff.mp polled
    obtain rfl : scene = .announcing ticket := Scene.eq_of_speaker (admits.speaker rfl)
    exact plays.announced coherent taken
  | requestingShutdown =>
    obtain ⟨⟨outcome, e⟩, taken, rfl⟩ := Option.map_eq_some_iff.mp polled
    obtain rfl : scene = .requesting ticket := Scene.eq_of_speaker (admits.speaker rfl)
    obtain ⟨_, rfl⟩ := takeOutcome_eq taken
    exact plays.exits _
  | announcingExit =>
    obtain ⟨⟨outcome, e⟩, taken, rfl⟩ := Option.map_eq_some_iff.mp polled
    obtain rfl : scene = .exiting ticket := Scene.eq_of_speaker (admits.speaker rfl)
    obtain ⟨_, rfl⟩ := takeOutcome_eq taken
    exact plays.closes _
  | closingInput =>
    obtain ⟨⟨outcome, e⟩, taken, rfl⟩ := Option.map_eq_some_iff.mp polled
    obtain rfl : scene = .closing ticket := Scene.eq_of_speaker (admits.speaker rfl)
    exact plays.takesUp taken trivial (e.setStage_quiet ticket ⟨rfl, rfl⟩)
  | syncing kind =>
    obtain ⟨⟨outcome, e⟩, taken, rfl⟩ := Option.map_eq_some_iff.mp polled
    exact plays.synced (admits.late rfl) taken
  | awaitingReady =>
    obtain ⟨_, same⟩ := Option.ite_none_right_eq_some.mp polled
    cases same
    exact plays.continues (c.endCall_quiet ticket)
  | awaitingWriter deadline =>
    obtain ⟨_, same⟩ := Option.ite_none_right_eq_some.mp polled
    cases same
    exact plays.continues (c.setStage_quiet ticket ⟨rfl, rfl⟩)
  | awaitingExit deadline =>
    rw [Connection.pollStage] at polled
    split at polled
    · cases polled
      exact plays.continues (c.finishShutdown_quiet ticket)
    · obtain ⟨_, same⟩ := Option.ite_none_right_eq_some.mp polled
      cases same
      exact plays.continues ((c.withServer_quiet _).trans (setStage_quiet _ ticket ⟨rfl, rfl⟩))
  | awaitingKill =>
    obtain ⟨_, same⟩ := Option.ite_none_right_eq_some.mp polled
    cases same
    exact plays.continues (c.finishShutdown_quiet ticket)

theorem Plays.poll (plays : Plays answered limit scene c said) (coherent : c.Coherent) (host : Host)
    (ticket : Ticket) :
    Continues answered limit c [] said ((c.poll host ticket).getD (c, none)).1 := by
  cases polled : c.poll host ticket with
  | none => exact plays.continues (.refl c)
  | some out =>
    obtain ⟨stage, stands, goes⟩ := Option.bind_eq_some_iff.mp polled
    exact plays.pollStage coherent host stands goes

end Connection

/-! ## Steps -/

namespace Step

/-- The items that the writer takes in a step. -/
def taken (s : Step) : List Item :=
  match s.incident with
  | .takeItem => s.before.takeItem.1.toList
  | _ => []

/-- The items that enter the channel in a step: they come behind those that were in it before. -/
def queued (s : Step) : List Item :=
  (s.taken ++ s.after.dispatcher.channel.items).drop s.before.dispatcher.channel.items.length

/-- Whether the server answers the handshake in a step. -/
def Greets (s : Step) : Prop := ∃ bytes, s.incident = .read bytes ∧ s.before.Greets bytes

end Step

namespace Connection

variable {answered : Prop} {limit : Option Nat} {scene : Scene} {c : Connection} {said : List Item}

/-- Every incident goes on with the conversation, if no call is given up. -/
theorem Plays.undergo (plays : Plays answered limit scene c said) (coherent : c.Coherent) {incident : Incident}
    (kept : ∀ ticket, incident ≠ .cancelSync ticket)
    (greets : ∀ bytes, incident = .read bytes → c.Greets bytes → answered) :
    Continues answered limit c (c.step incident).taken said (c.undergo incident).1 := by
  cases incident with
  | ensureReady ticket =>
    have asked : Quiet answered c [] (c.addCall ticket .queuing) := c.addCall_quiet ticket ⟨rfl, rfl⟩
    exact plays.continues (asked.trans (lock_quiet _ _))
  | shutdown ticket =>
    have asked : Quiet answered c [] (c.addCall ticket .closingQueue) := c.addCall_quiet ticket ⟨rfl, rfl⟩
    exact plays.continues (asked.trans (lock_quiet _ _))
  | syncDocument ticket uri text => exact plays.syncDocument coherent ticket uri text
  | cancelSync ticket => exact absurd rfl (kept ticket)
  | poll host ticket => exact plays.poll coherent host ticket
  | exited code => exact plays.continues ((c.withServer_quiet _).trans (failUnexpectedly_quiet _ _ _))
  | outputEnded => exact plays.continues (c.withServer_quiet _)
  | resumeReader => exact plays.continues c.resumeReader_quiet
  | read bytes => exact plays.continues (c.read_quiet bytes (greets bytes rfl))
  | readFailed failure => exact plays.continues (c.readFailed_quiet failure)
  | takeItem => exact plays.continues c.takeItem_quiet
  | dropWriter => exact plays.continues c.dropWriter_quiet
  | releaseServer => exact plays.continues c.releaseServer_quiet
  | advance milliseconds => exact plays.continues (c.advanceTo_quiet (Nat.le_add_right ..))
  | watch ticket uri | unwatch ticket => exact plays.continues (quiet_of_same rfl rfl rfl rfl rfl fun _ => .inl)
  | collect ticket => exact plays.continues (c.routed_quiet _)
  | takeCollected ticket => exact plays.continues (c.takeCollected_quiet ticket)

/-- What an incident adds to the conversation was answered for before it. -/
theorem Plays.step (plays : Plays answered limit scene c said) (coherent : c.Coherent) {incident : Incident}
    (kept : ∀ ticket, incident ≠ .cancelSync ticket) :
    ∃ scene offered,
      c.dispatcher.channel.Conveys (c.step incident).taken offered (c.step incident).after.dispatcher.channel ∧
      (∀ item ∈ offered, item.isReply = true → item.Declines) ∧
      Plays (answered ∨ (c.step incident).Greets) limit scene (c.step incident).after (said ++ speech offered) ∧
      (initialized ∈ said ++ speech offered → answered) := by
  by_cases reads : ∃ bytes, incident = .read bytes
  · obtain ⟨bytes, rfl⟩ := reads
    have quiet : Quiet (answered ∨ (c.step (.read bytes)).Greets) c [] (c.read bytes) :=
      c.read_quiet bytes fun greets => .inr ⟨bytes, rfl, greets⟩
    obtain ⟨offered, declines, conveys⟩ := quiet.conveys plays.tight
    have silent : speech offered = [] := speech_of_replies fun item member => (declines item member).isReply
    refine ⟨scene, offered, conveys, fun item member _ => declines item member, ?_⟩
    rw [silent, List.append_nil]
    exact ⟨(plays.mono .inl).quiet quiet, plays.greeted⟩
  · obtain ⟨next, offered, conveys, replies, goesOn⟩ :=
      plays.undergo coherent kept fun bytes same => absurd ⟨bytes, same⟩ reads
    exact ⟨next, offered, conveys, replies, goesOn.mono .inl, goesOn.greeted⟩

end Connection

/-! ## Courses -/

section Courses

variable {settings : ServerSettings} {clock : Nat} {steps : List Step} {c : Connection}

/-- What a course has come to, with everything that was offered to the channel in it. -/
structure Conversed (steps : List Step) (c : Connection) (scene : Scene) (offered : List Item) : Prop where
  plays : c.Plays (∃ g ∈ steps, g.Greets) none scene (speech offered)
  past : c.dispatcher.channel.Past (steps.flatMap Step.taken) (steps.flatMap Step.queued) offered
  replies : ∀ item ∈ offered, item.isReply = true → item.Declines
  earlier : ∀ front s back, steps = front ++ s :: back → initialized ∈ s.queued → ∃ g ∈ front, g.Greets

theorem Conversed.step {scene : Scene} {offered : List Item} (conversed : Conversed steps c scene offered)
    (coherent : c.Coherent) {incident : Incident} (kept : ∀ ticket, incident ≠ .cancelSync ticket) :
    ∃ scene offered, Conversed (steps ++ [c.step incident]) (c.step incident).after scene offered := by
  obtain ⟨next, more, conveys, replies, plays, greeted⟩ := conversed.plays.step coherent kept
  have past := conversed.past.conveys conveys
  refine ⟨next, offered ++ more, ?_, ?_, ?_, ?_⟩
  · rw [speech_append]
    refine plays.mono fun greets => ?_
    obtain ⟨g, member, greets⟩ | now := greets
    · exact ⟨g, List.mem_append_left _ member, greets⟩
    · exact ⟨_, List.mem_append_right _ (List.mem_singleton_self _), now⟩
  · rw [List.flatMap_append, List.flatMap_append, List.flatMap_singleton, List.flatMap_singleton]
    exact past
  · exact List.forall_mem_append.mpr ⟨conversed.replies, replies⟩
  · intro front s back split queued
    obtain rfl | ⟨back, last, rfl⟩ := List.eq_nil_or_concat back
    · obtain ⟨rfl, same⟩ := List.append_inj' split rfl
      cases same
      refine greeted ?_
      rw [← speech_append]
      refine List.mem_filter.mpr ⟨past.entered.subset (List.mem_append_right _ queued), ?_⟩
      rfl
    · rw [List.concat_eq_append, ← List.cons_append, ← List.append_assoc] at split
      obtain ⟨rfl, _⟩ := List.append_inj' split rfl
      exact conversed.earlier front s back rfl queued

theorem Course.conversed (course : Course settings clock steps c)
    (kept : ∀ s ∈ steps, ∀ ticket, s.incident ≠ .cancelSync ticket) :
    ∃ scene offered, Conversed steps c scene offered := by
  induction course with
  | start =>
    refine ⟨.fresh, [], ?_, Channel.past_fresh _, List.forall_mem_nil _, fun front s back split => ?_⟩
    · exact Connection.plays_fresh _ settings clock
    · cases front <;> cases split
  | step incident course ih =>
    obtain ⟨before, last⟩ := List.forall_mem_append.mp kept
    obtain ⟨scene, offered, conversed⟩ := ih before
    exact conversed.step course.coherent (last _ (List.mem_singleton_self _))

theorem Connection.course_incidents (c : Connection) (incidents : List Incident) :
    (c.course incidents).1.map Step.incident = incidents := by
  induction incidents generalizing c with
  | nil => rfl
  | cons incident incidents ih => exact congrArg (incident :: ·) (ih _)

theorem Connection.course_kept (c : Connection) {incidents : List Incident}
    (kept : ∀ incident ∈ incidents, ∀ ticket, incident ≠ .cancelSync ticket) :
    ∀ s ∈ (c.course incidents).1, ∀ ticket, s.incident ≠ .cancelSync ticket := by
  intro s member
  have given := List.mem_map_of_mem (f := Step.incident) member
  rw [Connection.course_incidents] at given
  exact kept _ given

end Courses

end BlockDiscovery.Session
