import BlockDiscovery.Proofs.Session.Ending
import BlockDiscovery.Proofs.Session.Patience

/-! # Scenes of a conversation

What a connection may say next depends on who holds the server.  A scene tells this, with the one
call that speaks in it, and `Stands` says that what was said so far leads to it.  Most of what
happens to a connection leaves the scene alone, which is what `Quiet` says.
-/

namespace BlockDiscovery.Session

open BlockDiscovery BlockDiscovery.Json BlockDiscovery.Protocol BlockDiscovery.Config Dispatcher

/-! ## Scenes -/

namespace CallStage

/-- Whether a call at this stage has said something and will go on. -/
def speaks : CallStage → Bool
  | .handshaking | .announcing | .requestingShutdown | .announcingExit | .closingInput => true
  | _ => false

/-- Whether a call at this stage brings a document. -/
def isSyncing : CallStage → Bool
  | .syncing _ => true
  | _ => false

end CallStage

/-- How far a conversation has come, with the call that is speaking. -/
inductive Scene where
  | fresh
  | handshaking (ticket : Ticket)
  | announcing (ticket : Ticket)
  | running
  | requesting (ticket : Ticket)
  | exiting (ticket : Ticket)
  | closing (ticket : Ticket)
  /-- Nothing will be said any more. -/
  | ended

namespace Scene

/-- Who holds the server. -/
def session : Scene → SessionState
  | .fresh => .idle
  | .running => .running
  | _ => .finished

/-- The call that is speaking. -/
def speaker? : Scene → Option (Ticket × CallStage)
  | .handshaking ticket => some (ticket, .handshaking)
  | .announcing ticket => some (ticket, .announcing)
  | .requesting ticket => some (ticket, .requestingShutdown)
  | .exiting ticket => some (ticket, .announcingExit)
  | .closing ticket => some (ticket, .closingInput)
  | .fresh | .running | .ended => none

theorem eq_running {scene : Scene} (running : scene.session = .running) : scene = .running := by
  cases scene with
  | running => rfl
  | _ => cases running

theorem eq_fresh {scene : Scene} (idle : scene.session = .idle) : scene = .fresh := by
  cases scene with
  | fresh => rfl
  | _ => cases idle

/-- The call that is speaking tells the scene. -/
theorem eq_of_speaker {scene : Scene} {ticket : Ticket} {stage : CallStage}
    (speaker : scene.speaker? = some (ticket, stage)) :
    scene = match stage with
      | .handshaking => .handshaking ticket
      | .announcing => .announcing ticket
      | .requestingShutdown => .requesting ticket
      | .announcingExit => .exiting ticket
      | .closingInput => .closing ticket
      | _ => .ended := by
  cases scene <;> cases speaker <;> rfl

/-- Who speaks has taken the session. -/
theorem session_of_speaker {scene : Scene} {call : Ticket × CallStage} (speaker : scene.speaker? = some call) :
    scene.session = .finished := by
  cases scene with
  | fresh | running | ended => cases speaker
  | _ => rfl

/-- Whether the handshake has not been answered yet. -/
def isEarly : Scene → Bool
  | .fresh | .handshaking _ => true
  | _ => false

/-- A call that there can be: the one that is speaking, or one that says nothing. -/
structure Admits (scene : Scene) (call : Ticket × CallStage) : Prop where
  speaker : call.2.speaks = true → scene.speaker? = some call
  late : call.2.isSyncing = true → scene.isEarly = false

theorem admits_of_silent {scene : Scene} {call : Ticket × CallStage}
    (silent : call.2.speaks = false ∧ call.2.isSyncing = false) : scene.Admits call :=
  ⟨fun speaks => (by cases silent.1.symm.trans speaks), fun syncs => (by cases silent.2.symm.trans syncs)⟩

/-- What was said when the farewell has come to its message with the given number. -/
def Parted (language : String) (said : List Item) (count : Nat) : Prop :=
  ∃ params notices id, Counted notices ∧
    said = opening params ++ notices.map (Notice.item language) ++ (parting id).take count

/-- What was said before a scene, with the versions on record. -/
def Spoken (language : String) (documents : List (String × Nat)) (said : List Item) : Scene → Prop
  | .fresh => documents = [] ∧ said = []
  | .handshaking _ => documents = [] ∧ ∃ params, said = (opening params).take 1
  | .announcing _ => documents = [] ∧ ∃ params, said = opening params
  | .running => ∃ params notices, Tracks notices documents ∧
      said = opening params ++ notices.map (Notice.item language)
  | .requesting _ => Parted language said 1
  | .exiting _ => Parted language said 2
  | .closing _ => Parted language said 3
  | .ended => Conforms language said

section Spoken

variable {language : String} {documents : List (String × Nat)} {said : List Item} {scene : Scene}

theorem Parted.conforms {count : Nat} (parted : Parted language said count) : Conforms language said := by
  obtain ⟨params, notices, id, counted, rfl⟩ := parted
  exact conforms_parting counted language params id count

theorem Spoken.conforms (spoken : scene.Spoken language documents said) : Conforms language said := by
  cases scene with
  | fresh => exact spoken.2 ▸ (conforms_opening language .null).initial List.nil_prefix
  | handshaking ticket =>
    obtain ⟨_, params, rfl⟩ := spoken
    exact (conforms_opening language params).initial (List.take_prefix ..)
  | announcing ticket =>
    obtain ⟨_, params, rfl⟩ := spoken
    exact conforms_opening language params
  | running =>
    obtain ⟨params, notices, tracks, rfl⟩ := spoken
    exact (conforms_parting tracks.all_counted language params 0 0).initial (List.prefix_append ..)
  | requesting | exiting | closing => exact Parted.conforms spoken
  | ended => exact spoken

end Spoken

/-- What the dispatcher has to do: nobody but the handshake and the farewell asks it for an answer.  A
limit may be set once the farewell has begun. -/
def Tasks (answered : Prop) (grace : Nat) (limit : Option Nat) (d : Dispatcher) (told : List Completion) :
    Scene → Prop
  | .fresh => limit = none ∧ d.Idle told
  | .handshaking ticket => limit = none ∧ ∃ timeout, Solo ⟨1, "initialize", ticket, timeout⟩ answered d told
  | .announcing _ | .running => limit = none ∧ d.sends = []
  | .requesting ticket => ∃ id, Asked ⟨id, "shutdown", ticket, grace⟩ limit d told
  | _ => True

theorem Tasks.others {answered : Prop} {grace : Nat} {limit : Option Nat} {d : Dispatcher} {told : List Completion}
    {scene : Scene} (tasks : scene.Tasks answered grace limit d told) (late : scene.isEarly = false) {ticket : Ticket}
    (other : ∀ call, scene.speaker? = some call → call.1 ≠ ticket) :
    scene.Tasks answered grace limit d (told.filter fun c => c.ticket ≠ ticket) := by
  cases scene with
  | fresh | handshaking => cases late
  | announcing | running => exact tasks
  | requesting owner =>
    obtain ⟨id, asked⟩ := tasks
    exact ⟨id, asked.others (other _ rfl)⟩
  | exiting | closing | ended => trivial

end Scene

namespace Connection

variable {answered : Prop} {scene : Scene} {c e f : Connection} {taken said : List Item}

/-! ## What leaves the scene alone -/

/-- Nothing is said from one connection to the next, while the writer takes some items. -/
structure Quiet (answered : Prop) (c : Connection) (taken : List Item) (e : Connection) : Prop where
  settings : e.settings = c.settings
  session : e.session = c.session
  documents : e.documents = c.documents
  calls : ∀ call ∈ e.calls, call ∈ c.calls ∨ call.2.speaks = false ∧ call.2.isSyncing = false
  conveys : c.dispatcher.channel.Tight → ∃ offered, (∀ item ∈ offered, item.Declines) ∧
    c.dispatcher.channel.Conveys taken offered e.dispatcher.channel
  tasks : ∀ (scene : Scene) (grace : Nat) (limit : Option Nat),
    scene.Tasks answered grace limit c.dispatcher c.completions →
    scene.Tasks answered grace limit e.dispatcher e.completions

theorem Quiet.trans (first : Quiet answered c taken e) (second : Quiet answered e [] f) :
    Quiet answered c taken f where
  settings := second.settings.trans first.settings
  session := second.session.trans first.session
  documents := second.documents.trans first.documents
  calls call member := (second.calls call member).elim (first.calls call) .inr
  conveys tight := by
    obtain ⟨before, early, conveys⟩ := first.conveys tight
    obtain ⟨after, late, continues⟩ := second.conveys conveys.tight
    exact ⟨before ++ after, List.forall_mem_append.mpr ⟨early, late⟩, conveys.trans continues⟩
  tasks scene grace limit tasks := second.tasks scene grace limit (first.tasks scene grace limit tasks)

/-- What has nothing to do with the conversation may change, and calls that say nothing come and go. -/
theorem quiet_of_same (dispatcher : e.dispatcher = c.dispatcher) (completions : e.completions = c.completions)
    (settings : e.settings = c.settings) (session : e.session = c.session) (documents : e.documents = c.documents)
    (calls : ∀ call ∈ e.calls, call ∈ c.calls ∨ call.2.speaks = false ∧ call.2.isSyncing = false) :
    Quiet answered c [] e where
  settings := settings
  session := session
  documents := documents
  calls := calls
  conveys tight := ⟨[], List.forall_mem_nil _, dispatcher ▸ tight.rests⟩
  tasks scene grace limit tasks := by rwa [dispatcher, completions]

section Quiet

variable (c) (ticket : Ticket)

theorem Quiet.refl : Quiet answered c [] c := quiet_of_same rfl rfl rfl rfl rfl fun _ => .inl

theorem dispatched_quiet {result : Dispatcher × List Completion}
    (passive : c.dispatcher.Passive 1 answered taken result) : Quiet answered c taken (c.dispatched result) where
  settings := rfl
  session := rfl
  documents := rfl
  calls _ := .inl
  conveys := passive.conveys
  tasks scene grace limit tasks := by
    cases scene with
    | fresh => exact ⟨tasks.1, tasks.2.passive passive⟩
    | handshaking ticket =>
      obtain ⟨unlimited, timeout, solo⟩ := tasks
      exact ⟨unlimited, timeout, solo.passive passive⟩
    | announcing | running => exact ⟨tasks.1, passive.sends_nil tasks.2⟩
    | requesting ticket =>
      obtain ⟨id, asked⟩ := tasks
      exact ⟨id, asked.passive passive⟩
    | exiting | closing | ended => trivial

theorem routed_quiet (result : Router × List Collected) : Quiet answered c [] (c.routed result) :=
  quiet_of_same rfl rfl rfl rfl rfl fun _ => .inl

theorem withServer_quiet (change : ServerHandle → ServerHandle) : Quiet answered c [] (c.withServer change) :=
  quiet_of_same rfl rfl rfl rfl rfl fun _ => .inl

theorem lifecycle_quiet (lifecycle : Lifecycle) : Quiet answered c [] { c with lifecycle } :=
  quiet_of_same rfl rfl rfl rfl rfl fun _ => .inl

theorem move_quiet (next : Phase) : Quiet answered c [] (c.move next).2 := c.lifecycle_quiet _

theorem addCall_quiet {stage : CallStage} (silent : stage.speaks = false ∧ stage.isSyncing = false) :
    Quiet answered c [] (c.addCall ticket stage) := by
  refine quiet_of_same rfl rfl rfl rfl rfl fun call member => ?_
  obtain old | new := List.mem_append.mp member
  · exact .inl old
  · rw [List.mem_singleton.mp new]
    exact .inr silent

theorem setStage_quiet {stage : CallStage} (silent : stage.speaks = false ∧ stage.isSyncing = false) :
    Quiet answered c [] (c.setStage ticket stage) := by
  refine quiet_of_same rfl rfl rfl rfl rfl fun call member => ?_
  obtain ⟨old, inside, rfl⟩ := List.mem_map.mp member
  split
  · exact .inr silent
  · exact .inl inside

theorem endCall_quiet : Quiet answered c [] (c.endCall ticket) :=
  quiet_of_same rfl rfl rfl rfl rfl fun _ member => .inl (List.mem_filter.mp member).1

theorem lock_quiet (lock : List Ticket) : Quiet answered c [] { c with lock } :=
  quiet_of_same rfl rfl rfl rfl rfl fun _ => .inl

/-- A call lets the next one have the session. -/
theorem leave_quiet : Quiet answered c [] ((c.unlock ticket).endCall ticket) :=
  (c.lock_quiet _).trans (endCall_quiet _ ticket)

theorem handOver_quiet : Quiet answered c [] ((c.unlock ticket).setStage ticket .awaitingReady) :=
  (c.lock_quiet _).trans (setStage_quiet _ ticket ⟨rfl, rfl⟩)

theorem dropWriter_quiet : Quiet answered c [] c.dropWriter :=
  (c.dispatched_quiet .drop).trans (withServer_quiet _ _)

theorem releaseServer_quiet : Quiet answered c [] c.releaseServer := by
  rw [releaseServer]
  split
  · exact .refl c
  · exact c.dropWriter_quiet.trans (withServer_quiet _ _)

theorem abandon_quiet (reason : String) (failure : Failure) : Quiet answered c [] (c.abandon reason failure) :=
  (c.dispatched_quiet (.reject reason failure)).trans (routed_quiet _ _)

theorem failWith_quiet (reason : String) (failure : Failure) : Quiet answered c [] (c.failWith reason failure) := by
  have fails : c.failWith reason failure =
      if (c.move (.failed reason)).1 then (c.move (.failed reason)).2.abandon reason failure
      else (c.move (.failed reason)).2 := rfl
  rw [fails]
  split
  · exact (c.move_quiet _).trans (abandon_quiet _ reason failure)
  · exact c.move_quiet _

theorem failUnexpectedly_quiet (reason : String) (failure : Failure) :
    Quiet answered c [] (c.failUnexpectedly reason failure) := by
  rw [failUnexpectedly]
  dsimp only
  split
  · exact (c.lifecycle_quiet _).trans (abandon_quiet _ reason failure)
  · exact c.lifecycle_quiet _

theorem resumeReader_quiet : Quiet answered c [] c.resumeReader := by
  rw [resumeReader]
  split
  · split
    · exact (c.withServer_quiet _).trans (failUnexpectedly_quiet _ _ _)
    · split
      · exact (c.withServer_quiet _).trans (failUnexpectedly_quiet _ _ _)
      · exact .refl c
    · exact .refl c
  · exact .refl c

theorem readFailed_quiet (failure : Failure) : Quiet answered c [] (c.readFailed failure) :=
  (c.withServer_quiet _).trans (failWith_quiet _ _ _)

theorem takeItem_quiet : Quiet answered c c.takeItem.1.toList c.takeItem.2 := by
  have item : c.dispatcher.takeItem.1 = c.dispatcher.channel.take.1 := by
    rw [Dispatcher.takeItem]
    dsimp only
    split <;> rfl
  have took : Quiet answered c c.dispatcher.takeItem.1.toList (c.dispatched c.dispatcher.takeItem.2) :=
    item ▸ c.dispatched_quiet .take
  rw [takeItem]
  dsimp only
  split
  · exact took.trans (dropWriter_quiet _)
  · exact took

theorem takeCollected_quiet : Quiet answered c [] (((c.takeCollected ticket).map Prod.snd).getD c) := by
  rw [takeCollected]
  cases c.collected.find? fun d => d.ticket = ticket with
  | none => exact .refl c
  | some => exact quiet_of_same rfl rfl rfl rfl rfl fun _ => .inl

theorem finishShutdown_quiet : Quiet answered c [] (c.finishShutdown ticket).1 := by
  have released : Quiet answered c [] c.releaseServer := c.releaseServer_quiet
  have finishes : (c.finishShutdown ticket).1 =
      ((if (c.releaseServer.move .closed).1 then
        (c.releaseServer.move .closed).2.abandon "connection closed" .connectionClosed
        else (c.releaseServer.move .closed).2).unlock ticket).endCall ticket := rfl
  rw [finishes]
  split
  · exact ((released.trans (move_quiet _ _)).trans (abandon_quiet _ _ _)).trans (leave_quiet _ ticket)
  · exact (released.trans (move_quiet _ _)).trans (leave_quiet _ ticket)

/-! ## Reading -/

/-- A response without an error to the first request, while that is pending. -/
def Hears (message : Value) : Prop :=
  (∃ p ∈ c.dispatcher.pending, p.id = 1) ∧
    ∃ body, Incoming.ofValue? message = some (.response 1 body) ∧ responseError? body = none

theorem receive_quiet (message : Value) (hears : c.Hears message → answered) :
    Quiet answered c [] (c.receive message) := by
  rw [receive]
  split
  · exact .refl c
  · next id body shape =>
    refine c.dispatched_quiet (.resolve id body fun p member first own clean => ?_)
    exact hears ⟨⟨p, member, first⟩, body, own ▸ shape, clean⟩
  · next id method _ =>
    have answers : Quiet answered c [] (c.dispatched ((c.dispatcher.tryEnqueue (methodNotFound id method)).2, [])) :=
      c.dispatched_quiet (.answers id method)
    rw [dispatched, List.append_nil] at answers
    exact answers
  · exact c.routed_quiet _

/-- A message makes nothing pending. -/
theorem receive_pending (message : Value) :
    ∀ p ∈ (c.receive message).dispatcher.pending, p ∈ c.dispatcher.pending := by
  intro p member
  rw [receive] at member
  split at member
  · exact member
  · next id body _ =>
    obtain ⟨_, same⟩ | ⟨_, _, _, _, delivers⟩ := resolve_reaches c.dispatcher id body
    · rw [dispatched, same] at member
      exact member
    · rw [dispatched, delivers, deliver_frame] at member
      exact (List.mem_filter.mp member).1
  · next id method _ =>
    obtain ⟨_, same, _⟩ := tryEnqueue_frame c.dispatcher (methodNotFound id method)
    rw [same] at member
    exact member
  · exact member

theorem foldl_receive_quiet (messages : List Value) (hears : ∀ message ∈ messages, c.Hears message → answered) :
    Quiet answered c [] (messages.foldl receive c) := by
  induction messages generalizing c with
  | nil => exact .refl c
  | cons message messages ih =>
    obtain ⟨now, later⟩ := List.forall_mem_cons.mp hears
    refine (c.receive_quiet message now).trans (ih _ fun next member heard => later next member ?_)
    obtain ⟨⟨p, pending, first⟩, heard⟩ := heard
    exact ⟨⟨p, c.receive_pending message p pending, first⟩, heard⟩

/-- Whether a read of the server's output answers the handshake. -/
def Greets (bytes : ByteArray) : Prop :=
  ∃ messages decoder, c.decoder.feed bytes = (.ok messages, decoder) ∧ ∃ message ∈ messages, c.Hears message

theorem read_quiet (bytes : ByteArray) (greets : c.Greets bytes → answered) : Quiet answered c [] (c.read bytes) := by
  have decoded (decoder : Framing.FrameDecoder) : Quiet answered c [] { c with decoder } :=
    quiet_of_same rfl rfl rfl rfl rfl fun _ => .inl
  rw [read]
  split
  · next messages decoder fed =>
    refine (decoded decoder).trans (foldl_receive_quiet _ messages fun message member heard => ?_)
    exact greets ⟨messages, decoder, fed, message, member, heard⟩
  · next error decoder _ => exact (decoded decoder).trans (readFailed_quiet _ _)

theorem advanceTo_quiet {time : Nat} (later : c.clock ≤ time) : Quiet answered c [] (c.advanceTo time) :=
  ((c.dispatched_quiet (.advance time later)).trans (routed_quiet _ _)).trans (resumeReader_quiet _)

end Quiet

end Connection

end BlockDiscovery.Session
