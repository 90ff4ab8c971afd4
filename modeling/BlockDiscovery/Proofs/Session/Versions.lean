import BlockDiscovery.Proofs.Session.Outcome
import Mathlib.Data.Finset.Range

/-! # Which version a text has

A ready connection counts the texts that it lets in, and a text has its number from then on,
whatever becomes of the call that brings it.  A text that is refused is not counted; one that is given
up while it waits for room has used up its number.
-/

namespace BlockDiscovery.Session

open BlockDiscovery.Json BlockDiscovery.Protocol BlockDiscovery.Config Dispatcher

namespace Connection

variable {c e f : Connection} {u : Ticket} {stage : CallStage} {host : Host}

/-! ## What lets no text in -/

/-- From one connection to the next no text is let in, a closed channel stays closed, and a channel has a
line only when it is full. -/
structure Passes (c e : Connection) : Prop where
  documents : e.documents = c.documents
  settings : e.settings = c.settings
  shut : c.dispatcher.channel.isOpen = false → e.dispatcher.channel.isOpen = false
  tight : c.dispatcher.channel.Tight → e.dispatcher.channel.Tight

theorem passes_of_same (documents : e.documents = c.documents) (settings : e.settings = c.settings)
    (dispatcher : e.dispatcher = c.dispatcher) : Passes c e :=
  ⟨documents, settings, dispatcher ▸ id, dispatcher ▸ id⟩

theorem Passes.refl (c : Connection) : Passes c c := passes_of_same rfl rfl rfl

theorem Passes.trans (first : Passes c e) (second : Passes e f) : Passes c f where
  documents := second.documents.trans first.documents
  settings := second.settings.trans first.settings
  shut := second.shut ∘ first.shut
  tight := second.tight ∘ first.tight

/-- What the conversation and the calls do not notice. -/
theorem passes_of_quiet {taken : List Item} (quiet : Quiet True c taken e) (rests : Rests c e) : Passes c e :=
  ⟨quiet.documents, quiet.settings, rests.shut, fun tight =>
    let ⟨_, _, conveys⟩ := quiet.conveys tight
    conveys.tight⟩

section Passes

variable (c)

theorem leave_passes : Passes c ((c.unlock u).endCall u) := passes_of_same rfl rfl rfl

theorem abandon_passes (reason : String) (failure : Failure) : Passes c (c.abandon reason failure) :=
  passes_of_quiet (c.abandon_quiet reason failure) (c.abandon_rests reason failure)

theorem releaseServer_passes : Passes c c.releaseServer :=
  passes_of_quiet c.releaseServer_quiet c.releaseServer_rests

theorem takeOutcome_passes {outcome : Outcome} (taken : c.takeOutcome u = some (outcome, e)) : Passes c e := by
  obtain ⟨_, _, same⟩ := Option.map_eq_some_iff.mp taken
  cases same
  exact passes_of_same rfl rfl rfl

theorem enqueue_passes (item : Item) :
    Passes c ((c.dispatched (c.dispatcher.enqueue u item)).setStage u stage) := by
  obtain ⟨_, _, same, _⟩ := enqueue_told c.dispatcher u item
  exact ⟨rfl, rfl, same.trans, enqueue_tight u item⟩

theorem send_passes (method : String) (params : Option Value) (timeout : Nat) :
    Passes c ((c.dispatched (c.dispatcher.send u method params timeout)).setStage u stage) :=
  ⟨rfl, rfl, (send_asks c.dispatcher u method params timeout).shut, send_tight u method params timeout⟩

theorem handshakeFailed_passes (failure : Failure) : Passes c (c.handshakeFailed u failure).1 := by
  let reason := "initialize failed: " ++ failure.message
  have fails : Passes c (c.failWith reason (.connectionFailed reason)) :=
    passes_of_quiet (failWith_quiet _ _ _) (failWith_rests _ _ _)
  exact (fails.trans (releaseServer_passes _)).trans (leave_passes _)

theorem beginHandshake_passes : Passes c (c.beginHandshake host u).1 := by
  rw [beginHandshake]
  split
  · exact c.handshakeFailed_passes _
  · exact c.send_passes _ _ _

theorem start_passes : Passes c (c.start host u).1 := by
  rw [start]
  dsimp only
  split
  · refine Passes.trans (Passes.trans ?_ (abandon_passes _ _ _)) (leave_passes _)
    exact passes_of_same rfl rfl rfl
  · refine Passes.trans ?_ (beginHandshake_passes _)
    exact passes_of_same rfl rfl rfl

theorem takeTurn_passes : Passes c (c.takeTurn host u).1 := by
  rw [takeTurn]
  split
  · exact c.start_passes
  · exact passes_of_same rfl rfl rfl

theorem finishHandshake_passes : Passes c (c.finishHandshake u).1 := by
  have moved : Passes c (c.move .ready).2 := passes_of_same rfl rfl rfl
  rw [finishHandshake]
  dsimp only
  split
  · exact (moved.trans (releaseServer_passes _)).trans (leave_passes _)
  · exact moved.trans (passes_of_same rfl rfl rfl)

theorem finishShutdown_passes : Passes c (c.finishShutdown u).1 := by
  have moved : Passes c (c.releaseServer.move .closed).2 :=
    c.releaseServer_passes.trans (passes_of_same rfl rfl rfl)
  rw [finishShutdown]
  dsimp only
  split
  · exact (moved.trans (abandon_passes _ _ _)).trans (leave_passes _)
  · exact moved.trans (leave_passes _)

theorem beginShutdown_passes : Passes c (c.beginShutdown u).1 := by
  have moved : Passes c (({ c with session := .finished } : Connection).move .shuttingDown).2 :=
    passes_of_same rfl rfl rfl
  rw [beginShutdown]
  split
  · dsimp only
    split
    · exact moved.trans (send_passes _ _ _ _)
    · exact moved.trans (passes_of_same rfl rfl rfl)
  · have dropped : Passes c { c.dropWriter with session := .finished } :=
      (passes_of_quiet c.dropWriter_quiet c.dropWriter_rests).trans (passes_of_same rfl rfl rfl)
    exact dropped.trans (finishShutdown_passes _)
  · exact c.finishShutdown_passes

theorem pollStage_passes {out : Connection × Option CallResult} (polled : c.pollStage host u stage = some out) :
    Passes c out.1 := by
  cases stage with
  | queuing =>
    obtain ⟨_, same⟩ := Option.ite_none_right_eq_some.mp polled
    cases same
    exact c.takeTurn_passes
  | closingQueue =>
    obtain ⟨_, same⟩ := Option.ite_none_right_eq_some.mp polled
    cases same
    exact c.beginShutdown_passes
  | handshaking =>
    obtain ⟨⟨outcome, e⟩, taken, rfl⟩ := Option.map_eq_some_iff.mp polled
    have takes := c.takeOutcome_passes taken
    cases outcome with
    | error failure => exact takes.trans (handshakeFailed_passes _ failure)
    | ok => exact takes.trans (enqueue_passes _ _)
  | announcing =>
    obtain ⟨⟨outcome, e⟩, taken, rfl⟩ := Option.map_eq_some_iff.mp polled
    have takes := c.takeOutcome_passes taken
    cases outcome with
    | error failure => exact takes.trans (handshakeFailed_passes _ failure)
    | ok => exact takes.trans (finishHandshake_passes _)
  | requestingShutdown | announcingExit =>
    obtain ⟨⟨outcome, e⟩, taken, rfl⟩ := Option.map_eq_some_iff.mp polled
    exact (c.takeOutcome_passes taken).trans (enqueue_passes _ _)
  | closingInput | syncing =>
    obtain ⟨⟨outcome, e⟩, taken, rfl⟩ := Option.map_eq_some_iff.mp polled
    exact (c.takeOutcome_passes taken).trans (passes_of_same rfl rfl rfl)
  | awaitingReady | awaitingWriter =>
    obtain ⟨_, same⟩ := Option.ite_none_right_eq_some.mp polled
    cases same
    exact passes_of_same rfl rfl rfl
  | awaitingExit deadline =>
    rw [pollStage] at polled
    split at polled
    · cases polled
      exact c.finishShutdown_passes
    · obtain ⟨_, same⟩ := Option.ite_none_right_eq_some.mp polled
      cases same
      exact passes_of_same rfl rfl rfl
  | awaitingKill =>
    obtain ⟨_, same⟩ := Option.ite_none_right_eq_some.mp polled
    cases same
    exact c.finishShutdown_passes

end Passes

/-- Only a text that is brought can be let in. -/
theorem undergo_passes (c : Connection) {incident : Incident}
    (other : ∀ ticket uri text, incident ≠ .syncDocument ticket uri text) : Passes c (c.undergo incident).1 := by
  cases incident with
  | syncDocument ticket uri text => exact absurd rfl (other ticket uri text)
  | poll host ticket =>
    rw [undergo]
    cases polled : c.poll host ticket with
    | none => exact .refl c
    | some out =>
      obtain ⟨stage, _, goes⟩ := Option.bind_eq_some_iff.mp polled
      exact c.pollStage_passes goes
  | cancelSync ticket =>
    rw [undergo]
    split
    · exact ⟨rfl, rfl, id, fun tight => tight.withdraw ticket⟩
    · exact .refl c
  | exited code =>
    exact passes_of_quiet ((c.withServer_quiet _).trans (failUnexpectedly_quiet _ _ _))
      ((c.withServer_rests _).trans (failUnexpectedly_rests _ _ _))
  | resumeReader => exact passes_of_quiet c.resumeReader_quiet c.resumeReader_rests
  | read bytes => exact passes_of_quiet (c.read_quiet bytes fun _ => trivial) (c.read_rests bytes)
  | readFailed failure => exact passes_of_quiet (c.readFailed_quiet failure) (c.readFailed_rests failure)
  | takeItem => exact passes_of_quiet c.takeItem_quiet c.takeItem_rests
  | dropWriter => exact passes_of_quiet c.dropWriter_quiet c.dropWriter_rests
  | releaseServer => exact c.releaseServer_passes
  | advance milliseconds =>
    exact passes_of_quiet (c.advanceTo_quiet (Nat.le_add_right ..)) (c.advanceTo_rests _)
  | takeCollected ticket =>
    rw [undergo]
    cases taken : c.takeCollected ticket with
    | none => exact .refl c
    | some =>
      obtain ⟨_, _, rfl⟩ := Option.map_eq_some_iff.mp taken
      exact passes_of_same rfl rfl rfl
  | _ => exact passes_of_same rfl rfl rfl

theorem syncDocument_shut (shut : c.dispatcher.channel.isOpen = false) (u : Ticket) (uri text : String) :
    (c.syncDocument u uri text).1.dispatcher = c.dispatcher ∧
    (c.phase = .ready →
      (c.syncDocument u uri text).1.completions = c.completions ++ [⟨u, .error .writerClosed⟩]) := by
  by_cases ready : c.phase = .ready
  · have refused (item : Item) : c.dispatcher.channel.push u item = (.refused, c.dispatcher.channel) := by
      simp [Channel.push, shut]
    rw [syncDocument_of_ready ready]
    simp only [dispatched, addCall, notify, enqueue, refused]
    exact ⟨trivial, fun _ => trivial⟩
  · obtain ⟨failure, refused⟩ := checkReady_of_unready ready
    rw [Connection.syncDocument, refused]
    exact ⟨rfl, fun same => absurd same ready⟩

theorem undergo_shut (shut : c.dispatcher.channel.isOpen = false) (incident : Incident) :
    (c.undergo incident).1.dispatcher.channel.isOpen = false := by
  by_cases brings : ∃ ticket uri text, incident = .syncDocument ticket uri text
  · obtain ⟨ticket, uri, text, rfl⟩ := brings
    rw [undergo, (syncDocument_shut shut ticket uri text).1]
    exact shut
  · exact (c.undergo_passes fun ticket uri text same => brings ⟨ticket, uri, text, same⟩).shut shut

end Connection

/-! ## Texts that were let in -/

namespace Step

/-- The text that a ready connection lets in, with the version that it gets. -/
def letIn? (s : Step) : Option Notice :=
  match s.incident with
  | .syncDocument _ uri text =>
    if s.before.phase = .ready then some ⟨uri, (lookup uri s.before.documents).getD 0 + 1, text⟩ else none
  | _ => none

/-- The ticket of the call that is begun. -/
def begun? (s : Step) : Option Ticket :=
  match s.incident with
  | .ensureReady u | .shutdown u | .syncDocument u _ _ => some u
  | _ => none

end Step

namespace Connection

variable {tasks : Nat} {c : Connection} {u : Ticket}

theorem step_tracks {notices : List Notice} (tracks : Tracks notices c.documents) (incident : Incident) :
    Tracks (notices ++ (c.step incident).letIn?.toList) (c.step incident).after.documents ∧
      (c.step incident).after.settings = c.settings := by
  by_cases brings : ∃ ticket uri text, incident = .syncDocument ticket uri text
  · obtain ⟨ticket, uri, text, rfl⟩ := brings
    by_cases ready : c.phase = .ready
    · have lets : (c.step (.syncDocument ticket uri text)).letIn? =
          some ⟨uri, (lookup uri c.documents).getD 0 + 1, text⟩ := if_pos ready
      have after : (c.step (.syncDocument ticket uri text)).after = (c.syncDocument ticket uri text).1 := rfl
      have version := (syncMessage_notice tracks uri text).1
      have next := tracks.next uri text
      rw [← version] at lets next
      rw [lets, after, syncDocument_of_ready ready]
      exact ⟨next, rfl⟩
    · have lets : (c.step (.syncDocument ticket uri text)).letIn? = none := if_neg ready
      have after : (c.step (.syncDocument ticket uri text)).after = (c.syncDocument ticket uri text).1 := rfl
      obtain ⟨failure, refused⟩ := checkReady_of_unready ready
      rw [lets, after, Connection.syncDocument, refused]
      exact ⟨(List.append_nil notices).symm ▸ tracks, rfl⟩
  · have passes : Passes c (c.step incident).after :=
      c.undergo_passes fun ticket uri text same => brings ⟨ticket, uri, text, same⟩
    have lets : (c.step incident).letIn? = none := by
      rw [Step.letIn?]
      split
      · next same => exact absurd ⟨_, _, _, same⟩ brings
      · rfl
    rw [lets, passes.documents]
    exact ⟨(List.append_nil notices).symm ▸ tracks, passes.settings⟩

/-- A call that is begun has a new ticket. -/
theorem Sound.begins (h : c.Sound u) {incident : Incident} (begun : (c.step incident).begun? = some u) :
    (c.step incident).after.Sound (u + 1) := by
  cases incident with
  | ensureReady v =>
    cases begun
    exact h.joins (.ensureReady u) (.inl rfl)
  | shutdown v =>
    cases begun
    exact h.joins (.shutdown u) (.inr rfl)
  | syncDocument v uri text =>
    cases begun
    exact (h.mono (Nat.le_succ u)).syncDocument (Nat.lt_succ_self u) h.regular.idle uri text
  | _ => cases begun

theorem Sound.goesOn (h : c.Sound tasks) {incident : Incident} (begun : (c.step incident).begun? = none) :
    (c.step incident).after.Sound tasks := by
  cases incident with
  | ensureReady | shutdown | syncDocument => cases begun
  | cancelSync u =>
    refine ⟨(h.coherent.undergo (.cancelSync u)).coherent, ?_⟩
    change Regular _ (c.undergo (.cancelSync u)).1
    rw [Connection.undergo]
    split
    · next stands => exact h.regular.cancelSync (Regular.mem_of_stage? stands)
    · exact h.regular
  | poll host u =>
    change Sound _ (c.undergo (.poll host u)).1
    rw [Connection.undergo]
    cases polled : c.poll host u with
    | none => exact h
    | some out => exact h.poll polled
  | watch u uri => exact h.watch u uri
  | unwatch u => exact h.unwatch u
  | collect u => exact h.collect u
  | takeCollected u =>
    change Sound _ (c.undergo (.takeCollected u)).1
    rw [Connection.undergo]
    cases taken : c.takeCollected u with
    | none => exact h
    | some out => exact h.takeCollected taken
  | releaseServer => exact h.releaseServer
  | exited | outputEnded | resumeReader | read | readFailed | takeItem | dropWriter | advance => exact h.undergo rfl

/-- A call that could not bring its text was refused, and that changed nothing, or nobody takes items
any more. -/
theorem Sound.unsynced (h : c.Sound tasks) {incident : Incident} {failure : Failure}
    (fails : (c.step incident).result = some (.synced (.error failure))) :
    c.phase ≠ .ready ∧ (c.step incident).after = c ∨
      failure = .writerClosed ∧ (c.step incident).after.dispatcher.channel.isOpen = false := by
  change (c.undergo incident).2 = _ at fails
  change _ ∧ (c.undergo incident).1 = c ∨ _ ∧ (c.undergo incident).1.dispatcher.channel.isOpen = false
  cases incident with
  | syncDocument u uri text =>
    by_cases ready : c.phase = .ready
    · rw [Connection.undergo, syncDocument_of_ready ready] at fails
      cases fails
    · obtain ⟨_, refused⟩ := checkReady_of_unready ready
      rw [Connection.undergo, Connection.syncDocument, refused]
      exact .inl ⟨ready, rfl⟩
  | poll host u =>
    rw [Connection.undergo] at fails ⊢
    cases polled : c.poll host u with
    | none =>
      rw [polled] at fails
      cases fails
    | some out =>
      rw [polled] at fails
      obtain ⟨e, result⟩ := out
      obtain rfl : result = some (.synced (.error failure)) := fails
      obtain ⟨stage, stands, goes⟩ := Option.bind_eq_some_iff.mp polled
      cases h.regular.ends h.coherent (Regular.mem_of_stage? stands) goes with
      | unsynced _ shut => exact .inr ⟨rfl, shut⟩
  | cancelSync u =>
    rw [Connection.undergo] at fails
    split at fails <;> cases fails
  | _ => cases fails

end Connection

/-! ## Courses -/

section Courses

variable {settings : ServerSettings} {clock : Nat} {steps : List Step} {c : Connection}

/-- The version table tells how many texts were let in. -/
theorem Course.tracks (course : Course settings clock steps c) :
    Tracks (steps.filterMap Step.letIn?) c.documents ∧ c.settings = settings := by
  induction course with
  | start => exact ⟨tracks_nil, rfl⟩
  | step incident _ ih =>
    obtain ⟨tracks, same⟩ := Connection.step_tracks ih.1 incident
    rw [List.filterMap_append]
    exact ⟨tracks, same.trans ih.2⟩

theorem Course.sound (course : Course settings clock steps c)
    (new : (steps.filterMap Step.begun?).Pairwise (· < ·)) {tasks : Nat}
    (bound : ∀ u ∈ steps.filterMap Step.begun?, u < tasks) : c.Sound tasks := by
  induction course generalizing tasks with
  | start => exact ⟨Connection.coherent_fresh settings clock, Connection.regular_fresh tasks settings clock⟩
  | @step steps c incident _ ih =>
    rw [List.filterMap_append] at new bound
    obtain ⟨earlier, older⟩ := List.forall_mem_append.mp bound
    obtain ⟨before, _, later⟩ := List.pairwise_append.mp new
    cases begun : (c.step incident).begun? with
    | none => exact (ih before earlier).goesOn begun
    | some u =>
      have member : u ∈ [c.step incident].filterMap Step.begun? := by simp [begun]
      exact ((ih before fun v old => later v old u member).begins begun).mono (older u member)

theorem Course.unsynced (course : Course settings clock steps c)
    (new : (steps.filterMap Step.begun?).Pairwise (· < ·)) :
    ∀ s ∈ steps, ∀ failure, s.result = some (.synced (.error failure)) →
      s.before.phase ≠ .ready ∧ s.after = s.before ∨ failure = .writerClosed ∧ c.dispatcher.channel.isOpen = false := by
  induction course with
  | start => exact List.forall_mem_nil _
  | @step steps c incident course ih =>
    intro s member failure fails
    rw [List.filterMap_append] at new
    have before := (List.pairwise_append.mp new).1
    obtain old | last := List.mem_append.mp member
    · exact (ih before s old failure fails).imp_right fun ⟨closed, shut⟩ =>
        ⟨closed, Connection.undergo_shut shut incident⟩
    · rw [List.mem_singleton.mp last] at fails ⊢
      obtain ⟨bound, within⟩ := (steps.filterMap Step.begun?).toFinset.exists_nat_subset_range
      have given : ∀ u ∈ steps.filterMap Step.begun?, u < bound := fun u begun =>
        Finset.mem_range.mp (within (List.mem_toFinset.mpr begun))
      exact (course.sound before given).unsynced fails

/-- The handshake, and then changes of one document until the channel is full. -/
def crowding : List Incident :=
  [.ensureReady 0, .poll .obliging 0, .takeItem,
    .read (Framing.encodeFrame (.object [("id", .int 1), ("result", .null)])), .poll .obliging 0, .poll .obliging 0] ++
  (List.range 63).map fun n => .syncDocument (n + 1) "file:///a" "x"

/-- A new document waits for room, and is given up. -/
def abandoning : List Incident := crowding ++ [.syncDocument 64 "file:///b" "y", .cancelSync 64]

theorem course_of (incidents : List Incident) : Course (.make "nim" "nim") 0
    ((Connection.fresh (.make "nim" "nim") 0).course incidents).1
    ((Connection.fresh (.make "nim" "nim") 0).course incidents).2 :=
  (Course.start : Course (.make "nim" "nim") 0 [] _).append incidents

/-- The next text of a document has the version after those of all texts that were let in, whatever
has become of them.  A call that brings no text was refused, and that changed nothing; or nobody takes
items any more, and every later call is told so. -/
theorem text_has_next_version (course : Course settings clock steps c)
    (new : (steps.filterMap Step.begun?).Pairwise (· < ·)) :
    (∀ uri text,
      Item.message (notification (c.syncMessage uri text).2.2.1 (some (c.syncMessage uri text).2.2.2)) =
        Notice.item settings.language ⟨uri, (versions (steps.filterMap Step.letIn?) uri).length + 1, text⟩) ∧
    (∀ s ∈ steps, ∀ failure, s.result = some (.synced (.error failure)) →
      s.before.phase ≠ .ready ∧ s.after = s.before ∨
        failure = .writerClosed ∧ c.dispatcher.channel.isOpen = false) ∧
    (c.dispatcher.channel.isOpen = false → c.phase = .ready → ∀ u uri text,
      (c.syncDocument u uri text).1.dispatcher = c.dispatcher ∧
        (c.syncDocument u uri text).1.completions = c.completions ++ [⟨u, .error .writerClosed⟩]) := by
  obtain ⟨tracks, same⟩ := course.tracks
  refine ⟨fun uri text => ?_, course.unsynced new, fun shut ready u uri text => ?_⟩
  · rw [(syncMessage_notice tracks uri text).2, same, tracks.counted, List.length_range']
  · obtain ⟨rests, told⟩ := Connection.syncDocument_shut shut u uri text
    exact ⟨rests, told ready⟩

theorem text_has_next_version_abandoned : ∃ steps c, Course (.make "nim" "nim") 0 steps c ∧
    (steps.filterMap Step.begun?).Pairwise (· < ·) ∧
    Item.message (notification (c.syncMessage "file:///b" "z").2.2.1
      (some (c.syncMessage "file:///b" "z").2.2.2)) = Notice.item "nim" ⟨"file:///b", 2, "z"⟩ := by
  have course := course_of abandoning
  have new : (((Connection.fresh (.make "nim" "nim") 0).course abandoning).1.filterMap Step.begun?).Pairwise (· < ·) := by
    decide +kernel
  have once : (versions (((Connection.fresh (.make "nim" "nim") 0).course abandoning).1.filterMap Step.letIn?)
      "file:///b").length = 1 := by decide +kernel
  have next := (text_has_next_version course new).1 "file:///b" "z"
  rw [once] at next
  exact ⟨_, _, course, new, next⟩

/-- The document that a message brings. -/
def Item.uri? : Item → Option String
  | .message frame => (((frame.getD "params").getD "textDocument").get? "uri").bind Value.text?
  | .close => none

/-- A text that is given up in line has used up its version: the next one would have opened the
document, and now it changes it.  So the server is told of a change of a document that nobody opened. -/
theorem abandoned_text_uses_up_version :
    (¬ ∀ settings clock steps c u uri text other, Course settings clock steps c → c.phase = .ready →
      u ∈ (c.syncDocument u uri text).1.dispatcher.line →
      ((c.syncDocument u uri text).1.cancelSync u).syncMessage uri other = c.syncMessage uri other) ∧
    ∃ steps c, Course (.make "nim" "nim") 0 steps c ∧
      (∃ item ∈ steps.flatMap Step.queued,
        item.name? = some "textDocument/didChange" ∧ item.uri? = some "file:///b") ∧
      ∀ item ∈ steps.flatMap Step.queued,
        item.name? = some "textDocument/didOpen" → item.uri? ≠ some "file:///b" := by
  constructor
  · intro claim
    have same := claim _ _ _ _ 64 "file:///b" "y" "z" (course_of crowding) (by decide +kernel) (by decide +kernel)
    have version := congrArg (fun m => m.2.1) same
    revert version
    decide +kernel
  · exact ⟨_, _, course_of (abandoning ++ [.takeItem, .syncDocument 65 "file:///b" "z"]), by decide +kernel,
      by decide +kernel⟩

end Courses

end BlockDiscovery.Session
