import BlockDiscovery.Proofs.Session.Conversation
import BlockDiscovery.Proofs.Session.Stall

/-! # The time of the farewell

A shutdown goes on when something comes of its request, and the grace period is the time of that
request.  So it goes on in time if its frame gets into the channel, and it hangs if the writer takes nothing,
whatever the server does meanwhile.
-/

namespace BlockDiscovery.Session

open BlockDiscovery.Json BlockDiscovery.Protocol BlockDiscovery.Config Dispatcher

/-- Whether the frame of a request waits for room. -/
def Progress.isWaiting : Progress → Bool
  | .waiting _ => true
  | .sent _ => false

/-- Whether the request of a task waits for room. -/
def Dispatcher.waitsForRoom (d : Dispatcher) (ticket : Ticket) : Bool :=
  (d.send? ticket).any fun s => s.progress.isWaiting

/-- Whether an incident is none of the client's: the server does something, or time passes. -/
def Incident.isOutside : Incident → Bool
  | .exited _ | .outputEnded | .resumeReader | .read _ | .readFailed _ | .advance _ => true
  | _ => false

namespace Connection

variable {answered : Prop} {limit : Option Nat} {scene : Scene} {r : Request} {c e f : Connection} {said : List Item}
  {ticket : Ticket}

/-! ## Hanging -/

/-- Whether a request is the only one and waits for room. -/
def Hangs (r : Request) (c : Connection) : Prop := ∃ answer, c.dispatcher.sends = [r.task (.waiting answer)]

/-- If a request waits for room, then it still does afterwards, and no call hears anything. -/
structure Stalls (r : Request) (c e : Connection) : Prop where
  calls : e.calls = c.calls
  hangs : Hangs r c → Hangs r e ∧ e.completions = c.completions

theorem Stalls.trans (first : Stalls r c e) (second : Stalls r e f) : Stalls r c f where
  calls := second.calls.trans first.calls
  hangs was := by
    obtain ⟨hangs, told⟩ := first.hangs was
    obtain ⟨still, silent⟩ := second.hangs hangs
    exact ⟨still, silent.trans told⟩

/-- What has nothing to do with tasks may change. -/
theorem stalls_of_same (dispatcher : e.dispatcher = c.dispatcher) (completions : e.completions = c.completions)
    (calls : e.calls = c.calls) : Stalls r c e where
  calls := calls
  hangs was := ⟨by rwa [Hangs, dispatcher], completions⟩

theorem Stalls.after (rest : Stalls r e f) (dispatcher : e.dispatcher = c.dispatcher)
    (completions : e.completions = c.completions) (calls : e.calls = c.calls) : Stalls r c f :=
  (stalls_of_same dispatcher completions calls).trans rest

section Stalls

variable (c)

theorem Stalls.refl : Stalls r c c := stalls_of_same rfl rfl rfl

theorem dispatched_stalls {result : Dispatcher × List Completion}
    (delays : ∀ {answer}, c.dispatcher.sends = [r.task (.waiting answer)] → Delays r result) :
    Stalls r c (c.dispatched result) where
  calls := rfl
  hangs was := by
    obtain ⟨answer, task⟩ := was
    obtain ⟨still, silent⟩ := delays task
    refine ⟨still, ?_⟩
    rw [dispatched, silent]
    exact List.append_nil _

theorem abandon_stalls (reason : String) (failure : Failure) : Stalls r c (c.abandon reason failure) :=
  (c.dispatched_stalls fun task => failAll_delays task reason failure).trans (stalls_of_same rfl rfl rfl)

theorem failWith_stalls (reason : String) (failure : Failure) : Stalls r c (c.failWith reason failure) := by
  rw [failWith]
  dsimp only
  split
  · exact (abandon_stalls _ reason failure).after rfl rfl rfl
  · exact stalls_of_same rfl rfl rfl

theorem failUnexpectedly_stalls (reason : String) (failure : Failure) :
    Stalls r c (c.failUnexpectedly reason failure) := by
  rw [failUnexpectedly]
  dsimp only
  split
  · exact (abandon_stalls _ reason failure).after rfl rfl rfl
  · exact stalls_of_same rfl rfl rfl

/-- The exit of the process, or the end of its output, is taken note of. -/
theorem withServer_stalls (change : ServerHandle → ServerHandle) (reason : String) (failure : Failure) :
    Stalls r c ((c.withServer change).failUnexpectedly reason failure) :=
  (failUnexpectedly_stalls _ reason failure).after rfl rfl rfl

theorem resumeReader_stalls : Stalls r c c.resumeReader := by
  rw [resumeReader]
  split
  · split
    · exact withServer_stalls ..
    · split
      · exact withServer_stalls ..
      · exact .refl c
    · exact .refl c
  · exact .refl c

theorem readFailed_stalls (failure : Failure) : Stalls r c (c.readFailed failure) :=
  (failWith_stalls ..).after rfl rfl rfl

theorem receive_stalls (message : Value) : Stalls r c (c.receive message) := by
  rw [receive]
  split
  · exact .refl c
  · next id body _ => exact c.dispatched_stalls fun task => resolve_delays task id body
  · next id method _ =>
    have answers : Stalls r c (c.dispatched ((c.dispatcher.tryEnqueue (methodNotFound id method)).2, [])) :=
      c.dispatched_stalls fun task => tryEnqueue_delays task _
    rw [dispatched, List.append_nil] at answers
    exact answers
  · exact stalls_of_same rfl rfl rfl

theorem foldl_receive_stalls (messages : List Value) : Stalls r c (messages.foldl receive c) := by
  induction messages generalizing c with
  | nil => exact .refl c
  | cons message messages ih => exact (c.receive_stalls message).trans (ih _)

theorem read_stalls (bytes : ByteArray) : Stalls r c (c.read bytes) := by
  rw [read]
  split
  · exact (foldl_receive_stalls ..).after rfl rfl rfl
  · exact (readFailed_stalls ..).after rfl rfl rfl

theorem advanceTo_stalls (time : Nat) : Stalls r c (c.advanceTo time) :=
  (c.dispatched_stalls fun task => advanceTo_delays task time).trans ((resumeReader_stalls _).after rfl rfl rfl)

theorem undergo_stalls {incident : Incident} (outside : incident.isOutside = true) :
    Stalls r c (c.undergo incident).1 := by
  cases incident with
  | exited code => exact withServer_stalls ..
  | outputEnded => exact stalls_of_same rfl rfl rfl
  | resumeReader => exact c.resumeReader_stalls
  | read bytes => exact c.read_stalls bytes
  | readFailed failure => exact c.readFailed_stalls failure
  | advance milliseconds => exact c.advanceTo_stalls _
  | _ => cases outside

theorem course_stalls (incidents : List Incident) (outside : ∀ incident ∈ incidents, incident.isOutside = true) :
    Stalls r c (c.course incidents).2 := by
  induction incidents generalizing c with
  | nil => exact .refl c
  | cons incident incidents ih =>
    obtain ⟨now, later⟩ := List.forall_mem_cons.mp outside
    exact (c.undergo_stalls now).trans (ih _ later)

end Stalls

/-! ## A shutdown that waits for the server -/

theorem Plays.requesting (plays : Plays answered limit scene c said)
    (stands : c.stage? ticket = some .requestingShutdown) :
    ∃ id, Asked ⟨id, "shutdown", ticket, c.settings.shutdownGrace⟩ limit c.dispatcher c.completions := by
  obtain rfl : scene = .requesting ticket := Scene.eq_of_speaker ((plays.admits stands).speaker rfl)
  exact plays.tasks

theorem poll_requesting (stands : c.stage? ticket = some .requestingShutdown) (host : Host) :
    (c.poll host ticket).isSome = c.completions.any fun d => d.ticket = ticket := by
  rw [poll, stands, Option.bind_some, pollStage, Option.isSome_map, takeOutcome, Option.isSome_map]
  exact List.isSome_find?

/-- A limit that was set holds in all that follows. -/
theorem Plays.course {settings : ServerSettings} {clock : Nat} {steps : List Step}
    (course : Course settings clock steps c) (plays : Plays answered limit scene c said) (incidents : List Incident)
    (kept : ∀ incident ∈ incidents, ∀ ticket, incident ≠ .cancelSync ticket) :
    ∃ answered scene said, Plays answered limit scene (c.course incidents).2 said := by
  induction incidents generalizing steps c answered scene said with
  | nil => exact ⟨answered, scene, said, plays⟩
  | cons incident incidents ih =>
    obtain ⟨now, later⟩ := List.forall_mem_cons.mp kept
    obtain ⟨_, _, _, _, plays, _⟩ := plays.step course.coherent now
    exact ih (course.step incident) plays later

theorem waitsForRoom_only {progress : Progress} (task : c.dispatcher.sends = [r.task progress]) :
    c.dispatcher.waitsForRoom r.ticket = progress.isWaiting := by
  rw [waitsForRoom, send?_only task]
  rfl

/-- When a shutdown goes on that waits for the server. -/
structure PartsInTime (c : Connection) (ticket : Ticket) : Prop where
  /-- Unless its request waits for room, it can go on when the grace period is over, whatever happens. -/
  entered : c.dispatcher.waitsForRoom ticket = false → ∀ incidents : List Incident,
    (∀ incident ∈ incidents, ∀ u, incident ≠ .cancelSync u) →
    c.clock + c.settings.shutdownGrace ≤ (c.course incidents).2.clock →
    (c.course incidents).2.stage? ticket = some .requestingShutdown →
    ∀ host, ((c.course incidents).2.poll host ticket).isSome = true
  /-- If its request waits for room and nothing has come of it, then it does not go on, whatever the
  server does and however much time passes. -/
  stalled : c.dispatcher.waitsForRoom ticket = true → (∀ d ∈ c.completions, d.ticket ≠ ticket) →
    ∀ incidents : List Incident, (∀ incident ∈ incidents, incident.isOutside = true) →
    ∀ host, (c.course incidents).2.poll host ticket = none

theorem Plays.partsInTime {settings : ServerSettings} {clock : Nat} {steps : List Step}
    (course : Course settings clock steps c) (plays : Plays answered none scene c said)
    (stands : c.stage? ticket = some .requestingShutdown) : PartsInTime c ticket := by
  obtain rfl : scene = .requesting ticket := Scene.eq_of_speaker ((plays.admits stands).speaker rfl)
  obtain ⟨id, asked⟩ := plays.tasks
  constructor
  · intro enters incidents kept late still host
    have limited := asked.limited fun answer task => by
      rw [waitsForRoom_only task] at enters
      cases enters
    have timed : Plays answered (some (c.clock + c.settings.shutdownGrace)) (.requesting ticket) c said :=
      ⟨plays.session, plays.calls, plays.tight, ⟨id, limited⟩, plays.spoken, plays.greeted⟩
    obtain ⟨_, _, _, last⟩ := timed.course course incidents kept
    obtain ⟨_, asked⟩ := last.requesting still
    obtain ⟨d, member, own⟩ := asked.over late
    rw [poll_requesting still]
    exact List.any_eq_true.mpr ⟨d, member, decide_eq_true own⟩
  · intro waits silent incidents outside host
    have hangs : Hangs ⟨id, "shutdown", ticket, c.settings.shutdownGrace⟩ c := by
      cases asked with
      | waits answer task => exact ⟨answer, task⟩
      | sent deadline task =>
        rw [waitsForRoom_only task] at waits
        cases waits
      | told d member own => exact absurd own (silent d member)
    have stalls := c.course_stalls (r := ⟨id, "shutdown", ticket, c.settings.shutdownGrace⟩) incidents outside
    have still : (c.course incidents).2.stage? ticket = some .requestingShutdown := by
      rw [stage?, stalls.calls]
      exact stands
    rw [← Option.not_isSome_iff_eq_none, poll_requesting still, (stalls.hangs hangs).2]
    exact fun told => by
      obtain ⟨d, member, own⟩ := List.any_eq_true.mp told
      exact silent d member (of_decide_eq_true own)

end Connection

theorem Course.partsInTime {settings : ServerSettings} {clock : Nat} {steps : List Step} {c : Connection}
    (course : Course settings clock steps c) (kept : ∀ s ∈ steps, ∀ u, s.incident ≠ .cancelSync u) {ticket : Ticket}
    (stands : c.stage? ticket = some .requestingShutdown) : c.PartsInTime ticket := by
  obtain ⟨scene, offered, conversed⟩ := course.conversed kept
  exact conversed.plays.partsInTime course stands

/-- Only the line before the channel lets a request outlive its time, and so it is with the request of
a shutdown and the grace period. -/
theorem only_the_line_outlives (capacity : Nat) (settings : ServerSettings) (clock : Nat) :
    (∀ turns k, Run capacity turns k → ReportsInTime turns k) ∧
    ∀ steps c, Course settings clock steps c → (∀ s ∈ steps, ∀ u, s.incident ≠ .cancelSync u) →
      ∀ ticket, c.stage? ticket = some .requestingShutdown → c.PartsInTime ticket :=
  ⟨fun _ _ run => run.reportsInTime, fun _ _ course kept _ stands => course.partsInTime kept stands⟩

/-- A server answers the handshake, then a document is changed some times, and then somebody wants to
shut down.  The writer takes nothing. -/
def farewellAfter (changes : Nat) : List Incident :=
  [.ensureReady 0, .poll .obliging 0, .read (Framing.encodeFrame (.object [("id", .int 1), ("result", .null)])),
    .poll .obliging 0, .poll .obliging 0] ++
  (List.range changes).map (fun n => .syncDocument (n + 2) "file:///a" "x") ++ [.shutdown 1, .poll .obliging 1]

/-- The connection that is to be shut down. -/
def leaving (changes : Nat) : Connection :=
  ((Connection.fresh (.make "nim" "nim") 0).course (farewellAfter changes)).2

theorem leaving_course (changes : Nat) : ∃ steps, Course (.make "nim" "nim") 0 steps (leaving changes) ∧
    ∀ s ∈ steps, ∀ u, s.incident ≠ .cancelSync u := by
  refine ⟨_, (Course.start : Course (.make "nim" "nim") 0 [] _).append (farewellAfter changes), ?_⟩
  exact Connection.course_kept _ fun incident member u cancels => by simp [farewellAfter, cancels] at member

/-- The handshake and the documents fill the channel. -/
theorem leaving_waits : (leaving 62).stage? 1 = some .requestingShutdown ∧
    (leaving 62).dispatcher.waitsForRoom 1 = true ∧ ∀ d ∈ (leaving 62).completions, d.ticket ≠ 1 := by
  decide +kernel

/-- The channel has room for one frame, and the writer takes nothing.  The first request is told that
its time is over, the second one, which is in line, is told nothing.  Just so, a shutdown goes on
when the grace period is over, and it hangs when the channel is full. -/
theorem only_the_line_outlives_full_channel : (∃ turns k, Run 1 turns k ∧
    (∃ c, turns.flatMap (fun v => v.reports 0) = [c]) ∧ 1 ∈ k.dispatcher.line ∧
    (k.run [.advance 1000, .resolve 2 .null, .failAll "gone" .connectionClosed]).1.flatMap
      (fun v => v.reports 1) = []) ∧
    (∀ host, (((leaving 0).course [.advance 2000]).2.poll host 1).isSome = true) ∧
    ∀ host, ((leaving 62).course [.advance 2000, .exited (some 0), .advance 2000]).2.poll host 1 = none := by
  obtain ⟨reports, parts⟩ := only_the_line_outlives 1 (.make "nim" "nim") 0
  refine ⟨?_, ?_, ?_⟩
  · have run := (Run.start : Run 1 [] _).append [.send "a" none 100, .send "b" none 10, .advance 100]
    have timed := reports _ _ run
    have first := timed.entered ⟨1, "a", 0, 100⟩ List.mem_cons_self (by decide) _
      (List.mem_of_getElem? (i := 0) rfl) (List.mem_singleton_self _) (by decide)
    have second := timed.stalled ⟨2, "b", 1, 10⟩ (List.mem_cons_of_mem _ List.mem_cons_self) (by decide)
      [.advance 1000, .resolve 2 .null, .failAll "gone" .connectionClosed] (by decide)
    exact ⟨_, _, run, first, by decide, second.1⟩
  · obtain ⟨steps, course, kept⟩ := leaving_course 0
    have timed := parts _ _ course kept 1 (by decide +kernel)
    have kept : ∀ incident ∈ [Incident.advance 2000], ∀ u, incident ≠ .cancelSync u :=
      fun incident member u cancels => by simp [cancels] at member
    exact timed.entered (by decide +kernel) _ kept (by decide +kernel) (by decide +kernel)
  · obtain ⟨steps, course, kept⟩ := leaving_course 62
    obtain ⟨stands, waits, silent⟩ := leaving_waits
    exact (parts _ _ course kept 1 stands).stalled waits silent _ (by decide)

/-- A request whose time since it was issued is over, which nobody cancelled and which has reported
nothing; and a shutdown whose request has not come to anything long after the grace period. -/
theorem request_outlives_timeout : (∃ turns k, Run 1 turns k ∧ ∃ t ∈ turns, ∃ r ∈ t.issued,
    (∀ u ∈ turns, u.cancels r.ticket = false) ∧ r.due t < k.dispatcher.clock ∧
    turns.flatMap (fun v => v.reports r.ticket) = []) ∧
    ∃ steps c, Course (.make "nim" "nim") 0 steps c ∧ (∀ s ∈ steps, ∀ u, s.incident ≠ .cancelSync u) ∧
      c.stage? 1 = some .requestingShutdown ∧ c.settings.shutdownGrace < 10000 ∧
      ∀ host, (c.course [.advance 10000]).2.poll host 1 = none := by
  constructor
  · have run := (Run.start : Run 1 [] _).append [.send "a" none 100, .send "b" none 10, .advance 50]
    exact ⟨_, _, run, _, List.mem_of_getElem? (i := 1) rfl, ⟨2, "b", 1, 10⟩, List.mem_singleton_self _,
      by decide, by decide, rfl⟩
  · obtain ⟨steps, course, kept⟩ := leaving_course 62
    obtain ⟨stands, waits, silent⟩ := leaving_waits
    exact ⟨steps, _, course, kept, stands, by decide +kernel,
      (course.partsInTime kept stands).stalled waits silent _ (by decide)⟩

end BlockDiscovery.Session
