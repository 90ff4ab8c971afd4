import BlockDiscovery.Proofs.Session.Chronicle

/-! # Requests and their time

The time of a request begins when its frame enters the channel.  Whoever takes its entry
out of the table before the time is over decides what it reports; otherwise it reports
a timeout when its time is over, is counted as timed out, and a response comes too late.
-/

namespace BlockDiscovery.Session

open BlockDiscovery.Json BlockDiscovery.Protocol Dispatcher

/-! ## What is counted as timed out -/

namespace Dispatcher

variable {d : Dispatcher} {tasks : Nat}

/-- Whether the task of a ticket has an entry in a table. -/
def listed (pending : List Pending) (ticket : Ticket) : Bool := pending.any fun p => p.ticket = ticket

theorem deliver_outcome {ticket : Ticket} {answer : Outcome} {c : Completion}
    (member : c ∈ (d.deliver ticket answer).2) : c.outcome = answer := by
  rw [deliver] at member
  split at member
  · cases member
  split at member
  · rw [List.mem_singleton.mp member]
  · cases member

theorem outcomeOf_not_timeout (ticket : Ticket) (method : String) (body : Value) :
    Completion.isTimeout ⟨ticket, outcomeOf method body⟩ = false := by
  rw [Completion.isTimeout, outcomeOf]
  cases responseError? body <;> rfl

theorem enqueue_not_timeout {ticket : Ticket} {item : Item} {c : Completion}
    (member : c ∈ (d.enqueue ticket item).2) : c.isTimeout = false := by
  unfold enqueue at member
  split at member
  · rw [List.mem_singleton.mp member, Completion.isTimeout]
  · cases member
  · split at member
    · rw [List.mem_singleton.mp member, Completion.isTimeout]
    · rw [List.mem_singleton.mp member, Completion.isTimeout]

theorem strand_completions (d : Dispatcher) (line : List (Ticket × Item)) :
    (d.strand line).2 = line.map fun w => ⟨w.1, farewell w.2⟩ := by
  induction line generalizing d with
  | nil => rfl
  | cons w line ih =>
    rw [strand_cons, ih]
    rfl

theorem farewell_not_timeout (ticket : Ticket) (item : Item) :
    Completion.isTimeout ⟨ticket, farewell item⟩ = false := by
  cases item <;> rfl

theorem Sound.listed_iff (h : Sound tasks d) {ticket : Ticket} {s : Send}
    (found : d.send? ticket = some s) : listed d.pending ticket = s.isOpen := by
  obtain ⟨_, rfl⟩ := send?_eq_some found
  rw [listed, Bool.eq_iff_iff, List.any_eq_true]
  constructor
  · rintro ⟨p, member, own⟩
    obtain ⟨t, same, waits, _⟩ := h.mem_pending.mp member
    rw [of_decide_eq_true own, found] at same
    cases same
    exact waits
  · exact fun waits => ⟨s.entry, (h.entry_mem found).mpr waits, decide_eq_true rfl⟩

/-- A frame that arrives is counted as timed out if its request expires at once. -/
theorem Sound.arrive_timedOut (h : Sound tasks d) (ticket : Ticket) :
    (d.arrive ticket).1.stats.timedOut = d.stats.timedOut +
      ((d.arrive ticket).2.filter fun c => c.isTimeout && listed d.pending c.ticket).length := by
  cases found : d.send? ticket with
  | none =>
    rw [arrive, found]
    rfl
  | some s =>
    have table := h.listed_iff found
    rw [arrive, found]
    dsimp only
    cases progress : s.progress with
    | sent deadline => rfl
    | waiting answer =>
      cases answer with
      | some answer =>
        have answered : s.isOpen = false := by rw [Send.isOpen, progress]
        rw [answered] at table
        simp [removeSend, table]
      | none =>
        have waits : s.isOpen = true := by rw [Send.isOpen, progress]
        rw [waits] at table
        obtain ⟨_, rfl⟩ := send?_eq_some found
        dsimp only
        split
        · simp [expire, removeSend, removePending, Completion.isTimeout, table]
        · rfl

theorem expireDue_timedOut (d : Dispatcher) (sends : List Send) :
    (d.expireDue sends).1.stats.timedOut = d.stats.timedOut + (d.expireDue sends).2.length := by
  induction sends generalizing d with
  | nil => rfl
  | cons s sends ih =>
    obtain ⟨deadline, progress, due⟩ | later := due_or_later d s
    · rw [expireDue_due progress due, ih, List.length_append, List.length_singleton, ← Nat.add_assoc]
      rfl
    · rw [expireDue_later later, ih]

theorem mem_expireDue {sends : List Send} {c : Completion} (member : c ∈ (d.expireDue sends).2) :
    ∃ s ∈ sends, ∃ deadline, s.progress = .sent deadline ∧ c = s.lapse := by
  induction sends generalizing d with
  | nil => cases member
  | cons s sends ih =>
    have rest {e : Dispatcher} (inside : c ∈ (e.expireDue sends).2) :
        ∃ t ∈ s :: sends, ∃ deadline, t.progress = .sent deadline ∧ c = t.lapse := by
      obtain ⟨t, task, lapses⟩ := ih inside
      exact ⟨t, List.mem_cons_of_mem _ task, lapses⟩
    obtain ⟨deadline, progress, due⟩ | later := due_or_later d s
    · rw [expireDue_due progress due] at member
      obtain first | inside := List.mem_append.mp member
      · exact ⟨s, List.mem_cons_self, deadline, progress, List.mem_singleton.mp first⟩
      · exact rest inside
    · rw [expireDue_later later] at member
      exact rest member

end Dispatcher

namespace Turn

variable {t : Turn}

theorem expiries_subset (t : Turn) : t.expiries ⊆ t.completions := by
  rw [expiries]
  split
  · exact List.nil_subset _
  · exact List.filter_subset_self _

theorem expiries_of_other (kind : t.operation.rejects = false) : t.expiries =
    t.completions.filter fun c =>
      c.isTimeout && listed (t.before.dispatcher.pending ++ t.inserted) c.ticket := by
  rw [expiries]
  split
  · next operation =>
    rw [operation] at kind
    cases kind
  · rfl

theorem expiries_of_silent (silent : ∀ c ∈ t.completions, c.isTimeout = false) : t.expiries = [] := by
  rw [expiries]
  split
  · rfl
  · exact List.filter_eq_nil_iff.mpr fun c member => by simp [silent c member]

end Turn

namespace Desk

variable {k : Desk}

/-- A turn without timeouts counts none. -/
theorem timedOut_of_silent {t : Turn} (stats : t.after.dispatcher.stats.timedOut = t.before.dispatcher.stats.timedOut)
    (silent : ∀ c ∈ t.completions, c.isTimeout = false) :
    t.after.dispatcher.stats.timedOut = t.before.dispatcher.stats.timedOut + t.expiries.length := by
  rw [Turn.expiries_of_silent silent, stats]
  rfl

theorem timedOut_enqueue {operation : Operation} (item : Item) :
    let t := k.start operation (k.dispatcher.enqueue k.tasks item)
    t.after.dispatcher.stats.timedOut = t.before.dispatcher.stats.timedOut + t.expiries.length := by
  refine timedOut_of_silent ?_ fun c member => enqueue_not_timeout member
  obtain ⟨channel, completions, frame, _⟩ := enqueue_frame k.dispatcher k.tasks item
  rw [frame]
  rfl

theorem timedOut_send (sound : k.dispatcher.Sound k.tasks) (method : String) (params : Option Value)
    (timeout : Nat) :
    (k.turn (.send method params timeout)).after.dispatcher.stats.timedOut =
      k.dispatcher.stats.timedOut + (k.turn (.send method params timeout)).expiries.length := by
  have silent (answer : Outcome) (out : Dispatcher) (noTimeout : (⟨k.tasks, answer⟩ : Completion).isTimeout = false)
      (sends : k.dispatcher.send k.tasks method params timeout = (out, [⟨k.tasks, answer⟩]))
      (same : out.stats = k.dispatcher.stats) :
      (k.turn (.send method params timeout)).after.dispatcher.stats.timedOut =
        k.dispatcher.stats.timedOut + (k.turn (.send method params timeout)).expiries.length := by
    simp only [turn, sends]
    refine timedOut_of_silent (congrArg Stats.timedOut same) fun c member => ?_
    rwa [List.mem_singleton.mp member]
  cases refusal : k.dispatcher.refusal with
  | some reason => exact silent _ _ rfl (send_of_refusal refusal) rfl
  | none =>
    cases pushed : k.dispatcher.channel.push k.tasks (.message (request k.dispatcher.nextId method params)) with
    | mk result channel =>
    cases result with
    | refused => exact silent _ _ rfl (send_of_closed refusal pushed) rfl
    | waits =>
      simp only [turn, send_of_waits refusal pushed]
      exact timedOut_of_silent rfl (List.forall_mem_nil _)
    | entered =>
      have message : Item.message (request k.dispatcher.nextId method params) = .close →
          k.tasks ∉ (k.dispatcher.enroll k.tasks method timeout).tickets := by rintro ⟨⟩
      have line := push_waiting k.dispatcher.channel k.tasks
        (.message (request k.dispatcher.nextId method params))
      rw [pushed] at line
      have placed := (sound.enroll method timeout).channel (Nat.lt_succ_self _) message line
      have counted := placed.arrive_timedOut k.tasks
      rw [Turn.expiries_of_other rfl]
      simp only [turn, send_of_entered refusal pushed]
      rw [inserted_of_open _ _ _ _ refusal]
      exact counted

theorem timedOut_resolve (k : Desk) (id : Nat) (body : Value) :
    (k.turn (.resolve id body)).after.dispatcher.stats.timedOut =
      k.dispatcher.stats.timedOut + (k.turn (.resolve id body)).expiries.length := by
  refine timedOut_of_silent ?_ fun c member => ?_
  · change (k.dispatcher.resolve id body).2.1.stats.timedOut = k.dispatcher.stats.timedOut
    rw [resolve]
    split
    · split <;> rfl
    · rw [deliver_frame]
      rfl
  · change c ∈ (k.dispatcher.resolve id body).2.2 at member
    rw [resolve] at member
    split at member
    · split at member <;> cases member
    · next p _ =>
      have outcome := deliver_outcome member
      obtain ⟨ticket, _⟩ := c
      subst outcome
      exact outcomeOf_not_timeout ticket p.method body

theorem timedOut_take (sound : k.dispatcher.Sound k.tasks) :
    (k.turn .take).after.dispatcher.stats.timedOut =
      k.dispatcher.stats.timedOut + (k.turn .take).expiries.length := by
  change k.dispatcher.takeItem.2.1.stats.timedOut = _
  rw [Turn.expiries_of_other rfl]
  have table : (k.turn .take).before.dispatcher.pending ++ (k.turn .take).inserted = k.dispatcher.pending :=
    List.append_nil _
  have completions : (k.turn .take).completions = k.dispatcher.takeItem.2.2 := rfl
  rw [table, completions, takeItem]
  dsimp only
  split
  · rfl
  · next ticket entered =>
    have freed : Sound k.tasks { k.dispatcher with channel := k.dispatcher.channel.take.2.2 } :=
      ⟨sound.matched, fun w inside => sound.line w (take_waiting _ inside)⟩
    exact freed.arrive_timedOut ticket

theorem timedOut_advance (sound : k.dispatcher.Sound k.tasks) (ms : Nat) :
    (k.turn (.advance ms)).after.dispatcher.stats.timedOut =
      k.dispatcher.stats.timedOut + (k.turn (.advance ms)).expiries.length := by
  have counted := expireDue_timedOut { k.dispatcher with clock := k.dispatcher.clock + ms } k.dispatcher.sends
  refine counted.trans (congrArg (k.dispatcher.stats.timedOut + ·) ?_)
  rw [Turn.expiries_of_other rfl, List.filter_eq_self.mpr]
  · rfl
  · intro c member
    obtain ⟨s, task, deadline, progress, rfl⟩ := mem_expireDue member
    have table := sound.listed_iff (sound.find task)
    rw [Send.isOpen, progress] at table
    rw [show (k.turn (.advance ms)).before.dispatcher.pending ++ (k.turn (.advance ms)).inserted =
      k.dispatcher.pending from List.append_nil _]
    exact table

/-- The timeouts of a turn are those that the dispatcher counts. -/
theorem turn_timedOut (sound : k.dispatcher.Sound k.tasks) (operation : Operation) :
    (k.turn operation).after.dispatcher.stats.timedOut =
      k.dispatcher.stats.timedOut + (k.turn operation).expiries.length := by
  cases operation with
  | send method params timeout => exact timedOut_send sound method params timeout
  | notify method params => exact timedOut_enqueue _
  | sendRaw frame => exact timedOut_enqueue _
  | closeWriter => exact timedOut_enqueue _
  | trySendRaw frame =>
    obtain ⟨channel, same, _⟩ := tryEnqueue_frame k.dispatcher frame
    refine timedOut_of_silent ?_ (List.forall_mem_nil _)
    simp only [turn, reply, same]
  | cancel ticket => exact timedOut_of_silent rfl (List.forall_mem_nil _)
  | resolve id body => exact timedOut_resolve k id body
  | failAll reason failure =>
    change (k.dispatcher.failAll reason failure).2.1.stats.timedOut = _
    rw [failAll, deliverAll_frame]
    rfl
  | take => exact timedOut_take sound
  | dropWriter =>
    refine timedOut_of_silent (congrArg Stats.timedOut (dropWriter_strands k.dispatcher).stats)
      fun c member => ?_
    change c ∈ k.dispatcher.dropWriter.2 at member
    rw [dropWriter, strand_completions] at member
    obtain ⟨w, _, rfl⟩ := List.mem_map.mp member
    exact farewell_not_timeout _ _
  | advance ms => exact timedOut_advance sound ms

end Desk

/-! ## Runs -/

variable {capacity : Nat} {turns front back : List Turn} {k : Desk} {r : Request}

theorem Run.turn_timedOut (run : Run capacity turns k) {t : Turn} (turn : t ∈ turns) :
    t.after.dispatcher.stats.timedOut = t.before.dispatcher.stats.timedOut + t.expiries.length := by
  obtain ⟨front, back, rfl⟩ := List.append_of_mem turn
  obtain ⟨j, operation, before, rfl, _⟩ := run.turnAt
  rw [Desk.turn_before]
  exact Desk.turn_timedOut before.balanced.sound operation

/-- The timeouts of a request, as its history has them. -/
theorem Request.expiries_eq (r : Request) (turns : List Turn) :
    turns.flatMap (fun t => t.expiries.filter fun c => c.ticket = r.ticket) =
      (r.history turns).expiries.map Prod.fst := by
  simp only [Request.history, Turn.history, List.map_flatMap, List.map_map, Function.comp_def, List.map_id']

theorem Request.expiry_turn {c : Completion} {before after : Nat}
    (member : (c, before, after) ∈ (r.history turns).expiries) :
    ∃ t ∈ turns, c ∈ t.reports r.ticket ∧ t.before.dispatcher.clock = before ∧
      t.after.dispatcher.clock = after := by
  obtain ⟨t, turn, inside⟩ := List.mem_flatMap.mp member
  obtain ⟨d, expiry, same⟩ := List.mem_map.mp inside
  cases same
  obtain ⟨expires, own⟩ := List.mem_filter.mp expiry
  exact ⟨t, turn, List.mem_filter.mpr ⟨Turn.expiries_subset t expires, own⟩, rfl, rfl⟩

section Story

variable {h : History} {progress : Option Progress} {clock start : Nat}

/-- Who has reported something has no task any more. -/
theorem Story.reported (story : Story r h progress clock) {c : Completion} (reported : c ∈ h.reports) :
    progress = none := by
  cases story with
  | waiting | answered | sent => cases reported
  | responded | expired | unsent | withdrawn => rfl

/-- Who had a frame in the channel and was answered was so in time, and reports the
answer. -/
theorem Story.decided (story : Story r h progress clock) (positive : 0 < r.timeout)
    (admitted : start ∈ h.admissions) {time : Nat} {verdict : Verdict}
    (removed : (time, verdict) ∈ h.verdicts) :
    time < start + r.timeout ∧ h.reports = [⟨r.ticket, verdict.outcome r.method⟩] ∧ h.expiries = [] := by
  cases story with
  | waiting | answered | unsent => cases admitted
  | sent | expired => cases removed
  | responded again starts own inTime =>
    obtain rfl := List.mem_singleton.mp admitted
    cases List.mem_singleton.mp removed
    exact ⟨inTime positive, rfl, rfl⟩
  | withdrawn again given live torn =>
    obtain rfl | rfl := torn
    · cases removed
    · cases admitted

/-- Who had a frame in the channel and was neither answered nor cancelled in time reports
nothing until the time is over, and then that it is. -/
theorem Story.timeout (story : Story r h progress clock) (positive : 0 < r.timeout)
    (admitted : start ∈ h.admissions) (free : h.verdicts = [])
    (kept : ∀ time ∈ h.cancels, start + r.timeout ≤ time) :
    (clock < start + r.timeout ∧ h.reports = []) ∨
      ∃ before after, before < start + r.timeout ∧ start + r.timeout ≤ after ∧ after ≤ clock ∧
        h.reports = [r.lapse] ∧ h.expiries = [(r.lapse, before, after)] := by
  cases story with
  | waiting | unsent => cases admitted
  | answered | responded => cases free
  | sent starts live =>
    obtain rfl := List.mem_singleton.mp admitted
    exact .inl ⟨live, rfl⟩
  | expired starts before after early due past =>
    obtain rfl := List.mem_singleton.mp admitted
    exact .inr ⟨before, after, early positive, due, past, rfl, rfl⟩
  | withdrawn time given live torn =>
    exact absurd (kept time given) (Nat.not_le_of_lt (live start admitted))

end Story

/-- A response to a request that has reported something is late, and changes nothing
but the count of late responses. -/
theorem Run.late_of_report {t : Turn} (run : Run capacity (front ++ t :: back) k)
    (issued : r ∈ (front ++ t :: back).flatMap Turn.issued) {c : Completion}
    (reported : c ∈ (r.history front).reports) {body : Value} (resolves : t.operation = .resolve r.id body) :
    t.answer = .resolution .late ∧ t.completions = [] ∧ t.after.tasks = t.before.tasks ∧
      t.after.dispatcher = { t.before.dispatcher with
        stats.late := t.before.dispatcher.stats.late + 1 } := by
  obtain ⟨j, operation, before, rfl, _⟩ := run.turnAt
  have known := run.issued_of_report before issued reported
  rw [Desk.turn_operation] at resolves
  subst resolves
  obtain ⟨progress, stands, story⟩ := before.chronicle.stories r known
  have gone : j.dispatcher.send? r.ticket = none := by
    rw [stands.task, story.reported reported]
    rfl
  have none : j.dispatcher.pending.find? (fun p => p.id = r.id) = none := by
    refine List.find?_eq_none.mpr fun p member number => ?_
    obtain ⟨q, issued, rfl⟩ := before.request_of_entry member
    obtain rfl := before.own known q issued (of_decide_eq_true number)
    obtain ⟨s, found, _⟩ := before.balanced.sound.mem_pending.mp member
    cases gone.symm.trans found
  have given := (before.chronicle.given r known).2
  have late : j.dispatcher.resolve r.id body =
      (.late, { j.dispatcher with stats.late := j.dispatcher.stats.late + 1 }, []) := by
    simp only [resolve, none, if_pos given]
  simp only [Desk.turn, late]
  exact ⟨rfl, rfl, rfl, rfl⟩

/-- When the time of a request is over whose frame enters the channel in a turn. -/
def Request.due (r : Request) (t : Turn) : Nat := t.before.dispatcher.clock + r.timeout

/-- The race of a response, a failure and the time of a request.  The dispatcher counts
the timeouts of every turn.  Of a request whose frame entered the channel: whoever takes
its entry out of the table, by a response or a failure, does so before its time is over
and decides what it reports, and it is not counted as timed out.  If nobody does, and it is
not cancelled before, then it reports nothing until its time is over; in the turn in
which it is over it reports a timeout and is counted once, and a later response to it is late
and changes nothing else. -/
theorem deadline_decides (run : Run capacity turns k) :
    (∀ t ∈ turns, t.after.dispatcher.stats.timedOut =
      t.before.dispatcher.stats.timedOut + t.expiries.length) ∧
    ∀ r ∈ turns.flatMap Turn.issued, 0 < r.timeout → ∀ t ∈ turns, r.ticket ∈ t.entered →
      (∀ u ∈ turns, ∀ verdict, u.verdict? r.entry = some verdict →
        u.before.dispatcher.clock < r.due t ∧
        turns.flatMap (fun v => v.reports r.ticket) = [⟨r.ticket, verdict.outcome r.method⟩] ∧
        turns.flatMap (fun v => v.expiries.filter fun c => c.ticket = r.ticket) = []) ∧
      ((∀ u ∈ turns, u.before.dispatcher.clock < r.due t →
          (u.verdict? r.entry).isNone ∧ ¬ u.cancels r.ticket) →
        (k.dispatcher.clock < r.due t → turns.flatMap (fun v => v.reports r.ticket) = []) ∧
        (r.due t ≤ k.dispatcher.clock →
          turns.flatMap (fun v => v.reports r.ticket) = [r.lapse] ∧
          turns.flatMap (fun v => v.expiries.filter fun c => c.ticket = r.ticket) = [r.lapse] ∧
          ∃ front u back, turns = front ++ u :: back ∧ r.lapse ∈ u.reports r.ticket ∧
            u.before.dispatcher.clock < r.due t ∧ r.due t ≤ u.after.dispatcher.clock ∧
            ∀ v ∈ back, ∀ body, v.operation = .resolve r.id body →
              v.answer = .resolution .late ∧ v.completions = [] ∧ v.after.tasks = v.before.tasks ∧
              v.after.dispatcher = { v.before.dispatcher with
                stats.late := v.before.dispatcher.stats.late + 1 })) := by
  refine ⟨fun t turn => run.turn_timedOut turn, fun r issued positive t turn entered => ?_⟩
  obtain ⟨progress, _, story⟩ := run.chronicle.stories r issued
  have admitted := Request.admission_mem turn entered
  rw [r.expiries_eq]
  constructor
  · intro u answers verdict removed
    obtain ⟨early, reports, expiries⟩ := story.decided positive admitted (Request.verdict_mem answers removed)
    exact ⟨early, reports, congrArg (List.map Prod.fst) expiries⟩
  · intro free
    have verdicts : (r.history turns).verdicts = [] := by
      refine List.eq_nil_iff_forall_not_mem.mpr fun v member => ?_
      obtain ⟨early, _⟩ := story.decided positive admitted member
      obtain ⟨u, answers, time, removed⟩ := Request.verdict_turn member
      have nobody := (free u answers (time ▸ early)).1
      rw [removed] at nobody
      cases nobody
    have cancels : ∀ time ∈ (r.history turns).cancels, r.due t ≤ time := by
      intro time member
      obtain ⟨u, cancelling, rfl, cancels⟩ := Request.cancel_turn member
      exact Nat.le_of_not_lt fun early => (free u cancelling early).2 cancels
    obtain ⟨early, reports⟩ | ⟨before, after, live, due, past, reports, expiries⟩ :=
      story.timeout positive admitted verdicts cancels
    · exact ⟨fun _ => reports, fun late => absurd late (Nat.not_le_of_lt early)⟩
    refine ⟨fun early => absurd (Nat.le_trans due past) (Nat.not_le_of_lt early), fun _ =>
      ⟨reports, congrArg (List.map Prod.fst) expiries, ?_⟩⟩
    obtain ⟨u, turn, reported, rfl, rfl⟩ := Request.expiry_turn (expiries ▸ List.mem_singleton_self _)
    obtain ⟨front, back, rfl⟩ := List.append_of_mem turn
    refine ⟨front, u, back, rfl, reported, live, due, fun v later body resolves => ?_⟩
    obtain ⟨middle, rest, rfl⟩ := List.append_of_mem later
    have shape : front ++ u :: (middle ++ v :: rest) = (front ++ u :: middle) ++ v :: rest := by simp
    rw [shape] at run issued
    refine run.late_of_report issued (List.mem_flatMap.mpr ⟨u, ?_, reported⟩) resolves
    exact List.mem_append_right _ List.mem_cons_self

/-- The frame of the second request waits until its time would be over had it begun
with the call; the first one is answered in time. -/
theorem deadline_decides_late_entry : ∃ turns k, Run 1 turns k ∧
    turns.flatMap (fun v => v.reports 0) = [⟨0, .ok (.value .null)⟩] ∧
    turns.flatMap (fun v => v.reports 1) = [⟨1, .error (.timeout "b" 3)⟩] := by
  have run := (Run.start : Run 1 [] _).append [.send "a" none 5, .send "b" none 3, .advance 4, .take,
    .resolve 1 (.object []), .advance 2, .advance 2, .resolve 2 .null]
  have race := (deadline_decides run).2
  refine ⟨_, _, run, ?_, ?_⟩
  · obtain ⟨answered, _⟩ := race ⟨1, "a", 0, 5⟩ List.mem_cons_self (by decide) _
      (List.mem_of_getElem? (i := 0) rfl) (List.mem_singleton_self _)
    exact (answered _ (List.mem_of_getElem? (i := 4) rfl) (.response (.object [])) rfl).2.1
  · obtain ⟨_, unanswered⟩ := race ⟨2, "b", 1, 3⟩ (List.mem_cons_of_mem _ List.mem_cons_self) (by decide) _
      (List.mem_of_getElem? (i := 3) rfl) (List.mem_singleton_self _)
    exact ((unanswered (by decide)).2 (by decide)).1

end BlockDiscovery.Session
