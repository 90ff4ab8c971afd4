import BlockDiscovery.Proofs.Session.Conveyance
import BlockDiscovery.Proofs.Session.Script

/-! # A request on its own

During the handshake the dispatcher has one request and nothing else to do, so its state can be
told in full (`Solo`).  What happens to a dispatcher that nobody asks for anything is listed by `Passive`.
-/

namespace BlockDiscovery.Session

open BlockDiscovery.Json BlockDiscovery.Protocol

namespace Dispatcher

/-- What happens to a dispatcher when no task is started and none is given up, with the items that
the writer takes in it.  If a response without an error reaches the request with the given number,
then `answered` holds. -/
inductive Passive (number : Nat) (answered : Prop) (d : Dispatcher) :
    List Item → Dispatcher × List Completion → Prop
  | take : Passive number answered d d.channel.take.1.toList d.takeItem.2
  | drop : Passive number answered d [] d.dropWriter
  | resolve (id : Nat) (body : Value)
    (fits : ∀ p ∈ d.pending, p.id = number → id = number → responseError? body = none → answered) :
      Passive number answered d [] (d.resolve id body).2
  | reject (reason : String) (failure : Failure) : Passive number answered d [] (d.failAll reason failure).2
  | advance (time : Nat) (later : d.clock ≤ time) : Passive number answered d [] (d.advanceTo time)
  | answers (id : Value) (method : String) :
      Passive number answered d [] ((d.tryEnqueue (methodNotFound id method)).2, [])

variable {number : Nat} {r : Request} {answered : Prop} {d : Dispatcher} {told : List Completion}
  {taken : List Item} {out : Dispatcher × List Completion}

/-- Nothing is offered to the channel meanwhile but answers to requests of the server. -/
theorem Passive.conveys (passive : Passive number answered d taken out) (tight : d.channel.Tight) :
    ∃ offered, (∀ item ∈ offered, item.Declines) ∧ d.channel.Conveys taken offered out.1.channel := by
  cases passive with
  | take => exact ⟨[], List.forall_mem_nil _, takeItem_channel d ▸ tight.take⟩
  | drop => exact ⟨[], List.forall_mem_nil _, dropWriter_channel d ▸ Channel.conveys_drop _ _⟩
  | resolve id body => exact ⟨[], List.forall_mem_nil _, (resolve_channel d id body).symm ▸ tight.rests⟩
  | reject reason failure => exact ⟨[], List.forall_mem_nil _, (failAll_channel d reason failure).symm ▸ tight.rests⟩
  | advance time => exact ⟨[], List.forall_mem_nil _, (advanceTo_channel d time).symm ▸ tight.rests⟩
  | answers id method =>
    obtain ⟨offered, same, conveys⟩ := tight.tryPush (.message (methodNotFound id method))
    exact ⟨offered, fun item member => ⟨id, method, same item member⟩, tryEnqueue_channel d _ ▸ conveys⟩

/-- The state of a dispatcher whose only task is the given request, and what was reported so far. -/
inductive Solo (r : Request) (answered : Prop) (d : Dispatcher) (told : List Completion) : Prop
  | waits (frame : Value) (answer : Option Outcome) (line : d.channel.waiting = [(r.ticket, .message frame)])
      (task : d.sends = [r.task (.waiting answer)]) (entry : d.pending = if answer.isNone then [r.entry] else [])
      (untold : told = []) (sound : ∀ reply, answer = some (.ok reply) → answered)
  | sent (deadline : Nat) (line : d.channel.waiting = []) (task : d.sends = [r.task (.sent deadline)])
      (entry : d.pending = [r.entry]) (untold : told = [])
  | told (outcome : Outcome) (line : d.channel.waiting = []) (task : d.sends = []) (entry : d.pending = [])
      (report : told = [⟨r.ticket, outcome⟩]) (sound : ∀ reply, outcome = .ok reply → answered)

theorem Solo.mono {later : Prop} (h : Solo r answered d told) (implies : answered → later) : Solo r later d told := by
  cases h with
  | waits frame answer line task entry untold sound =>
    exact .waits frame answer line task entry untold fun reply same => implies (sound reply same)
  | sent deadline line task entry untold => exact .sent deadline line task entry untold
  | told outcome line task entry report sound =>
    exact .told outcome line task entry report fun reply same => implies (sound reply same)

/-- A dispatcher that was asked for nothing yet. -/
structure Idle (d : Dispatcher) (told : List Completion) : Prop where
  first : d.nextId = 1
  line : d.channel.waiting = []
  task : d.sends = []
  entry : d.pending = []
  untold : told = []

/-- A dispatcher that has emptied its table and told nobody yet. -/
def rejecting (d : Dispatcher) (reason : String) : Dispatcher :=
  { d with
    refusal := some (d.refusal.getD reason)
    pending := []
    stats := { d.stats with failed := d.stats.failed + d.pending.length } }

theorem failAll_eq (d : Dispatcher) (reason : String) (failure : Failure) :
    (d.failAll reason failure).2 = (d.rejecting reason).deliverAll failure d.pending := rfl

theorem take_nobody {c : Channel} (nobody : c.waiting = []) : c.take.2.1 = none ∧ c.take.2.2.waiting = [] := by
  rw [Channel.take]
  split
  · exact ⟨rfl, nobody⟩
  · exact ⟨rfl, nobody⟩
  · next waiting => cases nobody.symm.trans waiting

theorem takeItem_nobody (nobody : d.channel.waiting = []) :
    d.takeItem.2 = ({ d with channel := d.channel.take.2.2 }, []) := by
  rw [takeItem]
  dsimp only
  rw [(take_nobody nobody).1]

theorem dropWriter_nobody (nobody : d.channel.waiting = []) :
    d.dropWriter = ({ d with channel := d.channel.drop }, []) := by
  rw [dropWriter, nobody]
  rfl

/-! ## The only task -/

section Only

variable {progress : Progress}

theorem send?_only (task : d.sends = [r.task progress]) : d.send? r.ticket = some (r.task progress) := by
  rw [send?, task]
  exact List.find?_cons_of_pos (decide_eq_true rfl)

theorem send?_nobody (task : d.sends = []) (ticket : Ticket) : d.send? ticket = none := by
  rw [send?, task]
  rfl

theorem removeSend_only (task : d.sends = [r.task progress]) : (d.removeSend r.ticket).sends = [] := by
  simp [removeSend, task, Request.task]

theorem setProgress_only (task : d.sends = [r.task progress]) (next : Progress) :
    (d.setProgress r.ticket next).sends = [r.task next] := by
  simp [setProgress, task, Request.task]

theorem expire_only (task : d.sends = [r.task progress]) (entry : d.pending = [r.entry]) :
    (d.expire (r.task progress)).1.sends = [] ∧ (d.expire (r.task progress)).1.pending = [] ∧
      (d.expire (r.task progress)).1.channel = d.channel := by
  refine ⟨removeSend_only (d := d.removePending r.id) task, ?_, rfl⟩
  simp [expire, removeSend, removePending, entry, Request.task, Request.entry]

theorem cancel_only (task : d.sends = [r.task progress]) (entries : ∀ p ∈ d.pending, p = r.entry) :
    (d.cancel r.ticket).sends = [] ∧ (d.cancel r.ticket).pending = [] := by
  refine ⟨by simp [cancel, removeSend, task, Request.task], ?_⟩
  refine List.filter_eq_nil_iff.mpr fun p member => ?_
  simp [entries p member, Request.entry]

variable {outcome : Outcome}

theorem arrive_answered (task : d.sends = [r.task (.waiting (some outcome))]) :
    d.arrive r.ticket = (d.removeSend r.ticket, [⟨r.ticket, outcome⟩]) := by
  rw [arrive, send?_only task]
  rfl

theorem arrive_expires (task : d.sends = [r.task (.waiting none)]) (zero : r.timeout = 0) :
    d.arrive r.ticket = ((d.expire (r.task (.waiting none))).1, [r.lapse]) := by
  rw [arrive, send?_only task]
  exact if_pos zero

theorem arrive_starts (task : d.sends = [r.task (.waiting none)]) (positive : r.timeout ≠ 0) :
    d.arrive r.ticket = (d.setProgress r.ticket (.sent (d.clock + r.timeout)), []) := by
  rw [arrive, send?_only task]
  exact if_neg positive

theorem deliver_keeps {answer : Option Outcome} (task : d.sends = [r.task (.waiting answer)]) :
    d.deliver r.ticket outcome = (d.setProgress r.ticket (.waiting (some outcome)), []) := by
  rw [deliver, send?_only task]
  rfl

theorem deliver_ends {deadline : Nat} (task : d.sends = [r.task (.sent deadline)]) :
    d.deliver r.ticket outcome = (d.removeSend r.ticket, [⟨r.ticket, outcome⟩]) := by
  rw [deliver, send?_only task]
  rfl

end Only

/-! ## What becomes of it -/

theorem arrive_solo {answer : Option Outcome} (task : d.sends = [r.task (.waiting answer)])
    (entry : d.pending = if answer.isNone then [r.entry] else []) (nobody : d.channel.waiting = [])
    (sound : ∀ reply, answer = some (.ok reply) → answered) :
    Solo r answered (d.arrive r.ticket).1 (d.arrive r.ticket).2 := by
  cases answer with
  | some outcome =>
    rw [arrive_answered task]
    exact .told outcome nobody (removeSend_only task) entry rfl fun reply same => sound reply (congrArg some same)
  | none =>
    by_cases zero : r.timeout = 0
    · obtain ⟨tasks, entries, channel⟩ := expire_only task entry
      rw [arrive_expires task zero]
      exact .told _ (channel ▸ nobody) tasks entries rfl fun _ same => by cases same
    · rw [arrive_starts task zero]
      exact .sent (d.clock + r.timeout) nobody (setProgress_only task _) entry rfl

/-- An answer for the only task. -/
theorem deliver_solo {progress : Progress} (task : d.sends = [r.task progress]) (struck : d.pending = [])
    (outcome : Outcome) (sound : ∀ reply, outcome = .ok reply → answered)
    (line : (∃ answer frame, progress = .waiting answer ∧ d.channel.waiting = [(r.ticket, .message frame)]) ∨
      ∃ deadline, progress = .sent deadline ∧ d.channel.waiting = []) :
    Solo r answered (d.deliver r.ticket outcome).1 (d.deliver r.ticket outcome).2 := by
  obtain ⟨answer, frame, rfl, line⟩ | ⟨deadline, rfl, nobody⟩ := line
  · rw [deliver_keeps task]
    refine .waits frame (some outcome) line (setProgress_only task _) struck rfl fun reply same => ?_
    exact sound reply (Option.some.inj same)
  · rw [deliver_ends task]
    exact .told outcome nobody (removeSend_only task) struck rfl sound

theorem ok_of_outcomeOf {method : String} {body : Value} {reply : Reply} (ok : outcomeOf method body = .ok reply) :
    responseError? body = none := by
  rw [outcomeOf] at ok
  split at ok
  · cases ok
  · assumption

/-- A response reaches the request with its number, or it changes no more than a counter. -/
theorem resolve_reaches (d : Dispatcher) (id : Nat) (body : Value) :
    (∃ stats, (d.resolve id body).2 = ({ d with stats }, [])) ∨
    ∃ p stats, p ∈ d.pending ∧ p.id = id ∧
      (d.resolve id body).2 = { d.removePending id with stats }.deliver p.ticket (outcomeOf p.method body) := by
  cases found : d.pending.find? fun p => p.id = id with
  | none =>
    left
    rw [resolve, found]
    dsimp only
    split
    · exact ⟨_, rfl⟩
    · exact ⟨d.stats, rfl⟩
  | some p =>
    right
    rw [resolve, found]
    obtain ⟨member, own⟩ := mem_of_find found
    exact ⟨p, _, member, own, rfl⟩

theorem removePending_only (entries : ∀ p ∈ d.pending, p = r.entry) : (d.removePending r.id).pending = [] := by
  refine List.filter_eq_nil_iff.mpr fun p member => ?_
  simp [entries p member, Request.entry]

theorem resolve_solo (h : Solo r answered d told) (id : Nat) (body : Value)
    (fits : ∀ p ∈ d.pending, p.id = r.id → id = r.id → responseError? body = none → answered) :
    Solo r answered (d.resolve id body).2.1 (told ++ (d.resolve id body).2.2) := by
  obtain ⟨stats, same⟩ | ⟨p, stats, member, own, delivers⟩ := resolve_reaches d id body
  · rw [same, List.append_nil]
    cases h with
    | waits frame answer line task entry untold sound => exact .waits frame answer line task entry untold sound
    | sent deadline line task entry untold => exact .sent deadline line task entry untold
    | told outcome line task entry report sound => exact .told outcome line task entry report sound
  · have entries : ∀ p ∈ d.pending, p = r.entry := by
      cases h with
      | waits _ answer _ _ entry =>
        rw [entry]
        cases answer with
        | none => exact fun p member => List.mem_singleton.mp member
        | some => exact List.forall_mem_nil _
      | sent _ _ _ entry =>
        rw [entry]
        exact fun p member => List.mem_singleton.mp member
      | told _ _ _ entry =>
        rw [entry]
        exact List.forall_mem_nil _
    obtain rfl := entries p member
    subst own
    -- `e` is the dispatcher with the entry counted and not yet delivered
    let e : Dispatcher := { d.removePending r.id with stats }
    have struck : e.pending = [] := removePending_only entries
    have sound (reply : Reply) (ok : outcomeOf r.method body = .ok reply) : answered :=
      fits r.entry member rfl rfl (ok_of_outcomeOf ok)
    rw [delivers]
    cases h with
    | waits frame answer line task _ untold =>
      rw [untold]
      exact deliver_solo (d := e) task struck _ sound (.inl ⟨answer, frame, rfl, line⟩)
    | sent deadline line task _ untold =>
      rw [untold]
      exact deliver_solo (d := e) task struck _ sound (.inr ⟨deadline, rfl, line⟩)
    | told _ _ _ entry =>
      rw [entry] at member
      cases member

theorem failAll_solo (h : Solo r answered d told) (reason : String) (failure : Failure) :
    Solo r answered (d.failAll reason failure).2.1 (told ++ (d.failAll reason failure).2.2) := by
  have sound (reply : Reply) (ok : (.error failure : Outcome) = .ok reply) : answered := by cases ok
  have one (entry : d.pending = [r.entry]) :
      (d.failAll reason failure).2 = (d.rejecting reason).deliver r.ticket (.error failure) := by
    rw [failAll_eq, entry, deliverAll_cons]
    exact Prod.ext rfl (List.append_nil _)
  have none (entry : d.pending = []) : (d.failAll reason failure).2 = (d.rejecting reason, []) := by
    rw [failAll_eq, entry]
    rfl
  cases h with
  | waits frame answer line task entry untold sounds =>
    cases answer with
    | none =>
      rw [one entry, untold]
      exact deliver_solo (d := d.rejecting reason) task rfl _ sound (.inl ⟨.none, frame, rfl, line⟩)
    | some outcome =>
      rw [none entry, List.append_nil]
      exact .waits frame (some outcome) line task rfl untold sounds
  | sent deadline line task entry untold =>
    rw [one entry, untold]
    exact deliver_solo (d := d.rejecting reason) task rfl _ sound (.inr ⟨deadline, rfl, line⟩)
  | told outcome line task entry report sounds =>
    rw [none entry, List.append_nil]
    exact .told outcome line task rfl report sounds

theorem advanceTo_solo (h : Solo r answered d told) (time : Nat) :
    Solo r answered (d.advanceTo time).1 (told ++ (d.advanceTo time).2) := by
  let e : Dispatcher := { d with clock := time }
  have late (tasks : List Send) (same : d.sends = tasks) : d.advanceTo time = e.expireDue tasks :=
    congrArg e.expireDue same
  cases h with
  | waits frame answer line task entry untold sound =>
    have later : ∀ deadline, (r.task (.waiting answer)).progress = .sent deadline → e.clock < deadline := by
      intro deadline same
      cases same
    rw [late _ task, expireDue_later later, expireDue, List.append_nil]
    exact .waits frame answer line task entry untold sound
  | sent deadline line task entry untold =>
    by_cases due : deadline ≤ time
    · obtain ⟨tasks, entries, channel⟩ := expire_only (d := e) task entry
      rw [late _ task, expireDue_due (d := e) rfl due, untold]
      exact .told _ (channel ▸ line) tasks entries rfl fun _ same => by cases same
    · have later : ∀ other, (r.task (.sent deadline)).progress = .sent other → e.clock < other := by
        rintro _ ⟨⟩
        exact Nat.lt_of_not_le due
      rw [late _ task, expireDue_later later, expireDue, List.append_nil]
      exact .sent deadline line task entry untold
  | told outcome line task entry report sound =>
    rw [late _ task, expireDue, List.append_nil]
    exact .told outcome line task entry report sound

theorem takeItem_solo (h : Solo r answered d told) :
    Solo r answered d.takeItem.2.1 (told ++ d.takeItem.2.2) := by
  cases h with
  | waits frame answer line task entry untold sound =>
    cases items : d.channel.items with
    | nil =>
      have rests : d.takeItem = (none, d, []) := by
        rw [takeItem, Channel.take, items]
      rw [rests, List.append_nil]
      exact .waits frame answer line task entry untold sound
    | cons item rest =>
      let e : Dispatcher :=
        { d with channel := { d.channel with items := rest ++ [.message frame], waiting := [] } }
      have enters : d.takeItem.2 = e.arrive r.ticket := by
        rw [takeItem, Channel.take, items, line]
      rw [enters, untold]
      exact arrive_solo (d := e) task entry rfl sound
  | sent deadline line task entry untold =>
    rw [takeItem_nobody line, List.append_nil]
    exact .sent deadline (take_nobody line).2 task entry untold
  | told outcome line task entry report sound =>
    rw [takeItem_nobody line, List.append_nil]
    exact .told outcome (take_nobody line).2 task entry report sound

theorem dropWriter_solo (h : Solo r answered d told) :
    Solo r answered d.dropWriter.1 (told ++ d.dropWriter.2) := by
  cases h with
  | waits frame answer line task entry untold sound =>
    have entries : ∀ p ∈ d.pending, p = r.entry := by
      rw [entry]
      cases answer with
      | none => exact fun p member => List.mem_singleton.mp member
      | some => exact List.forall_mem_nil _
    obtain ⟨tasks, struck⟩ := cancel_only (d := { d with channel := d.channel.drop }) task entries
    have strands : d.dropWriter =
        ({ d with channel := d.channel.drop }.cancel r.ticket, [⟨r.ticket, .error .writerClosed⟩]) := by
      rw [dropWriter, line]
      rfl
    rw [strands, untold]
    exact .told _ rfl tasks struck rfl fun _ same => by cases same
  | sent deadline line task entry untold =>
    rw [dropWriter_nobody line, List.append_nil]
    exact .sent deadline rfl task entry untold
  | told outcome line task entry report sound =>
    rw [dropWriter_nobody line, List.append_nil]
    exact .told outcome rfl task entry report sound

theorem tryEnqueue_solo (h : Solo r answered d told) (frame : Value) :
    Solo r answered (d.tryEnqueue frame).2 told := by
  obtain ⟨channel, same, nobody⟩ := tryEnqueue_frame d frame
  rw [same]
  cases h with
  | waits frame answer line task entry untold sound =>
    exact .waits frame answer (nobody.trans line) task entry untold sound
  | sent deadline line task entry untold => exact .sent deadline (nobody.trans line) task entry untold
  | told outcome line task entry report sound =>
    exact .told outcome (nobody.trans line) task entry report sound

/-- The only request goes its way, whatever happens. -/
theorem Solo.passive (h : Solo r answered d told) (passive : Passive r.id answered d taken out) :
    Solo r answered out.1 (told ++ out.2) := by
  cases passive with
  | take => exact takeItem_solo h
  | drop => exact dropWriter_solo h
  | resolve id body fits => exact resolve_solo h id body fits
  | reject reason failure => exact failAll_solo h reason failure
  | advance time => exact advanceTo_solo h time
  | answers id method =>
    rw [List.append_nil]
    exact tryEnqueue_solo h _

/-- A dispatcher that was asked for nothing has nothing to tell. -/
theorem Idle.passive (h : Idle d told) (passive : Passive number answered d taken out) :
    Idle out.1 (told ++ out.2) := by
  cases passive with
  | take =>
    rw [takeItem_nobody h.line, List.append_nil]
    exact ⟨h.first, (take_nobody h.line).2, h.task, h.entry, h.untold⟩
  | drop =>
    rw [dropWriter_nobody h.line, List.append_nil]
    exact ⟨h.first, rfl, h.task, h.entry, h.untold⟩
  | resolve id body =>
    obtain ⟨stats, same⟩ | ⟨p, _, member, _⟩ := resolve_reaches d id body
    · rw [same, List.append_nil]
      exact ⟨h.first, h.line, h.task, h.entry, h.untold⟩
    · rw [h.entry] at member
      cases member
  | reject reason failure =>
    rw [failAll_eq, h.entry, deliverAll, List.append_nil]
    exact ⟨h.first, h.line, h.task, rfl, h.untold⟩
  | advance time =>
    have passes : d.advanceTo time = Dispatcher.expireDue { d with clock := time } d.sends := rfl
    rw [passes, h.task, expireDue, List.append_nil]
    exact ⟨h.first, h.line, rfl, h.entry, h.untold⟩
  | answers id method =>
    obtain ⟨channel, same, nobody⟩ := tryEnqueue_frame d (methodNotFound id method)
    rw [List.append_nil, same]
    exact ⟨h.first, nobody.trans h.line, h.task, h.entry, h.untold⟩

/-- The first request of a dispatcher is its only one. -/
theorem Idle.send (h : Idle d told) (accepts : d.refusal = none) (answered : Prop) (ticket : Ticket)
    (method : String) (params : Option Value) (timeout : Nat) :
    Solo ⟨1, method, ticket, timeout⟩ answered (d.send ticket method params timeout).1
      (told ++ (d.send ticket method params timeout).2) := by
  let r : Request := ⟨1, method, ticket, timeout⟩
  let frame := request d.nextId method params
  have task : (d.enroll ticket method timeout).sends = [r.task (.waiting none)] := by
    rw [enroll, h.task, h.first]
    rfl
  have entry : (d.enroll ticket method timeout).pending = [r.entry] := by
    rw [enroll, h.entry, h.first]
    rfl
  rw [h.untold, List.nil_append]
  cases pushed : d.channel.push ticket (.message frame) with
  | mk result channel =>
  cases result with
  | refused =>
    obtain ⟨tasks, struck⟩ := cancel_only (d := d.enroll ticket method timeout) task fun p member => by
      rw [entry] at member
      exact List.mem_singleton.mp member
    have nobody : ((d.enroll ticket method timeout).cancel ticket).channel.waiting = [] := by
      refine List.filter_eq_nil_iff.mpr fun w member => ?_
      rw [show (d.enroll ticket method timeout).channel.waiting = [] from h.line] at member
      cases member
    rw [send_of_closed accepts pushed]
    exact .told _ nobody tasks struck rfl fun _ same => by cases same
  | waits =>
    have line : channel.waiting = [(ticket, .message frame)] := by
      rw [Channel.push] at pushed
      split at pushed
      · cases pushed
      · split at pushed
        · cases pushed
        · cases pushed
          rw [h.line]
          rfl
    rw [send_of_waits accepts pushed]
    exact .waits frame none line task entry rfl fun _ same => by cases same
  | entered =>
    have nobody : channel.waiting = [] := by
      rw [Channel.push] at pushed
      split at pushed
      · cases pushed
      · split at pushed
        · cases pushed
          exact h.line
        · cases pushed
    rw [send_of_entered accepts pushed]
    have unanswered : ∀ reply, (none : Option Outcome) = some (.ok reply) → answered := by
      intro reply same
      cases same
    exact arrive_solo (d := { d.enroll ticket method timeout with channel }) task entry nobody unanswered

end Dispatcher

end BlockDiscovery.Session
