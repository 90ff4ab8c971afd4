import BlockDiscovery.Proofs.Session.Errand

/-! # The last request

The farewell asks for one thing more.  Its request stands in line, or its time runs, or it has
told something (`Asked`), and it stays so while nothing else is asked for.  A request in line is told
nothing, whatever else happens (`Delays`), so only the line has no end of its own.
-/

namespace BlockDiscovery.Session

open BlockDiscovery.Json BlockDiscovery.Protocol

namespace Dispatcher

variable {number : Nat} {r : Request} {limit : Option Nat} {answered : Prop} {d : Dispatcher} {told : List Completion}
  {taken : List Item} {out : Dispatcher × List Completion} {progress : Progress}

/-! ## Nobody has a task -/

theorem arrive_nobody (nobody : d.sends = []) (ticket : Ticket) :
    d.arrive ticket = (d, [⟨ticket, .ok .queued⟩]) := by
  rw [arrive, send?_nobody nobody]

theorem deliver_nobody (nobody : d.sends = []) (ticket : Ticket) (outcome : Outcome) :
    d.deliver ticket outcome = (d, []) := by
  rw [deliver, send?_nobody nobody]

theorem deliverAll_nobody (nobody : d.sends = []) (failure : Failure) (rejected : List Pending) :
    d.deliverAll failure rejected = (d, []) := by
  induction rejected with
  | nil => rfl
  | cons p rejected ih => rw [deliverAll_cons, deliver_nobody nobody, ih, List.append_nil]

theorem enqueue_sends (d : Dispatcher) (ticket : Ticket) (item : Item) :
    (d.enqueue ticket item).1.sends = d.sends := by
  obtain ⟨_, _, same, _⟩ := enqueue_frame d ticket item
  rw [same]

/-- While nothing is asked for, there is no task. -/
theorem Passive.sends_nil (passive : Passive number answered d taken out) (nobody : d.sends = []) :
    out.1.sends = [] := by
  cases passive with
  | take =>
    rw [takeItem]
    dsimp only
    split
    · exact nobody
    · rw [arrive_nobody (d := { d with channel := d.channel.take.2.2 }) nobody]
      exact nobody
  | drop =>
    have fewer := (dropWriter_strands d).tickets
    rw [tickets, tickets, nobody, List.map_nil, List.subset_nil, List.map_eq_nil_iff] at fewer
    exact fewer
  | resolve id body =>
    obtain ⟨_, same⟩ | ⟨p, stats, _, _, delivers⟩ := resolve_reaches d id body
    · rw [same]
      exact nobody
    · rw [delivers, deliver_nobody (d := { d.removePending id with stats }) nobody]
      exact nobody
  | reject reason failure =>
    rw [failAll_eq, deliverAll_nobody (d := d.rejecting reason) nobody]
    exact nobody
  | advance time =>
    rw [advanceTo, nobody]
    rfl
  | answers id method =>
    obtain ⟨_, same, _⟩ := tryEnqueue_frame d (methodNotFound id method)
    rw [same]
    exact nobody

/-! ## A request in line -/

/-- A request still waits for room, and nothing was told. -/
def Delays (r : Request) (out : Dispatcher × List Completion) : Prop :=
  (∃ answer, out.1.sends = [r.task (.waiting answer)]) ∧ out.2 = []

theorem send?_others (task : d.sends = [r.task progress]) {ticket : Ticket} (other : ticket ≠ r.ticket) :
    d.send? ticket = none := by
  rw [send?, task]
  exact List.find?_cons_of_neg fun own => other (of_decide_eq_true own).symm

theorem deliver_others (task : d.sends = [r.task progress]) {ticket : Ticket} (other : ticket ≠ r.ticket)
    (outcome : Outcome) : d.deliver ticket outcome = (d, []) := by
  rw [deliver, send?_others task other]

section Delays

variable {answer : Option Outcome} (task : d.sends = [r.task (.waiting answer)])
include task

theorem deliver_delays (ticket : Ticket) (outcome : Outcome) : Delays r (d.deliver ticket outcome) := by
  by_cases own : ticket = r.ticket
  · subst own
    rw [deliver_keeps task]
    exact ⟨⟨_, setProgress_only task _⟩, rfl⟩
  · rw [deliver_others task own]
    exact ⟨⟨answer, task⟩, rfl⟩

theorem deliverAll_delays (failure : Failure) (rejected : List Pending) :
    Delays r (d.deliverAll failure rejected) := by
  induction rejected generalizing d answer with
  | nil => exact ⟨⟨answer, task⟩, rfl⟩
  | cons p rejected ih =>
    obtain ⟨⟨_, now⟩, silent⟩ := deliver_delays task p.ticket (.error failure)
    obtain ⟨later, quiet⟩ := ih now
    exact ⟨later, List.append_eq_nil_iff.mpr ⟨silent, quiet⟩⟩

theorem resolve_delays (id : Nat) (body : Value) : Delays r (d.resolve id body).2 := by
  obtain ⟨_, same⟩ | ⟨p, stats, _, _, delivers⟩ := resolve_reaches d id body
  · rw [same]
    exact ⟨⟨answer, task⟩, rfl⟩
  · rw [delivers]
    exact deliver_delays (d := { d.removePending id with stats }) task p.ticket _

theorem failAll_delays (reason : String) (failure : Failure) : Delays r (d.failAll reason failure).2 :=
  deliverAll_delays (d := d.rejecting reason) task failure d.pending

theorem advanceTo_delays (time : Nat) : Delays r (d.advanceTo time) := by
  have rests : d.advanceTo time = ({ d with clock := time }, []) := by
    rw [advanceTo, task, expireDue_later fun deadline same => by cases same]
    rfl
  rw [rests]
  exact ⟨⟨answer, task⟩, rfl⟩

theorem tryEnqueue_delays (frame : Value) : Delays r ((d.tryEnqueue frame).2, []) := by
  obtain ⟨_, same, _⟩ := tryEnqueue_frame d frame
  rw [same]
  exact ⟨⟨answer, task⟩, rfl⟩

end Delays

/-! ## A request goes its way -/

/-- How far a request has come that is the only one, with what was told so far: it stands in line, or
its time runs, or it has told something.  If there is a limit, then it is not in line, and its time
is over by then. -/
inductive Asked (r : Request) (limit : Option Nat) (d : Dispatcher) (told : List Completion) : Prop
  | waits (answer : Option Outcome) (task : d.sends = [r.task (.waiting answer)]) (place : r.ticket ∈ d.line)
      (unlimited : limit = none)
  | sent (deadline : Nat) (task : d.sends = [r.task (.sent deadline)]) (live : d.clock < deadline)
      (soon : deadline ≤ limit.getD (d.clock + r.timeout))
  | told (c : Completion) (member : c ∈ told) (own : c.ticket = r.ticket)

theorem Asked.reports {c : Completion} (member : c ∈ out.2) (own : c.ticket = r.ticket) :
    Asked r limit out.1 (told ++ out.2) :=
  .told c (List.mem_append_right _ member) own

theorem Delays.asked (delays : Delays r out) (place : r.ticket ∈ out.1.line) :
    Asked r none out.1 (told ++ out.2) := by
  obtain ⟨⟨answer, task⟩, silent⟩ := delays
  exact .waits answer task place rfl

/-- What leaves its task alone leaves a request alone. -/
theorem Asked.spared (h : Asked r limit d told) {e : Dispatcher} (kept : e.sends = d.sends)
    (clock : e.clock = d.clock) (line : r.ticket ∈ d.line → r.ticket ∈ e.line) : Asked r limit e told := by
  cases h with
  | waits answer task place unlimited => exact .waits answer (kept.trans task) (line place) unlimited
  | sent deadline task live soon => exact .sent deadline (kept.trans task) (clock ▸ live) (clock ▸ soon)
  | told c member own => exact .told c member own

/-- Its own frame enters the channel. -/
theorem arrive_asked {answer : Option Outcome} (task : d.sends = [r.task (.waiting answer)])
    (told : List Completion) : Asked r none (d.arrive r.ticket).1 (told ++ (d.arrive r.ticket).2) := by
  cases answer with
  | some outcome =>
    rw [arrive_answered task]
    exact .reports (List.mem_singleton_self _) rfl
  | none =>
    by_cases zero : r.timeout = 0
    · rw [arrive_expires task zero]
      exact .reports (List.mem_singleton_self _) rfl
    · rw [arrive_starts task zero]
      exact .sent (d.clock + r.timeout) (setProgress_only task _) (Nat.lt_add_of_pos_right (Nat.pos_of_ne_zero zero))
        (Nat.le_refl _)

theorem takeItem_asked (h : Asked r limit d told) : Asked r limit d.takeItem.2.1 (told ++ d.takeItem.2.2) := by
  let e : Dispatcher := { d with channel := d.channel.take.2.2 }
  have stays (other : d.channel.take.2.1 ≠ some r.ticket) : r.ticket ∈ d.line → r.ticket ∈ e.line :=
    fun place => Channel.take_stays place other
  cases entered : d.channel.take.2.1 with
  | none =>
    have rests : d.takeItem.2 = (e, []) := by
      rw [takeItem]
      simp only [entered]
      rfl
    rw [rests, List.append_nil]
    exact h.spared rfl rfl (stays fun same => by cases entered.symm.trans same)
  | some ticket =>
    have enters : d.takeItem.2 = e.arrive ticket := by
      rw [takeItem]
      simp only [entered]
      rfl
    rw [enters]
    by_cases own : ticket = r.ticket
    · subst own
      cases h with
      | waits answer task place unlimited =>
        rw [unlimited]
        exact arrive_asked (d := e) task told
      | sent deadline task live soon =>
        have rests : e.arrive r.ticket = (e, []) := by
          rw [arrive, send?_only (d := e) task]
          rfl
        rw [rests]
        exact .sent deadline task live soon
      | told c member own => exact .told c (List.mem_append_left _ member) own
    · have rests (progress : Progress) (task : d.sends = [r.task progress]) :
          e.arrive ticket = (e, [⟨ticket, .ok .queued⟩]) := by
        rw [arrive, send?_others (d := e) task own]
      have place := stays fun same => own (Option.some.inj (entered.symm.trans same))
      cases h with
      | waits answer task inside unlimited =>
        rw [rests _ task]
        exact .waits answer task (place inside) unlimited
      | sent deadline task live soon =>
        rw [rests _ task]
        exact .sent deadline task live soon
      | told c member own => exact .told c (List.mem_append_left _ member) own

theorem strand_others (task : d.sends = [r.task progress]) {line : List (Ticket × Item)}
    (outside : r.ticket ∉ line.map Prod.fst) : (d.strand line).1.sends = d.sends := by
  induction line generalizing d with
  | nil => rfl
  | cons w line ih =>
    rw [List.map_cons, List.mem_cons, not_or] at outside
    have same : (d.cancel w.1).sends = d.sends := by
      refine List.filter_eq_self.mpr fun s member => decide_eq_true ?_
      rw [show d.sends = _ from task] at member
      rw [List.mem_singleton.mp member]
      exact outside.1
    rw [strand_cons]
    exact (ih (same.trans task) outside.2).trans same

theorem dropWriter_asked (h : Asked r limit d told) : Asked r limit d.dropWriter.1 (told ++ d.dropWriter.2) := by
  by_cases place : r.ticket ∈ d.line
  · rw [line, ← (dropWriter_strands d).completions] at place
    obtain ⟨c, member, own⟩ := List.mem_map.mp place
    exact .reports member own
  · have clock : d.dropWriter.1.clock = d.clock := strand_clock _ _
    cases h with
    | waits answer task inside => exact absurd inside place
    | sent deadline task live soon =>
      have kept : d.dropWriter.1.sends = d.sends :=
        strand_others (d := { d with channel := d.channel.drop }) task place
      exact .sent deadline (kept.trans task) (clock ▸ live) (clock ▸ soon)
    | told c member own => exact .told c (List.mem_append_left _ member) own

theorem deliver_asked (h : Asked r limit d told) (ticket : Ticket) (outcome : Outcome) :
    Asked r limit (d.deliver ticket outcome).1 (told ++ (d.deliver ticket outcome).2) := by
  cases h with
  | waits answer task place unlimited =>
    subst unlimited
    refine (deliver_delays task ticket outcome).asked ?_
    rw [deliver_frame]
    exact place
  | sent deadline task live soon =>
    by_cases own : ticket = r.ticket
    · subst own
      rw [deliver_ends task]
      exact .reports (List.mem_singleton_self _) rfl
    · rw [deliver_others task own]
      exact .sent deadline task live soon
  | told c member own => exact .told c (List.mem_append_left _ member) own

theorem deliverAll_asked (h : Asked r limit d told) (failure : Failure) (rejected : List Pending) :
    Asked r limit (d.deliverAll failure rejected).1 (told ++ (d.deliverAll failure rejected).2) := by
  induction rejected generalizing d told with
  | nil => exact (List.append_nil told).symm ▸ h
  | cons p rejected ih =>
    rw [deliverAll_cons, ← List.append_assoc]
    exact ih (deliver_asked h p.ticket (.error failure))

theorem advanceTo_asked (h : Asked r limit d told) {time : Nat} (later : d.clock ≤ time) :
    Asked r limit (d.advanceTo time).1 (told ++ (d.advanceTo time).2) := by
  cases h with
  | waits answer task place unlimited =>
    subst unlimited
    refine (advanceTo_delays task time).asked ?_
    rw [line, advanceTo_channel]
    exact place
  | sent deadline task live soon =>
    let e : Dispatcher := { d with clock := time }
    have passes : d.advanceTo time = e.expireDue [r.task (.sent deadline)] := congrArg e.expireDue task
    by_cases due : deadline ≤ time
    · rw [passes, expireDue_due (d := e) rfl due]
      exact .reports List.mem_cons_self rfl
    · have live : time < deadline := Nat.lt_of_not_le due
      have rests : d.advanceTo time = (e, []) := by
        rw [passes, expireDue_later (d := e) fun _ same => by cases same; exact live]
        rfl
      rw [rests]
      refine .sent deadline task live (Nat.le_trans soon ?_)
      cases limit with
      | none => exact Nat.add_le_add_right later _
      | some => exact Nat.le_refl _
  | told c member own => exact .told c (List.mem_append_left _ member) own

theorem tryEnqueue_asked (h : Asked r limit d told) (frame : Value) : Asked r limit (d.tryEnqueue frame).2 told := by
  obtain ⟨channel, same, nobody⟩ := tryEnqueue_frame d frame
  rw [same]
  refine h.spared rfl rfl fun place => ?_
  rw [line, nobody]
  exact place

/-- A request goes its way, whatever happens. -/
theorem Asked.passive (h : Asked r limit d told) (passive : Passive number answered d taken out) :
    Asked r limit out.1 (told ++ out.2) := by
  cases passive with
  | take => exact takeItem_asked h
  | drop => exact dropWriter_asked h
  | resolve id body =>
    obtain ⟨stats, same⟩ | ⟨p, stats, _, _, delivers⟩ := resolve_reaches d id body
    · rw [same, List.append_nil]
      exact h.spared rfl rfl fun place => place
    · have counted := h.spared (e := { d.removePending id with stats }) rfl rfl fun place => place
      rw [delivers]
      exact deliver_asked counted p.ticket _
  | reject reason failure =>
    have counted := h.spared (e := d.rejecting reason) rfl rfl fun place => place
    exact deliverAll_asked counted failure d.pending
  | advance time later => exact advanceTo_asked h later
  | answers id method =>
    rw [List.append_nil]
    exact tryEnqueue_asked h _

/-- What was told to others is taken up by them. -/
theorem Asked.others (h : Asked r limit d told) {ticket : Ticket} (other : r.ticket ≠ ticket) :
    Asked r limit d (told.filter fun c => c.ticket ≠ ticket) := by
  cases h with
  | waits answer task place unlimited => exact .waits answer task place unlimited
  | sent deadline task live soon => exact .sent deadline task live soon
  | told c member own => exact .told c (List.mem_filter.mpr ⟨member, decide_eq_true (own ▸ other)⟩) own

/-- A request of a dispatcher that has no other. -/
theorem send_asked (nobody : d.sends = []) (accepts : d.refusal = none) (ticket : Ticket) (method : String)
    (params : Option Value) (timeout : Nat) (told : List Completion) :
    Asked ⟨d.nextId, method, ticket, timeout⟩ none (d.send ticket method params timeout).1
      (told ++ (d.send ticket method params timeout).2) := by
  let r : Request := ⟨d.nextId, method, ticket, timeout⟩
  have task : (d.enroll ticket method timeout).sends = [r.task (.waiting none)] := by
    rw [enroll, nobody]
    rfl
  cases pushed : d.channel.push ticket (.message (request d.nextId method params)) with
  | mk result channel =>
  cases result with
  | refused =>
    rw [send_of_closed accepts pushed]
    exact .reports (List.mem_singleton_self _) rfl
  | waits =>
    rw [send_of_waits accepts pushed]
    exact .waits none task (Channel.push_waits pushed) rfl
  | entered =>
    rw [send_of_entered accepts pushed]
    exact arrive_asked (d := { d.enroll ticket method timeout with channel }) (r := r) task told

/-! ## Time limits -/

/-- A request that does not wait for room has a limit. -/
theorem Asked.limited (h : Asked r none d told) (enters : ∀ answer, d.sends ≠ [r.task (.waiting answer)]) :
    Asked r (some (d.clock + r.timeout)) d told := by
  cases h with
  | waits answer task => exact absurd task (enters answer)
  | sent deadline task live soon => exact .sent deadline task live soon
  | told c member own => exact .told c member own

/-- When the limit has come, something was told. -/
theorem Asked.over {time : Nat} (h : Asked r (some time) d told) (late : time ≤ d.clock) :
    ∃ c ∈ told, c.ticket = r.ticket := by
  cases h with
  | waits answer task place unlimited => cases unlimited
  | sent deadline task live soon => exact absurd (Nat.lt_of_lt_of_le live soon) (Nat.not_lt_of_le late)
  | told c member own => exact ⟨c, member, own⟩

end Dispatcher

end BlockDiscovery.Session
