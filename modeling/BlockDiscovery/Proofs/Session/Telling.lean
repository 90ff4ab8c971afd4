import BlockDiscovery.Proofs.Session.Conveyance
import BlockDiscovery.Proofs.Session.Refusal

/-! # Who is told what

Only a task that has sent a request, or one that waits for room, is told anything.  Who is told has no
request any more.  A task without a request is told that its item is in the channel, or that nobody
takes items.
-/

namespace BlockDiscovery.Session

open BlockDiscovery.Json BlockDiscovery.Protocol

/-- A task ends as one can that waits for no answer, and nobody takes items if that is what it is told. -/
def Completion.Plain (c : Completion) (channel : Channel) : Prop :=
  c.outcome = .ok .queued ∨ c.outcome = .error .writerClosed ∧ channel.isOpen = false

theorem Completion.Plain.mono {c : Completion} {channel later : Channel} (plain : c.Plain channel)
    (shut : channel.isOpen = false → later.isOpen = false) : c.Plain later :=
  plain.imp_right fun fails => ⟨fails.1, shut fails.2⟩

/-- The only failure that a task without a request can be told. -/
theorem Completion.Plain.eq_writerClosed {c : Completion} {channel : Channel} {failure : Failure}
    (plain : c.Plain channel) (fails : c.outcome = .error failure) :
    failure = .writerClosed ∧ channel.isOpen = false := by
  obtain queued | ⟨closed, shut⟩ := plain
  · cases queued.symm.trans fails
  · cases closed.symm.trans fails
    exact ⟨rfl, shut⟩

/-! ## A closed channel stays closed -/

namespace Channel

variable {c : Channel}

theorem push_isOpen (c : Channel) (ticket : Ticket) (item : Item) : (c.push ticket item).2.isOpen = c.isOpen := by
  rw [push]
  split
  · rfl
  · split <;> rfl

theorem isOpen_of_refused {ticket : Ticket} {item : Item} {channel : Channel}
    (pushed : c.push ticket item = (.refused, channel)) : c.isOpen = false := by
  rw [push] at pushed
  split at pushed
  · next shut => simpa using shut
  · split at pushed <;> cases pushed

theorem tryPush_isOpen (c : Channel) (item : Item) : (c.tryPush item).2.isOpen = c.isOpen := by
  rw [tryPush]
  split
  · rfl
  · split <;> rfl

theorem take_isOpen (c : Channel) : c.take.2.2.isOpen = c.isOpen := by
  rw [take]
  split <;> rfl

end Channel

namespace Dispatcher

variable {d e : Dispatcher} {out : Dispatcher × List Completion} {ticket : Ticket}

/-- Tasks are told something, and nobody asks for anything. -/
structure Tells (d : Dispatcher) (out : Dispatcher × List Completion) : Prop where
  tickets : out.1.tickets ⊆ d.tickets
  line : out.1.line ⊆ d.line
  known : ∀ c ∈ out.2, c.ticket ∈ d.tickets ∨ c.ticket ∈ d.line
  plain : ∀ c ∈ out.2, c.ticket ∉ d.tickets → c.Plain out.1.channel
  ended : ∀ c ∈ out.2, c.ticket ∉ out.1.tickets
  shut : d.channel.isOpen = false → out.1.channel.isOpen = false

theorem tells_nobody (tickets : e.tickets ⊆ d.tickets) (line : e.line ⊆ d.line)
    (shut : d.channel.isOpen = false → e.channel.isOpen = false) : Tells d (e, []) where
  tickets := tickets
  line := line
  known := List.forall_mem_nil _
  plain := List.forall_mem_nil _
  ended := List.forall_mem_nil _
  shut := shut

/-- The task of a request is told its outcome. -/
theorem tells_requester (there : ticket ∈ d.tickets) (tickets : e.tickets ⊆ d.tickets)
    (channel : e.channel = d.channel) (gone : ticket ∉ e.tickets) (outcome : Outcome) :
    Tells d (e, [⟨ticket, outcome⟩]) where
  tickets := tickets
  line := by
    rw [line, channel]
    exact List.Subset.refl _
  known := List.forall_mem_singleton.mpr (.inl there)
  plain := List.forall_mem_singleton.mpr fun missing => absurd there missing
  ended := List.forall_mem_singleton.mpr gone
  shut := channel ▸ id

namespace Tells

theorem refl (d : Dispatcher) : Tells d (d, []) := tells_nobody (List.Subset.refl _) (List.Subset.refl _) id

theorem trans {first more : List Completion} {f : Dispatcher} (early : Tells d (e, first))
    (late : Tells e (f, more)) : Tells d (f, first ++ more) where
  tickets := List.Subset.trans late.tickets early.tickets
  line := List.Subset.trans late.line early.line
  known := List.forall_mem_append.mpr ⟨early.known, fun c member =>
    (late.known c member).imp (fun asked => early.tickets asked) fun waits => early.line waits⟩
  plain := List.forall_mem_append.mpr ⟨fun c member missing => (early.plain c member missing).mono late.shut,
    fun c member missing => late.plain c member fun inside => missing (early.tickets inside)⟩
  ended := List.forall_mem_append.mpr ⟨fun c member inside => early.ended c member (late.tickets inside), late.ended⟩
  shut := late.shut ∘ early.shut

/-- Only the requests and the channel count. -/
theorem after (tells : Tells e out) (sends : e.sends = d.sends) (channel : e.channel = d.channel) : Tells d out where
  tickets := List.Subset.trans tells.tickets (by rw [Dispatcher.tickets, sends]; exact List.Subset.refl _)
  line := List.Subset.trans tells.line (by rw [Dispatcher.line, channel]; exact List.Subset.refl _)
  known c member := by
    have known := tells.known c member
    rwa [Dispatcher.tickets, Dispatcher.line, sends, channel] at known
  plain c member missing := tells.plain c member (by rwa [Dispatcher.tickets, sends])
  ended := tells.ended
  shut := channel ▸ tells.shut

end Tells

/-! ## What is told at once -/

theorem removeSend_gone (d : Dispatcher) (ticket : Ticket) : ticket ∉ (d.removeSend ticket).tickets :=
  not_mem_without ticket d.sends

theorem removeSend_tickets (d : Dispatcher) (ticket : Ticket) : (d.removeSend ticket).tickets ⊆ d.tickets :=
  tickets_without ticket d.sends

theorem setProgress_tickets (d : Dispatcher) (ticket : Ticket) (progress : Progress) :
    (d.setProgress ticket progress).tickets ⊆ d.tickets :=
  tickets_progressed ticket progress d.sends

theorem mem_tickets_of_send? {s : Send} (found : d.send? ticket = some s) : ticket ∈ d.tickets := by
  obtain ⟨member, rfl⟩ := send?_eq_some found
  exact List.mem_map_of_mem member

theorem deliver_tells (d : Dispatcher) (ticket : Ticket) (answer : Outcome) : Tells d (d.deliver ticket answer) := by
  rw [deliver]
  split
  · exact .refl d
  next s found =>
  split
  · exact tells_requester (mem_tickets_of_send? found) (removeSend_tickets _ _) rfl (removeSend_gone _ _) _
  · exact tells_nobody (setProgress_tickets _ _ _) (List.Subset.refl _) id

/-- Only the task whose item enters the channel is told. -/
theorem arrive_told (d : Dispatcher) (ticket : Ticket) :
    (d.arrive ticket).1.tickets ⊆ d.tickets ∧ (d.arrive ticket).1.channel = d.channel ∧
    ∀ c ∈ (d.arrive ticket).2, c.ticket = ticket ∧ (ticket ∉ d.tickets → c.outcome = .ok .queued) ∧
      ticket ∉ (d.arrive ticket).1.tickets := by
  rw [arrive]
  split
  · next missing =>
    exact ⟨List.Subset.refl _, rfl, List.forall_mem_singleton.mpr ⟨rfl, fun _ => rfl, send?_eq_none missing⟩⟩
  next s found =>
  obtain ⟨_, rfl⟩ := send?_eq_some found
  have there (outcome : Outcome) : s.ticket ∉ d.tickets → outcome = .ok .queued :=
    absurd (mem_tickets_of_send? found)
  split
  · exact ⟨removeSend_tickets _ _, rfl, List.forall_mem_singleton.mpr ⟨rfl, there _, removeSend_gone _ _⟩⟩
  · split
    · exact ⟨removeSend_tickets _ _, rfl,
        List.forall_mem_singleton.mpr ⟨rfl, there _, removeSend_gone (d.removePending s.id) _⟩⟩
    · exact ⟨setProgress_tickets _ _ _, rfl, List.forall_mem_nil _⟩
  · exact ⟨List.Subset.refl _, rfl, List.forall_mem_nil _⟩

theorem cancel_tells (d : Dispatcher) (ticket : Ticket) : Tells d (d.cancel ticket, []) :=
  tells_nobody (tickets_without ticket d.sends) (List.filter_sublist.map Prod.fst).subset id

/-! ## What is told to many -/

theorem deliverAll_tells (d : Dispatcher) (failure : Failure) (rejected : List Pending) :
    Tells d (d.deliverAll failure rejected) := by
  induction rejected generalizing d with
  | nil => exact .refl d
  | cons p rejected ih => exact (deliver_tells d p.ticket _).trans (ih _)

theorem expireDue_told (d : Dispatcher) (sends : List Send) : (d.expireDue sends).1.tickets ⊆ d.tickets ∧
    ∀ c ∈ (d.expireDue sends).2, c.ticket ∈ sends.map Send.ticket ∧ c.ticket ∉ (d.expireDue sends).1.tickets := by
  induction sends generalizing d with
  | nil => exact ⟨List.Subset.refl _, List.forall_mem_nil _⟩
  | cons s sends ih =>
    have passes : (d.expireDue sends).1.tickets ⊆ d.tickets ∧ ∀ c ∈ (d.expireDue sends).2,
        c.ticket ∈ (s :: sends).map Send.ticket ∧ c.ticket ∉ (d.expireDue sends).1.tickets :=
      ⟨(ih d).1, fun c member => ⟨List.mem_cons_of_mem _ ((ih d).2 c member).1, ((ih d).2 c member).2⟩⟩
    rw [expireDue]
    split
    · split
      · obtain ⟨within, told⟩ := ih (d.expire s).1
        refine ⟨List.Subset.trans within (removeSend_tickets _ _), List.forall_mem_cons.mpr ⟨⟨List.mem_cons_self, ?_⟩, ?_⟩⟩
        · exact fun inside => removeSend_gone (d.removePending s.id) s.ticket (within inside)
        · exact fun c member => ⟨List.mem_cons_of_mem _ (told c member).1, (told c member).2⟩
      · exact passes
    · exact passes

theorem advanceTo_tells (d : Dispatcher) (time : Nat) : Tells d (d.advanceTo time) := by
  obtain ⟨within, told⟩ := expireDue_told { d with clock := time } d.sends
  exact {
    tickets := within
    line := by
      rw [line, advanceTo, expireDue_frame]
      exact List.Subset.refl _
    known := fun c member => .inl (told c member).1
    plain := fun c member missing => absurd (told c member).1 missing
    ended := fun c member => (told c member).2
    shut := by
      rw [advanceTo, expireDue_frame]
      exact id }

theorem resolve_tells (d : Dispatcher) (id : Nat) (body : Value) : Tells d (d.resolve id body).2 := by
  rw [resolve]
  split
  · split
    · exact tells_nobody (List.Subset.refl _) (List.Subset.refl _) fun shut => shut
    · exact .refl d
  · exact (deliver_tells _ _ _).after rfl rfl

theorem failAll_tells (d : Dispatcher) (reason : String) (failure : Failure) :
    Tells d (d.failAll reason failure).2 := by
  rw [failAll]
  exact (deliverAll_tells _ failure d.pending).after rfl rfl

theorem tryEnqueue_tells (d : Dispatcher) (frame : Value) : Tells d ((d.tryEnqueue frame).2, []) := by
  obtain ⟨channel, same, waiting⟩ := tryEnqueue_frame d frame
  refine tells_nobody ?_ ?_ ?_
  · rw [same]
    exact List.Subset.refl _
  · rw [same, line, waiting]
    exact List.Subset.refl _
  · rw [tryEnqueue_channel, Channel.tryPush_isOpen]
    exact id

theorem takeItem_tells (d : Dispatcher) : Tells d d.takeItem.2 := by
  have line := (takeItem_line d).subset
  have shut : d.channel.isOpen = false → d.takeItem.2.1.channel.isOpen = false := by
    rw [takeItem_channel, Channel.take_isOpen]
    exact id
  rw [takeItem] at line shut ⊢
  dsimp only at line shut ⊢
  split
  · next nobody =>
    rw [nobody] at line shut
    exact tells_nobody (List.Subset.refl _) line shut
  · next ticket first =>
    rw [first] at line shut
    obtain ⟨item, inside⟩ := take_entered first
    obtain ⟨within, _, told⟩ := arrive_told { d with channel := d.channel.take.2.2 } ticket
    exact {
      tickets := within
      line := line
      known := fun c member => .inr ((told c member).1 ▸ List.mem_map_of_mem inside)
      plain := fun c member missing => .inl ((told c member).2.1 ((told c member).1 ▸ missing))
      ended := fun c member => (told c member).1 ▸ (told c member).2.2
      shut := shut }

/-- Everyone in line is told that it is over. -/
theorem strand_told (d : Dispatcher) (waiting : List (Ticket × Item)) :
    (d.strand waiting).1.tickets ⊆ d.tickets ∧ (d.strand waiting).1.line ⊆ d.line ∧
    ∀ c ∈ (d.strand waiting).2, c.ticket ∈ waiting.map Prod.fst ∧
      (c.outcome = .ok .queued ∨ c.outcome = .error .writerClosed) ∧ c.ticket ∉ (d.strand waiting).1.tickets := by
  induction waiting generalizing d with
  | nil => exact ⟨List.Subset.refl _, List.Subset.refl _, List.forall_mem_nil _⟩
  | cons w waiting ih =>
    obtain ⟨within, line, told⟩ := ih (d.cancel w.1)
    have cancels := cancel_tells d w.1
    rw [strand_cons]
    refine ⟨List.Subset.trans within cancels.tickets, List.Subset.trans line cancels.line,
      List.forall_mem_append.mpr ⟨List.forall_mem_singleton.mpr ⟨List.mem_cons_self, ?_, ?_⟩, ?_⟩⟩
    · cases w with
      | mk ticket item =>
      cases item with
      | message => exact .inr rfl
      | close => exact .inl rfl
    · exact fun inside => not_mem_without w.1 d.sends (within inside)
    · exact fun c member => ⟨List.mem_cons_of_mem _ (told c member).1, (told c member).2⟩

theorem dropWriter_tells (d : Dispatcher) : Tells d d.dropWriter := by
  obtain ⟨within, line, told⟩ := strand_told { d with channel := d.channel.drop } d.channel.waiting
  have shut : d.dropWriter.1.channel.isOpen = false := by
    rw [dropWriter_channel]
    rfl
  exact {
    tickets := within
    line := List.Subset.trans line (List.nil_subset _)
    known := fun c member => .inr (told c member).1
    plain := fun c member _ => (told c member).2.1.imp_right fun closed => ⟨closed, shut⟩
    ended := fun c member => (told c member).2.2
    shut := fun _ => shut }

/-! ## Asking -/

/-- A task offers an item, perhaps with a request. -/
structure Asks (d : Dispatcher) (ticket : Ticket) (out : Dispatcher × List Completion) : Prop where
  tickets : out.1.tickets ⊆ d.tickets ++ [ticket]
  line : out.1.line ⊆ d.line ++ [ticket]
  own : ∀ c ∈ out.2, c.ticket = ticket
  ended : ticket ∉ d.tickets → ∀ c ∈ out.2, c.ticket ∉ out.1.tickets
  shut : d.channel.isOpen = false → out.1.channel.isOpen = false

/-- Who asks for no answer has no request. -/
theorem enqueue_told (d : Dispatcher) (ticket : Ticket) (item : Item) :
    (d.enqueue ticket item).1.tickets = d.tickets ∧ (d.enqueue ticket item).1.line ⊆ d.line ++ [ticket] ∧
    (d.enqueue ticket item).1.channel.isOpen = d.channel.isOpen ∧
    ∀ c ∈ (d.enqueue ticket item).2, c.ticket = ticket ∧ c.Plain d.channel := by
  refine ⟨?_, (enqueue_line d ticket item).subset, ?_, ?_⟩
  · obtain ⟨channel, completions, frame, _⟩ := enqueue_frame d ticket item
    rw [frame]
    rfl
  · rw [enqueue_channel, Channel.push_isOpen]
  · unfold enqueue
    split
    · exact List.forall_mem_singleton.mpr ⟨rfl, .inl rfl⟩
    · exact List.forall_mem_nil _
    · next pushed =>
      split
      · exact List.forall_mem_singleton.mpr ⟨rfl, .inl rfl⟩
      · exact List.forall_mem_singleton.mpr ⟨rfl, .inr ⟨rfl, Channel.isOpen_of_refused pushed⟩⟩

theorem send_asks (d : Dispatcher) (ticket : Ticket) (method : String) (params : Option Value) (timeout : Nat) :
    Asks d ticket (d.send ticket method params timeout) := by
  have line := (send_line d ticket method params timeout).subset
  have enrolled : (d.enroll ticket method timeout).tickets = d.tickets ++ [ticket] := List.map_append
  cases refusal : d.refusal with
  | some reason =>
    rw [send_of_refusal refusal] at line ⊢
    exact ⟨List.subset_append_left _ _, line, List.forall_mem_singleton.mpr rfl, fun new =>
      List.forall_mem_singleton.mpr new, fun shut => shut⟩
  | none =>
    have same := d.channel.push_isOpen ticket (.message (request d.nextId method params))
    cases pushed : d.channel.push ticket (.message (request d.nextId method params)) with
    | mk result channel =>
    rw [pushed] at same
    cases result with
    | refused =>
      rw [send_of_closed refusal pushed] at line ⊢
      have cancels := cancel_tells (d.enroll ticket method timeout) ticket
      exact ⟨enrolled ▸ cancels.tickets, line, List.forall_mem_singleton.mpr rfl, fun _ =>
        List.forall_mem_singleton.mpr (not_mem_without ticket _), fun shut => shut⟩
    | waits =>
      rw [send_of_waits refusal pushed] at line ⊢
      exact ⟨enrolled ▸ List.Subset.refl _, line, List.forall_mem_nil _, fun _ => List.forall_mem_nil _, same.trans⟩
    | entered =>
      rw [send_of_entered refusal pushed] at line ⊢
      obtain ⟨within, kept, told⟩ := arrive_told { d.enroll ticket method timeout with channel } ticket
      refine ⟨enrolled ▸ within, line, fun c member => (told c member).1, fun _ c member =>
        (told c member).1 ▸ (told c member).2.2, fun shut => ?_⟩
      rw [kept]
      exact same.trans shut

end Dispatcher

end BlockDiscovery.Session
