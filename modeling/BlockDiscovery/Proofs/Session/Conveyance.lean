import BlockDiscovery.Proofs.Session.Queue

/-! # What a channel conveys

While the writer is there, the items that enter the channel, followed by those in line, are just
the items that were offered, in their order; when it goes away, what was in line is lost and
nothing enters any more.  `Conveys` says this of any number of operations.
-/

namespace BlockDiscovery.Session

open BlockDiscovery.Json BlockDiscovery.Protocol

namespace Channel

variable {c d e : Channel} {taken offered more : List Item}

/-- A channel has a line only when it is full, and nothing is in it when it is closed. -/
structure Tight (c : Channel) : Prop where
  full : c.waiting ≠ [] → c.hasRoom = false
  shut : c.isOpen = false → c.items = [] ∧ c.waiting = []

/-- Some items were taken and some were offered from one state of a channel to the next. -/
structure Conveys (c : Channel) (taken offered : List Item) (e : Channel) : Prop where
  tight : e.Tight
  known : taken <+: c.items
  passes : e.isOpen = true → c.isOpen = true ∧ ∃ entered, taken ++ e.items = c.items ++ entered ∧
    entered ++ e.waiting.map Prod.snd = c.waiting.map Prod.snd ++ offered

theorem Tight.nobody (h : c.Tight) (room : c.hasRoom = true) : c.waiting = [] := by
  by_contra some
  cases room.symm.trans (h.full some)

theorem tight_fresh (capacity : Nat) : (fresh capacity).Tight := ⟨fun some => absurd rfl some, fun shut => by cases shut⟩

theorem Tight.rests (h : c.Tight) : Conveys c [] [] c where
  tight := h
  known := List.nil_prefix
  passes isOpen := ⟨isOpen, [], (List.append_nil _).symm, (List.append_nil _).symm⟩

theorem Conveys.trans (first : Conveys c taken offered d) (second : Conveys d [] more e) :
    Conveys c taken (offered ++ more) e where
  tight := second.tight
  known := first.known
  passes isOpen := by
    obtain ⟨between, entered, items, line⟩ := second.passes isOpen
    obtain ⟨before, earlier, start, queue⟩ := first.passes between
    refine ⟨before, earlier ++ entered, ?_, ?_⟩
    · rw [← List.nil_append e.items, items, ← List.append_assoc, start, List.append_assoc]
    · rw [List.append_assoc, line, ← List.append_assoc, queue, List.append_assoc]

/-- Nothing is accepted by a channel that is closed afterwards. -/
theorem Conveys.closed (h : Conveys c taken offered e) (shut : e.isOpen = false) (more : List Item) :
    Conveys c taken more e where
  tight := h.tight
  known := h.known
  passes isOpen := by cases shut.symm.trans isOpen

theorem Tight.push (h : c.Tight) (ticket : Ticket) (item : Item) : Conveys c [] [item] (c.push ticket item).2 := by
  cases isOpen : c.isOpen with
  | false =>
    have refused : (c.push ticket item).2 = c := by rw [Channel.push, isOpen]; rfl
    rw [refused]
    exact h.rests.closed isOpen _
  | true =>
    obtain ⟨room, pushed⟩ | ⟨room, pushed⟩ := push_open isOpen ticket item
    · have nobody := h.nobody room
      rw [pushed]
      refine ⟨⟨fun some => absurd nobody some, fun shut => by cases isOpen.symm.trans shut⟩, List.nil_prefix, fun _ => ?_⟩
      exact ⟨isOpen, [item], rfl, by rw [nobody]; rfl⟩
    · rw [pushed]
      refine ⟨⟨fun _ => room, fun shut => by cases isOpen.symm.trans shut⟩, List.nil_prefix, fun _ => ?_⟩
      refine ⟨isOpen, [], (List.append_nil _).symm, ?_⟩
      rw [List.map_append]
      rfl

/-- An item that cannot wait is offered, or nothing is. -/
theorem Tight.tryPush (h : c.Tight) (item : Item) :
    ∃ offered, (∀ i ∈ offered, i = item) ∧ Conveys c [] offered (c.tryPush item).2 := by
  by_cases entered : c.isOpen = true ∧ c.hasRoom = true
  · have same : c.tryPush item = c.push 0 item := by rw [Channel.tryPush, Channel.push, entered.1, entered.2]; rfl
    rw [same]
    exact ⟨[item], fun i member => List.mem_singleton.mp member, h.push 0 item⟩
  · have same : (c.tryPush item).2 = c := by
      rw [Channel.tryPush]
      split
      · rfl
      · next isOpen =>
        rw [if_neg fun room => entered ⟨by simpa using isOpen, room⟩]
    rw [same]
    exact ⟨[], List.forall_mem_nil _, h.rests⟩

theorem Tight.take (h : c.Tight) : Conveys c c.take.1.toList [] c.take.2.2 := by
  have isOpen (item : Item) (rest : List Item) (items : c.items = item :: rest) : c.isOpen = true := by
    by_contra shut
    rw [(h.shut (Bool.eq_false_iff.mpr shut)).1] at items
    cases items
  rw [Channel.take]
  split
  · exact h.rests
  · next item rest items waiting =>
    refine ⟨⟨fun some => absurd waiting some, fun shut => by cases (isOpen _ _ items).symm.trans shut⟩, ?_, fun _ => ?_⟩
    · exact items ▸ List.prefix_append [item] rest
    · exact ⟨isOpen _ _ items, [], by rw [items, List.append_nil]; rfl, by rw [List.append_nil]; rfl⟩
  · next item rest ticket entering line items waiting =>
    have full := h.full (waiting ▸ List.cons_ne_nil _ _)
    refine ⟨⟨fun _ => ?_, fun shut => by cases (isOpen _ _ items).symm.trans shut⟩, ?_, fun _ => ?_⟩
    · rw [hasRoom, items] at full
      rw [hasRoom, List.length_append]
      exact full
    · exact items ▸ List.prefix_append [item] rest
    · exact ⟨isOpen _ _ items, [entering], by rw [items]; rfl, by rw [waiting, List.append_nil]; rfl⟩

theorem conveys_drop (c : Channel) (offered : List Item) : Conveys c [] offered c.drop :=
  ⟨⟨fun some => absurd rfl some, fun _ => ⟨rfl, rfl⟩⟩, List.nil_prefix, fun isOpen => by cases isOpen⟩

/-- What has become of everything that was ever offered to a channel. -/
structure Past (c : Channel) (taken queued offered : List Item) : Prop where
  tight : c.Tight
  known : taken <+: queued
  entered : queued <+: offered
  passes : c.isOpen = true → queued = taken ++ c.items ∧ offered = queued ++ c.waiting.map Prod.snd

theorem past_fresh (capacity : Nat) : (fresh capacity).Past [] [] [] :=
  ⟨tight_fresh capacity, List.prefix_rfl, List.prefix_rfl, fun _ => ⟨rfl, rfl⟩⟩

/-- What was taken out of a channel, followed by what is in it, begins with what was in it before. -/
theorem Past.conveys {queued more new : List Item} (past : c.Past taken queued offered)
    (conveys : c.Conveys more new e) :
    e.Past (taken ++ more) (queued ++ (more ++ e.items).drop c.items.length) (offered ++ new) := by
  cases isOpen : e.isOpen with
  | true =>
    obtain ⟨before, entered, items, line⟩ := conveys.passes isOpen
    obtain ⟨queue, offers⟩ := past.passes before
    have now : queued ++ (more ++ e.items).drop c.items.length = (taken ++ more) ++ e.items := by
      rw [items, List.drop_left, queue, List.append_assoc, ← items, List.append_assoc]
    have all : offered ++ new = (queued ++ (more ++ e.items).drop c.items.length) ++ e.waiting.map Prod.snd := by
      rw [items, List.drop_left, List.append_assoc, line, offers, List.append_assoc]
    exact ⟨conveys.tight, now ▸ List.prefix_append _ _, all ▸ List.prefix_append _ _, fun _ => ⟨now, all⟩⟩
  | false =>
    obtain ⟨empty, _⟩ := conveys.tight.shut isOpen
    have nothing : (more ++ e.items).drop c.items.length = [] := by
      rw [empty, List.append_nil]
      exact List.drop_eq_nil_of_le conveys.known.length_le
    rw [nothing, List.append_nil]
    refine ⟨conveys.tight, ?_, past.entered.trans (List.prefix_append _ _), fun other => by cases isOpen.symm.trans other⟩
    cases before : c.isOpen with
    | true =>
      rw [(past.passes before).1]
      exact (List.prefix_append_right_inj taken).mpr conveys.known
    | false =>
      have known := conveys.known
      rw [(past.tight.shut before).1] at known
      rw [List.prefix_nil.mp known, List.append_nil]
      exact past.known

theorem Tight.withdraw (h : c.Tight) (ticket : Ticket) : (c.withdraw ticket).Tight where
  full some := h.full fun nobody => some (by rw [Channel.withdraw, nobody, List.filter_nil])
  shut closed := by
    obtain ⟨items, waiting⟩ := h.shut closed
    exact ⟨items, by rw [Channel.withdraw, waiting, List.filter_nil]⟩

theorem withdraw_eq (nobody : c.waiting = []) (ticket : Ticket) : c.withdraw ticket = c := by
  rw [withdraw, nobody, List.filter_nil, ← nobody]

end Channel

/-! ## The channel of a dispatcher -/

namespace Dispatcher

variable {d : Dispatcher}

theorem enqueue_channel (d : Dispatcher) (ticket : Ticket) (item : Item) :
    (d.enqueue ticket item).1.channel = (d.channel.push ticket item).2 := by
  unfold enqueue
  split
  · next pushed => rw [pushed]
  · next pushed => rw [pushed]
  · next channel pushed =>
    have same : channel = d.channel := by
      rw [Channel.push] at pushed
      split at pushed
      · cases pushed
        rfl
      · split at pushed <;> cases pushed
    rw [pushed, same]
    split <;> rfl

theorem tryEnqueue_channel (d : Dispatcher) (frame : Value) :
    (d.tryEnqueue frame).2.channel = (d.channel.tryPush (.message frame)).2 := by
  have same {out : Push} {channel : Channel} (pushed : d.channel.tryPush (.message frame) = (out, channel))
      (outside : out ≠ .entered) : channel = d.channel := by
    rw [Channel.tryPush] at pushed
    split at pushed
    · cases pushed
      rfl
    · split at pushed
      · cases pushed
        exact absurd rfl outside
      · cases pushed
        rfl
  rw [tryEnqueue]
  split
  · next pushed => rw [pushed]
  · next pushed => rw [pushed, same pushed fun waits => by cases waits]
  · next pushed => rw [pushed, same pushed fun waits => by cases waits]

theorem send_channel (tight : d.channel.Tight) (accepts : d.refusal = none) (ticket : Ticket) (method : String)
    (params : Option Value) (timeout : Nat) : (d.send ticket method params timeout).1.channel =
      (d.channel.push ticket (.message (request d.nextId method params))).2 := by
  cases pushed : d.channel.push ticket (.message (request d.nextId method params)) with
  | mk out channel =>
  cases out with
  | refused =>
    have shut : d.channel.isOpen = false := by
      by_contra isOpen
      obtain ⟨_, other⟩ | ⟨_, other⟩ := Channel.push_open (Bool.of_not_eq_false isOpen) ticket
        (.message (request d.nextId method params))
      · cases other.symm.trans pushed
      · cases other.symm.trans pushed
    have same : channel = d.channel := by
      rw [Channel.push, shut] at pushed
      cases pushed
      rfl
    rw [send_of_closed accepts pushed, same]
    exact Channel.withdraw_eq (tight.shut shut).2 ticket
  | waits => rw [send_of_waits accepts pushed]
  | entered => rw [send_of_entered accepts pushed, arrive_frame]

theorem enqueue_tight (ticket : Ticket) (item : Item) (tight : d.channel.Tight) :
    (d.enqueue ticket item).1.channel.Tight := by
  rw [enqueue_channel]
  exact (tight.push ticket item).tight

theorem send_tight (ticket : Ticket) (method : String) (params : Option Value) (timeout : Nat)
    (tight : d.channel.Tight) : (d.send ticket method params timeout).1.channel.Tight := by
  cases refusal : d.refusal with
  | some reason =>
    rw [send_of_refusal refusal]
    exact tight
  | none =>
    rw [send_channel tight refusal]
    exact (tight.push ticket _).tight

theorem strand_channel (nobody : d.channel.waiting = []) (line : List (Ticket × Item)) :
    (d.strand line).1.channel = d.channel := by
  induction line generalizing d with
  | nil => rfl
  | cons w line ih =>
    have same : (d.cancel w.1).channel = d.channel := Channel.withdraw_eq nobody w.1
    rw [strand_cons]
    exact (ih (same ▸ nobody)).trans same

theorem dropWriter_channel (d : Dispatcher) : d.dropWriter.1.channel = d.channel.drop :=
  strand_channel (d := { d with channel := d.channel.drop }) rfl d.channel.waiting

theorem failAll_channel (d : Dispatcher) (reason : String) (failure : Failure) :
    (d.failAll reason failure).2.1.channel = d.channel := by
  rw [failAll, deliverAll_frame]

theorem advanceTo_channel (d : Dispatcher) (time : Nat) : (d.advanceTo time).1.channel = d.channel := by
  rw [advanceTo, expireDue_frame]

end Dispatcher

end BlockDiscovery.Session
