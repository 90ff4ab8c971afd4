import BlockDiscovery.Proofs.Session.Keys
import BlockDiscovery.Proofs.Session.Settling

/-! # The life of one request

To the task of a request only a few things can happen: it is turned away, it is answered,
its frame enters the channel, time passes, the writer goes away, or it is given up.  `Send.on` says what
each of them does to one task alone.  The lemmas below show that the dispatcher, with
all its requests in one table and one line, does just that to every task.
-/

namespace BlockDiscovery.Session

open BlockDiscovery.Json BlockDiscovery.Protocol

/-! ## One task -/

/-- What takes the entry of a request out of the table before its time is over. -/
inductive Verdict where
  | response (body : Value)
  | failure (cause : Failure)

/-- The outcome that a verdict means for a request of the given method. -/
def Verdict.outcome (method : String) : Verdict → Outcome
  | .response body => Dispatcher.outcomeOf method body
  | .failure cause => .error cause

/-- What can happen to a task. -/
inductive Happening where
  | nothing
  | answered (verdict : Verdict)
  /-- Its frame enters the channel. -/
  | admitted
  | time
  /-- The writer takes no frames any more. -/
  | stranded
  /-- The connection has failed before. -/
  | refused (reason : String)
  | cancelled

namespace Send

/-- What a task reports when its time is over. -/
def lapse (s : Send) : Completion := ⟨s.ticket, .error (.timeout s.method s.timeout)⟩

/-- What becomes of a task, and what it reports; `clock` is the time afterwards. -/
def on (s : Send) (clock : Nat) : Happening → Option Send × List Completion
  | .nothing => (some s, [])
  | .answered verdict =>
    match s.progress with
    | .sent _ => (none, [⟨s.ticket, verdict.outcome s.method⟩])
    | .waiting _ => (some { s with progress := .waiting (some (verdict.outcome s.method)) }, [])
  | .admitted =>
    match s.progress with
    | .waiting (some answer) => (none, [⟨s.ticket, answer⟩])
    | .waiting none =>
      if s.timeout = 0 then (none, [s.lapse])
      else (some { s with progress := .sent (clock + s.timeout) }, [])
    | .sent _ => (some s, [])
  | .time =>
    match s.progress with
    | .sent deadline => if deadline ≤ clock then (none, [s.lapse]) else (some s, [])
    | .waiting _ => (some s, [])
  | .stranded => (none, [⟨s.ticket, .error .writerClosed⟩])
  | .refused reason => (none, [⟨s.ticket, .error (.connectionFailed reason)⟩])
  | .cancelled => (none, [])

end Send

namespace Dispatcher

variable {d : Dispatcher} {s : Send} {ticket u : Ticket}

/-- What an operation leaves of one task, and what that task reports. -/
def view (out : Dispatcher × List Completion) (ticket : Ticket) : Option Send × List Completion :=
  (out.1.send? ticket, out.2.filter fun c => c.ticket = ticket)

/-- A first step that spares the task of a ticket. -/
theorem view_spared_first {a b : Dispatcher × List Completion} (spared : view a u = (d.send? u, [])) :
    view (b.1, a.2 ++ b.2) u = view b u := by
  have silent : a.2.filter (fun c => c.ticket = u) = [] := congrArg Prod.snd spared
  rw [view, List.filter_append, silent]
  rfl

/-- Later steps that spare the task of a ticket. -/
theorem view_spared_later {a b : Dispatcher × List Completion} (spared : view b u = (a.1.send? u, [])) :
    view (b.1, a.2 ++ b.2) u = view a u := by
  have silent : b.2.filter (fun c => c.ticket = u) = [] := congrArg Prod.snd spared
  have kept : b.1.send? u = a.1.send? u := congrArg Prod.fst spared
  rw [view, List.filter_append, silent, List.append_nil, kept]
  rfl

/-! ## What is left alone -/

theorem deliver_frame (d : Dispatcher) (ticket : Ticket) (answer : Outcome) :
    (d.deliver ticket answer).1 = { d with sends := (d.deliver ticket answer).1.sends } := by
  rw [deliver]
  split
  · rfl
  split <;> rfl

theorem deliverAll_cons (failure : Failure) (p : Pending) (rejected : List Pending) :
    d.deliverAll failure (p :: rejected) =
      (((d.deliver p.ticket (.error failure)).1.deliverAll failure rejected).1,
        (d.deliver p.ticket (.error failure)).2 ++
          ((d.deliver p.ticket (.error failure)).1.deliverAll failure rejected).2) :=
  rfl

theorem deliverAll_frame (d : Dispatcher) (failure : Failure) (rejected : List Pending) :
    (d.deliverAll failure rejected).1 = { d with sends := (d.deliverAll failure rejected).1.sends } := by
  induction rejected generalizing d with
  | nil => rfl
  | cons p rejected ih =>
    obtain ⟨sends, first⟩ : ∃ sends, (d.deliver p.ticket (.error failure)).1 = { d with sends } :=
      ⟨_, deliver_frame d p.ticket (.error failure)⟩
    rw [deliverAll_cons, first]
    exact ih { d with sends }

theorem arrive_frame (d : Dispatcher) (ticket : Ticket) : (d.arrive ticket).1 = { d with
    pending := (d.arrive ticket).1.pending
    stats := (d.arrive ticket).1.stats
    sends := (d.arrive ticket).1.sends } := by
  rw [arrive]
  split
  · rfl
  split
  · rfl
  · split <;> rfl
  · rfl

theorem expireDue_frame (d : Dispatcher) (sends : List Send) : (d.expireDue sends).1 = { d with
    pending := (d.expireDue sends).1.pending
    stats := (d.expireDue sends).1.stats
    sends := (d.expireDue sends).1.sends } := by
  induction sends generalizing d with
  | nil => rfl
  | cons s sends ih =>
    rw [expireDue]
    split
    · split
      · exact ih (d.expire s).1
      · exact ih d
    · exact ih d

/-! ## Looking up tasks -/

theorem ticket_progressed (progress : Progress) (s : Send) : { s with progress }.ticket = s.ticket := rfl

theorem send?_progressed (progress : Progress) (found : d.send? u = some s) :
    (d.setProgress u progress).send? u = some { s with progress } :=
  find?_update (ticket_progressed progress) found

theorem send?_setProgress_other (progress : Progress) (other : ticket ≠ u) :
    (d.setProgress ticket progress).send? u = d.send? u :=
  find?_update_other (ticket_progressed progress) other d.sends

theorem send?_without (sends : List Send) : (without u sends).find? (fun s => s.ticket = u) = none :=
  find?_filter_own u sends

theorem send?_without_other (sends : List Send) (other : ticket ≠ u) :
    (without ticket sends).find? (fun s => s.ticket = u) = sends.find? fun s => s.ticket = u :=
  find?_filter_other (Ne.symm other) sends

theorem filter_other (answer : Outcome) (other : ticket ≠ u) :
    ([⟨ticket, answer⟩] : List Completion).filter (fun c => c.ticket = u) = [] := by
  simp [other]

theorem filter_own (answer : Outcome) :
    ([⟨u, answer⟩] : List Completion).filter (fun c => c.ticket = u) = [⟨u, answer⟩] := by
  simp

/-! ## Frames that arrive -/

theorem view_expire (found : d.send? u = some s) :
    view ((d.expire s).1, [(d.expire s).2]) u = (none, [s.lapse]) := by
  obtain ⟨_, rfl⟩ := send?_eq_some found
  exact Prod.ext (send?_without d.sends) (filter_own _)

theorem view_expire_other (other : s.ticket ≠ u) :
    view ((d.expire s).1, [(d.expire s).2]) u = (d.send? u, []) :=
  Prod.ext (send?_without_other d.sends other) (filter_other _ other)

theorem view_arrive (found : d.send? u = some s) :
    view (d.arrive u) u = s.on d.clock .admitted := by
  obtain ⟨_, rfl⟩ := send?_eq_some found
  rw [arrive, found]
  simp only [Send.on]
  cases s.progress with
  | sent deadline => exact Prod.ext found rfl
  | waiting answer =>
    cases answer with
    | some answer => exact Prod.ext (send?_without d.sends) (filter_own _)
    | none =>
      dsimp only
      split
      · exact view_expire found
      · exact Prod.ext (send?_progressed _ found) rfl

theorem view_arrive_other (other : ticket ≠ u) : view (d.arrive ticket) u = (d.send? u, []) := by
  rw [arrive]
  split
  · exact Prod.ext rfl (filter_other _ other)
  next s found =>
  obtain ⟨_, rfl⟩ := send?_eq_some found
  split
  · exact Prod.ext (send?_without_other d.sends other) (filter_other _ other)
  · split
    · exact view_expire_other other
    · exact Prod.ext (send?_setProgress_other _ other) rfl
  · rfl

/-! ## Answers -/

theorem view_deliver (verdict : Verdict) (found : d.send? u = some s) :
    view (d.deliver u (verdict.outcome s.method)) u = s.on d.clock (.answered verdict) := by
  obtain ⟨_, rfl⟩ := send?_eq_some found
  rw [deliver, found]
  simp only [Send.on]
  cases s.progress with
  | sent deadline => exact Prod.ext (send?_without d.sends) (filter_own _)
  | waiting answer => exact Prod.ext (send?_progressed _ found) rfl

theorem view_deliver_other (answer : Outcome) (other : ticket ≠ u) :
    view (d.deliver ticket answer) u = (d.send? u, []) := by
  rw [deliver]
  split
  · rfl
  next s found =>
  obtain ⟨_, rfl⟩ := send?_eq_some found
  split
  · exact Prod.ext (send?_without_other d.sends other) (filter_other _ other)
  · exact Prod.ext (send?_setProgress_other _ other) rfl

theorem view_deliverAll_other (failure : Failure) {rejected : List Pending}
    (others : u ∉ rejected.map Pending.ticket) :
    view (d.deliverAll failure rejected) u = (d.send? u, []) := by
  induction rejected generalizing d with
  | nil => rfl
  | cons p rejected ih =>
    rw [List.map_cons, List.mem_cons, not_or] at others
    have first := view_deliver_other (d := d) (.error failure) (Ne.symm others.1)
    have rest := ih (d := (d.deliver p.ticket (.error failure)).1) others.2
    rw [deliverAll_cons, view_spared_later rest, first]

theorem view_deliverAll (failure : Failure) {rejected : List Pending}
    (distinct : (rejected.map Pending.ticket).Nodup) (inside : u ∈ rejected.map Pending.ticket)
    (found : d.send? u = some s) :
    view (d.deliverAll failure rejected) u = s.on d.clock (.answered (.failure failure)) := by
  -- on the entries; the one of this task is met once
  induction rejected generalizing d with
  | nil => cases inside
  | cons p rejected ih =>
    rw [List.map_cons, List.nodup_cons] at distinct
    rw [deliverAll_cons]
    by_cases own : p.ticket = u
    · subst own
      rw [view_spared_later (view_deliverAll_other failure distinct.1)]
      exact view_deliver (.failure failure) found
    · have first := view_deliver_other (d := d) (.error failure) own
      have later := (List.mem_cons.mp inside).resolve_left (Ne.symm own)
      have rest := ih (d := (d.deliver p.ticket (.error failure)).1) distinct.2 later
        ((congrArg Prod.fst first).trans found)
      rw [view_spared_first first, rest, deliver_frame]

/-! ## Time -/

theorem expireDue_due {t : Send} {deadline : Nat} (progress : t.progress = .sent deadline)
    (due : deadline ≤ d.clock) (sends : List Send) :
    d.expireDue (t :: sends) =
      (((d.expire t).1.expireDue sends).1, [(d.expire t).2] ++ ((d.expire t).1.expireDue sends).2) := by
  simp only [expireDue, progress, if_pos due]
  rfl

theorem expireDue_later {t : Send} (later : ∀ deadline, t.progress = .sent deadline → d.clock < deadline)
    (sends : List Send) : d.expireDue (t :: sends) = d.expireDue sends := by
  rw [expireDue]
  split
  · next deadline progress => rw [if_neg (Nat.not_le_of_lt (later deadline progress))]
  · rfl

/-- The first of the tasks expires now, or not yet. -/
theorem due_or_later (d : Dispatcher) (t : Send) :
    (∃ deadline, t.progress = .sent deadline ∧ deadline ≤ d.clock) ∨
      ∀ deadline, t.progress = .sent deadline → d.clock < deadline := by
  cases t.progress with
  | waiting answer => exact .inr nofun
  | sent deadline =>
    refine (Nat.lt_or_ge d.clock deadline).symm.imp (fun due => ⟨deadline, rfl, due⟩) fun later _ same => ?_
    cases same
    exact later

theorem view_expireDue_other {sends : List Send} (others : u ∉ sends.map Send.ticket) :
    view (d.expireDue sends) u = (d.send? u, []) := by
  induction sends generalizing d with
  | nil => rfl
  | cons t sends ih =>
    rw [List.map_cons, List.mem_cons, not_or] at others
    obtain ⟨deadline, progress, due⟩ | later := due_or_later d t
    · have first := view_expire_other (d := d) (Ne.symm others.1)
      have rest := ih (d := (d.expire t).1) others.2
      rw [expireDue_due progress due]
      exact (view_spared_later rest).trans first
    · rw [expireDue_later later, ih others.2]

theorem on_time_due {deadline : Nat} {clock : Nat} (progress : s.progress = .sent deadline)
    (due : deadline ≤ clock) : s.on clock .time = (none, [s.lapse]) := by
  simp only [Send.on, progress, if_pos due]

theorem on_time_later {clock : Nat} (later : ∀ deadline, s.progress = .sent deadline → clock < deadline) :
    s.on clock .time = (some s, []) := by
  rw [Send.on]
  split
  · next deadline progress => rw [if_neg (Nat.not_le_of_lt (later deadline progress))]
  · rfl

theorem view_expireDue {sends : List Send} (distinct : (sends.map Send.ticket).Nodup)
    (member : s ∈ sends) (found : d.send? s.ticket = some s) :
    view (d.expireDue sends) s.ticket = s.on d.clock .time := by
  induction sends generalizing d with
  | nil => cases member
  | cons t sends ih =>
    rw [List.map_cons, List.nodup_cons] at distinct
    obtain rfl | inside := List.mem_cons.mp member
    · obtain ⟨deadline, progress, due⟩ | later := due_or_later d s
      · rw [expireDue_due progress due, on_time_due progress due]
        exact (view_spared_later (a := ((d.expire s).1, [(d.expire s).2]))
          (view_expireDue_other distinct.1)).trans (view_expire found)
      · rw [expireDue_later later, view_expireDue_other distinct.1, on_time_later later, found]
    · have other : t.ticket ≠ s.ticket := fun same => distinct.1 (same ▸ List.mem_map_of_mem inside)
      obtain ⟨deadline, progress, due⟩ | later := due_or_later d t
      · have first := view_expire_other (d := d) other
        have rest := ih (d := (d.expire t).1) distinct.2 inside ((congrArg Prod.fst first).trans found)
        rw [expireDue_due progress due]
        exact (view_spared_first first).trans rest
      · rw [expireDue_later later, ih distinct.2 inside found]

/-! ## Tasks that are given up -/

theorem view_cancel (answer : Outcome) :
    view (d.cancel u, [⟨u, answer⟩]) u = (none, [⟨u, answer⟩]) :=
  Prod.ext (send?_without d.sends) (filter_own answer)

theorem send?_cancel_other (other : ticket ≠ u) : (d.cancel ticket).send? u = d.send? u :=
  send?_without_other d.sends other

theorem view_cancel_other (answer : Outcome) (other : ticket ≠ u) :
    view (d.cancel ticket, [⟨ticket, answer⟩]) u = (d.send? u, []) :=
  Prod.ext (send?_cancel_other other) (filter_other answer other)

/-- What a task in line reports when the writer goes away. -/
def farewell : Item → Outcome
  | .close => .ok .queued
  | .message _ => .error .writerClosed

theorem strand_cons (w : Ticket × Item) (line : List (Ticket × Item)) :
    d.strand (w :: line) =
      (((d.cancel w.1).strand line).1, [⟨w.1, farewell w.2⟩] ++ ((d.cancel w.1).strand line).2) :=
  rfl

theorem view_strand_other {line : List (Ticket × Item)} (others : u ∉ line.map Prod.fst) :
    view (d.strand line) u = (d.send? u, []) := by
  induction line generalizing d with
  | nil => rfl
  | cons w line ih =>
    rw [List.map_cons, List.mem_cons, not_or] at others
    rw [strand_cons]
    exact (view_spared_later (a := (d.cancel w.1, [_])) (ih others.2)).trans
      (view_cancel_other _ (Ne.symm others.1))

theorem view_strand {line : List (Ticket × Item)} (distinct : (line.map Prod.fst).Nodup)
    {item : Item} (inside : (u, item) ∈ line) :
    view (d.strand line) u = (none, [⟨u, farewell item⟩]) := by
  induction line generalizing d with
  | nil => cases inside
  | cons w line ih =>
    rw [List.map_cons, List.nodup_cons] at distinct
    rw [strand_cons]
    obtain rfl | later := List.mem_cons.mp inside
    · exact (view_spared_later (a := (d.cancel u, [_])) (view_strand_other distinct.1)).trans
        (view_cancel _)
    · have other : w.1 ≠ u := fun same => distinct.1 (same ▸ List.mem_map_of_mem later)
      exact (view_spared_first (view_cancel_other (d := d) _ other)).trans (ih distinct.2 later)

end Dispatcher

end BlockDiscovery.Session
