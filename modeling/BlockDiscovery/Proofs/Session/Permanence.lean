import BlockDiscovery.Proofs.Session.Queue
import BlockDiscovery.Proofs.Session.Refusal
import BlockDiscovery.Proofs.Session.Rejection

/-! # Failure is for good

A dispatcher that has failed has an empty table and refuses requests, and no operation changes
that.  No counter ever goes down, and the books of every turn balance, so from then on it counts
nothing but responses that come too late.
-/

namespace BlockDiscovery.Session

open BlockDiscovery.Json BlockDiscovery.Protocol Dispatcher

/-! ## Counters -/

/-- No counter goes down. -/
structure Stats.Grows (a b : Stats) : Prop where
  resolved : a.resolved ≤ b.resolved
  timedOut : a.timedOut ≤ b.timedOut
  late : a.late ≤ b.late
  failed : a.failed ≤ b.failed

namespace Stats.Grows

variable {a b c : Stats}

theorem refl (a : Stats) : Grows a a := ⟨Nat.le_refl _, Nat.le_refl _, Nat.le_refl _, Nat.le_refl _⟩

theorem trans (first : Grows a b) (second : Grows b c) : Grows a c where
  resolved := Nat.le_trans first.resolved second.resolved
  timedOut := Nat.le_trans first.timedOut second.timedOut
  late := Nat.le_trans first.late second.late
  failed := Nat.le_trans first.failed second.failed

theorem of_eq (same : b = a) : Grows a b := same ▸ refl b

end Stats.Grows

namespace Dispatcher

variable (d : Dispatcher)

theorem expire_grows (s : Send) : d.stats.Grows (d.expire s).1.stats where
  resolved := Nat.le_refl _
  timedOut := Nat.le_succ _
  late := Nat.le_refl _
  failed := Nat.le_refl _

theorem arrive_grows (ticket : Ticket) : d.stats.Grows (d.arrive ticket).1.stats := by
  rw [arrive]
  split
  · exact .refl _
  split
  · exact .of_eq rfl
  · split
    · exact expire_grows d _
    · exact .of_eq rfl
  · exact .refl _

theorem expireDue_grows (sends : List Send) : d.stats.Grows (d.expireDue sends).1.stats := by
  induction sends generalizing d with
  | nil => exact .refl _
  | cons s sends ih =>
    rw [expireDue]
    split
    · split
      · exact (expire_grows d s).trans (ih _)
      · exact ih d
    · exact ih d

theorem enqueue_grows (ticket : Ticket) (item : Item) : d.stats.Grows (d.enqueue ticket item).1.stats := by
  obtain ⟨channel, completions, frame, _⟩ := enqueue_frame d ticket item
  rw [frame]
  exact .of_eq rfl

theorem tryEnqueue_grows (frame : Value) : d.stats.Grows (d.tryEnqueue frame).2.stats := by
  obtain ⟨channel, same, _⟩ := tryEnqueue_frame d frame
  rw [same]
  exact .of_eq rfl

theorem send_grows (ticket : Ticket) (method : String) (params : Option Value) (timeout : Nat) :
    d.stats.Grows (d.send ticket method params timeout).1.stats := by
  rw [send]
  split
  · exact .of_eq rfl
  dsimp only
  split
  · exact .of_eq rfl
  · exact .of_eq rfl
  · next channel _ => exact arrive_grows { d.enroll ticket method timeout with channel } ticket

theorem resolve_grows (id : Nat) (body : Value) : d.stats.Grows (d.resolve id body).2.1.stats := by
  rw [resolve]
  split
  · split
    · exact ⟨Nat.le_refl _, Nat.le_refl _, Nat.le_succ _, Nat.le_refl _⟩
    · exact .refl _
  · rw [deliver_frame]
    exact ⟨Nat.le_succ _, Nat.le_refl _, Nat.le_refl _, Nat.le_refl _⟩

theorem failAll_grows (reason : String) (failure : Failure) :
    d.stats.Grows (d.failAll reason failure).2.1.stats := by
  rw [failAll, deliverAll_frame]
  exact ⟨Nat.le_refl _, Nat.le_refl _, Nat.le_refl _, Nat.le_add_right _ _⟩

theorem takeItem_grows : d.stats.Grows d.takeItem.2.1.stats := by
  rw [takeItem]
  dsimp only
  split
  · exact .of_eq rfl
  · exact arrive_grows { d with channel := d.channel.take.2.2 } _

theorem advanceTo_grows (time : Nat) : d.stats.Grows (d.advanceTo time).1.stats :=
  expireDue_grows { d with clock := time } d.sends

end Dispatcher

/-! ## One turn -/

/-- Only an entry that was in the table, or is put into it, is withdrawn. -/
theorem Turn.withdrawn_subset (t : Turn) :
    t.withdrawn ⊆ t.before.dispatcher.pending ++ t.inserted := by
  rw [withdrawn]
  split
  · exact List.subset_append_of_subset_left _ (List.filter_subset_self _)
  · exact List.filter_subset_self _
  · exact List.filter_subset_self _
  · exact List.nil_subset _

/-- Requests are refused for the given reason, and none waits for its answer. -/
structure Dispatcher.Failed (d : Dispatcher) (reason : String) : Prop where
  refusal : d.refusal = some reason
  pending : d.pending = []

theorem Dispatcher.Keeps.failed {d e : Dispatcher} {reason : String} (keeps : d.Keeps e)
    (failed : d.Failed reason) : e.Failed reason where
  refusal := keeps.refusal.trans failed.refusal
  pending := by
    have table := keeps.table (by rw [failed.refusal, Option.isSome_some])
    rw [failed.pending] at table
    exact List.subset_nil.mp table

namespace Desk

variable {k : Desk} {reason : String}

theorem turn_grows (k : Desk) (operation : Operation) :
    k.dispatcher.stats.Grows (k.turn operation).after.dispatcher.stats := by
  cases operation with
  | send method params timeout => exact send_grows _ _ _ _ _
  | notify method params => exact enqueue_grows _ _ _
  | sendRaw frame => exact enqueue_grows _ _ _
  | closeWriter => exact enqueue_grows _ _ _
  | trySendRaw frame => exact tryEnqueue_grows _ _
  | cancel ticket => exact .of_eq rfl
  | resolve id body => exact resolve_grows _ _ _
  | failAll reason failure => exact failAll_grows _ _ _
  | take => exact takeItem_grows _
  | dropWriter => exact .of_eq (dropWriter_strands k.dispatcher).stats
  | advance ms => exact advanceTo_grows _ _

theorem turn_keeps {operation : Operation} (spares : operation.rejects = false) :
    k.dispatcher.Keeps (k.turn operation).after.dispatcher := by
  cases operation with
  | send method params timeout => exact send_keeps _ _ _ _ _
  | notify method params => exact enqueue_keeps _ _ _
  | sendRaw frame => exact enqueue_keeps _ _ _
  | closeWriter => exact enqueue_keeps _ _ _
  | trySendRaw frame => exact tryEnqueue_keeps _ _
  | cancel ticket => exact cancel_keeps _ _
  | resolve id body => exact resolve_keeps _ _ _
  | failAll reason failure => cases spares
  | take => exact takeItem_keeps _
  | dropWriter => exact dropWriter_keeps _
  | advance ms => exact advanceTo_keeps _ _

theorem failed_turn (failed : k.dispatcher.Failed reason) (operation : Operation) :
    (k.turn operation).after.dispatcher.Failed reason := by
  cases operation with
  | failAll again failure =>
    refine ⟨(failAll_refusal _ _ _).trans ?_, (failAll_pending _ _ _).1⟩
    rw [failed.refusal, Option.getD_some]
  | _ => exact (turn_keeps rfl).failed failed

/-- A dispatcher that has failed counts no ends of requests any more. -/
theorem failed_stats (sound : k.dispatcher.Sound k.tasks) (failed : k.dispatcher.Failed reason)
    (operation : Operation) :
    (k.turn operation).after.dispatcher.stats.resolved = k.dispatcher.stats.resolved ∧
    (k.turn operation).after.dispatcher.stats.timedOut = k.dispatcher.stats.timedOut ∧
    (k.turn operation).after.dispatcher.stats.failed = k.dispatcher.stats.failed := by
  have inserted : (k.turn operation).inserted = [] := by
    cases operation with
    | send => exact inserted_of_refusal _ _ _ _ failed.refusal
    | _ => rfl
  have withdrawn : (k.turn operation).withdrawn = [] := by
    have taken := (k.turn operation).withdrawn_subset
    rw [turn_before, failed.pending, inserted] at taken
    exact List.subset_nil.mp taken
  have balance := (accounts sound operation).settled
  rw [inserted, withdrawn, turn_before] at balance
  simp only [settled, failed.pending, (failed_turn failed operation).pending, List.length_nil,
    Nat.add_zero] at balance
  have grows := turn_grows k operation
  have resolved := grows.resolved
  have timedOut := grows.timedOut
  have rejected := grows.failed
  omega

theorem failed_send (failed : k.dispatcher.Failed reason) (method : String) (params : Option Value)
    (timeout : Nat) :
    (k.turn (.send method params timeout)).completions =
      [⟨k.tasks, .error (.connectionFailed reason)⟩] ∧
    (k.turn (.send method params timeout)).after.dispatcher.channel = k.dispatcher.channel := by
  have refused : k.dispatcher.send k.tasks method params timeout = _ := send_of_refusal failed.refusal
  exact ⟨congrArg Prod.snd refused, congrArg (fun out => out.1.channel) refused⟩

theorem failed_failAll (failed : k.dispatcher.Failed reason) (again : String) (failure : Failure) :
    (k.turn (.failAll again failure)).answer = .rejected 0 ∧
    (k.turn (.failAll again failure)).completions = [] := by
  simp only [turn, reply, failAll, failed.pending, List.length_nil, deliverAll, and_self]

theorem failed_resolve (failed : k.dispatcher.Failed reason) (id : Nat) (body : Value) :
    (k.turn (.resolve id body)).answer = .resolution .late ∨
    (k.turn (.resolve id body)).answer = .resolution .unknown := by
  simp only [turn, reply, resolve, failed.pending, List.find?_nil]
  split
  · exact .inl rfl
  · exact .inr rfl

end Desk

/-! ## Later turns -/

section Later

variable {capacity : Nat} {turns : List Turn} {k : Desk} {reason : String}

/-- The frame of a request that is refused enters the channel in no turn. -/
theorem Run.refused_outside (run : Run capacity turns k) : ∀ t ∈ turns, ∀ method params timeout cause,
    t.operation = .send method params timeout → t.before.dispatcher.refusal = some cause →
      t.before.tasks < k.tasks ∧ t.before.tasks ∉ k.dispatcher.line ∧
        ∀ u ∈ turns, t.before.tasks ∉ u.entered := by
  induction run with
  | start => exact List.forall_mem_nil _
  | @turn turns k operation run ih =>
    intro t member method params timeout cause sends refused
    obtain old | new := List.mem_append.mp member
    · obtain ⟨given, left, never⟩ := ih t old method params timeout cause sends refused
      obtain ⟨outside, stays⟩ := Desk.line_left given left operation
      refine ⟨Desk.given_turn given operation, stays, fun u turn => ?_⟩
      obtain before | now := List.mem_append.mp turn
      · exact never u before
      · exact List.mem_singleton.mp now ▸ outside
    · obtain rfl := List.mem_singleton.mp new
      obtain rfl : operation = _ := (Desk.turn_operation k operation).symm.trans sends
      rw [Desk.turn_before] at refused ⊢
      refine ⟨Nat.lt_succ_self _, ?_, fun u turn enters => ?_⟩
      · change k.tasks ∉ (k.dispatcher.send k.tasks method params timeout).1.line
        rw [send_of_refusal refused]
        exact fun inside => Nat.lt_irrefl _ (run.line_old _ inside)
      · obtain before | now := List.mem_append.mp turn
        · exact Nat.lt_irrefl _ (run.entered_old _ (List.mem_flatMap.mpr ⟨u, before, enters⟩))
        · obtain rfl := List.mem_singleton.mp now
          simp [Turn.entered, Turn.offered?, refused] at enters

theorem Run.not_refusing (run : Run capacity turns k) (spared : ∀ t ∈ turns, t.operation.rejects = false) :
    k.dispatcher.refusal = none := by
  induction run with
  | start => rfl
  | @turn turns k operation _ ih =>
    have earlier := ih fun t member => spared t (List.mem_append_left _ member)
    have now := spared _ (List.mem_append_right _ (List.mem_singleton_self _))
    rw [Desk.turn_operation] at now
    exact (Desk.turn_keeps now).refusal.trans earlier

/-- What holds in every turn after a failure. -/
theorem Run.failed (run : Run capacity turns k) (failed : k.dispatcher.Failed reason)
    (operations : List Operation) : ∀ t ∈ (k.run operations).1,
      t.before.dispatcher.Failed reason ∧ (∃ (j : Desk) (operation : Operation), t = j.turn operation) ∧
      t.after.dispatcher.stats.resolved = k.dispatcher.stats.resolved ∧
      t.after.dispatcher.stats.timedOut = k.dispatcher.stats.timedOut ∧
      t.after.dispatcher.stats.failed = k.dispatcher.stats.failed := by
  refine run.later (P := fun j => j.dispatcher.Failed reason ∧
    j.dispatcher.stats.resolved = k.dispatcher.stats.resolved ∧
    j.dispatcher.stats.timedOut = k.dispatcher.stats.timedOut ∧
    j.dispatcher.stats.failed = k.dispatcher.stats.failed) ⟨failed, rfl, rfl, rfl⟩ ?_ operations
  intro _ j run ⟨failed, resolved, timedOut, rejected⟩ operation
  obtain ⟨sameResolved, sameTimedOut, sameFailed⟩ := Desk.failed_stats run.balanced.sound failed operation
  have stats := And.intro (sameResolved.trans resolved)
    (And.intro (sameTimedOut.trans timedOut) (sameFailed.trans rejected))
  refine ⟨⟨?_, ⟨j, operation, rfl⟩, stats⟩, Desk.failed_turn failed operation, stats⟩
  rw [Desk.turn_before]
  exact failed

/-- Failure is for good.  After the first rejection of all requests the table stays empty;
every new request is told the reason of that rejection at once, and its frame enters the channel
in no turn; a further rejection finds nothing to reject; no request is counted as resolved,
timed out or failed; and no response is delivered. -/
theorem failure_is_permanent (run : Run capacity turns k)
    (first : ∀ t ∈ turns, t.operation.rejects = false) (reason : String) (failure : Failure)
    (operations : List Operation) :
    let failing := k.turn (.failAll reason failure)
    let later := (failing.after.run operations).1
    failing.after.dispatcher.pending = [] ∧
    ∀ t ∈ later,
      t.after.dispatcher.pending = [] ∧
      (∀ method params timeout, t.operation = .send method params timeout →
        t.completions = [⟨t.before.tasks, .error (.connectionFailed reason)⟩] ∧
        t.after.dispatcher.channel = t.before.dispatcher.channel ∧
        ∀ u ∈ turns ++ failing :: later, t.before.tasks ∉ u.entered) ∧
      (∀ again cause, t.operation = .failAll again cause →
        t.answer = .rejected 0 ∧ t.completions = []) ∧
      (t.after.dispatcher.stats.resolved = failing.after.dispatcher.stats.resolved ∧
        t.after.dispatcher.stats.timedOut = failing.after.dispatcher.stats.timedOut ∧
        t.after.dispatcher.stats.failed = failing.after.dispatcher.stats.failed) ∧
      ∀ id body, t.operation = .resolve id body →
        t.answer = .resolution .late ∨ t.answer = .resolution .unknown := by
  intro failing later
  have failed : failing.after.dispatcher.Failed reason := by
    refine ⟨(failAll_refusal _ _ _).trans ?_, (failAll_pending _ _ _).1⟩
    rw [run.not_refusing first, Option.getD_none]
  refine ⟨failed.pending, fun t member => ?_⟩
  obtain ⟨before, ⟨j, operation, rfl⟩, stats⟩ := (run.turn _).failed failed operations t member
  have after : (j.turn operation).after.dispatcher.Failed reason :=
    Desk.failed_turn (Desk.turn_before j operation ▸ before) operation
  have whole := (run.turn (.failAll reason failure)).append operations
  rw [List.append_assoc] at whole
  have placed := whole.refused_outside _ (List.mem_append_right _ (List.mem_cons_of_mem _ member))
  rw [Desk.turn_before] at before placed ⊢
  rw [Desk.turn_operation] at placed ⊢
  refine ⟨after.pending, ?_, ?_, stats, ?_⟩
  · rintro method params timeout rfl
    obtain ⟨told, channel⟩ := Desk.failed_send before method params timeout
    exact ⟨told, channel, (placed method params timeout reason rfl before.refusal).2.2⟩
  · rintro again cause rfl
    exact Desk.failed_failAll before again cause
  · rintro id body rfl
    exact Desk.failed_resolve before id body

/-- One request is in the channel and one in line when the connection fails.  What was in line
enters the channel afterwards, but nothing changes the counters, and a further reason is not told. -/
theorem failure_is_permanent_full_channel : ∃ turns k, Run 1 turns k ∧
    (∀ t ∈ turns, t.operation.rejects = false) ∧ k.dispatcher.pending.length = 2 ∧
    ∀ t ∈ ((k.turn (.failAll "gone" .connectionClosed)).after.run
        [.take, .failAll "again" .connectionClosed, .send "c" none 100, .resolve 1 .null, .advance 100]).1,
      t.after.dispatcher.stats.failed = 2 ∧ t.after.dispatcher.stats.timedOut = 0 ∧
      ∀ method params timeout, t.operation = .send method params timeout →
        t.completions = [⟨t.before.tasks, .error (.connectionFailed "gone")⟩] := by
  have run := (Run.start : Run 1 [] _).append [.send "a" none 100, .send "b" none 100]
  have spared : ∀ t ∈ ((Desk.fresh 1).run [.send "a" none 100, .send "b" none 100]).1,
      t.operation.rejects = false :=
    List.forall_mem_cons.mpr ⟨rfl, List.forall_mem_cons.mpr ⟨rfl, List.forall_mem_nil _⟩⟩
  have permanent := (failure_is_permanent run spared "gone" .connectionClosed [.take,
    .failAll "again" .connectionClosed, .send "c" none 100, .resolve 1 .null, .advance 100]).2
  refine ⟨_, _, run, spared, rfl, fun t member => ?_⟩
  obtain ⟨_, sends, _, ⟨_, timedOut, failed⟩, _⟩ := permanent t member
  exact ⟨failed, timedOut, fun method params timeout same => (sends method params timeout same).1⟩

end Later

end BlockDiscovery.Session
