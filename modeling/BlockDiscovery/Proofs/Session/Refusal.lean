import BlockDiscovery.Proofs.Session.Line
import BlockDiscovery.Proofs.Session.Round

/-! # What has ended stays ended

A dispatcher that refuses requests goes on refusing them for the same reason, and its table gets
no new entries.  A closed router stays closed and gets no slots.
-/

namespace BlockDiscovery.Session

open BlockDiscovery.Json BlockDiscovery.Protocol

/-! ## Dispatchers -/

namespace Dispatcher

/-- From one dispatcher to the next the refusal stays as it is, and one that refuses requests puts
none into its table. -/
structure Keeps (d e : Dispatcher) : Prop where
  refusal : e.refusal = d.refusal
  table : d.refusal.isSome = true → e.pending ⊆ d.pending

theorem Keeps.refl (d : Dispatcher) : Keeps d d := ⟨rfl, fun _ => List.Subset.refl _⟩

theorem Keeps.trans {d e f : Dispatcher} (first : Keeps d e) (second : Keeps e f) : Keeps d f where
  refusal := second.refusal.trans first.refusal
  table refuses := List.Subset.trans (second.table (first.refusal ▸ refuses)) (first.table refuses)

/-- Only the refusal and the table count. -/
theorem Keeps.of_frame {d e : Dispatcher} (refusal : e.refusal = d.refusal) (table : e.pending = d.pending) :
    Keeps d e :=
  ⟨refusal, fun _ _ member => table ▸ member⟩

variable {d : Dispatcher}

theorem expire_keeps (d : Dispatcher) (s : Send) : Keeps d (d.expire s).1 :=
  ⟨rfl, fun _ => List.filter_subset_self _⟩

theorem cancel_keeps (d : Dispatcher) (ticket : Ticket) : Keeps d (d.cancel ticket) :=
  ⟨rfl, fun _ => List.filter_subset_self _⟩

theorem arrive_keeps (d : Dispatcher) (ticket : Ticket) : Keeps d (d.arrive ticket).1 := by
  rw [arrive]
  split
  · exact .refl d
  split
  · exact .of_frame rfl rfl
  · split
    · exact expire_keeps d _
    · exact .of_frame rfl rfl
  · exact .refl d

theorem expireDue_keeps (d : Dispatcher) (sends : List Send) : Keeps d (d.expireDue sends).1 := by
  induction sends generalizing d with
  | nil => exact .refl d
  | cons s sends ih =>
    rw [expireDue]
    split
    · split
      · exact (expire_keeps d s).trans (ih _)
      · exact ih d
    · exact ih d

theorem strand_keeps (d : Dispatcher) (line : List (Ticket × Item)) : Keeps d (d.strand line).1 := by
  induction line generalizing d with
  | nil => exact .refl d
  | cons w line ih => exact (cancel_keeps d w.1).trans (ih _)

theorem enqueue_keeps (d : Dispatcher) (ticket : Ticket) (item : Item) : Keeps d (d.enqueue ticket item).1 := by
  obtain ⟨channel, completions, frame, _⟩ := enqueue_frame d ticket item
  rw [frame]
  exact .of_frame rfl rfl

theorem tryEnqueue_keeps (d : Dispatcher) (frame : Value) : Keeps d (d.tryEnqueue frame).2 := by
  obtain ⟨channel, same, _⟩ := tryEnqueue_frame d frame
  rw [same]
  exact .of_frame rfl rfl

theorem send_keeps (d : Dispatcher) (ticket : Ticket) (method : String) (params : Option Value)
    (timeout : Nat) : Keeps d (d.send ticket method params timeout).1 := by
  cases refusal : d.refusal with
  | some reason =>
    rw [send_of_refusal refusal]
    exact .of_frame rfl rfl
  | none =>
    refine ⟨?_, fun refuses => by cases refusal ▸ refuses⟩
    cases pushed : d.channel.push ticket (.message (request d.nextId method params)) with
    | mk result channel =>
    cases result with
    | refused => rw [send_of_closed refusal pushed]; rfl
    | waits => rw [send_of_waits refusal pushed]; rfl
    | entered => rw [send_of_entered refusal pushed, (arrive_keeps _ ticket).refusal]; rfl

theorem resolve_keeps (d : Dispatcher) (id : Nat) (body : Value) : Keeps d (d.resolve id body).2.1 := by
  rw [resolve]
  split
  · split <;> exact .of_frame rfl rfl
  · rw [deliver_frame]
    exact ⟨rfl, fun _ => List.filter_subset_self _⟩

theorem takeItem_keeps (d : Dispatcher) : Keeps d d.takeItem.2.1 := by
  have taken : Keeps d { d with channel := d.channel.take.2.2 } := .of_frame rfl rfl
  rw [takeItem]
  dsimp only
  split
  · exact taken
  · exact taken.trans (arrive_keeps _ _)

theorem dropWriter_keeps (d : Dispatcher) : Keeps d d.dropWriter.1 := by
  have dropped : Keeps d { d with channel := d.channel.drop } := .of_frame rfl rfl
  exact dropped.trans (strand_keeps _ _)

theorem advanceTo_keeps (d : Dispatcher) (time : Nat) : Keeps d (d.advanceTo time).1 := by
  have later : Keeps d { d with clock := time } := .of_frame rfl rfl
  exact later.trans (expireDue_keeps _ _)

/-- Every new request is refused for the given reason, and nothing but its number is used up. -/
def Refuses (d : Dispatcher) (reason : String) : Prop :=
  ∀ ticket method params timeout, d.send ticket method params timeout =
    ({ d with nextId := d.nextId + 1 }, [⟨ticket, .error (.connectionFailed reason)⟩])

theorem refuses_iff {reason : String} : d.Refuses reason ↔ d.refusal = some reason := by
  refine ⟨fun refuses => ?_, fun refusal _ _ _ _ => send_of_refusal refusal⟩
  have refused := refuses 0 "" none 0
  cases refusal : d.refusal with
  | some other =>
    rw [send_of_refusal refusal] at refused
    cases (Prod.mk.inj refused).2
    rfl
  | none =>
    cases pushed : d.channel.push 0 (.message (request d.nextId "" none)) with
    | mk result channel =>
    cases result with
    | refused =>
      rw [send_of_closed refusal pushed] at refused
      cases (Prod.mk.inj refused).2
    | waits =>
      rw [send_of_waits refusal pushed] at refused
      cases (Prod.mk.inj refused).2
    | entered =>
      have same : d.channel = channel := by
        have arrived := congrArg (fun out => out.1.channel) refused
        rw [send_of_entered refusal pushed] at arrived
        dsimp only at arrived
        rw [arrive_frame] at arrived
        exact arrived.symm
      rw [← same, Channel.push] at pushed
      split at pushed
      · cases pushed
      split at pushed
      · have longer := congrArg (fun out => out.2.items.length) pushed
        simp at longer
      · cases pushed

/-- The first reason stands. -/
theorem failAll_refusal (d : Dispatcher) (reason : String) (failure : Failure) :
    (d.failAll reason failure).2.1.refusal = some (d.refusal.getD reason) := by
  rw [failAll, deliverAll_frame]

end Dispatcher

/-! ## Routers -/

namespace Router

/-- From one router to the next it stays open or closed, and a closed one gets no slots. -/
structure Keeps (r s : Router) : Prop where
  closed : s.closed = r.closed
  slots : r.closed = true → r.slots = [] → s.slots = []

theorem Keeps.refl (r : Router) : Keeps r r := ⟨rfl, fun _ empty => empty⟩

theorem Keeps.trans {r s t : Router} (first : Keeps r s) (second : Keeps s t) : Keeps r t where
  closed := second.closed.trans first.closed
  slots closed empty := second.slots (first.closed ▸ closed) (first.slots closed empty)

theorem Keeps.of_same {r s : Router} (closed : s.closed = r.closed) (slots : s.slots = r.slots) : Keeps r s :=
  ⟨closed, fun _ empty => slots.trans empty⟩

theorem run_keeps (r : Router) : Keeps r r.run.1 :=
  .of_same (run_same r).closed (run_same r).slots

theorem watch_keeps (r : Router) (ticket : Ticket) (uri : String) : Keeps r (r.watch ticket uri) := by
  simp only [watch]
  split
  · exact .of_same rfl rfl
  · next isOpen =>
    split <;> exact ⟨rfl, fun closed => absurd closed isOpen⟩

theorem release_keeps (r : Router) (uri : String) : Keeps r (r.release uri) := by
  rw [release]
  split
  · exact .refl r
  · next slot found =>
    have some : r.slots ≠ [] := List.ne_nil_of_mem (List.mem_of_find?_eq_some found)
    split <;> exact ⟨rfl, fun _ empty => absurd empty some⟩

theorem unwatch_keeps (r : Router) (ticket : Ticket) : Keeps r (r.unwatch ticket) := by
  rw [unwatch]
  split
  · exact .refl r
  · next w _ => exact (release_keeps r w.uri).trans (.of_same rfl rfl)

theorem route_keeps (r : Router) (method : String) (params : Option Value) : Keeps r (r.route method params) := by
  rw [route]
  split
  · split
    · rw [publish]
      split <;> exact .of_same rfl rfl
    · exact .refl r
  · exact .refl r

theorem collect_keeps (r : Router) (ticket watch : Ticket) (timeout settle : Nat) :
    Keeps r (r.collect ticket watch timeout settle) :=
  .of_same rfl rfl

theorem advanceTo_keeps (r : Router) (time : Nat) : Keeps r (r.advanceTo time).1 := by
  have later : Keeps r { r with clock := time } := .of_same rfl rfl
  exact later.trans (run_keeps _)

theorem close_run (r : Router) : r.close.run.1.closed = true ∧ r.close.run.1.slots = [] :=
  ⟨(run_same r.close).closed, (run_same r.close).slots⟩

end Router

end BlockDiscovery.Session
