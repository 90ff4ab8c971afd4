import BlockDiscovery.Proofs.Session.Chronicle

/-! # The line before the channel

Who waits for room stands in line until its frame enters the channel, it is given up, or the
writer goes away.  So in every run a task that waits for room is in line; and who has left
the line, or never was there, does not enter the channel any more.
-/

namespace BlockDiscovery.Session

open BlockDiscovery.Json BlockDiscovery.Protocol Dispatcher

variable {u : Ticket}

/-! ## Places in line -/

namespace Channel

variable {c : Channel} {ticket : Ticket}

theorem push_stays (ticket : Ticket) (item : Item) (inside : u ∈ c.waiting.map Prod.fst) :
    u ∈ (c.push ticket item).2.waiting.map Prod.fst := by
  rw [push]
  split
  · exact inside
  split
  · exact inside
  · rw [List.map_append]
    exact List.mem_append_left _ inside

theorem push_waits {channel : Channel} {item : Item} (pushed : c.push ticket item = (.waits, channel)) :
    ticket ∈ channel.waiting.map Prod.fst := by
  rw [push] at pushed
  split at pushed
  · cases pushed
  split at pushed
  · cases pushed
  · cases pushed
    rw [List.map_append]
    exact List.mem_append_right _ (List.mem_singleton_self _)

theorem withdraw_stays (other : ticket ≠ u) (inside : u ∈ c.waiting.map Prod.fst) :
    u ∈ (c.withdraw ticket).waiting.map Prod.fst := by
  obtain ⟨w, member, rfl⟩ := List.mem_map.mp inside
  exact List.mem_map_of_mem (List.mem_filter.mpr ⟨member, decide_eq_true (Ne.symm other)⟩)

theorem take_stays (inside : u ∈ c.waiting.map Prod.fst) (stays : c.take.2.1 ≠ some u) :
    u ∈ c.take.2.2.waiting.map Prod.fst := by
  rw [take] at stays ⊢
  split
  · exact inside
  · next waiting =>
    rw [waiting] at inside
    cases inside
  · next items waiting =>
    rw [waiting] at inside
    refine (List.mem_cons.mp inside).resolve_left fun first => stays ?_
    simp only [items, waiting, first]

end Channel

namespace Dispatcher

theorem enqueue_stays (d : Dispatcher) (ticket : Ticket) (item : Item) (inside : u ∈ d.line) :
    u ∈ (d.enqueue ticket item).1.line := by
  have pushed := Channel.push_stays ticket item inside
  unfold enqueue
  split
  · next entered =>
    rw [entered] at pushed
    exact pushed
  · next waits =>
    rw [waits] at pushed
    exact pushed
  · split <;> exact inside

theorem enqueue_task (d : Dispatcher) (ticket : Ticket) (item : Item) :
    (d.enqueue ticket item).1.send? u = d.send? u := by
  obtain ⟨channel, completions, frame, _⟩ := enqueue_frame d ticket item
  rw [frame]
  rfl

theorem send_stays {d : Dispatcher} {tasks : Nat} (sound : d.Sound tasks) (method : String)
    (params : Option Value) (timeout : Nat) (old : u < tasks) (inside : u ∈ d.line) :
    u ∈ (d.send tasks method params timeout).1.line := by
  have pushed := Channel.push_stays tasks (.message (request d.nextId method params)) inside
  rw [send]
  split
  · exact inside
  dsimp only
  split
  · rw [cancel_enroll sound]
    exact Channel.withdraw_stays (Nat.ne_of_gt old) inside
  · next waits =>
    rw [waits] at pushed
    exact pushed
  · next entered =>
    rw [entered] at pushed
    rw [line, arrive_frame]
    exact pushed

end Dispatcher

/-! ## One turn -/

namespace Desk

variable {k : Desk}

/-- Who is in line stays there, unless its turn comes, it is given up, or the writer goes
away. -/
theorem line_stays (sound : k.dispatcher.Sound k.tasks) (inside : u ∈ k.dispatcher.line)
    {operation : Operation} (waits : u ∉ (k.turn operation).entered) (kept : operation ≠ .cancel u)
    (there : operation ≠ .dropWriter) : u ∈ (k.turn operation).after.dispatcher.line := by
  cases operation with
  | send method params timeout =>
    obtain ⟨w, member, rfl⟩ := List.mem_map.mp inside
    exact send_stays sound method params timeout (sound.line w member).1 inside
  | notify method params => exact enqueue_stays _ _ _ inside
  | sendRaw frame => exact enqueue_stays _ _ _ inside
  | closeWriter => exact enqueue_stays _ _ _ inside
  | trySendRaw frame =>
    obtain ⟨channel, same, line⟩ := tryEnqueue_frame k.dispatcher frame
    change u ∈ (k.dispatcher.tryEnqueue frame).2.line
    rwa [same, Dispatcher.line, line]
  | cancel ticket =>
    exact Channel.withdraw_stays (fun own => kept (congrArg Operation.cancel own)) inside
  | resolve id body =>
    change u ∈ (k.dispatcher.resolve id body).2.1.line
    rwa [Dispatcher.line, resolve_channel]
  | failAll reason failure =>
    change u ∈ (k.dispatcher.failAll reason failure).2.1.line
    rwa [Dispatcher.line, failAll, deliverAll_frame]
  | take =>
    change u ∈ k.dispatcher.takeItem.2.1.line
    rw [Dispatcher.line, takeItem_channel]
    exact Channel.take_stays inside fun enters => waits (Option.mem_toList.mpr enters)
  | dropWriter => exact absurd rfl there
  | advance ms =>
    change u ∈ (k.dispatcher.advanceTo (k.dispatcher.clock + ms)).1.line
    rwa [Dispatcher.line, advanceTo, expireDue_frame]

/-- Who is not in line does not enter the channel, and does not line up again. -/
theorem line_left (old : u < k.tasks) (left : u ∉ k.dispatcher.line) (operation : Operation) :
    u ∉ (k.turn operation).entered ∧ u ∉ (k.turn operation).after.dispatcher.line := by
  constructor
  · intro enters
    obtain ⟨take, first⟩ | new := eq_of_entered enters
    · rw [turn_before] at first
      obtain ⟨item, inside⟩ := take_entered first
      exact left (List.mem_map_of_mem inside)
    · rw [turn_before] at new
      exact Nat.ne_of_lt old new
  · intro inside
    obtain before | new := List.mem_append.mp ((turn_line k operation).subset inside)
    · exact left before
    · exact Nat.ne_of_lt old (List.mem_singleton.mp new)

end Desk

/-! ## Requests that wait -/

/-- Every request that waits for room stands in line. -/
def Dispatcher.Queued (d : Dispatcher) : Prop :=
  ∀ u s answer, d.send? u = some s → s.progress = .waiting answer → u ∈ d.line

/-- Who waits after an event waited before, and the event has not ended its wait. -/
theorem Send.waited {s t : Send} {clock : Nat} {e : Happening} {answer : Option Outcome}
    (stays : (s.on clock e).1 = some t) (waits : t.progress = .waiting answer) :
    (∃ earlier, s.progress = .waiting earlier) ∧ Turn.leavesLine e = false := by
  cases e with
  | nothing =>
    cases stays
    exact ⟨⟨answer, waits⟩, rfl⟩
  | answered verdict =>
    simp only [on] at stays
    split at stays
    · cases stays
    · next earlier progress => exact ⟨⟨earlier, progress⟩, rfl⟩
  | time =>
    simp only [on] at stays
    split at stays
    · next progress =>
      split at stays
      · cases stays
      · cases stays
        cases progress.symm.trans waits
    · next earlier progress => exact ⟨⟨earlier, progress⟩, rfl⟩
  | admitted =>
    simp only [on] at stays
    split at stays
    · cases stays
    · split at stays
      · cases stays
      · cases stays
        cases waits
    · next progress =>
      cases stays
      cases progress.symm.trans waits
  | stranded | refused | cancelled => cases stays

namespace Desk

variable {k : Desk} {s t : Send} {answer : Option Outcome}

/-- A new request that waits is last in line. -/
theorem queued_new (sound : k.dispatcher.Sound k.tasks) {method : String} {params : Option Value}
    {timeout : Nat} (found : (k.turn (.send method params timeout)).after.dispatcher.send? k.tasks = some t)
    (waits : t.progress = .waiting answer) :
    k.tasks ∈ (k.turn (.send method params timeout)).after.dispatcher.line := by
  have ended {e : Happening} (meets : (k.turn (.send method params timeout)).Meets (k.newTask method timeout) e) :
      Turn.leavesLine e = false :=
    (Send.waited ((congrArg Prod.fst meets.view).symm.trans found) waits).2
  cases refusal : k.dispatcher.refusal with
  | some reason => cases ended (meets_send_refused sound refusal)
  | none =>
    cases pushed : k.dispatcher.channel.push k.tasks (.message (request k.dispatcher.nextId method params)) with
    | mk result channel =>
    cases result with
    | refused => cases ended (meets_send_closed sound refusal pushed)
    | entered => cases ended (meets_send_entered sound refusal pushed)
    | waits =>
      change k.tasks ∈ (k.dispatcher.send k.tasks method params timeout).1.line
      rw [send_of_waits refusal pushed]
      exact Channel.push_waits pushed

/-- A request that waits in line stays there as long as it waits. -/
theorem queued_old (sound : k.dispatcher.Sound k.tasks) (distinct : k.dispatcher.line.Nodup)
    (queued : k.dispatcher.Queued) {operation : Operation} (was : k.dispatcher.send? s.ticket = some s)
    (found : (k.turn operation).after.dispatcher.send? s.ticket = some t)
    (waits : t.progress = .waiting answer) : s.ticket ∈ (k.turn operation).after.dispatcher.line := by
  obtain ⟨e, meets⟩ := Desk.meets sound distinct was operation
  obtain ⟨⟨earlier, waited⟩, stays⟩ :=
    Send.waited ((congrArg Prod.fst meets.view).symm.trans found) waits
  have inside := queued _ _ _ was waited
  refine line_stays sound inside (fun enters => ?_) ?_ ?_
  · obtain rfl := meets.entered.mp enters
    cases stays
  · rintro rfl
    cases (send?_without k.dispatcher.sends).symm.trans found
  · rintro rfl
    have gone := congrArg Prod.fst (meets_dropWriter sound distinct was inside).view
    cases gone.symm.trans found

theorem queued (sound : k.dispatcher.Sound k.tasks) (distinct : k.dispatcher.line.Nodup)
    (queued : k.dispatcher.Queued) (operation : Operation) : (k.turn operation).after.dispatcher.Queued := by
  intro u t answer found waits
  have books := accounts sound operation
  have given := books.sound.given found
  by_cases old : u < k.tasks
  · have known : u ∈ k.dispatcher.tickets := by
      have before := books.tickets u
      rw [turn_before] at before
      obtain ⟨member, rfl⟩ := send?_eq_some found
      exact before (List.mem_map_of_mem member) old
    obtain ⟨s, member, rfl⟩ := List.mem_map.mp known
    exact queued_old sound distinct queued (sound.find member) found waits
  · rw [turn_tasks] at given
    cases operation with
    | send method params timeout =>
      obtain rfl : u = k.tasks := Nat.le_antisymm (Nat.le_of_lt_succ given) (Nat.le_of_not_lt old)
      exact queued_new sound found waits
    | notify | sendRaw | closeWriter =>
      exact absurd (sound.given ((enqueue_task _ _ _).symm.trans found)) old
    | _ => exact absurd given old

end Desk

theorem Run.queued {capacity : Nat} {turns : List Turn} {k : Desk} (run : Run capacity turns k) :
    k.dispatcher.Queued := by
  induction run with
  | start => exact nofun
  | turn operation run ih => exact Desk.queued run.balanced.sound run.chronicle.line ih operation

/-! ## Later turns -/

section Later

variable {capacity : Nat} {turns : List Turn} {k : Desk}

/-- What every turn keeps, and what follows of each turn, holds in all later turns. -/
theorem Run.later {P : Desk → Prop} {Q : Turn → Prop} (run : Run capacity turns k) (holds : P k)
    (step : ∀ {turns : List Turn} {k : Desk}, Run capacity turns k → P k → ∀ operation,
      Q (k.turn operation) ∧ P (k.turn operation).after) (operations : List Operation) :
    ∀ t ∈ (k.run operations).1, Q t := by
  induction operations generalizing turns k with
  | nil => exact List.forall_mem_nil _
  | cons operation operations ih =>
    obtain ⟨now, kept⟩ := step run holds operation
    exact List.forall_mem_cons.mpr ⟨now, ih (run.turn operation) kept⟩

theorem Desk.given_turn (old : u < k.tasks) (operation : Operation) : u < (k.turn operation).after.tasks := by
  rw [Desk.turn_tasks]
  exact Nat.lt_add_right _ old

theorem Run.outside (run : Run capacity turns k) (old : u < k.tasks) (left : u ∉ k.dispatcher.line)
    (operations : List Operation) : ∀ t ∈ (k.run operations).1, u ∉ t.entered := by
  refine run.later (P := fun k => u < k.tasks ∧ u ∉ k.dispatcher.line) ⟨old, left⟩ ?_ operations
  intro _ k _ ⟨old, left⟩ operation
  obtain ⟨outside, left⟩ := Desk.line_left old left operation
  exact ⟨outside, Desk.given_turn old operation, left⟩

theorem Run.silent (run : Run capacity turns k) (old : u < k.tasks) (gone : k.dispatcher.send? u = none)
    (left : u ∉ k.dispatcher.line) (operations : List Operation) :
    ∀ t ∈ (k.run operations).1, t.reports u = [] := by
  refine run.later (P := fun k => u < k.tasks ∧ k.dispatcher.send? u = none ∧ u ∉ k.dispatcher.line)
    ⟨old, gone, left⟩ ?_ operations
  intro _ k run ⟨old, gone, left⟩ operation
  have spares := Desk.spares_gone run.balanced.sound old gone left operation
  have task := spares.task
  rw [Desk.turn_before] at task
  exact ⟨spares.reports, Desk.given_turn old operation, task.trans gone, (Desk.line_left old left operation).2⟩

end Later

end BlockDiscovery.Session
