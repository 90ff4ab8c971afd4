import BlockDiscovery.Proofs.Session.Story
import Mathlib.Data.List.Induction

/-! # The chronicle of a run

In every run each request that was issued has its story, and its task stands in the
dispatcher just where its story says.  A request that is not issued yet has no history.
-/

namespace BlockDiscovery.Session

open BlockDiscovery.Json BlockDiscovery.Protocol Dispatcher

/-- How the task of a request stands: the dispatcher has it with the given progress, or
has none, and a task in line waits for room. -/
structure Standing (k : Desk) (r : Request) (progress : Option Progress) : Prop where
  task : k.dispatcher.send? r.ticket = progress.map r.task
  line : r.ticket ∈ k.dispatcher.line → ∃ answer, progress = some (.waiting answer)

/-! ## One turn -/

section Turn

variable {t : Turn} {r : Request} {h : History}

theorem Send.on_task (r : Request) (progress : Progress) (clock : Nat) (e : Happening) :
    ((r.task progress).on clock e).1 =
      (((r.task progress).on clock e).1.map Send.progress).map r.task := by
  cases e with
  | nothing | stranded | refused | cancelled => rfl
  | answered verdict => cases progress <;> rfl
  | admitted =>
    cases progress with
    | sent deadline => rfl
    | waiting answer =>
      cases answer with
      | some answer => rfl
      | none =>
        by_cases zero : r.timeout = 0
        · rw [show (r.task (.waiting none)).on clock .admitted = (none, _) from if_pos zero]
          rfl
        · rw [show (r.task (.waiting none)).on clock .admitted = (some _, []) from if_neg zero]
          rfl
  | time =>
    cases progress with
    | waiting answer => rfl
    | sent deadline =>
      by_cases due : deadline ≤ clock
      · rw [on_time_due rfl due]
        rfl
      · rw [show (r.task (.sent deadline)).on clock .time = (some _, []) from if_neg due]
        rfl

theorem Send.on_waiting (r : Request) (answer : Option Outcome) (clock : Nat) {e : Happening}
    (stays : Turn.leavesLine e = false) :
    ∃ again, ((r.task (.waiting answer)).on clock e).1.map Send.progress = some (.waiting again) := by
  cases e with
  | nothing | time => exact ⟨answer, rfl⟩
  | answered verdict => exact ⟨some (verdict.outcome r.method), rfl⟩
  | admitted | stranded | refused | cancelled => cases stays

/-- A turn that means an event for a task continues its story. -/
theorem Turn.Meets.story {progress : Progress} {e : Happening} (meets : t.Meets (r.task progress) e)
    (story : Story r h (some progress) t.before.dispatcher.clock)
    (line : r.ticket ∈ t.before.dispatcher.line ∨ r.ticket = t.before.tasks →
      ∃ answer, progress = .waiting answer)
    (forward : t.before.dispatcher.clock ≤ t.after.dispatcher.clock) :
    ∃ next, Standing t.after r next ∧ Story r (h.append (t.history r)) next t.after.dispatcher.clock := by
  refine ⟨((r.task progress).on t.after.dispatcher.clock e).1.map Send.progress, ⟨?_, fun inside => ?_⟩, ?_⟩
  · exact (congrArg Prod.fst meets.view).trans (Send.on_task r progress _ e)
  · obtain ⟨old, stays⟩ := meets.line inside
    obtain ⟨answer, rfl⟩ := line old
    exact Send.on_waiting r answer _ stays
  · rw [meets.history]
    exact story.on e meets.isOpen (fun needs => line (meets.room needs)) meets.clock forward

theorem Turn.Spares.history {tasks later : Nat} (spares : t.Spares r.ticket)
    (before : Sound tasks t.before.dispatcher) (after : Sound later t.after.dispatcher) :
    t.history r =
      ⟨[], [], if t.cancels r.ticket then [t.before.dispatcher.clock] else [], [], []⟩ := by
  rw [Turn.history, spares.verdict? before after rfl, if_neg spares.entered, spares.reports,
    expiries_eq_nil spares.reports]
  rfl

end Turn

namespace Desk

variable {k : Desk} {r : Request} {h : History}

theorem clock_le (k : Desk) (operation : Operation) :
    k.dispatcher.clock ≤ (k.turn operation).after.dispatcher.clock := by
  obtain ⟨ms, rfl⟩ | same := turn_clock k operation
  · rw [turn_advance_clock]
    exact Nat.le_add_right _ _
  · exact Nat.le_of_eq same.symm

/-- The story of an older request goes on. -/
theorem story (sound : k.dispatcher.Sound k.tasks) (distinct : k.dispatcher.line.Nodup)
    (old : r.ticket < k.tasks) {progress : Option Progress} (stands : Standing k r progress)
    (story : Story r h progress k.dispatcher.clock) (operation : Operation) :
    ∃ next, Standing (k.turn operation).after r next ∧
      Story r (h.append ((k.turn operation).history r)) next (k.turn operation).after.dispatcher.clock := by
  have forward := clock_le k operation
  cases progress with
  | none =>
    have left : r.ticket ∉ k.dispatcher.line := by
      intro inside
      obtain ⟨answer, waits⟩ := stands.line inside
      cases waits
    have spares := spares_gone sound old stands.task left operation
    have task := spares.task
    have line := spares.line
    have history := spares.history (by rwa [turn_before]) (accounts sound operation).sound
    rw [turn_before] at task line
    refine ⟨none, ⟨task.trans stands.task, fun inside => absurd (line inside) left⟩, ?_⟩
    rw [history]
    exact (story.cancelled _).later forward
  | some progress =>
    obtain ⟨e, meets⟩ := Desk.meets sound distinct (s := r.task progress) stands.task operation
    refine meets.story (by rwa [turn_before]) (fun where_ => ?_) (by rwa [turn_before])
    rw [turn_before] at where_
    obtain ⟨answer, waits⟩ := stands.line (where_.resolve_right (Nat.ne_of_lt old))
    exact ⟨answer, Option.some.inj waits⟩

/-- The story of a new request begins. -/
theorem story_new (sound : k.dispatcher.Sound k.tasks) (member : r ∈ (k.turn operation).issued) :
    ∃ next, Standing (k.turn operation).after r next ∧
      Story r ((k.turn operation).history r) next (k.turn operation).after.dispatcher.clock := by
  cases operation with
  | send method params timeout =>
    have own := List.mem_singleton.mp member
    have task : r.task (.waiting none) = k.newTask method timeout := by
      rw [own]
      rfl
    obtain ⟨e, meets⟩ := meets_new sound method params timeout
    rw [← task] at meets
    have begins : Story r .blank (some (.waiting none)) k.dispatcher.clock := .waiting
    exact Turn.Meets.story meets begins (fun _ => ⟨none, rfl⟩) (clock_le k (.send method params timeout))
  | _ => cases member

/-! ## Numbers and tickets -/

theorem send_nextId (d : Dispatcher) (ticket : Ticket) (method : String) (params : Option Value)
    (timeout : Nat) : (d.send ticket method params timeout).1.nextId = d.nextId + 1 := by
  rw [send]
  split
  · rfl
  dsimp only
  split
  · rfl
  · rfl
  · rw [arrive_frame]
    rfl

/-- A new request has the next number and the next ticket. -/
theorem issued_given (member : r ∈ (k.turn operation).issued) :
    r.ticket = k.tasks ∧ r.id = k.dispatcher.nextId ∧
      (k.turn operation).after.tasks = k.tasks + 1 ∧
      (k.turn operation).after.dispatcher.nextId = k.dispatcher.nextId + 1 := by
  cases operation with
  | send method params timeout =>
    obtain rfl := List.mem_singleton.mp member
    exact ⟨rfl, rfl, rfl, send_nextId _ _ _ _ _⟩
  | _ => cases member

theorem nodup_issued (k : Desk) (operation : Operation) :
    ((k.turn operation).issued.map Request.id).Nodup := by
  cases operation with
  | send => exact List.nodup_singleton _
  | _ => exact .nil

theorem entered_given (sound : k.dispatcher.Sound k.tasks) {u : Ticket} {operation : Operation}
    (inside : u ∈ (k.turn operation).entered) : u < (k.turn operation).after.tasks := by
  cases operation with
  | send | notify | sendRaw | closeWriter =>
    obtain ⟨take, _⟩ | new := eq_of_entered inside
    · cases take
    · rw [new]
      exact Nat.lt_succ_self _
  | take =>
    obtain ⟨item, waits⟩ := take_entered (Option.mem_toList.mp inside)
    exact (sound.line _ waits).1
  | _ => cases inside

/-- What nobody has asked for yet does not happen. -/
theorem history_unborn (sound : k.dispatcher.Sound k.tasks) (operation : Operation)
    (unborn : (k.turn operation).after.tasks ≤ r.ticket) : (k.turn operation).history r = .blank := by
  have books := accounts sound operation
  have tasks : k.tasks ≤ (k.turn operation).after.tasks := by
    have more := books.tasks
    rwa [turn_before] at more
  have verdict : (k.turn operation).verdict? r.entry = none := by
    refine Turn.verdict?_eq_none fun member => ?_
    rw [turn_before] at member
    exact absurd (Nat.le_trans tasks unborn) (Nat.not_le_of_lt (sound.matched.entry_given member))
  have entered : r.ticket ∉ (k.turn operation).entered := by
    exact fun inside => Nat.not_le_of_lt (entered_given sound inside) unborn
  have cancels : ¬ (k.turn operation).cancels r.ticket = true := by
    intro cancels
    have given := (Turn.cancels_iff.mp cancels).2
    rw [turn_before] at given
    exact Nat.not_le_of_lt given (Nat.le_trans tasks unborn)
  have reports : (k.turn operation).reports r.ticket = [] := by
    refine List.filter_eq_nil_iff.mpr fun c member own => ?_
    have given := (books.ended c member).1
    rw [of_decide_eq_true own] at given
    exact Nat.not_le_of_lt given unborn
  rw [Turn.history, verdict, if_neg entered, if_neg cancels, reports, Turn.expiries_eq_nil reports]
  rfl

end Desk

/-! ## Runs -/

/-- What is known of a run: the line and the numbers are distinct, and every request has
its story. -/
structure Chronicle (turns : List Turn) (k : Desk) : Prop where
  line : k.dispatcher.line.Nodup
  ids : ((turns.flatMap Turn.issued).map Request.id).Nodup
  given : ∀ r ∈ turns.flatMap Turn.issued, r.ticket < k.tasks ∧ r.id < k.dispatcher.nextId
  stories : ∀ r ∈ turns.flatMap Turn.issued, ∃ progress, Standing k r progress ∧
    Story r (r.history turns) progress k.dispatcher.clock
  unborn : ∀ r : Request, k.tasks ≤ r.ticket → r.history turns = .blank

theorem Chronicle.turn {turns : List Turn} {k : Desk} (h : Chronicle turns k)
    (sound : k.dispatcher.Sound k.tasks) (operation : Operation) :
    Chronicle (turns ++ [k.turn operation]) (k.turn operation).after where
  line := by
    refine (Desk.turn_line k operation).nodup (List.nodup_append.mpr ⟨h.line, List.nodup_singleton _, ?_⟩)
    rintro u old _ new rfl
    exact Desk.tasks_not_in_line sound (List.mem_singleton.mp new ▸ old)
  ids := by
    rw [flatMap_turn, List.map_append]
    refine List.nodup_append.mpr ⟨h.ids, Desk.nodup_issued k operation, ?_⟩
    rintro _ old _ new rfl
    obtain ⟨r, earlier, same⟩ := List.mem_map.mp old
    obtain ⟨q, later, id⟩ := List.mem_map.mp new
    have below := (h.given r earlier).2
    have here := (Desk.issued_given later).2.1
    omega
  given r member := by
    have books := Desk.accounts sound operation
    have tasks := books.tasks
    have numbers := books.numbers
    rw [Desk.turn_before] at tasks numbers
    rw [flatMap_turn] at member
    obtain old | new := List.mem_append.mp member
    · obtain ⟨ticket, id⟩ := h.given r old
      exact ⟨Nat.lt_of_lt_of_le ticket tasks, Nat.lt_of_lt_of_le id numbers⟩
    · obtain ⟨ticket, id, tasks, numbers⟩ := Desk.issued_given new
      rw [ticket, id, tasks, numbers]
      exact ⟨Nat.lt_succ_self _, Nat.lt_succ_self _⟩
  stories r member := by
    rw [flatMap_turn] at member
    rw [history_turn]
    obtain old | new := List.mem_append.mp member
    · obtain ⟨progress, stands, story⟩ := h.stories r old
      exact Desk.story sound h.line (h.given r old).1 stands story operation
    · rw [h.unborn r (Nat.le_of_eq (Desk.issued_given new).1.symm)]
      exact Desk.story_new sound new
  unborn r later := by
    have tasks := (Desk.accounts sound operation).tasks
    rw [Desk.turn_before] at tasks
    rw [history_turn, h.unborn r (Nat.le_trans tasks later), Desk.history_unborn sound operation later]
    rfl

theorem Run.chronicle {capacity : Nat} {turns : List Turn} {k : Desk} (run : Run capacity turns k) :
    Chronicle turns k := by
  induction run with
  | start =>
    exact {
      line := .nil
      ids := .nil
      given := List.forall_mem_nil _
      stories := List.forall_mem_nil _
      unborn := fun _ _ => rfl }
  | turn operation run ih => exact ih.turn run.balanced.sound operation

/-! ## Parts of a run -/

variable {capacity : Nat} {turns front back : List Turn} {t : Turn} {k : Desk}

theorem Run.last (run : Run capacity (front ++ [t]) k) :
    ∃ j operation, Run capacity front j ∧ t = j.turn operation ∧ k = t.after := by
  generalize whole : front ++ [t] = turns at run
  cases run with
  | start => simp at whole
  | turn operation run =>
    obtain ⟨rfl, last⟩ := List.append_inj' whole rfl
    obtain rfl := List.singleton_inj.mp last
    exact ⟨_, operation, run, rfl, rfl⟩

/-- The first turns of a run are a run. -/
theorem Run.initial (run : Run capacity (front ++ back) k) : ∃ j, Run capacity front j := by
  induction back using List.reverseRecOn generalizing k with
  | nil => exact ⟨k, by rwa [List.append_nil] at run⟩
  | append_singleton back t ih =>
    rw [← List.append_assoc] at run
    obtain ⟨j, operation, run, _⟩ := run.last
    exact ih run

/-- A turn of a run, with the runs that lead to it and over it. -/
theorem Run.turnAt (run : Run capacity (front ++ t :: back) k) : ∃ j operation,
    Run capacity front j ∧ t = j.turn operation ∧ Run capacity (front ++ [t]) t.after := by
  rw [List.append_cons] at run
  obtain ⟨_, whole⟩ := run.initial
  obtain ⟨j, operation, before, same, rfl⟩ := whole.last
  exact ⟨j, operation, before, same, whole⟩

theorem Desk.turn_tasks (k : Desk) (operation : Operation) :
    (k.turn operation).after.tasks = k.tasks + operation.startsTask.toNat := by
  cases operation <;> rfl

theorem Run.tasks (run : Run capacity turns k) :
    k.tasks = turns.countP fun t => t.operation.startsTask := by
  induction run with
  | start => rfl
  | turn operation run ih => rw [countP_turn, ← ih, Desk.turn_tasks, Desk.turn_operation]

/-- A request that has its ticket was issued before. -/
theorem Run.issued_before {j : Desk} {r : Request} (run : Run capacity (front ++ back) k)
    (before : Run capacity front j) (issued : r ∈ (front ++ back).flatMap Turn.issued)
    (given : r.ticket < j.tasks) : r ∈ front.flatMap Turn.issued := by
  rw [List.flatMap_append] at issued
  refine (List.mem_append.mp issued).resolve_right fun later => ?_
  obtain ⟨t, member, issues⟩ := List.mem_flatMap.mp later
  obtain ⟨first, rest, rfl⟩ := List.append_of_mem member
  rw [← List.append_assoc] at run
  obtain ⟨i, operation, reached, rfl, _⟩ := run.turnAt
  have started : j.tasks ≤ i.tasks := by
    rw [before.tasks, reached.tasks, List.countP_append]
    exact Nat.le_add_right _ _
  exact Nat.not_le_of_lt given ((Desk.issued_given issues).1 ▸ started)

theorem Run.issued_of_report {j : Desk} {r : Request} {c : Completion}
    (run : Run capacity (front ++ back) k) (before : Run capacity front j)
    (issued : r ∈ (front ++ back).flatMap Turn.issued) (reported : c ∈ (r.history front).reports) :
    r ∈ front.flatMap Turn.issued := by
  refine run.issued_before before issued (Nat.lt_of_not_le fun unborn => ?_)
  rw [before.chronicle.unborn r unborn] at reported
  cases reported

/-! ## Numbers of requests -/

variable {r : Request}

theorem mem_issued_of_inserted {p : Pending} (inserted : p ∈ t.inserted) :
    ∃ r ∈ t.issued, p = r.entry := by
  rw [Turn.inserted] at inserted
  split at inserted
  · next operation =>
    split at inserted
    · obtain rfl := List.mem_singleton.mp inserted
      rw [Turn.issued, operation]
      exact ⟨_, List.mem_singleton_self _, rfl⟩
    · cases inserted
  · cases inserted

/-- Every entry in the table is that of a request that was issued. -/
theorem Run.request_of_entry (run : Run capacity turns k) {p : Pending}
    (member : p ∈ k.dispatcher.pending) : ∃ r ∈ turns.flatMap Turn.issued, p = r.entry := by
  obtain ⟨t, turn, inserted⟩ := List.mem_flatMap.mp (run.balanced.entries member)
  obtain ⟨r, issued, entry⟩ := mem_issued_of_inserted inserted
  exact ⟨r, List.mem_flatMap.mpr ⟨t, turn, issued⟩, entry⟩

theorem Run.own (run : Run capacity turns k) (issued : r ∈ turns.flatMap Turn.issued) :
    ∀ q ∈ turns.flatMap Turn.issued, q.id = r.id → q = r :=
  fun _ member same => List.inj_on_of_nodup_map run.chronicle.ids member issued same

end BlockDiscovery.Session
