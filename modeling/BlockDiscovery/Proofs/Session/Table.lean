import BlockDiscovery.Session.Dispatcher
import Mathlib.Data.List.Nodup

/-! # The table of requests

The table holds one entry for every task that still waits for its answer, in the order
in which the requests were sent (`Matched`).  The laws below are the ways in which
tasks come and go.
-/

namespace BlockDiscovery.Session

/-! ## Keys -/

/-- Where no two items have the same key, the items with the key of one are that one. -/
theorem filter_key {α β : Type} [DecidableEq β] {key : α → β} {items : List α} {x : α}
    (distinct : (items.map key).Nodup) (member : x ∈ items) :
    items.filter (fun y => key y = key x) = [x] := by
  induction items with
  | nil => cases member
  | cons y items ih =>
    rw [List.map_cons, List.nodup_cons] at distinct
    obtain rfl | later := List.mem_cons.mp member
    · have others : items.filter (fun y => key y = key x) = [] := by
        refine List.filter_eq_nil_iff.mpr fun y inside => ?_
        have differs : key y ≠ key x := fun same => distinct.1 (same ▸ List.mem_map_of_mem inside)
        simp [differs]
      rw [List.filter_cons_of_pos (by simp), others]
    · have differs : key y ≠ key x := fun same => distinct.1 (same ▸ List.mem_map_of_mem later)
      rw [List.filter_cons_of_neg (by simp [differs]), ih distinct.2 later]

theorem length_filter_not_add {α : Type} (p : α → Prop) [DecidablePred p] (items : List α) :
    (items.filter fun x => ¬p x).length + (items.filter fun x => p x).length = items.length := by
  have parts := List.length_eq_length_filter_add (l := items) fun x => p x
  have others : (items.filter fun x => ¬p x) = items.filter fun x => !decide (p x) :=
    List.filter_congr fun x _ => decide_not
  rw [others]
  omega

/-! ## Entries -/

/-- The entry of a request. -/
def Send.entry (s : Send) : Pending := ⟨s.id, s.method, s.ticket⟩

/-- Whether a task still waits for its answer. -/
def Send.isOpen (s : Send) : Bool :=
  match s.progress with
  | .waiting (some _) => false
  | _ => true

/-- The entries of the tasks that still wait for their answers. -/
def tableOf (sends : List Send) : List Pending := (sends.filter Send.isOpen).map Send.entry

/-- The tasks without that of a ticket. -/
def without (ticket : Ticket) (sends : List Send) : List Send :=
  sends.filter fun s => s.ticket ≠ ticket

/-- The tasks with new progress for that of a ticket. -/
def progressed (ticket : Ticket) (progress : Progress) (sends : List Send) : List Send :=
  sends.map fun s => if s.ticket = ticket then { s with progress } else s

/-- A table without the entries of a ticket. -/
def struck (ticket : Ticket) (pending : List Pending) : List Pending :=
  pending.filter fun p => p.ticket ≠ ticket

theorem tableOf_without (ticket : Ticket) (sends : List Send) :
    tableOf (without ticket sends) = struck ticket (tableOf sends) := by
  rw [tableOf, without, struck, tableOf, List.filter_map, List.filter_filter, List.filter_filter]
  congr 1
  exact List.filter_congr fun s _ => Bool.and_comm _ _

theorem map_ticket_progressed (ticket : Ticket) (progress : Progress) (sends : List Send) :
    (progressed ticket progress sends).map Send.ticket = sends.map Send.ticket := by
  rw [progressed, List.map_map]
  refine List.map_congr_left fun s _ => ?_
  simp only [Function.comp_apply]
  split <;> rfl

theorem map_id_progressed (ticket : Ticket) (progress : Progress) (sends : List Send) :
    (progressed ticket progress sends).map Send.id = sends.map Send.id := by
  rw [progressed, List.map_map]
  refine List.map_congr_left fun s _ => ?_
  simp only [Function.comp_apply]
  split <;> rfl

theorem tableOf_progressed (ticket : Ticket) (progress : Progress) (sends : List Send) :
    tableOf (progressed ticket progress sends) =
      (sends.filter fun s => Send.isOpen (if s.ticket = ticket then { s with progress } else s)).map
        Send.entry := by
  rw [tableOf, progressed, List.filter_map, List.map_map]
  refine List.map_congr_left fun s _ => ?_
  simp only [Function.comp_apply]
  split <;> rfl

theorem tableOf_answered (ticket : Ticket) (answer : Outcome) (sends : List Send) :
    tableOf (progressed ticket (.waiting (some answer)) sends) = struck ticket (tableOf sends) := by
  rw [tableOf_progressed, struck, tableOf, List.filter_map, List.filter_filter]
  congr 1
  refine List.filter_congr fun s _ => ?_
  by_cases same : s.ticket = ticket
  · simp [Send.isOpen, Send.entry, same]
  · simp [Send.entry, same]

theorem tableOf_sent {ticket : Ticket} {sends : List Send} (deadline : Nat)
    (waits : ∀ s ∈ sends, s.ticket = ticket → s.isOpen = true) :
    tableOf (progressed ticket (.sent deadline) sends) = tableOf sends := by
  rw [tableOf_progressed, tableOf]
  congr 1
  refine List.filter_congr fun s member => ?_
  split
  · next same => exact (waits s member same).symm
  · rfl

/-! ## Tasks and their entries -/

/-- A table that holds the entries of the open tasks, where no two tasks have the same
ticket or number and all of these were given before. -/
structure Matched (tasks nextId : Nat) (pending : List Pending) (sends : List Send) : Prop where
  table : pending = tableOf sends
  tickets : (sends.map Send.ticket).Nodup
  ids : (sends.map Send.id).Nodup
  given : ∀ s ∈ sends, s.ticket < tasks ∧ s.id < nextId

variable {tasks nextId : Nat} {pending : List Pending} {sends : List Send} {s : Send}

theorem Matched.fresh : Matched 0 1 [] [] := ⟨rfl, .nil, .nil, List.forall_mem_nil _⟩

theorem Matched.later {tasks' nextId' : Nat} (h : Matched tasks nextId pending sends)
    (moreTasks : tasks ≤ tasks') (moreIds : nextId ≤ nextId') :
    Matched tasks' nextId' pending sends where
  table := h.table
  tickets := h.tickets
  ids := h.ids
  given s member :=
    ⟨Nat.lt_of_lt_of_le (h.given s member).1 moreTasks,
      Nat.lt_of_lt_of_le (h.given s member).2 moreIds⟩

theorem Matched.without (h : Matched tasks nextId pending sends) (ticket : Ticket) :
    Matched tasks nextId (struck ticket pending) (without ticket sends) where
  table := by rw [h.table, tableOf_without]
  tickets := h.tickets.sublist (List.filter_sublist.map Send.ticket)
  ids := h.ids.sublist (List.filter_sublist.map Send.id)
  given s member := h.given s (List.mem_filter.mp member).1

theorem given_progressed {ticket : Ticket} {progress : Progress}
    (given : ∀ s ∈ sends, s.ticket < tasks ∧ s.id < nextId) :
    ∀ s ∈ progressed ticket progress sends, s.ticket < tasks ∧ s.id < nextId := by
  intro s member
  obtain ⟨t, inside, rfl⟩ := List.mem_map.mp member
  split <;> exact given t inside

theorem Matched.answered (h : Matched tasks nextId pending sends) (ticket : Ticket)
    (answer : Outcome) :
    Matched tasks nextId (struck ticket pending) (progressed ticket (.waiting (some answer)) sends)
    where
  table := by rw [h.table, tableOf_answered]
  tickets := map_ticket_progressed _ _ sends ▸ h.tickets
  ids := map_id_progressed _ _ sends ▸ h.ids
  given := given_progressed h.given

theorem Matched.sent (h : Matched tasks nextId pending sends) {ticket : Ticket} (deadline : Nat)
    (waits : ∀ s ∈ sends, s.ticket = ticket → s.isOpen = true) :
    Matched tasks nextId pending (progressed ticket (.sent deadline) sends) where
  table := by rw [h.table, tableOf_sent deadline waits]
  tickets := map_ticket_progressed _ _ sends ▸ h.tickets
  ids := map_id_progressed _ _ sends ▸ h.ids
  given := given_progressed h.given

theorem Matched.append (h : Matched tasks nextId pending sends) (method : String) (timeout : Nat) :
    Matched (tasks + 1) (nextId + 1) (pending ++ [⟨nextId, method, tasks⟩])
      (sends ++ [⟨tasks, nextId, method, timeout, .waiting none⟩]) where
  table := by
    rw [h.table, tableOf, tableOf, List.filter_append, List.map_append]
    rfl
  tickets := by
    rw [List.map_append]
    refine List.nodup_append.mpr ⟨h.tickets, List.nodup_singleton _, ?_⟩
    rintro _ old _ new rfl
    obtain ⟨s, member, ticket⟩ := List.mem_map.mp old
    exact Nat.ne_of_lt (h.given s member).1 (ticket.trans (List.mem_singleton.mp new))
  ids := by
    rw [List.map_append]
    refine List.nodup_append.mpr ⟨h.ids, List.nodup_singleton _, ?_⟩
    rintro _ old _ new rfl
    obtain ⟨s, member, id⟩ := List.mem_map.mp old
    exact Nat.ne_of_lt (h.given s member).2 (id.trans (List.mem_singleton.mp new))
  given := by
    intro s member
    obtain old | new := List.mem_append.mp member
    · exact ⟨Nat.lt_succ_of_lt (h.given s old).1, Nat.lt_succ_of_lt (h.given s old).2⟩
    · obtain rfl := List.mem_singleton.mp new
      exact ⟨Nat.lt_succ_self _, Nat.lt_succ_self _⟩

/-! ## The entry of a task -/

theorem Matched.entry_given (h : Matched tasks nextId pending sends) {p : Pending}
    (member : p ∈ pending) : p.ticket < tasks := by
  rw [h.table] at member
  obtain ⟨s, inside, rfl⟩ := List.mem_map.mp member
  exact (h.given s (List.mem_filter.mp inside).1).1

theorem Matched.struck_new (h : Matched tasks nextId pending sends) (method : String) :
    struck tasks (pending ++ [⟨nextId, method, tasks⟩]) = pending := by
  rw [struck, List.filter_append, List.filter_cons_of_neg (by simp), List.filter_nil, List.append_nil]
  exact List.filter_eq_self.mpr fun p inside => decide_eq_true (Nat.ne_of_lt (h.entry_given inside))

theorem Matched.without_new (h : Matched tasks nextId pending sends) (new : Send)
    (ticket : new.ticket = tasks) : Session.without tasks (sends ++ [new]) = sends := by
  rw [Session.without, List.filter_append, List.filter_cons_of_neg (by simp [ticket]), List.filter_nil,
    List.append_nil]
  exact List.filter_eq_self.mpr fun s inside => decide_eq_true (Nat.ne_of_lt (h.given s inside).1)

theorem Matched.same_ticket (h : Matched tasks nextId pending sends) {t : Send} (first : s ∈ sends)
    (second : t ∈ sends) (same : s.ticket = t.ticket) : s = t :=
  List.inj_on_of_nodup_map h.tickets first second same

theorem Matched.same_id (h : Matched tasks nextId pending sends) {t : Send} (first : s ∈ sends)
    (second : t ∈ sends) (same : s.id = t.id) : s = t :=
  List.inj_on_of_nodup_map h.ids first second same

theorem Matched.task_of_entry (h : Matched tasks nextId pending sends) {p : Pending}
    (member : p ∈ pending) : ∃ s ∈ sends, s.isOpen = true ∧ s.entry = p := by
  rw [h.table] at member
  obtain ⟨s, inside, entry⟩ := List.mem_map.mp member
  exact ⟨s, (List.mem_filter.mp inside).1, (List.mem_filter.mp inside).2, entry⟩

/-- Striking the entries with the number of a task strikes those with its ticket. -/
theorem Matched.filter_id (h : Matched tasks nextId pending sends) (member : s ∈ sends) :
    (pending.filter fun p => p.id ≠ s.id) = struck s.ticket pending := by
  refine List.filter_congr fun p inside => ?_
  obtain ⟨t, task, _, rfl⟩ := h.task_of_entry inside
  have iff : t.id = s.id ↔ t.ticket = s.ticket :=
    ⟨fun same => by rw [h.same_id task member same],
      fun same => by rw [h.same_ticket task member same]⟩
  exact decide_eq_decide.mpr (not_congr iff)

theorem Matched.struck_answered (h : Matched tasks nextId pending sends) (member : s ∈ sends)
    (answered : s.isOpen = false) : struck s.ticket pending = pending := by
  refine List.filter_eq_self.mpr fun p inside => ?_
  obtain ⟨t, task, waits, rfl⟩ := h.task_of_entry inside
  have differs : t.ticket ≠ s.ticket := by
    intro same
    rw [h.same_ticket task member same, answered] at waits
    cases waits
  exact decide_eq_true differs

theorem Matched.entry_tickets (h : Matched tasks nextId pending sends) :
    (pending.map Pending.ticket).Nodup := by
  have entries : pending.map Pending.ticket = (sends.filter Send.isOpen).map Send.ticket := by
    rw [h.table, tableOf, List.map_map]
    rfl
  exact entries ▸ h.tickets.sublist (List.filter_sublist.map Send.ticket)

theorem Matched.entry_ids (h : Matched tasks nextId pending sends) :
    (pending.map Pending.id).Nodup := by
  have entries : pending.map Pending.id = (sends.filter Send.isOpen).map Send.id := by
    rw [h.table, tableOf, List.map_map]
    rfl
  exact entries ▸ h.ids.sublist (List.filter_sublist.map Send.id)

theorem Matched.struck_head {p : Pending} (h : Matched tasks nextId (p :: pending) sends) :
    struck p.ticket (p :: pending) = pending := by
  have distinct := h.entry_tickets
  rw [List.map_cons, List.nodup_cons] at distinct
  rw [struck, List.filter_cons_of_neg (by simp)]
  refine List.filter_eq_self.mpr fun q inside => decide_eq_true fun same => distinct.1 ?_
  exact same ▸ List.mem_map_of_mem inside

/-- An open task has one entry. -/
theorem Matched.length_struck (h : Matched tasks nextId pending sends) (member : s ∈ sends)
    (waits : s.isOpen = true) : (struck s.ticket pending).length + 1 = pending.length := by
  have entry : s.entry ∈ pending :=
    h.table ▸ List.mem_map_of_mem (List.mem_filter.mpr ⟨member, waits⟩)
  have own : (pending.filter fun p => p.ticket = s.ticket).length = 1 :=
    congrArg List.length (filter_key h.entry_tickets entry)
  have parts := length_filter_not_add (fun p => p.ticket = s.ticket) pending
  rw [own] at parts
  exact parts

end BlockDiscovery.Session
