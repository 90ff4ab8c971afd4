import BlockDiscovery.Proofs.Session.Run
import BlockDiscovery.Proofs.Session.Settling

/-! # Accounts of requests

Every entry that was ever put into the table of requests is accounted for: it is still
there, it was counted as resolved, timed out or failed, or it was withdrawn together
with its task.  `Accounts` says so for one turn, and induction over a run for all.
-/

namespace BlockDiscovery.Session

open BlockDiscovery.Json BlockDiscovery.Protocol

namespace Turn

/-- The entries that a turn puts into the table. -/
def inserted (t : Turn) : List Pending :=
  match t.operation with
  | .send method _ _ =>
    if t.before.dispatcher.refusal.isNone then
      [⟨t.before.dispatcher.nextId, method, t.before.tasks⟩]
    else []
  | _ => []

/-- Whether the task of an entry ends in a turn because the writer takes no frames. -/
def strands (t : Turn) (p : Pending) : Bool :=
  t.completions.any fun c => c.ticket = p.ticket && c.isWriterClosed

/-- The entries that a turn takes out of the table without a count: their task is
cancelled, or it ends because the writer takes no frames. -/
def withdrawn (t : Turn) : List Pending :=
  match t.operation with
  | .cancel ticket => t.before.dispatcher.pending.filter fun p => p.ticket = ticket
  | .send .. | .dropWriter => (t.before.dispatcher.pending ++ t.inserted).filter t.strands
  | _ => []

/-- Whether a turn hands on a response. -/
def isResolve (t : Turn) : Bool :=
  match t.operation with
  | .resolve .. => true
  | _ => false

/-- Whether a response was for a number that no request has. -/
def isUnknown (t : Turn) : Bool :=
  match t.answer with
  | .resolution .unknown => true
  | _ => false

/-- The books of one turn. -/
structure Accounts (t : Turn) : Prop where
  sound : t.after.dispatcher.Sound t.after.tasks
  settled : t.after.dispatcher.settled + t.withdrawn.length =
    t.before.dispatcher.settled + t.inserted.length
  responses : t.after.dispatcher.responses + t.isUnknown.toNat =
    t.before.dispatcher.responses + t.isResolve.toNat
  entries : t.after.dispatcher.pending ⊆ t.before.dispatcher.pending ++ t.inserted
  tasks : t.before.tasks ≤ t.after.tasks
  tickets : ∀ ticket ∈ t.after.dispatcher.tickets, ticket < t.before.tasks →
    ticket ∈ t.before.dispatcher.tickets
  ended : ∀ c ∈ t.completions, c.ticket < t.after.tasks ∧ c.ticket ∉ t.after.dispatcher.tickets
  numbers : t.before.dispatcher.nextId ≤ t.after.dispatcher.nextId
  new : ∀ p ∈ t.inserted, t.before.dispatcher.nextId ≤ p.id ∧ p.id < t.after.dispatcher.nextId

end Turn

namespace Desk

open Dispatcher Turn

variable {k : Desk}

/-- A turn that starts no task, in which tasks settle. -/
theorem accounts_of_settles {answers : Nat} {operation : Operation} {answer : Answer}
    {out : Dispatcher × List Completion} (sound : k.dispatcher.Sound k.tasks)
    (h : Settles k.tasks answers k.dispatcher out)
    (responses : answers + (k.reply operation answer out).isUnknown.toNat =
      (k.reply operation answer out).isResolve.toNat)
    (inserted : (k.reply operation answer out).inserted = [])
    (withdrawn : (k.reply operation answer out).withdrawn = []) :
    (k.reply operation answer out).Accounts where
  sound := h.sound sound
  settled := by
    rw [inserted, withdrawn]
    exact h.settled
  responses := by
    rw [← responses, ← Nat.add_assoc]
    exact congrArg (· + _) h.responses
  entries := List.subset_append_of_subset_left _ h.entries
  tasks := Nat.le_refl _
  tickets ticket member _ := h.tickets member
  ended := h.ended
  numbers := Nat.le_of_eq h.nextId.symm
  new := by
    rw [inserted]
    exact List.forall_mem_nil _

/-- A turn that starts a task.  It leads over a dispatcher `e`, which has the new task and
its entry, if there is one. -/
theorem accounts_of_start {operation : Operation} {e : Dispatcher} {out : Dispatcher × List Completion}
    (h : Settles (k.tasks + 1) 0 e out) (sound : e.Sound (k.tasks + 1))
    (balance : e.settled + (k.start operation out).withdrawn.length =
      k.dispatcher.settled + (k.start operation out).inserted.length)
    (responses : e.responses = k.dispatcher.responses)
    (resolve : (k.start operation out).isResolve = false)
    (entries : e.pending ⊆ k.dispatcher.pending ++ (k.start operation out).inserted)
    (tickets : ∀ ticket ∈ e.tickets, ticket < k.tasks → ticket ∈ k.dispatcher.tickets)
    (numbers : k.dispatcher.nextId ≤ e.nextId)
    (new : ∀ p ∈ (k.start operation out).inserted, k.dispatcher.nextId ≤ p.id ∧ p.id < e.nextId) :
    (k.start operation out).Accounts where
  sound := h.sound sound
  settled := (congrArg (· + _) h.settled).trans balance
  responses := by
    rw [resolve]
    exact h.responses.trans responses
  entries := List.Subset.trans h.entries entries
  tasks := Nat.le_succ _
  tickets ticket member := tickets ticket (h.tickets member)
  ended := h.ended
  numbers := Nat.le_trans numbers (Nat.le_of_eq h.nextId.symm)
  new p member := ⟨(new p member).1, Nat.lt_of_lt_of_eq (new p member).2 h.nextId.symm⟩

theorem accounts_enqueue (sound : k.dispatcher.Sound k.tasks) {operation : Operation} (item : Item)
    (inserted : (k.start operation (k.dispatcher.enqueue k.tasks item)).inserted = [])
    (withdrawn : (k.start operation (k.dispatcher.enqueue k.tasks item)).withdrawn = [])
    (resolve : (k.start operation (k.dispatcher.enqueue k.tasks item)).isResolve = false) :
    (k.start operation (k.dispatcher.enqueue k.tasks item)).Accounts := by
  obtain ⟨channel, completions, frame, line, own⟩ := enqueue_frame k.dispatcher k.tasks item
  have later :=
    (sound.later (Nat.le_refl _)).channel (Nat.lt_succ_self _) (fun _ => sound.ticket_new) line
  have ended : ∀ c ∈ completions, c.ticket < k.tasks + 1 ∧ c.ticket ∉ k.dispatcher.tickets := by
    intro c member
    rw [own c member]
    exact ⟨Nat.lt_succ_self _, sound.ticket_new⟩
  rw [frame] at inserted withdrawn resolve ⊢
  refine accounts_of_start (settles_of_sends later.matched (List.Subset.refl _) ended) later ?_ rfl
    resolve ?_ (fun _ member _ => member) (Nat.le_refl _) ?_
  · rw [inserted, withdrawn]
    rfl
  · exact List.subset_append_left _ _
  · rw [inserted]
    exact List.forall_mem_nil _

theorem filter_strands {t : Turn} (open_ : ∀ c ∈ t.completions, c.isWriterClosed = false)
    (pending : List Pending) : pending.filter t.strands = [] := by
  refine List.filter_eq_nil_iff.mpr fun p _ => ?_
  simp only [strands, List.any_eq_true, not_exists, not_and]
  intro c member
  simp [open_ c member]

section Send

variable (method : String) (params : Option Value) (timeout : Nat) (out : Dispatcher × List Completion)

theorem inserted_of_refusal {reason : String} (refusal : k.dispatcher.refusal = some reason) :
    (k.start (.send method params timeout) out).inserted = [] := by
  simp [inserted, start, refusal]

theorem inserted_of_open (refusal : k.dispatcher.refusal = none) :
    (k.start (.send method params timeout) out).inserted =
      [⟨k.dispatcher.nextId, method, k.tasks⟩] := by
  simp [inserted, start, refusal]

theorem accounts_send_refusal (sound : k.dispatcher.Sound k.tasks) {reason : String}
    (refusal : k.dispatcher.refusal = some reason) :
    (k.start (.send method params timeout) ({ k.dispatcher with nextId := k.dispatcher.nextId + 1 },
      [⟨k.tasks, .error (.connectionFailed reason)⟩])).Accounts := by
  have later := sound.later (Nat.le_succ _)
  have inserted := inserted_of_refusal method params timeout ({ k.dispatcher with
    nextId := k.dispatcher.nextId + 1 }, [⟨k.tasks, .error (.connectionFailed reason)⟩]) refusal
  refine accounts_of_start (settles_of_sends later.matched (List.Subset.refl _) ?_) later ?_ rfl rfl
    (List.subset_append_left _ _) (fun _ member _ => member) (Nat.le_succ _) ?_
  · intro c member
    obtain rfl := List.mem_singleton.mp member
    exact ⟨Nat.lt_succ_self _, sound.ticket_new⟩
  · have none : ∀ d, (k.start (.send method params timeout)
        (d, [⟨k.tasks, .error (.connectionFailed reason)⟩])).withdrawn = [] := by
      refine fun d => filter_strands (fun c member => ?_) _
      obtain rfl := List.mem_singleton.mp member
      rfl
    rw [none, inserted]
    rfl
  · rw [inserted]
    exact List.forall_mem_nil _

theorem accounts_enroll (refusal : k.dispatcher.refusal = none) {channel : Channel}
    (sound : Sound (k.tasks + 1) { k.dispatcher.enroll k.tasks method timeout with channel })
    (h : Settles (k.tasks + 1) 0 { k.dispatcher.enroll k.tasks method timeout with channel } out)
    (served : ∀ c ∈ out.2, c.isWriterClosed = false) :
    (k.start (.send method params timeout) out).Accounts := by
  have inserted := inserted_of_open method params timeout out refusal
  refine accounts_of_start h sound ?_ rfl rfl ?_ ?_ (Nat.le_succ _) ?_
  · have none : (k.start (.send method params timeout) out).withdrawn = [] := filter_strands served _
    rw [none, inserted]
    exact settled_of_stats rfl List.length_append
  · rw [inserted]
    exact List.Subset.refl _
  · intro ticket member old
    rw [Dispatcher.tickets, enroll, List.map_append] at member
    obtain known | new := List.mem_append.mp member
    · exact known
    · exact absurd (List.mem_singleton.mp new) (Nat.ne_of_lt old)
  · intro p member
    rw [inserted] at member
    obtain rfl := List.mem_singleton.mp member
    exact ⟨Nat.le_refl _, Nat.lt_succ_self _⟩

theorem accounts_send_closed (sound : k.dispatcher.Sound k.tasks)
    (refusal : k.dispatcher.refusal = none) :
    (k.start (.send method params timeout) ((k.dispatcher.enroll k.tasks method timeout).cancel k.tasks,
      [⟨k.tasks, .error .writerClosed⟩])).Accounts := by
  have later := (sound.enroll method timeout).cancel k.tasks
  rw [cancel_enroll sound] at later ⊢
  have inserted := fun out => inserted_of_open method params timeout out refusal
  have withdrawn : ∀ d, (k.start (.send method params timeout)
      (d, [⟨k.tasks, .error .writerClosed⟩])).withdrawn = [⟨k.dispatcher.nextId, method, k.tasks⟩] := by
    intro d
    have strands : ∀ p, (k.start (.send method params timeout)
        (d, [⟨k.tasks, .error .writerClosed⟩])).strands p = decide (k.tasks = p.ticket) := by
      intro p
      simp [Turn.strands, start, Completion.isWriterClosed]
    have others : k.dispatcher.pending.filter (k.start (.send method params timeout)
        (d, [⟨k.tasks, .error .writerClosed⟩])).strands = [] := by
      refine List.filter_eq_nil_iff.mpr fun p member => ?_
      rw [strands]
      simpa using Nat.ne_of_gt (sound.matched.entry_given member)
    change (k.dispatcher.pending ++ _).filter _ = _
    rw [List.filter_append, others, inserted, List.nil_append, List.filter_cons_of_pos, List.filter_nil]
    simp [strands]
  refine accounts_of_start (settles_of_sends later.matched (List.Subset.refl _) ?_) later ?_ rfl rfl
    (List.subset_append_left _ _) (fun _ member _ => member) (Nat.le_succ _) ?_
  · intro c member
    obtain rfl := List.mem_singleton.mp member
    exact ⟨Nat.lt_succ_self _, sound.ticket_new⟩
  · rw [withdrawn, inserted]
    rfl
  · intro p member
    rw [inserted] at member
    obtain rfl := List.mem_singleton.mp member
    exact ⟨Nat.le_refl _, Nat.lt_succ_self _⟩

theorem accounts_send (sound : k.dispatcher.Sound k.tasks) :
    (k.turn (.send method params timeout)).Accounts := by
  change (k.start _ (k.dispatcher.send k.tasks method params timeout)).Accounts
  rw [send]
  split
  · next reason refusal => exact accounts_send_refusal method params timeout sound refusal
  next refusal =>
  have enrolled := sound.enroll method timeout
  have message : Item.message (request k.dispatcher.nextId method params) = .close →
      k.tasks ∉ (k.dispatcher.enroll k.tasks method timeout).tickets := nofun
  have line := push_waiting k.dispatcher.channel k.tasks
    (.message (request k.dispatcher.nextId method params))
  dsimp only
  split
  · exact accounts_send_closed method params timeout sound refusal
  · next channel pushed =>
    rw [pushed] at line
    have placed := enrolled.channel (Nat.lt_succ_self _) message line
    exact accounts_enroll method params timeout _ refusal placed (.refl placed.matched) (List.forall_mem_nil _)
  · next channel pushed =>
    rw [pushed] at line
    have placed := enrolled.channel (Nat.lt_succ_self _) message line
    exact accounts_enroll method params timeout _ refusal placed
      (arrive_settles placed.matched (Nat.lt_succ_self _))
      (arrive_not_writerClosed (send?_enroll sound method timeout) rfl)

end Send

theorem accounts_cancel (sound : k.dispatcher.Sound k.tasks) (ticket : Ticket) :
    (k.turn (.cancel ticket)).Accounts where
  sound := sound.cancel ticket
  settled := by
    exact settled_of_stats rfl
      (length_filter_not_add (fun p : Pending => p.ticket = ticket) k.dispatcher.pending)
  responses := rfl
  entries := List.subset_append_of_subset_left _ (List.filter_subset_self _)
  tasks := Nat.le_refl _
  tickets t member _ := tickets_without ticket _ member
  ended := List.forall_mem_nil _
  numbers := Nat.le_refl _
  new := List.forall_mem_nil _

/-- When the writer goes away, the entries of the requests in line are withdrawn. -/
theorem withdrawn_dropWriter (sound : k.dispatcher.Sound k.tasks) :
    (k.turn .dropWriter).withdrawn = k.dispatcher.pending.filter fun p =>
      p.ticket ∈ k.dispatcher.channel.waiting.map Prod.fst := by
  have left := dropWriter_strands k.dispatcher
  change (k.dispatcher.pending ++ []).filter _ = _
  rw [List.append_nil]
  refine List.filter_congr fun p member => ?_
  rw [Bool.eq_iff_iff, decide_eq_true_iff, Turn.strands, List.any_eq_true]
  constructor
  · rintro ⟨c, ended, own⟩
    rw [Bool.and_eq_true, decide_eq_true_iff] at own
    rw [← left.completions, ← own.1]
    exact List.mem_map_of_mem ended
  · intro inLine
    obtain ⟨w, waits, own⟩ := List.mem_map.mp inLine
    obtain ⟨s, task, _, rfl⟩ := sound.matched.task_of_entry member
    have request : w.2 ≠ .close := fun item =>
      (sound.line w waits).2 item (own ▸ List.mem_map_of_mem task)
    obtain ⟨c, ended, same, closed⟩ := left.closed w waits request
    exact ⟨c, ended, by simp [same, own, closed]⟩

theorem accounts_dropWriter (sound : k.dispatcher.Sound k.tasks) :
    (k.turn .dropWriter).Accounts := by
  have left := dropWriter_strands k.dispatcher
  exact {
    sound := {
      matched := left.matched sound.matched
      line := fun w member => absurd (left.waiting member) List.not_mem_nil }
    settled := by
      rw [withdrawn_dropWriter sound]
      refine settled_of_stats left.stats ?_
      have parts := length_filter_not_add
        (fun p : Pending => p.ticket ∈ k.dispatcher.channel.waiting.map Prod.fst) k.dispatcher.pending
      rw [← left.pending] at parts
      exact parts
    responses := congrArg (fun s => s.resolved + s.late) left.stats
    entries := by
      refine List.subset_append_of_subset_left _ ?_
      exact left.pending ▸ List.filter_subset_self _
    tasks := Nat.le_refl _
    tickets := fun ticket member _ => left.tickets member
    ended := by
      intro c member
      have inLine : c.ticket ∈ k.dispatcher.channel.waiting.map Prod.fst :=
        left.completions ▸ List.mem_map_of_mem member
      obtain ⟨w, waits, own⟩ := List.mem_map.mp inLine
      rw [← own]
      exact ⟨(sound.line w waits).1, left.gone w waits⟩
    numbers := Nat.le_of_eq left.nextId.symm
    new := List.forall_mem_nil _ }

theorem cancelled_gone {operation : Operation} {ticket : Ticket}
    (h : (k.turn operation).operation = .cancel ticket) :
    ticket ∉ (k.turn operation).after.dispatcher.tickets := by
  cases operation with
  | cancel t =>
    cases h
    exact not_mem_without ticket k.dispatcher.sends
  | _ => cases h

theorem accounts (sound : k.dispatcher.Sound k.tasks) (operation : Operation) :
    (k.turn operation).Accounts := by
  cases operation with
  | send method params timeout => exact accounts_send method params timeout sound
  | notify method params => exact accounts_enqueue sound _ rfl rfl rfl
  | sendRaw frame => exact accounts_enqueue sound _ rfl rfl rfl
  | closeWriter => exact accounts_enqueue sound _ rfl rfl rfl
  | trySendRaw frame => exact accounts_of_settles sound (tryEnqueue_settles sound frame) rfl rfl rfl
  | cancel ticket => exact accounts_cancel sound ticket
  | resolve id body =>
    refine accounts_of_settles sound (resolve_settles sound id body) ?_ rfl rfl
    simp only [isUnknown, isResolve, reply]
    cases (k.dispatcher.resolve id body).1 <;> rfl
  | failAll reason failure =>
    exact accounts_of_settles sound (failAll_settles sound reason failure) rfl rfl rfl
  | take => exact accounts_of_settles sound (takeItem_settles sound) rfl rfl rfl
  | dropWriter => exact accounts_dropWriter sound
  | advance milliseconds =>
    exact accounts_of_settles sound (advanceTo_settles sound _) rfl rfl rfl

end Desk

/-! ## Runs -/

/-- The books of a run: what was put into the table, what came of it, and which tasks
have ended. -/
structure Balanced (turns : List Turn) (k : Desk) : Prop where
  sound : k.dispatcher.Sound k.tasks
  settled : k.dispatcher.settled + (turns.flatMap Turn.withdrawn).length =
    (turns.flatMap Turn.inserted).length
  responses : k.dispatcher.responses + turns.countP Turn.isUnknown = turns.countP Turn.isResolve
  entries : k.dispatcher.pending ⊆ turns.flatMap Turn.inserted
  ended : ∀ t ∈ turns, ∀ c ∈ t.completions, c.ticket < k.tasks ∧ c.ticket ∉ k.dispatcher.tickets
  past : ∀ t ∈ turns, t.before.tasks ≤ k.tasks
  cancelled : ∀ t ∈ turns, ∀ ticket, t.operation = .cancel ticket → ticket < t.before.tasks →
    ticket ∉ k.dispatcher.tickets
  numbers : ((turns.flatMap Turn.inserted).map Pending.id).Nodup
  given : ∀ p ∈ turns.flatMap Turn.inserted, p.id < k.dispatcher.nextId

theorem Balanced.fresh (capacity : Nat) : Balanced [] (.fresh capacity) where
  sound := ⟨.fresh, List.forall_mem_nil _⟩
  settled := rfl
  responses := rfl
  entries := List.Subset.refl _
  ended := List.forall_mem_nil _
  past := List.forall_mem_nil _
  cancelled := List.forall_mem_nil _
  numbers := .nil
  given := List.forall_mem_nil _

theorem nodup_inserted (t : Turn) : (t.inserted.map Pending.id).Nodup := by
  rw [Turn.inserted]
  split
  · split
    · exact List.nodup_singleton _
    · exact .nil
  · exact .nil

theorem countP_turn (p : Turn → Bool) (turns : List Turn) (t : Turn) :
    (turns ++ [t]).countP p = turns.countP p + (p t).toNat := by
  rw [List.countP_append, List.countP_singleton]
  cases p t <;> rfl

theorem flatMap_turn {α : Type} (f : Turn → List α) (turns : List Turn) (t : Turn) :
    (turns ++ [t]).flatMap f = turns.flatMap f ++ f t := by
  rw [List.flatMap_append, List.flatMap_singleton]

theorem Balanced.turn {turns : List Turn} {t : Turn} (h : Balanced turns t.before) (books : t.Accounts)
    (gone : ∀ ticket, t.operation = .cancel ticket → ticket ∉ t.after.dispatcher.tickets) :
    Balanced (turns ++ [t]) t.after where
  sound := books.sound
  settled := by
    have old := h.settled
    have new := books.settled
    rw [flatMap_turn, flatMap_turn, List.length_append, List.length_append]
    omega
  responses := by
    have old := h.responses
    have new := books.responses
    rw [countP_turn, countP_turn]
    omega
  entries := by
    rw [flatMap_turn]
    refine List.Subset.trans books.entries (List.append_subset.mpr ⟨?_, List.subset_append_right _ _⟩)
    exact List.subset_append_of_subset_left _ h.entries
  ended u member c completion := by
    obtain old | new := List.mem_append.mp member
    · obtain ⟨given, gone⟩ := h.ended u old c completion
      exact ⟨Nat.lt_of_lt_of_le given books.tasks, fun inside => gone (books.tickets _ inside given)⟩
    · rw [List.mem_singleton.mp new] at completion
      exact books.ended c completion
  past u member := by
    obtain old | new := List.mem_append.mp member
    · exact Nat.le_trans (h.past u old) books.tasks
    · rw [List.mem_singleton.mp new]
      exact books.tasks
  cancelled u member ticket cancels started inside := by
    obtain old | new := List.mem_append.mp member
    · have given := Nat.lt_of_lt_of_le started (h.past u old)
      exact h.cancelled u old ticket cancels started (books.tickets ticket inside given)
    · rw [List.mem_singleton.mp new] at cancels
      exact gone ticket cancels inside
  numbers := by
    rw [flatMap_turn, List.map_append]
    refine List.nodup_append.mpr ⟨h.numbers, nodup_inserted t, ?_⟩
    rintro _ old _ new rfl
    obtain ⟨p, earlier, same⟩ := List.mem_map.mp old
    obtain ⟨q, later, id⟩ := List.mem_map.mp new
    have below := h.given p earlier
    have above := (books.new q later).1
    omega
  given p member := by
    rw [flatMap_turn] at member
    obtain old | new := List.mem_append.mp member
    · exact Nat.lt_of_lt_of_le (h.given p old) books.numbers
    · exact (books.new p new).2

theorem Run.balanced {capacity : Nat} {turns : List Turn} {k : Desk} (run : Run capacity turns k) :
    Balanced turns k := by
  induction run with
  | start => exact .fresh capacity
  | @turn turns k operation _ ih =>
    have before : (k.turn operation).before = k := by cases operation <;> rfl
    exact .turn (before.symm ▸ ih) (Desk.accounts ih.sound operation) fun _ => Desk.cancelled_gone

/-- Every request is accounted for exactly once.  What was ever put into the table is
resolved, timed out, failed, still pending or withdrawn with its task; every response is
counted as resolved or late, or was for an unknown number; and every entry in the table is
that of one request, whose task is there, has not ended and was not cancelled. -/
theorem requests_accounted {capacity : Nat} {turns : List Turn} {k : Desk}
    (run : Run capacity turns k) :
    (turns.flatMap Turn.inserted).length =
      k.dispatcher.stats.resolved + k.dispatcher.stats.timedOut + k.dispatcher.stats.failed +
        k.dispatcher.pending.length + (turns.flatMap Turn.withdrawn).length ∧
    turns.countP Turn.isResolve =
      k.dispatcher.stats.resolved + k.dispatcher.stats.late + turns.countP Turn.isUnknown ∧
    (k.dispatcher.pending.map Pending.id).Nodup ∧
    ∀ p ∈ k.dispatcher.pending,
      (turns.flatMap Turn.inserted).filter (fun q => q.id = p.id) = [p] ∧
      (∃ s, k.dispatcher.sends.filter (fun s => s.id = p.id) = [s] ∧ s.entry = p) ∧
      ∀ t ∈ turns, (∀ c ∈ t.completions, c.ticket ≠ p.ticket) ∧
        (t.operation = .cancel p.ticket → t.before.tasks ≤ p.ticket) := by
  have books := run.balanced
  have matched := books.sound.matched
  refine ⟨books.settled.symm, books.responses.symm, matched.entry_ids, fun p member => ?_⟩
  obtain ⟨s, task, _, rfl⟩ := matched.task_of_entry member
  have live : s.ticket ∈ k.dispatcher.tickets := List.mem_map_of_mem task
  refine ⟨filter_key books.numbers (books.entries member), ⟨s, filter_key matched.ids task, rfl⟩,
    fun t turn => ⟨fun c ended same => ?_, fun cancels => ?_⟩⟩
  · exact (books.ended t turn c ended).2 (same ▸ live)
  · exact Nat.le_of_not_lt fun started => books.cancelled t turn s.ticket cancels started live

/-- Of four requests one is resolved, one is cancelled and one stranded while they wait
for room, and the last, which is refused room, is withdrawn at once. -/
theorem requests_accounted_full_channel : ∃ turns k, Run 1 turns k ∧
    (turns.flatMap Turn.withdrawn).length = 3 ∧ k.dispatcher.stats.resolved = 1 ∧
    (turns.flatMap Turn.inserted).length =
      k.dispatcher.stats.resolved + k.dispatcher.stats.timedOut + k.dispatcher.stats.failed +
        k.dispatcher.pending.length + (turns.flatMap Turn.withdrawn).length := by
  have run := (Run.start : Run 1 [] _).append [.send "a" none 5, .send "b" none 5, .send "c" none 5,
    .cancel 1, .resolve 1 .null, .dropWriter, .send "d" none 5]
  exact ⟨_, _, run, rfl, rfl, (requests_accounted run).1⟩

end BlockDiscovery.Session
