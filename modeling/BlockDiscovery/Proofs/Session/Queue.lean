import BlockDiscovery.Proofs.Session.Line
import Mathlib.Data.List.Flatten
import Mathlib.Data.List.Forall2

/-! # The order in the channel

As long as the writer is there, the channel passes on just what is offered to it and accepted,
in the order in which it was offered, also when a task has to wait for room first.  What
one turn does to the channel is listed by `Moves`; `Orderly` is what every turn keeps.
-/

namespace BlockDiscovery.Session

open BlockDiscovery.Json BlockDiscovery.Protocol Dispatcher

/-! ## What is offered and what is taken -/

namespace Turn

/-- The item that a turn offers to the channel. -/
def offer? (t : Turn) : Option Item :=
  match t.operation with
  | .trySendRaw frame => some (.message frame)
  | _ => t.offered?

/-- The item that the writer takes in a turn. -/
def taken? (t : Turn) : Option Item :=
  match t.answer with
  | .item item => item
  | _ => none

/-- Whether a turn has put its item into a place: its frame was accepted at once, or its task is
one of the given. -/
def isPlaced (tickets : List Ticket) (t : Turn) : Bool :=
  match t.answer with
  | .tried (.ok ()) => true
  | .task ticket => decide (ticket ∈ tickets)
  | _ => false

end Turn

/-- The turns whose items were accepted: they have entered the channel, in the same turn or in
a later one. -/
def accepted (turns : List Turn) : List Turn :=
  turns.filter (Turn.isPlaced (turns.flatMap Turn.entered))

/-! ## One turn -/

/-- What a turn does to the channel while the writer is there. -/
inductive Moves (k : Desk) (t : Turn) : Prop
  | rests (channel : t.after.dispatcher.channel = k.dispatcher.channel) (taken : t.taken? = none)
      (entered : t.entered = []) (absent : ∀ tickets, k.tasks ∉ tickets → t.isPlaced tickets = false)
      (busy : ∀ item, t.offer? = some item → t.answer = .tried (.error .writerBusy))
  | enters (item : Item) (room : k.dispatcher.channel.hasRoom = true)
      (channel : t.after.dispatcher.channel =
        { k.dispatcher.channel with items := k.dispatcher.channel.items ++ [item] })
      (offer : t.offer? = some item) (taken : t.taken? = none) (entered : t.entered ⊆ [k.tasks])
      (placed : ∀ tickets, t.isPlaced (tickets ++ t.entered) = true)
  | waits (item : Item) (room : k.dispatcher.channel.hasRoom = false)
      (channel : t.after.dispatcher.channel =
        { k.dispatcher.channel with waiting := k.dispatcher.channel.waiting ++ [(k.tasks, item)] })
      (offer : t.offer? = some item) (taken : t.taken? = none) (entered : t.entered = [])
      (answer : t.answer = .task k.tasks)
  | leaves (ticket : Ticket) (operation : t.operation = .cancel ticket)
      (channel : t.after.dispatcher.channel = k.dispatcher.channel.withdraw ticket)
      (taken : t.taken? = none) (entered : t.entered = []) (answer : t.answer = .nothing)
  | takes (item : Item) (rest : List Item) (items : k.dispatcher.channel.items = item :: rest)
      (waiting : k.dispatcher.channel.waiting = [])
      (channel : t.after.dispatcher.channel = { k.dispatcher.channel with items := rest })
      (taken : t.taken? = some item) (entered : t.entered = []) (operation : t.operation = .take)
      (answer : t.answer = .item (some item))
  | passes (item : Item) (rest : List Item) (ticket : Ticket) (next : Item) (line : List (Ticket × Item))
      (items : k.dispatcher.channel.items = item :: rest)
      (waiting : k.dispatcher.channel.waiting = (ticket, next) :: line)
      (channel : t.after.dispatcher.channel =
        { k.dispatcher.channel with items := rest ++ [next], waiting := line })
      (taken : t.taken? = some item) (entered : t.entered = [ticket]) (operation : t.operation = .take)
      (answer : t.answer = .item (some item))

namespace Channel

variable {c : Channel}

theorem push_open (isOpen : c.isOpen = true) (ticket : Ticket) (item : Item) :
    c.hasRoom = true ∧ c.push ticket item = (.entered, { c with items := c.items ++ [item] }) ∨
    c.hasRoom = false ∧ c.push ticket item = (.waits, { c with waiting := c.waiting ++ [(ticket, item)] }) := by
  rw [push, isOpen]
  cases room : c.hasRoom with
  | true => exact .inl ⟨rfl, rfl⟩
  | false => exact .inr ⟨rfl, rfl⟩

theorem tryPush_open (isOpen : c.isOpen = true) (item : Item) :
    c.hasRoom = true ∧ c.tryPush item = (.entered, { c with items := c.items ++ [item] }) ∨
    c.hasRoom = false ∧ c.tryPush item = (.waits, c) := by
  rw [tryPush, isOpen]
  cases room : c.hasRoom with
  | true => exact .inl ⟨rfl, rfl⟩
  | false => exact .inr ⟨rfl, rfl⟩

theorem mem_withdraw {u ticket : Ticket} : u ∈ (c.withdraw ticket).waiting.map Prod.fst ↔
    u ≠ ticket ∧ u ∈ c.waiting.map Prod.fst := by
  simp only [withdraw, List.mem_map, List.mem_filter, decide_eq_true_eq]
  constructor
  · rintro ⟨w, ⟨inside, other⟩, rfl⟩
    exact ⟨other, w, inside, rfl⟩
  · rintro ⟨other, w, inside, rfl⟩
    exact ⟨w, ⟨inside, other⟩, rfl⟩

end Channel

namespace Desk

variable {k : Desk}

theorem moves_rests {t : Turn} (channel : t.after.dispatcher.channel = k.dispatcher.channel)
    (taken : t.taken? = none) (entered : t.entered = []) (offer : t.offer? = none)
    (absent : ∀ tickets, k.tasks ∉ tickets → t.isPlaced tickets = false) : Moves k t :=
  .rests channel taken entered absent fun item offers => by cases offer.symm.trans offers

/-- A turn that starts a task which offers an item. -/
theorem moves_start {operation : Operation} {out : Dispatcher × List Completion} {item : Item}
    (offered : (k.start operation out).offered? = some item) (kind : operation.startsTask = true)
    (isOpen : k.dispatcher.channel.isOpen = true)
    (channel : out.1.channel = (k.dispatcher.channel.push k.tasks item).2) : Moves k (k.start operation out) := by
  have entered (u : Ticket) : u ∈ (k.start operation out).entered ↔
      u = k.tasks ∧ (k.dispatcher.channel.push k.tasks item).1 = .entered :=
    mem_entered_of_offered offered kind
  have offer : (k.start operation out).offer? = some item := by
    rw [Turn.offer?]
    split
    · next frame same =>
      change operation = _ at same
      rw [same] at kind
      cases kind
    · exact offered
  obtain ⟨room, pushed⟩ | ⟨room, pushed⟩ := Channel.push_open isOpen k.tasks item
  · rw [pushed] at entered channel
    refine .enters item room channel offer rfl (fun u inside => ?_) fun tickets => ?_
    · exact List.mem_singleton.mpr ((entered u).mp inside).1
    · exact decide_eq_true (List.mem_append_right _ ((entered k.tasks).mpr ⟨rfl, rfl⟩))
  · rw [pushed] at entered channel
    refine .waits item room channel offer rfl (List.eq_nil_iff_forall_not_mem.mpr fun u inside => ?_) rfl
    cases ((entered u).mp inside).2

theorem enqueue_channel (d : Dispatcher) (isOpen : d.channel.isOpen = true) (ticket : Ticket) (item : Item) :
    (d.enqueue ticket item).1.channel = (d.channel.push ticket item).2 := by
  obtain ⟨room, pushed⟩ | ⟨room, pushed⟩ := Channel.push_open isOpen ticket item
  · simp [enqueue, pushed]
  · simp [enqueue, pushed]

theorem send_channel (d : Dispatcher) (isOpen : d.channel.isOpen = true) (refusal : d.refusal = none)
    (ticket : Ticket) (method : String) (params : Option Value) (timeout : Nat) :
    (d.send ticket method params timeout).1.channel =
      (d.channel.push ticket (.message (request d.nextId method params))).2 := by
  obtain ⟨room, pushed⟩ | ⟨room, pushed⟩ :=
    Channel.push_open isOpen ticket (.message (request d.nextId method params))
  · rw [send_of_entered refusal pushed, arrive_frame, pushed]
  · rw [send_of_waits refusal pushed, pushed]

theorem moves_send (isOpen : k.dispatcher.channel.isOpen = true) (method : String)
    (params : Option Value) (timeout : Nat) : Moves k (k.turn (.send method params timeout)) := by
  cases refusal : k.dispatcher.refusal with
  | none =>
    have offered : (k.turn (.send method params timeout)).offered? =
        some (.message (request k.dispatcher.nextId method params)) := by
      change (if k.dispatcher.refusal.isNone then _ else _) = _
      rw [refusal]
      rfl
    exact moves_start offered rfl isOpen (send_channel _ isOpen refusal _ _ _ _)
  | some reason =>
    have offered : (k.turn (.send method params timeout)).offered? = none := by
      change (if k.dispatcher.refusal.isNone then _ else _) = _
      rw [refusal]
      rfl
    refine moves_rests ?_ rfl ?_ offered fun tickets new => decide_eq_false new
    · change (k.dispatcher.send k.tasks method params timeout).1.channel = _
      rw [send_of_refusal refusal]
    · simp [Turn.entered, offered]

theorem moves_take : Moves k (k.turn .take) := by
  have channel := takeItem_channel k.dispatcher
  have entered : (k.turn .take).entered = k.dispatcher.channel.take.2.1.toList := rfl
  have taken : k.dispatcher.takeItem.1 = k.dispatcher.channel.take.1 := by
    rw [takeItem]
    dsimp only
    split <;> rfl
  have answer : (k.turn .take).answer = .item k.dispatcher.channel.take.1 := congrArg Answer.item taken
  have told : (k.turn .take).taken? = k.dispatcher.channel.take.1 := taken
  cases items : k.dispatcher.channel.items with
  | nil =>
    have nothing : k.dispatcher.channel.take = (none, none, k.dispatcher.channel) := by
      rw [Channel.take, items]
    rw [nothing] at channel entered told
    exact moves_rests channel told entered rfl fun _ _ => rfl
  | cons item rest =>
    cases waiting : k.dispatcher.channel.waiting with
    | nil =>
      have out : k.dispatcher.channel.take = (some item, none, { k.dispatcher.channel with items := rest }) := by
        simp [Channel.take, items, waiting]
      rw [out] at channel entered told answer
      exact .takes item rest items waiting channel told entered rfl answer
    | cons w line =>
      obtain ⟨ticket, next⟩ := w
      have out : k.dispatcher.channel.take = (some item, some ticket,
          { k.dispatcher.channel with items := rest ++ [next], waiting := line }) := by
        simp [Channel.take, items, waiting]
      rw [out] at channel entered told answer
      exact .passes item rest ticket next line items waiting channel told entered rfl answer

/-- The moves of the channel.  Operations that answer requests or let time pass leave it alone. -/
theorem moves (isOpen : k.dispatcher.channel.isOpen = true) {operation : Operation}
    (there : operation ≠ .dropWriter) : Moves k (k.turn operation) := by
  cases operation with
  | send method params timeout => exact moves_send isOpen method params timeout
  | notify method params => exact moves_start rfl rfl isOpen (enqueue_channel _ isOpen _ _)
  | sendRaw frame => exact moves_start rfl rfl isOpen (enqueue_channel _ isOpen _ _)
  | closeWriter => exact moves_start rfl rfl isOpen (enqueue_channel _ isOpen _ _)
  | trySendRaw frame =>
    obtain ⟨room, pushed⟩ | ⟨room, pushed⟩ := Channel.tryPush_open isOpen (.message frame)
    · have out : k.dispatcher.tryEnqueue frame = (.ok (), { k.dispatcher with
          channel := { k.dispatcher.channel with
            items := k.dispatcher.channel.items ++ [.message frame] } }) := by
        simp [tryEnqueue, pushed]
      refine .enters (.message frame) room ?_ rfl rfl (List.nil_subset _) fun tickets => ?_
      · exact congrArg (fun out => out.2.channel) out
      · change Turn.isPlaced _ (k.reply _ (.tried (k.dispatcher.tryEnqueue frame).1) _) = true
        rw [out]
        rfl
    · have out : k.dispatcher.tryEnqueue frame = (.error .writerBusy, k.dispatcher) := by
        simp [tryEnqueue, pushed]
      refine .rests (congrArg (fun out => out.2.channel) out) rfl rfl (fun tickets _ => ?_) fun item _ => ?_
      · change Turn.isPlaced _ (k.reply _ (.tried (k.dispatcher.tryEnqueue frame).1) _) = false
        rw [out]
        rfl
      · exact congrArg (fun out => Answer.tried out.1) out
  | cancel ticket => exact .leaves ticket rfl rfl rfl rfl rfl
  | resolve id body => exact moves_rests (resolve_channel _ _ _) rfl rfl rfl fun _ _ => rfl
  | failAll reason failure =>
    refine moves_rests ?_ rfl rfl rfl fun _ _ => rfl
    change (k.dispatcher.failAll reason failure).2.1.channel = _
    rw [failAll, deliverAll_frame]
  | take => exact moves_take
  | dropWriter => exact absurd rfl there
  | advance ms =>
    refine moves_rests ?_ rfl rfl rfl fun _ _ => rfl
    change (k.dispatcher.advanceTo (k.dispatcher.clock + ms)).1.channel = _
    rw [advanceTo, expireDue_frame]

end Desk

theorem Moves.frame {k : Desk} {t : Turn} (moves : Moves k t) :
    t.after.dispatcher.channel.isOpen = k.dispatcher.channel.isOpen ∧
      t.after.dispatcher.channel.capacity = k.dispatcher.channel.capacity := by
  cases moves with
  | rests channel | enters _ _ channel | waits _ _ channel | leaves _ _ channel | takes _ _ _ _ channel
    | passes _ _ _ _ _ _ _ channel =>
    rw [channel]
    exact ⟨rfl, rfl⟩

/-! ## Places -/

/-- The tasks that have entered the channel or stand in line. -/
def holders (turns : List Turn) (c : Channel) : List Ticket :=
  turns.flatMap Turn.entered ++ c.waiting.map Prod.fst

/-- A turn whose task stands in line with the item of the turn. -/
def Stands (w : Ticket × Item) (t : Turn) : Prop := t.answer = .task w.1 ∧ t.offer? = some w.2

/-- The order of a channel after some turns: first the turns whose items were accepted, then those
whose tasks stand in line. -/
structure Orderly (capacity : Nat) (turns : List Turn) (c : Channel) (inside waiting : List Turn) : Prop where
  isOpen : c.isOpen = true
  size : c.capacity = capacity
  bound : c.items.length ≤ capacity
  full : c.waiting ≠ [] → c.items.length = capacity
  kept : turns.filter (Turn.isPlaced (holders turns c)) = inside ++ waiting
  placed : ∀ t ∈ inside, t.isPlaced (turns.flatMap Turn.entered) = true
  line : List.Forall₂ Stands c.waiting waiting
  items : inside.map Turn.offer? = (turns.filterMap Turn.taken? ++ c.items).map some
  apart : ∀ u ∈ c.waiting.map Prod.fst, u ∉ turns.flatMap Turn.entered

theorem Turn.isPlaced_congr {t : Turn} {a b : List Ticket}
    (same : ∀ u, t.answer = .task u → (u ∈ a ↔ u ∈ b)) : t.isPlaced a = t.isPlaced b := by
  unfold isPlaced
  split
  · rfl
  · next u answer => simp [same u answer]
  · rfl

theorem Turn.isPlaced_mono {t : Turn} {a b : List Ticket} (more : a ⊆ b) (placed : t.isPlaced a = true) :
    t.isPlaced b = true := by
  unfold isPlaced at placed ⊢
  split at placed
  · rfl
  · simpa using more (of_decide_eq_true placed)
  · cases placed

theorem Turn.isPlaced_task {t : Turn} {u : Ticket} (answer : t.answer = .task u) (tickets : List Ticket) :
    t.isPlaced tickets = decide (u ∈ tickets) := by
  rw [isPlaced, answer]

section Tickets

variable {capacity : Nat} {turns : List Turn} {k : Desk}

theorem Run.entered_old (run : Run capacity turns k) : ∀ u ∈ turns.flatMap Turn.entered, u < k.tasks := by
  induction run with
  | start => exact List.forall_mem_nil _
  | turn operation run ih =>
    intro u member
    rw [flatMap_turn] at member
    obtain old | new := List.mem_append.mp member
    · exact Desk.given_turn (ih u old) operation
    · exact Desk.entered_given run.balanced.sound new

theorem Run.started_old (run : Run capacity turns k) : ∀ t ∈ turns, ∀ u, t.answer = .task u → u < k.tasks := by
  induction run with
  | start => exact List.forall_mem_nil _
  | @turn turns k operation run ih =>
    intro t member u answer
    obtain old | new := List.mem_append.mp member
    · exact Desk.given_turn (ih t old u answer) operation
    · obtain rfl := List.mem_singleton.mp new
      cases operation with
      | send | notify | sendRaw | closeWriter =>
        cases answer
        exact Nat.lt_succ_self _
      | _ => cases answer

theorem Run.line_old (run : Run capacity turns k) : ∀ u ∈ k.dispatcher.line, u < k.tasks := by
  intro u member
  obtain ⟨w, inside, rfl⟩ := List.mem_map.mp member
  exact (run.balanced.sound.line w inside).1

theorem Run.holders_old (run : Run capacity turns k) : k.tasks ∉ holders turns k.dispatcher.channel := by
  intro member
  obtain entered | inside := List.mem_append.mp member
  · exact Nat.lt_irrefl _ (run.entered_old _ entered)
  · exact Nat.lt_irrefl _ (run.line_old _ inside)

end Tickets

/-! ## One turn keeps the order -/

namespace Orderly

variable {capacity : Nat} {turns inside waiting : List Turn} {k : Desk} {t : Turn}

theorem line_empty {c : Channel} (h : Orderly capacity turns c inside waiting) (room : c.hasRoom = true) :
    c.waiting = [] ∧ waiting = [] := by
  have empty : c.waiting = [] := by
    by_contra stands
    have full := h.full stands
    have less := of_decide_eq_true room
    rw [h.size] at less
    omega
  have line := h.line
  rw [empty] at line
  exact ⟨empty, List.forall₂_nil_left_iff.mp line⟩

/-- The older turns have their places as before if the same older tasks hold one. -/
theorem kept_turn (h : Orderly capacity turns k.dispatcher.channel inside waiting) (run : Run capacity turns k)
    (t : Turn) {now : List Ticket} (same : ∀ u < k.tasks, u ∈ now ↔ u ∈ holders turns k.dispatcher.channel) :
    (turns ++ [t]).filter (Turn.isPlaced now) = inside ++ waiting ++ [t].filter (Turn.isPlaced now) := by
  rw [List.filter_append, ← h.kept]
  congr 1
  refine List.filter_congr fun t member => Turn.isPlaced_congr fun u answer => ?_
  exact same u (run.started_old t member u answer)

theorem placed_turn {c : Channel} (h : Orderly capacity turns c inside waiting) (t : Turn) :
    ∀ s ∈ inside, s.isPlaced ((turns ++ [t]).flatMap Turn.entered) = true := by
  intro s member
  refine Turn.isPlaced_mono ?_ (h.placed s member)
  rw [flatMap_turn]
  exact List.subset_append_left _ _

/-- A turn that neither moves the line nor holds a place itself. -/
theorem pass_by (h : Orderly capacity turns k.dispatcher.channel inside waiting) (run : Run capacity turns k)
    {c : Channel} (same : c.waiting = k.dispatcher.channel.waiting) (entered : t.entered = [])
    (absent : ∀ tickets, k.tasks ∉ tickets → t.isPlaced tickets = false) :
    holders (turns ++ [t]) c = holders turns k.dispatcher.channel ∧
      (turns ++ [t]).filter (Turn.isPlaced (holders (turns ++ [t]) c)) = inside ++ waiting := by
  have still : holders (turns ++ [t]) c = holders turns k.dispatcher.channel := by
    rw [holders, holders, flatMap_turn, entered, same, List.append_nil]
  refine ⟨still, ?_⟩
  rw [still, h.kept_turn run t fun _ _ => Iff.rfl, List.filter_singleton, absent _ run.holders_old]
  simp

theorem rests (h : Orderly capacity turns k.dispatcher.channel inside waiting) (run : Run capacity turns k)
    (taken : t.taken? = none) (entered : t.entered = [])
    (absent : ∀ tickets, k.tasks ∉ tickets → t.isPlaced tickets = false) :
    Orderly capacity (turns ++ [t]) k.dispatcher.channel inside waiting where
  isOpen := h.isOpen
  size := h.size
  bound := h.bound
  full := h.full
  kept := (h.pass_by run rfl entered absent).2
  placed := h.placed_turn t
  line := h.line
  items := by simp [taken, h.items]
  apart u member := by
    rw [flatMap_turn, entered, List.append_nil]
    exact h.apart u member

theorem enters (h : Orderly capacity turns k.dispatcher.channel inside waiting) (run : Run capacity turns k)
    {item : Item} (room : k.dispatcher.channel.hasRoom = true) (offer : t.offer? = some item)
    (taken : t.taken? = none) (entered : t.entered ⊆ [k.tasks])
    (placed : ∀ tickets, t.isPlaced (tickets ++ t.entered) = true) :
    Orderly capacity (turns ++ [t])
      { k.dispatcher.channel with items := k.dispatcher.channel.items ++ [item] } (inside ++ [t]) [] := by
  obtain ⟨empty, rfl⟩ := h.line_empty room
  have now : (turns ++ [t]).flatMap Turn.entered = turns.flatMap Turn.entered ++ t.entered := flatMap_turn ..
  have last : t.isPlaced ((turns ++ [t]).flatMap Turn.entered) = true := now ▸ placed _
  exact {
    isOpen := h.isOpen
    size := h.size
    bound := by
      have less := of_decide_eq_true room
      rw [h.size] at less
      simpa using Nat.succ_le_of_lt less
    full := fun stands => absurd empty stands
    kept := by
      rw [holders, now, empty]
      simp only [List.map_nil, List.append_nil]
      rw [h.kept_turn run t, List.filter_singleton, placed]
      · simp
      · intro u old
        have other : u ∉ t.entered := fun new => Nat.ne_of_lt old (List.mem_singleton.mp (entered new))
        simp [holders, empty, other]
    placed := List.forall_mem_append.mpr ⟨h.placed_turn t, List.forall_mem_singleton.mpr last⟩
    line := by simp [empty]
    items := by simp [h.items, offer, taken]
    apart := by simp [empty] }

theorem waits (h : Orderly capacity turns k.dispatcher.channel inside waiting) (run : Run capacity turns k)
    {item : Item} (room : k.dispatcher.channel.hasRoom = false) (offer : t.offer? = some item)
    (taken : t.taken? = none) (entered : t.entered = []) (answer : t.answer = .task k.tasks) :
    Orderly capacity (turns ++ [t])
      { k.dispatcher.channel with waiting := k.dispatcher.channel.waiting ++ [(k.tasks, item)] }
      inside (waiting ++ [t]) where
  isOpen := h.isOpen
  size := h.size
  bound := h.bound
  full _ := by
    have full := of_decide_eq_false room
    have bound := h.bound
    rw [h.size] at full
    change k.dispatcher.channel.items.length = capacity
    omega
  kept := by
    have last : t.isPlaced (holders (turns ++ [t])
        { k.dispatcher.channel with waiting := k.dispatcher.channel.waiting ++ [(k.tasks, item)] }) = true := by
      simp [Turn.isPlaced_task answer, holders]
    rw [h.kept_turn run t, List.filter_singleton, last]
    · simp
    · intro u old
      simp [holders, entered, Nat.ne_of_lt old]
  placed := h.placed_turn t
  line := List.rel_append h.line (.cons ⟨answer, offer⟩ .nil)
  items := by simp [h.items, taken]
  apart u member := by
    rw [flatMap_turn, entered, List.append_nil]
    rw [List.map_append] at member
    obtain old | new := List.mem_append.mp member
    · exact h.apart u old
    · obtain rfl := List.mem_singleton.mp new
      exact fun inside => Nat.lt_irrefl _ (run.entered_old _ inside)

theorem leaves (h : Orderly capacity turns k.dispatcher.channel inside waiting) (ticket : Ticket)
    (taken : t.taken? = none) (entered : t.entered = []) (answer : t.answer = .nothing) :
    ∃ left, Orderly capacity (turns ++ [t]) (k.dispatcher.channel.withdraw ticket) inside left := by
  generalize now : holders (turns ++ [t]) (k.dispatcher.channel.withdraw ticket) = tickets
  have fewer : tickets ⊆ holders turns k.dispatcher.channel := by
    rw [← now, holders, flatMap_turn, entered, List.append_nil]
    exact fun u holds => List.mem_append.mpr
      ((List.mem_append.mp holds).imp_right fun stands => (Channel.mem_withdraw.mp stands).2)
  have stay : ∀ s ∈ inside, s.isPlaced tickets = true := by
    intro s member
    refine Turn.isPlaced_mono ?_ (h.placed_turn t s member)
    rw [← now]
    exact List.subset_append_left _ _
  have same (w : Ticket × Item) (s : Turn) (both : w ∈ k.dispatcher.channel.waiting ∧ Stands w s) :
      decide (w.1 ≠ ticket) = true ↔ s.isPlaced tickets = true := by
    have stands : w.1 ∈ k.dispatcher.channel.waiting.map Prod.fst := List.mem_map_of_mem both.1
    rw [Turn.isPlaced_task both.2.1, ← now, holders, flatMap_turn, entered, List.append_nil]
    simp only [decide_eq_true_eq, List.mem_append, Channel.mem_withdraw]
    exact ⟨fun other => .inr ⟨other, stands⟩,
      fun holds => (holds.resolve_left (h.apart w.1 stands)).1⟩
  have line := List.rel_filter (fun {w s} => same w s)
    ((List.forall₂_and_left _ _).mpr ⟨fun _ member => member, h.line⟩)
  refine ⟨waiting.filter (Turn.isPlaced tickets), {
    isOpen := h.isOpen
    size := h.size
    bound := h.bound
    full := fun stands => h.full fun empty => stands (by simp [Channel.withdraw, empty])
    kept := ?_
    placed := h.placed_turn t
    line := line.imp fun _ _ both => both.2
    items := by simp [Channel.withdraw, taken, h.items]
    apart := fun u member => ?_ }⟩
  · have narrowed : turns.filter (Turn.isPlaced tickets) =
        (turns.filter (Turn.isPlaced (holders turns k.dispatcher.channel))).filter (Turn.isPlaced tickets) := by
      rw [List.filter_filter]
      refine List.filter_congr fun s _ => Bool.eq_iff_iff.mpr ?_
      rw [Bool.and_eq_true]
      exact ⟨fun placed => ⟨placed, Turn.isPlaced_mono fewer placed⟩, fun both => both.1⟩
    have absent : t.isPlaced tickets = false := by rw [Turn.isPlaced, answer]
    rw [now, List.filter_append, narrowed, h.kept, List.filter_append, List.filter_eq_self.mpr stay,
      List.filter_singleton, absent]
    simp
  · rw [flatMap_turn, entered, List.append_nil]
    exact h.apart u (Channel.mem_withdraw.mp member).2

theorem takes (h : Orderly capacity turns k.dispatcher.channel inside waiting) (run : Run capacity turns k)
    {item : Item} {rest : List Item} (items : k.dispatcher.channel.items = item :: rest)
    (empty : k.dispatcher.channel.waiting = []) (taken : t.taken? = some item) (entered : t.entered = [])
    (answer : t.answer = .item (some item)) :
    Orderly capacity (turns ++ [t]) { k.dispatcher.channel with items := rest } inside waiting where
  isOpen := h.isOpen
  size := h.size
  bound := by
    have bound := h.bound
    rw [items] at bound
    exact Nat.le_of_succ_le bound
  full stands := absurd empty stands
  kept := (h.pass_by run rfl entered fun _ _ => by rw [Turn.isPlaced, answer]).2
  placed := h.placed_turn t
  line := h.line
  items := by simp [h.items, items, taken]
  apart := by simp [empty]

theorem passes (h : Orderly capacity turns k.dispatcher.channel inside waiting) (run : Run capacity turns k)
    {item next : Item} {rest : List Item} {ticket : Ticket} {line : List (Ticket × Item)}
    (items : k.dispatcher.channel.items = item :: rest)
    (stands : k.dispatcher.channel.waiting = (ticket, next) :: line) (taken : t.taken? = some item)
    (entered : t.entered = [ticket]) (answer : t.answer = .item (some item)) :
    ∃ first others, waiting = first :: others ∧ Orderly capacity (turns ++ [t])
      { k.dispatcher.channel with items := rest ++ [next], waiting := line } (inside ++ [first]) others := by
  have order := h.line
  rw [stands] at order
  obtain ⟨first, others, ⟨told, offer⟩, behind, rfl⟩ := List.forall₂_cons_left_iff.mp order
  have now : (turns ++ [t]).flatMap Turn.entered = turns.flatMap Turn.entered ++ [ticket] := by
    rw [flatMap_turn, entered]
  have full : rest.length + 1 = capacity := by simpa [items] using h.full (by simp [stands])
  refine ⟨first, others, rfl, {
    isOpen := h.isOpen
    size := h.size
    bound := by simp [full]
    full := fun _ => by simp [full]
    kept := ?_
    placed := List.forall_mem_append.mpr ⟨h.placed_turn t, List.forall_mem_singleton.mpr ?_⟩
    line := behind
    items := by simp [h.items, items, taken, offer]
    apart := fun u member => ?_ }⟩
  · have same : holders (turns ++ [t]) { k.dispatcher.channel with items := rest ++ [next], waiting := line } =
        holders turns k.dispatcher.channel := by simp [holders, stands, entered]
    have absent (tickets : List Ticket) : t.isPlaced tickets = false := by rw [Turn.isPlaced, answer]
    rw [same, h.kept_turn run t fun _ _ => Iff.rfl, List.filter_singleton, absent]
    simp
  · rw [Turn.isPlaced_task told, now]
    simp
  · have distinct := run.chronicle.line
    rw [Dispatcher.line, stands] at distinct
    rw [now, List.mem_append, List.mem_singleton, not_or]
    refine ⟨h.apart u (by rw [stands]; exact List.mem_cons_of_mem _ member), ?_⟩
    rintro rfl
    exact (List.nodup_cons.mp distinct).1 member

theorem turn (h : Orderly capacity turns k.dispatcher.channel inside waiting) (run : Run capacity turns k)
    {operation : Operation} (there : operation ≠ .dropWriter) :
    ∃ inside waiting, Orderly capacity (turns ++ [k.turn operation])
      (k.turn operation).after.dispatcher.channel inside waiting := by
  cases Desk.moves h.isOpen there with
  | rests channel taken entered absent => exact ⟨_, _, channel ▸ h.rests run taken entered absent⟩
  | enters item room channel offer taken entered placed =>
    exact ⟨_, _, channel ▸ h.enters run room offer taken entered placed⟩
  | waits item room channel offer taken entered answer =>
    exact ⟨_, _, channel ▸ h.waits run room offer taken entered answer⟩
  | leaves ticket _ channel taken entered answer =>
    obtain ⟨left, order⟩ := h.leaves ticket taken entered answer
    exact ⟨_, left, channel ▸ order⟩
  | takes item rest items waiting channel taken entered _ answer =>
    exact ⟨_, _, channel ▸ h.takes run items waiting taken entered answer⟩
  | passes item rest ticket next line items waiting channel taken entered _ answer =>
    obtain ⟨first, others, _, order⟩ := h.passes run items waiting taken entered answer
    exact ⟨_, _, channel ▸ order⟩

end Orderly

/-! ## Runs -/

section Runs

variable {capacity : Nat} {turns : List Turn} {k : Desk}

theorem Run.orderly (run : Run capacity turns k) (there : ∀ t ∈ turns, t.operation ≠ .dropWriter) :
    ∃ inside waiting, Orderly capacity turns k.dispatcher.channel inside waiting := by
  induction run with
  | start => exact ⟨[], [], rfl, rfl, Nat.zero_le _, fun stands => absurd rfl stands, rfl,
      List.forall_mem_nil _, .nil, rfl, List.forall_mem_nil _⟩
  | turn operation run ih =>
    obtain ⟨before, last⟩ := List.forall_mem_append.mp there
    obtain ⟨inside, waiting, order⟩ := ih before
    refine order.turn run ?_
    simpa using last

theorem exists_stands {line : List (Ticket × Item)} {waiting : List Turn} (order : List.Forall₂ Stands line waiting)
    {t : Turn} (member : t ∈ waiting) : ∃ w ∈ line, Stands w t := by
  induction order with
  | nil => cases member
  | cons stands _ ih =>
    obtain rfl | behind := List.mem_cons.mp member
    · exact ⟨_, List.mem_cons_self, stands⟩
    · obtain ⟨w, inside, same⟩ := ih behind
      exact ⟨w, List.mem_cons_of_mem _ inside, same⟩

theorem Orderly.accepted {c : Channel} {inside waiting : List Turn} (h : Orderly capacity turns c inside waiting) :
    accepted turns = inside := by
  have mine : turns.filter (Turn.isPlaced (turns.flatMap Turn.entered)) =
      (inside ++ waiting).filter (Turn.isPlaced (turns.flatMap Turn.entered)) := by
    rw [← h.kept, List.filter_filter]
    refine List.filter_congr fun t _ => Bool.eq_iff_iff.mpr ?_
    rw [Bool.and_eq_true]
    exact ⟨fun placed => ⟨placed, Turn.isPlaced_mono (List.subset_append_left _ _) placed⟩, fun both => both.1⟩
  have outside : ∀ t ∈ waiting, ¬ t.isPlaced (turns.flatMap Turn.entered) = true := by
    intro t member
    obtain ⟨w, stands, answer, _⟩ := exists_stands h.line member
    rw [Turn.isPlaced_task answer, decide_eq_true_eq]
    exact h.apart w.1 (List.mem_map_of_mem stands)
  rw [Session.accepted, mine, List.filter_append, List.filter_eq_self.mpr h.placed,
    List.filter_eq_nil_iff.mpr outside, List.append_nil]

theorem mem_accepted {t : Turn} : t ∈ accepted turns ↔ t ∈ turns ∧ t.isPlaced (turns.flatMap Turn.entered) = true :=
  List.mem_filter

/-- A task that is given up while it stands in line never holds a place again. -/
theorem Run.given_up (run : Run capacity turns k) (there : ∀ t ∈ turns, t.operation ≠ .dropWriter)
    {u : Ticket} : ∀ c ∈ turns, c.operation = .cancel u → u ∈ c.before.dispatcher.line →
      u < k.tasks ∧ u ∉ turns.flatMap Turn.entered ∧ u ∉ k.dispatcher.line := by
  induction run with
  | start => exact List.forall_mem_nil _
  | @turn turns k operation run ih =>
    obtain ⟨before, _⟩ := List.forall_mem_append.mp there
    intro c member cancel stood
    rw [flatMap_turn, List.mem_append, not_or]
    obtain old | new := List.mem_append.mp member
    · obtain ⟨given, outside, left⟩ := ih before c old cancel stood
      obtain ⟨still, gone⟩ := Desk.line_left given left operation
      exact ⟨Desk.given_turn given operation, ⟨outside, still⟩, gone⟩
    · obtain rfl := List.mem_singleton.mp new
      rw [Desk.turn_operation] at cancel
      subst cancel
      obtain ⟨inside, waiting, order⟩ := run.orderly before
      exact ⟨run.line_old u stood, ⟨order.apart u stood, List.not_mem_nil⟩,
        fun stands => (Channel.mem_withdraw.mp stands).1 rfl⟩

/-- What has become of the item that a turn offered. -/
inductive Whereabouts (turns : List Turn) (k : Desk) (t : Turn) : Prop
  | accepted (inside : t ∈ accepted turns)
  | inLine (u : Ticket) (answer : t.answer = .task u) (stands : u ∈ k.dispatcher.line)
  | busy (answer : t.answer = .tried (.error .writerBusy))
  /-- Its task was given up while it stood in line. -/
  | givenUp (u : Ticket) (answer : t.answer = .task u) (c : Turn) (turn : c ∈ turns)
    (cancel : c.operation = .cancel u) (stood : u ∈ c.before.dispatcher.line)

theorem Whereabouts.turn {t : Turn} (h : Whereabouts turns k t) (member : t ∈ turns)
    (run : Run capacity turns k) {operation : Operation} (there : operation ≠ .dropWriter) :
    Whereabouts (turns ++ [k.turn operation]) (k.turn operation).after t := by
  have now : (turns ++ [k.turn operation]).flatMap Turn.entered =
      turns.flatMap Turn.entered ++ (k.turn operation).entered := flatMap_turn ..
  cases h with
  | accepted inside =>
    obtain ⟨member, placed⟩ := mem_accepted.mp inside
    refine .accepted (mem_accepted.mpr ⟨List.mem_append_left _ member, ?_⟩)
    exact Turn.isPlaced_mono (now ▸ List.subset_append_left _ _) placed
  | busy answer => exact .busy answer
  | givenUp u answer c turn cancel stood => exact .givenUp u answer c (List.mem_append_left _ turn) cancel stood
  | inLine u answer stands =>
    by_cases enters : u ∈ (k.turn operation).entered
    · refine .accepted (mem_accepted.mpr ⟨List.mem_append_left _ member, ?_⟩)
      rw [Turn.isPlaced_task answer, now]
      exact decide_eq_true (List.mem_append_right _ enters)
    by_cases cancel : operation = .cancel u
    · refine .givenUp u answer (k.turn operation) (List.mem_append_right _ (List.mem_singleton_self _)) ?_ ?_
      · rw [Desk.turn_operation, cancel]
      · rwa [Desk.turn_before]
    · exact .inLine u answer (Desk.line_stays run.balanced.sound stands enters cancel there)

theorem Desk.whereabouts (isOpen : k.dispatcher.channel.isOpen = true) {operation : Operation}
    (there : operation ≠ .dropWriter) (offers : (k.turn operation).offer?.isSome = true) :
    Whereabouts (turns ++ [k.turn operation]) (k.turn operation).after (k.turn operation) := by
  have here : k.turn operation ∈ turns ++ [k.turn operation] :=
    List.mem_append_right _ (List.mem_singleton_self _)
  cases Desk.moves isOpen there with
  | rests _ _ _ _ busy =>
    obtain ⟨item, offer⟩ := Option.isSome_iff_exists.mp offers
    exact .busy (busy item offer)
  | enters _ _ _ _ _ _ placed =>
    refine .accepted (mem_accepted.mpr ⟨here, ?_⟩)
    rw [flatMap_turn]
    exact placed _
  | waits item room channel offer taken entered answer =>
    refine .inLine k.tasks answer ?_
    rw [Dispatcher.line, channel]
    simp
  | leaves _ same | takes _ _ _ _ _ _ _ same | passes _ _ _ _ _ _ _ _ _ _ same =>
    rw [Desk.turn_operation] at same
    subst same
    cases offers

theorem Run.whereabouts (run : Run capacity turns k) (there : ∀ t ∈ turns, t.operation ≠ .dropWriter) :
    ∀ t ∈ turns, t.offer?.isSome = true → Whereabouts turns k t := by
  induction run with
  | start => exact List.forall_mem_nil _
  | turn operation run ih =>
    obtain ⟨before, last⟩ := List.forall_mem_append.mp there
    have there : operation ≠ .dropWriter := by simpa using last
    obtain ⟨_, _, order⟩ := run.orderly before
    intro t member offers
    obtain old | new := List.mem_append.mp member
    · exact (ih before t old offers).turn old run there
    · obtain rfl := List.mem_singleton.mp new
      exact Desk.whereabouts order.isOpen there offers

theorem Run.issued_increasing (run : Run capacity turns k) :
    (turns.flatMap Turn.issued).Pairwise fun r q => r.id < q.id := by
  induction run with
  | start => exact .nil
  | @turn turns k operation run ih =>
    rw [flatMap_turn]
    refine List.pairwise_append.mpr ⟨ih, ?_, fun r old q new => ?_⟩
    · cases operation with
      | send => exact List.pairwise_singleton _ _
      | _ => exact .nil
    · rw [(Desk.issued_given new).2.1]
      exact (run.chronicle.given r old).2

theorem request_id (id : Nat) (method : String) (params : Option Value) :
    (request id method params).get? "id" = some (.nat id) := by
  cases params <;> rfl

theorem Desk.issued_frame {operation : Operation} {item : Item} {r : Request}
    (offer : (k.turn operation).offer? = some item) (issued : r ∈ (k.turn operation).issued) :
    ∃ frame, item = .message frame ∧ frame.get? "id" = some (.nat r.id) := by
  cases operation with
  | send method params timeout =>
    obtain rfl := List.mem_singleton.mp issued
    change (if k.dispatcher.refusal.isNone then _ else none) = some item at offer
    split at offer
    · cases offer
      exact ⟨_, rfl, request_id _ _ _⟩
    · cases offer
  | _ => cases issued

theorem Run.issued_frame (run : Run capacity turns k) {t : Turn} (turn : t ∈ turns) {item : Item}
    (offer : t.offer? = some item) {r : Request} (issued : r ∈ t.issued) :
    ∃ frame, item = .message frame ∧ frame.get? "id" = some (.nat r.id) := by
  obtain ⟨front, back, rfl⟩ := List.append_of_mem turn
  obtain ⟨j, operation, _, rfl, _⟩ := run.turnAt
  exact Desk.issued_frame offer issued

theorem Orderly.try_busy_iff {inside waiting : List Turn}
    (h : Orderly capacity turns k.dispatcher.channel inside waiting) (frame : Value) :
    ((k.turn (.trySendRaw frame)).answer = .tried (.error .writerBusy) ↔
      k.dispatcher.channel.items.length = capacity) ∧
    (k.dispatcher.line ≠ [] → (k.turn (.trySendRaw frame)).after = k) := by
  have bound := h.bound
  have answer : (k.turn (.trySendRaw frame)).answer = .tried (k.dispatcher.tryEnqueue frame).1 := rfl
  have after : (k.turn (.trySendRaw frame)).after = ⟨(k.dispatcher.tryEnqueue frame).2, k.tasks⟩ := rfl
  rw [answer, after, tryEnqueue]
  obtain ⟨room, pushed⟩ | ⟨room, pushed⟩ := Channel.tryPush_open h.isOpen (.message frame)
  · have less := of_decide_eq_true room
    rw [h.size] at less
    rw [pushed]
    refine ⟨⟨fun busy => (by cases busy), fun full => absurd full (Nat.ne_of_lt less)⟩, fun stands => ?_⟩
    rw [Dispatcher.line, (h.line_empty room).1] at stands
    exact absurd rfl stands
  · have full := of_decide_eq_false room
    rw [h.size] at full
    rw [pushed]
    exact ⟨⟨fun _ => by omega, fun _ => rfl⟩, fun _ => rfl⟩

/-- The channel is fair as long as the writer is there.  What was taken and what is queued are the
accepted items, in the order of the turns that offered them; and every offered item is accepted,
unless its task stands in line, was given up there, or could not wait.  A line forms only before
a full channel, and nobody who cannot wait overtakes it. -/
theorem channel_is_fair (run : Run capacity turns k) (there : ∀ t ∈ turns, t.operation ≠ .dropWriter) :
    (accepted turns).map Turn.offer? =
      (turns.filterMap Turn.taken? ++ k.dispatcher.channel.items).map some ∧
    (∀ t ∈ turns, t.offer?.isSome = true → Whereabouts turns k t) ∧
    k.dispatcher.channel.items.length ≤ capacity ∧
    (k.dispatcher.line ≠ [] → k.dispatcher.channel.items.length = capacity) ∧
    (∀ frame, ((k.turn (.trySendRaw frame)).answer = .tried (.error .writerBusy) ↔
        k.dispatcher.channel.items.length = capacity) ∧
      (k.dispatcher.line ≠ [] → (k.turn (.trySendRaw frame)).after = k)) ∧
    (∀ c ∈ turns, ∀ u, c.operation = .cancel u → u ∈ c.before.dispatcher.line →
      ∀ t ∈ accepted turns, t.answer ≠ .task u) ∧
    ((accepted turns).flatMap Turn.issued).Pairwise (fun r q => r.id < q.id) ∧
    ∀ t ∈ accepted turns, ∀ r ∈ t.issued,
      ∃ frame, t.offer? = some (.message frame) ∧ frame.get? "id" = some (.nat r.id) := by
  obtain ⟨inside, waiting, order⟩ := run.orderly there
  refine ⟨order.accepted ▸ order.items, run.whereabouts there, order.bound, fun stands => ?_,
    order.try_busy_iff, fun c turn u cancel stood t inside answer => ?_, ?_, fun t inside r issued => ?_⟩
  · exact order.full fun empty => stands (by rw [Dispatcher.line, empty, List.map_nil])
  · obtain ⟨_, outside, _⟩ := run.given_up there c turn cancel stood
    have placed := (mem_accepted.mp inside).2
    rw [Turn.isPlaced_task answer] at placed
    exact outside (of_decide_eq_true placed)
  · exact run.issued_increasing.sublist (List.filter_sublist.flatMap _)
  · have offers : t.offer? ∈ (accepted turns).map Turn.offer? := List.mem_map_of_mem inside
    rw [order.accepted, order.items] at offers
    obtain ⟨item, _, offer⟩ := List.mem_map.mp offers
    obtain ⟨frame, rfl, id⟩ := run.issued_frame (mem_accepted.mp inside).1 offer.symm issued
    exact ⟨frame, offer.symm, id⟩

theorem Desk.run_operations (k : Desk) (operations : List Operation) :
    (k.run operations).1.map Turn.operation = operations := by
  induction operations generalizing k with
  | nil => rfl
  | cons operation operations ih =>
    exact congrArg₂ List.cons (Desk.turn_operation k operation) (ih _)

/-- A request takes the only place, a notification and the end stand in line, a frame cannot wait,
and the notification is given up before the writer takes two items. -/
theorem channel_is_fair_line : ∃ turns k, Run 1 turns k ∧ (∀ t ∈ turns, t.operation ≠ .dropWriter) ∧
    turns.filterMap Turn.taken? = [.message (request 1 "a" none), .close] ∧
    (accepted turns).map Turn.offer? = [some (.message (request 1 "a" none)), some .close] := by
  have run := (Run.start : Run 1 [] _).append
    [.send "a" none 5, .notify "b" none, .closeWriter, .trySendRaw .null, .cancel 1, .take, .take]
  have there : ∀ t ∈ ((Desk.fresh 1).run [.send "a" none 5, .notify "b" none, .closeWriter,
      .trySendRaw .null, .cancel 1, .take, .take]).1, t.operation ≠ .dropWriter := by
    intro t turn drop
    have given := List.mem_map_of_mem (f := Turn.operation) turn
    rw [Desk.run_operations, drop] at given
    simp at given
  exact ⟨_, _, run, there, rfl, (channel_is_fair run there).1⟩

end Runs

end BlockDiscovery.Session
