import BlockDiscovery.Proofs.Session.Mailbox

/-! # Shared cells

The watches of one URI share a cell with a version number.  What each of them makes of it
is what it would make of a mailbox of its own.
-/

namespace BlockDiscovery.Session

open BlockDiscovery.Json BlockDiscovery.Protocol Router

/-! ## Watches and recipients -/

/-- A mailbox holds what a watch can see in its shared cell.  It holds nothing as long as
nothing was published since the watch was made. -/
structure Mirrors (r : Router) (ticket : Ticket) (m : Mailbox) (x : Watch) (c : Cell) : Prop where
  watch : r.watch? ticket = some x
  cell : r.cell? x.cell = some c
  uri : x.uri = m.uri
  unseen : m.isUnseen = decide (c.version ≠ x.seen)
  batch : ∀ batch, m.batch = some batch → c.batch = some batch
  filled : m.isUnseen = true ∨ (∃ d deadline quiet, m.collection = some d ∧ d.progress = .settling deadline quiet) →
    m.batch.isSome = true
  collection : r.collection? ticket = m.collection

/-- A recipient knows what a board does for the watch of a ticket. -/
structure Agrees (b : Board) (ticket : Ticket) (p : Recipient) : Prop where
  clock : p.clock = b.router.clock
  closed : p.isClosed = b.router.closed
  watches : p.watches = b.watches
  absent : p.box = none → b.router.watch? ticket = none
  present : ∀ m, p.box = some m → ∃ x c, Mirrors b.router ticket m x c

variable {b : Board} {p : Recipient} {ticket : Ticket} {m : Mailbox} {x : Watch} {c : Cell} {r s : Router}

theorem Mirrors.untouched (h : Mirrors r ticket m x c) (watch : s.watch? ticket = r.watch? ticket)
    (cell : s.cell? x.cell = some c) (collection : s.collection? ticket = r.collection? ticket) :
    Mirrors s ticket m x c :=
  { h with
    watch := watch.trans h.watch
    cell
    collection := collection.trans h.collection }

theorem collection?_of_absent {watches : Nat} (tidy : r.Tidy watches) (absent : r.watch? ticket = none) :
    r.collection? ticket = none := by
  cases busy : r.collection? ticket with
  | none => rfl
  | some d =>
    obtain ⟨member, own⟩ := mem_of_find busy
    have there := (tidy.owned d member).2
    rw [own, absent] at there
    cases there

/-! ## Deeds -/

theorem agrees_watch (h : Agrees b ticket p) (tidy : b.router.Tidy b.watches) (uri : String) :
    Agrees (b.change (.watch uri)) ticket (p.change ticket (.watch uri)) := by
  obtain ⟨x, c, own, canonical, seen, added⟩ := tidy.added uri
  have collection : ∀ u, (b.change (.watch uri)).router.collection? u = b.router.collection? u :=
    fun u => congrArg (List.find? fun c : Collection => c.ticket = u) added.collections
  have watches : (b.change (.watch uri)).router.watches = b.router.watches ++ [x] := added.watches
  have box : (p.change ticket (.watch uri)).box =
      if b.watches = ticket then some ⟨Uri.canonical uri, none, false, none⟩ else p.box := by
    rw [← h.watches]
    rfl
  have clock : p.clock = (b.change (.watch uri)).router.clock := h.clock.trans added.clock.symm
  have closed : p.isClosed = (b.change (.watch uri)).router.closed := h.closed.trans added.closed.symm
  by_cases new : b.watches = ticket
  · rw [if_pos new] at box
    have there : (b.change (.watch uri)).router.watch? ticket = some x := by
      rw [watch?, watches, ← new]
      exact find?_snoc_new own fun y member => Nat.ne_of_lt (tidy.born y member)
    have absent : b.router.watch? ticket = none := by
      refine List.find?_eq_none.mpr fun y member same => ?_
      exact Nat.ne_of_lt (tidy.born y member) ((of_decide_eq_true same).trans new.symm)
    refine ⟨clock, closed, congrArg (· + 1) h.watches,
      fun none => absurd (box.symm.trans none) (Option.some_ne_none _), fun m same => ?_⟩
    cases box.symm.trans same
    exact ⟨x, c, {
      watch := there
      cell := added.cell
      uri := canonical
      unseen := by simp [seen]
      batch := by rintro _ ⟨⟩
      filled := by rintro (unseen | ⟨_, _, _, none, _⟩) <;> contradiction
      collection := (collection ticket).trans (collection?_of_absent tidy absent) }⟩
  · rw [if_neg new] at box
    have there : (b.change (.watch uri)).router.watch? ticket = b.router.watch? ticket := by
      rw [watch?, watches]
      exact find?_snoc_other (fun same => new (own.symm.trans same)) _
    refine ⟨clock, closed, congrArg (· + 1) h.watches, fun none => ?_, fun m same => ?_⟩
    · exact there.trans (h.absent (box.symm.trans none))
    · obtain ⟨y, d, mirrors⟩ := h.present m (box.symm.trans same)
      exact ⟨y, d, mirrors.untouched there (added.old _ d mirrors.cell) (collection ticket)⟩

theorem Mirrors.isIdle (h : Mirrors r ticket m x c) : r.isIdle ticket = m.collection.isNone := by
  rw [Router.isIdle, h.watch, h.collection]
  rfl

theorem agrees_unwatch (h : Agrees b ticket p) (tidy : b.router.Tidy b.watches) (other : Ticket) :
    Agrees (b.change (.unwatch other)) ticket (p.change ticket (.unwatch other)) := by
  have change : (b.change (.unwatch other)).router =
      if b.router.isIdle other then b.router.unwatch other else b.router := rfl
  have box : (p.change ticket (.unwatch other)).box =
      p.box.filter fun m => ¬ (other = ticket ∧ m.collection.isNone) := rfl
  cases idle : b.router.isIdle other with
  | false =>
    rw [idle] at change
    have kept : (p.change ticket (.unwatch other)).box = p.box := by
      rw [box]
      cases there : p.box with
      | none => rfl
      | some m =>
        obtain ⟨x, c, mirrors⟩ := h.present m there
        refine Option.filter_some_pos (decide_eq_true fun both => ?_)
        obtain ⟨rfl, free⟩ := both
        cases (mirrors.isIdle.trans free).symm.trans idle
    exact { h with
      clock := by rw [change]; exact h.clock
      closed := by rw [change]; exact h.closed
      absent := by rw [change, kept]; exact h.absent
      present := by rw [change, kept]; exact h.present }
  | true =>
    rw [idle, if_pos rfl] at change
    have removed := tidy.removed idle
    rw [← change] at removed
    have collection : (b.change (.unwatch other)).router.collection? ticket = b.router.collection? ticket :=
      congrArg (List.find? fun c : Collection => c.ticket = ticket) removed.collections
    have clock := h.clock.trans removed.clock.symm
    have closed := h.closed.trans removed.closed.symm
    by_cases own : other = ticket
    · subst own
      have gone : (b.change (.unwatch other)).router.watch? other = none := by
        rw [watch?, removed.watches]
        exact find?_filter_own _ _
      have empty : (p.change other (.unwatch other)).box = none := by
        rw [box, Option.filter_eq_none_iff]
        intro m there
        obtain ⟨x, c, mirrors⟩ := h.present m there
        simp [mirrors.isIdle.symm.trans idle]
      exact ⟨clock, closed, h.watches, fun _ => gone, fun m there => absurd (there.symm.trans empty) (Option.some_ne_none m)⟩
    · have there : (b.change (.unwatch other)).router.watch? ticket = b.router.watch? ticket := by
        rw [watch?, removed.watches]
        exact find?_filter_other (Ne.symm own) _
      have kept : (p.change ticket (.unwatch other)).box = p.box := by
        rw [box]
        cases p.box with
        | none => rfl
        | some m => exact Option.filter_some_pos (decide_eq_true fun both => own both.1)
      refine ⟨clock, closed, h.watches, fun none => ?_, fun m same => ?_⟩
      · exact there.trans (h.absent (kept.symm.trans none))
      · obtain ⟨x, c, mirrors⟩ := h.present m (kept.symm.trans same)
        have looked := there.trans mirrors.watch
        exact ⟨x, c, mirrors.untouched there (removed.cells x (mem_of_find looked).1 c mirrors.cell) collection⟩

/-- A watch whose cell is filled has an unseen publication. -/
theorem Mirrors.filled_cell {watches : Nat} (h : Mirrors r ticket m x c) (tidy : r.Tidy watches)
    (batch : List Diagnostic) :
    Mirrors { r with cells := refilled x.cell (Router.filled batch) r.cells } ticket
      { m with batch := some batch, isUnseen := true } x (Router.filled batch c) where
  watch := h.watch
  cell := find?_refilled (id_filled batch) h.cell
  uri := h.uri
  unseen := by
    obtain ⟨d, found, past, _⟩ := tidy.cells x (mem_of_find h.watch).1
    cases h.cell.symm.trans found
    exact (decide_eq_true (Nat.ne_of_gt (Nat.lt_succ_of_le past))).symm
  batch := by
    rintro _ ⟨⟩
    rfl
  filled _ := rfl
  collection := h.collection

/-- A change of the mailbox that follows a change of the board. -/
theorem Agrees.map {e : Board} {f : Mailbox → Mailbox} (h : Agrees b ticket p)
    (clock : e.router.clock = b.router.clock) (closed : e.router.closed = b.router.closed)
    (watches : e.watches = b.watches) (same : e.router.watch? ticket = b.router.watch? ticket)
    (present : ∀ m x c, p.box = some m → Mirrors b.router ticket m x c →
      ∃ y d, Mirrors e.router ticket (f m) y d) :
    Agrees e ticket { p with box := p.box.map f } where
  clock := h.clock.trans clock.symm
  closed := h.closed.trans closed.symm
  watches := h.watches.trans watches.symm
  absent none := same.trans (h.absent (Option.map_eq_none_iff.mp none))
  present n changed := by
    obtain ⟨m, there, rfl⟩ := Option.map_eq_some_iff.mp changed
    obtain ⟨x, c, mirrors⟩ := h.present m there
    exact present m x c there mirrors

theorem agrees_route (h : Agrees b ticket p) (tidy : b.router.Tidy b.watches) (method : String)
    (params : Option Value) :
    Agrees (b.change (.route method params)) ticket (p.change ticket (.route method params)) := by
  have change : (b.change (.route method params)).router = b.router.route method params := rfl
  obtain ⟨unwatched, same⟩ | ⟨uri, batch, s, published, found, same⟩ := route_eq b.router method params
  · rw [same] at change
    refine h.map (by rw [change]) (by rw [change]) rfl (by rw [change]) fun m x c there mirrors =>
      ⟨x, c, ?_⟩
    rw [change]
    have nothing : letter? m.uri p.isClosed method params = none := by
      rw [letter?]
      split
      · rfl
      · next isOpen =>
        rw [Option.bind_eq_none_iff]
        rintro ⟨uri, batch⟩ published
        refine if_neg fun own => ?_
        obtain ⟨s, slot, _⟩ := tidy.slot (h.closed.symm.trans (Bool.eq_false_iff.mpr isOpen))
          (mem_of_find mirrors.watch).1
        rw [mirrors.uri, ← own, unwatched uri batch published] at slot
        cases slot
    rwa [nothing]
  · rw [same] at change
    obtain ⟨slot, own⟩ := mem_of_find found
    have isOpen := tidy.open_of_slot slot
    refine h.map (by rw [change]) (by rw [change]) rfl (by rw [change]; rfl) fun m x c there mirrors => ?_
    have member := (mem_of_find mirrors.watch).1
    have letter : letter? m.uri p.isClosed method params = if uri = m.uri then some batch else none := by
      rw [letter?, h.closed, isOpen, published]
      rfl
    rw [change, letter]
    by_cases mine : uri = m.uri
    · have cell : s.cell = x.cell := by
        obtain ⟨t, looked, cell⟩ := tidy.slot isOpen member
        rw [mirrors.uri, ← mine, found] at looked
        cases looked
        exact cell
      rw [if_pos mine, cell]
      exact ⟨x, _, mirrors.filled_cell tidy batch⟩
    · have apart : x.cell ≠ s.cell :=
        tidy.cell_apart isOpen member slot fun same => mine (own.symm.trans (same.symm.trans mirrors.uri))
      rw [if_neg mine]
      exact ⟨x, c, mirrors.untouched rfl
        (find?_refilled_other (id_filled batch) apart mirrors.cell) rfl⟩

theorem Mirrors.busy (h : Mirrors r ticket m x c) (free : m.collection = none) (timeout settle : Nat) :
    Mirrors (r.collect ticket ticket timeout settle) ticket (m.start ticket r.clock timeout settle) x c where
  watch := h.watch
  cell := h.cell
  uri := by rw [Mailbox.start, free]; exact h.uri
  unseen := by rw [Mailbox.start, free]; exact h.unseen
  batch := by rw [Mailbox.start, free]; exact h.batch
  filled := by
    rw [Mailbox.start, free]
    rintro (unseen | ⟨_, _, _, started, settling⟩)
    · exact h.filled (.inl unseen)
    · cases started
      cases settling
  collection := by
    rw [Mailbox.start, free]
    refine find?_snoc_new rfl fun d member same => ?_
    exact List.find?_eq_none.mp (h.collection.trans free) d member (decide_eq_true same)

theorem agrees_collect (h : Agrees b ticket p) (other : Ticket) (timeout settle : Nat) :
    Agrees (b.change (.collect other timeout settle)) ticket
      (p.change ticket (.collect other timeout settle)) := by
  have change : (b.change (.collect other timeout settle)).router =
      if b.router.isIdle other then b.router.collect other other timeout settle else b.router := rfl
  have frame : (b.change (.collect other timeout settle)).router =
      { b.router with collections := (b.change (.collect other timeout settle)).router.collections } := by
    rw [change]
    split <;> rfl
  refine h.map (by rw [frame]) (by rw [frame]) rfl (by rw [frame]; rfl) fun m x c there mirrors => ⟨x, c, ?_⟩
  split
  · next own =>
    subst own
    rw [change, mirrors.isIdle, h.clock]
    cases free : m.collection with
    | none => exact mirrors.busy free timeout settle
    | some d =>
      rw [Mailbox.start, free]
      exact mirrors
  · next different =>
    refine mirrors.untouched (by rw [frame]; rfl) ?_ ?_
    · rw [frame]
      exact mirrors.cell
    · rw [change]
      split
      · exact find?_snoc_other different _
      · rfl

theorem agrees_close (h : Agrees b ticket p) : Agrees (b.change .close) ticket (p.change ticket .close) where
  clock := h.clock
  closed := rfl
  watches := h.watches
  absent := h.absent
  present m there := by
    obtain ⟨x, c, mirrors⟩ := h.present m there
    exact ⟨x, detached c, { mirrors with cell := cell?_close mirrors.cell }⟩

theorem agrees_advance (h : Agrees b ticket p) (milliseconds : Nat) :
    Agrees (b.change (.advance milliseconds)) ticket (p.change ticket (.advance milliseconds)) where
  clock := congrArg (· + milliseconds) h.clock
  closed := h.closed
  watches := h.watches
  absent := h.absent
  present m there := by
    obtain ⟨x, c, mirrors⟩ := h.present m there
    exact ⟨x, c, { mirrors with }⟩

theorem agrees_change (h : Agrees b ticket p) (tidy : b.router.Tidy b.watches) (deed : Deed) :
    Agrees (b.change deed) ticket (p.change ticket deed) := by
  cases deed with
  | watch uri => exact agrees_watch h tidy uri
  | unwatch other => exact agrees_unwatch h tidy other
  | route method params => exact agrees_route h tidy method params
  | collect other timeout settle => exact agrees_collect h other timeout settle
  | close => exact agrees_close h
  | advance milliseconds => exact agrees_advance h milliseconds

/-! ## Collections -/

/-- A collection only settles when there was something to find. -/
theorem next_settling {e : Collection} {clock : Nat} {news : News} {isLast : Bool}
    {latest : List Diagnostic} {deadline quiet : Nat}
    (h : e.next clock news isLast latest = .goesOn (.settling deadline quiet)) :
    news = .unseen ∨ ∃ deadline quiet, e.progress = .settling deadline quiet := by
  cases progress : e.progress with
  | settling deadline quiet => exact .inr ⟨deadline, quiet, rfl⟩
  | first limit =>
    refine .inl ?_
    cases news with
    | unseen => rfl
    | exhausted => simp [Collection.next, progress] at h
    | nothing =>
      simp only [Collection.next, progress] at h
      split at h <;> cases h

/-- As long as there was nothing to find, the latest publication does not matter. -/
theorem next_first {e : Collection} {limit : Nat} (first : e.progress = .first limit) {news : News}
    (nothing : news ≠ .unseen) (clock : Nat) (isLast : Bool) (latest other : List Diagnostic) :
    e.next clock news isLast latest = e.next clock news isLast other := by
  cases news with
  | unseen => exact absurd rfl nothing
  | nothing => simp only [Collection.next, first]
  | exhausted => simp only [Collection.next, first]

section Look

variable {watches : Nat} {d : Collection}

theorem Mirrors.news (h : Mirrors r ticket m x c) (tidy : r.Tidy watches) :
    m.news r.closed = x.news c ∧ c.attached = !r.closed := by
  obtain ⟨e, found, _, attached⟩ := tidy.cells x (mem_of_find h.watch).1
  cases h.cell.symm.trans found
  refine ⟨?_, attached⟩
  rw [Mailbox.news, Watch.news, h.unseen, attached]
  cases r.closed <;> simp

/-- A collection finds in the shared cell what it finds in the mailbox. -/
theorem Mirrors.next (h : Mirrors r ticket m x c) (tidy : r.Tidy watches) (busy : m.collection = some d) :
    d.next r.clock (x.news c) (!c.attached) (c.batch.getD []) =
      d.next r.clock (m.news r.closed) r.closed (m.batch.getD []) := by
  obtain ⟨news, attached⟩ := h.news tidy
  rw [news, attached, Bool.not_not]
  cases published : m.batch with
  | some batch => rw [h.batch batch published]
  | none =>
    have empty : ¬ m.batch.isSome = true := by simp [published]
    cases progress : d.progress with
    | settling deadline quiet => exact absurd (h.filled (.inr ⟨d, deadline, quiet, busy, progress⟩)) empty
    | first limit =>
      refine next_first progress (fun unseen => empty (h.filled (.inl ?_))) _ _ _ _
      rw [← news, Mailbox.news] at unseen
      by_contra seen
      rw [if_neg seen] at unseen
      split at unseen <;> cases unseen

/-- Looking after a collection with a shared cell is looking after it with a mailbox. -/
theorem Mirrors.look (h : Mirrors r ticket m x c) (tidy : r.Tidy watches) :
    (∃ y, Mirrors r.run.1 ticket (m.look r.clock r.closed).1 y c) ∧
      foundBy ticket r.run.2 = (m.look r.clock r.closed).2 := by
  have cell : ∀ id, r.run.1.cell? id = r.cell? id := fun id => by rw [cell?, cell?, (run_same r).cells]
  cases busy : m.collection with
  | none =>
    have round := tidy.run_idle (h.collection.trans busy)
    simp only [glance, Prod.mk.injEq] at round
    obtain ⟨watch, collection, done⟩ := round
    rw [Mailbox.look, busy, foundBy, done]
    refine ⟨⟨x, h.untouched watch ((cell _).trans h.cell) ?_⟩, rfl⟩
    rw [collection, h.collection, busy]
  | some d =>
    have round := tidy.run_busy (h.collection.trans busy) h.watch h.cell
    rw [h.next tidy busy] at round
    simp only [Mailbox.look, busy]
    cases next : d.next r.clock (m.news r.closed) r.closed (m.batch.getD []) with
    | goesOn progress =>
      rw [next] at round
      simp only [glance, progressOf, Prod.mk.injEq] at round
      obtain ⟨watch, collection, done⟩ := round
      refine ⟨⟨{ x with seen := c.version }, {
        watch, collection
        cell := (cell _).trans h.cell
        uri := h.uri
        unseen := by simp
        batch := h.batch
        filled := ?_ }⟩, by rw [foundBy, done]; rfl⟩
      rintro (unseen | ⟨_, deadline, quiet, same, settling⟩)
      · cases unseen
      · cases same
        obtain rfl : progress = .settling deadline quiet := settling
        refine h.filled ?_
        obtain unseen | ⟨deadline, quiet, settles⟩ := next_settling next
        · refine .inl ?_
          by_contra seen
          rw [Mailbox.news, if_neg seen] at unseen
          split at unseen <;> cases unseen
        · exact .inr ⟨d, deadline, quiet, busy, settles⟩
    | ends diagnostics =>
      rw [next] at round
      simp only [glance, progressOf, Prod.mk.injEq] at round
      obtain ⟨watch, collection, done⟩ := round
      refine ⟨⟨{ x with seen := c.version }, {
        watch, collection
        cell := (cell _).trans h.cell
        uri := h.uri
        unseen := by simp
        batch := h.batch
        filled := by rintro (unseen | ⟨_, _, _, none, _⟩) <;> contradiction }⟩, by rw [foundBy, done]; rfl⟩

end Look

theorem agrees_look (h : Agrees b ticket p) (tidy : b.router.Tidy b.watches) :
    Agrees { b with router := b.router.run.1 } ticket p.look.1 ∧ foundBy ticket b.router.run.2 = p.look.2 := by
  have same := run_same b.router
  cases there : p.box with
  | none =>
    have absent := h.absent there
    have round := tidy.run_idle (collection?_of_absent tidy absent)
    simp only [glance, Prod.mk.injEq] at round
    rw [Recipient.look, there]
    refine ⟨⟨h.clock.trans same.clock.symm, h.closed.trans same.closed.symm, h.watches,
      fun _ => round.1.trans absent, fun m box => absurd (box.symm.trans there) (Option.some_ne_none m)⟩, ?_⟩
    rw [foundBy, round.2.2]
    rfl
  | some m =>
    obtain ⟨x, c, mirrors⟩ := h.present m there
    obtain ⟨⟨y, looked⟩, found⟩ := mirrors.look tidy
    rw [Recipient.look, there]
    dsimp only
    rw [h.clock, h.closed]
    refine ⟨⟨same.clock.symm, same.closed.symm, h.watches, by rintro ⟨⟩, ?_⟩, found⟩
    rintro _ ⟨⟩
    exact ⟨y, c, looked⟩

theorem agrees_step (h : Agrees b ticket p) (tidy : b.router.Tidy b.watches) (deed : Deed) :
    Agrees (b.step deed).1 ticket (p.step ticket deed).1 ∧
      foundBy ticket (b.step deed).2 = (p.step ticket deed).2 := by
  have changed := agrees_change h tidy deed
  rw [Board.step, Recipient.step]
  split
  · exact agrees_look changed (Board.tidy_change tidy deed)
  · exact ⟨changed, rfl⟩

/-- A recipient follows a board, deed after deed. -/
theorem agrees_run (h : Agrees b ticket p) (tidy : b.router.Tidy b.watches) (deeds : List Deed) :
    Agrees (b.run deeds).2 ticket (p.run ticket deeds).2 ∧
      (b.run deeds).1.map (foundBy ticket) = (p.run ticket deeds).1 := by
  induction deeds generalizing b p with
  | nil => exact ⟨h, rfl⟩
  | cons deed rest ih =>
    obtain ⟨after, found⟩ := agrees_step h tidy deed
    obtain ⟨last, later⟩ := ih after (Board.tidy_step tidy deed)
    exact ⟨last, List.cons_eq_cons.mpr ⟨found, later⟩⟩

theorem agrees_fresh (ticket : Ticket) : Agrees .fresh ticket .fresh :=
  ⟨rfl, rfl, rfl, fun _ => rfl, nofun⟩

/-! ## What a recipient finds -/

namespace Recipient

theorem look_frame (p : Recipient) :
    p.look.1.clock = p.clock ∧ p.look.1.isClosed = p.isClosed ∧ p.look.1.watches = p.watches := by
  rw [look]
  split
  · exact ⟨rfl, rfl, rfl⟩
  · exact ⟨rfl, rfl, rfl⟩

theorem step_frame (p : Recipient) (ticket : Ticket) (deed : Deed) :
    (p.step ticket deed).1.clock = (p.change ticket deed).clock ∧
      (p.step ticket deed).1.isClosed = (p.change ticket deed).isClosed ∧
      (p.step ticket deed).1.watches = (p.change ticket deed).watches := by
  rw [step]
  split
  · exact look_frame _
  · exact ⟨rfl, rfl, rfl⟩

/-- Time goes on, what is closed stays closed, and watches are not forgotten. -/
theorem step_forward (p : Recipient) (ticket : Ticket) (deed : Deed) :
    p.clock ≤ (p.step ticket deed).1.clock ∧
      (p.isClosed = true → (p.step ticket deed).1.isClosed = true) ∧
      p.watches ≤ (p.step ticket deed).1.watches := by
  obtain ⟨clock, closed, watches⟩ := step_frame p ticket deed
  rw [clock, closed, watches]
  cases deed with
  | watch => exact ⟨Nat.le_refl _, fun closed => closed, Nat.le_succ _⟩
  | close => exact ⟨Nat.le_refl _, fun _ => rfl, Nat.le_refl _⟩
  | advance => exact ⟨Nat.le_add_right _ _, fun closed => closed, Nat.le_refl _⟩
  | _ => exact ⟨Nat.le_refl _, fun closed => closed, Nat.le_refl _⟩

theorem run_forward (p : Recipient) (ticket : Ticket) (deeds : List Deed) :
    p.clock ≤ (p.run ticket deeds).2.clock ∧
      (p.isClosed = true → (p.run ticket deeds).2.isClosed = true) ∧
      p.watches ≤ (p.run ticket deeds).2.watches := by
  induction deeds generalizing p with
  | nil => exact ⟨Nat.le_refl _, fun closed => closed, Nat.le_refl _⟩
  | cons deed rest ih =>
    obtain ⟨clock, closed, watches⟩ := step_forward p ticket deed
    obtain ⟨later, last, more⟩ := ih (p.step ticket deed).1
    exact ⟨Nat.le_trans clock later, fun was => last (closed was), Nat.le_trans watches more⟩

theorem look_empty (empty : p.box = none) : p.look = (p, []) := by
  rw [look, empty]

/-- Before a watch is made its recipient finds nothing. -/
theorem run_unborn (empty : p.box = none) (deeds : List Deed)
    (unborn : (p.run ticket deeds).2.watches ≤ ticket) : ∀ found ∈ (p.run ticket deeds).1, found = [] := by
  induction deeds generalizing p with
  | nil => exact List.forall_mem_nil _
  | cons deed rest ih =>
    have later := Nat.le_trans (run_forward (p.step ticket deed).1 ticket rest).2.2 unborn
    rw [(step_frame p ticket deed).2.2] at later
    have box : (p.change ticket deed).box = none := by
      cases deed with
      | watch uri =>
        rw [change]
        dsimp only
        rw [if_neg (Nat.ne_of_lt later)]
        exact empty
      | _ => simp [change, empty]
    have step : p.step ticket deed = (p.change ticket deed, []) := by
      rw [step, look_empty box, ite_self]
    refine List.forall_mem_cons.mpr ⟨congrArg Prod.snd step, ?_⟩
    refine ih ?_ unborn
    rw [step]
    exact box

theorem enterSettling_ends {now settle deadline : Nat} {isLast : Bool} {latest found : List Diagnostic}
    (h : enterSettling now settle deadline isLast latest = .ends found) : found = latest := by
  rw [enterSettling] at h
  split at h
  · cases h
    rfl
  · cases h

/-- A collection finds nothing or the latest publication. -/
theorem next_ends {e : Collection} {clock : Nat} {news : News} {isLast : Bool} {latest found : List Diagnostic}
    (h : e.next clock news isLast latest = .ends found) : found = [] ∨ found = latest := by
  rw [Collection.next.eq_def] at h
  split at h
  · exact .inr (enterSettling_ends h)
  · cases h
    exact .inl rfl
  · split at h
    · cases h
      exact .inl rfl
    · cases h
  · exact .inr (enterSettling_ends h)
  · cases h
    exact .inr rfl
  · split at h
    · cases h
      exact .inr rfl
    · cases h

/-- Whether a mailbox is that of a URI and holds what is known. -/
def Holds (uri : String) (known : List Diagnostic → Prop) (p : Recipient) : Prop :=
  ∀ m, p.box = some m → m.uri = uri ∧ ∀ batch, m.batch = some batch → known batch

section Holds

variable {uri : String} {known : List Diagnostic → Prop}

theorem mem_heard_later (p : Recipient) (ticket : Ticket) (deed : Deed) (rest : List Deed)
    {h : Nat × List Diagnostic}
    (later : h ∈ heard uri (p.change ticket deed).clock (p.change ticket deed).isClosed rest) :
    h ∈ heard uri p.clock p.isClosed (deed :: rest) := by
  cases deed with
  | route method params =>
    rw [heard]
    split
    · exact List.mem_cons_of_mem _ later
    · exact later
  | _ => exact later

theorem Holds.change (holds : Holds uri known p) (born : ticket < p.watches) {deed : Deed} {rest : List Deed}
    (hears : ∀ h ∈ heard uri p.clock p.isClosed (deed :: rest), known h.2) :
    Holds uri known (p.change ticket deed) := by
  intro m there
  cases deed with
  | watch other =>
    rw [Recipient.change] at there
    dsimp only at there
    rw [if_neg (Nat.ne_of_gt born)] at there
    exact holds m there
  | unwatch other => exact holds m (Option.eq_some_of_filter_eq_some there)
  | route method params =>
    obtain ⟨n, old, rfl⟩ := Option.map_eq_some_iff.mp there
    obtain ⟨own, past⟩ := holds n old
    cases letter : letter? n.uri p.isClosed method params with
    | none => exact ⟨own, past⟩
    | some batch =>
      refine ⟨own, ?_⟩
      rintro _ ⟨⟩
      refine hears (p.clock, batch) ?_
      rw [heard, ← own, letter]
      exact List.mem_cons_self
  | collect other timeout settle =>
    obtain ⟨n, old, rfl⟩ := Option.map_eq_some_iff.mp there
    split
    · rw [Mailbox.start]
      split <;> exact holds n old
    · exact holds n old
  | close => exact holds m there
  | advance milliseconds => exact holds m there

theorem Holds.look (holds : Holds uri known p) :
    Holds uri known p.look.1 ∧ ∀ batch ∈ p.look.2, batch = [] ∨ known batch := by
  cases there : p.box with
  | none =>
    rw [look_empty there]
    exact ⟨holds, List.forall_mem_nil _⟩
  | some m =>
    obtain ⟨own, past⟩ := holds m there
    have look : p.look = ({ p with box := some (m.look p.clock p.isClosed).1 }, (m.look p.clock p.isClosed).2) := by
      rw [Recipient.look, there]
    rw [look, Mailbox.look]
    cases m.collection with
    | none =>
      refine ⟨?_, List.forall_mem_nil _⟩
      rintro _ ⟨⟩
      exact ⟨own, past⟩
    | some e =>
      dsimp only
      cases next : e.next p.clock (m.news p.isClosed) p.isClosed (m.batch.getD []) with
      | goesOn progress =>
        refine ⟨?_, List.forall_mem_nil _⟩
        rintro _ ⟨⟩
        exact ⟨own, past⟩
      | ends found =>
        refine ⟨?_, fun batch member => ?_⟩
        · rintro _ ⟨⟩
          exact ⟨own, past⟩
        · rw [List.mem_singleton.mp member]
          obtain nothing | latest := next_ends next
          · exact .inl nothing
          · cases published : m.batch with
            | none => exact .inl (by rw [latest, published]; rfl)
            | some batch => exact .inr (by rw [latest, published]; exact past batch published)

/-- What a watch finds is nothing, or was published for its URI since it was made and
before the connection ended. -/
theorem Holds.run (holds : Holds uri known p) (born : ticket < p.watches) (deeds : List Deed)
    (hears : ∀ h ∈ heard uri p.clock p.isClosed deeds, known h.2) :
    ∀ found ∈ (p.run ticket deeds).1, ∀ batch ∈ found, batch = [] ∨ known batch := by
  induction deeds generalizing p with
  | nil => exact List.forall_mem_nil _
  | cons deed rest ih =>
    obtain ⟨clock, closed, watches⟩ := step_frame p ticket deed
    have changed := holds.change born hears
    have later := Nat.lt_of_lt_of_le born (step_forward p ticket deed).2.2
    have rest : ∀ h ∈ heard uri (p.step ticket deed).1.clock (p.step ticket deed).1.isClosed rest, known h.2 := by
      rw [clock, closed]
      exact fun h member => hears h (mem_heard_later p ticket deed rest member)
    have step : Holds uri known (p.step ticket deed).1 ∧
        ∀ batch ∈ (p.step ticket deed).2, batch = [] ∨ known batch := by
      rw [Recipient.step]
      split
      · exact changed.look
      · exact ⟨changed, List.forall_mem_nil _⟩
    exact List.forall_mem_cons.mpr ⟨step.2, ih step.1 later rest⟩

end Holds

theorem run_append (p : Recipient) (ticket : Ticket) (front back : List Deed) :
    p.run ticket (front ++ back) = ((p.run ticket front).1 ++ ((p.run ticket front).2.run ticket back).1,
      ((p.run ticket front).2.run ticket back).2) := by
  induction front generalizing p with
  | nil => rfl
  | cons deed rest ih =>
    rw [List.cons_append, run, ih]
    rfl

end Recipient

/-! ## Private mailboxes -/

/-- Watches that share cells are like watches with private mailboxes: whatever is done, the
collections of every watch find what they would find with a mailbox of its own.  What they find
and is not empty was published for the URI of the watch, after the watch was made
and before the connection ended. -/
theorem shared_cells_private (deeds : List Deed) (ticket : Ticket) :
    (Board.fresh.run deeds).1.map (foundBy ticket) = (Recipient.fresh.run ticket deeds).1 ∧
    ∀ front uri back, deeds = front ++ .watch uri :: back → (Board.fresh.run front).2.watches = ticket →
      ∀ done ∈ (Board.fresh.run deeds).1, ∀ batch ∈ foundBy ticket done, batch ≠ [] →
        ∃ h ∈ heard (Uri.canonical uri) (Board.fresh.run front).2.router.clock
          (Board.fresh.run front).2.router.closed back, h.2 = batch := by
  have found := (agrees_run (agrees_fresh ticket) .fresh deeds).2
  refine ⟨found, ?_⟩
  rintro front uri back rfl own done member batch finds filled
  obtain ⟨agrees, _⟩ := agrees_run (agrees_fresh ticket) .fresh front
  have unborn : (Recipient.fresh.run ticket front).2.watches = ticket := agrees.watches.trans own
  have told : foundBy ticket done ∈ (Recipient.fresh.run ticket (front ++ .watch uri :: back)).1 :=
    found ▸ List.mem_map_of_mem member
  rw [Recipient.run_append, List.mem_append] at told
  obtain earlier | later := told
  · rw [Recipient.run_unborn rfl front (Nat.le_of_eq unborn) _ earlier] at finds
    cases finds
  obtain first | later := List.mem_cons.mp later
  · rw [show foundBy ticket done = [] from first] at finds
    cases finds
  have holds : Recipient.Holds (Uri.canonical uri) (fun batch => ∃ h ∈ heard (Uri.canonical uri)
      (Board.fresh.run front).2.router.clock (Board.fresh.run front).2.router.closed back, h.2 = batch)
      ((Recipient.fresh.run ticket front).2.step ticket (.watch uri)).1 := by
    intro m there
    change (if _ = ticket then some _ else _) = some m at there
    rw [if_pos unborn] at there
    cases there
    exact ⟨rfl, nofun⟩
  have born : ticket < ((Recipient.fresh.run ticket front).2.step ticket (.watch uri)).1.watches :=
    Nat.lt_succ_of_le (Nat.le_of_eq unborn.symm)
  refine (holds.run born back (fun h published => ⟨h, ?_, rfl⟩) _ later _ finds).resolve_left filled
  rw [← agrees.clock, ← agrees.closed]
  exact published

/-- Of two watches of one document, in two spellings, the second one sees only what is
published after it was made, and does not lose it with the first one. -/
theorem shared_cells_private_two_spellings :
    let deeds := [.watch "file:///a b", .publish "file:///a b" "old", .watch "file:///a%20b",
      .publish "file:///a b" "new", .unwatch 0, .collect 1 5 0]
    (Board.fresh.run deeds).1.map (foundBy 1) = [[], [], [], [], [], [[⟨⟨⟨0, 0⟩, ⟨0, 0⟩⟩, none, none, "new"⟩]]] ∧
      ∃ h ∈ heard (Uri.canonical "file:///a%20b") 0 false (deeds.drop 3),
        h.2 = [⟨⟨⟨0, 0⟩, ⟨0, 0⟩⟩, none, none, "new"⟩] := by
  intro deeds
  obtain ⟨same, known⟩ := shared_cells_private deeds 1
  have found : (Board.fresh.run deeds).1.map (foundBy 1) =
      [[], [], [], [], [], [[⟨⟨⟨0, 0⟩, ⟨0, 0⟩⟩, none, none, "new"⟩]]] := same.trans (by decide +kernel)
  refine ⟨found, ?_⟩
  have last : [[⟨⟨⟨0, 0⟩, ⟨0, 0⟩⟩, none, none, "new"⟩]] ∈ (Board.fresh.run deeds).1.map (foundBy 1) := by
    rw [found]
    decide +kernel
  obtain ⟨done, member, finds⟩ := List.mem_map.mp last
  exact known (deeds.take 2) "file:///a%20b" (deeds.drop 3) rfl (by decide +kernel) done member _
    (finds ▸ List.mem_singleton_self _) nofun

end BlockDiscovery.Session
