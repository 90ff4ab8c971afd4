import BlockDiscovery.Proofs.Session.Tidy

/-! # A round of collections

When something has happened, every collection is looked after in its turn.  For each watch
this comes to looking after its own collection: the others leave it alone.
-/

namespace BlockDiscovery.Session

open BlockDiscovery.Json BlockDiscovery.Protocol Router

/-- What a collection does next, by what its watch finds. -/
def Collection.next (c : Collection) (clock : Nat) (news : News) (isLast : Bool)
    (latest : List Diagnostic) : Next :=
  match c.progress, news with
  | .first _, .unseen => enterSettling clock c.settle (max c.limit (clock + c.settle)) isLast latest
  | .first _, .exhausted => .ends []
  | .first deadline, .nothing => if deadline ≤ clock then .ends [] else .goesOn c.progress
  | .settling deadline _, .unseen => enterSettling clock c.settle deadline isLast latest
  | .settling _ _, .exhausted => .ends latest
  | .settling _ quiet, .nothing => if quiet ≤ clock then .ends latest else .goesOn c.progress

/-- What a watch finds in its cell. -/
def Watch.news (x : Watch) (c : Cell) : News :=
  if c.version ≠ x.seen then .unseen else if c.attached then .nothing else .exhausted

namespace Router

variable {r s : Router} {watches : Nat} {c : Collection} {x : Watch} {d : Cell} {u : Ticket}

theorem next_eq (watch : r.watch? c.watch = some x) (cell : r.cell? x.cell = some d) :
    r.next c = c.next r.clock (x.news d) (!d.attached) (d.batch.getD []) := by
  have news : r.news c.watch = x.news d := by simp only [Router.news, watch, cell, Watch.news]
  have latest : r.latest c.watch = d.batch.getD [] := by
    simp only [Router.latest, watch, Option.bind_some, cell]
  rw [Router.next, news, latest, watch, Option.bind_some, cell, Option.any_some]
  obtain ⟨ticket, _, limit, settle, progress⟩ := c
  cases progress <;> cases x.news d <;> rfl

/-- A watch after a collection of the given ticket has looked into its cell. -/
def seeing (r : Router) (ticket : Ticket) (x : Watch) : Watch :=
  if x.ticket = ticket then { x with seen := ((r.cell? x.cell).map Cell.version).getD x.seen } else x

theorem seeing_keys (r : Router) (ticket : Ticket) (x : Watch) : (r.seeing ticket x).ticket = x.ticket ∧
    (r.seeing ticket x).uri = x.uri ∧ (r.seeing ticket x).cell = x.cell := by
  rw [seeing]
  split
  · exact ⟨rfl, rfl, rfl⟩
  · exact ⟨rfl, rfl, rfl⟩

theorem ticket_seen (seen : Watch → Nat) (x : Watch) : { x with seen := seen x }.ticket = x.ticket := rfl

/-- Collections, one of which goes on. -/
def resumed (ticket : Ticket) (progress : Collecting) (collections : List Collection) : List Collection :=
  collections.map fun c => if c.ticket = ticket then { c with progress } else c

theorem ticket_resumed (progress : Collecting) (c : Collection) : { c with progress }.ticket = c.ticket := rfl

/-- What looking after one collection does. -/
theorem advanceOne_eq (r : Router) (c : Collection) : r.advanceOne c =
    match r.next c with
    | .goesOn progress =>
      ({ r with
          watches := r.watches.map (r.seeing c.watch)
          collections := resumed c.ticket progress r.collections }, [])
    | .ends diagnostics =>
      ({ r with
          watches := r.watches.map (r.seeing c.watch)
          collections := r.collections.filter fun d => d.ticket ≠ c.ticket },
        [⟨c.ticket, diagnostics⟩]) := by
  rw [advanceOne]
  cases r.next c <;> rfl

theorem Tidy.advanceOne (h : r.Tidy watches) (c : Collection) : (r.advanceOne c).1.Tidy watches := by
  have seen : ∀ x ∈ r.watches, ∀ d, r.cell? x.cell = some d → x.seen ≤ d.version →
      (r.seeing c.watch x).seen ≤ d.version := by
    intro x _ d cell past
    rw [seeing]
    split
    · simp only [cell, Option.map_some, Option.getD_some, Nat.le_refl]
    · exact past
  rw [advanceOne_eq]
  cases r.next c with
  | goesOn progress =>
    refine h.collecting (seeing_keys r c.watch) seen ?_ fun d member => ?_
    · rw [resumed, map_key_map (key_update (ticket_resumed progress) c.ticket)]
    · obtain ⟨e, old, rfl⟩ := List.mem_map.mp member
      have own := (h.owned e old).1
      split
      · exact own
      · exact own
  | ends diagnostics =>
    refine h.collecting (seeing_keys r c.watch) seen (List.filter_sublist.map _) fun d member => ?_
    exact (h.owned d (List.mem_filter.mp member).1).1

/-! ## One watch in a round -/

/-- Where a watch stands: itself, its collection, and what is told to it. -/
def glance (out : Router × List Collected) (u : Ticket) :
    Option Watch × Option Collection × List Collected :=
  (out.1.watch? u, out.1.collection? u, out.2.filter fun c => c.ticket = u)

/-- Looking after collections does not touch what they look at. -/
structure Same (r s : Router) : Prop where
  clock : s.clock = r.clock
  closed : s.closed = r.closed
  slots : s.slots = r.slots
  cells : s.cells = r.cells

theorem advanceOne_same (r : Router) (c : Collection) : Same r (r.advanceOne c).1 := by
  rw [advanceOne_eq]
  cases r.next c with
  | goesOn => exact ⟨rfl, rfl, rfl, rfl⟩
  | ends => exact ⟨rfl, rfl, rfl, rfl⟩

theorem watch?_seeing_other (other : c.watch ≠ u) :
    (r.watches.map (r.seeing c.watch)).find? (fun x => x.ticket = u) = r.watch? u :=
  find?_update_other (ticket_seen _) other r.watches

/-- Looking after the collection of another watch. -/
theorem glance_other (own : c.watch = c.ticket) (other : c.ticket ≠ u) :
    glance (r.advanceOne c) u = (r.watch? u, r.collection? u, []) := by
  have watch := watch?_seeing_other (r := r) (own ▸ other)
  rw [advanceOne_eq]
  cases r.next c with
  | goesOn progress =>
    exact Prod.ext watch (Prod.ext (find?_update_other (ticket_resumed progress) other r.collections) rfl)
  | ends diagnostics =>
    refine Prod.ext watch (Prod.ext (find?_filter_other (Ne.symm other) _) ?_)
    simp [glance, other]

/-- What a step of its collection makes of a watch that looks into a cell. -/
def progressOf (x : Watch) (d : Cell) (c : Collection) : Next → Option Watch × Option Collection × List Collected
  | .goesOn progress => (some { x with seen := d.version }, some { c with progress }, [])
  | .ends diagnostics => (some { x with seen := d.version }, none, [⟨c.ticket, diagnostics⟩])

/-- Looking after its own collection. -/
theorem glance_own (own : c.watch = u) (busy : r.collection? u = some c) (watch : r.watch? u = some x)
    (cell : r.cell? x.cell = some d) :
    glance (r.advanceOne c) u =
      progressOf x d c (c.next r.clock (x.news d) (!d.attached) (d.batch.getD [])) := by
  have ticket := (mem_of_find busy).2
  have seen : (r.watches.map (r.seeing u)).find? (fun x => x.ticket = u) =
      some { x with seen := d.version } := by
    have looked : (r.watches.map (r.seeing u)).find? (fun x => x.ticket = u) = _ :=
      find?_update (ticket_seen _) watch
    rw [looked, cell]
    rfl
  rw [advanceOne_eq, next_eq (own ▸ watch) cell, own]
  cases c.next r.clock (x.news d) (!d.attached) (d.batch.getD []) with
  | goesOn progress =>
    refine Prod.ext seen (Prod.ext ?_ rfl)
    rw [ticket]
    exact find?_update (ticket_resumed progress) busy
  | ends diagnostics =>
    refine Prod.ext seen (Prod.ext ?_ ?_)
    · rw [ticket]
      exact find?_filter_own u _
    · simp [glance, progressOf, ticket]

/-! ## The whole round -/

theorem Same.trans {t : Router} (first : Same r s) (second : Same s t) : Same r t :=
  ⟨second.clock.trans first.clock, second.closed.trans first.closed, second.slots.trans first.slots,
    second.cells.trans first.cells⟩

theorem advanceAll_cons (r : Router) (c : Collection) (rest : List Collection) :
    r.advanceAll (c :: rest) = (((r.advanceOne c).1.advanceAll rest).1,
      (r.advanceOne c).2 ++ ((r.advanceOne c).1.advanceAll rest).2) :=
  rfl

theorem advanceAll_same (r : Router) (collections : List Collection) :
    Same r (r.advanceAll collections).1 := by
  induction collections generalizing r with
  | nil => exact ⟨rfl, rfl, rfl, rfl⟩
  | cons c rest ih => exact (advanceOne_same r c).trans (ih _)

theorem Tidy.advanceAll (h : r.Tidy watches) (collections : List Collection) :
    (r.advanceAll collections).1.Tidy watches := by
  induction collections generalizing r with
  | nil => exact h
  | cons c rest ih => exact ih (h.advanceOne c)

theorem glance_all_other {collections : List Collection} (own : ∀ c ∈ collections, c.watch = c.ticket)
    (others : u ∉ collections.map Collection.ticket) :
    glance (r.advanceAll collections) u = (r.watch? u, r.collection? u, []) := by
  induction collections generalizing r with
  | nil => rfl
  | cons c rest ih =>
    rw [List.forall_mem_cons] at own
    rw [List.map_cons, List.mem_cons, not_or] at others
    have first := glance_other (r := r) own.1 (Ne.symm others.1)
    have later := ih (r := (r.advanceOne c).1) own.2 others.2
    simp only [glance, Prod.mk.injEq] at first later
    simp only [glance, advanceAll_cons, List.filter_append, later, first, List.append_nil]

/-- In a round every watch is looked after once, by its own collection. -/
theorem glance_all {collections : List Collection} (own : ∀ c ∈ collections, c.watch = c.ticket)
    (distinct : (collections.map Collection.ticket).Nodup) (inside : c ∈ collections)
    (busy : r.collection? u = some c) (watch : r.watch? u = some x) (cell : r.cell? x.cell = some d) :
    glance (r.advanceAll collections) u =
      progressOf x d c (c.next r.clock (x.news d) (!d.attached) (d.batch.getD [])) := by
  have ticket := (mem_of_find busy).2
  induction collections generalizing r with
  | nil => cases inside
  | cons e rest ih =>
    rw [List.forall_mem_cons] at own
    rw [List.map_cons, List.nodup_cons] at distinct
    obtain rfl | later := List.mem_cons.mp inside
    · have first := glance_own (own.1.trans ticket) busy watch cell
      have others := glance_all_other (r := (r.advanceOne c).1) own.2 (ticket ▸ distinct.1)
      simp only [glance, Prod.mk.injEq] at others
      rw [← first]
      simp only [glance, advanceAll_cons, List.filter_append, others, List.append_nil]
    · have other : e.ticket ≠ u := fun same =>
        distinct.1 (same.trans ticket.symm ▸ List.mem_map_of_mem later)
      have first := glance_other (r := r) own.1 other
      simp only [glance, Prod.mk.injEq] at first
      have same := advanceOne_same r e
      have looked : (r.advanceOne e).1.cell? x.cell = some d := by rw [cell?, same.cells]; exact cell
      have rest := ih own.2 distinct.2 later (first.2.1.trans busy) (first.1.trans watch) looked
      rw [same.clock] at rest
      rw [← rest]
      simp only [glance, advanceAll_cons, List.filter_append, first, List.nil_append]

theorem Tidy.run (h : r.Tidy watches) : r.run.1.Tidy watches := h.advanceAll r.collections

theorem run_same (r : Router) : Same r r.run.1 := advanceAll_same r r.collections

theorem Tidy.run_idle (h : r.Tidy watches) (idle : r.collection? u = none) :
    glance r.run u = (r.watch? u, none, []) := by
  rw [← idle]
  refine glance_all_other (fun c member => (h.owned c member).1) fun inside => ?_
  obtain ⟨c, member, own⟩ := List.mem_map.mp inside
  exact List.find?_eq_none.mp idle c member (decide_eq_true own)

theorem Tidy.run_busy (h : r.Tidy watches) (busy : r.collection? u = some c)
    (watch : r.watch? u = some x) (cell : r.cell? x.cell = some d) :
    glance r.run u = progressOf x d c (c.next r.clock (x.news d) (!d.attached) (d.batch.getD [])) :=
  glance_all (fun c member => (h.owned c member).1) h.busy (mem_of_find busy).1 busy watch cell

end Router

/-! ## Boards -/

namespace Board

theorem step_of_wakes {deed : Deed} (wakes : deed.wakes = true) (b : Board) : b.step deed =
    ({ b.change deed with router := (b.change deed).router.run.1 }, (b.change deed).router.run.2) :=
  if_pos wakes

theorem step_of_sleeps {deed : Deed} (sleeps : deed.wakes = false) (b : Board) :
    b.step deed = (b.change deed, []) := by
  rw [step, sleeps]
  rfl

theorem tidy_change {b : Board} (h : b.router.Tidy b.watches) (deed : Deed) :
    (b.change deed).router.Tidy (b.change deed).watches := by
  cases deed with
  | watch uri => exact h.watch uri
  | unwatch ticket =>
    rw [change, Router.change]
    split
    · next idle => exact h.unwatch idle
    · exact h
  | route method params => exact h.route method params
  | collect ticket timeout settle =>
    rw [change, Router.change]
    split
    · next idle => exact h.collect idle timeout settle
    · exact h
  | close => exact h.close
  | advance milliseconds => exact { h with }

theorem tidy_step {b : Board} (h : b.router.Tidy b.watches) (deed : Deed) :
    (b.step deed).1.router.Tidy (b.step deed).1.watches := by
  cases wakes : deed.wakes with
  | true =>
    rw [step_of_wakes wakes]
    exact (tidy_change h deed).run
  | false =>
    rw [step_of_sleeps wakes]
    exact tidy_change h deed

theorem tidy_run {b : Board} (h : b.router.Tidy b.watches) (deeds : List Deed) :
    (b.run deeds).2.router.Tidy (b.run deeds).2.watches := by
  induction deeds generalizing b with
  | nil => exact h
  | cons deed rest ih => exact ih (tidy_step h deed)

end Board

end BlockDiscovery.Session
