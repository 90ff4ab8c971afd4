import BlockDiscovery.Proofs.Session.Board
import BlockDiscovery.Proofs.Session.Keys

/-! # A tidy router

The watches of one URI share a cell through a slot that counts them.  `Tidy` says how
slots, cells and watches belong together, and every deed keeps a router tidy.
-/

namespace BlockDiscovery.Session

open BlockDiscovery.Json BlockDiscovery.Protocol

namespace Router

/-- How a router keeps its watches: cells, slots, watches and collections have keys of
their own; a slot counts the watches of its URI, of which there is one at least; the watches of a
URI share the cell of its slot while the router is open, and there are no slots when it is
closed. -/
structure Tidy (r : Router) (watches : Nat) : Prop where
  ids : (r.cells.map Cell.id).Nodup
  given : ∀ c ∈ r.cells, c.id < r.cells.length
  tickets : (r.watches.map Watch.ticket).Nodup
  born : ∀ x ∈ r.watches, x.ticket < watches
  uris : (r.slots.map Slot.uri).Nodup
  shelves : (r.slots.map Slot.cell).Nodup
  counts : ∀ s ∈ r.slots, s.watchers = r.watches.countP fun x => x.uri = s.uri
  held : ∀ s ∈ r.slots, 0 < s.watchers
  placed : ∀ s ∈ r.slots, ∃ c, r.cell? s.cell = some c ∧ c.attached = true
  cells : ∀ x ∈ r.watches, ∃ c, r.cell? x.cell = some c ∧ x.seen ≤ c.version ∧ c.attached = !r.closed
  shared : r.closed = false → ∀ x ∈ r.watches, ∃ s ∈ r.slots, s.uri = x.uri ∧ s.cell = x.cell
  shut : r.closed = true → r.slots = []
  busy : (r.collections.map Collection.ticket).Nodup
  owned : ∀ c ∈ r.collections, c.watch = c.ticket ∧ (r.watch? c.ticket).isSome = true

theorem Tidy.fresh : Tidy .fresh 0 where
  ids := .nil
  given := List.forall_mem_nil _
  tickets := .nil
  born := List.forall_mem_nil _
  uris := .nil
  shelves := .nil
  counts := List.forall_mem_nil _
  held := List.forall_mem_nil _
  placed := List.forall_mem_nil _
  cells := List.forall_mem_nil _
  shared := fun _ => List.forall_mem_nil _
  shut := fun _ => rfl
  busy := .nil
  owned := List.forall_mem_nil _

variable {r : Router} {watches : Nat}

/-- The slot of a watch of an open router. -/
theorem Tidy.slot (h : r.Tidy watches) (isOpen : r.closed = false) {x : Watch} (member : x ∈ r.watches) :
    ∃ s, r.slot? x.uri = some s ∧ s.cell = x.cell := by
  obtain ⟨s, slot, uri, cell⟩ := h.shared isOpen x member
  exact ⟨s, uri ▸ find?_of_mem h.uris slot, cell⟩

/-- Watches of different URIs have different cells. -/
theorem Tidy.cell_apart (h : r.Tidy watches) (isOpen : r.closed = false) {x : Watch} {s : Slot}
    (member : x ∈ r.watches) (slot : s ∈ r.slots) (other : x.uri ≠ s.uri) : x.cell ≠ s.cell := by
  obtain ⟨t, own, uri, cell⟩ := h.shared isOpen x member
  intro same
  have equal := List.inj_on_of_nodup_map h.shelves own slot (cell.trans same)
  exact other (uri.symm.trans (congrArg Slot.uri equal))

theorem Tidy.open_of_slot (h : r.Tidy watches) {s : Slot} (slot : s ∈ r.slots) : r.closed = false := by
  cases closed : r.closed with
  | false => rfl
  | true =>
    rw [h.shut closed] at slot
    cases slot

theorem cell?_append {r : Router} {id : Nat} {c : Cell} (found : r.cell? id = some c) (more : List Cell) :
    (r.cells ++ more).find? (fun c => c.id = id) = some c := by
  rw [List.find?_append]
  rw [cell?] at found
  rw [found]
  rfl

theorem Tidy.cell_new (h : r.Tidy watches) (c : Cell) (new : c.id = r.cells.length) :
    (r.cells ++ [c]).find? (fun d => d.id = r.cells.length) = some c :=
  find?_snoc_new new fun d member => Nat.ne_of_lt (h.given d member)

/-! ## What keeps a router tidy -/

/-- What a new watch means for the watches and collections. -/
theorem Tidy.watch_added (h : r.Tidy watches) (x : Watch) (new : x.ticket = watches) :
    ((r.watches ++ [x]).map Watch.ticket).Nodup ∧ (∀ y ∈ r.watches ++ [x], y.ticket < watches + 1) ∧
      ∀ c ∈ r.collections, c.watch = c.ticket ∧
        ((r.watches ++ [x]).find? fun y => y.ticket = c.ticket).isSome = true := by
  refine ⟨nodup_snoc h.tickets fun y member same => ?_, forall_snoc (fun y member => ?_) ?_, fun c member => ?_⟩
  · exact Nat.ne_of_lt (h.born y member) (same.trans new)
  · exact Nat.lt_succ_of_lt (h.born y member)
  · exact new ▸ Nat.lt_succ_self _
  · obtain ⟨own, found⟩ := h.owned c member
    rw [watch?] at found
    rw [List.find?_append, Option.isSome_or, found]
    exact ⟨own, rfl⟩

/-- What a new cell means for the cells. -/
theorem Tidy.cell_added (h : r.Tidy watches) (c : Cell) (new : c.id = r.cells.length) :
    ((r.cells ++ [c]).map Cell.id).Nodup ∧ ∀ d ∈ r.cells ++ [c], d.id < (r.cells ++ [c]).length := by
  rw [List.length_append, List.length_singleton]
  refine ⟨nodup_snoc h.ids fun d member same => ?_, forall_snoc (fun d member => ?_) ?_⟩
  · exact Nat.ne_of_lt (h.given d member) (same.trans new)
  · exact Nat.lt_succ_of_lt (h.given d member)
  · exact new ▸ Nat.lt_succ_self _

theorem Tidy.watch_closed (h : r.Tidy watches) (closed : r.closed = true) (uri : String) :
    Tidy { r with
      cells := r.cells ++ [⟨r.cells.length, none, 0, false⟩]
      watches := r.watches ++ [⟨watches, uri, r.cells.length, 0⟩] } (watches + 1) := by
  obtain ⟨ids, given⟩ := h.cell_added ⟨r.cells.length, none, 0, false⟩ rfl
  obtain ⟨tickets, born, owned⟩ := h.watch_added ⟨watches, uri, r.cells.length, 0⟩ rfl
  have empty : ∀ s ∈ r.slots, False := by simp [h.shut closed]
  exact {
    ids, given, tickets, born, owned
    uris := h.uris
    shelves := h.shelves
    counts := fun s slot => (empty s slot).elim
    held := fun s slot => (empty s slot).elim
    placed := fun s slot => (empty s slot).elim
    cells := by
      refine forall_snoc (fun x member => ?_) ?_
      · obtain ⟨c, found, seen, attached⟩ := h.cells x member
        exact ⟨c, cell?_append found _, seen, attached⟩
      · exact ⟨_, h.cell_new ⟨_, none, 0, false⟩ rfl, Nat.le_refl _, by rw [closed]; rfl⟩
    shared := fun isOpen => by cases closed.symm.trans isOpen
    shut := h.shut
    busy := h.busy }

/-- The slots of a router when the number of watches of one URI changes. -/
def recounted (uri : String) (count : Nat → Nat) (slots : List Slot) : List Slot :=
  slots.map fun s => if s.uri = uri then { s with watchers := count s.watchers } else s

theorem uris_recounted (uri : String) (count : Nat → Nat) (slots : List Slot) :
    (recounted uri count slots).map Slot.uri = slots.map Slot.uri := by
  refine map_key_map (fun s => ?_) slots
  split <;> rfl

theorem shelves_recounted (uri : String) (count : Nat → Nat) (slots : List Slot) :
    (recounted uri count slots).map Slot.cell = slots.map Slot.cell := by
  refine map_key_map (fun s => ?_) slots
  split <;> rfl

theorem mem_recounted {uri : String} {count : Nat → Nat} {slots : List Slot} {s : Slot}
    (member : s ∈ recounted uri count slots) : ∃ t ∈ slots, s.uri = t.uri ∧ s.cell = t.cell ∧
      s.watchers = if t.uri = uri then count t.watchers else t.watchers := by
  obtain ⟨t, slot, rfl⟩ := List.mem_map.mp member
  refine ⟨t, slot, ?_⟩
  split
  · exact ⟨rfl, rfl, rfl⟩
  · exact ⟨rfl, rfl, rfl⟩

theorem recounted_mem (uri : String) (count : Nat → Nat) {slots : List Slot} {t : Slot}
    (member : t ∈ slots) : ∃ s ∈ recounted uri count slots, s.uri = t.uri ∧ s.cell = t.cell := by
  refine ⟨_, List.mem_map_of_mem member, ?_⟩
  split
  · exact ⟨rfl, rfl⟩
  · exact ⟨rfl, rfl⟩

theorem Tidy.watch_shared (h : r.Tidy watches) {s : Slot} {c : Cell} (slot : s ∈ r.slots)
    (cell : r.cell? s.cell = some c) :
    Tidy { r with
      slots := recounted s.uri (· + 1) r.slots
      watches := r.watches ++ [⟨watches, s.uri, s.cell, c.version⟩] } (watches + 1) := by
  obtain ⟨tickets, born, owned⟩ := h.watch_added ⟨watches, s.uri, s.cell, c.version⟩ rfl
  have isOpen := h.open_of_slot slot
  exact {
    ids := h.ids
    given := h.given
    tickets, born, owned
    uris := by rw [uris_recounted]; exact h.uris
    shelves := by rw [shelves_recounted]; exact h.shelves
    counts := by
      intro t member
      obtain ⟨u, old, uri, _, count⟩ := mem_recounted member
      rw [count, uri, List.countP_append, List.countP_singleton, h.counts u old]
      by_cases same : u.uri = s.uri
      · simp [same]
      · simp [same, Ne.symm same]
    held := by
      intro t member
      obtain ⟨u, old, _, _, count⟩ := mem_recounted member
      have some := h.held u old
      rw [count]
      split <;> omega
    placed := by
      intro t member
      obtain ⟨u, old, _, shelf, _⟩ := mem_recounted member
      rw [shelf]
      exact h.placed u old
    cells := by
      refine forall_snoc h.cells ⟨c, cell, Nat.le_refl _, ?_⟩
      obtain ⟨d, found, attached⟩ := h.placed s slot
      cases cell.symm.trans found
      rw [attached, isOpen]
      rfl
    shared := by
      refine fun isOpen => forall_snoc (fun x member => ?_) (recounted_mem s.uri (· + 1) slot)
      obtain ⟨t, old, uri, cell⟩ := h.shared isOpen x member
      obtain ⟨u, new, same, shelf⟩ := recounted_mem s.uri (· + 1) old
      exact ⟨u, new, same.trans uri, shelf.trans cell⟩
    shut := fun closed => by cases isOpen.symm.trans closed
    busy := h.busy }

theorem Tidy.watch_first (h : r.Tidy watches) {uri : String} (isOpen : r.closed = false)
    (unwatched : r.slot? uri = none) :
    Tidy { r with
      slots := r.slots ++ [⟨uri, r.cells.length, 1⟩]
      cells := r.cells ++ [⟨r.cells.length, none, 0, true⟩]
      watches := r.watches ++ [⟨watches, uri, r.cells.length, 0⟩] } (watches + 1) := by
  obtain ⟨ids, given⟩ := h.cell_added ⟨r.cells.length, none, 0, true⟩ rfl
  obtain ⟨tickets, born, owned⟩ := h.watch_added ⟨watches, uri, r.cells.length, 0⟩ rfl
  have other : ∀ s ∈ r.slots, s.uri ≠ uri := by
    intro s slot
    simpa using List.find?_eq_none.mp unwatched s slot
  have alone : r.watches.countP (fun x => x.uri = uri) = 0 := by
    refine List.countP_eq_zero.mpr fun x member same => ?_
    obtain ⟨s, slot, own, _⟩ := h.shared isOpen x member
    exact other s slot (own.trans (of_decide_eq_true same))
  have new := h.cell_new ⟨r.cells.length, none, 0, true⟩ rfl
  exact {
    ids, given, tickets, born, owned
    uris := nodup_snoc h.uris other
    shelves := by
      refine nodup_snoc h.shelves fun s slot => ?_
      obtain ⟨c, found, _⟩ := h.placed s slot
      obtain ⟨member, id⟩ := mem_of_find found
      exact id ▸ Nat.ne_of_lt (h.given c member)
    counts := by
      refine forall_snoc (fun s slot => ?_) ?_
      · rw [List.countP_append, List.countP_singleton, h.counts s slot]
        simp [Ne.symm (other s slot)]
      · rw [List.countP_append, List.countP_singleton, alone]
        simp
    held := forall_snoc h.held Nat.one_pos
    placed := by
      refine forall_snoc (fun s slot => ?_) ⟨_, new, rfl⟩
      obtain ⟨c, found, attached⟩ := h.placed s slot
      exact ⟨c, cell?_append found _, attached⟩
    cells := by
      refine forall_snoc (fun x member => ?_) ⟨_, new, Nat.le_refl _, by rw [isOpen]; rfl⟩
      obtain ⟨c, found, seen, attached⟩ := h.cells x member
      exact ⟨c, cell?_append found _, seen, attached⟩
    shared := by
      refine fun isOpen => forall_snoc (fun x member => ?_) ?_
      · obtain ⟨s, slot, uri, cell⟩ := h.shared isOpen x member
        exact ⟨s, List.mem_append_left _ slot, uri, cell⟩
      · exact ⟨_, List.mem_append_right _ (List.mem_singleton_self _), rfl, rfl⟩
    shut := fun closed => by cases isOpen.symm.trans closed
    busy := h.busy }

/-- What a new watch finds: a cell that is its own or shared, which it has seen. -/
theorem watch_eq (h : r.Tidy watches) (uri : String) :
    (r.closed = true ∧ r.watch watches uri = { r with
      cells := r.cells ++ [⟨r.cells.length, none, 0, false⟩]
      watches := r.watches ++ [⟨watches, Uri.canonical uri, r.cells.length, 0⟩] }) ∨
    (r.closed = false ∧ r.slot? (Uri.canonical uri) = none ∧ r.watch watches uri = { r with
      slots := r.slots ++ [⟨Uri.canonical uri, r.cells.length, 1⟩]
      cells := r.cells ++ [⟨r.cells.length, none, 0, true⟩]
      watches := r.watches ++ [⟨watches, Uri.canonical uri, r.cells.length, 0⟩] }) ∨
    ∃ s ∈ r.slots, s.uri = Uri.canonical uri ∧ ∃ c, r.cell? s.cell = some c ∧ c.attached = true ∧
      r.watch watches uri = { r with
        slots := recounted s.uri (· + 1) r.slots
        watches := r.watches ++ [⟨watches, s.uri, s.cell, c.version⟩] } := by
  cases closed : r.closed with
  | true =>
    refine .inl ⟨rfl, ?_⟩
    simp only [watch, closed, if_true]
  | false =>
    cases found : r.slot? (Uri.canonical uri) with
    | none =>
      refine .inr (.inl ⟨rfl, rfl, ?_⟩)
      simp only [watch, closed, found, Bool.false_eq_true, if_false]
    | some s =>
      obtain ⟨slot, own⟩ := mem_of_find found
      obtain ⟨c, cell, attached⟩ := h.placed s slot
      refine .inr (.inr ⟨s, slot, own, c, cell, attached, ?_⟩)
      simp only [watch, closed, found, cell, own, Bool.false_eq_true, if_false]
      rfl

/-- A watch is added to a router, and looks into a cell; what there was before stays. -/
structure Added (r s : Router) (x : Watch) (c : Cell) : Prop where
  clock : s.clock = r.clock
  closed : s.closed = r.closed
  collections : s.collections = r.collections
  watches : s.watches = r.watches ++ [x]
  cell : s.cell? x.cell = some c
  old : ∀ id d, r.cell? id = some d → s.cell? id = some d

/-- A new watch has seen what is in its cell. -/
theorem Tidy.added (h : r.Tidy watches) (uri : String) : ∃ x c, x.ticket = watches ∧
    x.uri = Uri.canonical uri ∧ x.seen = c.version ∧ Added r (r.watch watches uri) x c := by
  obtain ⟨_, same⟩ | ⟨_, _, same⟩ | ⟨s, _, own, c, cell, _, same⟩ := watch_eq h uri
  · refine ⟨⟨watches, Uri.canonical uri, r.cells.length, 0⟩, ⟨r.cells.length, none, 0, false⟩, rfl, rfl, rfl, ?_⟩
    rw [same]
    exact ⟨rfl, rfl, rfl, rfl, h.cell_new _ rfl, fun id d found => cell?_append found _⟩
  · refine ⟨⟨watches, Uri.canonical uri, r.cells.length, 0⟩, ⟨r.cells.length, none, 0, true⟩, rfl, rfl, rfl, ?_⟩
    rw [same]
    exact ⟨rfl, rfl, rfl, rfl, h.cell_new _ rfl, fun id d found => cell?_append found _⟩
  · refine ⟨⟨watches, s.uri, s.cell, c.version⟩, c, rfl, own, rfl, ?_⟩
    rw [same]
    exact ⟨rfl, rfl, rfl, rfl, cell, fun id d found => found⟩

theorem Tidy.watch (h : r.Tidy watches) (uri : String) : (r.watch watches uri).Tidy (watches + 1) := by
  obtain ⟨closed, same⟩ | ⟨isOpen, unwatched, same⟩ | ⟨s, slot, _, c, cell, _, same⟩ := watch_eq h uri
  · exact same ▸ h.watch_closed closed _
  · exact same ▸ h.watch_first isOpen unwatched
  · exact same ▸ h.watch_shared slot cell

/-! ## Giving up a watch -/

/-- A cell that publications do not reach any more. -/
def detached (c : Cell) : Cell := { c with attached := false }

/-- A cell after a publication. -/
def filled (batch : List Diagnostic) (c : Cell) : Cell :=
  { c with batch := some batch, version := c.version + 1 }

theorem id_detached (c : Cell) : (detached c).id = c.id := rfl

theorem id_filled (batch : List Diagnostic) (c : Cell) : (filled batch c).id = c.id := rfl

/-- The cells of a router when one of them changes. -/
def refilled (id : Nat) (f : Cell → Cell) (cells : List Cell) : List Cell :=
  cells.map fun c => if c.id = id then f c else c

section Refilled

variable {f : Cell → Cell} {id other : Nat} {c : Cell}

theorem find?_refilled (same : ∀ c, (f c).id = c.id) (found : r.cell? id = some c) :
    (refilled id f r.cells).find? (fun c => c.id = id) = some (f c) :=
  find?_update same found

theorem find?_refilled_other (same : ∀ c, (f c).id = c.id) (different : other ≠ id)
    (found : r.cell? other = some c) :
    (refilled id f r.cells).find? (fun c => c.id = other) = some c :=
  (find?_update_other same (Ne.symm different) r.cells).trans found

theorem Tidy.ids_refilled (h : r.Tidy watches) (id : Nat) (same : ∀ c, (f c).id = c.id) :
    ((refilled id f r.cells).map Cell.id).Nodup ∧
      ∀ c ∈ refilled id f r.cells, c.id < (refilled id f r.cells).length := by
  rw [refilled, map_key_map (key_update same id), List.length_map]
  refine ⟨h.ids, fun c member => ?_⟩
  obtain ⟨d, old, rfl⟩ := List.mem_map.mp member
  rw [key_update same]
  exact h.given d old

end Refilled

/-- The watches without the one of a ticket. -/
def released (ticket : Ticket) (watches : List Watch) : List Watch :=
  watches.filter fun x => x.ticket ≠ ticket

section Released

variable {x : Watch} {ticket : Ticket}

/-- What the end of a watch that is not busy means for the watches and collections. -/
theorem Tidy.watch_removed (h : r.Tidy watches) (idle : ∀ c ∈ r.collections, c.ticket ≠ ticket) :
    ((released ticket r.watches).map Watch.ticket).Nodup ∧
      (∀ y ∈ released ticket r.watches, y.ticket < watches) ∧
      ∀ c ∈ r.collections, c.watch = c.ticket ∧
        ((released ticket r.watches).find? fun y => y.ticket = c.ticket).isSome = true := by
  refine ⟨h.tickets.sublist (List.filter_sublist.map _), fun y member => ?_, fun c member => ?_⟩
  · exact h.born y (List.mem_filter.mp member).1
  · obtain ⟨own, found⟩ := h.owned c member
    rw [watch?] at found
    rw [released, find?_filter_other (idle c member), found]
    exact ⟨own, rfl⟩

theorem Tidy.release_closed (h : r.Tidy watches) (closed : r.closed = true)
    (idle : ∀ c ∈ r.collections, c.ticket ≠ ticket) :
    Tidy { r with watches := released ticket r.watches } watches := by
  obtain ⟨tickets, born, owned⟩ := h.watch_removed idle
  have empty : ∀ s ∈ r.slots, False := by simp [h.shut closed]
  exact {
    ids := h.ids
    given := h.given
    tickets, born, owned
    uris := h.uris
    shelves := h.shelves
    counts := fun s slot => (empty s slot).elim
    held := h.held
    placed := h.placed
    cells := fun y member => h.cells y (List.mem_filter.mp member).1
    shared := fun isOpen => by cases closed.symm.trans isOpen
    shut := h.shut
    busy := h.busy }

theorem Tidy.release_shared (h : r.Tidy watches) (member : x ∈ r.watches) {s : Slot} (slot : s ∈ r.slots)
    (uri : s.uri = x.uri) (others : 1 < s.watchers) (idle : ∀ c ∈ r.collections, c.ticket ≠ x.ticket) :
    Tidy { r with
      slots := recounted x.uri (· - 1) r.slots
      watches := released x.ticket r.watches } watches := by
  obtain ⟨tickets, born, owned⟩ := h.watch_removed idle
  have isOpen := h.open_of_slot slot
  exact {
    ids := h.ids
    given := h.given
    tickets, born, owned
    uris := by rw [uris_recounted]; exact h.uris
    shelves := by rw [shelves_recounted]; exact h.shelves
    counts := by
      intro t (counted : t ∈ recounted x.uri (· - 1) r.slots)
      obtain ⟨u, old, own, _, count⟩ := mem_recounted counted
      have parts := countP_without h.tickets member fun y => y.uri = u.uri
      rw [count, own, h.counts u old, parts, released]
      by_cases same : u.uri = x.uri
      · simp [same]
      · simp [same, Ne.symm same]
    held := by
      intro t (counted : t ∈ recounted x.uri (· - 1) r.slots)
      obtain ⟨u, old, _, _, count⟩ := mem_recounted counted
      rw [count]
      split
      · next same =>
        have equal : u = s := List.inj_on_of_nodup_map h.uris old slot (same.trans uri.symm)
        rw [equal]
        omega
      · exact h.held u old
    placed := by
      intro t (counted : t ∈ recounted x.uri (· - 1) r.slots)
      obtain ⟨u, old, _, shelf, _⟩ := mem_recounted counted
      rw [shelf]
      exact h.placed u old
    cells := fun y member => h.cells y (List.mem_filter.mp member).1
    shared := by
      intro isOpen y remaining
      obtain ⟨t, old, own, cell⟩ := h.shared isOpen y (List.mem_filter.mp remaining).1
      obtain ⟨u, new, same, shelf⟩ := recounted_mem x.uri (· - 1) old
      exact ⟨u, new, same.trans own, shelf.trans cell⟩
    shut := fun closed => by cases isOpen.symm.trans closed
    busy := h.busy }

/-- The last watch of a URI takes the slot with it. -/
theorem Tidy.release_last (h : r.Tidy watches) (member : x ∈ r.watches) {s : Slot} (slot : s ∈ r.slots)
    (uri : s.uri = x.uri) (last : s.watchers ≤ 1) (idle : ∀ c ∈ r.collections, c.ticket ≠ x.ticket) :
    (∀ y ∈ released x.ticket r.watches, y.uri ≠ x.uri) ∧
    Tidy { r with
      cells := refilled s.cell detached r.cells
      slots := r.slots.filter fun t => t.uri ≠ x.uri
      watches := released x.ticket r.watches } watches := by
  obtain ⟨tickets, born, owned⟩ := h.watch_removed idle
  obtain ⟨ids, given⟩ := h.ids_refilled s.cell id_detached
  have isOpen := h.open_of_slot slot
  have alone : ∀ y ∈ released x.ticket r.watches, y.uri ≠ x.uri := by
    have parts := countP_without h.tickets member fun y => y.uri = x.uri
    have count := h.counts s slot
    rw [uri, parts, decide_eq_true rfl] at count
    have rest : (released x.ticket r.watches).countP (fun y => y.uri = x.uri) = 0 := by
      simp only [released, Bool.toNat_true] at count ⊢
      omega
    intro y remaining same
    exact List.countP_eq_zero.mp rest y remaining (decide_eq_true same)
  refine ⟨alone, {
    ids, given, tickets, born, owned
    uris := h.uris.sublist (List.filter_sublist.map _)
    shelves := h.shelves.sublist (List.filter_sublist.map _)
    counts := ?_
    held := fun t remaining => h.held t (List.mem_filter.mp remaining).1
    placed := ?_
    cells := ?_
    shared := ?_
    shut := fun closed => by cases isOpen.symm.trans closed
    busy := h.busy }⟩
  · intro t remaining
    obtain ⟨old, other⟩ := List.mem_filter.mp remaining
    have different : x.uri ≠ t.uri := Ne.symm (of_decide_eq_true other)
    have parts := countP_without h.tickets member fun y => y.uri = t.uri
    rw [decide_eq_false different] at parts
    exact (h.counts t old).trans parts
  · intro t remaining
    obtain ⟨old, other⟩ := List.mem_filter.mp remaining
    have apart : t.cell ≠ s.cell := by
      intro same
      have equal := List.inj_on_of_nodup_map h.shelves old slot same
      exact of_decide_eq_true other ((congrArg Slot.uri equal).trans uri)
    obtain ⟨c, found, attached⟩ := h.placed t old
    exact ⟨c, find?_refilled_other id_detached apart found, attached⟩
  · intro y remaining
    have old := (List.mem_filter.mp remaining).1
    have apart := h.cell_apart isOpen old slot (uri ▸ alone y remaining)
    obtain ⟨c, found, seen, attached⟩ := h.cells y old
    exact ⟨c, find?_refilled_other id_detached apart found, seen, attached⟩
  · intro isOpen y remaining
    obtain ⟨t, old, own, cell⟩ := h.shared isOpen y (List.mem_filter.mp remaining).1
    refine ⟨t, List.mem_filter.mpr ⟨old, decide_eq_true ?_⟩, own, cell⟩
    exact own ▸ alone y remaining

/-- What giving up a watch does: it goes, and with the last one of its URI the slot. -/
theorem unwatch_eq (h : r.Tidy watches) (found : r.watch? ticket = some x) :
    (r.closed = true ∧ r.unwatch ticket = { r with watches := released ticket r.watches }) ∨
    ∃ s ∈ r.slots, s.uri = x.uri ∧ s.cell = x.cell ∧
      ((s.watchers ≤ 1 ∧ r.unwatch ticket = { r with
          cells := refilled s.cell detached r.cells
          slots := r.slots.filter fun t => t.uri ≠ x.uri
          watches := released ticket r.watches }) ∨
        (1 < s.watchers ∧ r.unwatch ticket = { r with
          slots := recounted x.uri (· - 1) r.slots
          watches := released ticket r.watches })) := by
  obtain ⟨member, _⟩ := mem_of_find found
  obtain closed | closed := Bool.eq_false_or_eq_true r.closed
  · refine .inl ⟨closed, ?_⟩
    simp only [unwatch, found, release, slot?, h.shut closed, List.find?_nil, released]
  · obtain ⟨s, looked, cell⟩ := h.slot closed member
    obtain ⟨slot, uri⟩ := mem_of_find looked
    refine .inr ⟨s, slot, uri, cell, ?_⟩
    by_cases last : s.watchers ≤ 1
    · refine .inl ⟨last, ?_⟩
      simp only [unwatch, found, release, looked, if_pos last, detach]
      rfl
    · refine .inr ⟨Nat.lt_of_not_le last, ?_⟩
      simp only [unwatch, found, release, looked, if_neg last]
      rfl

theorem isIdle_iff : r.isIdle ticket = true ↔
    (∃ x, r.watch? ticket = some x) ∧ ∀ c ∈ r.collections, c.ticket ≠ ticket := by
  rw [isIdle, Bool.and_eq_true, Option.isSome_iff_exists, Option.isNone_iff_eq_none, collection?,
    List.find?_eq_none]
  simp

/-- A watch is taken out of a router; the others and their cells stay. -/
structure Removed (r s : Router) (ticket : Ticket) : Prop where
  clock : s.clock = r.clock
  closed : s.closed = r.closed
  collections : s.collections = r.collections
  watches : s.watches = released ticket r.watches
  cells : ∀ y ∈ s.watches, ∀ d, r.cell? y.cell = some d → s.cell? y.cell = some d

theorem Tidy.removed (h : r.Tidy watches) (idle : r.isIdle ticket = true) :
    Removed r (r.unwatch ticket) ticket := by
  obtain ⟨⟨x, found⟩, idle⟩ := isIdle_iff.mp idle
  obtain ⟨member, rfl⟩ := mem_of_find found
  obtain ⟨_, same⟩ | ⟨s, slot, uri, _, ⟨last, same⟩ | ⟨_, same⟩⟩ := unwatch_eq h found
  · rw [same]
    exact ⟨rfl, rfl, rfl, rfl, fun _ _ _ found => found⟩
  · rw [same]
    refine ⟨rfl, rfl, rfl, rfl, fun y remaining d found => ?_⟩
    have other := (h.release_last member slot uri last idle).1 y remaining
    have old := (List.mem_filter.mp remaining).1
    exact find?_refilled_other id_detached (h.cell_apart (h.open_of_slot slot) old slot (uri ▸ other)) found
  · rw [same]
    exact ⟨rfl, rfl, rfl, rfl, fun _ _ _ found => found⟩

theorem Tidy.unwatch (h : r.Tidy watches) (idle : r.isIdle ticket = true) :
    (r.unwatch ticket).Tidy watches := by
  obtain ⟨⟨x, found⟩, idle⟩ := isIdle_iff.mp idle
  obtain ⟨member, rfl⟩ := mem_of_find found
  obtain ⟨closed, same⟩ | ⟨s, slot, uri, _, ⟨last, same⟩ | ⟨others, same⟩⟩ := unwatch_eq h found
  · exact same ▸ h.release_closed closed idle
  · exact same ▸ (h.release_last member slot uri last idle).2
  · exact same ▸ h.release_shared member slot uri others idle

end Released

/-! ## Publications and the end -/

theorem Tidy.publish (h : r.Tidy watches) (s : Slot) (batch : List Diagnostic) :
    Tidy { r with
      cells := refilled s.cell (filled batch) r.cells }
      watches := by
  obtain ⟨ids, given⟩ := h.ids_refilled s.cell (id_filled batch)
  exact {
    ids, given
    tickets := h.tickets
    born := h.born
    uris := h.uris
    shelves := h.shelves
    counts := h.counts
    held := h.held
    placed := by
      intro t slot
      obtain ⟨c, found, attached⟩ := h.placed t slot
      by_cases own : t.cell = s.cell
      · rw [own] at found ⊢
        exact ⟨_, find?_refilled (id_filled batch) found, attached⟩
      · exact ⟨c, find?_refilled_other (id_filled batch) own found, attached⟩
    cells := by
      intro x member
      obtain ⟨c, found, seen, attached⟩ := h.cells x member
      by_cases own : x.cell = s.cell
      · rw [own] at found ⊢
        exact ⟨_, find?_refilled (id_filled batch) found, Nat.le_succ_of_le seen, attached⟩
      · exact ⟨c, find?_refilled_other (id_filled batch) own found, seen, attached⟩
    shared := h.shared
    shut := h.shut
    busy := h.busy
    owned := h.owned }

/-- What a notification publishes: the URI, in the spelling that counts, and the
diagnostics.  Malformed publications are none. -/
def published? (method : String) (params : Option Value) : Option (String × List Diagnostic) :=
  if method = publishMethod then
    match decodeValue Publication.decode (params.getD .null) with
    | .ok p => some (Uri.canonical p.uri, p.diagnostics)
    | .error _ => none
  else none

/-- What a notification does: a publication fills the cell of its URI, if there is one. -/
theorem route_eq (r : Router) (method : String) (params : Option Value) :
    ((∀ uri batch, published? method params = some (uri, batch) → r.slot? uri = none) ∧
      r.route method params = r) ∨
    ∃ uri batch s, published? method params = some (uri, batch) ∧ r.slot? uri = some s ∧
      r.route method params = { r with
        cells := refilled s.cell (filled batch) r.cells } := by
  rw [route, published?]
  by_cases own : method = publishMethod
  · rw [if_pos own, if_pos own]
    cases decodeValue Publication.decode (params.getD .null) with
    | ok p =>
      dsimp only
      rw [publish]
      cases found : r.slot? (Uri.canonical p.uri) with
      | none =>
        refine .inl ⟨?_, rfl⟩
        rintro _ _ ⟨⟩
        exact found
      | some s => exact .inr ⟨_, _, s, rfl, found, rfl⟩
    | error => exact .inl ⟨nofun, rfl⟩
  · rw [if_neg own, if_neg own]
    exact .inl ⟨nofun, rfl⟩

theorem Tidy.route (h : r.Tidy watches) (method : String) (params : Option Value) :
    (r.route method params).Tidy watches := by
  obtain ⟨_, same⟩ | ⟨uri, batch, s, _, _, same⟩ := route_eq r method params
  · exact same.symm ▸ h
  · exact same ▸ h.publish s batch

theorem cell?_close {id : Nat} {c : Cell} (found : r.cell? id = some c) :
    r.close.cell? id = some (detached c) := by
  rw [cell?] at found
  have looked := find?_map_key id_detached r.cells id
  rw [found] at looked
  exact looked

theorem Tidy.close (h : r.Tidy watches) : r.close.Tidy watches where
  ids := by
    have same : r.close.cells.map Cell.id = r.cells.map Cell.id := map_key_map id_detached r.cells
    rw [same]
    exact h.ids
  given := by
    intro c member
    obtain ⟨d, old, rfl⟩ := List.mem_map.mp member
    rw [Router.close, List.length_map]
    exact h.given d old
  tickets := h.tickets
  born := h.born
  uris := .nil
  shelves := .nil
  counts := List.forall_mem_nil _
  held := List.forall_mem_nil _
  placed := List.forall_mem_nil _
  cells x member := by
    obtain ⟨c, found, seen, _⟩ := h.cells x member
    exact ⟨_, cell?_close found, seen, rfl⟩
  shared := nofun
  shut _ := rfl
  busy := h.busy
  owned := h.owned

/-! ## Collections -/

theorem Tidy.collect (h : r.Tidy watches) {ticket : Ticket} (idle : r.isIdle ticket = true)
    (timeout settle : Nat) : (r.collect ticket ticket timeout settle).Tidy watches := by
  obtain ⟨⟨x, found⟩, idle⟩ := isIdle_iff.mp idle
  exact { h with
    busy := nodup_snoc h.busy idle
    owned := forall_snoc h.owned ⟨rfl, Option.isSome_iff_exists.mpr ⟨x, found⟩⟩ }

/-- Collections that go on or end, and watches that see more, change nothing else. -/
theorem Tidy.collecting (h : r.Tidy watches) {f : Watch → Watch} {collections : List Collection}
    (same : ∀ x, (f x).ticket = x.ticket ∧ (f x).uri = x.uri ∧ (f x).cell = x.cell)
    (seen : ∀ x ∈ r.watches, ∀ c, r.cell? x.cell = some c → x.seen ≤ c.version → (f x).seen ≤ c.version)
    (fewer : (collections.map Collection.ticket).Sublist (r.collections.map Collection.ticket))
    (owned : ∀ c ∈ collections, c.watch = c.ticket) :
    Tidy { r with watches := r.watches.map f, collections } watches where
  ids := h.ids
  given := h.given
  tickets := by
    rw [map_key_map fun x => (same x).1]
    exact h.tickets
  born x member := by
    obtain ⟨y, old, rfl⟩ := List.mem_map.mp member
    rw [(same y).1]
    exact h.born y old
  uris := h.uris
  shelves := h.shelves
  counts s slot := by
    have count := h.counts s slot
    rw [List.countP_map]
    simp only [Function.comp_def, (same _).2.1]
    exact count
  held := h.held
  placed := h.placed
  cells x member := by
    obtain ⟨y, old, rfl⟩ := List.mem_map.mp member
    obtain ⟨c, found, past, attached⟩ := h.cells y old
    rw [(same y).2.2]
    exact ⟨c, found, seen y old c found past, attached⟩
  shared isOpen x member := by
    obtain ⟨y, old, rfl⟩ := List.mem_map.mp member
    rw [(same y).2.1, (same y).2.2]
    exact h.shared isOpen y old
  shut := h.shut
  busy := h.busy.sublist fewer
  owned c member := by
    obtain ⟨d, old, ticket⟩ := List.mem_map.mp (fewer.subset (List.mem_map_of_mem member))
    have found := (h.owned d old).2
    rw [ticket, watch?] at found
    rw [watch?, find?_map_key fun x => (same x).1, Option.isSome_map]
    exact ⟨owned c member, found⟩

end Router

end BlockDiscovery.Session
