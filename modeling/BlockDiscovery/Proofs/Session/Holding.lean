import BlockDiscovery.Proofs.Session.Round

/-! # Slots and those who hold watches

A watch is held from the time it is made until it is given up.  An open router has a slot for just
those URIs that somebody holds a watch of, and the slot counts them.  A closed router has none, and
gets none, however many watches are made and given up later.
-/

namespace BlockDiscovery.Session

open BlockDiscovery.Json BlockDiscovery.Protocol Router

/-- Who holds a watch: its ticket, and the URI that it was made for in its canonical spelling. -/
structure Holder where
  ticket : Ticket
  uri : String
  deriving DecidableEq

/-- The holder of a watch. -/
def Watch.holder (x : Watch) : Holder := ⟨x.ticket, x.uri⟩

namespace Board

/-- Who holds watches after a deed.  Nobody gives up a watch while its collection is under way. -/
def holders (b : Board) (held : List Holder) : Deed → List Holder
  | .watch uri => held ++ [⟨b.watches, Uri.canonical uri⟩]
  | .unwatch ticket =>
    if (b.router.collection? ticket).isSome then held else held.filter fun h => h.ticket ≠ ticket
  | _ => held

/-- Who holds watches after one deed after another. -/
def holdersAfter (b : Board) (held : List Holder) : List Deed → List Holder
  | [] => held
  | deed :: rest => (b.step deed).1.holdersAfter (b.holders held deed) rest

end Board

/-! ## The watches of a router -/

section Watches

variable {r : Router} {watches : Nat} {ticket : Ticket} {x : Watch}

theorem advanceAll_holders (r : Router) (collections : List Collection) :
    (r.advanceAll collections).1.watches.map Watch.holder = r.watches.map Watch.holder := by
  induction collections generalizing r with
  | nil => rfl
  | cons c rest ih =>
    have looked : (r.advanceOne c).1.watches = r.watches.map (r.seeing c.watch) := by
      rw [advanceOne_eq]
      cases r.next c with
      | goesOn => rfl
      | ends => rfl
    have same (x : Watch) : (r.seeing c.watch x).holder = x.holder := by
      obtain ⟨ticket, uri, _⟩ := seeing_keys r c.watch x
      rw [Watch.holder, ticket, uri]
      rfl
    rw [advanceAll_cons, ih, looked, map_key_map same]

theorem holders_released (ticket : Ticket) (watches : List Watch) :
    (released ticket watches).map Watch.holder = (watches.map Watch.holder).filter fun h => h.ticket ≠ ticket := by
  rw [released, List.filter_map]
  rfl

theorem released_absent (absent : r.watch? ticket = none) : released ticket r.watches = r.watches := by
  refine List.filter_eq_self.mpr fun x member => ?_
  simpa using List.find?_eq_none.mp absent x member

end Watches

namespace Board

variable {b : Board} {held : List Holder}

theorem holders_change (tidy : b.router.Tidy b.watches) (deed : Deed) :
    (b.change deed).router.watches.map Watch.holder = b.holders (b.router.watches.map Watch.holder) deed := by
  cases deed with
  | watch uri =>
    obtain ⟨x, c, ticket, canonical, _, added⟩ := tidy.added uri
    have watches : (b.change (.watch uri)).router.watches = b.router.watches ++ [x] := added.watches
    rw [watches, List.map_append, List.map_singleton, Watch.holder, ticket, canonical]
    rfl
  | unwatch ticket =>
    rw [change, Router.change, holders]
    split
    · next idle =>
      have free := (Bool.and_eq_true_iff.mp idle).2
      rw [(tidy.removed idle).watches, holders_released, if_neg]
      rw [Option.isNone_iff_eq_none.mp free]
      exact Bool.false_ne_true
    · next blocked =>
      split
      · rfl
      · next free =>
        have absent : b.router.watch? ticket = none := by
          simpa [isIdle, Option.isSome_eq_false_iff.mp (Bool.eq_false_iff.mpr free)] using blocked
        rw [← holders_released, released_absent absent]
  | route method params =>
    obtain ⟨_, same⟩ | ⟨_, _, _, _, _, same⟩ := route_eq b.router method params
    · exact congrArg (fun r => r.watches.map Watch.holder) same
    · exact congrArg (fun r => r.watches.map Watch.holder) same
  | collect ticket timeout settle =>
    rw [change, Router.change]
    split
    · rfl
    · rfl
  | close => rfl
  | advance milliseconds => rfl

theorem holders_step (tidy : b.router.Tidy b.watches) (deed : Deed) :
    (b.step deed).1.router.watches.map Watch.holder = b.holders (b.router.watches.map Watch.holder) deed := by
  rw [← holders_change tidy, step]
  split
  · exact advanceAll_holders _ _
  · rfl

/-- The watches of a router are those that somebody holds. -/
theorem holdersAfter_eq (tidy : b.router.Tidy b.watches) (deeds : List Deed) :
    b.holdersAfter (b.router.watches.map Watch.holder) deeds = (b.run deeds).2.router.watches.map Watch.holder := by
  induction deeds generalizing b with
  | nil => rfl
  | cons deed rest ih =>
    rw [holdersAfter, ← holders_step tidy, ih (tidy_step tidy deed)]
    rfl

/-! ## The end -/

theorem closed_change (tidy : b.router.Tidy b.watches) {deed : Deed} (goesOn : deed ≠ .close) :
    (b.change deed).router.closed = b.router.closed := by
  cases deed with
  | watch uri =>
    obtain ⟨_, _, _, _, _, added⟩ := tidy.added uri
    exact added.closed
  | unwatch ticket =>
    rw [change, Router.change]
    split
    · next idle => exact (tidy.removed idle).closed
    · rfl
  | route method params =>
    obtain ⟨_, same⟩ | ⟨_, _, _, _, _, same⟩ := route_eq b.router method params
    · exact congrArg Router.closed same
    · have closed := congrArg Router.closed same
      exact closed
  | collect ticket timeout settle =>
    rw [change, Router.change]
    split
    · rfl
    · rfl
  | close => exact absurd rfl goesOn
  | advance milliseconds => rfl

theorem closed_step (tidy : b.router.Tidy b.watches) (deed : Deed) :
    (b.step deed).1.router.closed = true ↔ .close = deed ∨ b.router.closed = true := by
  have stepped : (b.step deed).1.router.closed = (b.change deed).router.closed := by
    rw [step]
    split
    · exact (run_same _).closed
    · rfl
  rw [stepped]
  by_cases ends : .close = deed
  · subst ends
    exact ⟨fun _ => .inl rfl, fun _ => rfl⟩
  · rw [closed_change tidy (Ne.symm ends)]
    exact (or_iff_right ends).symm

/-- A router is closed once the connection has ended, and for good. -/
theorem closed_run (tidy : b.router.Tidy b.watches) (deeds : List Deed) :
    (b.run deeds).2.router.closed = true ↔ .close ∈ deeds ∨ b.router.closed = true := by
  induction deeds generalizing b with
  | nil => exact (or_iff_right List.not_mem_nil).symm
  | cons deed rest ih =>
    have later := ih (tidy_step tidy deed)
    rw [closed_step tidy] at later
    rw [List.mem_cons, or_comm (a := Deed.close = deed), or_assoc]
    exact later

end Board

/-! ## Slots -/

section Slots

variable {r : Router} {watches : Nat} {x : Watch} {s : Slot}

theorem countP_holder (uri : String) (watches : List Watch) :
    (watches.map Watch.holder).countP (fun h => h.uri = uri) = watches.countP fun x => x.uri = uri := by
  rw [List.countP_map]
  rfl

/-- Giving up a watch of an open router takes one off the count of its slot, which goes with the last
watch, and leaves the other slots as they are. -/
theorem slot?_unwatch (tidy : r.Tidy watches) (isOpen : r.closed = false) (member : x ∈ r.watches) :
    ∃ s, r.slot? x.uri = some s ∧ 0 < s.watchers ∧
      (r.unwatch x.ticket).slot? x.uri =
        (if s.watchers = 1 then none else some { s with watchers := s.watchers - 1 }) ∧
      ∀ uri ≠ x.uri, (r.unwatch x.ticket).slot? uri = r.slot? uri := by
  have found : r.watch? x.ticket = some x := find?_of_mem tidy.tickets member
  obtain ⟨closed, _⟩ | ⟨s, slot, uri, _, changed⟩ := unwatch_eq tidy found
  · cases isOpen.symm.trans closed
  have looked : r.slot? x.uri = some s := uri ▸ find?_of_mem tidy.uris slot
  have some := tidy.held s slot
  refine ⟨s, looked, some, ?_⟩
  obtain ⟨last, same⟩ | ⟨others, same⟩ := changed
  · rw [same, if_pos (by omega)]
    exact ⟨find?_filter_own _ _, fun other different => find?_filter_other different _⟩
  · rw [same, if_neg (by omega)]
    have keeps (s : Slot) : { s with watchers := s.watchers - 1 }.uri = s.uri := rfl
    exact ⟨find?_update keeps looked, fun other different => find?_update_other keeps (Ne.symm different) _⟩

end Slots

/-- Whatever is done with the watches of a connection: until it ends there is a slot for a URI just if
somebody holds a watch of it, and the slot counts those who do; whoever gives up a watch takes one
off a count that is not zero, and leaves the other slots alone.  After the end there are no slots. -/
theorem slots_count_holders (deeds : List Deed) :
    let r := (Board.fresh.run deeds).2.router
    let held := Board.fresh.holdersAfter [] deeds
    (r.slots.map Slot.uri).Nodup ∧
    (∀ s ∈ r.slots, s.watchers = held.countP fun h => h.uri = s.uri) ∧
    (.close ∉ deeds →
      (∀ uri, (∃ s ∈ r.slots, s.uri = uri) ↔ ∃ h ∈ held, h.uri = uri) ∧
      ∀ h ∈ held, ∃ s, r.slot? h.uri = some s ∧ 0 < s.watchers ∧
        (r.unwatch h.ticket).slot? h.uri =
          (if s.watchers = 1 then none else some { s with watchers := s.watchers - 1 }) ∧
        ∀ uri ≠ h.uri, (r.unwatch h.ticket).slot? uri = r.slot? uri) ∧
    (.close ∈ deeds → r.slots = []) := by
  intro r held
  have tidy : r.Tidy (Board.fresh.run deeds).2.watches := Board.tidy_run .fresh deeds
  have watches : held = r.watches.map Watch.holder := Board.holdersAfter_eq .fresh deeds
  have closed : r.closed = true ↔ .close ∈ deeds :=
    (Board.closed_run .fresh deeds).trans (or_iff_left Bool.false_ne_true)
  have counts : ∀ s ∈ r.slots, s.watchers = held.countP fun h => h.uri = s.uri := by
    intro s slot
    rw [watches, countP_holder, tidy.counts s slot]
  refine ⟨tidy.uris, counts, fun goesOn => ?_, fun ended => tidy.shut (closed.mpr ended)⟩
  have isOpen : r.closed = false := Bool.eq_false_iff.mpr (mt closed.mp goesOn)
  refine ⟨fun uri => ⟨?_, ?_⟩, fun h member => ?_⟩
  · rintro ⟨s, slot, rfl⟩
    have some := tidy.held s slot
    rw [counts s slot, List.countP_pos_iff] at some
    simpa using some
  · rintro ⟨h, member, rfl⟩
    rw [watches] at member
    obtain ⟨x, watch, rfl⟩ := List.mem_map.mp member
    obtain ⟨s, slot, own, _⟩ := tidy.shared isOpen x watch
    exact ⟨s, slot, own⟩
  · rw [watches] at member
    obtain ⟨x, watch, rfl⟩ := List.mem_map.mp member
    exact slot?_unwatch tidy isOpen watch

/-- Two watches of one document in two spellings, of which the first is given up, and a watch of another
one that is given up too.  The holder that is left is counted, and the slot goes with it. -/
theorem slots_count_holders_two_spellings :
    let deeds := [.watch "file:///a b", .watch "untitled:x", .watch "file:///a%20b", .unwatch 0,
      .route "window/logMessage" none, .unwatch 1]
    let r := (Board.fresh.run deeds).2.router
    .close ∉ deeds ∧ Board.fresh.holdersAfter [] deeds = [⟨2, "file:///a%20b"⟩] ∧
      (∃ s ∈ r.slots, s.uri = "file:///a%20b") ∧ (¬ ∃ s ∈ r.slots, s.uri = "untitled:x") ∧
      (r.unwatch 2).slot? "file:///a%20b" = none := by
  intro deeds r
  have goesOn : .close ∉ deeds := by simp [deeds]
  have held : Board.fresh.holdersAfter [] deeds = [⟨2, "file:///a%20b"⟩] := by decide +kernel
  obtain ⟨_, counts, during, _⟩ := slots_count_holders deeds
  obtain ⟨slots, lowers⟩ := during goesOn
  rw [held] at counts slots lowers
  refine ⟨goesOn, held, (slots _).mpr ⟨_, List.mem_singleton_self _, rfl⟩, fun there => ?_, ?_⟩
  · obtain ⟨h, member, other⟩ := (slots "untitled:x").mp there
    rw [List.mem_singleton.mp member] at other
    revert other
    decide
  · obtain ⟨s, found, _, lowered, _⟩ := lowers _ (List.mem_singleton_self _)
    obtain ⟨slot, own⟩ := mem_of_find found
    have alone : s.watchers = 1 := by
      rw [counts s slot, own]
      rfl
    rw [if_pos alone] at lowered
    exact lowered

end BlockDiscovery.Session
