import BlockDiscovery.Proofs.Session.Sharing
import BlockDiscovery.Proofs.Uri.RoundTrip

/-! # Echoed URIs reach their watches

A watch keeps the canonical spelling of its URI, and a publication is put where the canonical
spelling of its own URI says.  The URI of a path is its own canonical spelling, so a server that
repeats it reaches the watch that was made for the path, and the watch of no other path.
-/

namespace BlockDiscovery.Session

open BlockDiscovery BlockDiscovery.Json BlockDiscovery.Protocol

/-! ## The URI of a watch -/

namespace Recipient

variable {p : Recipient} {uri : String} {ticket : Ticket}

/-- A mailbox stays that of its URI. -/
theorem Holds.after (holds : Holds uri (fun _ => True) p) (born : ticket < p.watches) (deeds : List Deed) :
    Holds uri (fun _ => True) (p.run ticket deeds).2 := by
  induction deeds generalizing p with
  | nil => exact holds
  | cons deed rest ih =>
    have hears : ∀ h ∈ heard uri p.clock p.isClosed [deed], True := fun _ _ => trivial
    have changed : Holds uri (fun _ => True) (p.change ticket deed) := holds.change born hears
    refine ih ?_ (Nat.lt_of_lt_of_le born (step_forward p ticket deed).2.2)
    rw [step]
    split
    · exact changed.look.1
    · exact changed

end Recipient

/-- A watch keeps the canonical spelling of the URI that it was made for. -/
theorem watch_uri {front back : List Deed} {uri : String} {x : Watch}
    (found : (Board.fresh.run (front ++ .watch uri :: back)).2.router.watch? (Board.fresh.run front).2.watches = some x) :
    x.uri = Uri.canonical uri := by
  generalize own : (Board.fresh.run front).2.watches = ticket at found
  obtain ⟨before, _⟩ := agrees_run (agrees_fresh ticket) .fresh front
  obtain ⟨agrees, _⟩ := agrees_run (agrees_fresh ticket) .fresh (front ++ .watch uri :: back)
  have unborn : (Recipient.fresh.run ticket front).2.watches = ticket := before.watches.trans own
  have holds : Recipient.Holds (Uri.canonical uri) (fun _ => True)
      ((Recipient.fresh.run ticket front).2.step ticket (.watch uri)).1 := by
    intro m there
    change (if _ = ticket then some _ else _) = some m at there
    rw [if_pos unborn] at there
    cases there
    exact ⟨rfl, fun _ _ => trivial⟩
  have after := holds.after (Nat.lt_succ_of_le (Nat.le_of_eq unborn.symm)) back
  rw [Recipient.run_append] at agrees
  cases box : ((Recipient.fresh.run ticket front).2.run ticket (.watch uri :: back)).2.box with
  | none => cases (agrees.absent box).symm.trans found
  | some m =>
    obtain ⟨y, c, mirrors⟩ := agrees.present m box
    cases mirrors.watch.symm.trans found
    exact mirrors.uri.trans (after m box).1

/-! ## Publications -/

namespace Router

variable {r : Router} {watches : Nat} {x : Watch} {uri : String}

/-- What a publication means for the watches of an open router. -/
theorem Tidy.publish_eq (h : r.Tidy watches) (isOpen : r.closed = false) (member : x ∈ r.watches)
    (spells : Uri.canonical uri = x.uri) (batch : List Diagnostic) :
    ∃ s ∈ r.slots, s.uri = x.uri ∧ s.cell = x.cell ∧
      r.publish uri batch = { r with cells := refilled s.cell (filled batch) r.cells } := by
  obtain ⟨s, found, cell⟩ := h.slot isOpen member
  obtain ⟨slot, own⟩ := mem_of_find found
  refine ⟨s, slot, own, cell, ?_⟩
  rw [Router.publish, spells, found]
  rfl

/-- A publication reaches the watches whose URI it spells. -/
theorem Tidy.publish_reaches (h : r.Tidy watches) (isOpen : r.closed = false) (member : x ∈ r.watches)
    (spells : Uri.canonical uri = x.uri) (batch : List Diagnostic) :
    (r.publish uri batch).latest x.ticket = batch ∧ (r.publish uri batch).news x.ticket = .unseen := by
  obtain ⟨s, _, _, cell, same⟩ := h.publish_eq isOpen member spells batch
  obtain ⟨c, found, seen, _⟩ := h.cells x member
  have watch : (r.publish uri batch).watch? x.ticket = some x := by
    rw [same]
    exact find?_of_mem h.tickets member
  have filled : (r.publish uri batch).cell? x.cell = some (filled batch c) := by
    rw [same, cell]
    exact find?_refilled (id_filled batch) found
  refine ⟨?_, ?_⟩
  · rw [Router.latest, watch, Option.bind_some, filled]
    rfl
  · rw [Router.news, watch]
    dsimp only
    rw [filled]
    dsimp only
    exact if_pos (Nat.ne_of_gt (Nat.lt_succ_of_le seen))

/-- A publication does not reach the watches of other URIs. -/
theorem Tidy.publish_spares (h : r.Tidy watches) (isOpen : r.closed = false) (member : x ∈ r.watches)
    (other : Uri.canonical uri ≠ x.uri) (batch : List Diagnostic) :
    (r.publish uri batch).latest x.ticket = r.latest x.ticket ∧
      (r.publish uri batch).news x.ticket = r.news x.ticket := by
  cases found : r.slot? (Uri.canonical uri) with
  | none =>
    have same : r.publish uri batch = r := by rw [Router.publish, found]
    rw [same]
    exact ⟨rfl, rfl⟩
  | some s =>
    obtain ⟨slot, own⟩ := mem_of_find found
    obtain ⟨c, cell, _, _⟩ := h.cells x member
    have apart := h.cell_apart isOpen member slot (fun same => other (own.symm.trans same.symm))
    have same : r.publish uri batch = { r with cells := refilled s.cell (filled batch) r.cells } := by
      rw [Router.publish, found]
      rfl
    have watch : (r.publish uri batch).watch? x.ticket = some x := by
      rw [same]
      exact find?_of_mem h.tickets member
    have before : r.watch? x.ticket = some x := find?_of_mem h.tickets member
    have untouched : (r.publish uri batch).cell? x.cell = r.cell? x.cell := by
      rw [same, cell]
      exact find?_refilled_other (id_filled batch) apart cell
    refine ⟨?_, ?_⟩
    · rw [Router.latest, Router.latest, watch, before, Option.bind_some, Option.bind_some, untouched]
    · rw [Router.news, Router.news, watch, before]
      dsimp only
      rw [untouched]

end Router

/-! ## Paths -/

theorem canonical_ofList {u : List Char} (canonical : Uri.normalize u = u) :
    Uri.canonical (String.ofList u) = String.ofList u := by
  rw [Uri.canonical, String.toList_ofList, canonical]

theorem route_publication {params : Value} {publication : Publication}
    (decoded : decodeValue Publication.decode params = .ok publication) (r : Router) :
    r.route Router.publishMethod (some params) = r.publish publication.uri publication.diagnostics := by
  rw [Router.route, if_pos rfl, Option.getD_some, decoded]

/-- An absolute path without two dots has a URI.  It names a path with the same components, and is
its own canonical spelling, which it shares with the paths of these components only.  When a server
publishes for this URI, then the watch that was made for it, unless it was given up or the connection
has ended, finds what was published, and watches of other URIs do not notice. -/
theorem file_uri_reaches_its_watch {p : Uri.Path} (absolute : p.isAbsolute = true)
    (forward : [Uri.dot, Uri.dot] ∉ p.components) :
    ∃ u, p.uri? = some u ∧ (∃ q, Uri.pathOf? u = some q ∧ q.components = p.components) ∧ Uri.normalize u = u ∧
      (∀ (q : Uri.Path) (v : List Char), q.isAbsolute = true → [Uri.dot, Uri.dot] ∉ q.components → q.uri? = some v →
        (Uri.normalize v = Uri.normalize u ↔ q.components = p.components)) ∧
      ∀ front back params publication,
        let b := (Board.fresh.run (front ++ .watch (String.ofList u) :: back)).2
        let r := b.router.route Router.publishMethod (some params)
        b.router.closed = false → decodeValue Publication.decode params = .ok publication →
        publication.uri = String.ofList u →
          (∀ x, b.router.watch? (Board.fresh.run front).2.watches = some x →
            r.latest x.ticket = publication.diagnostics ∧ r.news x.ticket = .unseen) ∧
          ∀ y ∈ b.router.watches, y.uri ≠ String.ofList u →
            r.latest y.ticket = b.router.latest y.ticket ∧ r.news y.ticket = b.router.news y.ticket := by
  have sound (q : Uri.Path) : ∀ c ∈ q.components, Uri.IsComponent c := fun _ => Uri.isComponent_of_mem
  have own := Uri.normalize_addressOf (sound p) forward
  obtain ⟨q, read, _, same⟩ := Uri.pathOf?_addressOf (sound p) forward
  refine ⟨_, Uri.uri?_eq absolute, ⟨q, read, same⟩, own, fun q v rooted plain written => ?_,
    fun front back params publication => ?_⟩
  · cases (Uri.uri?_eq rooted).symm.trans written
    rw [own, Uri.normalize_addressOf (sound q) plain]
    refine ⟨fun equal => ?_, fun equal => by rw [equal]⟩
    obtain ⟨e, other, _, components⟩ := Uri.pathOf?_addressOf (sound q) plain
    rw [equal, read] at other
    cases other
    exact components.symm.trans same
  · intro b r isOpen decoded echoes
    have tidy : b.router.Tidy b.watches := Board.tidy_run .fresh _
    have spelled : Uri.canonical publication.uri = String.ofList (Uri.addressOf (Uri.segmentsFor p.components)) := by
      rw [echoes, canonical_ofList own]
    have routed : r = b.router.publish publication.uri publication.diagnostics := route_publication decoded _
    rw [routed]
    refine ⟨fun x found => ?_, fun y member other => ?_⟩
    · have uri : x.uri = _ := (watch_uri found).trans (canonical_ofList own)
      exact tidy.publish_reaches isOpen (mem_of_find found).1 (spelled.trans uri.symm) _
    · exact tidy.publish_spares isOpen member (fun equal => other (equal.symm.trans spelled)) _

/-- A path with a space, a percent sign, a component that looks like a drive and an octet that is no
UTF-8.  The second of two watches is made for it, and the server repeats its URI. -/
theorem file_uri_reaches_its_watch_unusual :
    let p : Uri.Path := ⟨"/a b%/c|/".toUTF8.toList ++ [0xFF]⟩
    let u := "file:///a%20b%25/c|/%FF"
    let b := (Board.fresh.run [.watch "file:///a", .watch u]).2
    let params : Value := .object [
      ("diagnostics", .array [.object [("message", .string "new"),
        ("range", .object [("start", .object [("character", .int 0), ("line", .int 0)])])]]),
      ("uri", .string u)]
    p.isAbsolute = true ∧ [Uri.dot, Uri.dot] ∉ p.components ∧
      p.uri? = some u.toList ∧ Uri.normalize u.toList = u.toList ∧
      (b.router.route Router.publishMethod (some params)).latest 1 = [⟨⟨⟨0, 0⟩, ⟨0, 0⟩⟩, none, none, "new"⟩] := by
  intro p u b params
  have absolute : p.isAbsolute = true := by decide +kernel
  have forward : [Uri.dot, Uri.dot] ∉ p.components := by decide +kernel
  obtain ⟨v, written, _, canonical, _, reaches⟩ := file_uri_reaches_its_watch absolute forward
  have same : p.uri? = some u.toList := by decide +kernel
  cases written.symm.trans same
  refine ⟨absolute, forward, same, canonical, ?_⟩
  have string : String.ofList u.toList = u := String.ofList_toList
  rw [string] at reaches
  obtain ⟨x, found⟩ : ∃ x, b.router.watch? 1 = some x := Option.isSome_iff_exists.mp (by decide +kernel)
  have decoded : decodeValue Publication.decode params =
      .ok ⟨u, none, [⟨⟨⟨0, 0⟩, ⟨0, 0⟩⟩, none, none, "new"⟩]⟩ := by decide +kernel
  have told := ((reaches [.watch "file:///a"] [] params _ (by decide +kernel) decoded rfl).1 x found).1
  rwa [(mem_of_find found).2] at told

end BlockDiscovery.Session
