import BlockDiscovery.Proofs.Session.Sharing

/-! # The window of a collection

A collection ends when nothing newer came for the settling time, or at its deadline.  When that
is and what it tells can be foretold from the times of the publications alone.
-/

namespace BlockDiscovery.Session

open BlockDiscovery.Json BlockDiscovery.Protocol Router

/-! ## Publications in time -/

theorem heard_later (uri : String) (clock : Nat) (isClosed : Bool) (deeds : List Deed) :
    ∀ h ∈ heard uri clock isClosed deeds, clock ≤ h.1 := by
  induction deeds generalizing clock isClosed with
  | nil => exact List.forall_mem_nil _
  | cons deed rest ih =>
    cases deed with
    | route method params =>
      rw [heard]
      split
      · exact List.forall_mem_cons.mpr ⟨Nat.le_refl _, ih clock isClosed⟩
      · exact ih clock isClosed
    | close => exact ih clock true
    | advance milliseconds =>
      exact fun h member => Nat.le_trans (Nat.le_add_right _ _) (ih (clock + milliseconds) isClosed h member)
    | _ => exact ih clock isClosed

theorem heard_sorted (uri : String) (clock : Nat) (isClosed : Bool) (deeds : List Deed) :
    (heard uri clock isClosed deeds).Pairwise fun a b => a.1 ≤ b.1 := by
  induction deeds generalizing clock isClosed with
  | nil => exact .nil
  | cons deed rest ih =>
    cases deed with
    | route method params =>
      rw [heard]
      split
      · exact .cons (heard_later uri clock isClosed rest) (ih clock isClosed)
      · exact ih clock isClosed
    | close => exact ih clock true
    | advance milliseconds => exact ih (clock + milliseconds) isClosed
    | _ => exact ih clock isClosed

/-! ## Foretelling the end -/

namespace Collection

/-- When a collection ends if nothing newer is published. -/
def due (c : Collection) : Nat :=
  match c.progress with
  | .first limit => limit
  | .settling _ quiet => quiet

/-- What a collection tells if nothing newer is published. -/
def verdict (c : Collection) (latest : List Diagnostic) : List Diagnostic :=
  match c.progress with
  | .first _ => []
  | .settling _ _ => latest

/-- When a collection ends in any case, after a publication. -/
def deadline (c : Collection) (now : Nat) : Nat :=
  match c.progress with
  | .first _ => max c.limit (now + c.settle)
  | .settling deadline _ => deadline

/-- The collection that the watch of a ticket starts. -/
def started (ticket : Ticket) (now timeout settle : Nat) : Collection :=
  ⟨ticket, ticket, now + timeout, settle, .first (now + timeout)⟩

/-- A collection after a publication. -/
def settled (c : Collection) (now : Nat) : Collection :=
  { c with progress := .settling (c.deadline now) (min (now + c.settle) (c.deadline now)) }

/-- When a collection ends and what it tells, by what is published and when. -/
def foretold (c : Collection) (latest : List Diagnostic) : List (Nat × List Diagnostic) → Nat × List Diagnostic
  | [] => (c.due, c.verdict latest)
  | (time, batch) :: rest =>
    if time < c.due then (c.settled time).foretold batch rest else (c.due, c.verdict latest)

variable {c : Collection} {now : Nat} {isLast : Bool} {latest : List Diagnostic}
  {published : List (Nat × List Diagnostic)}

theorem foretold_of_quiet (quiet : ∀ h ∈ published, c.due ≤ h.1) :
    c.foretold latest published = (c.due, c.verdict latest) := by
  cases published with
  | nil => rfl
  | cons h rest => exact if_neg (Nat.not_lt_of_le (quiet h List.mem_cons_self))

theorem next_nothing : c.next now .nothing isLast latest =
    if c.due ≤ now then .ends (c.verdict latest) else .goesOn c.progress := by
  rw [next.eq_def, due, verdict]
  cases c.progress <;> rfl

theorem next_exhausted : c.next now .exhausted isLast latest = .ends (c.verdict latest) := by
  rw [next.eq_def, verdict]
  cases c.progress <;> rfl

theorem next_unseen : c.next now .unseen isLast latest =
    enterSettling now c.settle (c.deadline now) isLast latest := by
  rw [next.eq_def, deadline]
  cases c.progress <;> rfl

/-- After a publication a collection goes on as one that settles and finds nothing more. -/
theorem next_unseen_eq (inTime : now ≤ c.deadline now) : c.next now .unseen isLast latest =
    (c.settled now).next now (if isLast then .exhausted else .nothing) isLast latest := by
  have quiet : now + min c.settle (c.deadline now - now) = min (now + c.settle) (c.deadline now) := by omega
  have ends : min c.settle (c.deadline now - now) = 0 ↔ min (now + c.settle) (c.deadline now) ≤ now := by omega
  rw [next_unseen, enterSettling, quiet]
  cases isLast with
  | true =>
    rw [if_pos rfl, next_exhausted]
    exact if_pos (.inr rfl)
  | false =>
    rw [if_neg Bool.false_ne_true, next_nothing]
    simp only [ends, Bool.false_eq_true, or_false]
    rfl

end Collection

/-! ## One collection -/

namespace Mailbox

variable {m : Mailbox} {c : Collection} {now : Nat} {isClosed : Bool}

theorem look_seen (busy : m.collection = some c) (seen : m.isUnseen = false) : m.look now isClosed =
    if isClosed ∨ c.due ≤ now then
      ({ m with collection := none }, [c.verdict (m.batch.getD [])])
    else (m, []) := by
  obtain ⟨uri, batch, isUnseen, collection⟩ := m
  cases busy
  cases seen
  rw [look, news]
  cases isClosed with
  | true => simp [Collection.next_exhausted]
  | false =>
    simp only [Bool.false_eq_true, if_false, false_or, Collection.next_nothing]
    by_cases ended : c.due ≤ now
    · rw [if_pos ended, if_pos ended]
    · rw [if_neg ended, if_neg ended]

theorem look_unseen (busy : m.collection = some c) (unseen : m.isUnseen = true)
    (inTime : now ≤ c.deadline now) : m.look now isClosed =
      { m with isUnseen := false, collection := some (c.settled now) }.look now isClosed := by
  rw [look, look, busy]
  dsimp only
  rw [news, unseen, if_pos rfl, Collection.next_unseen_eq inTime]
  rfl

end Mailbox

namespace Recipient

variable {p : Recipient} {ticket : Ticket} {m : Mailbox} {c : Collection}

/-- What the first collection to end finds. -/
def finds (p : Recipient) (ticket : Ticket) (deeds : List Deed) : Option (List Diagnostic) :=
  (p.run ticket deeds).1.flatten.head?

theorem finds_cons (p : Recipient) (ticket : Ticket) (deed : Deed) (rest : List Deed) :
    p.finds ticket (deed :: rest) = (p.step ticket deed).2.head?.or ((p.step ticket deed).1.finds ticket rest) := by
  rw [finds, run, List.flatten_cons, List.head?_append]
  rfl

/-- What is known of a foretold end by now; the end of the connection makes it come at once. -/
def told (p : Recipient) (foretold : Nat × List Diagnostic) : Option (List Diagnostic) :=
  if foretold.1 ≤ p.clock ∨ p.isClosed then some foretold.2 else none

/-- A collection is under way and has seen everything. -/
structure Works (p : Recipient) (ticket : Ticket) (m : Mailbox) (c : Collection) : Prop where
  there : p.box = some m
  busy : m.collection = some c
  seen : m.isUnseen = false
  born : ticket < p.watches
  sound : ∀ deadline quiet, c.progress = .settling deadline quiet → quiet ≤ deadline

theorem Works.inTime (w : Works p ticket m c) (early : p.clock < c.due) : p.clock ≤ c.deadline p.clock := by
  rw [Collection.deadline]
  rw [Collection.due] at early
  split
  · exact Nat.le_trans (Nat.le_add_right _ _) (Nat.le_max_right _ _)
  · next deadline quiet settling =>
    rw [settling] at early
    exact Nat.le_trans (Nat.le_of_lt early) (w.sound deadline quiet settling)

theorem Works.settles (w : Works p ticket m c) (now : Nat) (batch : List Diagnostic) :
    Works { p with box := some { m with batch := some batch, isUnseen := false, collection := some (c.settled now) } }
      ticket { m with batch := some batch, isUnseen := false, collection := some (c.settled now) } (c.settled now) where
  there := rfl
  busy := rfl
  seen := rfl
  born := w.born
  sound := by
    rintro deadline quiet ⟨⟩
    exact Nat.min_le_right _ _

theorem look_unseen (p : Recipient) (m : Mailbox) (inTime : p.clock ≤ c.deadline p.clock) :
    ({ p with box := some { m with isUnseen := true, collection := some c } } : Recipient).look =
      ({ p with box := some { m with isUnseen := false, collection := some (c.settled p.clock) } } : Recipient).look := by
  rw [look]
  dsimp only
  rw [Mailbox.look_unseen rfl rfl inTime]
  rfl

/-- The end of a collection is foretold, as long as nothing ends it earlier. -/
def Foretells (ticket : Ticket) (deeds : List Deed) : Prop :=
  ∀ (p : Recipient) (m : Mailbox) (c : Collection), Works p ticket m c → p.isClosed = false → p.clock < c.due →
    p.finds ticket deeds =
      (p.run ticket deeds).2.told (c.foretold (m.batch.getD []) (heard m.uri p.clock p.isClosed deeds))

/-- If the end of a collection is foretold as long as it goes on, it is foretold when it is
looked after. -/
theorem Works.look (w : Works p ticket m c) {rest : List Deed} (later : Foretells ticket rest) :
    p.look.2.head?.or (p.look.1.finds ticket rest) = (p.look.1.run ticket rest).2.told
      (c.foretold (m.batch.getD []) (heard m.uri p.clock p.isClosed rest)) := by
  obtain ⟨clock, closed, _⟩ := look_frame p
  obtain ⟨forward, stays, _⟩ := run_forward p.look.1 ticket rest
  rw [clock] at forward
  rw [closed] at stays
  have looked : p.look = ({ p with box := some (m.look p.clock p.isClosed).1 }, (m.look p.clock p.isClosed).2) := by
    rw [Recipient.look, w.there]
  have round : m.look p.clock p.isClosed = _ := m.look_seen w.busy w.seen
  split at round
  · next ended =>
    have quiet : ∀ h ∈ heard m.uri p.clock p.isClosed rest, c.due ≤ h.1 := by
      obtain shut | passed := ended
      · rw [shut, heard_closed]
        exact List.forall_mem_nil _
      · exact fun h member => Nat.le_trans passed (heard_later _ _ _ _ h member)
    have tells : p.look.2 = [c.verdict (m.batch.getD [])] := by rw [looked, round]
    rw [Collection.foretold_of_quiet quiet, tells, told, if_pos]
    · rfl
    · exact ended.symm.imp (fun passed => Nat.le_trans passed forward) stays
  · next under =>
    rw [not_or, Bool.not_eq_true, Nat.not_le] at under
    have same : p.look = (p, []) := by
      rw [looked, round, ← w.there]
    rw [same]
    exact later p m c w under.1 under.2

theorem foretells (ticket : Ticket) (deeds : List Deed) : Foretells ticket deeds := by
  -- a publication puts the collection into its settling state, which is foretold in its turn; every
  -- other deed leaves it as it is, and it is looked after at a later time or after the end
  induction deeds with
  | nil =>
    intro p m c w isOpen early
    rw [told, if_neg]
    · rfl
    · rintro (late | closed)
      · exact Nat.not_le_of_lt early late
      · exact Bool.false_ne_true (isOpen.symm.trans closed)
  | cons deed rest ih =>
    intro p m c w isOpen early
    have box := w.there
    rw [finds_cons, run]
    cases deed with
    | watch uri =>
      have kept : (p.step ticket (.watch uri)).1.box = some m :=
        (if_neg (Nat.ne_of_gt w.born)).trans box
      exact ih _ m c { w with there := kept, born := Nat.lt_succ_of_lt w.born } isOpen early
    | unwatch other =>
      have kept : (p.step ticket (.unwatch other)).1.box = some m := by
        change p.box.filter _ = some m
        rw [box]
        exact Option.filter_some_pos (by simp [w.busy])
      exact ih _ m c { w with there := kept } isOpen early
    | route method params =>
      have change : p.step ticket (.route method params) = ({ p with
          box := some (m.receive (letter? m.uri p.isClosed method params)) } : Recipient).look := by
        rw [step, Recipient.change, box]
        rfl
      rw [change, heard]
      cases letter? m.uri p.isClosed method params with
      | none =>
        rw [Mailbox.receive, ← box]
        exact w.look ih
      | some batch =>
        dsimp only
        rw [Collection.foretold, if_pos early, Mailbox.receive, w.busy,
          look_unseen p { m with batch := some batch } (w.inTime early)]
        exact (w.settles p.clock batch).look ih
    | collect other timeout settle =>
      have kept : p.step ticket (.collect other timeout settle) = p.look := by
        rw [step, Recipient.change, box, Option.map_some, Mailbox.start, w.busy, ite_self, ← box]
        rfl
      rw [kept]
      exact w.look ih
    | close =>
      have shut : Works { p with isClosed := true } ticket m c := { w with }
      exact shut.look ih
    | advance milliseconds =>
      have waited : Works { p with clock := p.clock + milliseconds } ticket m c := { w with }
      exact waited.look ih

theorem finds_collect (there : p.box = some m) (free : m.collection = none) (born : ticket < p.watches)
    (timeout settle : Nat) (deeds : List Deed) :
    let c := Collection.started ticket p.clock timeout settle
    p.finds ticket (.collect ticket timeout settle :: deeds) =
      (p.run ticket (.collect ticket timeout settle :: deeds)).2.told
        ((if m.isUnseen then c.settled p.clock else c).foretold (m.batch.getD [])
          (heard m.uri p.clock p.isClosed deeds)) := by
  intro c
  have start : p.step ticket (.collect ticket timeout settle) =
      ({ p with box := some { m with collection := some c } } : Recipient).look := by
    rw [step, change, there, Option.map_some, if_pos rfl, Mailbox.start, free]
    rfl
  rw [finds_cons, run, start]
  have works : ∀ d : Collection, (∀ deadline quiet, d.progress = .settling deadline quiet → quiet ≤ deadline) →
      Works { p with box := some { m with isUnseen := false, collection := some d } } ticket
        { m with isUnseen := false, collection := some d } d :=
    fun _ sound => ⟨rfl, rfl, rfl, born, sound⟩
  cases unseen : m.isUnseen with
  | true =>
    have inTime : p.clock ≤ c.deadline p.clock :=
      Nat.le_trans (Nat.le_add_right _ _) (Nat.le_max_right _ _)
    rw [look_unseen p m inTime, if_pos rfl]
    refine (works (c.settled p.clock) ?_).look (foretells ticket deeds)
    rintro deadline quiet ⟨⟩
    exact Nat.min_le_right _ _
  | false => exact (works c (by rintro _ _ ⟨⟩)).look (foretells ticket deeds)

end Recipient

/-! ## The end of a collection -/

/-- When a collection ends after a publication, if nothing newer is published before. -/
def quietAt (settle deadline : Nat) (h : Nat × List Diagnostic) : Nat := min (h.1 + settle) deadline

/-- The foretold end: publications that follow each other closely keep a collection going, and
the last one of them is told. -/
theorem Collection.foretold_settled (c : Collection) (first : Nat × List Diagnostic)
    {published : List (Nat × List Diagnostic)}
    (sorted : (first :: published).Pairwise fun a b => a.1 ≤ b.1) :
    ∃ taken left, published = taken ++ left ∧
      (first :: taken).IsChain (fun a b => b.1 < quietAt c.settle (c.deadline first.1) a) ∧
      (∀ h ∈ left, quietAt c.settle (c.deadline first.1) (taken.getLastD first) ≤ h.1) ∧
      (c.settled first.1).foretold first.2 published =
        (quietAt c.settle (c.deadline first.1) (taken.getLastD first), (taken.getLastD first).2) := by
  induction published generalizing c first with
  | nil => exact ⟨[], [], rfl, .singleton first, List.forall_mem_nil _, rfl⟩
  | cons h rest ih =>
    have tail := (List.pairwise_cons.mp sorted).2
    by_cases inside : h.1 < quietAt c.settle (c.deadline first.1) first
    · obtain ⟨taken, left, rfl, chain, late, foretold⟩ := ih (c.settled first.1) h tail
      refine ⟨h :: taken, left, rfl, List.isChain_cons_cons.mpr ⟨inside, chain⟩, ?_, ?_⟩
      · rw [List.getLastD_cons]
        exact late
      · rw [List.getLastD_cons]
        exact (if_pos inside).trans foretold
    · have past := Nat.le_of_not_lt inside
      refine ⟨[], h :: rest, rfl, .singleton first, ?_, if_neg inside⟩
      exact List.forall_mem_cons.mpr
        ⟨past, fun later member => Nat.le_trans past ((List.pairwise_cons.mp tail).1 later member)⟩

/-- What there is to be seen by a watch from now on: the publication that it has not seen, and
all later ones. -/
def Board.sightings (b : Board) (x : Watch) (deeds : List Deed) : List (Nat × List Diagnostic) :=
  if b.router.news x.ticket = .unseen then
    (b.router.clock, b.router.latest x.ticket) :: heard x.uri b.router.clock b.router.closed deeds
  else heard x.uri b.router.clock b.router.closed deeds

/-- The foretold end of the collection that a watch starts now. -/
def Board.foretold (b : Board) (x : Watch) (timeout settle : Nat) (deeds : List Deed) : Nat × List Diagnostic :=
  let c := Collection.started x.ticket b.router.clock timeout settle
  (if b.router.news x.ticket = .unseen then c.settled b.router.clock else c).foretold (b.router.latest x.ticket)
    (heard x.uri b.router.clock b.router.closed deeds)

namespace Board

variable {b : Board} {x : Watch} {deeds : List Deed} {timeout settle limit : Nat}

theorem sightings_sorted (b : Board) (x : Watch) (deeds : List Deed) :
    (b.sightings x deeds).Pairwise fun a b => a.1 ≤ b.1 := by
  rw [sightings]
  split
  · exact .cons (heard_later _ _ _ _) (heard_sorted _ _ _ _)
  · exact heard_sorted _ _ _ _

theorem sightings_late_or_timely (b : Board) (x : Watch) (deeds : List Deed) (limit : Nat) :
    (b.router.news x.ticket ≠ .unseen ∧ ∀ h ∈ b.sightings x deeds, limit ≤ h.1) ∨
      ∃ first rest, b.sightings x deeds = first :: rest ∧ (b.router.news x.ticket = .unseen ∨ first.1 < limit) := by
  by_cases unseen : b.router.news x.ticket = .unseen
  · exact .inr ⟨_, _, if_pos unseen, .inl unseen⟩
  have sorted := sightings_sorted b x deeds
  cases sights : b.sightings x deeds with
  | nil => exact .inl ⟨unseen, List.forall_mem_nil _⟩
  | cons first rest =>
    rw [sights, List.pairwise_cons] at sorted
    by_cases timely : first.1 < limit
    · exact .inr ⟨first, rest, rfl, .inr timely⟩
    · have past := Nat.le_of_not_lt timely
      exact .inl ⟨unseen, List.forall_mem_cons.mpr ⟨past, fun h later => Nat.le_trans past (sorted.1 h later)⟩⟩

theorem foretold_late (seen : b.router.news x.ticket ≠ .unseen)
    (late : ∀ h ∈ b.sightings x deeds, b.router.clock + timeout ≤ h.1) :
    b.foretold x timeout settle deeds = (b.router.clock + timeout, []) := by
  rw [sightings, if_neg seen] at late
  rw [foretold, if_neg seen]
  exact Collection.foretold_of_quiet late

theorem foretold_timely {first : Nat × List Diagnostic} {rest : List (Nat × List Diagnostic)}
    (sights : b.sightings x deeds = first :: rest)
    (timely : b.router.news x.ticket = .unseen ∨ first.1 < b.router.clock + timeout) :
    first.1 ≤ b.router.clock + timeout ∧ b.foretold x timeout settle deeds =
      ((Collection.started x.ticket b.router.clock timeout settle).settled first.1).foretold first.2 rest := by
  rw [sightings] at sights
  rw [foretold]
  split at sights
  · next unseen =>
    cases sights
    rw [if_pos unseen]
    exact ⟨Nat.le_add_right _ _, rfl⟩
  · next seen =>
    have inside := timely.resolve_left seen
    rw [if_neg seen, sights]
    exact ⟨Nat.le_of_lt inside, if_pos inside⟩

theorem foretold_window {first : Nat × List Diagnostic} {rest : List (Nat × List Diagnostic)}
    (sights : b.sightings x deeds = first :: rest)
    (timely : b.router.news x.ticket = .unseen ∨ first.1 < b.router.clock + timeout) :
    let finish := quietAt settle (max (b.router.clock + timeout) (first.1 + settle))
    ∃ taken left, rest = taken ++ left ∧ (first :: taken).IsChain (fun a b => b.1 < finish a) ∧
      (∀ h ∈ left, finish (taken.getLastD first) ≤ h.1) ∧
      finish (taken.getLastD first) ≤ b.router.clock + timeout + settle ∧
      b.foretold x timeout settle deeds = (finish (taken.getLastD first), (taken.getLastD first).2) := by
  intro finish
  have sorted := sightings_sorted b x deeds
  rw [sights] at sorted
  obtain ⟨inside, foretold⟩ : first.1 ≤ _ ∧ b.foretold x timeout settle deeds = _ := foretold_timely sights timely
  obtain ⟨taken, left, split, chain, late, ends⟩ :=
    (Collection.started x.ticket b.router.clock timeout settle).foretold_settled first sorted
  refine ⟨taken, left, split, chain, late, ?_, foretold.trans ends⟩
  exact Nat.le_trans (Nat.min_le_right _ _)
    (Nat.max_le.mpr ⟨Nat.le_add_right _ _, Nat.add_le_add_right inside settle⟩)

theorem foretold_le (b : Board) (x : Watch) (timeout settle : Nat) (deeds : List Deed) :
    (b.foretold x timeout settle deeds).1 ≤ b.router.clock + timeout + settle := by
  obtain ⟨seen, late⟩ | ⟨first, rest, sights, timely⟩ :=
    b.sightings_late_or_timely x deeds (b.router.clock + timeout)
  · rw [foretold_late seen late]
    exact Nat.le_add_right _ _
  · obtain ⟨taken, left, -, -, -, bound, ends⟩ := foretold_window sights timely
    rw [ends]
    exact bound

end Board

/-! ## The end of a collection on a board -/

/-- As long as nothing was published, the latest publication does not matter. -/
theorem Collection.foretold_first {c : Collection} {limit : Nat} (first : c.progress = .first limit)
    (latest other : List Diagnostic) (published : List (Nat × List Diagnostic)) :
    c.foretold latest published = c.foretold other published := by
  cases published <;> simp [foretold, verdict, first]

variable {b : Board} {p : Recipient} {ticket : Ticket} {m : Mailbox} {x : Watch} {c : Cell} {r : Router}

/-- What the first collection of a watch to end finds. -/
def Board.finds (b : Board) (ticket : Ticket) (deeds : List Deed) : Option (List Diagnostic) :=
  ((b.run deeds).1.flatMap (foundBy ticket)).head?

theorem Agrees.finds (h : Agrees b ticket p) (tidy : b.router.Tidy b.watches) (deeds : List Deed) :
    b.finds ticket deeds = p.finds ticket deeds := by
  rw [Board.finds, Recipient.finds, List.flatMap_def, (agrees_run h tidy deeds).2]

theorem Agrees.told (h : Agrees b ticket p) (foretold : Nat × List Diagnostic) : p.told foretold =
    if foretold.1 ≤ b.router.clock ∨ b.router.closed then some foretold.2 else none := by
  rw [Recipient.told, h.clock, h.closed]

theorem Mirrors.news_unseen (h : Mirrors r ticket m x c) : r.news ticket = .unseen ↔ m.isUnseen = true := by
  rw [Router.news, h.watch, h.unseen, decide_eq_true_iff]
  dsimp only
  rw [h.cell]
  dsimp only
  split
  · next unseen => exact ⟨fun _ => unseen, fun _ => rfl⟩
  · next seen =>
    refine ⟨fun news => ?_, fun unseen => absurd unseen seen⟩
    split at news <;> cases news

theorem Mirrors.latest (h : Mirrors r ticket m x c) (unseen : m.isUnseen = true) :
    r.latest ticket = m.batch.getD [] := by
  obtain ⟨batch, filled⟩ := Option.isSome_iff_exists.mp (h.filled (.inl unseen))
  rw [Router.latest, h.watch, Option.bind_some, h.cell, Option.bind_some, h.batch batch filled, filled]

/-- What the collection of a watch that is not busy finds, as foretold from what the watch has
not seen and what is published later. -/
theorem Agrees.finds_collect (h : Agrees b x.ticket p) (tidy : b.router.Tidy b.watches)
    (there : b.router.watch? x.ticket = some x) (idle : b.router.collection? x.ticket = none)
    (timeout settle : Nat) (deeds : List Deed) :
    let last := (b.run (.collect x.ticket timeout settle :: deeds)).2.router
    b.finds x.ticket (.collect x.ticket timeout settle :: deeds) =
      if (b.foretold x timeout settle deeds).1 ≤ last.clock ∨ last.closed then
        some (b.foretold x timeout settle deeds).2 else none := by
  intro last
  obtain ⟨m, box⟩ : ∃ m, p.box = some m := by
    cases box : p.box with
    | none => cases (h.absent box).symm.trans there
    | some m => exact ⟨m, rfl⟩
  obtain ⟨y, cell, mirrors⟩ := h.present m box
  cases mirrors.watch.symm.trans there
  have born : x.ticket < p.watches := h.watches ▸ tidy.born x (mem_of_find there).1
  have foretold : b.foretold x timeout settle deeds =
      (if m.isUnseen then (Collection.started x.ticket b.router.clock timeout settle).settled b.router.clock
        else .started x.ticket b.router.clock timeout settle).foretold (m.batch.getD [])
        (heard m.uri b.router.clock b.router.closed deeds) := by
    simp only [Board.foretold, mirrors.news_unseen, mirrors.uri]
    cases unseen : m.isUnseen with
    | true => rw [mirrors.latest unseen]
    | false => exact Collection.foretold_first rfl _ _ _
  have found := Recipient.finds_collect box (mirrors.collection.symm.trans idle) born timeout settle deeds
  rw [h.clock, h.closed] at found
  rw [h.finds tidy, found, foretold]
  exact (agrees_run h tidy _).1.told _

/-- The window of a collection, whatever was done before it and is done after its start.  If
there is nothing to see in time, it finds nothing when the timeout is over.  Otherwise
it ends after the last of the publications that follow each other closely, finds that one,
and has not waited longer than for timeout and settling time.  In both cases the end of the
connection makes it end at once. -/
theorem collection_window (front back : List Deed) (x : Watch) (timeout settle : Nat)
    (there : (Board.fresh.run front).2.router.watch? x.ticket = some x)
    (idle : (Board.fresh.run front).2.router.collection? x.ticket = none) :
    let b := (Board.fresh.run front).2
    let start := b.router.clock
    let last := (b.run (.collect x.ticket timeout settle :: back)).2.router
    let found := b.finds x.ticket (.collect x.ticket timeout settle :: back)
    (b.router.news x.ticket ≠ .unseen → (∀ h ∈ b.sightings x back, start + timeout ≤ h.1) →
      found = if start + timeout ≤ last.clock ∨ last.closed then some [] else none) ∧
    (∀ first rest, b.sightings x back = first :: rest →
      (b.router.news x.ticket = .unseen ∨ first.1 < start + timeout) →
      let finish := quietAt settle (max (start + timeout) (first.1 + settle))
      ∃ taken left, rest = taken ++ left ∧
        (first :: taken).IsChain (fun a b => b.1 < finish a) ∧
        (∀ h ∈ left, finish (taken.getLastD first) ≤ h.1) ∧
        finish (taken.getLastD first) ≤ start + timeout + settle ∧
        found = if finish (taken.getLastD first) ≤ last.clock ∨ last.closed then
          some (taken.getLastD first).2 else none) ∧
    (start + timeout + settle ≤ last.clock → found.isSome = true) := by
  intro b start last found
  obtain ⟨agrees, _⟩ := agrees_run (agrees_fresh x.ticket) .fresh front
  have ends : found = if (b.foretold x timeout settle back).1 ≤ last.clock ∨ last.closed then
      some (b.foretold x timeout settle back).2 else none :=
    agrees.finds_collect (Board.tidy_run .fresh front) there idle timeout settle back
  refine ⟨fun seen late => ?_, fun first rest sights timely => ?_, fun waited => ?_⟩
  · rw [Board.foretold_late seen late] at ends
    exact ends
  · obtain ⟨taken, left, split, chain, late, bound, foretold⟩ := Board.foretold_window sights timely
    rw [foretold] at ends
    exact ⟨taken, left, split, chain, late, bound, ends⟩
  · have bound := b.foretold_le x timeout settle back
    rw [if_pos (.inl (Nat.le_trans bound waited))] at ends
    exact Option.isSome_iff_exists.mpr ⟨_, ends⟩

/-- A server that publishes again and again cannot hold a collection, which finds the latest
publication when the timeout is over. -/
theorem collection_window_chatty :
    let b := (Board.fresh.run [.watch "file:///a"]).2
    let deeds : List Deed := [.collect 0 10 5, .advance 2, .publish "file:///a" "one", .advance 4,
      .publish "file:///a" "two", .advance 3, .publish "file:///a" "three", .advance 1,
      .publish "file:///a" "four", .advance 5]
    b.finds 0 deeds = some [⟨⟨⟨0, 0⟩, ⟨0, 0⟩⟩, none, none, "three"⟩] ∧ (b.finds 0 deeds).isSome = true :=
  ⟨by decide +kernel,
    (collection_window [.watch "file:///a"] _ ⟨0, "file:///a", 0, 0⟩ 10 5 (by decide +kernel) (by decide +kernel)).2.2
      (by decide +kernel)⟩

end BlockDiscovery.Session
