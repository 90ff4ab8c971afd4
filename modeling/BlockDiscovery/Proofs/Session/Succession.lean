import BlockDiscovery.Proofs.Session.Career

/-! # One connection at a time

A client lets go of a connection only when that has ended, and what has ended stays as it is.  So all
connections but the current one have ended for good, and the next one starts from nothing.
-/

namespace BlockDiscovery.Session

open BlockDiscovery.Json BlockDiscovery.Protocol BlockDiscovery.Config
open BlockDiscovery.Files (FileTree)

/-- A document that nobody has brought is opened. -/
theorem Course.opens {settings : ServerSettings} {clock : Nat} {steps : List Step} {k : Connection}
    (course : Course settings clock steps k) {uri : String}
    (unbrought : ∀ s ∈ steps, ∀ u text, s.incident ≠ .syncDocument u uri text) (text : String) :
    k.syncMessage uri text =
      (.opened, 1, "textDocument/didOpen", didOpenParams uri settings.language 1 text) := by
  obtain ⟨tracks, same⟩ := course.tracks
  have none : versions (steps.filterMap Step.letIn?) uri = [] := by
    rw [versions, List.map_eq_nil_iff, List.filter_eq_nil_iff]
    intro notice inside brought
    obtain ⟨s, member, lets⟩ := List.mem_filterMap.mp inside
    rw [Step.letIn?] at lets
    split at lets
    · next u other text' same =>
      obtain ⟨_, lets⟩ := Option.ite_none_right_eq_some.mp lets
      cases lets
      obtain rfl : other = uri := by simpa using brought
      exact unbrought s member u text' same
    · cases lets
  have counted := congrArg List.length ((tracks.counted uri).symm.trans none)
  rw [List.length_range', List.length_nil] at counted
  have unknown : lookup uri k.documents = Option.none := by
    cases found : lookup uri k.documents with
    | none => rfl
    | some version =>
      rw [found, Option.getD_some] at counted
      exact absurd (counted ▸ found) (tracks.positive uri)
  rw [Connection.syncMessage, unknown, same]

namespace Client

open Connection

variable {settings : ServerSettings} {registry : Diagnostic.Registry} {tasks n : Nat} {c : Client}
  {k : Connection} {changes : List Change} {s : Change}

namespace Career

theorem coherent (career : Career settings registry changes c tasks) (found : c.connections[n]? = some k) :
    k.Coherent :=
  (career.reached.sound.connection found).coherent

/-- A connection that has not ended is the current one. -/
theorem ended_or_current (career : Career settings registry changes c tasks) (found : c.connections[n]? = some k) :
    k.phase.isTerminal = true ∨ c.current = some n := by
  induction career generalizing k with
  | fresh => cases found
  | @step changes c tasks event career fits ih =>
    have reacts := career.reacts fits
    cases before : c.connections[n]? with
    | none => exact .inr (reacts.new n k before found).2
    | some first =>
      obtain ⟨incidents, goes, _⟩ := reacts.old n first before
      obtain rfl : k = _ := Option.some.inj (found.symm.trans goes)
      have leads := (career.coherent before).course incidents
      have stays (terminal : first.phase.isTerminal = true) :
          (first.course incidents).2.phase.isTerminal = true := by
        rw [leads.final terminal]
        exact terminal
      obtain terminal | current := ih before
      · exact .inl (stays terminal)
      · obtain same | given := reacts.current
        · exact .inr (same.trans current)
        · exact .inl (stays (given n first current before))

theorem final (career : Career settings registry changes c tasks) (member : s ∈ changes)
    (found : s.after.connections[n]? = some k) (terminal : k.phase.isTerminal = true) :
    ∃ e, c.connections[n]? = some e ∧ e.phase = k.phase := by
  obtain ⟨incidents, there⟩ := career.carries member found
  obtain ⟨front, given, before, fits, same⟩ := career.changeAt member
  rw [same] at found
  have coherent := (before.step s.event fits).coherent found
  exact ⟨_, there, (coherent.course incidents).final terminal⟩

/-- A discovery that begins has got a connection that had not ended. -/
theorem discovers (career : Career settings registry changes c tasks) (member : s ∈ changes) {host : Host}
    {tree : FileTree} {path : Uri.Path} (event : s.event = .discover host tree path) {t : Task}
    (begun : t ∈ s.after.tasks) (new : t ∉ s.before.tasks) :
    s.after.current = some t.connection ∧
      (∀ k, s.before.connections[t.connection]? = some k → k.phase.isTerminal = false) ∧
      ∃ k, s.after.connections[t.connection]? = some k ∧ k.phase.isTerminal = false := by
  obtain ⟨_, given, _, _, same⟩ := career.changeAt member
  rw [event] at same
  have after : s.after = s.before.discover host tree given path := by rw [same]; rfl
  rw [after] at begun ⊢
  obtain ⟨_, goes⟩ | ⟨m, k, stage, current, found, alive, _, goes⟩ | ⟨_, stage, _, goes⟩ :=
    s.before.discover_cases given host tree path
  · rw [goes] at begun
    exact absurd (List.mem_filter.mp begun).1 new
  · rw [goes] at begun ⊢
    obtain rfl := List.mem_singleton.mp ((List.mem_append.mp begun).resolve_left new)
    refine ⟨current, fun other there => ?_, k.ensureReady given, ?_, alive⟩
    · rw [found] at there
      cases there
      exact alive
    · exact List.getElem?_set_self (List.getElem?_eq_some_iff.mp found).1
  · rw [goes] at begun ⊢
    obtain rfl := List.mem_singleton.mp ((List.mem_append.mp begun).resolve_left new)
    refine ⟨rfl, fun other there => ?_, _, List.getElem?_concat_length, rfl⟩
    simp at there

/-- A connection that is made knows no documents. -/
theorem starts_blank (career : Career settings registry changes c tasks) (member : s ∈ changes)
    (missing : s.before.connections[n]? = none) (found : s.after.connections[n]? = some k) : k.documents = [] := by
  obtain ⟨_, given, before, fits, same⟩ := career.changeAt member
  rw [same] at found
  rw [((before.reacts fits).new n k missing found).1]
  rfl

/-- The first text of a document that a connection is asked to bring opens it. -/
theorem opens (career : Career settings registry changes c tasks) (found : c.connections[n]? = some k) {uri : String}
    (first : ∀ s ∈ changes, ∀ u, ⟨u, n, .syncing uri⟩ ∉ s.after.tasks) (text : String) :
    k.syncMessage uri text =
      (.opened, 1, "textDocument/didOpen", didOpenParams uri settings.language 1 text) := by
  obtain ⟨clock, steps, course, explained⟩ := career.course found
  refine course.opens (fun step member u shown same => ?_) text
  obtain ⟨s, inside, explains⟩ := explained step member
  rw [same] at explains
  exact first s inside u explains

end Career

/-- A file is discovered where no server can be started, and then again where one can. -/
def retrying : List Event :=
  let tree := FileTree.empty.add [[97]] (.file "x".toUTF8)
  let unable : Host := ⟨fun _ => some "no such file", .ofString "/", .null⟩
  [.discover unable tree (.ofString "/a"), .poll unable ⟨0, 0, .ensuring "file:///a" "x"⟩,
    .discover .obliging tree (.ofString "/a")]

/-- A client has one connection that has not ended, at most, and that is the current one.  What has ended
stays so; a discovery gets a connection that has not; and a connection that is made knows no documents,
so that the first text of each that it is to bring opens it. -/
theorem one_live_connection (career : Career settings registry changes c tasks) :
    (∀ (n : Nat) (k : Connection), c.connections[n]? = some k → k.phase.isTerminal = true ∨ c.current = some n) ∧
    (∀ s ∈ changes, ∀ (n : Nat) (k : Connection), s.after.connections[n]? = some k → k.phase.isTerminal = true →
      ∃ e, c.connections[n]? = some e ∧ e.phase = k.phase) ∧
    (∀ s ∈ changes, ∀ host tree path, s.event = .discover host tree path →
      ∀ t ∈ s.after.tasks, t ∉ s.before.tasks →
        s.after.current = some t.connection ∧
        (∀ k : Connection, s.before.connections[t.connection]? = some k → k.phase.isTerminal = false) ∧
        ∃ k, s.after.connections[t.connection]? = some k ∧ k.phase.isTerminal = false) ∧
    (∀ s ∈ changes, ∀ (n : Nat) (k : Connection), s.before.connections[n]? = none → s.after.connections[n]? = some k →
      k.documents = []) ∧
    ∀ (n : Nat) (k : Connection) (uri : String), c.connections[n]? = some k →
      (∀ s ∈ changes, ∀ u, ⟨u, n, .syncing uri⟩ ∉ s.after.tasks) → ∀ text, k.syncMessage uri text =
        (.opened, 1, "textDocument/didOpen", didOpenParams uri settings.language 1 text) := by
  refine ⟨fun n k => career.ended_or_current, fun s member n k => career.final member, ?_, ?_, ?_⟩
  · intro s member host tree path event t begun new
    exact career.discovers member event begun new
  · intro s member n k missing found
    exact career.starts_blank member missing found
  · intro n k uri found first text
    exact career.opens found first text

/-- The first connection has failed for good, and the one after it opens the file. -/
theorem one_live_connection_replaced : ∃ changes c, Career (.make "nim" "nim") .empty changes c 2 ∧
    c.current = some 1 ∧ (∃ k, c.connections[0]? = some k ∧ k.phase.isTerminal = true) ∧
    ∃ k, c.connections[1]? = some k ∧ k.syncMessage "file:///a" "y" =
      (.opened, 1, "textDocument/didOpen", didOpenParams "file:///a" "nim" 1 "y") := by
  let c := fresh (.make "nim" "nim") .empty
  have career : Career (.make "nim" "nim") .empty _ _ 2 :=
    Career.fresh.replay (by decide +kernel : c.Allows 0 retrying)
  obtain ⟨ended, _, _, _, opens⟩ := one_live_connection career
  have current : (c.replay 0 retrying).2.1.current = some 1 := by decide +kernel
  have made (n : Nat) (inside : n < 2) : ((c.replay 0 retrying).2.1.connections[n]?).isSome = true := by
    have two : (c.replay 0 retrying).2.1.connections.length = 2 := by decide +kernel
    simp [two, inside]
  obtain ⟨first, zeroth⟩ := Option.isSome_iff_exists.mp (made 0 (by omega))
  obtain ⟨second, found⟩ := Option.isSome_iff_exists.mp (made 1 (by omega))
  have hidden : ∀ s ∈ (c.replay 0 retrying).1, ∀ t ∈ s.after.tasks, t.stage.isShown = false := by decide +kernel
  refine ⟨_, _, career, current, ⟨first, zeroth, ?_⟩, second, found, opens 1 second "file:///a" found ?_ "y"⟩
  · apply (ended 0 first zeroth).resolve_right
    intro same
    cases current.symm.trans same
  · intro s member u shown
    cases hidden s member _ shown

end Client

end BlockDiscovery.Session
