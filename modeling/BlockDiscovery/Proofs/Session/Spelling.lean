import BlockDiscovery.Proofs.Session.Echo
import BlockDiscovery.Proofs.Uri.Canonical

/-! # The canonical spelling and the watch it names

A watch is found by the canonical spelling of its URI.  Who publishes for that spelling reaches the
watch as long as it is its own canonical spelling.  It is, unless the URI hides two dots behind an
escaped slash.
-/

namespace BlockDiscovery.Session

open BlockDiscovery BlockDiscovery.Json BlockDiscovery.Protocol

section Canonical

variable (uri : String)

theorem toList_canonical : (Uri.canonical uri).toList = Uri.normalize uri.toList := String.toList_ofList

theorem canonical_canonical_iff : Uri.canonical (Uri.canonical uri) = Uri.canonical uri ↔
    ∀ p, Uri.pathOf? uri.toList = some p → [Uri.dot, Uri.dot] ∉ p.components := by
  rw [← Uri.normalize_normalize_iff, ← String.toList_inj]
  simp only [toList_canonical]

theorem canonical_thrice : Uri.canonical (Uri.canonical (Uri.canonical uri)) = Uri.canonical (Uri.canonical uri) := by
  rw [← String.toList_inj]
  simp only [toList_canonical]
  exact Uri.normalize_thrice uri.toList

end Canonical

/-- A watch that is there when something is published hears of it just if both URIs have one canonical
spelling. -/
theorem publication_matches {front back : List Deed} {watched : String} {params : Value} {publication : Publication}
    {x : Watch} (decoded : decodeValue Publication.decode params = .ok publication) :
    let b := (Board.fresh.run (front ++ .watch watched :: back)).2
    let r := b.router.route Router.publishMethod (some params)
    b.router.closed = false → b.router.watch? (Board.fresh.run front).2.watches = some x →
      (Uri.canonical publication.uri = Uri.canonical watched →
        r.latest x.ticket = publication.diagnostics ∧ r.news x.ticket = .unseen) ∧
      (Uri.canonical publication.uri ≠ Uri.canonical watched →
        r.latest x.ticket = b.router.latest x.ticket ∧ r.news x.ticket = b.router.news x.ticket) := by
  intro b r isOpen found
  have tidy : b.router.Tidy b.watches := Board.tidy_run .fresh _
  have routed : r = b.router.publish publication.uri publication.diagnostics := route_publication decoded _
  have member := (mem_of_find found).1
  rw [routed, ← watch_uri found]
  exact ⟨fun spells => tidy.publish_reaches isOpen member spells _,
    fun other => tidy.publish_spares isOpen member other _⟩

/-- The canonical spelling of a URI is its own canonical spelling just if the URI names no path with
two dots, so whenever no slash in it is escaped; the spelling after that always is.  When it is, then
what is published for it reaches a watch of the URI, and what is published for the URI a watch of the
spelling, as long as the watch is there and the connection has not ended; when it is not, these
watches do not notice. -/
theorem canonical_spelling_matches (uri : String) :
    (Uri.canonical (Uri.canonical uri) = Uri.canonical uri ↔
      ∀ p, Uri.pathOf? uri.toList = some p → [Uri.dot, Uri.dot] ∉ p.components) ∧
    (¬ Uri.EscapedSlash (Uri.tidy uri.toList) → Uri.canonical (Uri.canonical uri) = Uri.canonical uri) ∧
    Uri.canonical (Uri.canonical (Uri.canonical uri)) = Uri.canonical (Uri.canonical uri) ∧
    ∀ watched front back params publication x,
      let b := (Board.fresh.run (front ++ .watch watched :: back)).2
      let r := b.router.route Router.publishMethod (some params)
      (watched = uri ∧ publication.uri = Uri.canonical uri ∨ watched = Uri.canonical uri ∧ publication.uri = uri) →
      decodeValue Publication.decode params = .ok publication →
      b.router.closed = false → b.router.watch? (Board.fresh.run front).2.watches = some x →
        (Uri.canonical (Uri.canonical uri) = Uri.canonical uri →
          r.latest x.ticket = publication.diagnostics ∧ r.news x.ticket = .unseen) ∧
        (Uri.canonical (Uri.canonical uri) ≠ Uri.canonical uri →
          r.latest x.ticket = b.router.latest x.ticket ∧ r.news x.ticket = b.router.news x.ticket) := by
  have own := canonical_canonical_iff uri
  refine ⟨own, fun unescaped => own.mpr fun p named => Uri.forward_of_unescaped named unescaped,
    canonical_thrice uri, ?_⟩
  intro watched front back params publication x b r pair decoded isOpen found
  obtain ⟨reaches, spares⟩ := publication_matches decoded isOpen found
  have spells : Uri.canonical publication.uri = Uri.canonical watched ↔
      Uri.canonical (Uri.canonical uri) = Uri.canonical uri := by
    obtain ⟨rfl, same⟩ | ⟨rfl, same⟩ := pair
    · rw [same]
    · rw [same, eq_comm]
  exact ⟨fun fixed => reaches (spells.mpr fixed), fun moves => spares (mt spells.mp moves)⟩

/-- A URI on the local host with a space and two dots that are not hidden.  The second of two watches
is made for it, and the server publishes for its canonical spelling. -/
theorem canonical_spelling_matches_local_host :
    let uri := "file://LOCALHOST/a/%2E./b c"
    let b := (Board.fresh.run [.watch "file:///a", .watch uri]).2
    let params : Value := .object [
      ("diagnostics", .array [.object [("message", .string "new"),
        ("range", .object [("start", .object [("character", .int 0), ("line", .int 0)])])]]),
      ("uri", .string "file:///b%20c")]
    ¬ Uri.EscapedSlash (Uri.tidy uri.toList) ∧ Uri.canonical uri = "file:///b%20c" ∧
      Uri.canonical (Uri.canonical uri) = Uri.canonical uri ∧ b.router.closed = false ∧
      (b.router.route Router.publishMethod (some params)).latest 1 = [⟨⟨⟨0, 0⟩, ⟨0, 0⟩⟩, none, none, "new"⟩] := by
  intro uri b params
  have unescaped : ¬ Uri.EscapedSlash (Uri.tidy uri.toList) := by decide +kernel
  have spelled : Uri.canonical uri = "file:///b%20c" := by decide +kernel
  have isOpen : b.router.closed = false := by decide +kernel
  have decoded : decodeValue Publication.decode params =
      .ok ⟨"file:///b%20c", none, [⟨⟨⟨0, 0⟩, ⟨0, 0⟩⟩, none, none, "new"⟩]⟩ := by decide +kernel
  obtain ⟨x, found⟩ : ∃ x, b.router.watch? 1 = some x := Option.isSome_iff_exists.mp (by decide +kernel)
  obtain ⟨_, plain, _, told⟩ := canonical_spelling_matches uri
  have fixed := plain unescaped
  have told := (told uri [.watch "file:///a"] [] params _ x (.inl ⟨rfl, spelled.symm⟩) decoded isOpen found).1 fixed
  rw [(mem_of_find found).2] at told
  exact ⟨unescaped, spelled, fixed, isOpen, told.1⟩

/-- Two dots behind an escaped slash.  They are written out in the canonical spelling, where they are
resolved when it is read, so the watch does not hear of what is published for its own canonical
spelling. -/
theorem hidden_dots_miss_their_watch :
    let uri := "file:///a%2F.."
    let b := (Board.fresh.run [.watch uri]).2
    let params : Value := .object [
      ("diagnostics", .array [.object [("message", .string "new"),
        ("range", .object [("start", .object [("character", .int 0), ("line", .int 0)])])]]),
      ("uri", .string (Uri.canonical uri))]
    Uri.canonical uri = "file:///a/.." ∧ Uri.canonical (Uri.canonical uri) = "file:///" ∧
      Uri.canonical (Uri.canonical uri) ≠ Uri.canonical uri ∧ b.router.closed = false ∧
      b.router.watches.map Watch.uri = [Uri.canonical uri] ∧
      (b.router.route Router.publishMethod (some params)).latest 0 = [] ∧
      (b.router.route Router.publishMethod (some params)).news 0 = b.router.news 0 := by
  decide +kernel

end BlockDiscovery.Session
