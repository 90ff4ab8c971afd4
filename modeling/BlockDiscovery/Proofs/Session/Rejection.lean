import BlockDiscovery.Proofs.Session.Line

/-! # Rejection of all requests

When the connection fails, all pending requests are rejected in one turn.  A task whose frame
is in the channel reports the failure in that turn.  A task that waits for room is not
listening: it stays in line with its answer, its frame can still enter the channel, and only
then it reports the failure.  If the writer goes away first, it reports that instead.
-/

namespace BlockDiscovery.Session

open BlockDiscovery.Json BlockDiscovery.Protocol Dispatcher

/-! ## Tasks that were answered too early -/

/-- What comes of a task that was answered while its frame waits for room, in later turns
that end with the given desk. -/
inductive Fate (u : Ticket) (answer : Outcome) (later : List Turn) (last : Desk) : Prop
  | waits (outside : u ∉ later.flatMap Turn.entered) (silent : later.flatMap (fun t => t.reports u) = [])
    (inside : u ∈ last.dispatcher.line)
  /-- It reports the answer in the turn in which its frame enters the channel. -/
  | enters (t : Turn) (turn : t ∈ later) (entered : u ∈ t.entered) (told : t.reports u = [⟨u, answer⟩])
    (once : later.flatMap (fun t => t.reports u) = [⟨u, answer⟩])
  /-- It never learns of the answer, because the writer goes away. -/
  | strands (t : Turn) (turn : t ∈ later) (dropped : t.operation = .dropWriter)
    (outside : u ∉ later.flatMap Turn.entered)
    (once : later.flatMap (fun t => t.reports u) = [⟨u, .error .writerClosed⟩])
  | cancelled (t : Turn) (turn : t ∈ later) (cancels : t.cancels u = true)
    (outside : u ∉ later.flatMap Turn.entered) (silent : later.flatMap (fun t => t.reports u) = [])

section Fate

variable {u : Ticket} {answer : Outcome} {front later : List Turn} {k last : Desk}

theorem outside_append (front later : List Turn) : u ∉ (front ++ later).flatMap Turn.entered ↔
    u ∉ front.flatMap Turn.entered ∧ u ∉ later.flatMap Turn.entered := by
  rw [List.flatMap_append, List.mem_append, not_or]

/-- Turns in which the task is silent may come first. -/
theorem Fate.postponed (h : Fate u answer later last) (outside : u ∉ front.flatMap Turn.entered)
    (silent : front.flatMap (fun t => t.reports u) = []) : Fate u answer (front ++ later) last := by
  have reports : (front ++ later).flatMap (fun t => t.reports u) = later.flatMap fun t => t.reports u := by
    rw [List.flatMap_append, silent, List.nil_append]
  cases h with
  | waits never quiet inside =>
    exact .waits ((outside_append _ _).mpr ⟨outside, never⟩) (reports.trans quiet) inside
  | enters t turn entered told once =>
    exact .enters t (List.mem_append_right _ turn) entered told (reports.trans once)
  | strands t turn dropped never once =>
    exact .strands t (List.mem_append_right _ turn) dropped ((outside_append _ _).mpr ⟨outside, never⟩)
      (reports.trans once)
  | cancelled t turn cancels never quiet =>
    exact .cancelled t (List.mem_append_right _ turn) cancels ((outside_append _ _).mpr ⟨outside, never⟩)
      (reports.trans quiet)

/-- Once the task has left the line, silent turns may follow. -/
theorem Fate.concluded (h : Fate u answer front k) (left : u ∉ k.dispatcher.line)
    (outside : u ∉ later.flatMap Turn.entered) (silent : later.flatMap (fun t => t.reports u) = []) :
    Fate u answer (front ++ later) last := by
  have reports : (front ++ later).flatMap (fun t => t.reports u) = front.flatMap fun t => t.reports u := by
    rw [List.flatMap_append, silent, List.append_nil]
  cases h with
  | waits _ _ inside => exact absurd inside left
  | enters t turn entered told once =>
    exact .enters t (List.mem_append_left _ turn) entered told (reports.trans once)
  | strands t turn dropped never once =>
    exact .strands t (List.mem_append_left _ turn) dropped ((outside_append _ _).mpr ⟨never, outside⟩)
      (reports.trans once)
  | cancelled t turn cancels never quiet =>
    exact .cancelled t (List.mem_append_left _ turn) cancels ((outside_append _ _).mpr ⟨never, outside⟩)
      (reports.trans quiet)

end Fate

namespace Desk

variable {k : Desk} {s : Send} {answer : Outcome}

/-- A task that was answered while it waits in line goes on waiting, or its wait ends. -/
theorem answered_turn (sound : k.dispatcher.Sound k.tasks) (distinct : k.dispatcher.line.Nodup)
    (was : k.dispatcher.send? s.ticket = some s) (waits : s.progress = .waiting (some answer))
    (inside : s.ticket ∈ k.dispatcher.line) (operation : Operation) :
    ((k.turn operation).after.dispatcher.send? s.ticket = some s ∧
      s.ticket ∉ [k.turn operation].flatMap Turn.entered ∧
      [k.turn operation].flatMap (fun t => t.reports s.ticket) = []) ∨
    ((k.turn operation).after.dispatcher.send? s.ticket = none ∧
      s.ticket ∉ (k.turn operation).after.dispatcher.line ∧
      Fate s.ticket answer [k.turn operation] (k.turn operation).after) := by
  rw [List.flatMap_singleton, List.flatMap_singleton]
  have leaves {e : Happening} (meets : (k.turn operation).Meets s e) (ends : Turn.leavesLine e = true) :
      s.ticket ∉ (k.turn operation).after.dispatcher.line := by
    intro again
    cases ends.symm.trans (meets.line again).2
  have task {e : Happening} (meets : (k.turn operation).Meets s e) :
      (k.turn operation).after.dispatcher.send? s.ticket = _ := congrArg Prod.fst meets.view
  have told {e : Happening} (meets : (k.turn operation).Meets s e) :
      (k.turn operation).reports s.ticket = _ := congrArg Prod.snd meets.view
  have single {reports : List Completion} (told : (k.turn operation).reports s.ticket = reports) :
      [k.turn operation].flatMap (fun t => t.reports s.ticket) = reports := by
    rw [List.flatMap_singleton, told]
  have here := List.mem_singleton_self (k.turn operation)
  by_cases cancel : operation = .cancel s.ticket
  · subst cancel
    have meets := meets_cancel sound was
    refine .inr ⟨task meets, leaves meets rfl, .cancelled _ here (meets.cancels.mpr rfl) ?_ (single (told meets))⟩
    exact List.not_mem_nil
  by_cases drop : operation = .dropWriter
  · subst drop
    have meets := meets_dropWriter sound distinct was inside
    refine .inr ⟨task meets, leaves meets rfl, .strands _ here rfl ?_ (single (told meets))⟩
    exact List.not_mem_nil
  obtain ⟨e, meets⟩ := Desk.meets sound distinct was operation
  by_cases enters : s.ticket ∈ (k.turn operation).entered
  · obtain rfl := meets.entered.mp enters
    have admitted : s.on (k.turn operation).after.dispatcher.clock .admitted =
        (none, [⟨s.ticket, answer⟩]) := by simp only [Send.on, waits]
    have reports := (told meets).trans (congrArg Prod.snd admitted)
    exact .inr ⟨(task meets).trans (congrArg Prod.fst admitted), leaves meets rfl,
      .enters _ here enters reports (single reports)⟩
  · have stays := line_stays sound inside enters cancel drop
    have still : s.on (k.turn operation).after.dispatcher.clock e = (some s, []) := by
      have leaves := (meets.line stays).2
      cases e with
      | nothing => rfl
      | time => simp only [Send.on, waits]
      | answered verdict =>
        have isOpen := meets.isOpen verdict rfl
        simp [Send.isOpen, waits] at isOpen
      | admitted | stranded | refused | cancelled => cases leaves
    exact .inl ⟨(task meets).trans (congrArg Prod.fst still), enters,
      (told meets).trans (congrArg Prod.snd still)⟩

end Desk

theorem Run.fate {capacity : Nat} {turns : List Turn} {k : Desk} {s : Send} {answer : Outcome}
    (run : Run capacity turns k) (was : k.dispatcher.send? s.ticket = some s)
    (waits : s.progress = .waiting (some answer)) (operations : List Operation) :
    Fate s.ticket answer (k.run operations).1 (k.run operations).2 := by
  induction operations generalizing turns k with
  | nil => exact .waits List.not_mem_nil rfl (run.queued _ _ _ was waits)
  | cons operation operations ih =>
    have sound := run.balanced.sound
    have inside := run.queued _ _ _ was waits
    have next := run.turn operation
    obtain ⟨still, outside, silent⟩ | ⟨gone, left, ended⟩ :=
      Desk.answered_turn sound run.chronicle.line was waits inside operation
    · exact (ih next still).postponed outside silent
    · have old := Desk.given_turn (sound.given was) operation
      refine ended.concluded left ?_ (List.flatMap_eq_nil_iff.mpr (next.silent old gone left operations))
      simpa using next.outside old left operations

/-! ## All pending requests -/

section Rejection

variable {capacity : Nat} {turns : List Turn} {k : Desk}

theorem failAll_pending (d : Dispatcher) (reason : String) (failure : Failure) :
    (d.failAll reason failure).2.1.pending = [] ∧ (d.failAll reason failure).2.1.channel = d.channel := by
  rw [failAll, deliverAll_frame]
  exact ⟨rfl, rfl⟩

/-- The task of a pending request waits for room if it is in line, and else for its answer. -/
theorem Run.pending_task (run : Run capacity turns k) {p : Pending} (member : p ∈ k.dispatcher.pending) :
    ∃ s, k.dispatcher.send? s.ticket = some s ∧ s.entry = p ∧ s.isOpen = true ∧
      if s.ticket ∈ k.dispatcher.line then s.progress = .waiting none
      else ∃ deadline, s.progress = .sent deadline := by
  obtain ⟨s, was, isOpen, rfl⟩ := run.balanced.sound.mem_pending.mp member
  refine ⟨s, was, rfl, isOpen, ?_⟩
  split
  · next inside =>
    obtain ⟨r, issued, same⟩ := run.request_of_entry member
    obtain ⟨progress, stands, _⟩ := run.chronicle.stories r issued
    have own : s.ticket = r.ticket := congrArg Pending.ticket same
    obtain ⟨answer, rfl⟩ := stands.line (own ▸ inside)
    obtain rfl := Option.some.inj (was.symm.trans ((congrArg _ own).trans stands.task))
    cases answer with
    | none => rfl
    | some answer => cases isOpen
  · next outside =>
    cases progress : s.progress with
    | sent deadline => exact ⟨deadline, rfl⟩
    | waiting answer => exact absurd (run.queued _ _ _ was progress) outside

theorem Run.rejected_at_once (run : Run capacity turns k) {s : Send} {deadline : Nat} {reason : String}
    {failure : Failure} (was : k.dispatcher.send? s.ticket = some s) (sent : s.progress = .sent deadline)
    (outside : s.ticket ∉ k.dispatcher.line) (operations : List Operation) :
    (k.turn (.failAll reason failure)).reports s.ticket = [⟨s.ticket, .error failure⟩] ∧
      ((k.turn (.failAll reason failure)).after.run operations).1.flatMap (fun t => t.reports s.ticket) = [] := by
  have sound := run.balanced.sound
  have meets := Desk.meets_failAll sound was (by rw [Send.isOpen, sent]) reason failure
  have view := meets.view
  simp only [Send.on, sent] at view
  have old := sound.given was
  have left := (Desk.line_left old outside (.failAll reason failure)).2
  refine ⟨congrArg Prod.snd view, List.flatMap_eq_nil_iff.mpr ?_⟩
  exact (run.turn _).silent (Desk.given_turn old _) (congrArg Prod.fst view) left operations

theorem Run.rejected_in_line (run : Run capacity turns k) {s : Send} {reason : String} {failure : Failure}
    (was : k.dispatcher.send? s.ticket = some s) (waits : s.progress = .waiting none)
    (operations : List Operation) :
    (k.turn (.failAll reason failure)).reports s.ticket = [] ∧
      Fate s.ticket (.error failure) ((k.turn (.failAll reason failure)).after.run operations).1
        ((k.turn (.failAll reason failure)).after.run operations).2 := by
  have meets := Desk.meets_failAll run.balanced.sound was (by rw [Send.isOpen, waits]) reason failure
  have view := meets.view
  simp only [Send.on, waits] at view
  exact ⟨congrArg Prod.snd view, (run.turn _).fate (s := { s with progress := .waiting (some (.error failure)) })
    (congrArg Prod.fst view) rfl operations⟩

/-- A rejection of all requests empties the table.  A pending request reports the failure in
that turn and nothing later, unless it is in line: then it reports nothing in that turn, and
its frame may still enter the channel.  Of all requests issued before, only the frames
of those in line enter it afterwards. -/
theorem rejection_settles_unless_in_line (run : Run capacity turns k) (reason : String) (failure : Failure)
    (operations : List Operation) :
    let rejection := k.turn (.failAll reason failure)
    let (later, last) := rejection.after.run operations
    rejection.after.dispatcher.pending = [] ∧
    rejection.after.dispatcher.channel = k.dispatcher.channel ∧
    rejection.after.dispatcher.clock = k.dispatcher.clock ∧
    (∀ p ∈ k.dispatcher.pending,
      if p.ticket ∈ k.dispatcher.line then
        rejection.reports p.ticket = [] ∧ Fate p.ticket (.error failure) later last
      else
        rejection.reports p.ticket = [⟨p.ticket, .error failure⟩] ∧
          later.flatMap (fun t => t.reports p.ticket) = []) ∧
    ∀ r ∈ turns.flatMap Turn.issued, r.ticket ∈ later.flatMap Turn.entered →
      r.ticket ∈ k.dispatcher.line := by
  intro rejection
  obtain ⟨pending, channel⟩ := failAll_pending k.dispatcher reason failure
  refine ⟨pending, channel, failAll_clock _ _ _, fun p member => ?_, fun r issued enters => ?_⟩
  · obtain ⟨s, was, rfl, _, progress⟩ := run.pending_task member
    split at progress
    · next inside =>
      rw [if_pos (show s.entry.ticket ∈ _ from inside)]
      exact run.rejected_in_line was progress operations
    · next outside =>
      obtain ⟨deadline, sent⟩ := progress
      rw [if_neg (show s.entry.ticket ∉ _ from outside)]
      exact run.rejected_at_once was sent outside operations
  · by_contra outside
    have old := (run.chronicle.given r issued).1
    obtain ⟨t, turn, entered⟩ := List.mem_flatMap.mp enters
    have left := (Desk.line_left old outside (.failAll reason failure)).2
    exact (run.turn _).outside (Desk.given_turn old _) left operations t turn entered

/-- The channel has room for one frame.  The first request is told at once; the second one,
which is in line, is not. -/
theorem rejection_settles_unless_in_line_full_channel : ∃ turns k, Run 1 turns k ∧
    (k.turn (.failAll "gone" (.processExited (some 2)))).reports 0 =
      [⟨0, .error (.processExited (some 2))⟩] ∧
    (k.turn (.failAll "gone" (.processExited (some 2)))).reports 1 = [] := by
  have run := (Run.start : Run 1 [] _).append [.send "a" none 100, .send "b" none 100]
  have told := (rejection_settles_unless_in_line run "gone" (.processExited (some 2)) [.take]).2.2.2.1
  have first := told ⟨1, "a", 0⟩ List.mem_cons_self
  have second := told ⟨2, "b", 1⟩ (List.mem_cons_of_mem _ List.mem_cons_self)
  rw [if_neg (by decide)] at first
  rw [if_pos (by decide)] at second
  exact ⟨_, _, run, first.1, second.1⟩

/-- A pending request that is not told of the rejection at once, and whose frame enters the
channel after it. -/
theorem rejected_frame_enters : ∃ turns k r, Run 1 turns k ∧ r ∈ turns.flatMap Turn.issued ∧
    r.entry ∈ k.dispatcher.pending ∧
    (k.turn (.failAll "gone" (.processExited (some 2)))).reports r.ticket = [] ∧
    r.ticket ∈ ((k.turn (.failAll "gone" (.processExited (some 2)))).after.turn .take).entered := by
  have run := (Run.start : Run 1 [] _).append [.send "a" none 100, .send "b" none 100]
  exact ⟨_, _, ⟨2, "b", 1, 100⟩, run, List.mem_cons_of_mem _ List.mem_cons_self,
    List.mem_cons_of_mem _ List.mem_cons_self, rfl, List.mem_singleton_self _⟩

end Rejection

end BlockDiscovery.Session
