import BlockDiscovery.Proofs.Session.Episode

/-! # The story of a request

What happened to one request in a run is its history: the verdicts on its entry, the
times at which its frame entered the channel and at which it was cancelled, and what
its task reported.  Only a few histories are possible (`Story`); each event of a task
leads from one to another, and induction over a run gives every request its story.
-/

namespace BlockDiscovery.Session

open BlockDiscovery.Json BlockDiscovery.Protocol Dispatcher

/-! ## Histories -/

/-- What happened to one request, with the times of what was done to it and the times
between which it expired. -/
structure History where
  verdicts : List (Nat × Verdict)
  admissions : List Nat
  cancels : List Nat
  reports : List Completion
  expiries : List (Completion × Nat × Nat)

namespace History

/-- Nothing happened. -/
def blank : History := ⟨[], [], [], [], []⟩

/-- One history and then another one. -/
def append (h i : History) : History :=
  ⟨h.verdicts ++ i.verdicts, h.admissions ++ i.admissions, h.cancels ++ i.cancels,
    h.reports ++ i.reports, h.expiries ++ i.expiries⟩

end History

/-- What happens to a request in one turn. -/
def Turn.history (t : Turn) (r : Request) : History where
  verdicts := (t.verdict? r.entry).toList.map fun v => (t.before.dispatcher.clock, v)
  admissions := if r.ticket ∈ t.entered then [t.before.dispatcher.clock] else []
  cancels := if t.cancels r.ticket then [t.before.dispatcher.clock] else []
  reports := t.reports r.ticket
  expiries := (t.expiries.filter fun c => c.ticket = r.ticket).map fun c =>
    (c, t.before.dispatcher.clock, t.after.dispatcher.clock)

/-- What happens to a request in a run. -/
def Request.history (r : Request) (turns : List Turn) : History where
  verdicts := turns.flatMap fun t => (t.history r).verdicts
  admissions := turns.flatMap fun t => (t.history r).admissions
  cancels := turns.flatMap fun t => (t.history r).cancels
  reports := turns.flatMap fun t => (t.history r).reports
  expiries := turns.flatMap fun t => (t.history r).expiries

theorem history_turn (r : Request) (turns : List Turn) (t : Turn) :
    r.history (turns ++ [t]) = (r.history turns).append (t.history r) := by
  simp only [Request.history, flatMap_turn]
  rfl

section Members

variable {r : Request} {turns : List Turn} {t : Turn}

theorem Request.verdict_turn {v : Nat × Verdict} (member : v ∈ (r.history turns).verdicts) :
    ∃ t ∈ turns, t.before.dispatcher.clock = v.1 ∧ t.verdict? r.entry = some v.2 := by
  obtain ⟨t, turn, inside⟩ := List.mem_flatMap.mp member
  obtain ⟨verdict, found, rfl⟩ := List.mem_map.mp inside
  exact ⟨t, turn, rfl, Option.mem_toList.mp found⟩

theorem Request.admission_mem (turn : t ∈ turns) (entered : r.ticket ∈ t.entered) :
    t.before.dispatcher.clock ∈ (r.history turns).admissions := by
  refine List.mem_flatMap.mpr ⟨t, turn, ?_⟩
  rw [Turn.history, if_pos entered]
  exact List.mem_singleton_self _

theorem Request.verdict_mem {verdict : Verdict} (turn : t ∈ turns)
    (removed : t.verdict? r.entry = some verdict) :
    (t.before.dispatcher.clock, verdict) ∈ (r.history turns).verdicts := by
  refine List.mem_flatMap.mpr ⟨t, turn, ?_⟩
  rw [Turn.history, removed]
  exact List.mem_singleton_self _

theorem Request.cancel_turn {time : Nat} (member : time ∈ (r.history turns).cancels) :
    ∃ t ∈ turns, t.before.dispatcher.clock = time ∧ t.cancels r.ticket = true := by
  obtain ⟨t, turn, inside⟩ := List.mem_flatMap.mp member
  rw [Turn.history] at inside
  dsimp only at inside
  split at inside
  · next cancels => exact ⟨t, turn, (List.mem_singleton.mp inside).symm, cancels⟩
  · cases inside

end Members

/-- What happens to a task by an event between two times. -/
def Send.history (s : Send) (clock later : Nat) (e : Happening) : History where
  verdicts := (Turn.verdictOf e).toList.map fun v => (clock, v)
  admissions := match e with
    | .admitted => [clock]
    | _ => []
  cancels := match e with
    | .cancelled => [clock]
    | _ => []
  reports := (s.on later e).2
  expiries := (Turn.lapses s later e).map fun c => (c, clock, later)

theorem Send.history_time (s : Send) (clock later : Nat) :
    s.history clock later .time =
      ⟨[], [], [], (s.on later .time).2, (s.on later .time).2.map fun c => (c, clock, later)⟩ :=
  rfl

theorem Send.history_admitted {s : Send} (waits : s.isOpen = true) (clock later : Nat) :
    s.history clock later .admitted =
      ⟨[], [clock], [], (s.on later .admitted).2,
        (s.on later .admitted).2.map fun c => (c, clock, later)⟩ := by
  simp only [Send.history, Turn.lapses, if_pos waits]
  rfl

theorem Turn.Meets.history {t : Turn} {r : Request} {progress : Progress} {e : Happening}
    (h : t.Meets (r.task progress) e) : t.history r =
      (r.task progress).history t.before.dispatcher.clock t.after.dispatcher.clock e := by
  obtain ⟨view, verdict, entered, cancels, expiries, _⟩ := h
  have admissions : (if r.ticket ∈ t.entered then [t.before.dispatcher.clock] else []) =
      ((r.task progress).history t.before.dispatcher.clock t.after.dispatcher.clock e).admissions := by
    cases e with
    | admitted => exact if_pos (entered.mpr rfl)
    | _ => exact if_neg fun inside => nomatch entered.mp inside
  have cancelled : (if t.cancels r.ticket then [t.before.dispatcher.clock] else []) =
      ((r.task progress).history t.before.dispatcher.clock t.after.dispatcher.clock e).cancels := by
    cases e with
    | cancelled => exact if_pos (cancels.mpr rfl)
    | _ => exact if_neg fun inside => nomatch cancels.mp inside
  have verdict : t.verdict? r.entry = Turn.verdictOf e := verdict
  have reports : t.reports r.ticket = ((r.task progress).on t.after.dispatcher.clock e).2 :=
    congrArg Prod.snd view
  rw [Turn.history, admissions, cancelled, verdict, reports,
    show t.expiries.filter (fun c => c.ticket = r.ticket) = _ from expiries]
  rfl

/-! ## Stories -/

/-- The histories that a request can have, with the progress of its task, if it is still
there, and the current time. -/
inductive Story (r : Request) : History → Option Progress → Nat → Prop
  /-- Its frame waits for room. -/
  | waiting {cancels : List Nat} {clock : Nat} :
    Story r ⟨[], [], cancels, [], []⟩ (some (.waiting none)) clock
  /-- It was answered while its frame waits for room. -/
  | answered {cancels : List Nat} {clock : Nat} (time : Nat) (verdict : Verdict) (past : time ≤ clock) :
    Story r ⟨[(time, verdict)], [], cancels, [], []⟩
      (some (.waiting (some (verdict.outcome r.method)))) clock
  /-- Its frame is in the channel, and its time is not over. -/
  | sent {cancels : List Nat} {clock : Nat} (start : Nat) (live : clock < start + r.timeout) :
    Story r ⟨[], [start], cancels, [], []⟩ (some (.sent (start + r.timeout))) clock
  /-- It was answered and its frame was in the channel. -/
  | responded {cancels : List Nat} {clock : Nat} (time start : Nat) (verdict : Verdict)
    (inTime : 0 < r.timeout → time < start + r.timeout) :
    Story r ⟨[(time, verdict)], [start], cancels, [⟨r.ticket, verdict.outcome r.method⟩], []⟩ none clock
  /-- Its frame was in the channel, and nobody answered in time. -/
  | expired {cancels : List Nat} {clock : Nat} (start before after : Nat)
    (early : 0 < r.timeout → before < start + r.timeout) (due : start + r.timeout ≤ after)
    (past : after ≤ clock) :
    Story r ⟨[], [start], cancels, [r.lapse], [(r.lapse, before, after)]⟩ none clock
  /-- Its frame never got into the channel. -/
  | unsent {verdicts : List (Nat × Verdict)} {cancels : List Nat} {clock : Nat} (failure : Failure)
    (cause : failure = .writerClosed ∨ ∃ reason, failure = .connectionFailed reason) :
    Story r ⟨verdicts, [], cancels, [⟨r.ticket, .error failure⟩], []⟩ none clock
  /-- It was cancelled before it reported anything. -/
  | withdrawn {verdicts : List (Nat × Verdict)} {admissions cancels : List Nat} {clock : Nat} (time : Nat)
    (given : time ∈ cancels) (live : ∀ start ∈ admissions, time < start + r.timeout)
    (torn : verdicts = [] ∨ admissions = []) :
    Story r ⟨verdicts, admissions, cancels, [], []⟩ none clock

variable {r : Request} {h : History}

/-- The story of a task that is over goes on by itself. -/
theorem Story.later {clock later : Nat} (story : Story r h none clock) (forward : clock ≤ later) :
    Story r h none later := by
  cases story with
  | responded time start verdict inTime => exact .responded time start verdict inTime
  | expired start before after early due past => exact .expired start before after early due (Nat.le_trans past forward)
  | unsent failure cause => exact .unsent failure cause
  | withdrawn time given live torn => exact .withdrawn time given live torn

/-- It goes on although it is cancelled, which nobody hears of. -/
theorem Story.cancelled {clock : Nat} (story : Story r h none clock) (more : List Nat) :
    Story r (h.append ⟨[], [], more, [], []⟩) none clock := by
  cases story with
  | responded time start verdict inTime => exact .responded time start verdict inTime
  | expired start before after early due past => exact .expired start before after early due past
  | unsent failure cause =>
    simp only [History.append, List.append_nil]
    exact .unsent failure cause
  | withdrawn time given live torn =>
    simp only [History.append, List.append_nil]
    exact .withdrawn time (List.mem_append_left _ given) live torn

/-- Every event leads from a story to a story. -/
theorem Story.on {progress : Progress} {clock later : Nat} (story : Story r h (some progress) clock)
    (e : Happening) (isOpen : ∀ verdict, e = .answered verdict → (r.task progress).isOpen = true)
    (room : Turn.needsRoom e = true → ∃ answer, progress = .waiting answer)
    (still : e = .time ∨ later = clock) (forward : clock ≤ later) :
    Story r (h.append ((r.task progress).history clock later e))
      (((r.task progress).on later e).1.map Send.progress) later := by
  cases story with
  | waiting =>
    cases e with
    | nothing | time => exact .waiting
    | answered verdict => exact .answered clock verdict forward
    -- a limit of zero has run out by the time the request enters, so it is over at once
    | admitted =>
      obtain rfl := still.resolve_left nofun
      by_cases zero : r.timeout = 0
      · have lapses : (r.task (.waiting none)).on later .admitted = (none, [r.lapse]) := if_pos zero
        rw [Send.history_admitted rfl, lapses]
        exact .expired later later later (fun positive => Nat.lt_add_of_pos_right positive)
          (Nat.le_of_eq (by rw [zero, Nat.add_zero])) (Nat.le_refl _)
      · have starts : (r.task (.waiting none)).on later .admitted =
            (some (r.task (.sent (later + r.timeout))), []) := if_neg zero
        rw [Send.history_admitted rfl, starts]
        exact .sent later (Nat.lt_add_of_pos_right (Nat.pos_of_ne_zero zero))
    | stranded => exact .unsent _ (.inl rfl)
    | refused reason => exact .unsent _ (.inr ⟨reason, rfl⟩)
    | cancelled => exact .withdrawn clock (List.mem_append_right _ (List.mem_singleton_self _)) nofun (.inr rfl)
  | answered time verdict past =>
    cases e with
    | nothing | time => exact .answered time verdict (Nat.le_trans past forward)
    | answered again => cases isOpen again rfl
    | admitted =>
      obtain rfl := still.resolve_left nofun
      exact .responded time later verdict fun positive => by omega
    | stranded => exact .unsent _ (.inl rfl)
    | refused reason => exact .unsent _ (.inr ⟨reason, rfl⟩)
    | cancelled => exact .withdrawn clock (List.mem_append_right _ (List.mem_singleton_self _)) nofun (.inr rfl)
  | sent start live =>
    cases e with
    | nothing =>
      obtain rfl := still.resolve_left nofun
      exact .sent start live
    | time =>
      by_cases due : start + r.timeout ≤ later
      · have lapses : (r.task (.sent (start + r.timeout))).on later .time = (none, [r.lapse]) :=
          on_time_due rfl due
        rw [Send.history_time, lapses]
        exact .expired start clock later (fun _ => live) due (Nat.le_refl _)
      · have stays : (r.task (.sent (start + r.timeout))).on later .time =
            (some (r.task (.sent (start + r.timeout))), []) := by
          refine on_time_later ?_
          rintro _ ⟨⟩
          exact Nat.lt_of_not_le due
        rw [Send.history_time, stays]
        exact .sent start (Nat.lt_of_not_le due)
    | answered verdict => exact .responded clock start verdict fun _ => live
    | admitted => cases room rfl with | intro answer other => cases other
    | stranded => cases room rfl with | intro answer other => cases other
    | refused reason => cases room rfl with | intro answer other => cases other
    | cancelled =>
      refine .withdrawn clock (List.mem_append_right _ (List.mem_singleton_self _)) (fun other inside => ?_)
        (.inl rfl)
      obtain rfl := List.mem_singleton.mp inside
      exact live

end BlockDiscovery.Session
