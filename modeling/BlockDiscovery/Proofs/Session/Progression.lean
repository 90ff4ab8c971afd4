import BlockDiscovery.Proofs.Session.Ending
import Mathlib.Data.List.Chain

/-! # Progression of a connection's life

A life goes along the edges that `Phase.allows` lists and no other way, so that it passes every
phase at most once and stays in a terminal one.  Whoever waits for readiness is told in the first
moment in which the life is ready or has ended, and is told what that phase means.

A moment is one act on the life, after which everyone who can be told is told.
-/

namespace BlockDiscovery.Session

open BlockDiscovery.Protocol

/-! ## Moments -/

/-- What is done with the life of a connection. -/
inductive Act where
  | transition (next : Phase)
  | fail (reason : String)
  | failUnexpected (reason : String)
  /-- A task starts to wait for readiness. -/
  | wait

/-- The life of a connection and the number of tasks that waited for readiness so far, which is
the ticket of the next one. -/
structure Vigil where
  lifecycle : Lifecycle
  tasks : Nat

/-- One act: what it found, whether it changed the phase, who was told what, and what it left. -/
structure Moment where
  before : Vigil
  act : Act
  changed : Bool
  told : List (Ticket × Except Failure Unit)
  after : Vigil

namespace Vigil

/-- The life of a connection that was not started, for which nobody waits. -/
def fresh : Vigil := ⟨.fresh, 0⟩

/-- The current phase. -/
def phase (k : Vigil) : Phase := k.lifecycle.phase

/-- Whether an act changes the phase, and what it makes of the life before anybody is told. -/
def perform (k : Vigil) : Act → Bool × Lifecycle
  | .transition next => k.lifecycle.move next
  | .fail reason => k.lifecycle.fail reason
  | .failUnexpected reason => k.lifecycle.failUnexpected reason
  | .wait => (false, k.lifecycle.wait k.tasks)

/-- The number of tasks after an act. -/
def tasksAfter (k : Vigil) : Act → Nat
  | .wait => k.tasks + 1
  | _ => k.tasks

/-- Do something with a life, and tell everyone who can be told. -/
def moment (k : Vigil) (act : Act) : Moment :=
  let (changed, lifecycle) := k.perform act
  ⟨k, act, changed, lifecycle.settle.1, ⟨lifecycle.settle.2, k.tasksAfter act⟩⟩

end Vigil

/-- The moments of a life from its beginning, first moment first, and what they left. -/
inductive Lifetime : List Moment → Vigil → Prop
  | start : Lifetime [] .fresh
  | moment {moments : List Moment} {k : Vigil} (act : Act) (life : Lifetime moments k) :
      Lifetime (moments ++ [k.moment act]) (k.moment act).after

/-- Let one act follow another: the moments, and what they leave. -/
def Vigil.live (k : Vigil) : List Act → List Moment × Vigil
  | [] => ([], k)
  | act :: rest =>
    let (moments, last) := (k.moment act).after.live rest
    (k.moment act :: moments, last)

theorem Lifetime.append {moments : List Moment} {k : Vigil} (life : Lifetime moments k) (acts : List Act) :
    Lifetime (moments ++ (k.live acts).1) (k.live acts).2 := by
  induction acts generalizing moments k with
  | nil => exact (List.append_nil moments).symm ▸ life
  | cons act acts ih =>
    have rest := ih (life.moment act)
    rw [List.append_assoc] at rest
    exact rest

/-- The phases that a life goes through: the first one, and every one that an act changes to. -/
def path (moments : List Moment) : List Phase :=
  .uninitialized :: (moments.filter Moment.changed).map fun m => m.after.phase

/-- What the task of a ticket is told in some moments. -/
def verdicts (t : Ticket) (moments : List Moment) : List (Except Failure Unit) :=
  (moments.flatMap fun m => m.told.filter fun told => told.1 = t).map Prod.snd

/-- What the phases that end a wait mean for it. -/
inductive Means : Phase → Except Failure Unit → Prop
  | ready : Means .ready (.ok ())
  | failed (reason : String) : Means (.failed reason) (.error (.connectionFailed reason))
  | closed : Means .closed (.error .connectionClosed)

/-- How a task that waits since the first of the given moments stands after the last of them.  The
life is settled when it is ready or has ended. -/
inductive Waiter (t : Ticket) (k : Vigil) : List Moment → Prop
  | waits {moments : List Moment} (unsettled : ∀ m ∈ moments, m.after.phase.isSettled = false)
      (untold : verdicts t moments = []) (inside : t ∈ k.lifecycle.waiting) : Waiter t k moments
  /-- It was told once, in the first moment in which the life was settled. -/
  | told {front rest : List Moment} {m : Moment} {verdict : Except Failure Unit}
      (unsettled : ∀ m ∈ front, m.after.phase.isSettled = false) (settled : m.after.phase.isSettled = true)
      (means : Means m.after.phase verdict) (now : verdicts t [m] = [verdict])
      (before : verdicts t front = []) (later : verdicts t rest = [])
      (outside : t ∉ k.lifecycle.waiting) : Waiter t k (front ++ m :: rest)

/-! ## Phases -/

namespace Phase

variable {p q : Phase} {phases : List Phase}

/-- How far a phase is from the first one. -/
def rank : Phase → Nat
  | .uninitialized => 0
  | .starting => 1
  | .initializing => 2
  | .ready => 3
  | .shuttingDown => 4
  | .closed | .failed _ => 5

theorem rank_lt_of_allows (allowed : p.allows q = true) : p.rank < q.rank := by
  cases p <;> cases q <;> simp_all [allows, isLive, rank]

theorem nodup_of_isChain (chain : phases.IsChain fun p q => p.allows q = true) : phases.Nodup := by
  have climbs : phases.IsChain fun p q => p.rank < q.rank := chain.imp fun _ _ => rank_lt_of_allows
  have _ : IsTrans Phase fun p q => p.rank < q.rank := ⟨fun _ _ _ => Nat.lt_trans⟩
  exact climbs.pairwise.imp fun less same => Nat.ne_of_lt less (congrArg rank same)

/-- No phase follows a terminal one. -/
theorem eq_nil_of_isTerminal (chain : (p :: phases).IsChain fun p q => p.allows q = true)
    (terminal : p.isTerminal = true) : phases = [] := by
  cases phases with
  | nil => rfl
  | cons q phases =>
    cases (not_allows_of_isTerminal terminal).symm.trans (List.isChain_cons_cons.mp chain).1

/-- A way to `ready` takes the only edge that does not end the life. -/
theorem next_of_ready_mem {next : Phase} (only : ∀ q, p.allows q = true → q = next ∨ q.isTerminal = true)
    (chain : (p :: phases).IsChain fun p q => p.allows q = true) (ready : .ready ∈ phases) :
    ∃ rest, phases = next :: rest ∧ (next :: rest).IsChain fun p q => p.allows q = true := by
  cases phases with
  | nil => cases ready
  | cons q phases =>
    obtain ⟨allowed, rest⟩ := List.isChain_cons_cons.mp chain
    obtain rfl | terminal := only q allowed
    · exact ⟨phases, rfl, rest⟩
    · rw [eq_nil_of_isTerminal rest terminal] at ready
      rw [← List.mem_singleton.mp ready] at terminal
      cases terminal

/-- The way to `ready` is the whole handshake. -/
theorem handshake_of_ready_mem (chain : (.uninitialized :: phases).IsChain fun p q => p.allows q = true)
    (ready : .ready ∈ phases) : [.starting, .initializing, .ready] <+: phases := by
  have fromFresh (q : Phase) : uninitialized.allows q = true → q = .starting ∨ q.isTerminal = true := by
    cases q <;> simp [allows, isLive, isTerminal]
  have fromStarting (q : Phase) : starting.allows q = true → q = .initializing ∨ q.isTerminal = true := by
    cases q <;> simp [allows, isLive, isTerminal]
  have fromInitializing (q : Phase) : initializing.allows q = true → q = .ready ∨ q.isTerminal = true := by
    cases q <;> simp [allows, isLive, isTerminal]
  obtain ⟨_, rfl, started⟩ := next_of_ready_mem fromFresh chain ready
  have ready := (List.mem_cons.mp ready).resolve_left fun same => by cases same
  obtain ⟨_, rfl, initialized⟩ := next_of_ready_mem fromStarting started ready
  have ready := (List.mem_cons.mp ready).resolve_left fun same => by cases same
  obtain ⟨rest, rfl, _⟩ := next_of_ready_mem fromInitializing initialized ready
  exact ⟨rest, rfl⟩

theorem means_of_isSettled (settled : p.isSettled = true) : Means p p.readiness := by
  cases p with
  | ready => exact .ready
  | closed => exact .closed
  | failed reason => exact .failed reason
  | _ => cases settled

end Phase

/-! ## One moment -/

section Moments

variable {k : Vigil} {act : Act} {t : Ticket} {moments front rest : List Moment} {m : Moment}

theorem settle_phase (l : Lifecycle) : l.settle.2.phase = l.phase := by
  rw [Lifecycle.settle]
  split <;> rfl

/-- The phase that an act asks for. -/
def Act.target? : Act → Option Phase
  | .transition next => some next
  | .fail reason | .failUnexpected reason => some (.failed reason)
  | .wait => none

/-- What an act can do. -/
theorem Vigil.perform_cases (k : Vigil) (act : Act) :
    (∃ next, act.target? = some next ∧ k.phase.allows next = true ∧
      k.perform act = (true, { k.lifecycle with phase := next })) ∨
    (act ≠ .wait ∧ k.perform act = (false, k.lifecycle)) ∨
    act = .wait ∧ k.perform act = (false, k.lifecycle.wait k.tasks) := by
  have moves {next : Phase} (target : act.target? = some next) (same : k.perform act = k.lifecycle.move next) :
      (∃ next, act.target? = some next ∧ k.phase.allows next = true ∧
        k.perform act = (true, { k.lifecycle with phase := next })) ∨
      act ≠ .wait ∧ k.perform act = (false, k.lifecycle) := by
    rw [Lifecycle.move] at same
    split at same
    · next allowed => exact .inl ⟨next, target, allowed, same⟩
    · refine .inr ⟨?_, same⟩
      rintro rfl
      cases target
  cases act with
  | transition next => exact (moves rfl rfl).imp_right .inl
  | fail reason => exact (moves rfl rfl).imp_right .inl
  | failUnexpected reason =>
    by_cases closing : k.lifecycle.phase = .shuttingDown
    · exact .inr (.inl ⟨fun same => (by cases same), if_pos closing⟩)
    · exact (moves rfl (if_neg closing)).imp_right .inl
  | wait => exact .inr (.inr ⟨rfl, rfl⟩)

theorem Vigil.tasks_le (k : Vigil) (act : Act) : k.tasks ≤ k.tasksAfter act := by
  cases act with
  | wait => exact Nat.le_succ _
  | _ => exact Nat.le_refl _

theorem moment_phase (k : Vigil) (act : Act) : (k.moment act).after.phase = (k.perform act).2.phase :=
  settle_phase _

theorem phase_of_unchanged (unchanged : (k.moment act).changed = false) :
    (k.moment act).after.phase = k.phase := by
  have changed : (k.perform act).1 = false := unchanged
  rw [moment_phase]
  obtain ⟨_, _, _, out⟩ | ⟨_, out⟩ | ⟨_, out⟩ := k.perform_cases act <;> rw [out] at changed ⊢
  · cases changed
  · rfl
  · rfl

theorem edge_of_changed (changed : (k.moment act).changed = true) :
    act.target? = some (k.moment act).after.phase ∧ k.phase.allows (k.moment act).after.phase = true := by
  have changed : (k.perform act).1 = true := changed
  rw [moment_phase]
  obtain ⟨next, target, allowed, out⟩ | ⟨_, out⟩ | ⟨_, out⟩ := k.perform_cases act <;> rw [out] at changed ⊢
  · exact ⟨target, allowed⟩
  · cases changed
  · cases changed

/-- Nothing explained by a shutdown makes the connection fail. -/
theorem unchanged_of_explained (closing : k.phase = .shuttingDown) (reason : String) :
    (k.moment (.failUnexpected reason)).changed = false := by
  have closing : k.lifecycle.phase = .shuttingDown := closing
  change (k.lifecycle.failUnexpected reason).1 = false
  rw [Lifecycle.failUnexpected, if_pos closing]

/-- Those who wait are known and different, and nobody waits in a settled life. -/
structure Vigil.Attended (k : Vigil) : Prop where
  known : ∀ t ∈ k.lifecycle.waiting, t < k.tasks
  single : k.lifecycle.waiting.Nodup
  relieved : k.phase.isSettled = true → k.lifecycle.waiting = []

theorem attended_fresh : Vigil.fresh.Attended := ⟨List.forall_mem_nil _, .nil, fun _ => rfl⟩

/-- A refused act changes nothing, and nobody is told anything. -/
theorem moment_of_refused (attended : k.Attended) (asks : act ≠ .wait)
    (unchanged : (k.moment act).changed = false) : (k.moment act).after = k ∧ (k.moment act).told = [] := by
  have changed : (k.perform act).1 = false := unchanged
  have same : (k.perform act).2 = k.lifecycle := by
    obtain ⟨_, _, _, out⟩ | ⟨_, out⟩ | ⟨waits, _⟩ := k.perform_cases act
    · rw [out] at changed
      cases changed
    · rw [out]
    · exact absurd waits asks
  have settles : k.lifecycle.settle = ([], k.lifecycle) := by
    rw [Lifecycle.settle]
    split
    · next settled =>
      have nobody := attended.relieved settled
      obtain ⟨⟨phase, waiting⟩, tasks⟩ := k
      cases nobody
      rfl
    · rfl
  have tasks : k.tasksAfter act = k.tasks := by
    cases act with
    | wait => exact absurd rfl asks
    | _ => rfl
  refine ⟨?_, ?_⟩
  · change (⟨(k.perform act).2.settle.2, k.tasksAfter act⟩ : Vigil) = k
    rw [same, settles, tasks]
  · change (k.perform act).2.settle.1 = []
    rw [same, settles]

/-- Those who are waiting when an act has been done, and before anybody is told. -/
theorem Vigil.Attended.performed (attended : k.Attended) (act : Act) :
    (∀ t ∈ (k.perform act).2.waiting, t < k.tasksAfter act) ∧ (k.perform act).2.waiting.Nodup := by
  have known (t : Ticket) (member : t ∈ k.lifecycle.waiting) : t < k.tasksAfter act :=
    Nat.lt_of_lt_of_le (attended.known t member) (k.tasks_le act)
  obtain ⟨_, _, _, out⟩ | ⟨_, out⟩ | ⟨rfl, out⟩ := k.perform_cases act <;> rw [out]
  · exact ⟨known, attended.single⟩
  · exact ⟨known, attended.single⟩
  · refine ⟨fun t member => ?_, ?_⟩
    · obtain old | new := List.mem_append.mp member
      · exact Nat.lt_succ_of_lt (attended.known t old)
      · exact Nat.lt_succ_of_le (Nat.le_of_eq (List.mem_singleton.mp new))
    · refine List.nodup_append.mpr ⟨attended.single, List.nodup_singleton _, fun t old u new same => ?_⟩
      exact Nat.ne_of_lt (attended.known t old) (same.trans (List.mem_singleton.mp new))

theorem Vigil.Attended.moment (attended : k.Attended) (act : Act) : (k.moment act).after.Attended := by
  obtain ⟨known, single⟩ := attended.performed act
  change Vigil.Attended ⟨(k.perform act).2.settle.2, k.tasksAfter act⟩
  rw [Lifecycle.settle]
  split
  · exact ⟨List.forall_mem_nil _, .nil, fun _ => rfl⟩
  · next unsettled => exact ⟨known, single, fun settled => absurd settled unsettled⟩

/-! ## What a task is told -/

theorem verdicts_append (t : Ticket) (front rest : List Moment) :
    verdicts t (front ++ rest) = verdicts t front ++ verdicts t rest := by
  rw [verdicts, List.flatMap_append, List.map_append]
  rfl

theorem verdicts_eq_nil (untold : ∀ told ∈ m.told, told.1 ≠ t) : verdicts t [m] = [] := by
  have none : (m.told.filter fun told => told.1 = t) = [] := by
    rw [List.filter_eq_nil_iff]
    exact fun told member => by simpa using untold told member
  rw [verdicts, List.flatMap_singleton, none, List.map_nil]

/-- Nobody hears anything who does not wait. -/
theorem verdicts_of_outside (outside : t ∉ (k.perform act).2.waiting) :
    verdicts t [k.moment act] = [] ∧ t ∉ (k.moment act).after.lifecycle.waiting := by
  have told : (k.moment act).told = (k.perform act).2.settle.1 := rfl
  have after : (k.moment act).after.lifecycle = (k.perform act).2.settle.2 := rfl
  rw [after]
  rw [Lifecycle.settle] at told ⊢
  split at told
  · next settled =>
    rw [if_pos settled]
    refine ⟨verdicts_eq_nil fun entry member => ?_, List.not_mem_nil⟩
    rw [told] at member
    obtain ⟨u, waits, rfl⟩ := List.mem_map.mp member
    rintro rfl
    exact outside waits
  · next unsettled =>
    rw [if_neg unsettled]
    refine ⟨verdicts_eq_nil fun entry member => ?_, outside⟩
    rw [told] at member
    cases member

/-- Who waits when an act has been done is told now, or the life is not settled. -/
theorem waiter_of_inside (single : (k.perform act).2.waiting.Nodup) (inside : t ∈ (k.perform act).2.waiting) :
    Waiter t (k.moment act).after [k.moment act] := by
  have phase := moment_phase k act
  have told : (k.moment act).told = (k.perform act).2.settle.1 := rfl
  have after : (k.moment act).after.lifecycle = (k.perform act).2.settle.2 := rfl
  rw [Lifecycle.settle] at told after
  split at told
  · next settled =>
    rw [if_pos settled] at after
    have once : ((k.moment act).told.filter fun told => told.1 = t) =
        [(t, (k.perform act).2.phase.readiness)] := by
      have alone : (k.perform act).2.waiting.filter (fun u => decide (u = t)) = [t] := by
        rw [List.filter_eq, List.count_eq_one_of_mem single inside]
        rfl
      rw [told, List.filter_map]
      exact congrArg (List.map _) alone
    have nothing : verdicts t [] = [] := rfl
    have still : ∀ m ∈ ([] : List Moment), m.after.phase.isSettled = false := List.forall_mem_nil _
    refine .told still (phase ▸ settled) (phase ▸ Phase.means_of_isSettled settled) ?_ nothing nothing ?_
    · rw [verdicts, List.flatMap_singleton, once, phase]
      rfl
    · rw [after]
      exact List.not_mem_nil
  · next unsettled =>
    rw [if_neg unsettled] at after
    refine .waits (fun m member => ?_) (verdicts_eq_nil fun entry member => ?_) (after ▸ inside)
    · rw [List.mem_singleton.mp member, phase]
      exact Bool.eq_false_iff.mpr unsettled
    · rw [told] at member
      cases member

/-- A task may have waited in vain before. -/
theorem Waiter.preceded (waiter : Waiter t k rest) (unsettled : ∀ m ∈ front, m.after.phase.isSettled = false)
    (untold : verdicts t front = []) : Waiter t k (front ++ rest) := by
  cases waiter with
  | waits still quiet inside =>
    refine .waits (fun m member => ?_) ?_ inside
    · exact (List.mem_append.mp member).elim (unsettled m) (still m)
    · rw [verdicts_append, untold, quiet, List.append_nil]
  | told still settled means now before later outside =>
    rw [← List.append_assoc]
    refine .told (fun m member => ?_) settled means now ?_ later outside
    · exact (List.mem_append.mp member).elim (unsettled m) (still m)
    · rw [verdicts_append, untold, before, List.append_nil]

/-- What one more moment means for a task that has waited. -/
theorem Waiter.moment (waiter : Waiter t k moments) (attended : k.Attended) (started : t < k.tasks) (act : Act) :
    Waiter t (k.moment act).after (moments ++ [k.moment act]) := by
  cases waiter with
  | waits unsettled untold inside =>
    refine (waiter_of_inside (attended.performed act).2 ?_).preceded unsettled untold
    obtain ⟨_, _, _, out⟩ | ⟨_, out⟩ | ⟨_, out⟩ := k.perform_cases act <;> rw [out]
    · exact inside
    · exact inside
    · exact List.mem_append_left _ inside
  | @told front rest m verdict unsettled settled means now before later outside =>
    have outside : t ∉ (k.perform act).2.waiting := by
      obtain ⟨_, _, _, out⟩ | ⟨_, out⟩ | ⟨_, out⟩ := k.perform_cases act <;> rw [out]
      · exact outside
      · exact outside
      · refine fun member => (List.mem_append.mp member).elim outside fun new => ?_
        exact Nat.ne_of_lt started (List.mem_singleton.mp new)
    obtain ⟨silent, outside⟩ := verdicts_of_outside outside
    rw [List.append_assoc, List.cons_append]
    refine .told unsettled settled means now before ?_ outside
    rw [verdicts_append, later, silent, List.append_nil]

end Moments

/-! ## Lives -/

section Lives

variable {k : Vigil} {moments front back : List Moment} {m : Moment}

theorem Lifetime.attended (life : Lifetime moments k) : k.Attended := by
  induction life with
  | start => exact attended_fresh
  | moment act _ ih => exact ih.moment act

/-- A moment of a life, with the life that leads to it. -/
theorem Lifetime.momentAt (life : Lifetime moments k) (member : m ∈ moments) :
    ∃ front j act, Lifetime front j ∧ m = j.moment act := by
  induction life with
  | start => cases member
  | moment act life ih =>
    obtain old | new := List.mem_append.mp member
    · exact ih old
    · exact ⟨_, _, act, life, List.mem_singleton.mp new⟩

theorem path_append (front back : List Moment) :
    path (front ++ back) = path front ++ (back.filter Moment.changed).map fun m => m.after.phase := by
  rw [path, List.filter_append, List.map_append]
  rfl

theorem path_moment_changed (changed : m.changed = true) : path (moments ++ [m]) = path moments ++ [m.after.phase] := by
  rw [path_append, List.filter_cons_of_pos changed]
  rfl

theorem path_moment_unchanged (unchanged : m.changed = false) : path (moments ++ [m]) = path moments := by
  rw [path_append, List.filter_cons_of_neg (Bool.eq_false_iff.mp unchanged)]
  exact List.append_nil _

/-- The path goes along edges only, and ends in the current phase. -/
theorem Lifetime.edges (life : Lifetime moments k) :
    (path moments).IsChain (fun p q => p.allows q = true) ∧ (path moments).getLast? = some k.phase := by
  induction life with
  | start => exact ⟨.singleton _, rfl⟩
  | @moment moments k act _ ih =>
    obtain ⟨chain, last⟩ := ih
    cases changed : (k.moment act).changed with
    | true =>
      obtain ⟨_, allowed⟩ := edge_of_changed changed
      rw [path_moment_changed changed]
      refine ⟨List.isChain_append.mpr ⟨chain, .singleton _, fun p final q first => ?_⟩, List.getLast?_concat ..⟩
      rw [last] at final
      cases final
      cases first
      exact allowed
    | false =>
      rw [path_moment_unchanged changed, phase_of_unchanged changed]
      exact ⟨chain, last⟩

theorem Lifetime.phase_mem_path (life : Lifetime moments k) : k.phase ∈ path moments :=
  List.mem_of_getLast? life.edges.2

/-- Every phase that the life was in lies on the path. -/
theorem Lifetime.visited (life : Lifetime moments k) :
    ∀ m ∈ moments, m.before.phase ∈ path moments ∧ m.after.phase ∈ path moments := by
  induction life with
  | start => exact List.forall_mem_nil _
  | @moment moments k act life ih =>
    have grows : path moments ⊆ path (moments ++ [k.moment act]) := by
      rw [path_append]
      exact List.subset_append_left _ _
    intro m member
    obtain old | new := List.mem_append.mp member
    · exact ⟨grows (ih m old).1, grows (ih m old).2⟩
    · rw [List.mem_singleton.mp new]
      exact ⟨grows life.phase_mem_path, (life.moment act).phase_mem_path⟩

/-- A terminal phase is where the path ends. -/
theorem Lifetime.final (life : Lifetime moments k) :
    ∀ p ∈ path moments, p.isTerminal = true → k.phase = p := by
  intro p member terminal
  obtain ⟨chain, last⟩ := life.edges
  obtain ⟨front, rest, split⟩ := List.append_of_mem member
  rw [split] at chain last
  rw [Phase.eq_nil_of_isTerminal (List.isChain_append.mp chain).2.1 terminal, List.getLast?_concat] at last
  exact (Option.some.inj last).symm

theorem Lifetime.handshake (life : Lifetime moments k) (ready : .ready ∈ path moments) :
    [.uninitialized, .starting, .initializing, .ready] <+: path moments :=
  List.cons_prefix_cons.mpr
    ⟨rfl, Phase.handshake_of_ready_mem life.edges.1 ((List.mem_cons.mp ready).resolve_left fun same => by cases same)⟩

/-- No task is told anything before it has started. -/
theorem Lifetime.unborn (life : Lifetime moments k) {t : Ticket} (unborn : k.tasks ≤ t) : verdicts t moments = [] := by
  induction life with
  | start => rfl
  | @moment moments k act life ih =>
    have tasks := k.tasks_le act
    have outside : t ∉ (k.perform act).2.waiting := fun member =>
      Nat.not_lt_of_le unborn ((life.attended.performed act).1 t member)
    rw [verdicts_append, ih (Nat.le_trans tasks unborn), (verdicts_of_outside outside).1, List.append_nil]

theorem Lifetime.waiter (life : Lifetime moments k) :
    ∀ front m back, moments = front ++ m :: back → m.act = .wait →
      verdicts m.before.tasks front = [] ∧ m.before.tasks < k.tasks ∧
      Waiter m.before.tasks k (m :: back) := by
  induction life with
  | start => exact fun front m back split => absurd split.symm (by simp)
  | @moment moments k act life ih =>
    intro front m back split waits
    obtain rfl | ⟨back, last, rfl⟩ := List.eq_nil_or_concat back
    · obtain ⟨rfl, same⟩ := List.append_inj' split rfl
      cases same
      cases waits
      refine ⟨life.unborn (Nat.le_refl _), Nat.lt_succ_self _, ?_⟩
      exact waiter_of_inside (life.attended.performed .wait).2 (List.mem_append_right _ (List.mem_singleton_self _))
    · rw [List.concat_eq_append, ← List.cons_append, ← List.append_assoc] at split
      obtain ⟨rfl, same⟩ := List.append_inj' split rfl
      cases same
      obtain ⟨untold, started, waiter⟩ := ih front m back rfl waits
      rw [List.concat_eq_append, ← List.cons_append]
      exact ⟨untold, Nat.lt_of_lt_of_le started (k.tasks_le act), waiter.moment life.attended started act⟩

/-- What an act of a life does: it changes the phase along the edge that it asks for, or it leaves
the phase alone; a refused act leaves everything alone. -/
theorem Lifetime.done (life : Lifetime moments k) (member : m ∈ moments) :
    (m.changed = true → m.act.target? = some m.after.phase ∧ m.before.phase.allows m.after.phase = true) ∧
    (m.changed = false → m.after.phase = m.before.phase ∧
      (m.act ≠ .wait → m.after = m.before ∧ m.told = [])) := by
  obtain ⟨front, j, act, earlier, rfl⟩ := life.momentAt member
  refine ⟨edge_of_changed, fun unchanged => ⟨phase_of_unchanged unchanged, fun asks => ?_⟩⟩
  exact moment_of_refused earlier.attended asks unchanged

theorem Lifetime.explained (life : Lifetime moments k) (member : m ∈ moments) {reason : String}
    (unexpected : m.act = .failUnexpected reason) (closing : m.before.phase = .shuttingDown) :
    m.changed = false ∧ m.after = m.before := by
  obtain ⟨front, j, act, earlier, rfl⟩ := life.momentAt member
  obtain rfl : act = .failUnexpected reason := unexpected
  have unchanged : (j.moment (.failUnexpected reason)).changed = false := unchanged_of_explained closing reason
  have asks : Act.failUnexpected reason ≠ .wait := fun same => by cases same
  exact ⟨unchanged, (moment_of_refused earlier.attended asks unchanged).1⟩

/-- A life takes edges only: its phases never come back, a terminal phase is the last one and a
failure keeps its reason, and the way to `ready` is the whole handshake.  A refused act changes
nothing, and so does the failure that a shutdown explains.  Whoever waits is told once, in the first
moment since it began to wait in which the life is ready or has ended, and what that phase means;
so in such a phase nobody is left waiting. -/
theorem life_advances_and_tells (life : Lifetime moments k) :
    (path moments).IsChain (fun p q => p.allows q = true) ∧ (path moments).getLast? = some k.phase ∧
    (∀ m ∈ moments, m.before.phase ∈ path moments ∧ m.after.phase ∈ path moments) ∧
    (path moments).Nodup ∧
    (∀ p ∈ path moments, p.isTerminal = true → k.phase = p) ∧
    (.ready ∈ path moments → [.uninitialized, .starting, .initializing, .ready] <+: path moments) ∧
    (∀ m ∈ moments,
      (m.changed = true → m.act.target? = some m.after.phase ∧ m.before.phase.allows m.after.phase = true) ∧
      (m.changed = false → m.after.phase = m.before.phase ∧
        (m.act ≠ .wait → m.after = m.before ∧ m.told = []))) ∧
    (∀ m ∈ moments, ∀ reason, m.act = .failUnexpected reason → m.before.phase = .shuttingDown →
      m.changed = false ∧ m.after = m.before) ∧
    (∀ front m back, moments = front ++ m :: back → m.act = .wait →
      verdicts m.before.tasks front = [] ∧ Waiter m.before.tasks k (m :: back)) ∧
    (k.phase.isSettled = true → k.lifecycle.waiting = []) := by
  obtain ⟨chain, last⟩ := life.edges
  refine ⟨chain, last, life.visited, Phase.nodup_of_isChain chain, life.final, life.handshake,
    fun m member => life.done member, fun m member reason => life.explained member,
    fun front m back split waits => ?_, life.attended.relieved⟩
  obtain ⟨untold, _, waiter⟩ := life.waiter front m back split waits
  exact ⟨untold, waiter⟩

/-- One task waits from the beginning, another one during the shutdown, which then fails. -/
theorem life_advances_and_tells_broken_shutdown : ∃ moments k, Lifetime moments k ∧
    path moments = [.uninitialized, .starting, .initializing, .ready, .shuttingDown, .failed "read"] ∧
    (path moments).Nodup ∧ k.lifecycle.waiting = [] ∧
    verdicts 0 moments = [.ok ()] ∧ verdicts 1 moments = [.error (.connectionFailed "read")] ∧
    ∃ m ∈ moments, m.act = .failUnexpected "exit" ∧ m.changed = false ∧ m.after = m.before := by
  have life := Lifetime.start.append [.wait, .transition .starting, .transition .initializing,
    .transition .ready, .transition .shuttingDown, .wait, .failUnexpected "exit", .fail "read"]
  obtain ⟨_, _, _, once, _, _, _, explained, _, relieved⟩ := life_advances_and_tells life
  refine ⟨_, _, life, rfl, once, relieved rfl, rfl, rfl, _, List.mem_of_getElem? (i := 6) rfl, rfl, ?_⟩
  exact explained _ (List.mem_of_getElem? (i := 6) rfl) "exit" rfl rfl

end Lives

end BlockDiscovery.Session
