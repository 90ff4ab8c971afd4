import BlockDiscovery.Proofs.Session.Fatality
import BlockDiscovery.Proofs.Session.Versions

/-! # The career of a client

A career is what becomes of a new client while discoveries and clean-ups are begun, its tasks go on and
its servers do as they like.  Whatever happens to a client happens to each of its connections as one
incident after another, so every connection of a client has a course.
-/

namespace BlockDiscovery.Session

open BlockDiscovery.Json BlockDiscovery.Protocol BlockDiscovery.Config
open BlockDiscovery.Files (FileTree)

namespace Connection

variable (c : Connection) (incidents : List Incident)

theorem course_append (more : List Incident) :
    (c.course (incidents ++ more)).2 = ((c.course incidents).2.course more).2 := by
  induction incidents generalizing c with
  | nil => rfl
  | cons incident incidents ih => exact ih _

theorem incident_of_mem_course {s : Step} (member : s ∈ (c.course incidents).1) : s.incident ∈ incidents := by
  induction incidents generalizing c with
  | nil => cases member
  | cons incident incidents ih =>
    obtain rfl | later := List.mem_cons.mp member
    · exact List.mem_cons_self
    · exact List.mem_cons_of_mem _ (ih _ later)

/-- An end stays as it is. -/
theorem Coherent.course {c : Connection} (h : c.Coherent) (incidents : List Incident) :
    Leads c (c.course incidents).2 := by
  induction incidents generalizing c with
  | nil => exact .refl h
  | cons incident incidents ih =>
    have first := (h.undergo incident).toLeads
    exact first.trans (ih first.coherent)

end Connection

/-- Whether a discovery has shown its text to the server. -/
def TaskStage.isShown : TaskStage → Bool
  | .syncing _ | .collecting _ => true
  | _ => false

namespace Client

open Connection

/-- What can happen to a client. -/
inductive Event where
  | discover (host : Host) (tree : FileTree) (path : Uri.Path)
  | cleanup
  /-- A task goes on, if it can. -/
  | poll (host : Host) (t : Task)
  | undergo (n : Nat) (incident : Incident)
  | advanceTo (time : Nat)
  | reap

/-- What becomes of a client that has given so many tickets. -/
def react (c : Client) (tasks : Nat) : Event → Client
  | .discover host tree path => c.discover host tree tasks path
  | .cleanup => c.cleanup tasks
  | .poll host t => (c.pollTask host t).getD c
  | .undergo n incident => c.undergo n incident
  | .advanceTo time => c.advanceTo time
  | .reap => c.reap

namespace Event

/-- Whether a task is begun. -/
def begins : Event → Bool
  | .discover .. | .cleanup => true
  | _ => false

/-- How many tickets have been given after an event. -/
def given (tasks : Nat) (event : Event) : Nat := if event.begins then tasks + 1 else tasks

/-- What can happen to a client as it is: its own tasks go on, nothing is done in its name, and for no
connection does time go back. -/
def Fits (c : Client) : Event → Prop
  | .poll _ t => t ∈ c.tasks
  | .undergo _ incident => incident.isForeign = true
  | .advanceTo time => ∀ k ∈ c.connections, k.clock ≤ time
  | _ => True

instance (c : Client) : (event : Event) → Decidable (event.Fits c)
  | .poll _ t => inferInstanceAs (Decidable (t ∈ c.tasks))
  | .undergo _ incident => inferInstanceAs (Decidable (incident.isForeign = true))
  | .advanceTo time => inferInstanceAs (Decidable (∀ k ∈ c.connections, k.clock ≤ time))
  | .discover .. | .cleanup | .reap => inferInstanceAs (Decidable True)

end Event

/-- One event, with the client before it and after it. -/
structure Change where
  before : Client
  event : Event
  after : Client

def change (c : Client) (tasks : Nat) (event : Event) : Change := ⟨c, event, c.react tasks event⟩

/-- The changes of a client from its beginning, first change first, what they left, and how many tickets
it has given. -/
inductive Career (settings : ServerSettings) (registry : Diagnostic.Registry) :
    List Change → Client → Nat → Prop
  | fresh : Career settings registry [] (.fresh settings registry) 0
  | step {changes : List Change} {c : Client} {tasks : Nat} (event : Event)
      (career : Career settings registry changes c tasks) (fits : event.Fits c) :
      Career settings registry (changes ++ [c.change tasks event]) (c.change tasks event).after
        (event.given tasks)

/-- Let one event happen after another: the changes, what they leave, and how many tickets were given. -/
def replay (c : Client) (tasks : Nat) : List Event → List Change × Client × Nat
  | [] => ([], c, tasks)
  | event :: rest =>
    let (changes, last) := (c.change tasks event).after.replay (event.given tasks) rest
    (c.change tasks event :: changes, last)

/-- Every event can happen when its turn comes. -/
def Allows (c : Client) (tasks : Nat) : List Event → Prop
  | [] => True
  | event :: rest => event.Fits c ∧ (c.change tasks event).after.Allows (event.given tasks) rest

instance decidableAllows (c : Client) (tasks : Nat) : (events : List Event) → Decidable (c.Allows tasks events)
  | [] => inferInstanceAs (Decidable True)
  | event :: rest =>
    have := decidableAllows (c.change tasks event).after (event.given tasks) rest
    inferInstanceAs (Decidable (event.Fits c ∧ (c.change tasks event).after.Allows (event.given tasks) rest))

variable {settings : ServerSettings} {registry : Diagnostic.Registry} {tasks n : Nat} {c e : Client}
  {k : Connection} {host : Host} {t : Task} {event : Event} {changes : List Change}

theorem Career.reached (career : Career settings registry changes c tasks) : Reached settings registry c tasks := by
  induction career with
  | fresh => exact .fresh
  | step event _ fits ih =>
    cases event with
    | discover host tree path => exact ih.discover host tree path
    | cleanup => exact ih.cleanup
    | poll host t =>
      rw [change, react]
      cases polled : Client.pollTask _ host t with
      | none => exact ih
      | some e => exact ih.poll host fits polled
    | undergo n incident => exact ih.undergo n incident fits
    | advanceTo time => exact ih.advanceTo time
    | reap => exact ih.reap

theorem Career.replay (career : Career settings registry changes c tasks) {events : List Event}
    (allowed : c.Allows tasks events) :
    Career settings registry (changes ++ (c.replay tasks events).1) (c.replay tasks events).2.1
      (c.replay tasks events).2.2 := by
  induction events generalizing changes c tasks with
  | nil => exact (List.append_nil changes).symm ▸ career
  | cons event rest ih =>
    have later := ih (career.step event allowed.1) allowed.2
    rw [List.append_assoc] at later
    exact later

/-! ## Beginning a task -/

/-- A connection that has not ended is kept, and one that has is replaced. -/
theorem obtain_cases (c : Client) :
    (∃ n k, c.current = some n ∧ c.connections[n]? = some k ∧ k.phase.isTerminal = false ∧ c.obtain = (c, n)) ∨
    (∀ n k, c.current = some n → c.connections[n]? = some k → k.phase.isTerminal = true) ∧
      c.obtain = c.replace := by
  rw [Client.obtain]
  split
  · next n k current connection =>
    have found : c.connections[n]? = some k := by rwa [connection?, current] at connection
    split
    · next ended =>
      refine .inr ⟨fun m other same there => ?_, rfl⟩
      rw [current] at same
      cases same
      rw [found] at there
      cases there
      exact ended
    · next alive => exact .inl ⟨n, k, current, found, by simpa using alive, rfl⟩
  · next none =>
    refine .inr ⟨fun n k current found => absurd ?_ (none n k current), rfl⟩
    rwa [connection?, current]

/-- A discovery that can be begun asks for the current connection, if it has not ended, and otherwise for a
new one. -/
theorem discover_cases (c : Client) (tasks : Nat) (host : Host) (tree : FileTree) (path : Uri.Path) :
    (∃ result, c.discover host tree tasks path = c.finish tasks result) ∨
    (∃ n k stage, c.current = some n ∧ c.connections[n]? = some k ∧ k.phase.isTerminal = false ∧
      stage.isShown = false ∧
      c.discover host tree tasks path =
        { c.setConnection n (k.ensureReady tasks) with tasks := c.tasks ++ [⟨tasks, n, stage⟩] }) ∨
    (∀ n k, c.current = some n → c.connections[n]? = some k → k.phase.isTerminal = true) ∧
      ∃ stage, stage.isShown = false ∧
        c.discover host tree tasks path =
          { c with
            connections := c.connections ++ [(Connection.fresh c.settings c.clock).ensureReady tasks]
            current := some c.connections.length
            tasks := c.tasks ++ [⟨tasks, c.connections.length, stage⟩] } := by
  rw [Client.discover]
  cases tree.readText host.directory path with
  | error => exact .inl ⟨_, rfl⟩
  | ok text =>
    cases address : (host.directory.under path).uri? with
    | none =>
      simp only [address]
      exact .inl ⟨_, rfl⟩
    | some uri =>
      right
      obtain ⟨n, k, current, found, alive, obtained⟩ | ⟨ended, obtained⟩ := c.obtain_cases
      · simp only [address, obtained, found]
        exact .inl ⟨n, k, _, current, found, alive, rfl, rfl⟩
      · have last : c.replace.1.connections[c.replace.2]? = some (.fresh c.settings c.clock) :=
          List.getElem?_concat_length
        have put (k : Connection) : (c.replace.1.setConnection c.replace.2 k).connections = c.connections ++ [k] := by
          simp [replace, setConnection]
        simp only [address, obtained, last]
        refine .inr ⟨ended, .ensuring (String.ofList uri) text, rfl, ?_⟩
        rw [← put]
        rfl

theorem cleanup_cases (c : Client) (tasks : Nat) :
    (∃ n k, c.current = some n ∧ c.connections[n]? = some k ∧
      c.cleanup tasks = { c.setConnection n (k.shutdown tasks) with tasks := c.tasks ++ [⟨tasks, n, .stopping⟩] }) ∨
    c.cleanup tasks = c.finish tasks .stopped := by
  rw [Client.cleanup]
  split
  · next n k current connection =>
    rw [connection?, current] at connection
    exact .inl ⟨n, k, current, connection, rfl⟩
  · exact .inr rfl

/-! ## Steps of tasks -/

/-- A connection was shown the text of a discovery that goes on. -/
def Shows (c : Client) (n : Nat) : Prop := ∃ t ∈ c.tasks, t.connection = n ∧ t.stage.isShown = true

/-- A step of a task takes its connection through incidents. -/
structure Walks (c : Client) (t : Task) (k : Connection) (e : Client) (incidents : List Incident) : Prop where
  settings : e.settings = c.settings
  current : e.current = c.current
  connections : e.connections = c.connections.set t.connection (k.course incidents).2
  parts : ∀ u, .shutdown u ∉ incidents
  brings : ∀ u uri text, .syncDocument u uri text ∈ incidents → ⟨u, t.connection, .syncing uri⟩ ∈ e.tasks
  shows : ∀ n, e.Shows n → c.Shows n ∨ n = t.connection ∧ (k.course incidents).2.phase = .ready
  tickets : (e.tasks.map Task.ticket).Sublist (c.tasks.map Task.ticket)

section Walks

variable {incidents : List Incident} (own : ∀ other ∈ c.tasks, other.ticket = t.ticket → other = t)

/-- The task waits on, or it ends. -/
theorem walks_of_fewer (connections : e.connections = c.connections.set t.connection (k.course incidents).2)
    (settings : e.settings = c.settings) (current : e.current = c.current) (fewer : e.tasks.Sublist c.tasks)
    (parts : ∀ u, .shutdown u ∉ incidents) (brings : ∀ u uri text, .syncDocument u uri text ∉ incidents) :
    Walks c t k e incidents where
  settings := settings
  current := current
  connections := connections
  parts := parts
  brings u uri text member := absurd member (brings u uri text)
  shows := fun _ ⟨other, member, shown⟩ => .inl ⟨other, fewer.subset member, shown⟩
  tickets := fewer.map Task.ticket

theorem walks_out {last : Connection} (arrives : (k.course incidents).2 = last) (parts : ∀ u, .shutdown u ∉ incidents)
    (brings : ∀ u uri text, .syncDocument u uri text ∉ incidents) (result : TaskResult) :
    Walks c t k ((c.setConnection t.connection last).finish t.ticket result) incidents := by
  subst arrives
  exact walks_of_fewer rfl rfl rfl List.filter_sublist parts brings

include own in
/-- The task goes on to another stage. -/
theorem walks_stage {last : Connection} {stage : TaskStage} (arrives : (k.course incidents).2 = last)
    (parts : ∀ u, .shutdown u ∉ incidents)
    (brings : ∀ u uri text, .syncDocument u uri text ∈ incidents → u = t.ticket ∧ stage = .syncing uri)
    (member : t ∈ c.tasks) (shown : t.stage.isShown = true ∨ last.phase = .ready) :
    Walks c t k ((c.setConnection t.connection last).setStage t.ticket stage) incidents where
  settings := rfl
  current := rfl
  connections := by rw [arrives]; rfl
  parts := parts
  brings u uri text brought := by
    obtain ⟨rfl, rfl⟩ := brings u uri text brought
    exact List.mem_map.mpr ⟨t, member, if_pos rfl⟩
  shows := by
    rintro _ ⟨other, inside, rfl, shows⟩
    obtain ⟨old, there, rfl⟩ := List.mem_map.mp inside
    split at shows
    · next same =>
      obtain rfl := own old there same
      rw [if_pos rfl]
      exact shown.imp (fun shown => ⟨old, there, rfl, shown⟩) fun ready => ⟨rfl, arrives ▸ ready⟩
    · next differs =>
      rw [if_neg differs]
      exact .inl ⟨old, there, rfl, shows⟩
  tickets := by
    have same : ((c.setConnection t.connection last).setStage t.ticket stage).tasks.map Task.ticket =
        c.tasks.map Task.ticket := by
      rw [Client.setStage, List.map_map]
      refine List.map_congr_left fun old _ => ?_
      rw [Function.comp_apply]
      split <;> rfl
    rw [same]

include own

theorem afterReady_walks {before : Connection} (arrives : (before.course [.poll host t.ticket]).2 = k)
    (member : t ∈ c.tasks) (uri text : String) (outcome : Except Failure Unit) :
    ∃ incidents, Walks c t before (c.afterReady t.connection k t.ticket uri text outcome) incidents := by
  cases outcome with
  | error failure => exact ⟨_, walks_out arrives (by simp) (by simp) _⟩
  | ok =>
    have watches : (before.course [.poll host t.ticket, .watch t.ticket uri]).2 = k.watch t.ticket uri := by
      rw [← arrives]
      rfl
    rw [afterReady]
    by_cases ready : (k.watch t.ticket uri).phase = .ready
    · have shows : (before.course [.poll host t.ticket, .watch t.ticket uri, .syncDocument t.ticket uri text]).2 =
          ((k.watch t.ticket uri).syncDocument t.ticket uri text).1 := by
        rw [← watches]
        rfl
      rw [syncDocument_of_ready ready] at shows ⊢
      refine ⟨_, walks_stage own shows (by simp) (fun u other shown brought => ?_) member (.inr ready)⟩
      obtain ⟨rfl, rfl, rfl⟩ : u = t.ticket ∧ other = uri ∧ shown = text := by simpa using brought
      exact ⟨rfl, rfl⟩
    · obtain ⟨failure, refused⟩ := checkReady_of_unready ready
      have gives : (before.course [.poll host t.ticket, .watch t.ticket uri, .unwatch t.ticket]).2 =
          (k.watch t.ticket uri).unwatch t.ticket := by
        rw [← watches]
        rfl
      simp only [Connection.syncDocument, refused]
      exact ⟨_, walks_out gives (by simp) (by simp) _⟩

theorem afterCall_walks {before : Connection} (arrives : (before.course [.poll host t.ticket]).2 = k)
    (member : t ∈ c.tasks) (result : CallResult) :
    ∃ incidents, Walks c t before (c.afterCall t.connection k t.ticket t.stage result) incidents := by
  have stops : ∃ incidents, Walks c t before ((c.setConnection t.connection k).finish t.ticket .stopped) incidents :=
    ⟨_, walks_out arrives (by simp) (by simp) _⟩
  cases stage : t.stage with
  | ensuring uri text =>
    cases result with
    | ready outcome => exact afterReady_walks own arrives member uri text outcome
    | _ => exact stops
  | syncing uri =>
    cases result with
    | synced outcome =>
      cases outcome with
      | error failure =>
        have gives : (before.course [.poll host t.ticket, .unwatch t.ticket]).2 = k.unwatch t.ticket := by
          rw [← arrives]
          rfl
        exact ⟨_, walks_out gives (by simp) (by simp) _⟩
      | ok kind =>
        have collects : (before.course [.poll host t.ticket, .collect t.ticket]).2 = k.collect t.ticket := by
          rw [← arrives]
          rfl
        exact ⟨_, walks_stage own collects (by simp) (by simp) member (.inl (by rw [stage]; rfl))⟩
    | _ => exact stops
  | collecting | stopping => exact stops

/-- A task takes nothing but its own connection on. -/
theorem pollTask_walks (member : t ∈ c.tasks) (polled : c.pollTask host t = some e) :
    ∃ k incidents, c.connections[t.connection]? = some k ∧ Walks c t k e incidents := by
  obtain ⟨k, found, goes⟩ := Option.bind_eq_some_iff.mp polled
  have calls {last : Connection} {result : Option CallResult} (called : k.poll host t.ticket = some (last, result)) :
      (k.course [.poll host t.ticket]).2 = last := by
    change ((k.poll host t.ticket).getD (k, none)).1 = last
    rw [called]
    rfl
  cases stage : t.stage with
  | collecting uri =>
    rw [stage] at goes
    obtain ⟨⟨diagnostics, last⟩, taken, rfl⟩ := Option.map_eq_some_iff.mp goes
    have takes : (k.course [.takeCollected t.ticket, .unwatch t.ticket]).2 = last.unwatch t.ticket := by
      change (((k.takeCollected t.ticket).map Prod.snd).getD k).unwatch t.ticket = _
      rw [taken]
      rfl
    refine ⟨k, [.takeCollected t.ticket, .unwatch t.ticket], found, ?_⟩
    dsimp only
    rw [conclude]
    split <;> exact walks_out takes (by simp) (by simp) _
  | ensuring | syncing | stopping =>
    rw [stage] at goes
    obtain ⟨⟨last, result⟩, called, rfl⟩ := Option.map_eq_some_iff.mp goes
    cases result with
    | none =>
      refine ⟨k, [.poll host t.ticket], found, ?_⟩
      rw [← calls called]
      exact walks_of_fewer rfl rfl rfl (.refl _) (by simp) (by simp)
    | some result =>
      obtain ⟨incidents, walks⟩ := afterCall_walks own (calls called) member result
      rw [stage] at walks
      exact ⟨k, incidents, found, walks⟩

end Walks

/-! ## Tickets -/

/-- Every ticket of a task was given, and only once. -/
structure Ticketed (tasks : Nat) (c : Client) : Prop where
  distinct : (c.tasks.map Task.ticket).Nodup
  given : ∀ t ∈ c.tasks, t.ticket < tasks

theorem Ticketed.own (h : Ticketed tasks c) (member : t ∈ c.tasks) :
    ∀ other ∈ c.tasks, other.ticket = t.ticket → other = t :=
  fun _ inside same => List.inj_on_of_nodup_map h.distinct inside member same

theorem Ticketed.fewer (h : Ticketed tasks c) (fewer : (e.tasks.map Task.ticket).Sublist (c.tasks.map Task.ticket)) :
    Ticketed tasks e where
  distinct := fewer.nodup h.distinct
  given t member := by
    obtain ⟨old, inside, same⟩ := List.mem_map.mp (fewer.subset (List.mem_map_of_mem member))
    exact same ▸ h.given old inside

/-- A new task has a new ticket. -/
theorem Ticketed.joins (h : Ticketed tasks c) {stage : TaskStage} (joined : e.tasks = c.tasks ++ [⟨tasks, n, stage⟩]) :
    Ticketed (tasks + 1) e where
  distinct := by
    rw [joined, List.map_append, List.nodup_append]
    refine ⟨h.distinct, List.nodup_singleton _, fun u old v new => ?_⟩
    obtain ⟨t, member, rfl⟩ := List.mem_map.mp old
    obtain rfl : v = tasks := List.mem_singleton.mp new
    exact Nat.ne_of_lt (h.given t member)
  given t member := by
    rw [joined] at member
    obtain old | new := List.mem_append.mp member
    · exact Nat.lt_succ_of_lt (h.given t old)
    · rw [List.mem_singleton.mp new]
      exact Nat.lt_succ_self tasks

theorem Ticketed.later (h : Ticketed tasks c) : Ticketed (tasks + 1) c :=
  ⟨h.distinct, fun t member => Nat.lt_succ_of_lt (h.given t member)⟩

/-! ## What happens to connections -/

/-- What a change must be that brings an incident to a connection: only a clean-up shuts the current
connection down, and only a discovery that goes on to wait for its text brings one. -/
def Change.Explains (s : Change) (n : Nat) : Incident → Prop
  | .shutdown _ => s.event = .cleanup ∧ s.before.current = some n
  | .syncDocument u uri _ => ⟨u, n, .syncing uri⟩ ∈ s.after.tasks
  | _ => True

/-- What a change does to a client that has given so many tickets.  Its connections go through
incidents, and one that has ended may be replaced. -/
structure Reacts (tasks : Nat) (s : Change) : Prop where
  settings : s.after.settings = s.before.settings
  current : s.after.current = s.before.current ∨
    ∀ n k, s.before.current = some n → s.before.connections[n]? = some k → k.phase.isTerminal = true
  old : ∀ n k, s.before.connections[n]? = some k →
    ∃ incidents, s.after.connections[n]? = some (k.course incidents).2 ∧ ∀ i ∈ incidents, s.Explains n i
  new : ∀ n k, s.before.connections[n]? = none → s.after.connections[n]? = some k →
    k = (Connection.fresh s.before.settings s.before.clock).ensureReady tasks ∧ s.after.current = some n
  shows : ∀ n, s.after.Shows n →
    s.before.Shows n ∨ ∃ k, s.after.connections[n]? = some k ∧ k.phase = .ready
  ticketed : Ticketed tasks s.before → Ticketed (s.event.given tasks) s.after

section Reacts

variable {s : Change}

theorem reacts_of_same (connections : s.after.connections = s.before.connections)
    (settings : s.after.settings = s.before.settings) (current : s.after.current = s.before.current)
    (shows : ∀ n, s.after.Shows n → s.before.Shows n)
    (ticketed : Ticketed tasks s.before → Ticketed (s.event.given tasks) s.after) :
    Reacts tasks s where
  settings := settings
  current := .inl current
  old n k found := ⟨[], by rw [connections, found]; rfl, by simp⟩
  new n k missing found := by
    rw [connections, missing] at found
    cases found
  shows n shows' := .inl (shows n shows')
  ticketed := ticketed

/-- One connection goes through incidents. -/
theorem reacts_of_set (m : Nat) (incidents : List Incident) (found : s.before.connections[m]? = some k)
    (connections : s.after.connections = s.before.connections.set m (k.course incidents).2)
    (settings : s.after.settings = s.before.settings) (current : s.after.current = s.before.current)
    (explains : ∀ i ∈ incidents, s.Explains m i)
    (shows : ∀ n, s.after.Shows n → s.before.Shows n ∨ n = m ∧ (k.course incidents).2.phase = .ready)
    (ticketed : Ticketed tasks s.before → Ticketed (s.event.given tasks) s.after) :
    Reacts tasks s where
  settings := settings
  current := .inl current
  old n other there := by
    rw [connections]
    by_cases own : m = n
    · subst own
      rw [found] at there
      cases there
      refine ⟨incidents, ?_, explains⟩
      rw [List.getElem?_set_self (List.getElem?_eq_some_iff.mp found).1]
    · refine ⟨[], ?_, by simp⟩
      rw [List.getElem?_set_ne own]
      exact there
  new n other missing there := by
    rw [connections, List.getElem?_eq_none_iff.mpr] at there
    · cases there
    · rw [List.length_set]
      exact List.getElem?_eq_none_iff.mp missing
  shows n shows' := by
    obtain old | ⟨rfl, ready⟩ := shows n shows'
    · exact .inl old
    · refine .inr ⟨_, ?_, ready⟩
      rw [connections, List.getElem?_set_self (List.getElem?_eq_some_iff.mp found).1]
  ticketed := ticketed

/-- A new task has shown no text yet. -/
theorem shows_of_joined {stage : TaskStage} (hidden : stage.isShown = false)
    (joined : e.tasks = c.tasks ++ [⟨tasks, n, stage⟩]) (m : Nat) (shows : e.Shows m) : c.Shows m := by
  obtain ⟨t, member, connection, shown⟩ := shows
  rw [joined] at member
  obtain old | new := List.mem_append.mp member
  · exact ⟨t, old, connection, shown⟩
  · rw [List.mem_singleton.mp new] at shown
    cases hidden.symm.trans shown

theorem finish_reacts (result : TaskResult) (begins : event.begins = true) :
    Reacts tasks ⟨c, event, c.finish tasks result⟩ := by
  apply reacts_of_same rfl rfl rfl
  · rintro n ⟨t, member, shown⟩
    exact ⟨t, (List.mem_filter.mp member).1, shown⟩
  · intro ticketed
    rw [Event.given, if_pos begins]
    exact (ticketed.fewer (List.filter_sublist.map Task.ticket)).later

theorem discover_reacts (c : Client) (host : Host) (tree : FileTree) (path : Uri.Path) :
    Reacts tasks (c.change tasks (.discover host tree path)) := by
  rw [change, react]
  obtain ⟨result, same⟩ | ⟨n, k, stage, _, found, _, hidden, same⟩ | ⟨ended, stage, hidden, same⟩ :=
    c.discover_cases tasks host tree path
  · rw [same]
    exact finish_reacts result rfl
  · rw [same]
    apply reacts_of_set n [.ensureReady tasks] found rfl rfl rfl
    · simp [Change.Explains]
    · exact fun m shows => .inl (shows_of_joined hidden rfl m shows)
    · exact fun ticketed => ticketed.joins rfl
  · rw [same]
    exact {
      settings := rfl
      current := .inr ended
      old := fun n k found => by
        refine ⟨[], ?_, by simp⟩
        exact (List.getElem?_append_left (List.getElem?_eq_some_iff.mp found).1).trans found
      new := fun n k missing found => by
        have beyond := List.getElem?_eq_none_iff.mp missing
        have inside := (List.getElem?_eq_some_iff.mp found).1
        obtain rfl : n = c.connections.length := by
          simp at beyond inside
          omega
        simpa [eq_comm] using found
      shows := fun m shows => .inl (shows_of_joined hidden rfl m shows)
      ticketed := fun ticketed => ticketed.joins rfl }

theorem cleanup_reacts (c : Client) : Reacts tasks (c.change tasks .cleanup) := by
  rw [change, react]
  obtain ⟨n, k, current, found, same⟩ | same := c.cleanup_cases tasks
  · rw [same]
    apply reacts_of_set n [.shutdown tasks] found rfl rfl rfl
    · intro i member
      rw [List.mem_singleton.mp member]
      exact ⟨rfl, current⟩
    · exact fun m shows => .inl (shows_of_joined rfl rfl m shows)
    · exact fun ticketed => ticketed.joins rfl
  · rw [same]
    exact finish_reacts .stopped rfl

theorem poll_reacts (ticketed : Ticketed tasks c) (host : Host) (member : t ∈ c.tasks) :
    Reacts tasks (c.change tasks (.poll host t)) := by
  rw [change, react]
  cases polled : c.pollTask host t with
  | none => exact reacts_of_same rfl rfl rfl (fun _ => id) id
  | some e =>
    obtain ⟨k, incidents, found, walks⟩ := pollTask_walks (ticketed.own member) member polled
    apply reacts_of_set t.connection incidents found walks.connections walks.settings walks.current ?_ walks.shows
    · exact fun ticketed => ticketed.fewer walks.tickets
    · intro i inside
      cases i with
      | shutdown u => exact absurd inside (walks.parts u)
      | syncDocument u uri text => exact walks.brings u uri text inside
      | _ => trivial

theorem undergo_reacts (c : Client) (n : Nat) {incident : Incident} (foreign : incident.isForeign = true) :
    Reacts tasks (c.change tasks (.undergo n incident)) := by
  rw [change, react, Client.undergo]
  cases found : c.connections[n]? with
  | none => exact reacts_of_same rfl rfl rfl (fun _ => id) id
  | some k =>
    apply reacts_of_set n [incident] found rfl rfl rfl
    · intro i member
      rw [List.mem_singleton.mp member]
      cases incident with
      | shutdown | syncDocument => cases foreign
      | _ => trivial
    · exact fun _ => .inl
    · exact fun ticketed => ⟨ticketed.distinct, ticketed.given⟩

theorem advanceTo_reacts (c : Client) {time : Nat} (forward : ∀ k ∈ c.connections, k.clock ≤ time) :
    Reacts tasks (c.change tasks (.advanceTo time)) where
  settings := rfl
  current := .inl rfl
  old n k found := by
    have found : c.connections[n]? = some k := found
    have later : k.clock + (time - k.clock) = time := Nat.add_sub_of_le (forward k (List.mem_of_getElem? found))
    refine ⟨[.advance (time - k.clock)], ?_, by simp [Change.Explains]⟩
    change (c.connections.map fun k => k.advanceTo time)[n]? = some (k.advanceTo (k.clock + (time - k.clock)))
    rw [later, List.getElem?_map, found]
    rfl
  new n k missing found := by
    change (c.connections.map fun k => k.advanceTo time)[n]? = some k at found
    rw [List.getElem?_map, show c.connections[n]? = none from missing] at found
    cases found
  shows _ := .inl
  ticketed := fun ticketed => ⟨ticketed.distinct, ticketed.given⟩

theorem reap_reacts (c : Client) : Reacts tasks (c.change tasks .reap) where
  settings := rfl
  current := .inl rfl
  old n k found := by
    have found : c.connections[n]? = some k := found
    have whole : c.connections.zipIdx[n]? = some (k, n) := by simp [List.getElem?_zipIdx, found]
    change ∃ incidents, c.reap.connections[n]? = _ ∧ _
    rw [reap, List.getElem?_map, whole, Option.map_some]
    dsimp only
    split
    · exact ⟨[], rfl, by simp⟩
    · exact ⟨[.releaseServer], rfl, by simp [Change.Explains]⟩
  new n k missing found := by
    change c.reap.connections[n]? = some k at found
    rw [reap, List.getElem?_map, List.getElem?_zipIdx, show c.connections[n]? = none from missing] at found
    cases found
  shows _ := .inl
  ticketed := fun ticketed => ⟨ticketed.distinct, ticketed.given⟩

end Reacts

theorem change_reacts (ticketed : Ticketed tasks c) (fits : event.Fits c) : Reacts tasks (c.change tasks event) := by
  cases event with
  | discover host tree path => exact c.discover_reacts host tree path
  | cleanup => exact c.cleanup_reacts
  | poll host t => exact poll_reacts ticketed host fits
  | undergo n incident => exact c.undergo_reacts n fits
  | advanceTo time => exact c.advanceTo_reacts fits
  | reap => exact c.reap_reacts

/-! ## Courses -/

namespace Career

theorem ticketed (career : Career settings registry changes c tasks) : Ticketed tasks c := by
  induction career with
  | fresh => exact ⟨.nil, List.forall_mem_nil _⟩
  | step event _ fits ih => exact (change_reacts ih fits).ticketed ih

theorem reacts (career : Career settings registry changes c tasks) (fits : event.Fits c) :
    Reacts tasks (c.change tasks event) :=
  change_reacts career.ticketed fits

theorem changeAt (career : Career settings registry changes c tasks) {s : Change} (member : s ∈ changes) :
    ∃ front given, Career settings registry front s.before given ∧ s.event.Fits s.before ∧
      s = s.before.change given s.event := by
  induction career with
  | fresh => cases member
  | step event career fits ih =>
    obtain old | new := List.mem_append.mp member
    · exact ih old
    · rw [List.mem_singleton.mp new]
      exact ⟨_, _, career, fits, rfl⟩

theorem settings_eq (career : Career settings registry changes c tasks) : c.settings = settings := by
  induction career with
  | fresh => rfl
  | step event career fits ih => exact (career.reacts fits).settings.trans ih

/-- Every connection of a client has a course, and the changes of the client explain its steps. -/
theorem course (career : Career settings registry changes c tasks) (found : c.connections[n]? = some k) :
    ∃ clock steps, Course settings clock steps k ∧
      ∀ s ∈ steps, ∃ change ∈ changes, change.Explains n s.incident := by
  induction career generalizing k with
  | fresh => cases found
  | @step changes c tasks event career fits ih =>
    have reacts := career.reacts fits
    cases before : c.connections[n]? with
    | none =>
      obtain ⟨rfl, _⟩ := reacts.new n k before found
      rw [change, career.settings_eq]
      refine ⟨c.clock, _, Course.start.step (.ensureReady tasks), fun s member => ?_⟩
      rw [List.nil_append, List.mem_singleton] at member
      exact ⟨_, List.mem_append_right _ (List.mem_singleton_self _), member ▸ trivial⟩
    | some first =>
      obtain ⟨incidents, goes, explained⟩ := reacts.old n first before
      obtain rfl : k = _ := Option.some.inj (found.symm.trans goes)
      obtain ⟨clock, steps, course, earlier⟩ := ih before
      refine ⟨clock, _, course.append incidents, fun s member => ?_⟩
      obtain old | new := List.mem_append.mp member
      · obtain ⟨change, inside, explains⟩ := earlier s old
        exact ⟨change, List.mem_append_left _ inside, explains⟩
      · refine ⟨_, List.mem_append_right _ (List.mem_singleton_self _), explained _ ?_⟩
        exact first.incident_of_mem_course incidents new

/-- What a connection was at any time takes its course from then on. -/
theorem carries (career : Career settings registry changes c tasks) {s : Change} (member : s ∈ changes)
    (found : s.after.connections[n]? = some k) : ∃ incidents, c.connections[n]? = some (k.course incidents).2 := by
  induction career with
  | fresh => cases member
  | step event career fits ih =>
    obtain old | new := List.mem_append.mp member
    · obtain ⟨incidents, there⟩ := ih old
      obtain ⟨more, goes, _⟩ := (career.reacts fits).old n _ there
      refine ⟨incidents ++ more, ?_⟩
      rw [course_append]
      exact goes
    · rw [List.mem_singleton.mp new] at found
      exact ⟨[], found⟩

end Career

end Client

end BlockDiscovery.Session
