import BlockDiscovery.Proofs.Session.Outcome
import BlockDiscovery.Session.Client

/-! # What a failure says of the connection

A discovery that fails is told why, and the connection it used has ended or lives on.
`Client.Reached` says what can happen to a client, whose connections stay sound meanwhile, and `Tells`
what a failure says of a connection.
-/

namespace BlockDiscovery.Session

open BlockDiscovery.Json BlockDiscovery.Protocol BlockDiscovery.Config
open BlockDiscovery.Files (FileTree)

/-! ## Clients -/

/-- The failure that a task has come to. -/
def TaskResult.failure? : TaskResult → Option Failure
  | .failed failure => some failure
  | _ => none

namespace Client

open Connection

/-- A connection undergoes an incident. -/
def undergo (c : Client) (n : Nat) (incident : Incident) : Client :=
  match c.connections[n]? with
  | some k => c.setConnection n (k.undergo incident).1
  | none => c

/-- What a new client can come to, whatever happens to its connections, and how many tickets it has given. -/
inductive Reached (settings : ServerSettings) (registry : Diagnostic.Registry) : Client → Nat → Prop
  | fresh : Reached settings registry (.fresh settings registry) 0
  | discover {c : Client} {tasks : Nat} (host : Host) (tree : FileTree) (path : Uri.Path)
      (reached : Reached settings registry c tasks) :
      Reached settings registry (c.discover host tree tasks path) (tasks + 1)
  | cleanup {c : Client} {tasks : Nat} (reached : Reached settings registry c tasks) :
      Reached settings registry (c.cleanup tasks) (tasks + 1)
  | poll {c e : Client} {tasks : Nat} {t : Task} (host : Host) (reached : Reached settings registry c tasks)
      (member : t ∈ c.tasks) (polled : c.pollTask host t = some e) : Reached settings registry e tasks
  | undergo {c : Client} {tasks : Nat} (reached : Reached settings registry c tasks) (n : Nat) (incident : Incident)
      (foreign : incident.isForeign = true) : Reached settings registry (c.undergo n incident) tasks
  | advanceTo {c : Client} {tasks : Nat} (reached : Reached settings registry c tasks) (time : Nat) :
      Reached settings registry (c.advanceTo time) tasks
  | reap {c : Client} {tasks : Nat} (reached : Reached settings registry c tasks) :
      Reached settings registry c.reap tasks

variable {settings : ServerSettings} {registry : Diagnostic.Registry} {tasks : Nat} {c e : Client} {n : Nat}
  {k : Connection} {host : Host} {t : Task} {failure : Failure}

theorem Reached.advances (reached : Reached settings registry c tasks) (host : Host) (list : List Task)
    (within : list ⊆ c.tasks) (polled : c.pollFirst host list = some e) : Reached settings registry e tasks := by
  induction list with
  | nil => cases polled
  | cons t rest ih =>
    obtain first | ⟨_, later⟩ := Option.or_eq_some_iff.mp polled
    · exact reached.poll host (within List.mem_cons_self) first
    · exact ih (List.subset_of_cons_subset within) later

/-- Letting tasks take their turns leads nowhere else. -/
theorem Reached.run (reached : Reached settings registry c tasks) (host : Host) (fuel : Nat) :
    Reached settings registry (c.run host fuel) tasks := by
  induction fuel generalizing c with
  | zero => exact reached
  | succ fuel ih =>
    rw [Client.run]
    split
    · exact reached
    · next first => exact ih (reached.advances host _ (List.Subset.refl _) first)

/-- All connections of a client are sound. -/
def Sound (tasks : Nat) (c : Client) : Prop := ∀ k ∈ c.connections, k.Sound tasks

namespace Sound

theorem later (h : c.Sound tasks) : c.Sound (tasks + 1) := fun k member => (h k member).mono (Nat.le_succ tasks)

theorem connection (h : c.Sound tasks) (found : c.connections[n]? = some k) : k.Sound tasks :=
  h k (List.mem_of_getElem? found)

theorem setConnection (h : c.Sound tasks) (sound : k.Sound tasks) : (c.setConnection n k).Sound tasks := by
  intro other member
  obtain old | rfl := List.mem_or_eq_of_mem_set member
  · exact h other old
  · exact sound

theorem replace (h : c.Sound tasks) : c.replace.1.Sound tasks :=
  List.forall_mem_append.mpr ⟨h, List.forall_mem_singleton.mpr ⟨coherent_fresh _ _, regular_fresh tasks _ _⟩⟩

theorem obtain (h : c.Sound tasks) : c.obtain.1.Sound tasks := by
  rw [Client.obtain]
  split
  · split
    · exact h.replace
    · exact h
  · exact h.replace

theorem discover (h : c.Sound tasks) (host : Host) (tree : FileTree) (path : Uri.Path) :
    (c.discover host tree tasks path).Sound (tasks + 1) := by
  have obtained := h.obtain
  rw [Client.discover]
  cases tree.readText host.directory path with
  | error => exact h.later
  | ok text =>
    cases address : (host.directory.under path).uri? with
    | none =>
      simp only [address]
      exact h.later
    | some uri =>
      simp only [address]
      split
      · exact obtained.later
      · next found =>
        exact obtained.later.setConnection ((obtained.connection found).joins (.ensureReady tasks) (.inl rfl))

theorem cleanup (h : c.Sound tasks) : (c.cleanup tasks).Sound (tasks + 1) := by
  rw [Client.cleanup]
  split
  · next n k current found =>
    rw [connection?, current] at found
    exact h.later.setConnection ((h.connection found).joins (.shutdown tasks) (.inr rfl))
  · exact h.later

end Sound

/-! ## Steps of tasks -/

/-- What a failure that ends a discovery says of the connection it used, as it was before the last
step and as it is now. -/
structure Tells (before : Connection) (failure : Failure) (k : Connection) : Prop where
  /-- The connection has ended, or nobody takes items for its server. -/
  ended : k.phase.isTerminal = true ∨
    failure = .writerClosed ∧ k.phase = before.phase ∧ k.dispatcher.channel.isOpen = false
  /-- Only the failure of a handshake is not fatal. -/
  fatal : failure.isFatal = true ∨ k.phase.isTerminal = true ∧
    (before.phase.isTerminal = true ∨ k.phase = .failed ("initialize failed: " ++ failure.message))

/-- One step of a task: it puts back a connection, and ends at most itself. -/
structure Steps (tasks : Nat) (before : Connection) (t : Task) (c e : Client) (k : Connection) : Prop where
  sound : k.Sound tasks
  connections : e.connections = c.connections.set t.connection k
  tells : ∀ failure, e.finished = c.finished ++ [(t.ticket, .failed failure)] → Tells before failure k

section Steps

variable {before : Connection}

theorem steps_on (sound : k.Sound tasks) (connections : e.connections = c.connections.set t.connection k)
    (finished : e.finished = c.finished) : Steps tasks before t c e k where
  sound := sound
  connections := connections
  tells failure fails := by simp [finished] at fails

theorem steps_out {result : TaskResult} (sound : k.Sound tasks)
    (connections : e.connections = c.connections.set t.connection k)
    (finished : e.finished = c.finished ++ [(t.ticket, result)])
    (tells : ∀ failure, result = .failed failure → Tells before failure k) : Steps tasks before t c e k where
  sound := sound
  connections := connections
  tells failure fails := by
    rw [finished] at fails
    exact tells failure (Prod.mk.inj (List.singleton_inj.mp (List.append_cancel_left fails))).2

theorem conclude_steps (sound : k.Sound tasks) (uri : String) (diagnostics : List Protocol.Diagnostic) :
    Steps tasks before t c ((c.setConnection t.connection k).conclude k t.ticket uri diagnostics) k := by
  rw [conclude]
  split
  · next reason failed =>
    refine steps_out sound rfl rfl fun failure same => ?_
    cases same
    have ended : k.phase.isTerminal = true := by rw [failed]; rfl
    exact ⟨.inl ended, .inl rfl⟩
  · exact steps_out sound rfl rfl fun _ same => by cases same

theorem afterSync_steps (sound : k.Sound tasks) (uri : String) (outcome : Except Failure DocumentSync)
    (tells : ∀ failure, outcome = .error failure → Tells before failure k) :
    ∃ k', Steps tasks before t c (c.afterSync t.connection k t.ticket uri outcome) k' := by
  cases outcome with
  | ok => exact ⟨k.collect t.ticket, steps_on (sound.collect t.ticket) rfl rfl⟩
  | error failure =>
    refine ⟨_, steps_out (sound.unwatch t.ticket) rfl rfl fun other same => ?_⟩
    cases same
    exact ⟨(tells failure rfl).ended, (tells failure rfl).fatal⟩

theorem afterReady_steps (sound : k.Sound tasks) (given : t.ticket < tasks) (uri text : String)
    (outcome : Except Failure Unit) (tells : ∀ failure, outcome = .error failure → Tells before failure k)
    (lets : outcome = .ok () → k.phase = .ready ∧ t.ticket ∉ k.calls.map Prod.fst) :
    ∃ k', Steps tasks before t c (c.afterReady t.connection k t.ticket uri text outcome) k' := by
  cases outcome with
  | error failure =>
    refine ⟨k, steps_out sound rfl rfl fun other same => ?_⟩
    cases same
    exact tells failure rfl
  | ok =>
    obtain ⟨ready, idle⟩ := lets rfl
    have silent : ((k.watch t.ticket uri).syncDocument t.ticket uri text).2 = none := by
      rw [Connection.syncDocument_of_ready (c := k.watch t.ticket uri) ready]
    have shown := (sound.watch t.ticket uri).syncDocument given idle uri text
    simp only [afterReady]
    cases synced : (k.watch t.ticket uri).syncDocument t.ticket uri text with
    | mk shows result =>
    rw [synced] at silent shown
    obtain rfl : result = none := silent
    exact ⟨shows, steps_on shown rfl rfl⟩

theorem afterCall_steps {host : Host} {result : CallResult} (h : before.Sound tasks)
    (polled : before.poll host t.ticket = some (k, some result)) (stage : TaskStage) :
    ∃ k', Steps tasks before t c (c.afterCall t.connection k t.ticket stage result) k' := by
  obtain ⟨place, stands, goes⟩ := Option.bind_eq_some_iff.mp polled
  have member := Regular.mem_of_stage? stands
  have sound : k.Sound tasks := h.poll polled
  have given := h.regular.given _ member
  have ends := h.regular.ends h.coherent member goes
  have stops : ∃ k', Steps tasks before t c ((c.setConnection t.connection k).finish t.ticket .stopped) k' :=
    ⟨k, steps_out sound rfl rfl fun _ same => by cases same⟩
  cases stage with
  | ensuring uri text =>
    cases ends with
    | ready phase =>
      have idle : t.ticket ∉ (before.endCall t.ticket).calls.map Prod.fst := by simp [endCall]
      exact afterReady_steps sound given uri text (.ok ()) (fun _ same => by cases same) fun _ => ⟨phase, idle⟩
    | unready unready =>
      refine afterReady_steps sound given uri text (.error _) (fun _ same => ?_) fun same => by cases same
      cases same
      exact ⟨.inl unready.ended, unready.cause.imp_right fun cause => ⟨unready.ended, cause⟩⟩
    | _ => exact stops
  | syncing uri =>
    cases ends with
    | synced kind => exact afterSync_steps sound uri (.ok kind) fun _ same => by cases same
    | unsynced phase shut =>
      refine afterSync_steps sound uri (.error _) fun _ same => ?_
      cases same
      exact ⟨.inr ⟨rfl, phase, shut⟩, .inl rfl⟩
    | _ => exact stops
  | collecting | stopping => exact stops

theorem pollTask_steps (h : c.Sound tasks) (polled : c.pollTask host t = some e) :
    ∃ before k, c.connections[t.connection]? = some before ∧ Steps tasks before t c e k := by
  obtain ⟨before, found, goes⟩ := Option.bind_eq_some_iff.mp polled
  have sound := h.connection found
  cases stage : t.stage with
  | collecting uri =>
    rw [stage] at goes
    obtain ⟨⟨diagnostics, k⟩, taken, rfl⟩ := Option.map_eq_some_iff.mp goes
    exact ⟨before, _, found, conclude_steps ((sound.takeCollected taken).unwatch t.ticket) uri diagnostics⟩
  | ensuring | syncing | stopping =>
    rw [stage] at goes
    obtain ⟨⟨k, result⟩, called, rfl⟩ := Option.map_eq_some_iff.mp goes
    cases result with
    | none => exact ⟨before, k, found, steps_on (sound.poll called) rfl rfl⟩
    | some result =>
      obtain ⟨k', steps⟩ := afterCall_steps sound called _
      exact ⟨before, k', found, steps⟩

end Steps

theorem Reached.sound (reached : Reached settings registry c tasks) : c.Sound tasks := by
  induction reached with
  | fresh => exact List.forall_mem_nil _
  | discover host tree path _ ih => exact ih.discover host tree path
  | cleanup _ ih => exact ih.cleanup
  | poll host _ _ polled ih =>
    obtain ⟨_, k, found, steps⟩ := pollTask_steps ih polled
    intro other member
    rw [steps.connections] at member
    obtain old | rfl := List.mem_or_eq_of_mem_set member
    · exact ih other old
    · exact steps.sound
  | undergo _ n incident foreign ih =>
    rw [Client.undergo]
    split
    · next found => exact ih.setConnection ((ih.connection found).undergo foreign)
    · exact ih
  | advanceTo _ time ih =>
    intro k member
    obtain ⟨before, inside, rfl⟩ := List.mem_map.mp member
    exact (ih before inside).advanceTo time
  | reap _ ih =>
    intro k member
    obtain ⟨⟨before, n⟩, inside, rfl⟩ := List.mem_map.mp member
    have sound := ih before (List.mem_of_getElem? (List.mem_zipIdx_iff_getElem?.mp inside))
    dsimp only
    split
    · exact sound
    · exact sound.releaseServer

/-- The next discovery goes on with the current connection unless that has ended. -/
theorem obtain_current (current : c.current = some n) (found : c.connections[n]? = some k) :
    c.obtain.2 = if k.phase.isTerminal then c.connections.length else n := by
  have connection : c.connection? = some k := by
    rw [connection?, current]
    exact found
  rw [Client.obtain, current, connection]
  dsimp only
  split <;> rfl

/-- What has failed, the phase of the first connection and the current one. -/
def outline (c : Client) : List (Ticket × Option Failure) × Option Phase × Option Nat :=
  (c.finished.map fun r => (r.1, r.2.failure?), (c.connections[0]?).map Connection.phase, c.current)

/-- The first task that has failed. -/
theorem fails_of_outline {u : Ticket} {phase : Option Phase} {current : Option Nat} (nothing : c.outline.1 = [])
    (told : e.outline = ([(u, some failure)], phase, current)) :
    e.finished = c.finished ++ [(u, .failed failure)] := by
  obtain ⟨told, _⟩ := Prod.mk.inj told
  obtain ⟨⟨v, result⟩, single, same⟩ := List.map_eq_singleton_iff.mp told
  obtain ⟨rfl, same⟩ := Prod.mk.inj same
  rw [List.map_eq_nil_iff.mp nothing, single]
  cases result with
  | failed => cases same; rfl
  | _ => cases same

/-- The first discovery of a client, with its server started. -/
def discovering : Client :=
  ((fresh (.make "nim" "nim") .empty).discover .obliging (FileTree.empty.add [[97]] (.file "x".toUTF8)) 0
    (.ofString "/a")).run .obliging 1

theorem discovering_reached : Reached (.make "nim" "nim") .empty discovering 1 :=
  (Reached.discover .obliging _ (.ofString "/a") .fresh).run .obliging 1

/-- The server answers the handshake. -/
def answered (answer : String × Value) : Client :=
  discovering.undergo 0 (.read (Framing.encodeFrame (.object [("id", .int 1), answer])))

/-- The server is ready, but its writer has stopped. -/
def stranded : Client :=
  (((answered ("result", .null)).run .obliging 2).undergo 0 .dropWriter).run .obliging 1

/-- Whether a failure is fatal tells whether the connection has ended, but for two cases: a handshake
that fails for a reason that is not fatal ends the connection all the same, and a text that nobody takes
any more does not.  The next discovery makes a new connection just when the last one has ended. -/
theorem failure_tells_of_connection (reached : Reached settings registry c tasks)
    (polled : c.pollTask host t = some e) (fails : e.finished = c.finished ++ [(t.ticket, .failed failure)]) :
    ∃ before k, c.connections[t.connection]? = some before ∧ e.connections[t.connection]? = some k ∧
      ((failure.isFatal = true ↔ k.phase.isTerminal = true) ∨
        failure.isFatal = false ∧ k.phase.isTerminal = true ∧
          (before.phase.isTerminal = true ∨ k.phase = .failed ("initialize failed: " ++ failure.message)) ∨
        failure = .writerClosed ∧ k.phase.isTerminal = false ∧ k.phase = before.phase ∧
          k.dispatcher.channel.isOpen = false) ∧
      (e.current = some t.connection →
        e.obtain.2 = if k.phase.isTerminal then e.connections.length else t.connection) := by
  obtain ⟨before, k, found, steps⟩ := pollTask_steps reached.sound polled
  obtain ⟨ended, fatal⟩ := steps.tells failure fails
  have after : e.connections[t.connection]? = some k := by
    rw [steps.connections, List.getElem?_set_self (List.getElem?_eq_some_iff.mp found).1]
  refine ⟨before, k, found, after, ?_, fun current => obtain_current current after⟩
  cases terminal : k.phase.isTerminal with
  | true =>
    cases frank : failure.isFatal with
    | true => exact .inl ⟨fun _ => rfl, fun _ => rfl⟩
    | false =>
      obtain other | ⟨_, cause⟩ := fatal
      · cases frank.symm.trans other
      · exact .inr (.inl ⟨rfl, rfl, cause⟩)
  | false =>
    obtain other | ⟨closed, phase, shut⟩ := ended
    · cases terminal.symm.trans other
    · exact .inr (.inr ⟨closed, rfl, phase, shut⟩)

/-- The text of a discovery meets a writer that has stopped: the failure is fatal, but the connection
is ready, and the next discovery goes on with it. -/
theorem failure_tells_of_connection_stopped_writer : ∃ e k,
    Reached (.make "nim" "nim") .empty stranded 1 ∧
    stranded.pollTask .obliging ⟨0, 0, .syncing "file:///a"⟩ = some e ∧
    e.finished = stranded.finished ++ [(0, .failed .writerClosed)] ∧ e.connections[0]? = some k ∧
    Failure.writerClosed.isFatal = true ∧ k.phase = .ready ∧ k.dispatcher.channel.isOpen = false ∧
    e.obtain.2 = 0 := by
  have reached : Reached (.make "nim" "nim") .empty stranded 1 :=
    (((discovering_reached.undergo 0 _ rfl).run .obliging 2).undergo 0 .dropWriter rfl).run .obliging 1
  have shown : (stranded.pollTask .obliging ⟨0, 0, .syncing "file:///a"⟩).map outline =
      some ([(0, some .writerClosed)], some .ready, some 0) := by decide +kernel
  obtain ⟨e, polled, shown⟩ := Option.map_eq_some_iff.mp shown
  have fails := fails_of_outline (c := stranded) (by decide +kernel) shown
  obtain ⟨_, k, _, after, cases, next⟩ := failure_tells_of_connection reached polled fails
  have phase : (e.connections[0]?).map Connection.phase = some .ready := congrArg (fun o => o.2.1) shown
  have current : e.current = some 0 := congrArg (fun o => o.2.2) shown
  have ready : k.phase = .ready := by simpa [after] using phase
  have next := next current
  rw [ready] at cases next
  have shut : k.dispatcher.channel.isOpen = false := by
    obtain same | ⟨kind, _⟩ | ⟨_, _, _, shut⟩ := cases
    · cases same.mp rfl
    · cases kind
    · exact shut
  exact ⟨e, k, reached, polled, fails, after, rfl, ready, shut, next⟩

/-- The server rejects the handshake: that is not fatal, but the connection has failed. -/
theorem rejected_handshake_is_not_fatal : ¬ ∀ settings registry c tasks host t e failure k,
    Reached settings registry c tasks → c.pollTask host t = some e →
    e.finished = c.finished ++ [(t.ticket, .failed failure)] → e.connections[t.connection]? = some k →
    (failure.isFatal = true ↔ k.phase.isTerminal = true) := by
  intro claim
  let rejected := answered ("error", .object [("code", .int (-32603)), ("message", .string "no")])
  have reached : Reached (.make "nim" "nim") .empty rejected 1 := discovering_reached.undergo 0 _ rfl
  have shown : (rejected.pollTask .obliging ⟨0, 0, .ensuring "file:///a" "x"⟩).map outline =
      some ([(0, some (.rpc "initialize" (-32603) "no"))],
        some (.failed "initialize failed: request `initialize` failed (-32603): no"), some 0) := by decide +kernel
  obtain ⟨e, polled, shown⟩ := Option.map_eq_some_iff.mp shown
  have fails := fails_of_outline (c := rejected) (by decide +kernel) shown
  obtain ⟨k, after, phase⟩ := Option.map_eq_some_iff.mp (congrArg (fun o => o.2.1) shown)
  have fatal := (claim _ _ _ _ _ _ _ _ k reached polled fails after).mpr (by rw [phase]; rfl)
  cases fatal

end Client

end BlockDiscovery.Session
