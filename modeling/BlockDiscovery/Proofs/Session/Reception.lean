import Mathlib
import BlockDiscovery.Proofs.Session.Correlation
import BlockDiscovery.Proofs.Session.Versions

/-! # What a batch of messages leaves

The messages of one read are acted on one after the other, and acting on one waits for nothing: what
finds no room in the channel is dropped.  So what a batch leaves in the channel and in the table of
pending requests can be read off its messages, and `Leaves` says it for any number of them.
-/

namespace BlockDiscovery.Session

open BlockDiscovery.Json BlockDiscovery.Protocol BlockDiscovery.Config

/-! ## Questions and answers -/

/-- The id and the method of a question: an object with an id, be it what it may, and a method that is
a text. -/
def asked? : Value → Option (Value × String)
  | .object members =>
    match lookup "id" members, lookup "method" members with
    | some id, some (.string method) => some (id, method)
    | _, _ => none
  | _ => none

/-- The number in an answer: an object with a result or an error, whose id is a number and which is no
question. -/
def answered? : Value → Option Nat
  | .object members =>
    match lookup "id" members, lookup "method" members with
    | some _, some (.string _) => none
    | some id, _ =>
      if (lookup "result" members).isSome ∨ (lookup "error" members).isSome then id.unsigned? else none
    | none, _ => none
  | _ => none

/-- What a question is answered with. -/
def declined (question : Value × String) : Item := .message (methodNotFound question.1 question.2)

/-- A reply takes the id over as it is, and says which method is not there. -/
theorem methodNotFound_members (id : Value) (method : String) :
    (methodNotFound id method).get? "id" = some id ∧
      responseError? (methodNotFound id method) = some (-32601, "Method not found: " ++ method) := by
  constructor <;> cbv

/-- How a message is acted on, by what it asks and what it answers. -/
inductive Acts (message : Value) : Option (Value × String) → Option Nat → Option Incoming → Prop
  | question (id : Value) (method : String) : Acts message (some (id, method)) none (some (.request id method))
  | answer (id : Nat) : Acts message none (some id) (some (.response id message))
  | notice (method : String) (params : Option Value) : Acts message none none (some (.notification method params))
  | nothing : Acts message none none none

theorem acts (message : Value) : Acts message (asked? message) (answered? message) (Incoming.ofValue? message) := by
  cases message with
  | object members =>
    simp only [asked?, answered?, Incoming.ofValue?, Value.get?]
    cases lookup "id" members with
    | none =>
      cases (lookup "method" members).bind Value.text? with
      | none => exact .nothing
      | some method => exact .notice method _
    | some id =>
      -- a method that is no text is no method
      have answers : Acts (.object members) none
          (if (lookup "result" members).isSome ∨ (lookup "error" members).isSome then id.unsigned? else none)
          (if (lookup "result" members).isSome || (lookup "error" members).isSome then
            id.unsigned?.map (.response · (.object members)) else none) := by
        simp only [Bool.or_eq_true]
        split
        · cases id.unsigned? with
          | none => exact .nothing
          | some number => exact .answer number
        · exact .nothing
      cases lookup "method" members with
      | none => exact answers
      | some method =>
        cases method with
        | string method => exact .question id method
        | null | bool | number | array | object => exact answers
  | null | bool | number | string | array => exact .nothing

/-! ## Room -/

namespace Channel

variable {c : Channel}

/-- How many items may still enter: none while a task is in line. -/
def room (c : Channel) : Nat := if c.waiting = [] then c.capacity - c.items.length else 0

/-- The channel after as many of the questions were declined, from the first on, as there was room. -/
def declining (c : Channel) (asked : List (Value × String)) : Channel :=
  { c with items := c.items ++ (asked.take c.room).map declined }

theorem declining_nil (c : Channel) : c.declining [] = c := by
  simp [declining]

theorem room_declining (c : Channel) (asked : List (Value × String)) :
    (c.declining asked).room = c.room - asked.length := by
  simp only [declining, room]
  split
  · simp only [List.length_append, List.length_map, List.length_take]
    omega
  · omega

theorem declining_append (c : Channel) (asked more : List (Value × String)) :
    c.declining (asked ++ more) = (c.declining asked).declining more := by
  rw [declining, declining, room_declining]
  simp [declining, List.take_append, List.append_assoc]

theorem room_of_full (full : c.hasRoom = false) : c.room = 0 := by
  have size : ¬ c.items.length < c.capacity := of_decide_eq_false full
  rw [room]
  split <;> omega

theorem declining_of_full (full : c.hasRoom = false) (asked : List (Value × String)) : c.declining asked = c := by
  simp [declining, room_of_full full]

/-- In an open channel that has a line only when it is full, declining a question fills one free place. -/
theorem Tight.tryPush_declined (h : c.Tight) (isOpen : c.isOpen = true) (question : Value × String) :
    (c.tryPush (declined question)).2 = c.declining [question] := by
  obtain ⟨room, pushed⟩ | ⟨full, pushed⟩ := tryPush_open isOpen (declined question)
  · have nobody := h.nobody room
    have size : c.items.length < c.capacity := of_decide_eq_true room
    obtain ⟨free, places⟩ : ∃ free, c.room = free + 1 := ⟨c.capacity - c.items.length - 1, by
      rw [Channel.room, if_pos nobody]
      omega⟩
    rw [pushed, declining, places, List.take_of_length_le (Nat.le_add_left 1 free)]
    rfl
  · rw [pushed, declining_of_full full]

theorem Tight.declining (h : c.Tight) (isOpen : c.isOpen = true) (asked : List (Value × String)) :
    (c.declining asked).Tight where
  full some := by
    have full := h.full some
    rw [declining_of_full full]
    exact full
  shut closed := by cases isOpen.symm.trans closed

end Channel

/-! ## Batches -/

namespace Dispatcher

variable {d e f : Dispatcher}

/-- What questions and answers leave in a dispatcher: the questions are declined while there is room,
and the requests that are answered are no longer pending. -/
structure Leaves (d : Dispatcher) (asked : List (Value × String)) (answered : List Nat) (e : Dispatcher) : Prop where
  channel : e.channel = d.channel.declining asked
  pending : e.pending = d.pending.filter fun p => p.id ∉ answered

theorem Leaves.refl (d : Dispatcher) : Leaves d [] [] d where
  channel := d.channel.declining_nil.symm
  pending := by simp

theorem Leaves.trans {asked more : List (Value × String)} {answered others : List Nat}
    (first : Leaves d asked answered e) (second : Leaves e more others f) :
    Leaves d (asked ++ more) (answered ++ others) f where
  channel := by rw [second.channel, first.channel, Channel.declining_append]
  pending := by
    rw [second.pending, first.pending, List.filter_filter]
    simp [not_or, Bool.and_comm]

theorem Leaves.isOpen {asked : List (Value × String)} {answered : List Nat} (leaves : Leaves d asked answered e) :
    e.channel.isOpen = d.channel.isOpen := by
  rw [leaves.channel, Channel.declining]

theorem Leaves.tight {asked : List (Value × String)} {answered : List Nat} (leaves : Leaves d asked answered e)
    (tight : d.channel.Tight) (isOpen : d.channel.isOpen = true) : e.channel.Tight := by
  rw [leaves.channel]
  exact tight.declining isOpen asked

theorem tryEnqueue_leaves (tight : d.channel.Tight) (isOpen : d.channel.isOpen = true) (id : Value)
    (method : String) : Leaves d [(id, method)] [] (d.tryEnqueue (methodNotFound id method)).2 where
  channel := by
    rw [tryEnqueue_channel]
    exact tight.tryPush_declined isOpen (id, method)
  pending := by
    obtain ⟨_, same, _⟩ := tryEnqueue_frame d (methodNotFound id method)
    rw [same]
    simp

theorem resolve_leaves (d : Dispatcher) (id : Nat) (body : Value) : Leaves d [] [id] (d.resolve id body).2.1 where
  channel := by rw [resolve_channel, Channel.declining_nil]
  pending := by
    simp only [List.mem_singleton]
    obtain ⟨missing, _, same⟩ | ⟨_, _, _, removed⟩ := resolve_cases d id body
    · rw [same, List.filter_eq_self.mpr]
      simpa using missing
    · exact removed

end Dispatcher

namespace Connection

variable {c : Connection}

theorem receive_leaves (tight : c.dispatcher.channel.Tight) (isOpen : c.dispatcher.channel.isOpen = true)
    (message : Value) : c.dispatcher.Leaves (asked? message).toList (answered? message).toList
      (c.receive message).dispatcher := by
  rw [receive]
  generalize asked? message = asked, answered? message = answered, Incoming.ofValue? message = incoming,
    acts message = shape
  cases shape with
  | question id method => exact Dispatcher.tryEnqueue_leaves tight isOpen id method
  | answer id => exact c.dispatcher.resolve_leaves id message
  | notice | nothing => exact .refl _

/-- What is neither a question nor an answer leaves the dispatcher as it is. -/
theorem receive_dispatcher (c : Connection) {message : Value} (unasked : asked? message = none)
    (unanswered : answered? message = none) : (c.receive message).dispatcher = c.dispatcher := by
  have shape := acts message
  rw [unasked, unanswered] at shape
  rw [receive]
  generalize Incoming.ofValue? message = incoming at shape
  cases shape with
  | notice | nothing => rfl

theorem batch_leaves (tight : c.dispatcher.channel.Tight) (isOpen : c.dispatcher.channel.isOpen = true)
    (messages : List Value) : c.dispatcher.Leaves (messages.filterMap asked?) (messages.filterMap answered?)
      (messages.foldl receive c).dispatcher := by
  induction messages generalizing c with
  | nil => exact .refl _
  | cons message messages ih =>
    have first := receive_leaves tight isOpen message
    have rest := ih (first.tight tight isOpen) (first.isOpen.trans isOpen)
    simp only [List.filterMap_eq_flatMap_toList, List.flatMap_cons, List.foldl_cons] at rest ⊢
    exact first.trans rest

end Connection

/-! ## Courses -/

section Courses

variable {settings : ServerSettings} {clock : Nat} {steps : List Step} {c : Connection}

/-- A task is in line only when the channel is full. -/
theorem Course.tight (course : Course settings clock steps c) : c.dispatcher.channel.Tight := by
  induction course with
  | start => exact Channel.tight_fresh _
  | @step steps c incident _ ih =>
    change (c.undergo incident).1.dispatcher.channel.Tight
    by_cases brings : ∃ ticket uri text, incident = .syncDocument ticket uri text
    · obtain ⟨ticket, uri, text, rfl⟩ := brings
      rw [Connection.undergo]
      by_cases ready : c.phase = .ready
      · rw [Connection.syncDocument_of_ready ready]
        exact Dispatcher.enqueue_tight ticket _ ih
      · obtain ⟨failure, refused⟩ := Connection.checkReady_of_unready ready
        rw [Connection.syncDocument, refused]
        exact ih
    · exact (c.undergo_passes fun ticket uri text same => brings ⟨ticket, uri, text, same⟩).tight ih

/-- A batch of messages, whatever they are, puts into an open channel the replies to as many of its
questions, from the first on, as there is room for, and takes out of the table the requests that its
answers name; nothing else enters, and nobody is put in line.  A message of another shape leaves the
dispatcher alone. -/
theorem questions_are_declined_without_waiting (course : Course settings clock steps c)
    (isOpen : c.dispatcher.channel.isOpen = true) (decoder : Framing.FrameDecoder) (messages : List Value) :
    let received := (messages.foldl Connection.receive { c with decoder }).dispatcher
    received.channel = { c.dispatcher.channel with
      items := c.dispatcher.channel.items ++
        ((messages.filterMap asked?).take c.dispatcher.channel.room).map fun (id, method) =>
          .message (methodNotFound id method) } ∧
    received.pending = (c.dispatcher.pending.filter fun p => p.id ∉ messages.filterMap answered?) ∧
    (∀ id method, (methodNotFound id method).get? "id" = some id ∧
      responseError? (methodNotFound id method) = some (-32601, "Method not found: " ++ method)) ∧
    ∀ (e : Connection) message, asked? message = none → answered? message = none →
      (e.receive message).dispatcher = e.dispatcher := by
  have leaves := Connection.batch_leaves (c := { c with decoder }) course.tight isOpen messages
  exact ⟨leaves.channel, leaves.pending, methodNotFound_members, fun e _ => e.receive_dispatcher⟩

/-- The handshake, changes until the channel is full, three items that are taken, and a shutdown that
waits for its answer: two places are free. -/
def pausing : List Incident :=
  crowding ++ [.takeItem, .takeItem, .takeItem, .shutdown 64, .poll .obliging 64]

/-- An answer that is a question too, a question whose id is null, a list, an answer whose method is no
text, and one question too many. -/
def mixture : List Value :=
  [.object [("id", .nat 2), ("method", .string "a"), ("result", .null)],
    .object [("id", .null), ("method", .string "b")], .array [.nat 2],
    .object [("error", .null), ("id", .nat 2), ("method", .nat 7)],
    .object [("id", .array []), ("method", .string "c")]]

theorem questions_are_declined_without_waiting_two_places : ∃ steps c, Course (.make "nim" "nim") 0 steps c ∧
    c.dispatcher.channel.isOpen = true ∧ c.dispatcher.pending.map Pending.id = [2] ∧
    (mixture.foldl Connection.receive c).dispatcher.channel.items = c.dispatcher.channel.items ++
      [.message (methodNotFound (.nat 2) "a"), .message (methodNotFound .null "b")] ∧
    (mixture.foldl Connection.receive c).dispatcher.pending = [] := by
  have course := course_of pausing
  generalize final : ((Connection.fresh (.make "nim" "nim") 0).course pausing).2 = c at course
  have isOpen : c.dispatcher.channel.isOpen = true := by
    rw [← final]
    decide +kernel
  have waits : c.dispatcher.pending.map Pending.id = [2] := by
    rw [← final]
    decide +kernel
  have room : c.dispatcher.channel.room = 2 := by
    rw [← final]
    decide +kernel
  obtain ⟨channel, pending, _, _⟩ := questions_are_declined_without_waiting course isOpen c.decoder mixture
  refine ⟨_, c, course, isOpen, waits, ?_, ?_⟩
  · rw [channel, room]
    rfl
  · have named : mixture.filterMap answered? = [2] := by cbv
    rw [pending, named, List.filter_eq_nil_iff]
    intro p member
    have number : p.id ∈ c.dispatcher.pending.map Pending.id := List.mem_map_of_mem member
    rw [waits] at number
    simpa using number

end Courses

end BlockDiscovery.Session
