import BlockDiscovery.Proofs.Json.Entries
import BlockDiscovery.Session.Call

/-! # The script of a conversation

What a client says to a server, apart from answers to requests of the server, is a beginning
of the script: the handshake, then the documents, then the farewell.  The notifications of one
document count its versions from one.
-/

namespace BlockDiscovery.Session

open BlockDiscovery BlockDiscovery.Json BlockDiscovery.Protocol

/-! ## Items -/

/-- The method of a message; the end of the input goes by the name `close`. -/
def Item.name? : Item → Option String
  | .message frame => (frame.get? "method").bind Value.text?
  | .close => some "close"

/-- Whether an item answers a request of the server: of all messages, only answers have no
method. -/
def Item.isReply (item : Item) : Bool := item.name?.isNone

theorem name?_request (id : Nat) (method : String) (params : Option Value) :
    (Item.message (request id method params)).name? = some method := by
  cases params <;> rfl

theorem name?_notification (method : String) (params : Option Value) :
    (Item.message (notification method params)).name? = some method := by
  cases params <;> rfl

theorem name?_close : Item.close.name? = some "close" := rfl

/-- The answers that the client gives: it serves no method. -/
def Item.Declines (item : Item) : Prop := ∃ id method, item = .message (methodNotFound id method)

theorem Item.Declines.isReply {item : Item} (declines : item.Declines) : item.isReply = true := by
  obtain ⟨id, method, rfl⟩ := declines
  rfl

/-- The items that are not answers. -/
def speech (items : List Item) : List Item := items.filter fun item => !item.isReply

theorem speech_append (front back : List Item) : speech (front ++ back) = speech front ++ speech back :=
  List.filter_append ..

theorem speech_of_named {item : Item} {name : String} (named : item.name? = some name) : speech [item] = [item] :=
  List.filter_cons_of_pos (by simp [Item.isReply, named])

theorem speech_of_replies {items : List Item} (replies : ∀ item ∈ items, item.isReply = true) : speech items = [] :=
  List.filter_eq_nil_iff.mpr fun item member => by simp [replies item member]

/-- A document that is brought to the server. -/
structure Notice where
  uri : String
  version : Nat
  text : String

/-- The message that brings it: the first version opens the document, and the others change it. -/
def Notice.item (language : String) (n : Notice) : Item :=
  .message <|
    if n.version = 1 then
      notification "textDocument/didOpen" (some (didOpenParams n.uri language 1 n.text))
    else notification "textDocument/didChange" (some (didChangeParams n.uri n.version n.text))

theorem Notice.name?_item (language : String) (n : Notice) :
    (n.item language).name? = some "textDocument/didOpen" ∨
      (n.item language).name? = some "textDocument/didChange" := by
  rw [item]
  split
  · exact .inl (name?_notification _ _)
  · exact .inr (name?_notification _ _)

/-- The versions of one document, in the order in which they were sent. -/
def versions (notices : List Notice) (uri : String) : List Nat :=
  (notices.filter fun n => n.uri = uri).map Notice.version

/-- Every document has the versions from one on, each once. -/
def Counted (notices : List Notice) : Prop := ∀ uri, ∃ last, versions notices uri = List.range' 1 last

/-- The last version of every document is on record. -/
structure Tracks (notices : List Notice) (documents : List (String × Nat)) : Prop where
  counted : ∀ uri, versions notices uri = List.range' 1 ((lookup uri documents).getD 0)
  positive : ∀ uri, lookup uri documents ≠ some 0

theorem tracks_nil : Tracks [] [] := ⟨fun _ => rfl, fun _ known => by cases known⟩

theorem Tracks.all_counted {notices : List Notice} {documents : List (String × Nat)} (h : Tracks notices documents) :
    Counted notices := fun uri => ⟨_, h.counted uri⟩

theorem versions_append (front back : List Notice) (uri : String) :
    versions (front ++ back) uri = versions front uri ++ versions back uri := by
  rw [versions, List.filter_append, List.map_append]
  rfl

/-- The next version of a document. -/
theorem Tracks.next {notices : List Notice} {documents : List (String × Nat)} (h : Tracks notices documents)
    (uri text : String) :
    Tracks (notices ++ [⟨uri, (lookup uri documents).getD 0 + 1, text⟩])
      (insertEntry uri ((lookup uri documents).getD 0 + 1) documents) where
  counted other := by
    rw [versions_append, h.counted, lookup_insertEntry]
    by_cases same : other = uri
    · subst same
      rw [if_pos rfl, Option.getD_some, List.range'_1_concat, Nat.add_comm 1]
      simp [versions]
    · rw [if_neg same]
      simp [versions, Ne.symm same]
  positive other := by
    rw [lookup_insertEntry]
    split
    · simp
    · exact h.positive other

/-- The message that a connection sends for a document is that of its next version. -/
theorem syncMessage_notice {c : Connection} {notices : List Notice} (h : Tracks notices c.documents)
    (uri text : String) :
    (c.syncMessage uri text).2.1 = (lookup uri c.documents).getD 0 + 1 ∧
      Item.message (notification (c.syncMessage uri text).2.2.1 (some (c.syncMessage uri text).2.2.2)) =
        Notice.item c.settings.language ⟨uri, (lookup uri c.documents).getD 0 + 1, text⟩ := by
  rw [Connection.syncMessage]
  cases found : lookup uri c.documents with
  | none => exact ⟨rfl, rfl⟩
  | some version =>
    have later : version + 1 ≠ 1 := fun same => h.positive uri (found.trans (congrArg some (Nat.succ.inj same)))
    refine ⟨rfl, ?_⟩
    rw [Option.getD_some, Notice.item, if_neg later]

/-! ## The script -/

/-- The notification that ends the handshake. -/
def initialized : Item := .message (notification "initialized" (some (.object [])))

/-- The handshake, with the parameters of its request. -/
def opening (params : Value) : List Item := [.message (request 1 "initialize" (some params)), initialized]

/-- The farewell, with the number of its request. -/
def parting (id : Nat) : List Item :=
  [.message (request id "shutdown" none), .message (notification "exit" none), .close]

/-- Everything that a client says, if nothing goes wrong. -/
def script (language : String) (params : Value) (notices : List Notice) (id : Nat) : List Item :=
  opening params ++ notices.map (Notice.item language) ++ parting id

/-- What is a beginning of the script of some documents. -/
def Conforms (language : String) (said : List Item) : Prop :=
  ∃ params notices id, Counted notices ∧ said <+: script language params notices id

section Conforms

variable {language : String} {said : List Item} {params : Value} {notices : List Notice}

theorem Conforms.initial (h : Conforms language said) {front : List Item} (initial : front <+: said) :
    Conforms language front := by
  obtain ⟨params, notices, id, counted, conforms⟩ := h
  exact ⟨params, notices, id, counted, initial.trans conforms⟩

theorem conforms_opening (language : String) (params : Value) : Conforms language (opening params) :=
  ⟨params, [], 0, fun _ => ⟨0, rfl⟩, (List.prefix_append ..).trans (List.prefix_append ..)⟩

/-- A conversation that was broken off during the farewell. -/
theorem conforms_parting (counted : Counted notices) (language : String) (params : Value) (id count : Nat) :
    Conforms language (opening params ++ notices.map (Notice.item language) ++ (parting id).take count) :=
  ⟨params, notices, id, counted, (List.prefix_append_right_inj _).mpr (List.take_prefix ..)⟩

/-- The names of the messages that every whole conversation has. -/
def fixedNames : List String := ["initialize", "initialized", "shutdown", "exit", "close"]

theorem names_fixed (params : Value) (id : Nat) :
    (opening params ++ parting id).map Item.name? = fixedNames.map some := by
  simp only [opening, parting, initialized, List.cons_append, List.nil_append, List.map_cons, List.map_nil,
    name?_request, name?_notification]
  rfl

/-- Each of the fixed messages of the script occurs in it only once. -/
theorem Conforms.once (h : Conforms language said) {name : String} (fixed : name ∈ fixedNames) :
    (said.filter fun item => item.name? = some name).length ≤ 1 := by
  obtain ⟨params, notices, id, _, conforms⟩ := h
  have documents : (notices.map (Notice.item language)).filter (fun item => item.name? = some name) = [] := by
    refine List.filter_eq_nil_iff.mpr fun item member => ?_
    obtain ⟨n, _, rfl⟩ := List.mem_map.mp member
    rintro named
    have named := of_decide_eq_true named
    obtain opened | changed := n.name?_item language
    · rw [named] at opened
      cases opened
      simp [fixedNames] at fixed
    · rw [named] at changed
      cases changed
      simp [fixedNames] at fixed
  refine (conforms.sublist.filter _).length_le.trans ?_
  rw [script, List.filter_append, List.filter_append, documents, List.append_nil, ← List.filter_append]
  have single : (fixedNames.map some).Nodup := by decide
  have once := List.nodup_iff_count_le_one.mp single (some name)
  rw [← names_fixed params id, List.count, List.countP_map, List.countP_eq_length_filter] at once
  refine Nat.le_trans (Nat.le_of_eq (congrArg List.length (List.filter_congr fun item _ => ?_))) once
  exact (Bool.beq_eq_decide_eq _ _).symm

end Conforms

end BlockDiscovery.Session
