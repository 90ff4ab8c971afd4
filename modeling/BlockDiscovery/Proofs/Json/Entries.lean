import BlockDiscovery.Json.Value
import Mathlib.Data.List.Sort
import Mathlib.Data.String.Basic

/-! # Laws of entries in order of their keys -/

namespace BlockDiscovery.Json

variable {α : Type}

/-- After an insertion the key has its new value, and every other key what it had. -/
theorem lookup_insertEntry (k key : String) (value : α) (entries : List (String × α)) :
    lookup k (insertEntry key value entries) = if k = key then some value else lookup k entries := by
  induction entries with
  | nil => simp [insertEntry, lookup, eq_comm]
  | cons entry entries ih =>
    obtain ⟨other, v⟩ := entry
    rw [insertEntry]
    split
    · rw [lookup]
      simp only [eq_comm]
    split
    · next same =>
      subst same
      rw [lookup, lookup]
      simp only [eq_comm]
      split <;> rfl
    · next differs =>
      rw [lookup, lookup, ih]
      by_cases found : other = k
      · subst found
        rw [if_pos rfl, if_neg (Ne.symm differs), if_pos rfl]
      · rw [if_neg found, if_neg found]

/-- Without the entries of a name there is no value of it, and every other name has what it had. -/
theorem lookup_filter (name key : String) (entries : List (String × α)) :
    lookup key (entries.filter fun entry => entry.1 ≠ name) =
      if name = key then none else lookup key entries := by
  induction entries with
  | nil => simp [lookup]
  | cons entry entries ih =>
    obtain ⟨other, v⟩ := entry
    by_cases own : other = name
    · subst own
      rw [List.filter_cons_of_neg (by simp), ih, lookup]
      split <;> rfl
    · rw [List.filter_cons_of_pos (by simp [own]), lookup, lookup, ih]
      by_cases found : other = key
      · rw [if_pos found, if_pos found, if_neg (found ▸ Ne.symm own)]
      · rw [if_neg found, if_neg found]

theorem lookup_eq_none_iff {k : String} {entries : List (String × α)} :
    lookup k entries = none ↔ k ∉ entries.map Prod.fst := by
  induction entries with
  | nil => simp [lookup]
  | cons entry entries ih =>
    obtain ⟨other, v⟩ := entry
    by_cases same : other = k
    · simp [lookup, same]
    · simp [lookup, same, ih, Ne.symm same]

theorem mem_of_lookup {k : String} {v : α} {entries : List (String × α)}
    (found : lookup k entries = some v) : (k, v) ∈ entries := by
  induction entries with
  | nil => cases found
  | cons entry entries ih =>
    obtain ⟨other, w⟩ := entry
    by_cases same : other = k
    · simp_all [lookup]
    · rw [lookup, if_neg same] at found
      exact List.mem_cons_of_mem _ (ih found)

theorem lookup_of_mem {k : String} {v : α} {entries : List (String × α)}
    (distinct : (entries.map Prod.fst).Nodup) (member : (k, v) ∈ entries) :
    lookup k entries = some v := by
  induction entries with
  | nil => cases member
  | cons entry entries ih =>
    obtain ⟨other, w⟩ := entry
    obtain ⟨new, others⟩ := List.nodup_cons.mp distinct
    obtain here | later := List.mem_cons.mp member
    · cases here
      simp [lookup]
    · have differs : other ≠ k := by
        rintro rfl
        exact new (List.mem_map.mpr ⟨_, later, rfl⟩)
      rw [lookup, if_neg differs, ih others later]

/-! ## Order of the keys -/

/-- The keys stand in strictly increasing order. -/
def SortedKeys (entries : List (String × α)) : Prop := (entries.map Prod.fst).Pairwise (· < ·)

variable {key : String} {value : α} {entries : List (String × α)}

theorem sortedKeys_iff : SortedKeys entries ↔ entries.Pairwise fun a b => a.1 < b.1 :=
  List.pairwise_map

theorem SortedKeys.nodup (sorted : SortedKeys entries) : (entries.map Prod.fst).Nodup :=
  List.Pairwise.imp ne_of_lt sorted

theorem insertEntry_perm (new : key ∉ entries.map Prod.fst) :
    (insertEntry key value entries).Perm ((key, value) :: entries) := by
  induction entries with
  | nil => exact .refl _
  | cons entry entries ih =>
    obtain ⟨k, v⟩ := entry
    simp only [List.map_cons, List.mem_cons, not_or] at new
    obtain ⟨differs, others⟩ := new
    rw [insertEntry]
    split
    · exact .refl _
    · exact ((ih others).cons (k, v)).trans (.swap _ _ _)

theorem insertEntry_sorted (value : α) (sorted : SortedKeys entries) (new : key ∉ entries.map Prod.fst) :
    SortedKeys (insertEntry key value entries) := by
  rw [sortedKeys_iff] at sorted ⊢
  induction entries with
  | nil => simp [insertEntry]
  | cons entry entries ih =>
    obtain ⟨k, v⟩ := entry
    simp only [List.map_cons, List.mem_cons, not_or] at new
    obtain ⟨differs, others⟩ := new
    obtain ⟨above, rest⟩ := List.pairwise_cons.mp sorted
    rw [insertEntry]
    split
    · next before =>
      apply List.pairwise_cons.mpr ⟨_, sorted⟩
      intro e member
      obtain rfl | member := List.mem_cons.mp member
      · exact before
      · exact before.trans (above e member)
    · next behind =>
      apply List.pairwise_cons.mpr ⟨_, ih rest others⟩
      intro e member
      obtain rfl | member := List.mem_cons.mp ((insertEntry_perm others).subset member)
      · exact lt_of_le_of_ne (not_lt.mp behind) (Ne.symm differs)
      · exact above e member

theorem foldl_insertEntry (ms done : List (String × α))
    (distinct : ((done ++ ms).map Prod.fst).Nodup) (increasing : SortedKeys done) :
    (ms.foldl (fun done (k, v) => insertEntry k v done) done).Perm (done ++ ms) ∧
      SortedKeys (ms.foldl (fun done (k, v) => insertEntry k v done) done) := by
  induction ms generalizing done with
  | nil => exact ⟨by simp, increasing⟩
  | cons m ms ih =>
    obtain ⟨k, v⟩ := m
    have moved : ((k, v) :: (done ++ ms)).Perm (done ++ (k, v) :: ms) := List.perm_middle.symm
    have ahead := (moved.map Prod.fst).nodup_iff.mpr distinct
    rw [List.map_cons, List.nodup_cons] at ahead
    have new : k ∉ done.map Prod.fst := by
      intro inside
      apply ahead.1
      rw [List.map_append]
      exact List.mem_append_left _ inside
    have inserted : (insertEntry k v done).Perm ((k, v) :: done) := insertEntry_perm new
    have order := (inserted.append_right ms).trans moved
    obtain ⟨perm, sorted⟩ := ih _ ((order.map Prod.fst).nodup_iff.mpr distinct)
      (insertEntry_sorted v increasing new)
    exact ⟨perm.trans order, sorted⟩

/-- Two lists of the same entries, both in increasing order of the keys, are one. -/
theorem SortedKeys.eq_of_perm {sorted : List (String × α)} (order : sorted.Perm entries)
    (first : SortedKeys sorted) (second : SortedKeys entries) : sorted = entries := by
  apply List.Perm.eq_of_pairwise _ (sortedKeys_iff.mp first) (sortedKeys_iff.mp second) order
  intro a b _ _ less greater
  exact absurd greater less.asymm

namespace Value

theorem sorted_object (members : List (String × Value)) :
    (Value.object members).sorted = ofMembers (members.map fun m => (m.1, m.2.sorted)) := by
  have each : ∀ members, sortedMembers members = members.map fun m => (m.1, m.2.sorted) := by
    intro members
    induction members with
    | nil => rfl
    | cons m members ih => rw [sortedMembers, ih, List.map_cons]
  rw [sorted, each]

theorem ofMembers_perm {members ms : List (String × Value)} (order : members.Perm ms)
    (increasing : SortedKeys members) : ofMembers ms = .object members := by
  have distinct := (order.map Prod.fst).nodup_iff.mp increasing.nodup
  obtain ⟨perm, sorted⟩ := foldl_insertEntry ms [] distinct List.Pairwise.nil
  rw [ofMembers, SortedKeys.eq_of_perm (perm.trans order.symm) sorted increasing]

mutual

/-- A value whose members are in order is left as it is by sorting. -/
theorem sorted_of_ordered : ∀ v : Value, v.Ordered → v.sorted = v
  | .null, _ | .bool _, _ | .number _, _ | .string _, _ => by simp only [sorted]
  | .array items, ordered => by rw [sorted, sortedItems_of_ordered items ordered]
  | .object members, ordered => by
    rw [sorted, sortedMembers_of_ordered members ordered.2, ofMembers_perm (.refl _) ordered.1]

theorem sortedItems_of_ordered : ∀ items : List Value, OrderedItems items → sortedItems items = items
  | [], _ => rfl
  | v :: rest, ordered => by
    rw [sortedItems, sorted_of_ordered v ordered.1, sortedItems_of_ordered rest ordered.2]

theorem sortedMembers_of_ordered :
    ∀ members : List (String × Value), OrderedMembers members → sortedMembers members = members
  | [], _ => rfl
  | (k, v) :: rest, ordered => by
    rw [sortedMembers, sorted_of_ordered v ordered.1, sortedMembers_of_ordered rest ordered.2]

end

end Value

end BlockDiscovery.Json
