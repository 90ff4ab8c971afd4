import Mathlib.Data.List.Nodup

/-! # Lists with keys

Tables are lists whose items have distinct keys.
-/

namespace BlockDiscovery.Session

variable {α β : Type} {key : α → β} {items : List α} {x : α}

theorem map_key_map {f : α → α} (same : ∀ x, key (f x) = key x) (items : List α) :
    (items.map f).map key = items.map key := by
  rw [List.map_map]
  exact List.map_congr_left fun x _ => same x

theorem nodup_snoc (nodup : (items.map key).Nodup)
    (new : ∀ y ∈ items, key y ≠ key x) : ((items ++ [x]).map key).Nodup := by
  rw [List.map_append]
  refine List.nodup_append.mpr ⟨nodup, List.nodup_singleton _, ?_⟩
  intro _ old _ last
  obtain ⟨y, member, rfl⟩ := List.mem_map.mp old
  rw [List.mem_singleton.mp last]
  exact new y member

theorem forall_snoc {p : α → Prop} (old : ∀ y ∈ items, p y)
    (new : p x) : ∀ y ∈ items ++ [x], p y := by
  intro y member
  obtain inside | last := List.mem_append.mp member
  · exact old y inside
  · rw [List.mem_singleton.mp last]
    exact new

variable [DecidableEq β]

theorem find?_map_key {f : α → α} (same : ∀ x, key (f x) = key x) (items : List α) (k : β) :
    (items.map f).find? (fun x => key x = k) = (items.find? fun x => key x = k).map f := by
  rw [List.find?_map]
  congr 2
  funext x
  simp only [Function.comp_apply, same]

theorem find?_of_mem (nodup : (items.map key).Nodup) (member : x ∈ items) :
    items.find? (fun y => key y = key x) = some x := by
  cases found : items.find? fun y => key y = key x with
  | none => simpa using List.find?_eq_none.mp found x member
  | some y =>
    have same : key y = key x := by simpa using List.find?_some found
    rw [List.inj_on_of_nodup_map nodup (List.mem_of_find?_eq_some found) member same]

theorem mem_of_find {k : β} (found : items.find? (fun y => key y = k) = some x) :
    x ∈ items ∧ key x = k :=
  ⟨List.mem_of_find?_eq_some found, by simpa using List.find?_some found⟩

section Update

variable {f : α → α}

/-- The change of one item keeps the keys. -/
theorem key_update (same : ∀ x, key (f x) = key x) (k : β) (x : α) :
    key (if key x = k then f x else x) = key x := by
  split
  · exact same x
  · rfl

theorem find?_update (same : ∀ x, key (f x) = key x) {k : β} (found : items.find? (fun y => key y = k) = some x) :
    (items.map fun y => if key y = k then f y else y).find? (fun y => key y = k) = some (f x) := by
  rw [find?_map_key (key_update same k), found, Option.map_some, if_pos (mem_of_find found).2]

theorem find?_update_other (same : ∀ x, key (f x) = key x) {k other : β} (different : other ≠ k) (items : List α) :
    (items.map fun y => if key y = other then f y else y).find? (fun y => key y = k) =
      items.find? fun y => key y = k := by
  rw [find?_map_key (key_update same other)]
  cases found : items.find? fun y => key y = k with
  | none => rfl
  | some x => rw [Option.map_some, if_neg fun own => different (own.symm.trans (mem_of_find found).2)]

end Update

theorem find?_filter_other {k other : β} (different : k ≠ other) (items : List α) :
    (items.filter fun y => key y ≠ other).find? (fun y => key y = k) = items.find? fun y => key y = k := by
  rw [List.find?_filter]
  congr 1
  funext y
  by_cases own : key y = k
  · simp [own, different]
  · simp [own]

theorem find?_filter_own (k : β) (items : List α) :
    (items.filter fun y => key y ≠ k).find? (fun y => key y = k) = none := by
  refine List.find?_eq_none.mpr fun y member => ?_
  simpa using (List.mem_filter.mp member).2

theorem filter_without_key {front back : List α}
    (nodup : ((front ++ x :: back).map key).Nodup) :
    (front ++ x :: back).filter (fun y => key y ≠ key x) = front ++ back := by
  rw [List.map_append, List.map_cons, List.nodup_append, List.nodup_cons] at nodup
  obtain ⟨_, ⟨rest, _⟩, apart⟩ := nodup
  have first : front.filter (fun y => key y ≠ key x) = front := by
    refine List.filter_eq_self.mpr fun y member => ?_
    exact decide_eq_true fun same => apart _ (List.mem_map_of_mem member) _ List.mem_cons_self same
  have second : back.filter (fun y => key y ≠ key x) = back := by
    refine List.filter_eq_self.mpr fun y member => ?_
    exact decide_eq_true fun same => rest (same ▸ List.mem_map_of_mem member)
  rw [List.filter_append, List.filter_cons_of_neg (by simp), first, second]

/-- An item that is taken out counts one, or nothing. -/
theorem countP_without (nodup : (items.map key).Nodup) (member : x ∈ items) (p : α → Bool) :
    items.countP p = (items.filter fun y => key y ≠ key x).countP p + (p x).toNat := by
  obtain ⟨front, back, rfl⟩ := List.append_of_mem member
  rw [filter_without_key nodup, List.countP_append, List.countP_append, List.countP_cons]
  cases p x <;> simp [Nat.add_assoc]

theorem find?_snoc_other {k : β} (other : key x ≠ k) (items : List α) :
    (items ++ [x]).find? (fun y => key y = k) = items.find? fun y => key y = k := by
  rw [List.find?_append, List.find?_cons_of_neg (by simpa using other), List.find?_nil, Option.or_none]

theorem find?_snoc_new {k : β} (own : key x = k) (new : ∀ y ∈ items, key y ≠ k) :
    (items ++ [x]).find? (fun y => key y = k) = some x := by
  have unknown : items.find? (fun y => key y = k) = none :=
    List.find?_eq_none.mpr fun y member => by simpa using new y member
  rw [List.find?_append, unknown, List.find?_cons_of_pos (by simpa using own)]
  rfl

end BlockDiscovery.Session
