import Mathlib.Data.Finset.Basic
import Mathlib.Data.Finset.Lattice.Basic
import Mathlib.Data.Finset.SDiff
import Mathlib.Data.List.Nodup

/-!
# What changes between two keyed collections

Two collections have their elements under keys, at most one under each. A comparison of the two
puts every key into one of four sets: it is deleted, added, changed or the same. Which elements
count as alike is a parameter.
-/

set_option autoImplicit false

namespace KeyedChanges

universe u v

variable {κ : Type u} {α : Type v} [DecidableEq κ]

/-- The keys that are deleted, added and changed. -/
structure Changes (κ : Type u) where
  deleted : Finset κ
  added : Finset κ
  changed : Finset κ
  same : Finset κ

/-- The keys of the new elements that are alike their old ones, or unlike them. -/
def keysOf (key : α → κ) (alike : α → α → Bool) (old new : List α) (isAlike : Bool) : Finset κ :=
  ((new.filter fun conf =>
    (old.find? fun conf' => key conf' = key conf).any (alike · conf == isAlike)).map key).toFinset

/-- The comparison of two collections. -/
def compare (key : α → κ) (alike : α → α → Bool) (old new : List α) : Changes κ where
  deleted := (old.map key).toFinset \ (new.map key).toFinset
  added := (new.map key).toFinset \ (old.map key).toFinset
  changed := keysOf key alike old new false
  same := keysOf key alike old new true

variable {key : α → κ} {alike : α → α → Bool} {old new : List α} {id : κ}

/-- The element under a key. -/
theorem find?_eq_some (nodup : (old.map key).Nodup) {conf : α} (member : conf ∈ old)
    (isKey : key conf = id) : old.find? (fun conf' => key conf' = id) = some conf := by
  induction old with
  | nil => cases member
  | cons first rest ih =>
      obtain ⟨absent, nodup⟩ := List.nodup_cons.mp nodup
      rcases List.mem_cons.mp member with rfl | later
      · exact List.find?_cons_of_pos (decide_eq_true isKey)
      · have other : key first ≠ id := by
          intro same
          rw [same, ← isKey] at absent
          exact absent (List.mem_map_of_mem later)
        rw [List.find?_cons_of_neg (by simpa using other)]
        exact ih nodup later

theorem mem_keysOf (nodup : (old.map key).Nodup) {isAlike : Bool} :
    id ∈ keysOf key alike old new isAlike ↔
      ∃ conf ∈ old, ∃ conf' ∈ new, key conf = id ∧ key conf' = id ∧ alike conf conf' = isAlike := by
  simp only [keysOf, List.mem_toFinset, List.mem_map, List.mem_filter]
  constructor
  · rintro ⟨conf', ⟨known', known⟩, rfl⟩
    obtain ⟨conf, found, same⟩ := (Option.any_eq_true _ _).mp known
    have isKey := List.find?_some found
    exact ⟨conf, List.mem_of_find?_eq_some found, conf', known', of_decide_eq_true isKey, rfl,
      beq_iff_eq.mp same⟩
  · rintro ⟨conf, known, conf', known', isKey, rfl, same⟩
    refine ⟨conf', ⟨known', ?_⟩, rfl⟩
    rw [find?_eq_some nodup known isKey, Option.any_some, same, beq_self_eq_true]

theorem mem_deleted : id ∈ (compare key alike old new).deleted ↔
    id ∈ old.map key ∧ id ∉ new.map key := by
  simp only [compare, Finset.mem_sdiff, List.mem_toFinset]

theorem mem_added : id ∈ (compare key alike old new).added ↔
    id ∈ new.map key ∧ id ∉ old.map key := by
  simp only [compare, Finset.mem_sdiff, List.mem_toFinset]

theorem mem_changed (nodup : (old.map key).Nodup) : id ∈ (compare key alike old new).changed ↔
    ∃ conf ∈ old, ∃ conf' ∈ new, key conf = id ∧ key conf' = id ∧ alike conf conf' = false :=
  mem_keysOf nodup

theorem mem_same (nodup : (old.map key).Nodup) : id ∈ (compare key alike old new).same ↔
    ∃ conf ∈ old, ∃ conf' ∈ new, key conf = id ∧ key conf' = id ∧ alike conf conf' = true :=
  mem_keysOf nodup

/-- A key with elements to compare is in both collections. -/
theorem both_of_mem_keysOf (nodup : (old.map key).Nodup) {isAlike : Bool}
    (compared : id ∈ keysOf key alike old new isAlike) : id ∈ old.map key ∧ id ∈ new.map key := by
  obtain ⟨conf, known, conf', known', isKey, isKey', _⟩ := (mem_keysOf nodup).mp compared
  exact ⟨List.mem_map.mpr ⟨conf, known, isKey⟩, List.mem_map.mpr ⟨conf', known', isKey'⟩⟩

theorem both_of_changed (nodup : (old.map key).Nodup)
    (changed : id ∈ (compare key alike old new).changed) : id ∈ old.map key ∧ id ∈ new.map key :=
  both_of_mem_keysOf nodup changed

theorem both_of_same (nodup : (old.map key).Nodup)
    (same : id ∈ (compare key alike old new).same) : id ∈ old.map key ∧ id ∈ new.map key :=
  both_of_mem_keysOf nodup same

/-- Two elements under one key that is not changed are alike. -/
theorem alike_of_unchanged (nodup : (old.map key).Nodup) {conf conf' : α} (known : conf ∈ old)
    (known' : conf' ∈ new) (isKey : key conf = id) (isKey' : key conf' = id)
    (unchanged : id ∉ (compare key alike old new).changed) : alike conf conf' = true := by
  by_contra unlike
  exact unchanged ((mem_changed nodup).mpr
    ⟨conf, known, conf', known', isKey, isKey', Bool.eq_false_of_not_eq_true unlike⟩)

end KeyedChanges
