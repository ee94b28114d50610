import Mathlib

/-!
# Memo caches that forget what was used least recently

The entries of a cache, the most recently used one first, and never more than the
maximal size. A value that is found was put in under its key, and everything that a
cache holds was held before or has just been put in.
-/

set_option autoImplicit false

universe u v

/-- A cache of at most `maxsize` entries, the latest first. -/
structure LruCache (κ : Type u) (ν : Type v) where
  maxsize : Nat
  entries : List (κ × ν)
  bounded : entries.length ≤ maxsize

namespace LruCache

variable {κ : Type u} {ν : Type v} [DecidableEq κ] (cache : LruCache κ ν) (key : κ) (value : ν)

/-- Nothing is cached. -/
def empty (maxsize : Nat) : LruCache κ ν := ⟨maxsize, [], Nat.zero_le _⟩

/-- What is cached under the key. -/
def find : Option ν := cache.entries.lookup key

/-- An entry that is used again comes first. -/
def touch : LruCache κ ν where
  maxsize := cache.maxsize
  entries := (cache.entries.filter fun entry => entry.1 = key) ++
    cache.entries.filter fun entry => ¬ entry.1 = key
  bounded := by
    have parts := cache.entries.length_eq_length_filter_add fun entry => decide (entry.1 = key)
    simp only [List.length_append, decide_not]
    have := cache.bounded
    omega

/-- A new entry comes first, and the last one goes when there are too many. -/
def insert : LruCache κ ν where
  maxsize := cache.maxsize
  entries := ((key, value) :: cache.entries).take cache.maxsize
  bounded := List.length_take_le _ _

variable {cache key value} {entry : κ × ν}

theorem mem_of_find (found : cache.find key = some value) : (key, value) ∈ cache.entries := by
  unfold find at found
  generalize cache.entries = entries at found ⊢
  induction entries with
  | nil => cases found
  | cons first rest ih =>
      obtain ⟨key', value'⟩ := first
      rw [List.lookup_cons] at found
      split at found
      next same =>
        cases found
        rw [eq_of_beq same]
        exact List.mem_cons_self
      next => exact List.mem_cons_of_mem _ (ih found)

theorem mem_touch : entry ∈ (cache.touch key).entries ↔ entry ∈ cache.entries := by
  by_cases same : entry.1 = key
  · simp [touch, same]
  · simp [touch, same]

omit [DecidableEq κ] in
theorem mem_of_mem_insert (member : entry ∈ (cache.insert key value).entries) :
    entry = (key, value) ∨ entry ∈ cache.entries :=
  List.mem_cons.mp (List.mem_of_mem_take member)

end LruCache
