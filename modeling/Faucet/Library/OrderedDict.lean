import Mathlib

/-!
# Dictionaries that keep their insertion order

`values key xs` are the values of the dictionary that assigns every element of
`xs`, in order, under its key: a key stays where it was first assigned and holds
what was last assigned to it.
-/

set_option autoImplicit false

namespace OrderedDict

universe u v

/-- Ordered keys are told apart by their equality. -/
instance lawfulBEq_of_linearOrder {κ : Type v} [LinearOrder κ] : LawfulBEq κ := inferInstance

variable {α : Type u} {κ : Type v} [DecidableEq κ]

/-- Assign an element under its key. -/
def assign (key : α → κ) (entries : List α) (x : α) : List α :=
  if entries.any fun y => key y = key x then
    entries.map fun y => if key y = key x then x else y
  else entries ++ [x]

/-- The last value of each key, in the order in which the keys came first. -/
def values (key : α → κ) (xs : List α) : List α := xs.foldl (assign key) []

variable {key : α → κ} {entries xs : List α} {x y : α}

@[simp] theorem values_nil : values key [] = [] := rfl

theorem values_concat : values key (xs ++ [x]) = assign key (values key xs) x := by
  rw [values, List.foldl_append]
  rfl

theorem mem_of_mem_assign (member : y ∈ assign key entries x) : y ∈ entries ∨ y = x := by
  unfold assign at member
  split at member
  · obtain ⟨z, present, rfl⟩ := List.mem_map.mp member
    split
    · exact .inr rfl
    · exact .inl present
  · rcases List.mem_append.mp member with old | new
    · exact .inl old
    · exact .inr (List.mem_singleton.mp new)

/-- Under each key a function of what is assigned. -/
theorem values_map {β : Type*} (f : α → β) (xs : List (κ × α)) :
    values Prod.fst (xs.map fun x => (x.1, f x.2)) =
      (values Prod.fst xs).map fun x => (x.1, f x.2) := by
  induction xs using List.reverseRecOn with
  | nil => rfl
  | append_singleton xs x ih =>
      rw [List.map_append, List.map_singleton, values_concat, values_concat, ih, assign, assign,
        List.any_map]
      have sameAny : ((fun y : κ × β => decide (y.1 = x.1)) ∘ fun y : κ × α => (y.1, f y.2)) =
          fun y => decide (y.1 = x.1) := rfl
      dsimp only
      rw [sameAny]
      split
      · rw [List.map_map, List.map_map]
        refine List.map_congr_left fun y _ => ?_
        by_cases same : y.1 = x.1
        · simp [same]
        · simp [same]
      · rw [List.map_append, List.map_singleton]

/-- Every value has been assigned. -/
theorem mem_of_mem_values (member : y ∈ values key xs) : y ∈ xs := by
  induction xs using List.reverseRecOn generalizing y with
  | nil => exact member
  | append_singleton xs x ih =>
      rw [values_concat] at member
      rcases mem_of_mem_assign member with old | rfl
      · exact List.mem_append_left _ (ih old)
      · exact List.mem_append_right _ (List.mem_singleton_self _)

/-- What is assigned may be changed first, when that tells the same keys apart. -/
theorem values_map_of_key {β : Type*} {κ' : Type*} [DecidableEq κ'] {key' : β → κ'} {f : α → β}
    (same : ∀ x ∈ xs, ∀ y ∈ xs, key' (f x) = key' (f y) ↔ key x = key y) :
    values key' (xs.map f) = (values key xs).map f := by
  induction xs using List.reverseRecOn with
  | nil => rfl
  | append_singleton xs x ih =>
      have earlier := ih fun y member z member' =>
        same y (List.mem_append_left _ member) z (List.mem_append_left _ member')
      have keys : ∀ y ∈ values key xs, key' (f y) = key' (f x) ↔ key y = key x := fun y member =>
        same y (List.mem_append_left _ (mem_of_mem_values member)) x (by simp)
      rw [List.map_append, List.map_singleton, values_concat, values_concat, earlier]
      generalize values key xs = entries at keys
      have sameAny : ((entries.map f).any fun y => decide (key' y = key' (f x))) =
          entries.any fun y => decide (key y = key x) := by
        rw [List.any_map]
        refine Bool.eq_iff_iff.mpr ?_
        simp only [List.any_eq_true, Function.comp_apply, decide_eq_true_eq]
        exact exists_congr fun y => and_congr_right fun member => keys y member
      rw [assign, assign, sameAny]
      split
      · rw [List.map_map, List.map_map]
        refine List.map_congr_left fun y member => ?_
        by_cases equal : key y = key x
        · simp [equal, (keys y member).mpr equal]
        · simp [equal, mt (keys y member).mp equal]
      · rw [List.map_append, List.map_singleton]

theorem mem_assign_self : x ∈ assign key entries x := by
  unfold assign
  split
  next present =>
    obtain ⟨y, member, same⟩ := List.any_eq_true.mp present
    exact List.mem_map.mpr ⟨y, member, if_pos (of_decide_eq_true same)⟩
  next => exact List.mem_append_right _ (List.mem_singleton_self _)

theorem mem_assign_of_ne (member : y ∈ entries) (other : key y ≠ key x) :
    y ∈ assign key entries x := by
  unfold assign
  split
  · exact List.mem_map.mpr ⟨y, member, if_neg other⟩
  · exact List.mem_append_left _ member

/-- Every key that has been assigned holds a value. -/
theorem exists_mem_values (member : x ∈ xs) : ∃ y ∈ values key xs, key y = key x := by
  induction xs using List.reverseRecOn with
  | nil => cases member
  | append_singleton xs z ih =>
      rw [values_concat]
      by_cases same : key x = key z
      · exact ⟨z, mem_assign_self, same.symm⟩
      · rcases List.mem_append.mp member with old | new
        · obtain ⟨y, present, sameKey⟩ := ih old
          exact ⟨y, mem_assign_of_ne present (sameKey ▸ same), sameKey⟩
        · exact absurd (congrArg key (List.mem_singleton.mp new)) same

theorem mem_assign_iff : y ∈ assign key entries x ↔ y = x ∨ y ∈ entries ∧ key y ≠ key x := by
  constructor
  · intro member
    by_cases same : key y = key x
    · unfold assign at member
      split at member
      next =>
        obtain ⟨z, _, rfl⟩ := List.mem_map.mp member
        by_cases equal : key z = key x
        · exact .inl (if_pos equal)
        · exact absurd (by rwa [if_neg equal] at same) equal
      next absent =>
        rcases List.mem_append.mp member with old | new
        · exact absurd (List.any_eq_true.mpr ⟨y, old, decide_eq_true same⟩) absent
        · exact .inl (List.mem_singleton.mp new)
    · rcases mem_of_mem_assign member with old | rfl
      · exact .inr ⟨old, same⟩
      · exact absurd rfl same
  · rintro (rfl | ⟨old, other⟩)
    · exact mem_assign_self
    · exact mem_assign_of_ne old other

/-- A value is what was assigned last under its key. -/
theorem mem_values_iff : y ∈ values key xs ↔
    ∃ before after, xs = before ++ y :: after ∧ ∀ later ∈ after, key later ≠ key y := by
  induction xs using List.reverseRecOn with
  | nil => simp
  | append_singleton xs x ih =>
      rw [values_concat, mem_assign_iff, ih]
      constructor
      · rintro (rfl | ⟨⟨before, after, rfl, last⟩, other⟩)
        · exact ⟨xs, [], rfl, by simp⟩
        · refine ⟨before, after ++ [x], by simp, fun later member => ?_⟩
          rcases List.mem_append.mp member with early | new
          · exact last later early
          · rw [List.mem_singleton.mp new]
            exact other.symm
      · rintro ⟨before, after, same, last⟩
        rcases List.eq_nil_or_concat after with rfl | ⟨after, z, rfl⟩
        · obtain ⟨_, final⟩ := List.append_inj' same rfl
          exact .inl (List.singleton_inj.mp final).symm
        · rw [List.concat_eq_append, ← List.cons_append, ← List.append_assoc] at same
          obtain ⟨rest, final⟩ := List.append_inj' same rfl
          rw [List.singleton_inj.mp final]
          exact .inr ⟨⟨before, after, rest, fun later member => last later (by simp [member])⟩,
            (last z (by simp)).symm⟩

/-- A key holds one value. -/
theorem nodup_map_values : ((values key xs).map key).Nodup := by
  induction xs using List.reverseRecOn with
  | nil => exact List.nodup_nil
  | append_singleton xs x ih =>
      rw [values_concat, assign]
      split
      next =>
        rw [List.map_map]
        refine cast (congrArg List.Nodup (List.map_congr_left fun y _ => ?_)) ih
        by_cases same : key y = key x
        · rw [Function.comp_apply, if_pos same, same]
        · rw [Function.comp_apply, if_neg same]
      next absent =>
        rw [List.map_append, List.nodup_append]
        refine ⟨ih, List.nodup_singleton _, ?_⟩
        rintro k listed _ new rfl
        obtain ⟨y, member, same⟩ := List.mem_map.mp listed
        rw [List.map_singleton, List.mem_singleton] at new
        exact absent (List.any_eq_true.mpr ⟨y, member, decide_eq_true (same.trans new)⟩)

theorem filter_assign {selected : κ → Bool} (taken : selected (key x) = true) :
    (assign key entries x).filter (fun y => selected (key y)) =
      assign key (entries.filter fun y => selected (key y)) x := by
  have sameAny : (entries.filter fun y => selected (key y)).any (fun y => key y = key x) =
      entries.any fun y => key y = key x := by
    rw [List.any_filter]
    congr 1
    funext y
    by_cases same : key y = key x
    · simp [same, taken]
    · simp [same]
  unfold assign
  rw [sameAny]
  split
  · rw [List.filter_map]
    congr 2
    funext y
    by_cases same : key y = key x
    · simp [same]
    · simp [same]
  · simp [List.filter_append, taken]

theorem filter_assign_of_not {selected : κ → Bool} (left : selected (key x) = false) :
    (assign key entries x).filter (fun y => selected (key y)) =
      entries.filter fun y => selected (key y) := by
  unfold assign
  split
  next =>
    clear * - left
    induction entries with
    | nil => rfl
    | cons y ys ih =>
        rw [List.map_cons, List.filter_cons, List.filter_cons, ih]
        by_cases same : key y = key x
        · simp [same, left]
        · simp [same]
  next => simp [List.filter_append, left]

/-- Looked up by its key, what was assigned is found, and every other key as before. -/
theorem find?_assign (k : κ) :
    (assign key entries x).find? (fun y => key y = k) =
      if key x = k then some x else entries.find? fun y => key y = k := by
  rw [← List.head?_filter, ← List.head?_filter]
  split
  next found =>
    rw [@filter_assign _ _ _ key entries x (fun value => decide (value = k)) (decide_eq_true found)]
    cases same : entries.filter fun y => decide (key y = k) with
    | nil => rfl
    | cons y ys =>
        have first : y ∈ entries.filter fun y => decide (key y = k) := by simp [same]
        have sameKey : key y = key x :=
          (of_decide_eq_true (List.mem_filter.mp first).2).trans found.symm
        simp [assign, sameKey]
  next other =>
    rw [@filter_assign_of_not _ _ _ key entries x (fun value => decide (value = k))
      (decide_eq_false other)]

/-- A selection by key commutes with the assignments. -/
theorem filter_values {selected : κ → Bool} :
    (values key xs).filter (fun y => selected (key y)) =
      values key (xs.filter fun y => selected (key y)) := by
  induction xs using List.reverseRecOn with
  | nil => rfl
  | append_singleton xs x ih =>
      rw [values_concat, List.filter_append]
      cases taken : selected (key x) with
      | true =>
          have single : [x].filter (fun y => selected (key y)) = [x] := by simp [taken]
          rw [single, values_concat, filter_assign taken, ih]
      | false =>
          have single : [x].filter (fun y => selected (key y)) = [] := by simp [taken]
          rw [single, List.append_nil, filter_assign_of_not taken, ih]

section Identity

variable [DecidableEq α]

theorem assign_id : assign id entries x = if x ∈ entries then entries else entries ++ [x] := by
  have sameAny : (entries.any fun y => id y = id x) = decide (x ∈ entries) := by
    rw [Bool.eq_iff_iff]
    simp
  unfold assign
  rw [sameAny]
  by_cases present : x ∈ entries
  · have unchanged : entries.map (fun y => if id y = id x then x else y) = entries := by
      conv_rhs => rw [← List.map_id entries]
      refine List.map_congr_left fun y _ => ?_
      by_cases same : id y = id x
      · rw [if_pos same]
        exact same.symm
      · exact if_neg same
    rw [if_pos (decide_eq_true present), if_pos present, unchanged]
  · rw [if_neg (by simpa using present), if_neg present]

/-- An element that is its own key holds itself. -/
theorem mem_values_id : x ∈ values id xs ↔ x ∈ xs := by
  refine ⟨mem_of_mem_values, fun member => ?_⟩
  obtain ⟨y, present, rfl⟩ : ∃ y ∈ values id xs, id y = id x := exists_mem_values member
  exact present

theorem nodup_values_id : (values id xs).Nodup := by
  induction xs using List.reverseRecOn with
  | nil => exact List.nodup_nil
  | append_singleton xs x ih =>
      rw [values_concat, assign_id]
      split
      next => exact ih
      next absent =>
        rw [← List.concat_eq_append]
        exact List.Nodup.concat absent ih

theorem values_id_of_nodup (nodup : xs.Nodup) : values id xs = xs := by
  induction xs using List.reverseRecOn with
  | nil => rfl
  | append_singleton xs x ih =>
      obtain ⟨nodup, _, apart⟩ := List.nodup_append.mp nodup
      have absent : x ∉ xs := fun member =>
        apart x member x (List.mem_singleton_self x) rfl
      rw [values_concat, ih nodup, assign_id, if_neg absent]

theorem values_id_sublist : (values id xs).Sublist xs := by
  induction xs using List.reverseRecOn with
  | nil => exact .slnil
  | append_singleton xs x ih =>
      rw [values_concat, assign_id]
      split
      · exact ih.trans (List.sublist_append_left _ _)
      · exact ih.append (.refl _)

/-- Of what comes later only what is new is kept. -/
theorem values_id_append {ys : List α} :
    values id (xs ++ ys) = values id xs ++ (values id ys).filter (· ∉ xs) := by
  induction ys using List.reverseRecOn with
  | nil => simp
  | append_singleton ys y ih =>
      rw [← List.append_assoc, values_concat, values_concat, ih, assign_id, assign_id]
      by_cases early : y ∈ xs
      · by_cases late : y ∈ ys <;> simp [mem_values_id, early, late]
      · by_cases late : y ∈ ys <;> simp [mem_values_id, early, late]

/-- What is first found among the elements is first found among the values. -/
theorem findSome?_values_id {β : Type*} (f : α → Option β) :
    (values id xs).findSome? f = xs.findSome? f := by
  induction xs using List.reverseRecOn with
  | nil => rfl
  | append_singleton xs x ih =>
      rw [values_concat, assign_id, List.findSome?_append]
      split
      next present =>
        rw [mem_values_id] at present
        rw [ih]
        cases found : xs.findSome? f with
        | some y => rfl
        | none =>
            have fails : f x = none := List.findSome?_eq_none_iff.mp found x present
            simp [fails]
      next => rw [List.findSome?_append, ih]

end Identity

/-! ## Dictionaries of pairs -/

section Pairs

variable {β : Type*} {dict : List (κ × β)} {k k' : κ} {v : β}

/-- `dict[k] = v` -/
def set (dict : List (κ × β)) (k : κ) (v : β) : List (κ × β) := assign Prod.fst dict (k, v)

/-- `del dict[k]` -/
def del (dict : List (κ × β)) (k : κ) : List (κ × β) := dict.filter fun pair => pair.1 ≠ k

theorem lookup_cons_eq {key : κ} {value : β} :
    ((key, value) :: dict).lookup k' = if k' = key then some value else dict.lookup k' := by
  by_cases same : k' = key
  · simp [same]
  · rw [List.lookup_cons, beq_false_of_ne same, if_neg same]

theorem lookup_replace :
    (dict.map fun pair => if pair.1 = k then (k, v) else pair).lookup k' =
      if k' = k ∧ dict.any (fun pair => pair.1 = k) then some v else dict.lookup k' := by
  induction dict with
  | nil => simp
  | cons pair rest ih =>
      obtain ⟨key, value⟩ := pair
      rw [List.map_cons, lookup_cons_eq]
      by_cases here : key = k
      · subst here
        rw [if_pos rfl, lookup_cons_eq, ih]
        by_cases same : k' = key
        · simp [same]
        · simp [same]
      · rw [if_neg here, lookup_cons_eq, ih, List.any_cons, decide_eq_false here, Bool.false_or]
        by_cases same : k' = key
        · subst same
          simp [here]
        · rw [if_neg same, if_neg same]

theorem lookup_set : (set dict k v).lookup k' = if k' = k then some v else dict.lookup k' := by
  unfold set assign
  split
  next present =>
    rw [lookup_replace]
    simp [present]
  next absent =>
    rw [List.lookup_append, lookup_cons_eq]
    by_cases same : k' = k
    · subst same
      have notKey : dict.lookup k' = none := by
        rw [List.lookup_eq_none_iff]
        intro pair member
        rw [bne_iff_ne]
        intro same
        exact absent (List.any_eq_true.mpr ⟨pair, member, decide_eq_true same.symm⟩)
      simp [notKey]
    · simp [same]

theorem lookup_del : (del dict k).lookup k' = if k' = k then none else dict.lookup k' := by
  induction dict with
  | nil => simp [del]
  | cons pair rest ih =>
      obtain ⟨key, value⟩ := pair
      unfold del at ih ⊢
      rw [lookup_cons_eq]
      by_cases here : key = k
      · subst here
        rw [List.filter_cons_of_neg (by simp), ih]
        by_cases same : k' = key <;> simp [same]
      · rw [List.filter_cons_of_pos (by simpa using here), lookup_cons_eq, ih]
        by_cases same : k' = key
        · simp [same, here]
        · simp [same]

/-- A new key comes last. -/
theorem set_of_absent (absent : k ∉ dict.map Prod.fst) : set dict k v = dict ++ [(k, v)] := by
  unfold set assign
  rw [if_neg]
  intro present
  obtain ⟨pair, member, same⟩ := List.any_eq_true.mp present
  exact absent (List.mem_map.mpr ⟨pair, member, of_decide_eq_true same⟩)

/-- A key gets the value that it has. -/
theorem set_of_mem (nodup : (dict.map Prod.fst).Nodup) (member : (k, v) ∈ dict) :
    set dict k v = dict := by
  unfold set assign
  rw [if_pos (List.any_eq_true.mpr ⟨(k, v), member, decide_eq_true rfl⟩)]
  conv_rhs => rw [← List.map_id dict]
  refine List.map_congr_left fun pair listed => ?_
  split
  next same =>
    have eq := List.inj_on_of_nodup_map nodup listed member same
    rw [eq]
    rfl
  next => rfl

theorem set_ne_nil {entries : List (κ × α)} {k : κ} {v : α} : set entries k v ≠ [] := by
  intro isNil
  have found := @lookup_set _ _ _ entries k k v
  rw [isNil, if_pos rfl] at found
  cases found

/-- What is set last stays. -/
theorem set_set {v' : β} : set (set dict k v) k v' = set dict k v' := by
  unfold set assign
  by_cases present : dict.any fun pair => pair.1 = k
  · have again : (dict.map fun pair => if pair.1 = k then (k, v) else pair).any
        (fun pair => pair.1 = k) = true := by
      obtain ⟨pair, member, same⟩ := List.any_eq_true.mp present
      refine List.any_eq_true.mpr ⟨_, List.mem_map_of_mem member, ?_⟩
      rw [if_pos (of_decide_eq_true same)]
      exact decide_eq_true rfl
    rw [if_pos present, if_pos present, if_pos again, List.map_map]
    refine List.map_congr_left fun pair _ => ?_
    by_cases same : pair.1 = k <;> simp [same]
  · have absent : ∀ pair ∈ dict, pair.1 ≠ k := by
      intro pair member same
      exact present (List.any_eq_true.mpr ⟨pair, member, decide_eq_true same⟩)
    have unchanged : dict.map (fun pair => if pair.1 = k then (k, v') else pair) = dict := by
      conv_rhs => rw [← List.map_id dict]
      refine List.map_congr_left fun pair member => ?_
      rw [if_neg (absent pair member)]
      rfl
    rw [if_neg present, if_neg present, if_pos (by simp), List.map_append, unchanged]
    simp

theorem mem_of_mem_set {pair : κ × β} (member : pair ∈ set dict k v) : pair ∈ dict ∨ pair = (k, v) :=
  mem_of_mem_assign member

theorem map_fst_set : (set dict k v).map Prod.fst =
    if k ∈ dict.map Prod.fst then dict.map Prod.fst else dict.map Prod.fst ++ [k] := by
  by_cases present : k ∈ dict.map Prod.fst
  · obtain ⟨pair, member, same⟩ := List.mem_map.mp present
    have any : dict.any (fun pair => pair.1 = k) = true :=
      List.any_eq_true.mpr ⟨pair, member, decide_eq_true same⟩
    rw [if_pos present, set, assign, if_pos any, List.map_map]
    refine List.map_congr_left fun pair _ => ?_
    rw [Function.comp_apply]
    split
    next same => exact same.symm
    next => rfl
  · rw [set_of_absent present, if_neg present, List.map_append]
    rfl

theorem nodup_set (nodup : (dict.map Prod.fst).Nodup) : ((set dict k v).map Prod.fst).Nodup := by
  rw [map_fst_set]
  split
  next => exact nodup
  next absent => exact List.nodup_append.mpr ⟨nodup, List.nodup_singleton k, by
    rintro key member _ only rfl
    rw [List.mem_singleton.mp only] at member
    exact absent member⟩

theorem nodup_del (nodup : (dict.map Prod.fst).Nodup) : ((del dict k).map Prod.fst).Nodup :=
  nodup.sublist (List.filter_sublist.map Prod.fst)

theorem mem_iff_lookup (nodup : (dict.map Prod.fst).Nodup) :
    (k, v) ∈ dict ↔ dict.lookup k = some v := by
  induction dict with
  | nil => simp
  | cons pair rest ih =>
      obtain ⟨key, value⟩ := pair
      rw [List.map_cons, List.nodup_cons] at nodup
      rw [List.mem_cons, lookup_cons_eq, ih nodup.2]
      by_cases same : k = key
      · subst same
        have absent : rest.lookup k = none := by
          rw [List.lookup_eq_none_iff]
          intro pair member
          rw [bne_iff_ne]
          rintro rfl
          exact nodup.1 (List.mem_map.mpr ⟨pair, member, rfl⟩)
        simp [absent, eq_comm]
      · simp [same]

/-- A pair of the dictionary is what its key holds. -/
theorem mem_of_lookup (found : dict.lookup k = some v) : (k, v) ∈ dict := by
  induction dict with
  | nil => cases found
  | cons pair rest ih =>
      obtain ⟨key, value⟩ := pair
      rw [lookup_cons_eq] at found
      split at found
      next same =>
        cases found
        rw [same]
        exact List.mem_cons_self
      next => exact List.mem_cons_of_mem _ (ih found)

end Pairs

end OrderedDict
