/-
Python's `dict` as the tool uses it: insertion-ordered entries under
distinct keys. Distinctness is a field of `Dict`, so a map with a repeated
key cannot be built, and every later statement about "the test named `t`"
refers to exactly one entry.

Assigning to a present key keeps its position (`set`), iteration is over
`entries` in insertion order, and `in` is `contains`.
-/
import Mathlib.Data.List.Nodup
import Mathlib.Data.List.Perm.Basic

namespace CodeDiff

/-- A Python `dict`: entries in insertion order, keys pairwise distinct. -/
structure Dict (α β : Type) where
  entries : List (α × β)
  nodup : (entries.map Prod.fst).Nodup

namespace Dict

variable {α β : Type}

/-- `{}`. -/
def empty : Dict α β := ⟨[], List.nodup_nil⟩

/-- The keys, in insertion order. -/
def keys (d : Dict α β) : List α := d.entries.map Prod.fst

@[simp] theorem keys_empty : (empty : Dict α β).keys = [] := rfl

/-- Two dicts with the same entries are equal: distinctness is a proof. -/
@[ext] theorem ext {d d' : Dict α β} (h : d.entries = d'.entries) : d = d' := by
  cases d; cases d'; subst h; rfl

variable [DecidableEq α]

instance [DecidableEq β] : DecidableEq (Dict α β) := fun a b =>
  decidable_of_iff (a.entries = b.entries) <| by
    cases a; cases b; simp

/-- The value under a key in an entry list. -/
def lookup (k : α) : List (α × β) → Option β
  | [] => none
  | (k', v) :: rest => if k' = k then some v else lookup k rest

/-- `d.get(k)`: the value under `k`, if present. -/
def get? (d : Dict α β) (k : α) : Option β := lookup k d.entries

/-- `k in d`. -/
def contains (d : Dict α β) (k : α) : Bool := decide (k ∈ d.keys)

/-- Replace the value of a present key in place. -/
def replace (k : α) (v : β) : List (α × β) → List (α × β)
  | [] => []
  | (j, w) :: es => (if j = k then (k, v) else (j, w)) :: replace k v es

theorem replace_keys (k : α) (v : β) (es : List (α × β)) :
    (replace k v es).map Prod.fst = es.map Prod.fst := by
  induction es with
  | nil => rfl
  | cons p es ih =>
      obtain ⟨j, w⟩ := p
      by_cases h : j = k <;> simp [replace, h, ih]

/-- `d[k] = v`: a present key keeps its position, a new one goes last. -/
def set (d : Dict α β) (k : α) (v : β) : Dict α β :=
  if h : k ∈ d.keys then
    ⟨replace k v d.entries, by rw [replace_keys]; exact d.nodup⟩
  else
    ⟨d.entries ++ [(k, v)], by
      simp only [List.map_append, List.map_cons, List.map_nil]
      exact List.nodup_append.2 ⟨d.nodup, List.nodup_singleton _,
        List.disjoint_singleton.2 h⟩⟩

-- ===================================================== lemmas

@[simp] theorem get?_empty (k : α) : (empty : Dict α β).get? k = none := rfl

theorem lookup_eq_none {k : α} {es : List (α × β)} :
    lookup k es = none ↔ k ∉ es.map Prod.fst := by
  induction es with
  | nil => simp [lookup]
  | cons p es ih =>
      obtain ⟨k', v⟩ := p
      by_cases h : k' = k
      · simp [lookup, h]
      · simp only [lookup, h, if_false, ih, List.map_cons, List.mem_cons, not_or]
        exact ⟨fun hk => ⟨Ne.symm h, hk⟩, And.right⟩

theorem lookup_eq_some_iff {k : α} {v : β} : ∀ {es : List (α × β)}, (es.map Prod.fst).Nodup →
    (lookup k es = some v ↔ (k, v) ∈ es)
  | [], _ => by simp [lookup]
  | (k', v') :: es, h => by
      rw [List.map_cons, List.nodup_cons] at h
      by_cases hk : k' = k
      · subst hk
        have : (k', v) ∉ es := fun hm => h.1 (List.mem_map.2 ⟨_, hm, rfl⟩)
        simp [lookup, this, eq_comm]
      · simp [lookup, hk, lookup_eq_some_iff h.2, Ne.symm hk]

/-- Under distinct keys an entry is exactly a lookup's result. -/
theorem mem_entries_iff {d : Dict α β} {k : α} {v : β} : (k, v) ∈ d.entries ↔ d.get? k = some v :=
  (lookup_eq_some_iff d.nodup).symm

theorem get?_eq_none {d : Dict α β} {k : α} : d.get? k = none ↔ k ∉ d.keys :=
  lookup_eq_none

theorem contains_iff {d : Dict α β} {k : α} : d.contains k = true ↔ k ∈ d.keys := by
  simp [contains]

theorem get?_isSome {d : Dict α β} {k : α} : (d.get? k).isSome ↔ k ∈ d.keys := by
  rw [← not_iff_not, Option.not_isSome_iff_eq_none, get?_eq_none]

theorem contains_eq_isSome (d : Dict α β) (k : α) : d.contains k = (d.get? k).isSome := by
  rw [Bool.eq_iff_iff, contains_iff, get?_isSome]

theorem get?_of_mem_keys {d : Dict α β} {k : α} (h : k ∈ d.keys) : ∃ v, d.get? k = some v :=
  Option.isSome_iff_exists.1 (get?_isSome.2 h)

theorem lookup_replace_ne {k k' : α} (v : β) (h : k ≠ k') (es : List (α × β)) :
    lookup k' (replace k v es) = lookup k' es := by
  induction es with
  | nil => rfl
  | cons p es ih =>
      obtain ⟨j, w⟩ := p
      show lookup k' ((if j = k then (k, v) else (j, w)) :: replace k v es) = _
      by_cases hj : j = k
      · rw [if_pos hj]
        simp [lookup, h, hj, ih]
      · rw [if_neg hj]
        simp [lookup, ih]

theorem lookup_replace_self (k : α) (v : β) (es : List (α × β))
    (h : k ∈ es.map Prod.fst) : lookup k (replace k v es) = some v := by
  induction es with
  | nil => simp at h
  | cons p es ih =>
      obtain ⟨j, w⟩ := p
      show lookup k ((if j = k then (k, v) else (j, w)) :: replace k v es) = _
      by_cases hj : j = k
      · rw [if_pos hj]
        simp [lookup]
      · have h' : k ∈ es.map Prod.fst := by
          simpa [Ne.symm hj] using h
        rw [if_neg hj]
        simp [lookup, hj, ih h']

theorem lookup_append_ne {k k' : α} (v : β) (h : k ≠ k') (es : List (α × β)) :
    lookup k' (es ++ [(k, v)]) = lookup k' es := by
  induction es with
  | nil => simp [lookup, h]
  | cons p es ih =>
      obtain ⟨j, w⟩ := p
      by_cases hj : j = k' <;> simp [lookup, hj, ih]

theorem lookup_append_self (k : α) (v : β) (es : List (α × β))
    (h : k ∉ es.map Prod.fst) : lookup k (es ++ [(k, v)]) = some v := by
  induction es with
  | nil => simp [lookup]
  | cons p es ih =>
      obtain ⟨j, w⟩ := p
      simp only [List.map_cons, List.mem_cons, not_or] at h
      simp [lookup, Ne.symm h.1, ih h.2]

@[simp] theorem get?_set (d : Dict α β) (k k' : α) (v : β) :
    (d.set k v).get? k' = if k = k' then some v else d.get? k' := by
  unfold set get?
  by_cases hk : k = k'
  · subst hk
    split
    · next h => simp [lookup_replace_self _ _ _ h]
    · next h => simp [lookup_append_self _ _ _ h]
  · split <;> simp [hk, lookup_replace_ne, lookup_append_ne]

theorem keys_set (d : Dict α β) (k : α) (v : β) :
    (d.set k v).keys = if k ∈ d.keys then d.keys else d.keys ++ [k] := by
  unfold set
  split
  · next h => simp only [keys] at h ⊢; simp [h, replace_keys]
  · next h => simp only [keys] at h ⊢; simp [h]

theorem entries_set_of_not_mem {d : Dict α β} {k : α} (v : β) (h : k ∉ d.keys) :
    (d.set k v).entries = d.entries ++ [(k, v)] := by
  simp [set, h]

theorem entries_set_of_mem {d : Dict α β} {k : α} (v : β) (h : k ∈ d.keys) :
    (d.set k v).entries = replace k v d.entries := by
  simp [set, h]

@[simp] theorem entries_set_empty (k : α) (v : β) :
    ((empty : Dict α β).set k v).entries = [(k, v)] :=
  entries_set_of_not_mem v (List.not_mem_nil k)

theorem replace_replace (k : α) (v w : β) (es : List (α × β)) :
    replace k w (replace k v es) = replace k w es := by
  induction es with
  | nil => rfl
  | cons p es ih =>
      obtain ⟨j, u⟩ := p
      show replace k w ((if j = k then (k, v) else (j, u)) :: replace k v es) =
        (if j = k then (k, w) else (j, u)) :: replace k w es
      by_cases h : j = k
      · rw [if_pos h, if_pos h]
        show (if k = k then (k, w) else (k, v)) :: _ = _
        rw [if_pos rfl, ih]
      · rw [if_neg h, if_neg h]
        show (if j = k then (k, w) else (j, u)) :: _ = _
        rw [if_neg h, ih]

theorem replace_append_self (k : α) (v w : β) {es : List (α × β)} (h : k ∉ es.map Prod.fst) :
    replace k w (es ++ [(k, v)]) = es ++ [(k, w)] := by
  induction es with
  | nil => simp [replace]
  | cons p es ih =>
      obtain ⟨j, u⟩ := p
      simp only [List.map_cons, List.mem_cons, not_or] at h
      simp [replace, Ne.symm h.1, ih h.2]

theorem mem_keys_set (d : Dict α β) (k k' : α) (v : β) :
    k' ∈ (d.set k v).keys ↔ k' = k ∨ k' ∈ d.keys := by
  rw [keys_set]
  split
  · next h => exact ⟨Or.inr, fun h' => h'.elim (· ▸ h) id⟩
  · simp [or_comm]

/-- A second assignment to the same key overrides the first. -/
theorem set_set (d : Dict α β) (k : α) (v w : β) : (d.set k v).set k w = d.set k w := by
  ext1
  have hk : k ∈ (d.set k v).keys := (mem_keys_set d k k v).2 (.inl rfl)
  rw [entries_set_of_mem w hk]
  by_cases h : k ∈ d.keys
  · rw [entries_set_of_mem v h, entries_set_of_mem w h, replace_replace]
  · rw [entries_set_of_not_mem v h, entries_set_of_not_mem w h, replace_append_self k v w h]

theorem replace_of_not_mem (k : α) (v : β) {es : List (α × β)} (h : k ∉ es.map Prod.fst) :
    replace k v es = es := by
  induction es with
  | nil => rfl
  | cons p es ih =>
      obtain ⟨j, w⟩ := p
      simp only [List.map_cons, List.mem_cons, not_or] at h
      simp [replace, Ne.symm h.1, ih h.2]

theorem replace_perm (k : α) (v : β) : ∀ {es : List (α × β)}, (es.map Prod.fst).Nodup →
    k ∈ es.map Prod.fst →
      List.Perm (replace k v es ++ ((lookup k es).map (k, ·)).toList) (es ++ [(k, v)])
  | [], _, h => by simp at h
  | (j, w) :: es, hn, hk => by
      rw [List.map_cons, List.nodup_cons] at hn
      by_cases hj : j = k
      · subst hj
        simp only [replace, if_pos, lookup, replace_of_not_mem j v hn.1, Option.map_some',
          Option.toList_some, List.cons_append]
        exact ((List.perm_append_singleton _ _).cons _).trans
          ((List.Perm.swap _ _ _).trans ((List.perm_append_singleton _ _).symm.cons _))
      · have hk' : k ∈ es.map Prod.fst := (List.mem_cons.1 hk).resolve_left (Ne.symm hj)
        simp only [replace, if_neg hj, lookup, List.cons_append]
        exact (replace_perm k v hn.2 hk').cons _

/-- Assigning to a key trades its old entry, if there is one, for the new
one: up to order, nothing else changes. -/
theorem entries_set_perm (d : Dict α β) (k : α) (v : β) :
    List.Perm ((d.set k v).entries ++ ((d.get? k).map (k, ·)).toList) (d.entries ++ [(k, v)]) := by
  by_cases h : k ∈ d.keys
  · rw [entries_set_of_mem v h]
    exact replace_perm k v d.nodup h
  · rw [entries_set_of_not_mem v h, get?_eq_none.2 h]
    simp

theorem mem_entries_set {d : Dict α β} {k : α} {v : β} {e : α × β} (he : e ∈ (d.set k v).entries) :
    e ∈ d.entries ∨ e = (k, v) := by
  simpa using (entries_set_perm d k v).subset (List.mem_append_left _ he)

end Dict

end CodeDiff
