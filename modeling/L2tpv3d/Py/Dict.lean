import Mathlib.Data.List.Nodup
import Mathlib.Data.List.Lemmas

/-!
# Py — insertion-ordered dictionaries

A Python `dict` is a finite map that remembers the order in which its keys were first
inserted: assigning to a present key keeps its place, a new key goes to the end, deleting
a key closes the gap. `Dict κ ν` is the list of items in that order, with the fact that no
key occurs twice carried in the structure.

* `get?_set`, `get?_erase` — what `get?` returns after each operation.
* `mem_items_iff`, `mem_keys_iff`, `contains_iff` — the items and the keys, told by `get?`.
* `items_foldl_set` — assignments one after the other under new keys append their items.
* `total` — a measure summed over the values, and what the operations do to the sum.
-/

namespace Py

/-- A Python `dict`: its items in insertion order, no key twice. -/
structure Dict (κ ν : Type) where
  items : List (κ × ν)
  nodup : (items.map Prod.fst).Nodup

namespace Dict

variable {κ ν : Type}

/-- A dictionary is its list of items. -/
@[ext] theorem ext {d e : Dict κ ν} (h : d.items = e.items) : d = e := by
  cases d; cases e; cases h; rfl

/-- `{}` -/
def empty : Dict κ ν := ⟨[], List.nodup_nil⟩

/-- The keys in iteration order. -/
def keys (d : Dict κ ν) : List κ := d.items.map Prod.fst

/-- `len(d)` -/
def size (d : Dict κ ν) : Nat := d.items.length

variable [DecidableEq κ]

/-- `d.get(k)` on a list of items. -/
def lookup (k : κ) : List (κ × ν) → Option ν
  | [] => none
  | (k', v) :: rest => if k' = k then some v else lookup k rest

/-- `d.get(k)` -/
def get? (d : Dict κ ν) (k : κ) : Option ν := lookup k d.items

/-- `k in d` -/
def contains (d : Dict κ ν) (k : κ) : Bool := (d.get? k).isSome

/-- Assignment on a list of items: in place, or at the end. -/
def assign (k : κ) (v : ν) : List (κ × ν) → List (κ × ν)
  | [] => [(k, v)]
  | (k', v') :: rest => if k' = k then (k, v) :: rest else (k', v') :: assign k v rest

/-- The keys after an assignment: unchanged, or the new key at the end. -/
theorem assign_keys (k : κ) (v : ν) (l : List (κ × ν)) :
    (assign k v l).map Prod.fst =
      if k ∈ l.map Prod.fst then l.map Prod.fst else l.map Prod.fst ++ [k] := by
  induction l with
  | nil => rfl
  | cons kv l ih =>
    obtain ⟨k', v'⟩ := kv
    by_cases h : k' = k
    · simp [assign, h]
    · simp only [assign, h, if_false, List.map_cons, ih, List.mem_cons, Ne.symm h, false_or]
      split <;> rfl

/-- `d[k] = v` -/
def set (d : Dict κ ν) (k : κ) (v : ν) : Dict κ ν where
  items := assign k v d.items
  nodup := by
    rw [assign_keys]
    split
    · exact d.nodup
    · rename_i h
      exact List.nodup_append.mpr
        ⟨d.nodup, by simp, fun a ha b hb => by rintro rfl; simp at hb; exact h (hb ▸ ha)⟩

/-- `d.pop(k)`, `del d[k]` -/
def erase (d : Dict κ ν) (k : κ) : Dict κ ν where
  items := d.items.filter (fun kv => kv.1 ≠ k)
  nodup := d.nodup.sublist (List.filter_sublist.map Prod.fst)

/-! ## Lookup

What `get?` returns after each operation. The lemmas about lists of items are inductions on the
list, and stay below the structure; those about dictionaries are the ones that later modules use. -/

/-- The empty dictionary has no key. -/
@[simp] theorem get?_empty (k : κ) : (empty : Dict κ ν).get? k = none := rfl

/-- Reading a list of items after an assignment. The induction is on the list: the key is found
where it stands, or at the end. -/
theorem lookup_assign (k k' : κ) (v : ν) (l : List (κ × ν)) :
    lookup k' (assign k v l) = if k = k' then some v else lookup k' l := by
  induction l with
  | nil => rfl
  | cons kv l ih =>
    obtain ⟨k₀, v₀⟩ := kv
    -- the assignment happens here, or further down
    by_cases h : k₀ = k
    · subst h; by_cases h' : k₀ = k' <;> simp [assign, lookup, h']
    · by_cases h' : k₀ = k'
      · subst h'; simp [assign, lookup, h, Ne.symm h]
      · simp [assign, lookup, h, h', ih]

/-- Reading after an assignment. -/
theorem get?_set (d : Dict κ ν) (k k' : κ) (v : ν) :
    (d.set k v).get? k' = if k = k' then some v else d.get? k' :=
  lookup_assign k k' v d.items

@[simp] theorem get?_set_self (d : Dict κ ν) (k : κ) (v : ν) : (d.set k v).get? k = some v := by
  simp [get?_set]

/-- Assigning the value that a key has already rewrites its item in place by itself. -/
theorem assign_of_lookup {k : κ} {v : ν} {l : List (κ × ν)} (h : lookup k l = some v) :
    assign k v l = l := by
  induction l with
  | nil => cases h
  | cons e l ih =>
    obtain ⟨k', v'⟩ := e
    rw [lookup] at h
    rw [assign]
    split at h
    · rename_i hk
      cases h
      rw [if_pos hk, hk]
    · rename_i hk
      rw [if_neg hk, ih h]

/-- Writing what is there changes nothing. -/
theorem set_of_get? {d : Dict κ ν} {k : κ} {v : ν} (h : d.get? k = some v) : d.set k v = d :=
  ext (assign_of_lookup h)

/-- A new key goes to the end, past all items that are there. -/
theorem assign_of_notMem {k : κ} {v : ν} {l : List (κ × ν)} (h : k ∉ l.map Prod.fst) :
    assign k v l = l ++ [(k, v)] := by
  induction l with
  | nil => rfl
  | cons e l ih =>
    obtain ⟨k', v'⟩ := e
    simp only [List.map_cons, List.mem_cons, not_or] at h
    rw [assign, if_neg (Ne.symm h.1), ih h.2]
    rfl

/-- The second of two assignments under one key finds the item of the first. -/
theorem assign_assign (k : κ) (v v' : ν) (l : List (κ × ν)) :
    assign k v' (assign k v l) = assign k v' l := by
  induction l with
  | nil => simp [assign]
  | cons e l ih =>
    obtain ⟨k₀, v₀⟩ := e
    by_cases h : k₀ = k
    · simp [assign, h]
    · simp [assign, h, ih]

/-- The later of two assignments under one key. -/
theorem set_set (d : Dict κ ν) (k : κ) (v v' : ν) : (d.set k v).set k v' = d.set k v' :=
  ext (assign_assign k v v' d.items)

/-- An assignment under a new key. -/
theorem items_set_of_notMem {d : Dict κ ν} {k : κ} (v : ν) (h : k ∉ d.keys) :
    (d.set k v).items = d.items ++ [(k, v)] :=
  assign_of_notMem h

/-- A table filled under distinct keys holds every value, in the order of the filling. -/
theorem items_foldl_set {ι : Type} (key : ι → κ) (val : ι → ν) (xs : List ι) (d : Dict κ ν)
    (hnd : (xs.map key).Nodup) (hfree : ∀ x ∈ xs, key x ∉ d.keys) :
    (xs.foldl (fun d x => d.set (key x) (val x)) d).items
      = d.items ++ xs.map fun x => (key x, val x) := by
  induction xs generalizing d with
  | nil => simp
  | cons x xs ih =>
    obtain ⟨hx, hxs⟩ := List.nodup_cons.mp hnd
    have hitems := items_set_of_notMem (val x) (hfree x List.mem_cons_self)
    rw [List.foldl_cons, ih _ hxs, hitems]
    · simp
    -- the keys that are still to come are free after the first assignment too, for they differ from
    -- its key
    · intro y hy
      rw [keys, hitems, List.map_append, List.mem_append, not_or]
      refine ⟨hfree y (List.mem_cons_of_mem x hy), ?_⟩
      rw [List.map_singleton, List.mem_singleton]
      intro heq
      have hmem : key y ∈ xs.map key := List.mem_map_of_mem hy
      rw [heq] at hmem
      exact hx hmem

/-- Reading a list of items after the items of a key were taken out. -/
theorem lookup_filter_ne (k k' : κ) (l : List (κ × ν)) :
    lookup k' (l.filter (fun kv => kv.1 ≠ k)) = if k = k' then none else lookup k' l := by
  induction l with
  | nil => simp [lookup]
  | cons kv l ih =>
    obtain ⟨k₀, v₀⟩ := kv
    -- the first item goes, or it stays
    by_cases h : k₀ = k
    · subst h
      rw [List.filter_cons_of_neg (by simp), ih]
      by_cases h' : k₀ = k' <;> simp [lookup, h']
    · rw [List.filter_cons_of_pos (by simpa using h)]
      by_cases h' : k₀ = k'
      · subst h'; simp [lookup, Ne.symm h]
      · simp only [lookup, h', if_false]; exact ih

/-- Reading after a deletion. -/
theorem get?_erase (d : Dict κ ν) (k k' : κ) :
    (d.erase k).get? k' = if k = k' then none else d.get? k' :=
  lookup_filter_ne k k' d.items

/-- What is read from a list of items stands in it. -/
theorem mem_of_lookup {k : κ} {v : ν} {l : List (κ × ν)} (h : lookup k l = some v) :
    (k, v) ∈ l := by
  induction l with
  | nil => simp [lookup] at h
  | cons kv l ih =>
    obtain ⟨k₀, v₀⟩ := kv
    by_cases hk : k₀ = k
    · subst hk; simp [lookup] at h; subst h; exact List.mem_cons_self
    · simp [lookup, hk] at h; exact List.mem_cons_of_mem _ (ih h)

/-- What is read from a dictionary is one of its items. -/
theorem mem_items_of_get? {d : Dict κ ν} {k : κ} {v : ν} (h : d.get? k = some v) :
    (k, v) ∈ d.items := mem_of_lookup h

/-- An item is what is read under its key, since no other item has that key. -/
theorem lookup_of_mem {k : κ} {v : ν} {l : List (κ × ν)} (hnd : (l.map Prod.fst).Nodup)
    (h : (k, v) ∈ l) : lookup k l = some v := by
  induction l with
  | nil => cases h
  | cons kv l ih =>
    obtain ⟨k₀, v₀⟩ := kv
    rw [List.map_cons, List.nodup_cons] at hnd
    rcases List.mem_cons.mp h with heq | hmem
    · cases heq; simp [lookup]
    -- the first item has another key, or the key would stand twice
    · have hne : k₀ ≠ k := by
        rintro rfl
        exact hnd.1 (List.mem_map.mpr ⟨(k₀, v), hmem, rfl⟩)
      simp [lookup, hne, ih hnd.2 hmem]

/-- Items and lookup agree. -/
theorem mem_items_iff {d : Dict κ ν} {k : κ} {v : ν} : (k, v) ∈ d.items ↔ d.get? k = some v :=
  ⟨lookup_of_mem d.nodup, mem_of_lookup⟩

/-- The keys are those that have a value. -/
theorem mem_keys_iff {d : Dict κ ν} {k : κ} : k ∈ d.keys ↔ ∃ v, d.get? k = some v := by
  constructor
  · intro h
    obtain ⟨⟨_, v⟩, hmem, rfl⟩ := List.mem_map.mp h
    exact ⟨v, mem_items_iff.mp hmem⟩
  · rintro ⟨v, hv⟩
    exact List.mem_map.mpr ⟨(k, v), mem_items_iff.mpr hv, rfl⟩

/-- `k in d` says that the key has a value. -/
theorem contains_iff {d : Dict κ ν} {k : κ} : d.contains k = true ↔ ∃ v, d.get? k = some v := by
  simp [contains, Option.isSome_iff_exists]

/-! ## Size

The loops over a dictionary that shrinks need a measure. Besides the number of the items there is a
sum over their values, which bounds what an event costs. -/

/-- An assignment adds its key, and no other. -/
theorem contains_set {d : Dict κ ν} {k k' : κ} {v : ν} :
    (d.set k v).contains k' = true ↔ k' = k ∨ d.contains k' = true := by
  rw [contains, get?_set, contains]
  by_cases h : k = k'
  · simp [h]
  · rw [if_neg h]
    exact ⟨.inr, fun h' => h'.resolve_left fun heq => h heq.symm⟩

/-- A deletion removes its key, and no other. -/
theorem contains_erase {d : Dict κ ν} {k k' : κ} :
    (d.erase k).contains k' = true ↔ d.contains k' = true ∧ k' ≠ k := by
  rw [contains, get?_erase, contains]
  by_cases h : k = k'
  · simp [h]
  · rw [if_neg h]
    exact ⟨fun h' => ⟨h', fun heq => h heq.symm⟩, And.left⟩

/-- Deleting a present key makes the dictionary smaller. -/
theorem size_erase_lt {d : Dict κ ν} {k : κ} (h : d.contains k = true) :
    (d.erase k).size < d.size := by
  obtain ⟨v, hv⟩ := contains_iff.mp h
  have hmem : (k, v) ∈ d.items := mem_items_of_get? hv
  exact List.length_filter_lt_length_iff_exists.mpr ⟨(k, v), hmem, by simp⟩

/-- An assignment under a present key. -/
theorem size_set {d : Dict κ ν} {k : κ} {v v' : ν} (h : d.get? k = some v) :
    (d.set k v').size = d.size := by
  have hmem : k ∈ d.items.map Prod.fst := mem_keys_iff.mpr ⟨v, h⟩
  have hkeys := congrArg List.length (assign_keys k v' d.items)
  rw [if_pos hmem, List.length_map, List.length_map] at hkeys
  exact hkeys

/-- A quantity summed over the values of a list of items. -/
def sumOver (f : ν → Nat) : List (κ × ν) → Nat
  | [] => 0
  | (_, v) :: rest => f v + sumOver f rest

/-- A quantity summed over the values. -/
def total (f : ν → Nat) (d : Dict κ ν) : Nat := sumOver f d.items

/-- An assignment adds at most the value assigned. -/
theorem total_set_le (f : ν → Nat) (d : Dict κ ν) (k : κ) (v : ν) :
    (d.set k v).total f ≤ d.total f + f v := by
  -- over the list of items: where the key stands its value is replaced, else it is added at the end
  have hassign : ∀ l : List (κ × ν), sumOver f (assign k v l) ≤ sumOver f l + f v := by
    intro l
    induction l with
    | nil => simp [assign, sumOver]
    | cons item l ih =>
      obtain ⟨k', v'⟩ := item
      rw [assign]
      split
      · simp only [sumOver]
        omega
      · simp only [sumOver]
        omega
  exact hassign d.items

/-- A deletion takes away what was there. -/
theorem total_erase_add_le (f : ν → Nat) {d : Dict κ ν} {k : κ} {v : ν} (h : d.get? k = some v) :
    (d.erase k).total f + f v ≤ d.total f := by
  -- taking items out makes no sum larger
  have hfilter : ∀ l : List (κ × ν), sumOver f (l.filter fun item => item.1 ≠ k) ≤ sumOver f l := by
    intro l
    induction l with
    | nil => exact Nat.le_refl _
    | cons item l ih =>
      rw [List.filter_cons]
      split
      · simp only [sumOver]
        omega
      · simp only [sumOver]
        omega
  -- the item that is read is taken out; the others are left to the first part
  have hlookup : ∀ l : List (κ × ν), lookup k l = some v →
      sumOver f (l.filter fun item => item.1 ≠ k) + f v ≤ sumOver f l := by
    intro l
    induction l with
    | nil => simp [lookup]
    | cons item l ih =>
      obtain ⟨k', v'⟩ := item
      rw [lookup]
      split
      · rename_i hk
        rintro ⟨⟩
        rw [List.filter_cons_of_neg (by simpa using hk), sumOver, Nat.add_comm]
        exact Nat.add_le_add_left (hfilter l) _
      · rename_i hk
        intro hl
        have hrest := ih hl
        rw [List.filter_cons_of_pos (by simpa using hk), sumOver, sumOver]
        omega
  exact hlookup d.items h

omit [DecidableEq κ] in
/-- A quantity that is bounded, summed over the values. -/
theorem total_le {f : ν → Nat} {c : Nat} (h : ∀ v, f v ≤ c) (d : Dict κ ν) :
    d.total f ≤ c * d.size := by
  have hitems : ∀ l : List (κ × ν), sumOver f l ≤ c * l.length := by
    intro l
    induction l with
    | nil => exact Nat.zero_le _
    | cons item l ih =>
      have hv := h item.2
      rw [sumOver, List.length_cons, Nat.mul_succ]
      omega
  exact hitems d.items

end Dict

instance {κ ν : Type} [DecidableEq κ] [DecidableEq ν] : DecidableEq (Dict κ ν) := fun d e =>
  decidable_of_iff (d.items = e.items) ⟨Dict.ext, fun h => h ▸ rfl⟩

end Py
