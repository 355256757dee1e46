import Mathlib.Data.List.Nodup

/-! Insertion-ordered Python dictionaries: a list of entries whose keys are pairwise distinct. -/

namespace QiskitRuntime.Python

variable {κ ν : Type} [DecidableEq κ]

def setEntry (k : κ) (v : ν) : List (κ × ν) → List (κ × ν)
  | [] => [(k, v)]
  | (k', v') :: rest => if k' = k then (k, v) :: rest else (k', v') :: setEntry k v rest

def eraseEntry (k : κ) : List (κ × ν) → List (κ × ν)
  | [] => []
  | (k', v') :: rest => if k' = k then rest else (k', v') :: eraseEntry k rest

def lookupEntry (k : κ) : List (κ × ν) → Option ν
  | [] => none
  | (k', v') :: rest => if k' = k then some v' else lookupEntry k rest

theorem setEntry_keys (k : κ) (v : ν) (l : List (κ × ν)) :
    (setEntry k v l).map Prod.fst =
      if k ∈ l.map Prod.fst then l.map Prod.fst else l.map Prod.fst ++ [k] := by
  induction l with
  | nil => rfl
  | cons e rest ih =>
    obtain ⟨k', v'⟩ := e
    by_cases h : k' = k
    · simp [setEntry, h]
    · by_cases hk : k ∈ rest.map Prod.fst <;> simp_all [setEntry, eq_comm]

theorem eraseEntry_keys (k : κ) (l : List (κ × ν)) :
    (eraseEntry k l).map Prod.fst = (l.map Prod.fst).erase k := by
  induction l with
  | nil => rfl
  | cons e rest ih =>
    obtain ⟨k', v'⟩ := e
    by_cases h : k' = k <;> simp [eraseEntry, h, List.erase_cons, ih]

theorem lookupEntry_setEntry (k k₀ : κ) (v : ν) (l : List (κ × ν)) :
    lookupEntry k₀ (setEntry k v l) = if k = k₀ then some v else lookupEntry k₀ l := by
  induction l with
  | nil => rfl
  | cons e rest ih =>
    obtain ⟨k', v'⟩ := e
    by_cases h : k' = k
    · subst h; by_cases h₀ : k' = k₀ <;> simp [setEntry, lookupEntry, h₀]
    · by_cases h₀ : k' = k₀
      · subst h₀; simp [setEntry, lookupEntry, h, Ne.symm h]
      · simp [setEntry, lookupEntry, h, h₀, ih]

theorem setEntry_comm {k k' : κ} (v v' : ν) {l : List (κ × ν)} (hk : k ∈ l.map Prod.fst)
    (hne : k ≠ k') : setEntry k' v' (setEntry k v l) = setEntry k v (setEntry k' v' l) := by
  induction l with
  | nil => cases hk
  | cons e rest ih =>
    obtain ⟨a, b⟩ := e
    by_cases ha : a = k
    · subst ha; simp [setEntry, hne]
    · by_cases ha' : a = k'
      · subst ha'; simp [setEntry, Ne.symm hne]
      · simp only [List.map_cons, List.mem_cons, Ne.symm ha, false_or] at hk
        simp [setEntry, ha, ha', ih hk]

theorem eraseEntry_setEntry {k k' : κ} (v : ν) (l : List (κ × ν)) (hne : k ≠ k') :
    eraseEntry k' (setEntry k v l) = setEntry k v (eraseEntry k' l) := by
  induction l with
  | nil => simp [setEntry, eraseEntry, hne]
  | cons e rest ih =>
    obtain ⟨a, b⟩ := e
    by_cases ha : a = k
    · subst ha; simp [setEntry, eraseEntry, hne]
    · by_cases ha' : a = k'
      · subst ha'; simp [setEntry, eraseEntry, ha]
      · simp [setEntry, eraseEntry, ha, ha', ih]

theorem lookupEntry_eq_none (k : κ) (l : List (κ × ν)) (h : k ∉ l.map Prod.fst) :
    lookupEntry k l = none := by
  induction l with
  | nil => rfl
  | cons e rest ih =>
    simp only [List.map_cons, List.mem_cons, not_or] at h
    simp [lookupEntry, Ne.symm h.1, ih h.2]

theorem lookupEntry_eraseEntry (k k₀ : κ) (l : List (κ × ν)) (hl : (l.map Prod.fst).Nodup) :
    lookupEntry k₀ (eraseEntry k l) = if k = k₀ then none else lookupEntry k₀ l := by
  induction l with
  | nil => simp [eraseEntry, lookupEntry]
  | cons e rest ih =>
    obtain ⟨k', v'⟩ := e
    simp only [List.map_cons, List.nodup_cons] at hl
    by_cases h : k' = k
    · subst h
      by_cases h₀ : k' = k₀
      · subst h₀; simp [eraseEntry, lookupEntry_eq_none k' rest hl.1]
      · simp [eraseEntry, lookupEntry, h₀]
    · by_cases h₀ : k' = k₀
      · subst h₀; simp [eraseEntry, lookupEntry, h, Ne.symm h]
      · simp [eraseEntry, lookupEntry, h, h₀, ih hl.2]

theorem lookupEntry_of_mem {k : κ} {v : ν} {l : List (κ × ν)} (hl : (l.map Prod.fst).Nodup)
    (h : (k, v) ∈ l) : lookupEntry k l = some v := by
  induction l with
  | nil => cases h
  | cons e rest ih =>
    obtain ⟨k', v'⟩ := e
    simp only [List.map_cons, List.nodup_cons] at hl
    rcases List.mem_cons.1 h with h | h
    · cases h
      simp [lookupEntry]
    · have hne : k' ≠ k := fun e => hl.1 (e ▸ List.mem_map_of_mem Prod.fst h)
      simp [lookupEntry, hne, ih hl.2 h]

theorem mem_of_lookupEntry {k : κ} {v : ν} {l : List (κ × ν)} (h : lookupEntry k l = some v) :
    (k, v) ∈ l := by
  induction l with
  | nil => cases h
  | cons e rest ih =>
    obtain ⟨k', v'⟩ := e
    by_cases hk : k' = k
    · simp only [lookupEntry, hk, if_true, Option.some.injEq] at h
      simp [hk, h]
    · simp only [lookupEntry, hk, if_false] at h
      exact List.mem_cons_of_mem _ (ih h)

/-- A Python `dict`: entries in insertion order, each key once. -/
structure PyDict (κ ν : Type) where
  entries : List (κ × ν)
  nodup : (entries.map Prod.fst).Nodup

namespace PyDict

def empty : PyDict κ ν := ⟨[], List.nodup_nil⟩

def keys (d : PyDict κ ν) : List κ := d.entries.map Prod.fst

def values (d : PyDict κ ν) : List ν := d.entries.map Prod.snd

/-- `d.get(k)`, and `d[k]` when the key is present. -/
def get? (d : PyDict κ ν) (k : κ) : Option ν := lookupEntry k d.entries

def contains (d : PyDict κ ν) (k : κ) : Bool := (d.get? k).isSome

/-- `d[k] = v`: an existing key keeps its position, a new key goes last. -/
def set (d : PyDict κ ν) (k : κ) (v : ν) : PyDict κ ν where
  entries := setEntry k v d.entries
  nodup := by
    rw [setEntry_keys]
    split
    · exact d.nodup
    · exact List.nodup_append.2 ⟨d.nodup, List.nodup_singleton k, List.disjoint_singleton.2 ‹_›⟩

def erase (d : PyDict κ ν) (k : κ) : PyDict κ ν where
  entries := eraseEntry k d.entries
  nodup := by rw [eraseEntry_keys]; exact d.nodup.erase k

/-- `d.update(other)`: the entries of `other` are written in its order. -/
def update (d other : PyDict κ ν) : PyDict κ ν :=
  other.entries.foldl (fun acc e => acc.set e.1 e.2) d

/-- A dict literal `{k₁: v₁, ...}`, built by writing its entries in order. -/
def ofList (l : List (κ × ν)) : PyDict κ ν := l.foldl (fun acc e => acc.set e.1 e.2) empty

@[simp] theorem get?_empty (k : κ) : (empty : PyDict κ ν).get? k = none := rfl

@[simp] theorem get?_set (d : PyDict κ ν) (k k₀ : κ) (v : ν) :
    (d.set k v).get? k₀ = if k = k₀ then some v else d.get? k₀ :=
  lookupEntry_setEntry k k₀ v d.entries

@[simp] theorem get?_erase (d : PyDict κ ν) (k k₀ : κ) :
    (d.erase k).get? k₀ = if k = k₀ then none else d.get? k₀ :=
  lookupEntry_eraseEntry k k₀ d.entries d.nodup

theorem mem_of_get? {d : PyDict κ ν} {k : κ} {v : ν} (h : d.get? k = some v) : (k, v) ∈ d.entries :=
  mem_of_lookupEntry h

theorem get?_of_mem (d : PyDict κ ν) {k : κ} {v : ν} (h : (k, v) ∈ d.entries) : d.get? k = some v :=
  lookupEntry_of_mem d.nodup h

omit [DecidableEq κ] in
theorem ext_entries {d d' : PyDict κ ν} (h : d.entries = d'.entries) : d = d' := by
  cases d; cases d'; cases h; rfl

theorem set_comm {d : PyDict κ ν} {k k' : κ} {w : ν} (hk : d.get? k = some w) (hne : k ≠ k') (v v' : ν) :
    (d.set k v).set k' v' = (d.set k' v').set k v :=
  ext_entries (setEntry_comm v v' (List.mem_map_of_mem Prod.fst (mem_of_get? hk)) hne)

theorem erase_set_comm (d : PyDict κ ν) {k k' : κ} (hne : k ≠ k') (v : ν) :
    (d.set k v).erase k' = (d.erase k').set k v :=
  ext_entries (eraseEntry_setEntry v d.entries hne)

theorem get?_update (d other : PyDict κ ν) (k : κ) :
    (d.update other).get? k = (other.get? k).or (d.get? k) := by
  obtain ⟨l, hl⟩ := other
  change (l.foldl (fun acc e => acc.set e.1 e.2) d).get? k = (lookupEntry k l).or (d.get? k)
  induction l generalizing d with
  | nil => rfl
  | cons e rest ih =>
    obtain ⟨k', v'⟩ := e
    simp only [List.map_cons, List.nodup_cons] at hl
    rw [List.foldl_cons, ih _ hl.2, get?_set]
    by_cases h : k' = k
    · subst h; simp [lookupEntry, lookupEntry_eq_none k' rest hl.1]
    · simp [lookupEntry, h]

theorem get?_ofList {l : List (κ × ν)} (hl : (l.map Prod.fst).Nodup) (k : κ) :
    (ofList l).get? k = lookupEntry k l :=
  (get?_update empty ⟨l, hl⟩ k).trans Option.or_none

end PyDict

end QiskitRuntime.Python
