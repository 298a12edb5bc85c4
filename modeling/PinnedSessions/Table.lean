/-! # Insertion-ordered tables

A `Table κ α` binds keys to values and remembers the order in which keys were first bound.

* `insert` on a bound key keeps the key's place and replaces its value; on a new key it appends.
* `erase` closes the gap.
* `find?` answers the value bound to a key, and `keys` and `entries` list in order.
-/

namespace PinnedSessions

/-- Bindings in the order in which their keys were first bound. -/
structure Table (κ α : Type) where
  /-- Keys with their values, first bound first. -/
  entries : List (κ × α) := []

namespace Table

variable {κ α : Type} [DecidableEq κ]

/-- The table that binds nothing. -/
def empty : Table κ α := ⟨[]⟩

instance : Inhabited (Table κ α) := ⟨empty⟩

/-- Put `a` at the place of `k`, or at the end if `k` has none. -/
def insertEntry (k : κ) (a : α) : List (κ × α) → List (κ × α)
  | [] => [(k, a)]
  | (k', b) :: rest => if k' = k then (k, a) :: rest else (k', b) :: insertEntry k a rest

/-- The first value bound to `k` in a list of bindings. -/
def findEntry (k : κ) : List (κ × α) → Option α
  | [] => none
  | (k', b) :: rest => if k' = k then some b else findEntry k rest

/-- Bind `k` to `a`. -/
def insert (t : Table κ α) (k : κ) (a : α) : Table κ α := ⟨insertEntry k a t.entries⟩

/-- The value bound to `k`. -/
def find? (t : Table κ α) (k : κ) : Option α := findEntry k t.entries

/-- Whether `k` is bound. -/
def contains (t : Table κ α) (k : κ) : Bool := (t.find? k).isSome

/-- Unbind `k`. -/
def erase (t : Table κ α) (k : κ) : Table κ α := ⟨t.entries.filter fun e => e.1 ≠ k⟩

/-- Replace the value bound to `k` by its image; an unbound key stays unbound. -/
def modify (t : Table κ α) (k : κ) (f : α → α) : Table κ α :=
  match t.find? k with
  | some a => t.insert k (f a)
  | none => t

/-- The bound keys, first bound first. -/
def keys (t : Table κ α) : List κ := t.entries.map (·.1)

/-- How many keys are bound. -/
def size (t : Table κ α) : Nat := t.entries.length

/-- Bind each pair in turn. -/
def ofList (es : List (κ × α)) : Table κ α := es.foldl (fun t e => t.insert e.1 e.2) empty

/-! ### What each operation does to `find?` -/

theorem findEntry_insertEntry (k k' : κ) (a : α) (es : List (κ × α)) :
    findEntry k' (insertEntry k a es) = if k = k' then some a else findEntry k' es := by
  induction es with
  | nil => simp [insertEntry, findEntry]
  | cons e rest ih =>
    obtain ⟨j, b⟩ := e
    by_cases hj : j = k
    · subst hj; by_cases hk : j = k' <;> simp [insertEntry, findEntry, hk]
    · by_cases hk : j = k'
      · subst hk; simp [insertEntry, findEntry, hj, Ne.symm hj]
      · simp [insertEntry, findEntry, hj, hk, ih]

@[simp] theorem find?_empty (k : κ) : (empty : Table κ α).find? k = none := rfl

theorem find?_insert (t : Table κ α) (k k' : κ) (a : α) :
    (t.insert k a).find? k' = if k = k' then some a else t.find? k' :=
  findEntry_insertEntry k k' a t.entries

@[simp] theorem find?_insert_self (t : Table κ α) (k : κ) (a : α) :
    (t.insert k a).find? k = some a := by simp [find?_insert]

theorem find?_insert_of_ne (t : Table κ α) {k k' : κ} (a : α) (h : k ≠ k') :
    (t.insert k a).find? k' = t.find? k' := by simp [find?_insert, h]

theorem findEntry_filter (k k' : κ) (es : List (κ × α)) :
    findEntry k' (es.filter fun e => e.1 ≠ k) = if k = k' then none else findEntry k' es := by
  induction es with
  | nil => simp [findEntry]
  | cons e rest ih =>
    obtain ⟨j, b⟩ := e
    by_cases hj : j = k
    · subst hj; by_cases hk : j = k' <;> simp_all [findEntry]
    · by_cases hk : j = k'
      · subst hk; simp [findEntry, hj, Ne.symm hj]
      · simp_all [findEntry]

theorem find?_erase (t : Table κ α) (k k' : κ) :
    (t.erase k).find? k' = if k = k' then none else t.find? k' :=
  findEntry_filter k k' t.entries

@[simp] theorem find?_erase_self (t : Table κ α) (k : κ) : (t.erase k).find? k = none := by
  simp [find?_erase]

theorem find?_modify (t : Table κ α) (k k' : κ) (f : α → α) :
    (t.modify k f).find? k' = if k = k' then (t.find? k').map f else t.find? k' := by
  unfold modify
  by_cases h : k = k'
  · subst h; cases hk : t.find? k <;> simp [hk]
  · cases t.find? k <;> simp [find?_insert, h]

/-! ### What each operation does to the bindings

As long as no key is bound twice, a table is one of its bindings and all the others. -/

theorem filter_of_findEntry {k : κ} {es : List (κ × α)} (h : findEntry k es = none) :
    es.filter (fun e => e.1 ≠ k) = es := by
  induction es with
  | nil => rfl
  | cons e rest ih =>
    obtain ⟨j, b⟩ := e
    by_cases hj : j = k
    · simp [findEntry, hj] at h
    · rw [List.filter_cons_of_pos (by simpa using hj), ih (by simpa [findEntry, hj] using h)]

theorem findEntry_of_not_mem {k : κ} {es : List (κ × α)} (h : k ∉ es.map (·.1)) :
    findEntry k es = none := by
  induction es with
  | nil => rfl
  | cons e rest ih =>
    obtain ⟨j, b⟩ := e
    simp only [List.map_cons, List.mem_cons, not_or] at h
    simp [findEntry, Ne.symm h.1, ih h.2]

theorem insertEntry_of_findEntry {k : κ} {a : α} {es : List (κ × α)} (h : findEntry k es = some a) :
    insertEntry k a es = es := by
  induction es with
  | nil => cases h
  | cons e rest ih =>
    obtain ⟨j, b⟩ := e
    by_cases hj : j = k
    · simp_all [findEntry, insertEntry]
    · simp only [findEntry, if_neg hj] at h
      simp [insertEntry, hj, ih h]

theorem perm_insertEntry (k : κ) (a : α) {es : List (κ × α)} (h : (es.map (·.1)).Nodup) :
    (insertEntry k a es).Perm ((k, a) :: es.filter fun e => e.1 ≠ k) := by
  induction es with
  | nil => exact .refl _
  | cons e rest ih =>
    obtain ⟨j, b⟩ := e
    rw [List.map_cons, List.nodup_cons] at h
    by_cases hj : j = k
    · subst hj
      rw [insertEntry, if_pos rfl, List.filter_cons_of_neg (by simp),
        filter_of_findEntry (findEntry_of_not_mem h.1)]
    · rw [insertEntry, if_neg hj, List.filter_cons_of_pos (by simpa using hj)]
      exact ((ih h.2).cons _).trans (.swap _ _ _)

theorem filter_insertEntry (k : κ) (a : α) (es : List (κ × α)) :
    (insertEntry k a es).filter (fun e => e.1 ≠ k) = es.filter fun e => e.1 ≠ k := by
  induction es with
  | nil => simp [insertEntry]
  | cons e rest ih =>
    obtain ⟨j, b⟩ := e
    by_cases hj : j = k
    · simp [insertEntry, hj]
    · rw [insertEntry, if_neg hj, List.filter_cons_of_pos (by simpa using hj), ih,
        List.filter_cons_of_pos (by simpa using hj)]

theorem perm_insert (t : Table κ α) (h : t.keys.Nodup) (k : κ) (a : α) :
    (t.insert k a).entries.Perm ((k, a) :: (t.erase k).entries) := perm_insertEntry k a h

theorem perm_of_find? {t : Table κ α} (h : t.keys.Nodup) {k : κ} {a : α} (hf : t.find? k = some a) :
    t.entries.Perm ((k, a) :: (t.erase k).entries) := by
  have hp := perm_insert t h k a
  rwa [insert, insertEntry_of_findEntry hf] at hp

theorem erase_insert (t : Table κ α) (k : κ) (a : α) : (t.insert k a).erase k = t.erase k :=
  congrArg Table.mk (filter_insertEntry k a t.entries)

theorem insertEntry_insertEntry (k : κ) (a b : α) (es : List (κ × α)) :
    insertEntry k b (insertEntry k a es) = insertEntry k b es := by
  induction es with
  | nil => simp [insertEntry]
  | cons e rest ih =>
    obtain ⟨j, c⟩ := e
    by_cases hj : j = k <;> simp [insertEntry, hj, ih]

@[simp] theorem insert_insert (t : Table κ α) (k : κ) (a b : α) :
    (t.insert k a).insert k b = t.insert k b :=
  congrArg Table.mk (insertEntry_insertEntry k a b t.entries)

theorem insert_of_find? {t : Table κ α} {k : κ} {a : α} (h : t.find? k = some a) : t.insert k a = t :=
  congrArg Table.mk (insertEntry_of_findEntry h)

theorem find?_of_contains {t : Table κ α} {k : κ} (h : ¬t.contains k = true) :
    t.find? k = none := by
  simpa [contains] using h

theorem erase_of_find? {t : Table κ α} {k : κ} (h : t.find? k = none) : t.erase k = t :=
  congrArg Table.mk (filter_of_findEntry h)

theorem nodup_erase {t : Table κ α} (h : t.keys.Nodup) (k : κ) : (t.erase k).keys.Nodup :=
  h.sublist (List.filter_sublist.map _)

theorem nodup_insert {t : Table κ α} (h : t.keys.Nodup) (k : κ) (a : α) :
    (t.insert k a).keys.Nodup := by
  refine ((perm_insert t h k a).map (·.1)).nodup_iff.2 ?_
  refine List.nodup_cons.2 ⟨?_, nodup_erase h k⟩
  simp [erase]

end Table

/-- Bindings sorted by their text keys, in the order of code points. -/
def Table.sorted {α : Type} (t : Table String α) : List (String × α) :=
  t.entries.mergeSort fun a b => decide (a.1 ≤ b.1)

end PinnedSessions
