/-!
# Tables

A table gives each key at most one value. Putting a value under a key replaces the one that
was there. Every operation is stated by what it does to `get?`.

## Main results

* `get?_put_self`, `get?_put_of_ne`: a put changes its own key and no other.
* `get?_erase_self`, `get?_erase_of_ne`: so does an erasure.
* `of_get?_put`, `of_get?_erase`: where a value that is found comes from.
-/

namespace ReverseTunnel

/-- Keys with a value each, the last one put first. -/
structure Table (κ β : Type) where
  entries : List (κ × β) := []
  deriving DecidableEq, Repr

namespace Table

variable {κ β : Type} [DecidableEq κ]

omit [DecidableEq κ] in
/-- The keys of the table. -/
def keys (t : Table κ β) : List κ := t.entries.map (·.1)

omit [DecidableEq κ] in
/-- The number of keys. -/
def size (t : Table κ β) : Nat := t.entries.length

/-- The value under a key. -/
def get? (t : Table κ β) (key : κ) : Option β :=
  (t.entries.find? fun entry => decide (entry.1 = key)).map (·.2)

/-- Whether a key has a value. -/
def contains (t : Table κ β) (key : κ) : Bool := (t.get? key).isSome

/-- The table without a key. -/
def erase (t : Table κ β) (key : κ) : Table κ β :=
  ⟨t.entries.filter fun entry => decide (entry.1 ≠ key)⟩

/-- The table with a value under a key. -/
def put (t : Table κ β) (key : κ) (value : β) : Table κ β :=
  ⟨(key, value) :: (t.erase key).entries⟩

/-! ### Laws -/

/-- An empty table has no value under any key. -/
@[simp] theorem get?_empty (key : κ) : (({} : Table κ β)).get? key = none := rfl

/-- After an erasure there is no value under the key. -/
@[simp] theorem get?_erase_self (t : Table κ β) (key : κ) : (t.erase key).get? key = none := by
  simp only [get?, erase, Option.map_eq_none_iff, List.find?_eq_none, List.mem_filter]
  intro entry h
  simpa using h.2

/-- An erasure leaves the value under every other key as it is. -/
theorem get?_erase_of_ne {key other : κ} (t : Table κ β) (h : other ≠ key) :
    (t.erase key).get? other = t.get? other := by
  unfold get? erase
  congr 1
  induction t.entries with
  | nil => rfl
  | cons entry rest ih =>
    by_cases hk : entry.1 = key
    · have : entry.1 ≠ other := fun he => h (he.symm.trans hk)
      simp only [List.filter_cons, hk, ne_eq, not_true_eq_false, decide_false,
        Bool.false_eq_true, if_false, List.find?_cons]
      simpa [Ne.symm h] using ih
    · simp only [List.filter_cons, ne_eq, hk, not_false_eq_true, decide_true, if_true,
        List.find?_cons]
      split
      · rfl
      · exact ih

/-- What is put under a key is found there. -/
@[simp] theorem get?_put_self (t : Table κ β) (key : κ) (value : β) :
    (t.put key value).get? key = some value := by
  simp [get?, put]

/-- A put leaves the value under every other key as it is. -/
theorem get?_put_of_ne {key other : κ} (t : Table κ β) (value : β) (h : other ≠ key) :
    (t.put key value).get? other = t.get? other := by
  rw [← get?_erase_of_ne t h]
  simp [get?, put, Ne.symm h]

/-- What is found after a put is the new value, or was there before. -/
theorem of_get?_put {t : Table κ β} {key other : κ} {value found : β}
    (h : (t.put key value).get? other = some found) :
    (other = key ∧ value = found) ∨ (other ≠ key ∧ t.get? other = some found) := by
  by_cases hk : other = key
  · subst hk
    rw [get?_put_self] at h
    exact .inl ⟨rfl, Option.some.inj h⟩
  · rw [get?_put_of_ne t value hk] at h
    exact .inr ⟨hk, h⟩

/-- What is found after an erasure was there before, under another key. -/
theorem of_get?_erase {t : Table κ β} {key other : κ} {found : β}
    (h : (t.erase key).get? other = some found) : other ≠ key ∧ t.get? other = some found := by
  have hk : other ≠ key := by
    rintro rfl
    simp at h
  rw [get?_erase_of_ne t hk] at h
  exact ⟨hk, h⟩

end Table

end ReverseTunnel
