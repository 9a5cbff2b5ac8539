/-!
# Splitting a list at a separator

Most formats of the program cut a text at a mark: the first colon, the last colon, the first `://`.
(Every comma is `List.splitOn`.) The functions work on lists, so that they serve text and bytes
alike, and come with the laws that put the pieces together again.

## Main results

* `splitFirst_eq_some`: the pieces around the first separator rebuild the list, and the first
  piece has no separator.
* `splitFirst_eq_none`: there is nothing to split exactly when the separator is absent.
-/

namespace ReverseTunnel.Text

variable {α : Type} [BEq α]

/-- The parts before and after the first `sep`, if there is one. -/
def splitFirst (sep : α) (l : List α) : Option (List α × List α) :=
  match l.dropWhile (· != sep) with
  | [] => none
  | _ :: rest => some (l.takeWhile (· != sep), rest)

/-- The parts before and after the last `sep`, if there is one. -/
def splitLast (sep : α) (l : List α) : Option (List α × List α) :=
  (splitFirst sep l.reverse).map fun (after, before) => (before.reverse, after.reverse)

/-- Walks over `l` with the elements already passed, newest first, until `mark` begins. -/
def splitAtMark.go (mark : List α) : List α → List α → Option (List α × List α)
  | passed, [] => if mark.isEmpty then some (passed.reverse, []) else none
  | passed, x :: xs =>
    if mark.isPrefixOf (x :: xs) then some (passed.reverse, (x :: xs).drop mark.length)
    else splitAtMark.go mark (x :: passed) xs

/-- The parts before and after the first occurrence of the run `mark`. -/
def splitAtMark (mark l : List α) : Option (List α × List α) := splitAtMark.go mark [] l

/-- The rest of `l` behind the run `start`, if it starts so. -/
def dropStart? (start l : List α) : Option (List α) :=
  if start.isPrefixOf l then some (l.drop start.length) else none

/-- The part of `l` before the run `stop`, if it ends so. -/
def dropEnd? (stop l : List α) : Option (List α) :=
  if stop.isSuffixOf l then some (l.take (l.length - stop.length)) else none

/-! ### Laws -/

omit [BEq α] in
/-- All of a list is dropped exactly if each of its elements is one to be dropped. -/
theorem dropWhile_eq_nil {p : α → Bool} {l : List α} :
    l.dropWhile p = [] ↔ ∀ x ∈ l, p x = true := by
  induction l with
  | nil => simp
  | cons x xs ih =>
    by_cases h : p x = true
    · simp [h, ih]
    · simp [h]

/-- A split at the first separator gives back the list, with no separator in the part in front. -/
theorem splitFirst_eq_some [LawfulBEq α] {sep : α} {l a b : List α}
    (h : splitFirst sep l = some (a, b)) : l = a ++ sep :: b ∧ sep ∉ a := by
  have hl := List.takeWhile_append_dropWhile (p := (· != sep)) (l := l)
  have hall := List.all_takeWhile (p := (· != sep)) (l := l)
  unfold splitFirst at h
  split at h
  · simp at h
  · rename_i x rest hd
    simp only [Option.some.injEq, Prod.mk.injEq] at h
    obtain ⟨rfl, rfl⟩ := h
    have hx : x = sep := by
      have := List.head?_dropWhile_not (· != sep) l
      rw [hd] at this
      simpa using this
    subst hx
    refine ⟨by rw [← hd, hl], fun hm => ?_⟩
    have := List.all_eq_true.mp hall _ hm
    simp at this

/-- A list cannot be split exactly if it has no separator. -/
theorem splitFirst_eq_none [LawfulBEq α] {sep : α} {l : List α} :
    splitFirst sep l = none ↔ sep ∉ l := by
  unfold splitFirst
  split
  · rename_i hd
    simp only [true_iff]
    intro hm
    have := dropWhile_eq_nil.mp hd _ hm
    simp at this
  · rename_i x rest hd
    simp only [reduceCtorEq, false_iff, Classical.not_not]
    have hx := List.head?_dropWhile_not (· != sep) l
    rw [hd] at hx
    have : x = sep := by simpa using hx
    subst this
    exact (List.dropWhile_sublist (· != x) (l := l)).subset (by rw [hd]; simp)

end ReverseTunnel.Text
