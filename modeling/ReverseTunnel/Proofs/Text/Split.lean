import ReverseTunnel.Text.Split

/-!
# Joining and splitting

What holds of all elements of some lists holds of all elements of the lists joined, if it holds of
the separator. A list that is split at its last separator is put together from the parts, and a
list that is put together from parts is split into them, if the separator is in none of those that
are passed on the way to it. A run that is looked for is found where it begins first.

## Main results

* `splitFirst_eq_some_iff`, `splitLast_append`: splitting at one element.
* `splitAtMark_eq_some_iff`, `splitAtMark_eq_none_iff`: splitting at a run of elements.
-/

namespace ReverseTunnel.Text

variable {α : Type}

/-- What holds of all elements of the parts and of what stands between them holds of all elements of
the whole. -/
theorem forall_mem_intercalate {P : α → Prop} {sep : List α} {parts : List (List α)}
    (hsep : ∀ x ∈ sep, P x) (h : ∀ part ∈ parts, ∀ x ∈ part, P x) :
    ∀ x ∈ sep.intercalate parts, P x := by
  induction parts with
  | nil => exact fun _ hx => absurd hx List.not_mem_nil
  | cons part rest ih =>
    have hpart : ∀ x ∈ part, P x := h part List.mem_cons_self
    have hrest := ih fun other hother => h other (List.mem_cons_of_mem _ hother)
    cases rest with
    | nil => rwa [List.intercalate_singleton]
    | cons next rest =>
      rw [List.intercalate_cons_cons]
      exact List.forall_mem_append.mpr ⟨List.forall_mem_append.mpr ⟨hpart, hsep⟩, hrest⟩

/-- What can be tested on every element holds of all of them. -/
theorem forall_mem_of_all {p : α → Prop} [DecidablePred p] {l : List α}
    (h : l.all (fun x => decide (p x)) = true) : ∀ x ∈ l, p x := by
  simpa using h

/-! ### Reading part by part -/

/-- If every element can be read once it is written, so can the list of them. -/
theorem mapM_map_of_some {α β γ : Type} {f : β → Option γ} {g : α → β} {k : α → γ} {xs : List α}
    (h : ∀ x ∈ xs, f (g x) = some (k x)) : (xs.map g).mapM f = some (xs.map k) := by
  induction xs with
  | nil => rfl
  | cons x xs ih =>
    rw [List.map_cons, List.mapM_cons, h x List.mem_cons_self,
      ih fun other hother => h other (List.mem_cons_of_mem x hother)]
    rfl

/-- What was written one by one is read one by one. -/
theorem mapM_map_of_inverse {α β : Type} {f : β → Option α} {g : α → β} {xs : List α}
    (h : ∀ x ∈ xs, f (g x) = some x) : (xs.map g).mapM f = some xs := by
  rw [mapM_map_of_some h, List.map_id']

/-- If a list could be read, so could each of its elements. -/
theorem exists_of_mem_mapM {β : Type} {read : α → Option β} {xs : List α} {ys : List β}
    (h : xs.mapM read = some ys) {x : α} (hx : x ∈ xs) : ∃ y, read x = some y := by
  induction xs generalizing ys with
  | nil => exact absurd hx List.not_mem_nil
  | cons x' xs ih =>
    rw [List.mapM_cons, Option.bind_eq_bind, Option.bind_eq_some_iff] at h
    obtain ⟨y, hy, hrest⟩ := h
    obtain ⟨ys, hys, -⟩ := Option.bind_eq_some_iff.mp hrest
    rcases List.mem_cons.mp hx with rfl | hx
    · exact ⟨y, hy⟩
    · exact ih hys hx

/-! ### Splitting -/

/-- The two sides of the last mark and the mark itself are all that there was. -/
theorem splitLast_eq_some [BEq α] [LawfulBEq α] {sep : α} {l before behind : List α}
    (h : splitLast sep l = some (before, behind)) : l = before ++ sep :: behind := by
  obtain ⟨⟨after, front⟩, hfirst, heq⟩ := Option.map_eq_some_iff.mp h
  cases heq
  rw [← List.reverse_reverse l, (splitFirst_eq_some hfirst).1, List.reverse_append,
    List.reverse_cons, List.append_assoc, List.singleton_append]

section

variable [BEq α] [LawfulBEq α] {sep : α} {before behind mark : List α}

/-- If the front has no mark, the mark behind it is the first. -/
theorem splitFirst_append (h : sep ∉ before) :
    splitFirst sep (before ++ sep :: behind) = some (before, behind) := by
  have hall : ∀ x ∈ before, (x != sep) = true := fun x hx =>
    bne_iff_ne.mpr fun heq => h (heq ▸ hx)
  rw [splitFirst, List.dropWhile_append_of_pos hall, List.takeWhile_append_of_pos hall]
  simp

/-- A list is split around the separator that has none before it. -/
theorem splitFirst_eq_some_iff {l : List α} :
    splitFirst sep l = some (before, behind) ↔ l = before ++ sep :: behind ∧ sep ∉ before := by
  constructor
  · exact splitFirst_eq_some
  · rintro ⟨rfl, h⟩
    exact splitFirst_append h

/-- If the rest has no mark, the mark in front of it is the last. -/
theorem splitLast_append (h : sep ∉ behind) :
    splitLast sep (before ++ sep :: behind) = some (before, behind) := by
  have hreverse : (before ++ sep :: behind).reverse = behind.reverse ++ sep :: before.reverse := by
    simp
  rw [splitLast, hreverse, splitFirst_append (by simpa using h)]
  simp

/-- A list is split around the separator that has none behind it. -/
theorem splitLast_eq_some_iff {l : List α} :
    splitLast sep l = some (before, behind) ↔ l = before ++ sep :: behind ∧ sep ∉ behind := by
  constructor
  · intro h
    obtain ⟨⟨after, front⟩, hfirst, heq⟩ := Option.map_eq_some_iff.mp h
    refine ⟨splitLast_eq_some h, ?_⟩
    cases heq
    rw [List.mem_reverse]
    exact (splitFirst_eq_some hfirst).2
  · rintro ⟨rfl, h⟩
    exact splitLast_append h

/-- Only a list without the mark cannot be split at it. -/
theorem splitLast_eq_none_iff {l : List α} : splitLast sep l = none ↔ sep ∉ l := by
  rw [splitLast, Option.map_eq_none_iff, splitFirst_eq_none, List.mem_reverse]

/-- A list without the mark is not split. -/
theorem splitLast_of_not_mem {l : List α} (h : sep ∉ l) : splitLast sep l = none :=
  splitLast_eq_none_iff.mpr h

omit [LawfulBEq α] in

/-- What was passed before stands in front of what is found from there on. -/
theorem splitAtMark_go (mark passed l : List α) :
    splitAtMark.go mark passed l =
      (splitAtMark mark l).map fun parts => (passed.reverse ++ parts.1, parts.2) := by
  rw [splitAtMark]
  induction l generalizing passed with
  | nil =>
    rw [splitAtMark.go, splitAtMark.go]
    split <;> simp
  | cons x l ih =>
    rw [splitAtMark.go, splitAtMark.go]
    split
    · simp
    · rw [ih (x :: passed), ih [x]]
      simp [Option.map_map, Function.comp_def]

/-- A list that begins with the mark is split there, with nothing in front. -/
theorem splitAtMark_mark (mark behind : List α) :
    splitAtMark mark (mark ++ behind) = some ([], behind) := by
  rcases hl : mark ++ behind with _ | ⟨x, l⟩
  · obtain ⟨rfl, rfl⟩ := List.append_eq_nil_iff.mp hl
    rfl
  · rw [splitAtMark, splitAtMark.go, if_pos (by simp [← hl]), ← hl, List.drop_left]
    rfl

/-- Where no mark begins, one element is passed. -/
theorem splitAtMark_cons {x : α} {l : List α} (h : ¬ mark <+: x :: l) :
    splitAtMark mark (x :: l) =
      (splitAtMark mark l).map fun parts => (x :: parts.1, parts.2) := by
  rw [splitAtMark, splitAtMark.go, if_neg (by simpa using h), splitAtMark_go]
  rfl

/-- Elements before the first mark are passed. -/
theorem splitAtMark_passed {part l : List α}
    (h : ∀ front, front ++ mark <+: part ++ l → part.length ≤ front.length) :
    splitAtMark mark (part ++ l) =
      (splitAtMark mark l).map fun parts => (part ++ parts.1, parts.2) := by
  induction part with
  | nil => simp
  | cons x part ih =>
    have hnot : ¬ mark <+: x :: (part ++ l) := fun hbegin =>
      absurd (h [] hbegin) (Nat.not_succ_le_zero _)
    have hrest : ∀ front, front ++ mark <+: part ++ l → part.length ≤ front.length :=
      fun front hfront =>
        Nat.le_of_succ_le_succ (h (x :: front) (List.cons_prefix_cons.mpr ⟨rfl, hfront⟩))
    rw [List.cons_append, splitAtMark_cons hnot, ih hrest, Option.map_map]
    rfl

/-- What does not hold the first element of the mark is passed. -/
theorem splitAtMark_append_left {part : List α} (h : sep ∉ part) (l : List α) :
    splitAtMark (sep :: mark) (part ++ l) =
      (splitAtMark (sep :: mark) l).map fun parts => (part ++ parts.1, parts.2) := by
  refine splitAtMark_passed fun front hfront => Nat.le_of_not_lt fun hlt => h ?_
  have hsep : front ++ [sep] <+: front ++ sep :: mark :=
    List.prefix_append_right_inj front |>.mpr ⟨mark, rfl⟩
  have hinside : front ++ [sep] <+: part :=
    List.prefix_of_prefix_length_le (hsep.trans hfront) (List.prefix_append part l)
      (by simpa using Nat.succ_le_of_lt hlt)
  exact hinside.subset (by simp)

/-- A list is split at the mark, and nowhere further in front does the mark begin. -/
theorem of_splitAtMark {l : List α} (h : splitAtMark mark l = some (before, behind)) :
    l = before ++ (mark ++ behind) ∧
      ∀ front, front ++ mark <+: l → before.length ≤ front.length := by
  induction l generalizing before with
  | nil =>
    rw [splitAtMark, splitAtMark.go, Option.ite_none_right_eq_some] at h
    obtain ⟨hempty, hparts⟩ := h
    cases hparts
    rw [List.isEmpty_iff.mp hempty]
    exact ⟨rfl, fun _ _ => Nat.zero_le _⟩
  | cons x l ih =>
    by_cases hbegin : mark <+: x :: l
    · obtain ⟨rest, hrest⟩ := hbegin
      rw [← hrest, splitAtMark_mark] at h
      cases h
      exact ⟨hrest.symm, fun _ _ => Nat.zero_le _⟩
    · rw [splitAtMark_cons hbegin] at h
      obtain ⟨⟨passed, rest⟩, hsplit, hparts⟩ := Option.map_eq_some_iff.mp h
      cases hparts
      obtain ⟨rfl, hfirst⟩ := ih hsplit
      refine ⟨rfl, fun front hfront => ?_⟩
      rcases front with _ | ⟨y, front⟩
      · exact absurd hfront hbegin
      · rw [List.cons_append, List.cons_prefix_cons] at hfront
        exact Nat.succ_le_succ (hfirst front hfront.2)

/-- Only a list in which the mark does not occur cannot be split at it. -/
theorem splitAtMark_eq_none_iff {l : List α} : splitAtMark mark l = none ↔ ¬ mark <:+: l := by
  induction l with
  | nil =>
    rw [splitAtMark, splitAtMark.go]
    simp
  | cons x l ih =>
    by_cases hbegin : mark <+: x :: l
    · obtain ⟨behind, hl⟩ := hbegin
      rw [← hl, splitAtMark_mark]
      simpa using (List.prefix_append mark behind).isInfix
    · rw [splitAtMark_cons hbegin, Option.map_eq_none_iff, ih, List.infix_cons_iff, not_or,
        and_iff_right hbegin]

/-- A list is split around the first occurrence of the mark. -/
theorem splitAtMark_eq_some_iff {l : List α} :
    splitAtMark mark l = some (before, behind) ↔
      l = before ++ (mark ++ behind) ∧
        ∀ front, front ++ mark <+: l → before.length ≤ front.length := by
  constructor
  · exact of_splitAtMark
  · rintro ⟨hl, hfirst⟩
    have hfound : splitAtMark mark l ≠ none := by
      rw [ne_eq, splitAtMark_eq_none_iff, Classical.not_not, hl]
      exact ⟨before, behind, by simp⟩
    obtain ⟨⟨before', behind'⟩, hsplit⟩ := Option.ne_none_iff_exists'.mp hfound
    obtain ⟨hl', hfirst'⟩ := of_splitAtMark hsplit
    -- Each of the two is no longer than the other.
    have hle := hfirst before' ⟨behind', by rw [List.append_assoc, ← hl']⟩
    have hge := hfirst' before ⟨behind, by rw [List.append_assoc, ← hl]⟩
    obtain ⟨rfl, htail⟩ := List.append_inj (hl'.symm.trans hl) (Nat.le_antisymm hge hle)
    rw [hsplit, List.append_cancel_left htail]

/-- A mark is not found without one of its elements. -/
theorem splitAtMark_of_not_mem {l : List α} {x : α} (hx : x ∈ mark) (h : x ∉ l) :
    splitAtMark mark l = none :=
  splitAtMark_eq_none_iff.mpr fun hinside => h (hinside.subset hx)

/-- A mark is found where its first element stands first. -/
theorem splitAtMark_append (h : sep ∉ before) :
    splitAtMark (sep :: mark) (before ++ (sep :: mark ++ behind)) = some (before, behind) := by
  rw [splitAtMark_append_left h, splitAtMark_mark]
  simp

/-- An end that is there can be taken off. -/
theorem dropEnd?_append (front stop : List α) : dropEnd? stop (front ++ stop) = some front := by
  rw [dropEnd?, if_pos (by simp)]
  simp

/-- An end that is not there cannot be taken off. -/
theorem dropEnd?_of_getLast? {l : List α} (h : l.getLast? ≠ some sep) :
    dropEnd? [sep] l = none := by
  refine if_neg fun hsuffix => h ?_
  obtain ⟨front, rfl⟩ := List.isSuffixOf_iff_suffix.mp hsuffix
  simp

end

end ReverseTunnel.Text
