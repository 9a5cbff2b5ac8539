import ReverseTunnel.Server.Registry
import ReverseTunnel.Server.Store
import ReverseTunnel.Text.Split

/-!
# Normal forms of names

Names are compared in small letters and without blanks around them. Both changes can be made in
either order, and to make them again changes nothing: a small letter is a blank only if the
letter was one, and what has been trimmed has no blank at its ends.

## Main results

* `Text.trim_trim`, `Text.trim_lower`: trimming is done once, before or after lowering.
* `Place.normal_normal`: a normal form is its own normal form.
* `Registry.normal_of_normalId?`: the registry and the store agree on it.
-/

namespace ReverseTunnel

namespace Text

section

variable {α : Type} {p : α → Bool}

/-- A list that starts like one without a leading edge has none either. -/
theorem dropWhile_eq_self_of_prefix {a b : List α} (h : b <+: a) (ha : a.dropWhile p = a) :
    b.dropWhile p = b := by
  obtain ⟨rest, rfl⟩ := h
  rcases b with _ | ⟨x, b⟩
  · rfl
  · have hx : ¬ p x = true := by
      intro hx
      have hlength := congrArg List.length ha
      have hle := (List.dropWhile_suffix p (l := b ++ rest)).length_le
      simp only [List.cons_append, List.dropWhile_cons_of_pos hx, List.length_cons] at hlength
      omega
    exact List.dropWhile_cons_of_neg hx

/-- Trimming takes the front off first, and then something of the back. -/
theorem trimBy_prefix_dropWhile (l : List α) : trimBy p l <+: l.dropWhile p := by
  have hsuffix := List.dropWhile_suffix p (l := (l.dropWhile p).reverse)
  simpa [trimBy] using List.reverse_prefix.mpr hsuffix

/-- Trimming adds nothing. -/
theorem trimBy_subset (l : List α) : trimBy p l ⊆ l := fun _ hx =>
  (List.dropWhile_suffix p).subset ((trimBy_prefix_dropWhile l).subset hx)

/-- Trimming once is enough. -/
theorem trimBy_trimBy (l : List α) : trimBy p (trimBy p l) = trimBy p l := by
  have hhead : (trimBy p l).dropWhile p = trimBy p l :=
    dropWhile_eq_self_of_prefix (trimBy_prefix_dropWhile l) (dropWhile_dropWhile p l)
  calc trimBy p (trimBy p l)
      = ((trimBy p l).reverse.dropWhile p).reverse := by rw [trimBy, hhead]
    _ = trimBy p l := by
        simp only [trimBy, List.reverse_reverse, dropWhile_dropWhile]

/-- What has no edge is not trimmed. -/
theorem trimBy_of_forall {l : List α} (h : ∀ x ∈ l, p x = false) : trimBy p l = l := by
  have hkept {l : List α} (h : ∀ x ∈ l, p x = false) : l.dropWhile p = l := by
    rcases l with _ | ⟨x, l⟩
    · rfl
    · exact List.dropWhile_cons_of_neg (by simp [h])
  rw [trimBy, hkept h, hkept fun x hx => h x (List.mem_reverse.mp hx), List.reverse_reverse]

/-- Nothing is left exactly of what is all edge. -/
theorem trimBy_eq_nil_iff {l : List α} : trimBy p l = [] ↔ ∀ x ∈ l, p x = true := by
  rw [trimBy, List.reverse_eq_nil_iff, dropWhile_eq_nil]
  simp only [List.mem_reverse]
  rw [← dropWhile_eq_nil, dropWhile_dropWhile, dropWhile_eq_nil]

/-- Nothing is dropped behind the first element that is none of the edge. -/
theorem dropWhile_append_cons {x : α} (hx : p x = false) (a rest : List α) :
    (a ++ x :: rest).dropWhile p = a.dropWhile p ++ x :: rest := by
  induction a with
  | nil => simp [hx]
  | cons y a ih => by_cases hy : p y = true <;> simp [hy, ih]

/-- Only the edges are trimmed. -/
theorem trimBy_append {a core b : List α} (hsome : core ≠ [])
    (hhead : ∀ x ∈ core.head?, p x = false) (hlast : ∀ x ∈ core.getLast?, p x = false) :
    trimBy p (a ++ core ++ b) =
      a.dropWhile p ++ core ++ (b.reverse.dropWhile p).reverse := by
  have hleft : (a ++ core ++ b).dropWhile p = a.dropWhile p ++ core ++ b := by
    obtain ⟨x, rest, rfl⟩ := List.exists_cons_of_ne_nil hsome
    rw [List.append_assoc, List.cons_append, dropWhile_append_cons (hhead x rfl),
      List.append_assoc, List.cons_append]
  have hright : (a.dropWhile p ++ core ++ b).reverse.dropWhile p =
      b.reverse.dropWhile p ++ (a.dropWhile p ++ core).reverse := by
    obtain ⟨y, hy⟩ : ∃ y, core.getLast? = some y :=
      ⟨_, List.getLast?_eq_some_getLast hsome⟩
    obtain ⟨front, rfl⟩ := List.getLast?_eq_some_iff.mp hy
    have hreverse : (a.dropWhile p ++ (front ++ [y]) ++ b).reverse =
        b.reverse ++ y :: (a.dropWhile p ++ front).reverse := by simp
    rw [hreverse, dropWhile_append_cons (hlast y hy)]
    simp
  rw [trimBy, hleft, hright, List.reverse_append, List.reverse_reverse]

/-- What has no edge at its ends is not trimmed. -/
theorem trimBy_eq_self {l : List α} (hhead : ∀ x ∈ l.head?, p x = false)
    (hlast : ∀ x ∈ l.getLast?, p x = false) : trimBy p l = l := by
  by_cases hsome : l = []
  · rw [hsome, trimBy_nil]
  · simpa using trimBy_append (a := []) (b := []) hsome hhead hlast

/-- What is no edge is left of what stands between edges. -/
theorem trimBy_of_padded {a core b : List α} (ha : ∀ x ∈ a, p x = true)
    (hb : ∀ x ∈ b, p x = true) (hcore : ∀ x ∈ core, p x = false) :
    trimBy p (a ++ core ++ b) = core := by
  rcases List.eq_nil_or_concat core with rfl | ⟨_, _, rfl⟩
  · refine trimBy_eq_nil_iff.mpr fun x hx => ?_
    rw [List.append_nil] at hx
    exact (List.mem_append.mp hx).elim (ha x) (hb x)
  · rw [trimBy_append (by simp) (fun x hx => hcore x (List.mem_of_mem_head? hx))
        (fun x hx => hcore x (List.mem_of_getLast? hx)), dropWhile_eq_nil.mpr ha,
      dropWhile_eq_nil.mpr fun x hx => hb x (List.mem_reverse.mp hx)]
    simp

/-- What is left stands between edges. -/
theorem exists_trimBy (l : List α) :
    ∃ a b, l = a ++ trimBy p l ++ b ∧ (∀ x ∈ a, p x = true) ∧ ∀ x ∈ b, p x = true := by
  have hwhile (l : List α) : ∀ x ∈ l.takeWhile p, p x = true :=
    List.all_eq_true.mp List.all_takeWhile
  refine ⟨l.takeWhile p, ((l.dropWhile p).reverse.takeWhile p).reverse, ?_, hwhile l,
    fun x hx => hwhile _ x (List.mem_reverse.mp hx)⟩
  have hback : trimBy p l ++ ((l.dropWhile p).reverse.takeWhile p).reverse = l.dropWhile p := by
    rw [trimBy, ← List.reverse_append, List.takeWhile_append_dropWhile, List.reverse_reverse]
  rw [List.append_assoc, hback, List.takeWhile_append_dropWhile]

/-- What does not change the edges can be done before trimming or after. -/
theorem trimBy_map {f : α → α} (hf : ∀ x, p (f x) = p x) (l : List α) :
    trimBy p (l.map f) = (trimBy p l).map f := by
  have hcomp : p ∘ f = p := funext hf
  simp only [trimBy, List.dropWhile_map, ← List.map_reverse, hcomp]

end

/-- A text that was trimmed has no blanks around it any more. -/
theorem trim_trim (s : String) : trim (trim s) = trim s := by
  simp only [trim, String.toList_ofList, trimBy_trimBy]

/-- A text of blanks is an empty one once it is trimmed. -/
theorem isEmpty_trim (s : String) : (trim s).isEmpty = blank s := by
  rw [Bool.eq_iff_iff, String.isEmpty_iff, ← String.toList_eq_nil_iff, trim, String.toList_ofList,
    trimBy_eq_nil_iff, blank, List.all_eq_true]

/-- Writing a text in small letters neither adds characters nor takes any. -/
theorem isEmpty_lower (s : String) : (lower s).isEmpty = s.isEmpty := by
  rw [Bool.eq_iff_iff, String.isEmpty_iff, ← String.toList_eq_nil_iff, lower, String.toList_ofList,
    List.map_eq_nil_iff, String.toList_eq_nil_iff, String.isEmpty_iff]

/-- From the capital letters to the small ones there is no blank. -/
theorem isBlank_eq_false {c : Char} (hlow : 0x41 ≤ c.toNat) (hhigh : c.toNat ≤ 0x7A) :
    isBlank c = false := by
  simp only [isBlank, Bool.or_eq_false_iff, Bool.and_eq_false_iff, decide_eq_false_iff_not,
    beq_eq_false_iff_ne]
  omega

/-- The small letter of a capital is 32 places behind it. -/
theorem toNat_toLower {c : Char} (hlow : 0x41 ≤ c.toNat) (hhigh : c.toNat ≤ 0x5A) :
    c.toLower.toNat = c.toNat + 0x20 := by
  unfold Char.toLower
  rw [dif_pos ⟨UInt32.le_iff_toNat_le.mpr hlow, UInt32.le_iff_toNat_le.mpr hhigh⟩]
  change (c.val + 0x20).toNat = c.toNat + 0x20
  rw [UInt32.toNat_add]
  change (c.toNat + 0x20) % 2 ^ 32 = c.toNat + 0x20
  omega

/-- What is no capital is its own small letter. -/
theorem toLower_eq_self {c : Char} (h : ¬ (0x41 ≤ c.toNat ∧ c.toNat ≤ 0x5A)) : c.toLower = c := by
  refine dif_neg fun hletter => h ?_
  have hlow : 0x41 ≤ c.toNat := UInt32.le_iff_toNat_le.mp hletter.1
  have hhigh : c.toNat ≤ 0x5A := UInt32.le_iff_toNat_le.mp hletter.2
  exact ⟨hlow, hhigh⟩

/-- A small letter is no blank, and neither is a capital one. -/
theorem isBlank_toLower (c : Char) : isBlank c.toLower = isBlank c := by
  by_cases h : 0x41 ≤ c.toNat ∧ c.toNat ≤ 0x5A
  · have hlower := toNat_toLower h.1 h.2
    rw [isBlank_eq_false (by omega) (by omega), isBlank_eq_false (by omega) (by omega)]
  · rw [toLower_eq_self h]

/-- A text can be trimmed before it is written in small letters or after, since no letter is a
blank. -/
theorem trim_lower (s : String) : trim (lower s) = lower (trim s) := by
  simp only [trim, lower, String.toList_ofList, trimBy_map isBlank_toLower]

/-- The form under which names are compared is its own such form. -/
theorem lower_trim_lower_trim (s : String) : lower (trim (lower (trim s))) = lower (trim s) := by
  rw [trim_lower, trim_trim, lower_lower]

end Text

/-- The normal form of a place is its own normal form. -/
theorem Place.normal_normal (place : Place) : place.normal.normal = place.normal := by
  rcases place with name | number
  · simp only [Place.normal, Text.lower_trim_lower_trim]
  · rfl

/-- The owner of a place is that of its normal form. -/
@[simp] theorem Store.owner?_normal (store : Store) (place : Place) :
    store.owner? place.normal = store.owner? place := by
  rw [Store.owner?, Store.owner?, Place.normal_normal]

namespace Registry

/-- The comparable form of an id is the normal form of its place. -/
theorem normal_of_normalId? {shown id : String} (h : normalId? shown = some id) :
    (Place.subdomain shown).normal = .subdomain id := by
  rw [normalId?] at h
  split at h
  · simp at h
  · exact congrArg Place.subdomain (Option.some.inj h)

end Registry

end ReverseTunnel
