import Mathlib.Data.List.Forall2
import ReverseTunnel.Json.Value

/-!
# Fields of objects

An object may name a field more than once, and then its last value counts. What a field says is what
the value that counts means, or a default where the field is absent. What a value means is said here
by how it is put together: a relation between values and what they stand for, and reading is one of
its halves.

## Main results

* `field?_eq_some_iff`: the value that is found is the one that counts.
* `elim_field?_eq_some_iff`: a field is read as what it says.
* `exists_says_iff`: a field says something unless its value means nothing.
-/

namespace ReverseTunnel.Json

variable {α β : Type} {fields : List (String × Value)} {name : String} {v : Value}

/-! ### The value that counts -/

/-- A value that stands behind the last occurrence of a name. -/
def Counts (fields : List (String × Value)) (name : String) (v : Value) : Prop :=
  ∃ before after, fields = before ++ (name, v) :: after ∧ ∀ field ∈ after, field.1 ≠ name

/-- A name that does not occur. -/
def Absent (fields : List (String × Value)) (name : String) : Prop :=
  ∀ field ∈ fields, field.1 ≠ name

/-- The function that looks a name up finds the value that counts for the name: that of the last
field written under it. -/
theorem field?_eq_some_iff : Value.field? fields name = some v ↔ Counts fields name v := by
  rw [Value.field?, Option.map_eq_some_iff]
  constructor
  · rintro ⟨⟨name', v⟩, hfind, rfl⟩
    obtain ⟨hname, after, before, hsplit, hafter⟩ := List.find?_eq_some_iff_append.mp hfind
    obtain rfl : name' = name := beq_iff_eq.mp hname
    refine ⟨before.reverse, after.reverse, ?_, fun field hfield => ?_⟩
    · rw [← List.reverse_reverse fields, hsplit]
      simp
    · simpa using hafter field (List.mem_reverse.mp hfield)
  · rintro ⟨before, after, rfl, hafter⟩
    refine ⟨(name, v), List.find?_eq_some_iff_append.mpr ⟨beq_self_eq_true name, ?_⟩, rfl⟩
    refine ⟨after.reverse, before.reverse, by simp, fun field hfield => ?_⟩
    simpa using hafter field (List.mem_reverse.mp hfield)

/-- The function that looks a name up finds nothing exactly when the name is absent. -/
theorem field?_eq_none_iff : Value.field? fields name = none ↔ Absent fields name := by
  rw [Value.field?, Option.map_eq_none_iff, List.find?_eq_none]
  simp only [List.mem_reverse, beq_iff_eq]
  exact Iff.rfl

/-- Two objects have the same fields of a name as far as they count. -/
def Agree (fields fields' : List (String × Value)) (name : String) : Prop :=
  ∀ v, Counts fields name v ↔ Counts fields' name v

/-- Objects that agree about a name have the same value under it. -/
theorem Agree.field?_eq {fields' : List (String × Value)} (h : Agree fields fields' name) :
    Value.field? fields name = Value.field? fields' name :=
  Option.ext fun v => field?_eq_some_iff.trans ((h v).trans field?_eq_some_iff.symm)

/-! ### What a field says -/

/-- What a field says: what the value that counts means, or a default where there is none. -/
inductive Says (means : Value → α → Prop) (default : α) (fields : List (String × Value))
    (name : String) : α → Prop
  | value {v : Value} {a : α} (hcounts : Counts fields name v) (hmeans : means v a) :
      Says means default fields name a
  | default (habsent : Absent fields name) : Says means default fields name default

section Says

variable {means : Value → α → Prop} {default a : α}

/-- A field is read as what it says, if its value is read as what it means. -/
theorem elim_field?_eq_some_iff {read : Value → Option α}
    (hread : ∀ v a, read v = some a ↔ means v a) :
    (Value.field? fields name).elim (some default) read = some a ↔
      Says means default fields name a := by
  rcases hfield : Value.field? fields name with _ | v
  · have habsent := field?_eq_none_iff.mp hfield
    constructor
    · rintro ⟨⟩
      exact .default habsent
    · rintro (⟨hcounts, -⟩ | -)
      · rw [← field?_eq_some_iff, hfield] at hcounts
        cases hcounts
      · rfl
  · rw [Option.elim_some, hread]
    constructor
    · exact .value (field?_eq_some_iff.mp hfield)
    · rintro (⟨hcounts, hmeans⟩ | habsent)
      · rw [← field?_eq_some_iff, hfield] at hcounts
        cases hcounts
        exact hmeans
      · rw [← field?_eq_none_iff, hfield] at habsent
        cases habsent

/-- What an object says under a name depends on the fields of that name alone. -/
theorem Says.congr {fields' : List (String × Value)} (h : Says means default fields name a)
    (hagree : Agree fields fields' name) : Says means default fields' name a := by
  rcases h with ⟨hcounts, hmeans⟩ | habsent
  · exact .value ((hagree _).mp hcounts) hmeans
  · rw [← field?_eq_none_iff, hagree.field?_eq, field?_eq_none_iff] at habsent
    exact .default habsent

/-- A field says something unless the value that counts means nothing. -/
theorem exists_says_iff :
    (∃ a, Says means default fields name a) ↔ ∀ v, Counts fields name v → ∃ a, means v a := by
  constructor
  · rintro ⟨a, ⟨hcounts, hmeans⟩ | habsent⟩ v hv
    · have hsame := (field?_eq_some_iff.mpr hcounts).symm.trans (field?_eq_some_iff.mpr hv)
      cases hsame
      exact ⟨a, hmeans⟩
    · rw [← field?_eq_none_iff, field?_eq_some_iff.mpr hv] at habsent
      cases habsent
  · intro h
    rcases hfield : Value.field? fields name with _ | v
    · exact ⟨default, .default (field?_eq_none_iff.mp hfield)⟩
    · have hcounts := field?_eq_some_iff.mp hfield
      obtain ⟨a, hmeans⟩ := h v hcounts
      exact ⟨a, .value hcounts hmeans⟩

end Says

/-! ### What a value means -/

/-- A string means its text. -/
def IsText (v : Value) (text : String) : Prop := v = .string text

/-- An array means what its items mean, in their order. -/
inductive AreAll (means : Value → α → Prop) : Value → List α → Prop
  | array {items : List Value} {as : List α} (h : List.Forall₂ means items as) :
      AreAll means (.array items) as

/-- A value is read as a text exactly when it is that text. -/
theorem string?_eq_some_iff (v : Value) (text : String) :
    v.string? = some text ↔ IsText v text := by
  cases v <;> simp [Value.string?, IsText]

/-- Reading a list succeeds exactly when each of its entries is read, and gives what they mean, in
order. -/
theorem mapM_eq_some_iff {read : α → Option β} {means : α → β → Prop}
    (hread : ∀ a b, read a = some b ↔ means a b) (as : List α) (bs : List β) :
    as.mapM read = some bs ↔ List.Forall₂ means as bs := by
  induction as generalizing bs with
  | nil =>
    rw [List.mapM_nil, List.forall₂_nil_left_iff]
    exact Option.some_inj.trans eq_comm
  | cons a as ih =>
    rw [List.mapM_cons, List.forall₂_cons_left_iff, Option.bind_eq_bind, Option.bind_eq_some_iff]
    simp only [hread, Option.bind_eq_bind, Option.bind_eq_some_iff, ih, Option.pure_def,
      Option.some_inj]
    constructor
    · rintro ⟨b, hb, bs', hbs', rfl⟩
      exact ⟨b, bs', hb, hbs', rfl⟩
    · rintro ⟨b, bs', hb, hbs', rfl⟩
      exact ⟨b, hb, bs', hbs', rfl⟩

/-- An array of which every item is read. -/
def items? (read : Value → Option α) : Value → Option (List α)
  | .array items => items.mapM read
  | _ => none

/-- Where a function reads what is meant by one value, the items of an array are read exactly when
all of them mean something. -/
theorem items?_eq_some_iff {read : Value → Option α} {means : Value → α → Prop}
    (hread : ∀ v a, read v = some a ↔ means v a) (v : Value) (as : List α) :
    items? read v = some as ↔ AreAll means v as := by
  rcases v with _ | _ | _ | _ | items | _
  case array =>
    rw [items?, mapM_eq_some_iff hread]
    constructor
    · exact .array
    · rintro ⟨h⟩
      exact h
  all_goals exact ⟨by rintro ⟨⟩, by rintro ⟨⟩⟩

/-- A list of texts is read exactly from an array of texts, in the same order. -/
theorem strings?_eq_some_iff (v : Value) (texts : List String) :
    v.strings? = some texts ↔ AreAll IsText v texts := by
  have hitems : v.strings? = items? Value.string? v := by cases v <;> rfl
  rw [hitems, items?_eq_some_iff string?_eq_some_iff]

/-- A number means a port if it is written with digits only and has that value. A sign, a point or
an exponent makes it another kind of number. -/
inductive IsPort : Value → UInt16 → Prop
  | number {n : Number} {port : UInt16} (hplain : n.plain = true) (hsign : n.negative = false)
      (hvalue : Text.digitsValue n.whole = port.toNat) : IsPort (.number n) port

/-- A port is read exactly from a whole number below 65536. -/
theorem port?_eq_some_iff (v : Value) (port : UInt16) : v.port? = some port ↔ IsPort v port := by
  rcases v with _ | _ | n | _ | _ | _
  case number =>
    rw [Value.port?, Number.natural?, Option.map_eq_some_iff]
    constructor
    · rintro ⟨m, hm, rfl⟩
      obtain ⟨hm, hbound⟩ := Option.filter_eq_some_iff.mp hm
      obtain ⟨hwritten, hvalue⟩ := Option.ite_none_right_eq_some.mp hm
      rw [Bool.and_eq_true, Bool.not_eq_true'] at hwritten
      refine .number hwritten.1 hwritten.2 ?_
      rw [Option.some.inj hvalue, UInt16.toNat_ofNat_of_lt' (of_decide_eq_true hbound)]
    · rintro ⟨hplain, hsign, hvalue⟩
      refine ⟨port.toNat, Option.filter_eq_some_iff.mpr ⟨?_, decide_eq_true port.toNat_lt⟩, ?_⟩
      · rw [hplain, hsign, hvalue]
        rfl
      · exact UInt16.ofNat_toNat
  all_goals exact iff_of_false (fun h => nomatch h) fun h => nomatch h

end ReverseTunnel.Json
