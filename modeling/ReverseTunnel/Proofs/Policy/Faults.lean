import Mathlib.Data.List.Forall2
import ReverseTunnel.Proofs.Policy.Reading

/-!
# Faults

A request is read field by field and entry by entry, and the first thing that is wrong with it is
what is reported. Here a fault is something that may be wrong, given by the errors that say so, and
no reading is needed to say which of several faults is the first that is there. A reader *judges* by
a fault and a form if it refuses exactly what has the fault, with the error that says so, and gives
nothing but what has the form. Readers are put together of smaller ones, and so are their faults.

## Main results

* `Judges.bind`: readings one after the other find the first of their faults.
* `judges_readEntries`: of a list, the length is looked at first and then the entries in their
  order; what was read stands in the same order.
-/

namespace ReverseTunnel.Policy

variable {α β : Type}

/-- Something that may be wrong, by the errors that say so. -/
abbrev Fault := FieldError → Prop

/-- What is wrong under a condition, and the error that says so. -/
def Fault.when (condition : Prop) (error : FieldError) : Fault := fun e => condition ∧ e = error

/-- The errors that say the first of several faults that is there. -/
inductive First : List Fault → Fault
  | here {fault : Fault} {faults : List Fault} {e : FieldError} (h : fault e) :
      First (fault :: faults) e
  | later {fault : Fault} {faults : List Fault} {e : FieldError} (hnone : ∀ e', ¬ fault e')
      (h : First faults e) : First (fault :: faults) e

section First

variable {fault : Fault} {faults : List Fault} {e : FieldError}

/-- Where nothing can be wrong, no error is the first. -/
theorem not_first_nil : ¬ First [] e := by
  intro h
  cases h

/-- A fault that is not there can be left out of the list. -/
theorem first_cons_of_not (hnone : ∀ e', ¬ fault e') :
    First (fault :: faults) e ↔ First faults e := by
  constructor
  · rintro (h | ⟨-, h⟩)
    · exact absurd h (hnone e)
    · exact h
  · exact First.later hnone

/-- The first of a single fault is that fault. -/
theorem first_singleton : First [fault] e ↔ fault e := by
  constructor
  · rintro (h | ⟨-, h⟩)
    · exact h
    · exact absurd h not_first_nil
  · exact First.here

/-- The first fault is one of them. -/
theorem First.exists_mem (h : First faults e) : ∃ fault ∈ faults, fault e := by
  induction h with
  | @here fault faults e h => exact ⟨fault, List.mem_cons_self, h⟩
  | @later fault faults e hnone h ih =>
    obtain ⟨found, hmem, hfound⟩ := ih
    exact ⟨found, List.mem_cons_of_mem fault hmem, hfound⟩

end First

/-! ### Readers -/

/-- What is read is refused exactly if it has the fault, with the error that says so, and has the
form otherwise. -/
structure Judges (read : Except FieldError β) (fault : Fault) (form : β → Prop) : Prop where
  error_iff (e : FieldError) : read = .error e ↔ fault e
  of_ok (result : β) : read = .ok result → form result

namespace Judges

variable {read : Except FieldError α} {fault : Fault} {faults : List Fault} {error : FieldError}
  {form : α → Prop} {form' : β → Prop}

/-- There is nothing wrong with what need not be read. -/
theorem ok {result : α} (h : form result) : Judges (.ok result) (First []) form where
  error_iff _ := iff_of_false (fun h => nomatch h) not_first_nil
  of_ok _ heq := Except.ok.inj heq ▸ h

/-- It does not matter in which words a fault is described. -/
theorem congr {fault' : Fault} (h : Judges read fault form) (hfault : ∀ e, fault' e ↔ fault e) :
    Judges read fault' form where
  error_iff e := (h.error_iff e).trans (hfault e).symm
  of_ok := h.of_ok

/-- A reader that judges by one fault judges by the list of it. -/
theorem only (h : Judges read fault form) : Judges read (First [fault]) form :=
  h.congr fun _ => first_singleton

/-- The form of what was read may be described less closely. -/
theorem mono (h : Judges read fault form) {weaker : α → Prop}
    (hform : ∀ result, form result → weaker result) : Judges read fault weaker where
  error_iff := h.error_iff
  of_ok result heq := hform result (h.of_ok result heq)

/-- What was read is put into another shape. -/
theorem map (h : Judges read fault form) {f : α → β} (hf : ∀ a, form a → form' (f a)) :
    Judges (read >>= fun a => .ok (f a)) fault form' where
  error_iff e := by
    rw [← h.error_iff]
    rcases read with e' | a
    · constructor
      · rintro ⟨⟩
        rfl
      · rintro ⟨⟩
        rfl
    · exact iff_of_false (fun heq => nomatch heq) fun heq => nomatch heq
  of_ok result heq := by
    obtain ⟨a, hread, hresult⟩ := bind_eq_ok heq
    cases hresult
    exact hf a (h.of_ok a hread)

/-- Of readings one after the other, the first that finds a fault is the last that is made. -/
theorem bind (h : Judges read fault form) {next : α → Except FieldError β}
    (hnext : ∀ a, form a → Judges (next a) (First faults) form') :
    Judges (read >>= next) (First (fault :: faults)) form' := by
  rcases read with error | a
  · have hfault : fault error := (h.error_iff error).mp rfl
    refine ⟨fun e => ?_, fun _ heq => nomatch heq⟩
    constructor
    · intro heq
      obtain rfl : error = e := Except.error.inj heq
      exact .here hfault
    · rintro (he | ⟨hnone, -⟩)
      · exact congrArg _ (Except.error.inj ((h.error_iff e).mpr he))
      · exact absurd hfault (hnone error)
  · have hnone : ∀ e, ¬ fault e := fun e he => nomatch (h.error_iff e).mpr he
    have hjudges := hnext a (h.of_ok a rfl)
    exact ⟨fun e => (hjudges.error_iff e).trans (first_cons_of_not hnone).symm, hjudges.of_ok⟩

section Tests

variable {test : Prop} [Decidable test] {condition : Prop}

/-- What passes a test is taken. -/
theorem given {result : α} (htest : test ↔ condition) (hform : condition → form result) :
    Judges (if test then .ok result else .error error) (.when (¬ condition) error) form := by
  by_cases h : test
  · rw [if_pos h]
    have hcondition := htest.mp h
    refine ⟨fun e => iff_of_false (fun heq => nomatch heq) fun he => he.1 hcondition, ?_⟩
    exact fun _ heq => Except.ok.inj heq ▸ hform hcondition
  · rw [if_neg h]
    refine ⟨fun e => ?_, fun _ heq => nomatch heq⟩
    rw [Fault.when, and_iff_right (mt htest.mpr h), Except.error.injEq, eq_comm]

/-- What fails a test is not read. -/
theorem guarded (htest : test ↔ condition)
    (h : ¬ condition → Judges read (First faults) form) :
    Judges (if test then .error error else read) (First (.when condition error :: faults)) form := by
  by_cases hcondition : condition
  · rw [if_pos (htest.mpr hcondition)]
    refine ⟨fun e => ?_, fun _ heq => nomatch heq⟩
    constructor
    · exact fun heq => .here ⟨hcondition, (Except.error.inj heq).symm⟩
    · rintro (⟨-, rfl⟩ | ⟨hnone, -⟩)
      · rfl
      · exact absurd ⟨hcondition, rfl⟩ (hnone error)
  · rw [if_neg (mt htest.mp hcondition)]
    have hjudges := h hcondition
    have hnone : ∀ e, ¬ Fault.when condition error e := fun e he => hcondition he.1
    exact ⟨fun e => (hjudges.error_iff e).trans (first_cons_of_not hnone).symm, hjudges.of_ok⟩

/-- What a text does not say is not taken. -/
theorem option {result? : Option α} (hresult : ∀ result, result? = some result ↔ form result) :
    Judges (result?.elim (.error error) .ok) (.when (¬ ∃ result, form result) error) form := by
  rcases result? with _ | result
  · have hnone : ¬ ∃ result, form result := fun ⟨result, h⟩ => nomatch (hresult result).mpr h
    refine ⟨fun e => ?_, fun _ heq => nomatch heq⟩
    rw [Fault.when, and_iff_right hnone, Option.elim_none, Except.error.injEq, eq_comm]
  · have hform : form result := (hresult result).mp rfl
    refine ⟨fun e => iff_of_false (fun heq => nomatch heq) fun he => he.1 ⟨result, hform⟩, ?_⟩
    exact fun _ heq => Except.ok.inj heq ▸ hform

end Tests

end Judges

/-! ### Lists -/

/-- What may be wrong with a list: its length, then one entry after the other. -/
def listFault (limit : Nat) (fault : String → α → Fault) (field : String) (entries : List α) :
    Fault :=
  First (.when (limit < entries.length) (.tooManyEntries field) :: entries.map (fault field))

/-- A list that was read: within its limit, and entry by entry in the form asked for. -/
def ListForm (limit : Nat) (form : α → β → Prop) (entries : List α) (results : List β) : Prop :=
  results.length ≤ limit ∧ List.Forall₂ form entries results

variable {form : α → β → Prop}

/-- If each entry of a list is judged by its own fault, the whole list is judged by the first of
them, in the order of the entries. -/
theorem judges_mapM {read : α → Except FieldError β} {fault : α → Fault}
    (h : ∀ entry, Judges (read entry) (fault entry) (form entry)) (entries : List α) :
    Judges (entries.mapM read) (First (entries.map fault)) (List.Forall₂ form entries) := by
  induction entries with
  | nil => exact .ok .nil
  | cons entry entries ih =>
    rw [List.mapM_cons]
    refine (h entry).bind fun result hresult => ?_
    exact ih.map fun results hresults => .cons hresult hresults

/-- Of a list, the length is looked at first and then the entries in their order. -/
theorem judges_readEntries {read : String → α → Except FieldError β} {fault : String → α → Fault}
    (h : ∀ field entry, Judges (read field entry) (fault field entry) (form entry)) (limit : Nat)
    (field : String) (entries : List α) :
    Judges (readEntries limit field (read field) entries) (listFault limit fault field entries)
      (ListForm limit form entries) := by
  refine .guarded Iff.rfl fun hshort => ?_
  refine (judges_mapM (h field) entries).mono fun results hresults => ⟨?_, hresults⟩
  rw [← hresults.length_eq]
  exact Nat.le_of_not_lt hshort

end ReverseTunnel.Policy
