import ReverseTunnel.Client.HostLine
import ReverseTunnel.Proofs.Text.Split

/-!
# Where the head of a stream ends

A head is complete with the first blank line in it. It is looked for in what has arrived so far,
again after every piece, but not from the start each time: what was looked at without success is
skipped, except for the last three bytes, since a terminator may be cut there.

What is looked for is said by `IsComplete` without any search. The mark from which a search goes on
is a good one if no terminator begins before it (`Passed`), and then nothing is missed.

## Main results

* `length?_eq_some_iff`, `length?_eq_none_iff`: what is found from the start.
* `lengthFrom?_eq_length?`: it is also found from a good mark.
* `passed_of_none`: three bytes before the end is a good mark after a search without success.
-/

namespace ReverseTunnel.Head

open Text

variable {bytes more head head' rest rest' : Bytes} {n scanned : Nat}

/-- The bytes end with the first terminator in them. -/
def IsComplete (head : Bytes) : Prop :=
  ∀ part, part <+: head → (terminator <:+ part ↔ part = head)

namespace IsComplete

/-- A complete head ends with the mark that ends heads. -/
theorem exists_front (h : IsComplete head) : ∃ front, head = front ++ terminator := by
  obtain ⟨front, hfront⟩ := (h head (List.prefix_refl head)).mpr rfl
  exact ⟨front, hfront.symm⟩

/-- The search from the start ends with the head. -/
theorem splitAtMark_append {front : Bytes} (h : IsComplete (front ++ terminator)) (rest : Bytes) :
    splitAtMark terminator (front ++ terminator ++ rest) = some (front, rest) := by
  rw [splitAtMark_eq_some_iff, List.append_assoc]
  refine ⟨rfl, fun other hother => Nat.le_of_not_lt fun hlt => ?_⟩
  rw [← List.append_assoc] at hother
  have hinside : other ++ terminator <+: front ++ terminator :=
    List.prefix_of_prefix_length_le hother (List.prefix_append _ rest) (by simp; omega)
  have heq := (h _ hinside).mp (List.suffix_append other terminator)
  rw [List.append_cancel_right heq] at hlt
  exact Nat.lt_irrefl _ hlt

end IsComplete

/-- What is found from the start is the first head. -/
theorem length?_eq_some_iff :
    length? bytes = some n ↔
      ∃ head rest, bytes = head ++ rest ∧ IsComplete head ∧ head.length = n := by
  rw [length?, Option.map_eq_some_iff]
  constructor
  · rintro ⟨⟨front, rest⟩, hsplit, rfl⟩
    obtain ⟨rfl, hfirst⟩ := splitAtMark_eq_some_iff.mp hsplit
    refine ⟨front ++ terminator, rest, by simp, fun part hpart => ⟨?_, ?_⟩, by simp⟩
    · rintro ⟨other, rfl⟩
      have hle : front.length ≤ other.length :=
        hfirst other (hpart.trans ⟨rest, by simp⟩)
      refine hpart.eq_of_length_le ?_
      simp only [List.length_append]
      omega
    · rintro rfl
      exact List.suffix_append front terminator
  · rintro ⟨head, rest, rfl, hhead, rfl⟩
    obtain ⟨front, rfl⟩ := hhead.exists_front
    exact ⟨(front, rest), hhead.splitAtMark_append rest, by simp⟩

/-- Nothing is found where there is no terminator. -/
theorem length?_eq_none_iff : length? bytes = none ↔ ¬ terminator <:+: bytes := by
  rw [length?, Option.map_eq_none_iff, splitAtMark_eq_none_iff]

/-- A complete head is found at the front of a stream, whatever stands behind it. -/
theorem IsComplete.length?_append (h : IsComplete head) (rest : Bytes) :
    length? (head ++ rest) = some head.length :=
  length?_eq_some_iff.mpr ⟨head, rest, rfl, h, rfl⟩

/-- A stream has one head only. -/
theorem IsComplete.unique (h : IsComplete head) (h' : IsComplete head')
    (heq : head ++ rest = head' ++ rest') : head = head' ∧ rest = rest' := by
  refine List.append_inj heq (Option.some.inj ?_)
  rw [← h.length?_append rest, heq, h'.length?_append rest']

/-- What has arrived of a stream with a long head holds no head. -/
theorem IsComplete.length?_eq_none (h : IsComplete head) (hbytes : bytes <+: head ++ rest)
    (hshort : bytes.length < head.length) : length? bytes = none := by
  obtain ⟨later, hlater⟩ := hbytes
  refine Option.eq_none_iff_forall_ne_some.mpr fun n hfound => ?_
  obtain ⟨head', rest', rfl, hhead', -⟩ := length?_eq_some_iff.mp hfound
  rw [List.append_assoc] at hlater
  rw [(hhead'.unique h hlater).1, List.length_append] at hshort
  omega

/-! ### Going on with a search -/

/-- No terminator begins before the mark. -/
def Passed (scanned : Nat) (bytes : Bytes) : Prop :=
  ∀ front, front ++ terminator <+: bytes → scanned ≤ front.length

/-- At the beginning no mark has been passed over. -/
theorem passed_zero (bytes : Bytes) : Passed 0 bytes := fun _ _ => Nat.zero_le _

/-- From a good mark nothing is missed. -/
theorem lengthFrom?_eq_length? (h : Passed scanned bytes) :
    lengthFrom? scanned bytes = length? bytes := by
  have hpassed : ∀ front, front ++ terminator <+: bytes.take scanned ++ bytes.drop scanned →
      (bytes.take scanned).length ≤ front.length := by
    intro front hfront
    rw [List.take_append_drop] at hfront
    exact Nat.le_trans (List.length_take_le scanned bytes) (h front hfront)
  have hsplit := splitAtMark_passed hpassed
  rw [List.take_append_drop] at hsplit
  rw [lengthFrom?, length?, length?, hsplit, Option.map_map, Option.map_map]
  rcases hfound : splitAtMark terminator (bytes.drop scanned) with _ | ⟨front, rest⟩
  · rfl
  · -- There is something behind the mark, so that as many bytes as it says stand before it.
    have hlength : (bytes.take scanned).length = scanned := by
      refine List.length_take_of_le (Nat.le_of_not_lt fun hlt => ?_)
      rw [List.drop_of_length_le (Nat.le_of_lt hlt)] at hfound
      cases hfound
    simp [hlength, Nat.add_assoc]

/-- After a search without success, three bytes before the end is a good mark, whatever arrives. -/
theorem passed_of_none (h : length? bytes = none) (more : Bytes) :
    Passed (bytes.length - (terminator.length - 1)) (bytes ++ more) := by
  refine fun front hfront => Nat.le_of_not_lt fun hlt => length?_eq_none_iff.mp h ?_
  have hlength : terminator.length = 4 := rfl
  have hinside : front ++ terminator <+: bytes :=
    List.prefix_of_prefix_length_le hfront (List.prefix_append bytes more) (by simp; omega)
  exact (List.suffix_append front terminator).isInfix.trans hinside.isInfix

end ReverseTunnel.Head
