import ReverseTunnel.Http.Hop

/-!
# What edits do to the values of one field

The fields of a request pass through several edits, one behind the other, and later edits see what
earlier ones left. Each edit is described here by what it does to the values of one name, so that
a chain of them is followed one name at a time.

## Main results

* `values_removeAll_of_mem`, `values_removeAll_of_not_mem`: removing a list of names.
* `values_foldl_set`: setting a list of fields.
* `values_stripHop`: a field that does not always concern one connection goes exactly if a
  `Connection` field lists it.
* `values_stripHop_of_mem`: one that does goes, unless it asks for another protocol.
-/

namespace ReverseTunnel.Http.Headers

variable {headers : Headers} {names : List String} {name : String}

/-- A name that is among those removed has no value left. -/
theorem values_removeAll_of_mem (h : name ∈ names) :
    (headers.removeAll names).values name = [] := by
  rw [values, removeAll, List.filter_filter, List.map_eq_nil_iff, List.filter_eq_nil_iff]
  intro field _ hkept
  simp only [Bool.and_eq_true, beq_iff_eq, Bool.not_eq_true', List.contains_eq_mem,
    decide_eq_false_iff_not] at hkept
  exact hkept.2 (hkept.1 ▸ h)

/-- A name that is not among those removed keeps all its values, in their order. -/
theorem values_removeAll_of_not_mem (h : name ∉ names) :
    (headers.removeAll names).values name = headers.values name := by
  rw [values, removeAll, List.filter_filter, values]
  congr 1
  refine List.filter_congr fun field _ => ?_
  by_cases hname : field.1 = name
  · simp [hname, h]
  · simp [hname]

/-- Of fields that are set one after another, the last one counts. -/
theorem values_foldl_set (fields headers : Headers) (name : String) :
    (fields.foldl (fun hs field => hs.set field.1 field.2) headers).values name =
      (fields.values name).getLast?.elim (headers.values name) ([·]) := by
  induction fields generalizing headers with
  | nil => rfl
  | cons field fields ih =>
    obtain ⟨other, value⟩ := field
    rw [List.foldl_cons, ih]
    by_cases hname : other = name
    · subst hname
      have hvalues : values ((other, value) :: fields) other = value :: values fields other := by
        simp [values]
      rw [hvalues, List.getLast?_cons, values_set_self]
      cases (values fields other).getLast? <;> rfl
    · have hvalues : values ((other, value) :: fields) name = values fields name := by
        simp [values, hname]
      rw [hvalues, values_set_of_ne _ _ (Ne.symm hname)]

/-- A name has no value exactly when no field has that name. -/
theorem values_eq_nil_iff : headers.values name = [] ↔ name ∉ headers.map Prod.fst := by
  rw [values, List.map_eq_nil_iff, List.filter_eq_nil_iff, List.mem_map]
  simp only [beq_iff_eq, not_exists, not_and]

/-! ### Fields that concern one connection -/

/-- A `Connection` field lists a name: it is a text of words with commas between them, and one of
the words is the name, in letters of any case and with blanks around it. -/
def Lists (headers : Headers) (name : String) : Prop :=
  name ≠ "" ∧ ∃ value ∈ headers.values "connection", ∃ text, visible? value = some text ∧
    ∃ word ∈ text.toList.splitOn ',', Text.lower (Text.trim (String.ofList word)) = name

/-- The request asks to go on with a protocol: a `Connection` field lists `upgrade`, and the first
`Upgrade` field says which one it is. -/
def AsksFor (headers : Headers) (protocol : Bytes) : Prop :=
  headers.Lists "upgrade" ∧ ∃ others, headers.values "upgrade" = protocol :: others

/-- A name is listed exactly when the function that collects the words of the `Connection` fields
finds it, the empty word apart. -/
theorem lists_iff : headers.Lists name ↔ name ≠ "" ∧ name ∈ headers.connectionWords := by
  simp only [Lists, connectionWords, List.mem_map, List.mem_flatMap, List.mem_filterMap]
  refine and_congr_right fun _ => ⟨?_, ?_⟩
  · rintro ⟨value, hvalue, text, htext, word, hword, rfl⟩
    exact ⟨word, ⟨text, ⟨value, hvalue, htext⟩, hword⟩, rfl⟩
  · rintro ⟨word, ⟨text, ⟨value, hvalue, htext⟩, hword⟩, rfl⟩
    exact ⟨value, hvalue, text, htext, word, hword, rfl⟩

/-- The function that looks for an upgrade finds a protocol exactly when the request asks to go on
with that protocol. -/
theorem upgrade?_eq_some_iff {protocol : Bytes} :
    headers.upgrade? = some protocol ↔ headers.AsksFor protocol := by
  rw [AsksFor, lists_iff, upgrade?, get?]
  by_cases hlisted : "upgrade" ∈ headers.connectionWords
  · simp [hlisted, List.head?_eq_some_iff]
  · simp [hlisted]

/-- What the `Connection` fields list depends on them alone. -/
theorem connectionWords_congr {headers' : Headers}
    (h : headers.values "connection" = headers'.values "connection") :
    headers.connectionWords = headers'.connectionWords := by
  rw [connectionWords, h, connectionWords]

/-- Of the fields that do not always concern one connection, those go that are listed. -/
theorem values_stripHop (hhop : name ∉ hopByHop) (hname : name ≠ "") (keepsUpgrade : Bool) :
    (headers.stripHop keepsUpgrade).values name =
      if name ∈ headers.connectionWords then [] else headers.values name := by
  have hconnection : name ≠ "connection" := fun h => hhop (h ▸ by decide)
  have hupgrade : name ≠ "upgrade" := fun h => hhop (h ▸ by decide)
  by_cases hlisted : name ∈ headers.connectionWords
  · rw [if_pos hlisted]
    refine values_removeAll_of_mem ?_
    simp [hlisted, hname, hconnection, hupgrade]
  · rw [if_neg hlisted]
    refine values_removeAll_of_not_mem ?_
    simp [hlisted, hhop]

/-- The others go all, but for the two that ask for another protocol. -/
theorem values_stripHop_of_mem (hhop : name ∈ hopByHop) {keepsUpgrade : Bool}
    (hkept : keepsUpgrade = true → name ≠ "connection" ∧ name ≠ "upgrade") :
    (headers.stripHop keepsUpgrade).values name = [] := by
  refine values_removeAll_of_mem ?_
  rcases keepsUpgrade with _ | _
  · simp [hhop]
  · simp [hhop, hkept rfl]

end ReverseTunnel.Http.Headers
