import ReverseTunnel.Policy.Credential
import ReverseTunnel.Proofs.Http.Plain
import ReverseTunnel.Proofs.Text.Base64
import ReverseTunnel.Proofs.Text.Normal

/-!
# Credentials and those who show them

A credential is asked for as `user:password`, and a visitor shows it in the same form, in base 64.
Both are cut at the first colon, so a user has none and a password may have any number. What a
visitor has to send is said in `ShownBy`, by how it is written: text is encoded there, never
decoded.

## Main results

* `parse_eq_some_iff`: which texts ask for a credential, and for which.
* `shown?_eq_some_iff`: which field values show a credential, and which.
* `verify_iff`: a credential is shown by exactly the values that are written for it.
-/

namespace ReverseTunnel.Credential

open Text Http

variable {raw : String} {credential : Credential} {value : Bytes}

/-- A text is put together of two parts with a mark between them. -/
theorem eq_append_iff {s before behind mark : String} {c : Char} (hmark : mark.toList = [c]) :
    s = before ++ mark ++ behind ↔ s.toList = before.toList ++ c :: behind.toList := by
  rw [← String.toList_inj, String.toList_append, String.toList_append, hmark, List.append_assoc,
    List.singleton_append]

/-! ### Asking -/

/-- A text is split at its first colon, and both sides are kept as they are. -/
theorem splitColon?_eq_some_iff {s before behind : String} :
    splitColon? s = some (before, behind) ↔ s = before ++ ":" ++ behind ∧ ':' ∉ before.toList := by
  rw [splitColon?, Option.map_eq_some_iff, eq_append_iff (c := ':') rfl, ← splitFirst_eq_some_iff]
  constructor
  · rintro ⟨⟨a, b⟩, hsplit, heq⟩
    obtain ⟨rfl, rfl⟩ := Prod.mk.inj heq
    rwa [String.toList_ofList, String.toList_ofList]
  · intro hsplit
    refine ⟨_, hsplit, ?_⟩
    dsimp only
    rw [String.ofList_toList, String.ofList_toList]

/-- Only a text without a colon cannot be split. -/
theorem splitColon?_eq_none_iff {s : String} : splitColon? s = none ↔ ':' ∉ s.toList := by
  rw [splitColon?, Option.map_eq_none_iff, splitFirst_eq_none]

/-- What is said of a text with a colon in it. -/
theorem parse_of_colon {user password : String} (htext : trim raw = user ++ ":" ++ password)
    (hcolon : ':' ∉ user.toList) :
    parse raw = if (trim user).isEmpty then .error (.invalidEntry "basic_auth" "empty user")
      else .ok (some ⟨trim user, password⟩) := by
  have hsome : ¬ (trim raw).isEmpty = true := by
    rw [htext]
    simp
  rw [parse, if_neg hsome, splitColon?_eq_some_iff.mpr ⟨htext, hcolon⟩]

/-- A text without a colon asks for nothing, or it is none. -/
theorem parse_of_no_colon (hcolon : ':' ∉ (trim raw).toList) :
    parse raw = if (trim raw).isEmpty then .ok none
      else .error (.invalidEntry "basic_auth" "missing ':'") := by
  rw [parse, splitColon?_eq_none_iff.mpr hcolon]

/-- A text has no colon, or it has a part in front of the first one. -/
theorem no_colon_or_split (s : String) :
    ':' ∉ s.toList ∨ ∃ user password, s = user ++ ":" ++ password ∧ ':' ∉ user.toList := by
  rcases hsplit : splitColon? s with _ | ⟨user, password⟩
  · exact .inl (splitColon?_eq_none_iff.mp hsplit)
  · exact .inr ⟨user, password, splitColon?_eq_some_iff.mp hsplit⟩

/-- A credential is asked for by its user, a colon and its password. -/
theorem parse_eq_some_iff :
    parse raw = .ok (some credential) ↔
      ∃ user, trim raw = user ++ ":" ++ credential.password ∧ ':' ∉ user.toList ∧
        trim user = credential.user ∧ credential.user ≠ "" := by
  constructor
  · intro h
    rcases no_colon_or_split (trim raw) with hnone | ⟨user, password, htext, hcolon⟩
    · rw [parse_of_no_colon hnone] at h
      split at h <;> cases h
    · rw [parse_of_colon htext hcolon] at h
      split at h
      · cases h
      · rename_i hempty
        cases h
        exact ⟨user, htext, hcolon, rfl, fun heq => hempty (String.isEmpty_iff.mpr heq)⟩
  · rintro ⟨user, htext, hcolon, huser, hsome⟩
    rw [parse_of_colon htext hcolon, huser, if_neg (mt String.isEmpty_iff.mp hsome)]

/-- The user of an accepted credential has no colon, since it stood in front of the first one. -/
theorem not_mem_user_of_parse (h : parse raw = .ok (some credential)) :
    ':' ∉ credential.user.toList := by
  obtain ⟨user, -, hcolon, huser, -⟩ := parse_eq_some_iff.mp h
  rw [← huser, trim, String.toList_ofList]
  exact fun hmem => hcolon (trimBy_subset _ hmem)

/-! ### Showing -/

/-- The values of a field in which a visitor shows a credential. -/
inductive ShownBy (credential : Credential) : Bytes → Prop
  | basic {text scheme encoded : String} (hplain : Plain text.toList)
      (htext : trim text = scheme ++ " " ++ encoded) (hscheme : lower scheme = "basic")
      (hencoded : (trim encoded).toList =
        Base64.encode (Utf8.encode (credential.user ++ ":" ++ credential.password))) :
      ShownBy credential (Utf8.encode text)

/-- The word in front of the credential has no blank in it. -/
theorem not_mem_of_lower {scheme : String} (h : lower scheme = "basic") : ' ' ∉ scheme.toList := by
  intro hmem
  have hlower : ' ' ∈ (lower scheme).toList := by
    rw [lower, String.toList_ofList]
    exact List.mem_map.mpr ⟨' ', hmem, rfl⟩
  rw [h] at hlower
  exact absurd hlower (by decide)

/-- The credential that is found in a field is one that the field shows, and every credential is
found that is shown and whose user has no colon. -/
theorem shown?_eq_some_iff :
    shown? value = some credential ↔
      ':' ∉ credential.user.toList ∧ credential.ShownBy value := by
  constructor
  · intro h
    obtain ⟨text, hvisible, h⟩ := Option.bind_eq_some_iff.mp h
    obtain ⟨⟨scheme, encoded⟩, hsplit, h⟩ := Option.bind_eq_some_iff.mp h
    obtain ⟨hscheme, h⟩ := Option.ite_none_right_eq_some.mp h
    obtain ⟨bytes, hbytes, h⟩ := Option.bind_eq_some_iff.mp h
    obtain ⟨decoded, hdecoded, h⟩ := Option.bind_eq_some_iff.mp h
    obtain ⟨⟨user, password⟩, hcolon, h⟩ := Option.bind_eq_some_iff.mp h
    obtain rfl := Option.some.inj h
    obtain ⟨hplain, rfl⟩ := visible?_eq_some_iff.mp hvisible
    obtain ⟨rfl, hfirst⟩ := splitColon?_eq_some_iff.mp hcolon
    obtain rfl := Utf8.decode?_eq_some_iff.mp hdecoded
    have htext : trim text = String.ofList scheme ++ " " ++ String.ofList encoded := by
      rw [eq_append_iff (c := ' ') rfl, String.toList_ofList, String.toList_ofList]
      exact (splitFirst_eq_some hsplit).1
    have hencoded : (trim (String.ofList encoded)).toList =
        Base64.encode (Utf8.encode (user ++ ":" ++ password)) := by
      rw [trim, String.toList_ofList, String.toList_ofList]
      exact Base64.decode?_eq_some_iff.mp hbytes
    exact ⟨hfirst, .basic hplain htext (beq_iff_eq.mp hscheme) hencoded⟩
  · rintro ⟨hcolon, ⟨hplain, htext, hscheme, hencoded⟩⟩
    rename_i text scheme encoded
    have hsplit : splitFirst ' ' (trim text).toList = some (scheme.toList, encoded.toList) := by
      rw [(eq_append_iff (c := ' ') rfl).mp htext]
      exact splitFirst_append (not_mem_of_lower hscheme)
    have hword : sameIgnoringCase (String.ofList scheme.toList) "basic" = true := by
      rw [sameIgnoringCase, String.ofList_toList, hscheme]
      rfl
    have hbytes : Base64.decode? (trimBy isBlank encoded.toList) =
        some (Utf8.encode (credential.user ++ ":" ++ credential.password)) := by
      rw [Base64.decode?_eq_some_iff, ← hencoded, trim, String.toList_ofList]
    simp only [shown?, visible?_eq_some_iff.mpr ⟨hplain, rfl⟩, hsplit, if_pos hword, hbytes,
      Utf8.decode?_encode, splitColon?_eq_some_iff.mpr ⟨rfl, hcolon⟩, Option.bind_eq_bind,
      Option.bind_some]

/-- **A credential is shown by exactly the values that are written for it.** -/
theorem verify_iff (h : parse raw = .ok (some credential)) :
    credential.verify (some value) = true ↔ credential.ShownBy value := by
  rw [verify, Option.bind_some, beq_iff_eq, shown?_eq_some_iff]
  exact and_iff_right (not_mem_user_of_parse h)

end ReverseTunnel.Credential
