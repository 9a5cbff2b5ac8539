import ReverseTunnel.Http.Message

/-!
# Targets that were read

A target is read as one of four: a star, a path, an authority alone, or a URL. Only a target that
is an authority alone has no path.

## Main results

* `Uri.Form.of_parse?`: what can be read.
* `Uri.Form.toOrigin`: a target with a path keeps that path when it is written without authority.
-/

namespace ReverseTunnel.Http.Uri

/-- What a target can be, by its parts. -/
inductive Form : Uri → Prop
  | bare (path : String) (query : Option String) : Form ⟨none, none, path, query⟩
  | authority {a : List Char} (h : isAuthority a = true) :
      Form ⟨none, some (String.ofList a), "", none⟩
  | full (scheme : String) {a : List Char} (h : isAuthority a = true) (path : String)
      (query : Option String) : Form ⟨some scheme, some (String.ofList a), path, query⟩

namespace Form

/-- A target that is an authority, or that has a scheme in front of one, is read into one of the
forms. -/
theorem of_parseFull? {cs : List Char} {u : Uri} (h : parseFull? cs = some u) : Form u := by
  have hauthority {rest : List Char} (hgood : ¬ (!isAuthority rest || rest.isEmpty) = true) :
      isAuthority rest = true := by
    rw [Bool.not_eq_true, Bool.or_eq_false_iff, Bool.not_eq_false'] at hgood
    exact hgood.1
  rcases hscheme : splitScheme? cs with _ | ⟨scheme, rest⟩
  · simp only [parseFull?, hscheme] at h
    split at h
    · cases h
    · rename_i hgood
      split at h
      · cases h
        exact .authority (hauthority hgood)
      · cases h
  · simp only [parseFull?, hscheme] at h
    split at h
    · cases h
    · rename_i hgood
      split at h
      · cases h
      · obtain ⟨⟨path, query⟩, -, rfl⟩ := Option.map_eq_some_iff.mp h
        exact .full _ (hauthority hgood) _ query

/-- Whatever is read as a target is read into one of the forms. -/
theorem of_parse? {s : String} {u : Uri} (h : parse? s = some u) : Form u := by
  rw [parse?] at h
  split at h
  · cases h
  · split at h
    · cases h
    · cases h
      exact .bare "*" none
    · obtain ⟨⟨path, query⟩, -, rfl⟩ := Option.map_eq_some_iff.mp h
      exact .bare path query
    · exact of_parseFull? h

/-- A target with a path keeps path and query when it is written as these alone. -/
theorem toOrigin {u : Uri} (h : Form u) (hpath : u.path ≠ "") :
    u.toOrigin = ⟨none, none, u.path, u.query⟩ := by
  cases h with
  | bare => rfl
  | authority => exact absurd rfl hpath
  | full => rfl

end Form

end ReverseTunnel.Http.Uri
