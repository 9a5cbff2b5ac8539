import ReverseTunnel.Proofs.Http.Fields
import ReverseTunnel.Proofs.Policy.Reading

/-!
# What a policy changes

A tunnel may have fields removed and set on the way, in both directions. It touches the names that
it lists and no others, and no accepted policy lists a protected name. So whatever was done about a
protected field before is what arrives.

Fields are said to be the same here if every name has the same values in the same order. In which
order different names stand is nobody's concern.

## Main results

* `Policy.values_transform`: what becomes of a field.
* `Policy.values_transform_of_protected`: a protected field is left alone.
* `Policy.changes_by_name`: what becomes of all fields, and that a second time changes nothing.
-/

namespace ReverseTunnel.Policy

open Http

/-! ### Which names a policy lists -/

/-- A name that was accepted is none of the protected ones. -/
theorem not_protected_of_readName {field raw name : String} (h : readName field raw = .ok name) :
    name ∉ protectedHeaders := by
  simp only [readName] at h
  split at h
  · rename_i haccepted
    obtain rfl := Except.ok.inj h
    simp only [Bool.and_eq_true, Bool.not_eq_true', List.contains_eq_mem,
      decide_eq_false_iff_not] at haccepted
    exact haccepted.2
  · cases h

/-- No accepted list of names has a protected one. -/
theorem not_mem_of_readNames {field : String} {entries names : List String}
    (h : readNames field entries = .ok names) {name : String} (hname : name ∈ protectedHeaders) :
    name ∉ names := by
  intro hmem
  obtain ⟨entry, -, hread⟩ := of_mem_readEntries h hmem
  exact not_protected_of_readName hread hname

/-- No accepted list of fields has one with a protected name. -/
theorem not_mem_of_readHeaders {field : String} {entries : List HeaderEntry} {fields : Headers}
    (h : readHeaders field entries = .ok fields) {name : String}
    (hname : name ∈ protectedHeaders) : name ∉ fields.map Prod.fst := by
  intro hmem
  obtain ⟨added, hadded, hfirst⟩ := List.mem_map.mp hmem
  obtain ⟨entry, -, hread⟩ := of_mem_readEntries h hadded
  obtain ⟨read, hread, hrest⟩ := bind_eq_ok hread
  obtain ⟨value, -, hrest⟩ := bind_eq_ok hrest
  have hfield : read = name := by
    rw [← hfirst, ← Except.ok.inj hrest]
  exact not_protected_of_readName hread (hfield ▸ hname)

/-! ### What becomes of a field -/

section

variable {remove : List String} {add headers : Headers} {name : String}

/-- The last value that is set counts. A field that is not set is removed or left as it is. -/
theorem values_transform (remove : List String) (add headers : Headers) (name : String) :
    (transform remove add headers).values name =
      (add.values name).getLast?.elim (if name ∈ remove then [] else headers.values name)
        ([·]) := by
  have hremove : (headers.removeAll remove).values name =
      if name ∈ remove then [] else headers.values name := by
    split
    · exact Headers.values_removeAll_of_mem ‹_›
    · exact Headers.values_removeAll_of_not_mem ‹_›
  rw [← hremove]
  exact Headers.values_foldl_set add (headers.removeAll remove) name

/-- A field that is not set is removed or left as it is. -/
theorem values_transform_of_not_mem (hadd : name ∉ add.map Prod.fst) :
    (transform remove add headers).values name =
      if name ∈ remove then [] else headers.values name := by
  rw [values_transform, Headers.values_eq_nil_iff.mpr hadd]
  rfl

/-- The fields behind a list of removals and one of additions, by those before. -/
structure Changed (remove : List String) (add before after : Headers) : Prop where
  added : ∀ name ∈ add.map Prod.fst,
    ∃ value, (add.values name).getLast? = some value ∧ after.values name = [value]
  removed : ∀ name ∈ remove, name ∉ add.map Prod.fst → after.values name = []
  kept : ∀ name, name ∉ remove → name ∉ add.map Prod.fst →
    after.values name = before.values name

/-- The fields that the server makes of those of a message are the ones that `Changed` describes,
name by name. -/
theorem changed_transform (remove : List String) (add headers : Headers) :
    Changed remove add headers (transform remove add headers) where
  added name hmem := by
    have hsome : add.values name ≠ [] := fun hnil => Headers.values_eq_nil_iff.mp hnil hmem
    refine ⟨(add.values name).getLast hsome, List.getLast?_eq_some_getLast hsome, ?_⟩
    rw [values_transform, List.getLast?_eq_some_getLast hsome]
    rfl
  removed name hremove hadd := by rw [values_transform_of_not_mem hadd, if_pos hremove]
  kept name hremove hadd := by rw [values_transform_of_not_mem hadd, if_neg hremove]

/-- Fields that were changed once are not changed by the same lists any more. -/
theorem Changed.again {before once twice : Headers} (h : Changed remove add before once)
    (h' : Changed remove add once twice) (name : String) : twice.values name = once.values name := by
  by_cases hadd : name ∈ add.map Prod.fst
  · obtain ⟨value, hlast, honce⟩ := h.added name hadd
    obtain ⟨value', hlast', htwice⟩ := h'.added name hadd
    obtain rfl : value = value' := Option.some.inj (hlast.symm.trans hlast')
    rw [honce, htwice]
  · by_cases hremove : name ∈ remove
    · rw [h.removed name hremove hadd, h'.removed name hremove hadd]
    · exact h'.kept name hremove hadd

end

section

variable {wanted : HttpTunnelRequest} {policy : Policy} {headers : Headers} {name : String}

/-- **A protected field is left alone**, in requests and in responses. -/
theorem values_transform_of_protected (h : ReadFrom wanted policy)
    (hname : name ∈ protectedHeaders) :
    (policy.transformRequest headers).values name = headers.values name ∧
      (policy.transformResponse headers).values name = headers.values name := by
  rw [transformRequest, transformResponse,
    values_transform_of_not_mem (not_mem_of_readHeaders h.requestAdd hname),
    values_transform_of_not_mem (not_mem_of_readHeaders h.responseAdd hname),
    if_neg (not_mem_of_readNames h.requestRemove hname),
    if_neg (not_mem_of_readNames h.responseRemove hname)]
  exact ⟨rfl, rfl⟩

end

/-- **A policy changes the fields name by name.** Of the fields that it adds, each has the last value
that is given for it and no other, whether or not the policy removes it as well. Of the others,
those that it removes have no value, and the rest have theirs. So have `Host`, `Content-Length` and
all protected fields, which no accepted policy lists. It is all the same how often this is done. -/
theorem changes_by_name (wanted : HttpTunnelRequest) (policy : Policy)
    (h : ofRequest wanted = .ok policy) (headers : Headers) :
    Changed policy.requestRemove policy.requestAdd headers (policy.transformRequest headers) ∧
    Changed policy.responseRemove policy.responseAdd headers (policy.transformResponse headers) ∧
    (∀ name ∈ "host" :: "content-length" :: protectedHeaders,
      (policy.transformRequest headers).values name = headers.values name ∧
        (policy.transformResponse headers).values name = headers.values name) ∧
    ∀ name,
      (policy.transformRequest (policy.transformRequest headers)).values name =
          (policy.transformRequest headers).values name ∧
        (policy.transformResponse (policy.transformResponse headers)).values name =
          (policy.transformResponse headers).values name := by
  have hrequest (hs : Headers) : Changed policy.requestRemove policy.requestAdd hs
      (policy.transformRequest hs) := changed_transform _ _ hs
  have hresponse (hs : Headers) : Changed policy.responseRemove policy.responseAdd hs
      (policy.transformResponse hs) := changed_transform _ _ hs
  refine ⟨hrequest headers, hresponse headers, fun name hname => ?_, fun name => ⟨?_, ?_⟩⟩
  · have hprotected : ∀ name ∈ "host" :: "content-length" :: protectedHeaders,
        name ∈ protectedHeaders := by decide
    exact values_transform_of_protected (ofRequest_inv h) (hprotected name hname)
  · exact (hrequest headers).again (hrequest _) name
  · exact (hresponse headers).again (hresponse _) name

/-- A tunnel that adds a field twice, in letters of either case, and removes it as well. -/
def restampingRequest : HttpTunnelRequest where
  requestHeaderAdd := [⟨"X-Stamp", "first"⟩, ⟨"X-Zone", "a"⟩, ⟨" x-stamp ", "last"⟩]
  requestHeaderRemove := ["X-STAMP", "Cookie"]

/-- The policy of that tunnel. -/
def restampingPolicy : Policy where
  requestAdd := [("x-stamp", Text.Utf8.encode "first"), ("x-zone", Text.Utf8.encode "a"),
    ("x-stamp", Text.Utf8.encode "last")]
  requestRemove := ["x-stamp", "cookie"]

/-- A request with fields that have several values. -/
def stampedHeaders : Headers := [("host", Text.Utf8.encode "demo.tunnel.test"),
  ("x-stamp", Text.Utf8.encode "old"), ("accept", Text.Utf8.encode "text/html"),
  ("cookie", Text.Utf8.encode "a=1"), ("x-stamp", Text.Utf8.encode "older"),
  ("accept", Text.Utf8.encode "text/plain"), ("cookie", Text.Utf8.encode "b=2")]

/-- The field gets its last value, and the others keep theirs. -/
theorem restampingPolicy_changes :
    ofRequest restampingRequest = .ok restampingPolicy ∧
      (restampingPolicy.transformRequest stampedHeaders).values "x-stamp" =
        [Text.Utf8.encode "last"] ∧
      (restampingPolicy.transformRequest stampedHeaders).values "cookie" = [] ∧
      (restampingPolicy.transformRequest stampedHeaders).values "accept" =
        [Text.Utf8.encode "text/html", Text.Utf8.encode "text/plain"] ∧
      (restampingPolicy.transformRequest stampedHeaders).values "host" =
        [Text.Utf8.encode "demo.tunnel.test"] := by
  have hpolicy : ofRequest restampingRequest = .ok restampingPolicy := by rfl
  have ⟨hchanged, _, hprotected, _⟩ :=
    changes_by_name restampingRequest restampingPolicy hpolicy stampedHeaders
  have hlast : (restampingPolicy.requestAdd.values "x-stamp").getLast? =
      some (Text.Utf8.encode "last") := by rfl
  obtain ⟨value, hvalue, hvalues⟩ := hchanged.added "x-stamp" (by decide)
  obtain rfl : Text.Utf8.encode "last" = value := Option.some.inj (hlast.symm.trans hvalue)
  refine ⟨hpolicy, hvalues, hchanged.removed "cookie" (by decide) (by decide), ?_, ?_⟩
  · exact hchanged.kept "accept" (by decide) (by decide)
  · exact (hprotected "host" (by decide)).1

end ReverseTunnel.Policy
