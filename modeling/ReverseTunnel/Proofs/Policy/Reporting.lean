import ReverseTunnel.Proofs.Policy.WellFormed

/-!
# What is wrong with a policy

The error of a policy that is refused names a field of the request and shows at most one of its
texts. A field of header entries has the names and the values of its entries as texts.

## Main results

* `Policy.reported`: every error is about one of the slots of the request.
-/

namespace ReverseTunnel

/-- Every error has a message. -/
theorem FieldError.message_ne_empty (e : FieldError) : e.message ≠ "" := by
  have hhead : e.message.toList.head? = some 'i' := by
    rcases e with field | field | ⟨field, value⟩ <;>
      simp only [message, String.toList_append] <;> rfl
  intro h
  rw [h] at hhead
  cases hhead

namespace Policy

open Text

/-- The texts that a field has, and what can be said about them. -/
structure Slot where
  field : String
  texts : List String

/-- The texts of header entries. -/
def headerTexts (entries : List HeaderEntry) : List String :=
  entries.flatMap fun entry => [entry.name, entry.value]

/-- What a credential is told to be wrong with; the credential itself is not shown. -/
def credentialFaults : List String := ["missing ':'", "empty user"]

/-- The fields of which a policy is made, in the order in which they are read. -/
def slots (r : HttpTunnelRequest) : List Slot := [
  ⟨"basic_auth", credentialFaults⟩,
  ⟨"allow_cidr", r.allowCidr⟩,
  ⟨"deny_cidr", r.denyCidr⟩,
  ⟨"allow_method", r.allowMethod⟩,
  ⟨"allow_path", r.allowPath⟩,
  ⟨"allow_path_prefix", r.allowPathPrefix⟩,
  ⟨"request_header_add", headerTexts r.requestHeaderAdd⟩,
  ⟨"request_header_remove", r.requestHeaderRemove⟩,
  ⟨"response_header_add", headerTexts r.responseHeaderAdd⟩,
  ⟨"response_header_remove", r.responseHeaderRemove⟩]

/-- What an error says about a field. -/
inductive Slot.Blamed (slot : Slot) : FieldError → Prop
  | length : slot.Blamed (.tooManyEntries slot.field)
  | empty : slot.Blamed (.emptyEntry slot.field)
  | text {text : String} (h : text ∈ slot.texts) : slot.Blamed (.invalidEntry slot.field text)

/-! ### Faults -/

section

variable {α : Type} {e : FieldError} {field : String} {texts : List String}

/-- A list is refused for its length or for one of its entries. -/
theorem listFault_blamed {limit : Nat} {fault : String → α → Fault} {entries : List α}
    (hentry : ∀ entry ∈ entries, fault field entry e → (⟨field, texts⟩ : Slot).Blamed e)
    (h : listFault limit fault field entries e) : (⟨field, texts⟩ : Slot).Blamed e := by
  rcases h with ⟨-, rfl⟩ | ⟨-, h⟩
  · exact .length
  · obtain ⟨_, hmem, hfault⟩ := h.exists_mem
    obtain ⟨entry, hlisted, rfl⟩ := List.mem_map.mp hmem
    exact hentry entry hlisted hfault

/-- A text that is not what it should be is shown. -/
theorem when_blamed {condition : Prop} {text : String} (hmem : text ∈ texts)
    (h : Fault.when condition (.invalidEntry field text) e) :
    (⟨field, texts⟩ : Slot).Blamed e := by
  obtain ⟨-, rfl⟩ := h
  exact .text hmem

/-- A text that is no network is shown, too, if it is not empty. -/
theorem networkFault_blamed {text : String} (hmem : text ∈ texts) (h : networkFault field text e) :
    (⟨field, texts⟩ : Slot).Blamed e := by
  rcases h with ⟨-, rfl⟩ | ⟨-, h⟩
  · exact .empty
  · exact when_blamed hmem (first_singleton.mp h)

/-- A header entry is refused for its name or for its value. -/
theorem headerFault_blamed {entries : List HeaderEntry} {entry : HeaderEntry}
    (hmem : entry ∈ entries) (h : headerFault field entry e) :
    (⟨field, headerTexts entries⟩ : Slot).Blamed e := by
  have hname : entry.name ∈ headerTexts entries := List.mem_flatMap.mpr ⟨entry, hmem, by simp⟩
  have hvalue : entry.value ∈ headerTexts entries := List.mem_flatMap.mpr ⟨entry, hmem, by simp⟩
  rcases h with h | ⟨-, h⟩
  · exact when_blamed hname h
  · exact when_blamed hvalue (first_singleton.mp h)

/-- A refused credential is reported in fixed words, so that nothing of the password is shown. -/
theorem credentialFault_blamed {raw : String} (h : credentialFault raw e) :
    (⟨"basic_auth", credentialFaults⟩ : Slot).Blamed e := by
  rcases h with h | ⟨-, h⟩
  · exact when_blamed (by decide) h
  · exact when_blamed (by decide) (first_singleton.mp h)

end

/-- **Every error of a policy is about one field of the request.** -/
theorem reported {r : HttpTunnelRequest} {e : FieldError} (h : ofRequest r = .error e) :
    ∃ slot ∈ slots r, slot.Blamed e := by
  obtain ⟨fault, hmem, hfault⟩ := (((judges_ofRequest r).error_iff e).mp h).exists_mem
  have here {slot : Slot} (hslot : slot ∈ slots r) (hblamed : slot.Blamed e) :
      ∃ slot ∈ slots r, slot.Blamed e := ⟨slot, hslot, hblamed⟩
  simp only [faults, List.mem_cons, List.not_mem_nil, or_false] at hmem
  rcases hmem with rfl | rfl | rfl | rfl | rfl | rfl | rfl | rfl | rfl | rfl
  · exact here (by simp [slots]) (credentialFault_blamed hfault)
  · exact here (by simp [slots]) (listFault_blamed (fun _ => networkFault_blamed) hfault)
  · exact here (by simp [slots]) (listFault_blamed (fun _ => networkFault_blamed) hfault)
  · exact here (by simp [slots]) (listFault_blamed (fun _ => when_blamed) hfault)
  · exact here (by simp [slots]) (listFault_blamed (fun _ => when_blamed) hfault)
  · exact here (by simp [slots]) (listFault_blamed (fun _ => when_blamed) hfault)
  · exact here (by simp [slots]) (listFault_blamed (fun _ => headerFault_blamed) hfault)
  · exact here (by simp [slots]) (listFault_blamed (fun _ => when_blamed) hfault)
  · exact here (by simp [slots]) (listFault_blamed (fun _ => headerFault_blamed) hfault)
  · exact here (by simp [slots]) (listFault_blamed (fun _ => when_blamed) hfault)

end Policy

end ReverseTunnel
