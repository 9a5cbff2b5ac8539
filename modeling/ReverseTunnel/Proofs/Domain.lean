import Mathlib.Data.List.TakeWhile
import ReverseTunnel.Client.Resume
import ReverseTunnel.Proofs.Text.Normal
import ReverseTunnel.Proofs.Text.Split
import ReverseTunnel.Server.Settings

/-!
# Names of tunnels and back

A tunnel is announced by a URL: its id in front of the tunnel domain. A client that wants it back
takes the host out of that URL and asks for it, and the server takes the id out of the host. On the
way the text passes one normal form after another, each of which could change it. None does, since
the host is in its normal form already (`Clean`), however the operator wrote the domain.

## Main results

* `Clean.normalizeChars`, `Clean.ofInput`: a clean host is its own normal form.
* `Spells.normalizeChars`: every spelling of a host has the same normal form.
* `IsWritten.clean`: the normal form of a domain as it is usually written is clean.
* `hostOfUrl_publicUrl`, `label?_announced`: the host of the announced URL names the id.
-/

namespace ReverseTunnel.Domain

open Text

/-! ### Clean hosts -/

/-- A character of a host in its normal form: one of a label, or the dot between two of them. -/
def isHostChar (c : Char) : Bool := isLabelChar c || c == '.'

/-- A host in its normal form. -/
structure Clean (cs : List Char) : Prop where
  chars : ∀ c ∈ cs, isHostChar c = true
  last : cs.getLast? ≠ some '.'

section

variable {c : Char} {cs front : List Char}

/-- The numbers of these characters. -/
theorem toNat_of_isHostChar (h : isHostChar c = true) :
    c.toNat = 0x2D ∨ c.toNat = 0x2E ∨ 0x30 ≤ c.toNat ∧ c.toNat ≤ 0x39 ∨
      0x61 ≤ c.toNat ∧ c.toNat ≤ 0x7A := by
  simp only [isHostChar, isLabelChar, isDigit, Bool.or_eq_true, Bool.and_eq_true,
    decide_eq_true_eq, beq_iff_eq] at h
  rcases h with ((⟨hlow, hhigh⟩ | ⟨hlow, hhigh⟩) | rfl) | rfl
  · exact .inr (.inr (.inr ⟨hlow, hhigh⟩))
  · exact .inr (.inr (.inl ⟨hlow, hhigh⟩))
  · exact .inl rfl
  · exact .inr (.inl rfl)

/-- What may stand in a label may stand in a host. -/
theorem isHostChar_of_isLabelChar (h : isLabelChar c = true) : isHostChar c = true := by
  simp [isHostChar, h]

/-- A host has no blanks, so trimming one takes nothing from it. -/
theorem isBlank_of_isHostChar (h : isHostChar c = true) : isBlank c = false := by
  have hnat := toNat_of_isHostChar h
  simp only [isBlank, Bool.or_eq_false_iff, Bool.and_eq_false_iff, decide_eq_false_iff_not,
    beq_eq_false_iff_ne]
  omega

/-- Of other characters there are none. -/
theorem ne_of_isHostChar (h : isHostChar c = true) {d : Char} (hd : isHostChar d = false) :
    c ≠ d := by
  rintro rfl
  exact absurd (h.symm.trans hd) (by decide)

/-- The characters of a host are their own small letters. -/
theorem toLower_of_isHostChar (h : isHostChar c = true) : c.toLower = c := by
  have hnat := toNat_of_isHostChar h
  refine dif_neg fun hcapital => ?_
  obtain ⟨hlow, hhigh⟩ := hcapital
  have hlow : 0x41 ≤ c.toNat := hlow
  have hhigh : c.toNat ≤ 0x5A := hhigh
  omega

end

namespace Clean

variable {cs front : List Char}

/-- A character that no host may hold is not in a clean one. -/
theorem not_mem (h : Clean cs) {d : Char} (hd : isHostChar d = false) : d ∉ cs :=
  fun hmem => ne_of_isHostChar (h.chars d hmem) hd rfl

/-- **A clean host is its own normal form.** -/
theorem normalizeChars (h : Clean cs) : normalizeChars cs = cs := by
  have hport : stripPort cs = cs := by
    unfold stripPort
    split
    · exact absurd List.mem_cons_self (h.not_mem (by decide))
    · rw [splitLast_of_not_mem (h.not_mem (by decide))]
  have hlower : cs.map Char.toLower = cs :=
    (List.map_congr_left fun c hc => toLower_of_isHostChar (h.chars c hc)).trans (List.map_id cs)
  rw [Domain.normalizeChars, trimBy_of_forall fun c hc => isBlank_of_isHostChar (h.chars c hc),
    hport, stripDot, dropEnd?_of_getLast? h.last]
  exact hlower

/-- Nothing in a clean host ends it. -/
theorem takeWhile_eq (h : Clean cs) :
    cs.takeWhile (fun c => c != '/' && c != '?' && c != '#') = cs := by
  refine List.takeWhile_eq_self_iff.mpr fun c hc => ?_
  simp [ne_of_isHostChar (h.chars c hc) (by decide : isHostChar '/' = false),
    ne_of_isHostChar (h.chars c hc) (by decide : isHostChar '?' = false),
    ne_of_isHostChar (h.chars c hc) (by decide : isHostChar '#' = false)]

/-- Nor does it matter whether it is taken for a URL. -/
theorem ofInput (h : Clean cs) : ofInput (String.ofList cs) = String.ofList cs := by
  have hmark : splitAtMark "://".toList cs = none :=
    splitAtMark_of_not_mem (by decide) (h.not_mem (by decide : isHostChar ':' = false))
  have huser : splitLast '@' cs = none := splitLast_of_not_mem (h.not_mem (by decide))
  simp only [Domain.ofInput, String.toList_ofList, hmark, huser, h.takeWhile_eq, normalize,
    h.normalizeChars, trimBy_of_forall fun c hc => isBlank_of_isHostChar (h.chars c hc)]

/-- A label in front of a clean host gives a clean host. -/
theorem label (h : Clean cs) (hsome : cs ≠ []) {label : List Char}
    (hlabel : ∀ c ∈ label, isLabelChar c = true) : Clean (label ++ '.' :: cs) where
  chars c hc := by
    rcases List.mem_append.mp hc with hc | hc
    · exact isHostChar_of_isLabelChar (hlabel c hc)
    · rcases List.mem_cons.mp hc with rfl | hc
      · rfl
      · exact h.chars c hc
  last := by
    have hlast := h.last
    rw [List.getLast?_eq_some_getLast hsome] at hlast
    simpa [List.getLast?_append, List.getLast?_cons, List.getLast?_eq_some_getLast hsome]
      using hlast

end Clean

/-! ### Labels -/

/-- An id that is a label consists of small letters, digits and hyphens. -/
theorem isLabelChar_of_isLabel {id : String} (h : isLabel id = true) :
    ∀ c ∈ id.toList, isLabelChar c = true := by
  simp only [isLabel, Bool.and_eq_true, List.all_eq_true] at h
  exact h.2

/-- An id that is a label is not empty. -/
theorem toList_ne_nil_of_isLabel {id : String} (h : isLabel id = true) : id.toList ≠ [] := by
  simp only [isLabel, Bool.and_eq_true, Bool.not_eq_true', List.isEmpty_eq_false_iff] at h
  exact h.1.1.1.1

/-- Random ids are labels. -/
theorem isLabel_of_isRandomId {id : String} (h : Registry.isRandomId id = true) :
    isLabel id = true := by
  have halphabet : ∀ c ∈ Registry.idAlphabet, isLabelChar c = true ∧ c ≠ '-' := by
    have hall : (Registry.idAlphabet.all fun c => isLabelChar c && c != '-') = true := by decide
    simpa only [List.all_eq_true, Bool.and_eq_true, bne_iff_ne] using hall
  simp only [Registry.isRandomId, Registry.idLength, Bool.and_eq_true, beq_iff_eq,
    List.all_eq_true, List.contains_iff_mem] at h
  obtain ⟨hlength, hall⟩ := h
  have hsome : id.toList ≠ [] := by
    rw [← List.length_pos_iff, hlength]
    decide
  have hhyphen : '-' ∉ id.toList := fun hmem => (halphabet '-' (hall '-' hmem)).2 rfl
  simp only [isLabel, Bool.and_eq_true, Bool.not_eq_true', List.isEmpty_eq_false_iff,
    decide_eq_true_eq, bne_iff_ne, List.all_eq_true]
  refine ⟨⟨⟨⟨hsome, by omega⟩, fun hhead => ?_⟩, fun hlast => ?_⟩,
    fun c hc => (halphabet c (hall c hc)).1⟩
  · exact hhyphen (List.mem_of_mem_head? (hhead ▸ rfl))
  · exact hhyphen (List.mem_of_getLast? hlast)

/-- A label is its own comparable form. -/
theorem normalId?_of_isLabel {id : String} (h : isLabel id = true) :
    Registry.normalId? id = some id := by
  have hchars : ∀ c ∈ id.toList, isHostChar c = true := fun c hc =>
    isHostChar_of_isLabelChar (isLabelChar_of_isLabel h c hc)
  have htrim : trim id = id := by
    rw [trim, trimBy_of_forall fun c hc => isBlank_of_isHostChar (hchars c hc),
      String.ofList_toList]
  have hlower : lower id = id := by
    have hmap : id.toList.map Char.toLower = id.toList :=
      (List.map_congr_left fun c hc => toLower_of_isHostChar (hchars c hc)).trans (List.map_id _)
    rw [lower, hmap, String.ofList_toList]
  have hsome : id.isEmpty = false := by
    simpa using toList_ne_nil_of_isLabel h
  simp only [Registry.normalId?, htrim, hlower, hsome]
  rfl

/-! ### Domains -/

/-- A port as it stands behind a host, or nothing. -/
def IsPort (port : List Char) : Prop :=
  port = [] ∨ ∃ digits : List Char, port = ':' :: digits ∧ ∀ c ∈ digits, isDigit c = true

/-- Whether a domain is written as usual: labels of letters in either case, digits and hyphens,
with dots between them, and then perhaps a dot, a port, or both. -/
def IsWritten (domain : String) : Prop :=
  ∃ (labels : List (List Char)) (dot port : List Char),
    domain.toList = ['.'].intercalate labels ++ dot ++ port ∧
    labels ≠ [] ∧ (∀ label ∈ labels, label ≠ [] ∧ ∀ c ∈ label, isLabelChar c.toLower = true) ∧
    (dot = [] ∨ dot = ['.']) ∧ IsPort port

/-- Whether a text is labels of letters in either case, digits and hyphens, with dots between
them. -/
def IsName (host : List Char) : Prop :=
  ∃ labels : List (List Char), host = ['.'].intercalate labels ∧ labels ≠ [] ∧
    ∀ label ∈ labels, label ≠ [] ∧ ∀ c ∈ label, isLabelChar c.toLower = true

/-- Whether a text spells a host: in either case, and then perhaps with a dot, a port, or both. -/
def Spells (text host : List Char) : Prop :=
  ∃ core dot port : List Char, text = core ++ dot ++ port ∧
    core.map Char.toLower = host.map Char.toLower ∧ (dot = [] ∨ dot = ['.']) ∧ IsPort port

/-- A domain that is written as the configuration allows spells some name of a host. -/
theorem IsWritten.spells {domain : String} (h : IsWritten domain) :
    ∃ host, IsName host ∧ Spells domain.toList host := by
  obtain ⟨labels, dot, port, hdomain, hsome, hlabels, hdot, hport⟩ := h
  exact ⟨_, ⟨labels, rfl, hsome, hlabels⟩, _, dot, port, hdomain, rfl, hdot, hport⟩

/-- The text of a port is empty or a colon and digits, and each of these characters is a colon or
may stand in a label. -/
theorem IsPort.eq_or {port : List Char} (h : IsPort port) {c : Char} (hc : c ∈ port) :
    c = ':' ∨ isLabelChar c = true := by
  rcases h with rfl | ⟨digits, rfl, hdigits⟩
  · exact absurd hc List.not_mem_nil
  · rcases List.mem_cons.mp hc with rfl | hc
    · exact .inl rfl
    · exact .inr (by simp [isLabelChar, hdigits c hc])

/-- A port is cut off. -/
theorem IsPort.stripPort {front port : List Char} (h : IsPort port) (hopen : '[' ∉ front)
    (hcolon : ':' ∉ front) : stripPort (front ++ port) = front := by
  have hnone : '[' ∉ front ++ port := by
    intro hmem
    rcases List.mem_append.mp hmem with hmem | hmem
    · exact hopen hmem
    · exact absurd (h.eq_or hmem) (by decide)
  unfold Domain.stripPort
  split
  · rename_i rest heq
    exact absurd (heq ▸ List.mem_cons_self) hnone
  · rcases h with rfl | ⟨digits, rfl, hdigits⟩
    · rw [List.append_nil, splitLast_of_not_mem hcolon]
    · have hcolon' : ':' ∉ digits := fun hmem => absurd (hdigits ':' hmem) (by decide)
      have hall : digits.all isDigit = true := List.all_eq_true.mpr hdigits
      simp [splitLast_append hcolon', hcolon, hall]

/-- A dot at the end is cut off. -/
theorem stripDot_append {core dot : List Char} (hdot : dot = [] ∨ dot = ['.'])
    (hlast : core.getLast? ≠ some '.') : stripDot (core ++ dot) = core := by
  rcases hdot with rfl | rfl
  · rw [List.append_nil, stripDot, dropEnd?_of_getLast? hlast]
    rfl
  · rw [stripDot, dropEnd?_append]
    rfl

/-- Labels that are joined end as the last one does. -/
theorem getLast?_intercalate {labels : List (List Char)} {P : Char → Prop} (hsome : labels ≠ [])
    (h : ∀ label ∈ labels, label ≠ [] ∧ ∀ c ∈ label, P c) :
    ∃ c, (['.'].intercalate labels).getLast? = some c ∧ P c := by
  induction labels with
  | nil => exact absurd rfl hsome
  | cons label labels ih =>
    rcases labels with _ | ⟨next, labels⟩
    · obtain ⟨hlabel, hchars⟩ := h label List.mem_cons_self
      rw [List.intercalate_singleton]
      exact ⟨_, List.getLast?_eq_some_getLast hlabel, hchars _ (List.getLast_mem hlabel)⟩
    · obtain ⟨c, hlast, hc⟩ := ih (List.cons_ne_nil _ _)
        fun other hother => h other (List.mem_cons_of_mem _ hother)
      refine ⟨c, ?_, hc⟩
      rw [List.intercalate_cons_cons, List.getLast?_append, hlast, Option.some_or]

/-- A name in small letters is clean, and not empty. -/
theorem IsName.clean {host : List Char} (h : IsName host) :
    Clean (host.map Char.toLower) ∧ host.map Char.toLower ≠ [] := by
  obtain ⟨labels, rfl, hsome, hlabels⟩ := h
  obtain ⟨last, hlast, hlastChar⟩ := getLast?_intercalate hsome hlabels
  have hchars : ∀ c ∈ ['.'].intercalate labels, isHostChar c.toLower = true :=
    forall_mem_intercalate (fun c hc => by rw [List.mem_singleton.mp hc]; decide)
      fun label hlabel c hc => isHostChar_of_isLabelChar ((hlabels label hlabel).2 c hc)
  refine ⟨⟨List.forall_mem_map.mpr hchars, ?_⟩, ?_⟩
  · rw [List.getLast?_map, hlast, Option.map_some]
    intro heq
    rw [Option.some.inj heq] at hlastChar
    exact absurd hlastChar (by decide)
  · intro hnil
    rw [List.map_eq_nil_iff.mp hnil] at hlast
    cases hlast

namespace Spells

variable {text host : List Char}

/-- What stands in a text that spells a host: its characters, in either case, a dot, a colon and
digits. -/
theorem chars (h : Spells text host) (hclean : Clean (host.map Char.toLower)) :
    ∀ c ∈ text, isHostChar c.toLower = true ∨ c = ':' := by
  obtain ⟨core, dot, port, rfl, hcore, hdot, hport⟩ := h
  intro c hc
  rcases List.mem_append.mp hc with hc | hc
  · rcases List.mem_append.mp hc with hc | hc
    · exact .inl (hclean.chars _ (hcore ▸ List.mem_map_of_mem hc))
    · rcases hdot with rfl | rfl
      · exact absurd hc List.not_mem_nil
      · rw [List.mem_singleton.mp hc]
        exact .inl (by decide)
  · rcases hport.eq_or hc with rfl | hc
    · exact .inr rfl
    · have hhost := isHostChar_of_isLabelChar hc
      exact .inl ((toLower_of_isHostChar hhost).symm ▸ hhost)

/-- A character that no host may hold, in letters of any case, is in no spelling of a clean one, the
colon of the port apart. -/
theorem not_mem (h : Spells text host) (hclean : Clean (host.map Char.toLower)) {d : Char}
    (hd : isHostChar d.toLower = false) (hcolon : d ≠ ':') : d ∉ text := by
  intro hmem
  rcases h.chars hclean d hmem with hhost | heq
  · exact absurd (hhost.symm.trans hd) (by decide)
  · exact hcolon heq

/-- A spelling of a clean host has no blanks. -/
theorem isBlank_eq_false (h : Spells text host) (hclean : Clean (host.map Char.toLower)) :
    ∀ c ∈ text, isBlank c = false := by
  intro c hc
  rcases h.chars hclean c hc with hhost | rfl
  · rw [← isBlank_toLower]
    exact isBlank_of_isHostChar hhost
  · decide

/-- **Every spelling of a host has the same normal form.** -/
theorem normalizeChars (h : Spells text host) (hclean : Clean (host.map Char.toLower)) :
    normalizeChars text = host.map Char.toLower := by
  have hblank := h.isBlank_eq_false hclean
  obtain ⟨core, dot, port, rfl, hcore, hdot, hport⟩ := h
  have hfront : Spells (core ++ dot) host :=
    ⟨core, dot, [], (List.append_nil _).symm, hcore, hdot, .inl rfl⟩
  have hcolon : ':' ∉ core ++ dot := by
    intro hmem
    rcases List.mem_append.mp hmem with hmem | hmem
    · have hlower := List.mem_map_of_mem (f := Char.toLower) hmem
      rw [hcore] at hlower
      exact absurd (hclean.chars _ hlower) (by decide)
    · rcases hdot with rfl | rfl
      · exact absurd hmem List.not_mem_nil
      · exact absurd (List.mem_singleton.mp hmem) (by decide)
  have hlast : core.getLast? ≠ some '.' := by
    intro hdotted
    refine hclean.last ?_
    rw [← hcore, List.getLast?_map, hdotted]
    rfl
  rw [Domain.normalizeChars, trimBy_of_forall hblank,
    hport.stripPort (hfront.not_mem hclean (by decide) (by decide)) hcolon,
    stripDot_append hdot hlast, hcore]

end Spells

/-- **The normal form of a written domain** is clean and not empty. -/
theorem IsWritten.clean {domain : String} (h : IsWritten domain) :
    Clean (normalizeChars domain.toList) ∧ normalizeChars domain.toList ≠ [] := by
  obtain ⟨host, hname, hspells⟩ := h.spells
  rw [hspells.normalizeChars hname.clean.1]
  exact hname.clean

/-! ### The announced host -/

section

variable {domain id : String}

/-- The host under which a tunnel is announced. -/
def announced (domain id : String) : List Char := id.toList ++ '.' :: normalizeChars domain.toList

/-- The host that is announced for an id is clean, where the domain is one and the id is a label. -/
theorem clean_announced (hdomain : IsWritten domain) (hid : isLabel id = true) :
    Clean (announced domain id) :=
  hdomain.clean.1.label hdomain.clean.2 (isLabelChar_of_isLabel hid)

/-- The client takes this host out of the URL. -/
theorem hostOfUrl_publicUrl {s : Server.Settings} (hdomain : IsWritten s.tunnelDomain)
    (hid : isLabel id = true) :
    Client.hostOfUrl (s.publicUrl id) = String.ofList (announced s.tunnelDomain id) := by
  have hclean := clean_announced hdomain hid
  have hurl : (s.publicUrl id).toList =
      "https".toList ++ (':' :: "//".toList ++ announced s.tunnelDomain id) := by
    simp [Server.Settings.publicUrl, normalize, announced]
  have hmark : splitAtMark "://".toList (s.publicUrl id).toList =
      some ("https".toList, announced s.tunnelDomain id) := by
    rw [hurl]
    exact splitAtMark_append (by decide)
  rw [Client.hostOfUrl, hmark]
  exact congrArg String.ofList hclean.takeWhile_eq

/-- A label in front of the normal form of a domain is found there. -/
theorem label?_of_normalizeChars {host : String} (hid : isLabel id = true)
    (hsome : normalizeChars domain.toList ≠ [])
    (hhost : normalizeChars host.toList = announced domain id) : label? host domain = some id := by
  have hdot : '.' ∉ id.toList := fun hmem =>
    absurd (isLabelChar_of_isLabel hid '.' hmem) (by decide)
  have happend : announced domain id = (id.toList ++ ['.']) ++ normalizeChars domain.toList := by
    simp [announced]
  simp only [label?, hhost, happend, dropEnd?_append, Option.bind_eq_bind, Option.bind_some]
  simp [hsome, toList_ne_nil_of_isLabel hid, hdot]

/-- **The announced host names the id.** -/
theorem label?_announced (hdomain : IsWritten domain) (hid : isLabel id = true) :
    label? (String.ofList (announced domain id)) domain = some id := by
  refine label?_of_normalizeChars hid hdomain.clean.2 ?_
  rw [String.toList_ofList, (clean_announced hdomain hid).normalizeChars]

end

end ReverseTunnel.Domain
