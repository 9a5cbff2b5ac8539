import ReverseTunnel.Proofs.Domain
import ReverseTunnel.Proofs.Server.Claim
import ReverseTunnel.Server.Gateway

/-!
# One id for every spelling

A tunnel has one id, and many ways lead to it. A client asks for it by its label or by its whole
name, bare or in a URL, and visitors write the name into their requests as they like. All of them
have to come to the same id, or a name could be had that nobody can visit, or be reserved for two.

How a name is written is said in `Domain.Spells` and, for what stands around it, in `Locates`, both
without the functions that read it. What comes of it is said in `Agrees`.

## Main results

* `Domain.Locates.ofInput`: the host that an address leads to.
* `spellings_agree`: whatever spells a label in front of the tunnel domain names one id, under
  which the tunnel and the reservation are kept. What stands elsewhere names none.
-/

namespace ReverseTunnel.Domain

open Text

/-! ### What stands around a name -/

/-- Whether a text is another one between blanks. -/
def Padded (text core : List Char) : Prop :=
  ∃ before behind : List Char, text = before ++ core ++ behind ∧
    (∀ c ∈ before, isBlank c = true) ∧ ∀ c ∈ behind, isBlank c = true

/-- Whether a text is a label in either case, between blanks. -/
def Writes (text label : String) : Prop :=
  ∃ core : List Char, Padded text.toList core ∧
    core.map Char.toLower = label.toList.map Char.toLower

/-- The characters that end the host in a URL. -/
def endsHost (c : Char) : Bool := c == '/' || c == '?' || c == '#'

/-- Whether an address leads to a host: it spells the host, or it is a URL with the host in it. -/
inductive Locates (host : List Char) : List Char → Prop
  | bare {text : List Char} (h : Spells text host) : Locates host text
  | url {scheme user text tail : List Char} (hscheme : ':' ∉ scheme)
      (huser : user = [] ∨ ∃ info, user = info ++ ['@'] ∧ ∀ c ∈ info, endsHost c = false)
      (h : Spells text host)
      (htail : tail = [] ∨ ∃ c rest, tail = c :: rest ∧ endsHost c = true) :
      Locates host (scheme ++ "://".toList ++ user ++ text ++ tail)

/-- Where no tunnel is: at the tunnel domain itself, without a dot in front of it, and further
down. -/
inductive Misses (domain : List Char) : List Char → Prop
  | itself : Misses domain domain
  | glued {label : List Char} (h : '.' ∉ label) : Misses domain (label ++ domain)
  | nested (outer inner : List Char) : Misses domain (outer ++ '.' :: inner ++ '.' :: domain)

/-! ### How it is read -/

section

variable {text core host : List Char} {value : String}

/-- What is no blank is all that is left of a padded text. -/
theorem Padded.trimBy (h : Padded text core) (hcore : ∀ c ∈ core, isBlank c = false) :
    trimBy isBlank text = core := by
  obtain ⟨before, behind, rfl, hbefore, hbehind⟩ := h
  exact trimBy_of_padded hbefore hbehind hcore

/-- A label is read off each of its spellings. -/
theorem Writes.lower_trim {name label : String} (h : Writes name label)
    (hlabel : isLabel (lower label) = true) : lower (trim name) = lower label := by
  obtain ⟨core, hpadded, hcore⟩ := h
  have hblank : ∀ c ∈ core, isBlank c = false := by
    intro c hc
    have hmem : c.toLower ∈ (lower label).toList := by
      rw [lower, String.toList_ofList, ← hcore]
      exact List.mem_map_of_mem hc
    rw [← isBlank_toLower]
    exact isBlank_of_isHostChar (isHostChar_of_isLabelChar (isLabelChar_of_isLabel hlabel _ hmem))
  rw [lower, trim, String.toList_ofList, hpadded.trimBy hblank, hcore, lower]

/-- In front of the path, the host stands alone or behind the last `@`. -/
theorem authority_cases {user tail : List Char} (h : Spells text host)
    (hclean : Clean (host.map Char.toLower))
    (huser : user = [] ∨ ∃ info, user = info ++ ['@'] ∧ ∀ c ∈ info, endsHost c = false)
    (htail : tail = [] ∨ ∃ c rest, tail = c :: rest ∧ endsHost c = true) :
    ∃ authority, (user ++ text ++ tail).takeWhile (fun c => c != '/' && c != '?' && c != '#') =
        authority ∧
      (splitLast '@' authority = none ∧ authority = text ∨
        ∃ info, splitLast '@' authority = some (info, text)) := by
  have hends (c : Char) : (c != '/' && c != '?' && c != '#') = !endsHost c := by
    simp [endsHost, Bool.and_assoc, bne]
  have hfront : ∀ c ∈ user ++ text, (!endsHost c) = true := by
    intro c hc
    rcases List.mem_append.mp hc with hc | hc
    · rcases huser with rfl | ⟨info, rfl, hinfo⟩
      · exact absurd hc List.not_mem_nil
      · rcases List.mem_append.mp hc with hc | hc
        · simp [hinfo c hc]
        · rw [List.mem_singleton.mp hc]
          decide
    · have hnot {d : Char} (hd : isHostChar d.toLower = false) (hcolon : d ≠ ':') : c ≠ d := by
        rintro rfl
        exact h.not_mem hclean hd hcolon hc
      simp [endsHost, hnot (by decide : isHostChar '/'.toLower = false) (by decide),
        hnot (by decide : isHostChar '?'.toLower = false) (by decide),
        hnot (by decide : isHostChar '#'.toLower = false) (by decide)]
  have htake : (user ++ text ++ tail).takeWhile (fun c => !endsHost c) = user ++ text := by
    rw [List.takeWhile_append_of_pos hfront]
    rcases htail with rfl | ⟨c, rest, rfl, hc⟩
    · simp
    · simp [hc]
  have hat : '@' ∉ text := h.not_mem hclean (by decide) (by decide)
  simp only [hends]
  refine ⟨user ++ text, htake, ?_⟩
  rcases huser with rfl | ⟨info, rfl, -⟩
  · exact .inl ⟨splitLast_of_not_mem hat, rfl⟩
  · refine .inr ⟨info, ?_⟩
    rw [List.append_assoc, List.singleton_append, splitLast_append hat]

/-- The host of an input is the same without the blanks around the input. -/
theorem ofInput_trim (value : String) : ofInput (trim value) = ofInput value := by
  simp only [ofInput, trim, String.toList_ofList, trimBy_trimBy]

/-- A spelling of a name is not empty. -/
theorem Spells.ne_nil (h : Spells text host) (hsome : host ≠ []) : text ≠ [] := by
  rintro rfl
  obtain ⟨core, dot, port, hnil, hcore, -⟩ := h
  simp only [List.nil_eq, List.append_eq_nil_iff] at hnil
  rw [hnil.1.1] at hcore
  exact hsome (List.map_eq_nil_iff.mp hcore.symm)

/-- There is something to read in an address. -/
theorem Locates.not_blank (h : Locates host core) (hpadded : Padded value.toList core)
    (hclean : Clean (host.map Char.toLower)) (hsome : host ≠ []) : blank value = false := by
  obtain ⟨c, hc, hblank⟩ : ∃ c ∈ core, isBlank c = false := by
    cases h with
    | bare h =>
      obtain ⟨c, hc⟩ := List.exists_mem_of_ne_nil core (h.ne_nil hsome)
      exact ⟨c, hc, h.isBlank_eq_false hclean c hc⟩
    | url => exact ⟨':', by simp, by decide⟩
  obtain ⟨before, behind, hvalue, -, -⟩ := hpadded
  have hmem : c ∈ value.toList := by
    rw [hvalue]
    exact List.mem_append_left _ (List.mem_append_right _ hc)
  rw [blank, List.all_eq_false]
  exact ⟨c, hmem, by simp [hblank]⟩

/-- What is read of an input once it is clear where the host begins. -/
theorem ofInput_of_authority {user tail : List Char}
    (hrest : splitAtMark "://".toList (trimBy isBlank value.toList) = none ∧
        trimBy isBlank value.toList = user ++ text ++ tail ∨
      ∃ scheme, splitAtMark "://".toList (trimBy isBlank value.toList) =
        some (scheme, user ++ text ++ tail))
    (h : Spells text host) (hclean : Clean (host.map Char.toLower))
    (huser : user = [] ∨ ∃ info, user = info ++ ['@'] ∧ ∀ c ∈ info, endsHost c = false)
    (htail : tail = [] ∨ ∃ c rest, tail = c :: rest ∧ endsHost c = true) :
    ofInput value = String.ofList (host.map Char.toLower) := by
  obtain ⟨authority, htake, hauthority⟩ := authority_cases h hclean huser htail
  have hnormal : normalize (String.ofList text) = String.ofList (host.map Char.toLower) := by
    rw [normalize, String.toList_ofList, h.normalizeChars hclean]
  rcases hrest with ⟨hmark, hrest⟩ | ⟨scheme, hmark⟩
  · rw [hrest] at hmark
    rcases hauthority with ⟨hat, rfl⟩ | ⟨info, hat⟩
    · simp only [ofInput, hmark, hrest, htake, hat, hnormal]
    · simp only [ofInput, hmark, hrest, htake, hat, hnormal]
  · rcases hauthority with ⟨hat, rfl⟩ | ⟨info, hat⟩
    · simp only [ofInput, hmark, htake, hat, hnormal]
    · simp only [ofInput, hmark, htake, hat, hnormal]

/-- **The host that an address leads to.** -/
theorem Locates.ofInput (h : Locates host core) (hpadded : Padded value.toList core)
    (hclean : Clean (host.map Char.toLower)) (hsome : host ≠ []) :
    ofInput value = String.ofList (host.map Char.toLower) := by
  cases h with
  | bare h =>
    have hmark : splitAtMark "://".toList core = none :=
      splitAtMark_of_not_mem (by decide : '/' ∈ "://".toList)
        (h.not_mem hclean (by decide) (by decide))
    have htrim := hpadded.trimBy (h.isBlank_eq_false hclean)
    refine ofInput_of_authority (.inl ⟨htrim.symm ▸ hmark, ?_⟩) h hclean (.inl rfl) (.inl rfl)
    rw [htrim, List.nil_append, List.append_nil]
  | @url scheme user text tail hscheme huser h htail =>
    obtain ⟨before, behind, hvalue, hbefore, hbehind⟩ := hpadded
    have htext : text ≠ [] := h.ne_nil hsome
    -- Trimming leaves the host alone, and with it all that stands between the mark and the host.
    obtain ⟨tail', htail', htrim⟩ : ∃ tail' : List Char,
        (tail' = [] ∨ ∃ c rest, tail' = c :: rest ∧ endsHost c = true) ∧
        trimBy isBlank value.toList = (before ++ scheme).dropWhile isBlank ++
          ("://".toList ++ (user ++ text ++ tail')) := by
      refine ⟨((tail ++ behind).reverse.dropWhile isBlank).reverse, ?_, ?_⟩
      · rcases htail with rfl | ⟨c, rest, rfl, hc⟩
        · left
          rw [List.nil_append, dropWhile_eq_nil.mpr fun c hc => hbehind c (List.mem_reverse.mp hc)]
          rfl
        · have hblank : isBlank c = false := by
            simp only [endsHost, Bool.or_eq_true, beq_iff_eq] at hc
            rcases hc with (rfl | rfl) | rfl <;> decide
          have hreverse : (c :: rest ++ behind).reverse = (rest ++ behind).reverse ++ c :: [] := by
            simp
          rw [hreverse, dropWhile_append_cons hblank]
          exact .inr ⟨c, ((rest ++ behind).reverse.dropWhile isBlank).reverse, by simp, hc⟩
      · have hsplit : value.toList =
            (before ++ scheme) ++ ("://".toList ++ (user ++ text)) ++ (tail ++ behind) := by
          rw [hvalue]
          simp only [List.append_assoc]
        have hlast : ∀ c ∈ ("://".toList ++ (user ++ text)).getLast?, isBlank c = false := by
          intro c hc
          rw [← List.append_assoc, List.getLast?_append,
            List.getLast?_eq_some_getLast htext, Option.some_or] at hc
          exact h.isBlank_eq_false hclean c (Option.some.inj hc ▸ List.getLast_mem htext)
        rw [hsplit, trimBy_append (by simp) (by simp [isBlank]) hlast]
        simp only [List.append_assoc]
    have hscheme' : ':' ∉ (before ++ scheme).dropWhile isBlank := by
      intro hmem
      rcases List.mem_append.mp ((List.dropWhile_suffix _).subset hmem) with hmem | hmem
      · exact absurd (hbefore ':' hmem) (by decide)
      · exact hscheme hmem
    have hmark : splitAtMark "://".toList (trimBy isBlank value.toList) =
        some ((before ++ scheme).dropWhile isBlank, user ++ text ++ tail') := by
      rw [htrim]
      exact splitAtMark_append hscheme'
    exact ofInput_of_authority (.inr ⟨_, hmark⟩) h hclean huser htail'

/-- **Where no tunnel is, no id is found.** -/
theorem Misses.label? {host domain : String}
    (h : Misses (normalizeChars domain.toList) (normalizeChars host.toList)) :
    label? host domain = none := by
  unfold Domain.label?
  generalize normalizeChars host.toList = shown at h ⊢
  cases h with
  | itself => simp [dropEnd?]
  | @glued label hlabel =>
    have hnone : dropEnd? ['.'] label = none :=
      dropEnd?_of_getLast? fun hlast => hlabel (List.mem_of_getLast? hlast)
    simp [dropEnd?_append, hnone]
  | nested outer inner =>
    have happend : outer ++ '.' :: inner ++ '.' :: normalizeChars domain.toList =
        (outer ++ '.' :: inner ++ ['.']) ++ normalizeChars domain.toList := by simp
    simp only [happend, dropEnd?_append, Option.bind_eq_bind, Option.bind_some]
    simp

end

end ReverseTunnel.Domain

namespace ReverseTunnel.Server

open Domain Text

/-! ### What the server makes of it -/

/-- What a label in front of a domain stands for, however the two are written. -/
structure Agrees (tunnelDomain label domain : String) : Prop where
  /-- A client can ask for the label. -/
  subdomain : ∀ request : HttpTunnelRequest, Writes request.subdomain label →
    blank request.domain = true →
    namedId tunnelDomain request = .ok (some (lower label))
  /-- Or for the whole name. -/
  name : ∀ (request : HttpTunnelRequest) (address : List Char), blank request.subdomain = true →
    Padded request.domain.toList address →
    Locates (label.toList ++ '.' :: domain.toList) address →
    namedId tunnelDomain request = .ok (some (lower label))
  /-- A visitor names it as a host. -/
  host : ∀ host : String, Spells host.toList (label.toList ++ '.' :: domain.toList) →
    label? host tunnelDomain = some (lower label)
  /-- The tunnel is looked for under the same id. -/
  visited : ∀ {σ : Type} (s : Gateway.Settings) (registry : Registry σ) (host : String),
    s.tunnelDomain = tunnelDomain → Spells host.toList (label.toList ++ '.' :: domain.toList) →
    Gateway.tunnel? s registry host = registry.tunnels.get? (lower label)
  /-- It is kept under the same id, too, whatever spelling is kept. -/
  registered : ∀ {σ : Type} (registry registry' : Registry σ) (tunnel tunnel' : Tunnel σ),
    Writes tunnel.id label → registry.register tunnel = .ok (tunnel', registry') →
    tunnel'.id = lower label ∧ registry'.tunnels.get? (lower label) = some tunnel'
  /-- So is the reservation. -/
  reserved : ∀ (store store' : Store) (owner : TokenId) (name : String), Writes name label →
    store.reserve? owner (.subdomain name) = some store' →
    store.owner? (.subdomain name) = store.owners.get? (.subdomain (lower label)) ∧
      store'.owners.get? (.subdomain (lower label)) = some owner
  /-- No id is found at other hosts. -/
  nowhere : ∀ host : String,
    Misses (domain.toList.map Char.toLower) (normalizeChars host.toList) →
    label? host tunnelDomain = none
  /-- None is given for their names. -/
  refused : ∀ request : HttpTunnelRequest, blank request.subdomain = true →
    blank request.domain = false →
    Misses (domain.toList.map Char.toLower) (normalizeChars (ofInput request.domain).toList) →
    namedId tunnelDomain request = .error ⟨.invalidRequest, "invalid domain"⟩

section

variable {tunnelDomain label domain : String} {request : HttpTunnelRequest}

/-- A request that names a subdomain and no domain names the label in small letters. -/
theorem namedId_of_subdomain (h : Writes request.subdomain label)
    (hblank : blank request.domain = true) (hlabel : isLabel (lower label) = true) :
    namedId tunnelDomain request = .ok (some (lower label)) := by
  have hsome : (lower label).isEmpty = false := by
    simpa using toList_ne_nil_of_isLabel hlabel
  simp only [namedId, h.lower_trim hlabel, isEmpty_trim, hblank, hsome, hlabel, if_true]

/-- A request that names a domain and no subdomain names the label in front of the server's own
domain, and is refused if there is none. -/
theorem namedId_of_domain (hblank : blank request.subdomain = true)
    (hsome : blank request.domain = false) :
    namedId tunnelDomain request =
      ((label? (ofInput request.domain) tunnelDomain).filter isLabel).elim
        (.error ⟨.invalidRequest, "invalid domain"⟩) fun id => .ok (some id) := by
  simp only [namedId, isEmpty_lower, isEmpty_trim, hblank, hsome, ofInput_trim]
  rcases (label? (ofInput request.domain) tunnelDomain).filter isLabel with _ | id
  · rfl
  · rfl

/-- A tunnel that could be registered is found under the id that its own is read as. -/
theorem registered_under {σ : Type} {registry registry' : Registry σ} {tunnel tunnel' : Tunnel σ}
    {id : String} (hid : Registry.normalId? tunnel.id = some id)
    (h : registry.register tunnel = .ok (tunnel', registry')) :
    tunnel'.id = id ∧ registry'.tunnels.get? id = some tunnel' := by
  simp only [Registry.register, hid] at h
  split at h
  · cases h
  · obtain ⟨rfl, rfl⟩ := Prod.mk.inj (Except.ok.inj h)
    exact ⟨rfl, Table.get?_put_self _ _ _⟩

/-- **One id for every spelling.** A label and the server's own domain may be written in letters of
any case, the domain with a dot or a port behind it, and either with blanks or a whole URL around
it. Whoever asks for the tunnel, visits it, keeps it or owns it means the label in small letters,
and no id is found where another host is spelled. -/
theorem spellings_agree (hlabel : isLabel (lower label) = true)
    (hname : IsName domain.toList) (hdomain : Spells tunnelDomain.toList domain.toList) :
    Agrees tunnelDomain label domain := by
  obtain ⟨hclean, hsome⟩ := hname.clean
  have hlower : (lower label).toList = label.toList.map Char.toLower := by
    rw [lower, String.toList_ofList]
  have hnormal : normalizeChars tunnelDomain.toList = domain.toList.map Char.toLower :=
    hdomain.normalizeChars hclean
  have hwhole : announced tunnelDomain (lower label) =
      (label.toList ++ '.' :: domain.toList).map Char.toLower := by
    rw [announced, hnormal, hlower, List.map_append, List.map_cons]
    rfl
  have hwholeClean : Clean ((label.toList ++ '.' :: domain.toList).map Char.toLower) := by
    rw [← hwhole, announced, hnormal]
    exact hclean.label hsome (isLabelChar_of_isLabel hlabel)
  have hfound {host : String} (hhost : normalizeChars host.toList =
      (label.toList ++ '.' :: domain.toList).map Char.toLower) :
      label? host tunnelDomain = some (lower label) :=
    label?_of_normalizeChars hlabel (hnormal ▸ hsome) (hhost.trans hwhole.symm)
  have hid : Registry.normalId? (lower label) = some (lower label) :=
    normalId?_of_isLabel hlabel
  have hlabelSome : (lower label).isEmpty = false := by
    simpa using toList_ne_nil_of_isLabel hlabel
  constructor
  case subdomain =>
    intro request hwrites hblank
    exact namedId_of_subdomain hwrites hblank hlabel
  case name =>
    intro request address hblank hpadded hlocates
    have hinput := hlocates.ofInput hpadded hwholeClean (by simp)
    rw [namedId_of_domain hblank (hlocates.not_blank hpadded hwholeClean (by simp)), hinput,
      hfound (by rw [String.toList_ofList, hwholeClean.normalizeChars])]
    simp only [Option.filter_some, hlabel, if_true, Option.elim_some]
  case host =>
    intro host hspells
    exact hfound (hspells.normalizeChars hwholeClean)
  case visited =>
    rintro σ s registry host rfl hspells
    rw [Gateway.tunnel?, hfound (hspells.normalizeChars hwholeClean), Option.bind_some,
      Registry.get?, hid, Option.bind_some]
  case registered =>
    intro σ registry registry' tunnel tunnel' hwrites hregister
    have hkey : Registry.normalId? tunnel.id = some (lower label) := by
      rw [Registry.normalId?, hwrites.lower_trim hlabel, if_neg (by simp [hlabelSome])]
    exact registered_under hkey hregister
  case reserved =>
    intro store store' owner name hwrites hreserve
    have hkey : (Place.subdomain name).normal = .subdomain (lower label) := by
      rw [Place.normal, hwrites.lower_trim hlabel]
    have howner := owner?_of_reserve? hreserve
    rw [Store.owner?, hkey] at howner
    exact ⟨by rw [Store.owner?, hkey], howner⟩
  case nowhere =>
    intro host hmisses
    rw [← hnormal] at hmisses
    exact hmisses.label?
  case refused =>
    intro request hblank hfull hmisses
    rw [← hnormal] at hmisses
    rw [namedId_of_domain hblank hfull, hmisses.label?, Option.filter_none, Option.elim_none]

/-- The spellings agree about `Demo` in front of a domain that is written in mixed letters, with a
dot and a port behind it. -/
theorem demo_agrees :
    isLabel (lower "Demo") = true ∧ IsName "Tunnel.Example.com".toList ∧
      Spells "tunnel.EXAMPLE.com.:443".toList "Tunnel.Example.com".toList ∧
      Agrees "tunnel.EXAMPLE.com.:443" "Demo" "Tunnel.Example.com" ∧
      namedId "tunnel.EXAMPLE.com.:443"
          { domain := " https://me:p@ss@DEMO.tunnel.example.com.:8443/a?b://c " } =
        .ok (some "demo") := by
  have hlabel : isLabel (lower "Demo") = true := by decide
  have hname : IsName "Tunnel.Example.com".toList := by
    have hchars : (["Tunnel".toList, "Example".toList, "com".toList].all fun label =>
        label.all fun c => isLabelChar c.toLower) = true := by decide
    refine ⟨["Tunnel".toList, "Example".toList, "com".toList], by decide, by simp, ?_⟩
    intro label hmem
    refine ⟨?_, List.all_eq_true.mp (List.all_eq_true.mp hchars label hmem)⟩
    rintro rfl
    exact absurd hmem (by decide)
  have hdomain : Spells "tunnel.EXAMPLE.com.:443".toList "Tunnel.Example.com".toList := by
    refine ⟨"tunnel.EXAMPLE.com".toList, ['.'], ":443".toList, by decide, by decide, .inr rfl, ?_⟩
    exact .inr ⟨"443".toList, by decide, List.all_eq_true.mp (by decide)⟩
  refine ⟨hlabel, hname, hdomain, spellings_agree hlabel hname hdomain, ?_⟩
  decide

end

end ReverseTunnel.Server
