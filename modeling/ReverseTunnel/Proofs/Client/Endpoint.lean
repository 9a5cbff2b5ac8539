import ReverseTunnel.Client.Endpoint
import ReverseTunnel.Proofs.Http.Authority
import ReverseTunnel.Proofs.Policy.Reading
import ReverseTunnel.Proofs.Text.Normal

/-!
# Endpoints that are written and read

An endpoint is what a URL says about a server: a host without the brackets around it, a port, and
whether the connection is secured. Its authority is written with the brackets again and without the
port of the scheme, so that it can be read back, unless the host is an authority only with what
stood around it: a host that has a percent sign, or brackets inside it, and no colon.

The port is the one that is written. A text that stands where a port is written but is none is
passed over, as if nothing stood there.

## Main results

* `parse_eq_ok_iff`: what is read of a URL.
* `isHost_of_parse`: what the host of an endpoint looks like.
* `parse_url_eq_ok_iff`: which endpoints are read back from what is written of them.
* `written_ports_are_taken`: where the port of an endpoint comes from, and what is read back.
-/

namespace ReverseTunnel.Endpoint

open Text Http

/-! ### Brackets around a host -/

section

variable {host : String}

/-- A host has no bracket that is open at its front or closed at its end. -/
def Bare (host : List Char) : Prop := host.head? ≠ some '[' ∧ host.getLast? ≠ some ']'

instance : DecidablePred Bare := fun _ => inferInstanceAs (Decidable (_ ∧ _))

/-- What is left when a mark is dropped in front does not begin with it. -/
theorem head?_dropWhile_ne {mark : Char} (cs : List Char) :
    (cs.dropWhile (· == mark)).head? ≠ some mark := fun h => by
  simpa [h] using List.head?_dropWhile_not (· == mark) cs

/-- Nothing is dropped exactly from what does not begin with the mark. -/
theorem dropWhile_eq_self_iff_head? {mark : Char} {cs : List Char} :
    cs.dropWhile (· == mark) = cs ↔ cs.head? ≠ some mark := by
  constructor
  · intro h
    rw [← h]
    exact head?_dropWhile_ne cs
  · intro h
    rcases cs with _ | ⟨c, cs⟩
    · rfl
    · exact List.dropWhile_cons_of_neg (by simpa using h)

/-- Brackets are stripped in front first, and then at the end. -/
theorem toList_stripBrackets (host : String) :
    (stripBrackets host).toList =
      ((host.toList.dropWhile (· == '[')).reverse.dropWhile (· == ']')).reverse := by
  rw [stripBrackets, String.toList_ofList]

/-- What is left has no brackets around it. -/
theorem bare_stripBrackets (host : String) : Bare (stripBrackets host).toList := by
  rw [toList_stripBrackets]
  generalize hfront : host.toList.dropWhile (· == '[') = front
  have hhead : front.head? ≠ some '[' := hfront ▸ head?_dropWhile_ne host.toList
  constructor
  · -- What is left begins like what was there, if it is not empty.
    have hprefix := List.reverse_prefix.mpr (List.dropWhile_suffix (· == ']') (l := front.reverse))
    rw [List.reverse_reverse] at hprefix
    intro h
    obtain ⟨rest, hrest⟩ := List.head?_eq_some_iff.mp h
    rw [hrest] at hprefix
    obtain ⟨behind, rfl⟩ := hprefix
    exact hhead rfl
  · rw [List.getLast?_reverse]
    exact head?_dropWhile_ne _

/-- Stripping changes nothing exactly if there are no brackets around the host. -/
theorem stripBrackets_eq_self_iff : stripBrackets host = host ↔ Bare host.toList := by
  constructor
  · intro h
    rw [← h]
    exact bare_stripBrackets host
  · rintro ⟨hhead, hlast⟩
    rw [← List.head?_reverse] at hlast
    rw [stripBrackets, dropWhile_eq_self_iff_head?.mpr hhead, dropWhile_eq_self_iff_head?.mpr hlast,
      List.reverse_reverse, String.ofList_toList]

/-- Brackets are put around a host that has a colon, and around no other. -/
theorem toList_bracketed (host : String) :
    (bracketed host).toList =
      if ':' ∈ host.toList then '[' :: host.toList ++ [']'] else host.toList := by
  rw [bracketed]
  split
  · rename_i h
    rw [if_pos (by simpa using h)]
    simp
  · rename_i h
    rw [if_neg (by simpa using h)]

/-- The brackets that are put around a host are taken away again. -/
theorem stripBrackets_bracketed (host : String) :
    stripBrackets (bracketed host) = stripBrackets host := by
  by_cases hcolon : ':' ∈ host.toList
  · -- A colon stands between the brackets, so that each side is stripped by itself.
    obtain ⟨before, behind, hhost⟩ := List.append_of_mem hcolon
    have hdrop {mark : Char} (h : mark ≠ ':') (cs cs' : List Char) :
        (cs ++ ':' :: cs').dropWhile (· == mark) = cs.dropWhile (· == mark) ++ ':' :: cs' :=
      dropWhile_append_cons (by simpa using h.symm) cs cs'
    have hopen : '[' :: (before ++ ':' :: behind) ++ [']'] =
        '[' :: before ++ ':' :: (behind ++ [']']) := by simp
    rw [stripBrackets, toList_bracketed, if_pos hcolon, stripBrackets, hhost, hopen]
    simp [hdrop]
  · rw [stripBrackets, toList_bracketed, if_neg hcolon, stripBrackets]

end

/-! ### Hosts of endpoints -/

/-- What the host of an endpoint looks like: there are no brackets around it, and if it has colons
it is an authority with them. -/
structure IsHost (host : List Char) : Prop where
  isAuthorityChar : ∀ c ∈ host, Uri.IsAuthorityChar c
  no_user : '@' ∉ host
  bare : Bare host
  no_close : ':' ∈ host → ']' ∉ host
  address : ':' ∈ host → Uri.isAuthority ('[' :: host ++ [']']) = true

/-- Stripping adds no characters. -/
theorem stripBrackets_subset (host : String) : (stripBrackets host).toList ⊆ host.toList := by
  rw [toList_stripBrackets]
  intro c hc
  have hback := (List.dropWhile_sublist _).subset (List.mem_reverse.mp hc)
  exact (List.dropWhile_sublist _).subset (List.mem_reverse.mp hback)

/-- The host of an authority is that of an endpoint once its brackets are stripped. -/
theorem isHost_stripBrackets {host : List Char} (h : Uri.HostForm host) :
    IsHost (stripBrackets (String.ofList host)).toList := by
  cases h with
  | @address inner huser hopen hclose h =>
    have hchars := Uri.isAuthorityChar_of_isAuthority h
    have hbare : Bare inner :=
      ⟨fun hhead => hopen (List.mem_of_mem_head? hhead), fun hlast =>
        hclose (List.mem_of_getLast? hlast)⟩
    have hinner : (stripBrackets (String.ofList ('[' :: inner ++ [']']))).toList = inner := by
      have hfront : '[' ∉ inner ++ [']'] := by simpa using hopen
      have hback : ']' ∉ inner.reverse := by simpa using hclose
      rw [toList_stripBrackets, String.toList_ofList, List.cons_append,
        List.dropWhile_cons_of_pos (by rfl), dropWhile_eq_self_iff_head?.mpr fun hhead =>
          hfront (List.mem_of_mem_head? hhead), List.reverse_append, List.reverse_singleton,
        List.singleton_append, List.dropWhile_cons_of_pos (by rfl),
        dropWhile_eq_self_iff_head?.mpr fun hhead => hback (List.mem_of_mem_head? hhead),
        List.reverse_reverse]
    rw [hinner]
    exact ⟨fun c hc => hchars c (by simp [hc]), huser, hbare, fun _ => hclose, fun _ => h⟩
  | name huser hcolon h =>
    have hsubset := stripBrackets_subset (String.ofList host)
    rw [String.toList_ofList] at hsubset
    exact ⟨fun c hc => h c (hsubset hc), fun hc => huser (hsubset hc), bare_stripBrackets _,
      fun hc => absurd (hsubset hc) hcolon, fun hc => absurd (hsubset hc) hcolon⟩

/-! ### Reading a URL -/

section

variable {url : String} {e : Endpoint}

/-- What is read of a URL: whether its scheme is a secured one, the host of its authority, and the
port that is written there or that of the scheme. -/
theorem parse_eq_ok_iff :
    parse url = .ok e ↔ ∃ u authority, Uri.parse? (trim url) = some u ∧
      u.authority = some (String.ofList authority) ∧ Uri.hostOf authority ≠ [] ∧
      secured? u.scheme = .ok e.tls ∧
      e.host = stripBrackets (String.ofList (Uri.hostOf authority)) ∧
      e.port = (Uri.portOf? authority).getD (defaultPort e.tls) := by
  rw [parse]
  constructor
  · intro h
    obtain ⟨u, hu, h⟩ := bind_eq_ok h
    obtain ⟨tls, htls, h⟩ := bind_eq_ok h
    rcases hauthority : u.authority with _ | authority
    · simp only [Uri.host?, hauthority, Option.map_none] at h
      cases h
    · simp only [Uri.host?, Uri.port?, hauthority, Option.map_some, Option.bind_some] at h
      split at h
      · cases h
      · rename_i hsome
        obtain rfl := Except.ok.inj h
        refine ⟨u, authority.toList, elim_eq_ok_iff.mp hu, ?_, ?_, htls, rfl, rfl⟩
        · rw [String.ofList_toList, hauthority]
        · rintro hnil
          exact hsome (by rw [hnil]; rfl)
  · rintro ⟨u, authority, hu, hauthority, hsome, htls, hhost, hport⟩
    have hsome' : ¬ (String.ofList (Uri.hostOf authority)).isEmpty = true := by
      rwa [String.isEmpty_iff, ← String.toList_eq_nil_iff, String.toList_ofList]
    refine bind_eq_ok_iff.mpr ⟨u, elim_eq_ok_iff.mpr hu, bind_eq_ok_iff.mpr ⟨e.tls, htls, ?_⟩⟩
    simp only [Uri.host?, Uri.port?, hauthority, Option.map_some, Option.bind_some,
      String.toList_ofList, if_neg hsome', ← hport]
    change Except.ok (Endpoint.mk (stripBrackets _) e.port e.tls) = Except.ok e
    rw [← hhost]

end

/-! ### Reading what was written -/

/-- An endpoint written as a URL. -/
def url (e : Endpoint) : String := (if e.tls then "https" else "http") ++ "://" ++ e.authority

/-- What stands behind the host: the port, unless it is that of the scheme. -/
def portPart (e : Endpoint) : List Char :=
  if e.port = defaultPort e.tls then [] else ':' :: Nat.toDigits 10 e.port.toNat

/-- What can stand behind a host. -/
inductive PortForm : List Char → Prop
  | absent : PortForm []
  | port {digits : List Char} (hsome : digits ≠ []) (hdigits : ∀ c ∈ digits, isDigit c = true) :
      PortForm (':' :: digits)

section

variable {host : String} {behind : List Char} {e : Endpoint}

/-- Behind a host there is nothing but a colon and digits. -/
theorem PortForm.not_mem (h : PortForm behind) {c : Char} (hcolon : c ≠ ':')
    (hdigit : isDigit c = false) : c ∉ behind := by
  cases h with
  | absent => exact List.not_mem_nil
  | port _ hdigits =>
    rw [List.mem_cons, not_or]
    refine ⟨hcolon, fun hmem => ?_⟩
    rw [hdigits c hmem] at hdigit
    cases hdigit

/-- What stands behind a host may stand in an authority. -/
theorem PortForm.isAuthorityChar (h : PortForm behind) : ∀ c ∈ behind, Uri.IsAuthorityChar c := by
  cases h with
  | absent => exact fun _ hc => absurd hc List.not_mem_nil
  | port _ hdigits =>
    exact List.forall_mem_cons.mpr
      ⟨by decide, fun c hc => .inr (Uri.isPlainChar_of_isDigit (hdigits c hc))⟩

/-- What is written behind the host of an endpoint has the form of a port. -/
theorem portForm_portPart (e : Endpoint) : PortForm e.portPart := by
  rw [portPart]
  split
  · exact .absent
  · exact .port Nat.toDigits_ne_nil fun _ hc => Json.Number.isDigit_of_mem_toDigits hc

/-- What is written of an endpoint: its host, in brackets if they are needed, and what stands
behind. -/
theorem toList_authority (e : Endpoint) :
    e.authority.toList = (bracketed e.host).toList ++ e.portPart := by
  rw [authority, portPart]
  split
  · rw [List.append_nil]
  · rw [String.toList_append, String.toList_append, List.append_assoc]
    exact congrArg (_ ++ ':' :: ·) String.toList_ofList

/-- The host is read from what is written. -/
theorem hostOf_bracketed (h : IsHost host.toList) (hbehind : PortForm behind) :
    Uri.hostOf ((bracketed host).toList ++ behind) = (bracketed host).toList := by
  have huser : '@' ∉ host.toList ++ behind := by
    rw [List.mem_append, not_or]
    exact ⟨h.no_user, hbehind.not_mem (by decide) (by decide)⟩
  rw [toList_bracketed]
  split
  · rename_i hcolon
    have hinner : ∀ c ∈ host.toList, (c != ']') = true := fun c hc =>
      bne_iff_ne.mpr fun heq => h.no_close hcolon (heq ▸ hc)
    have huser' : '@' ∉ '[' :: (host.toList ++ ']' :: behind) := by simpa using huser
    rw [List.append_assoc, List.singleton_append, List.cons_append, Uri.hostOf_of_bracket huser',
      List.takeWhile_append_of_pos hinner, List.takeWhile_cons_of_neg (by decide), List.append_nil]
  · rename_i hcolon
    have hinner : ∀ c ∈ host.toList, (c != ':') = true := fun c hc =>
      bne_iff_ne.mpr fun heq => hcolon (heq ▸ hc)
    have hhead : (host.toList ++ behind).head? ≠ some '[' := by
      rw [List.head?_append, ne_eq, Option.or_eq_some_iff, not_or]
      exact ⟨h.bare.1, fun ⟨_, hmark⟩ =>
        hbehind.not_mem (by decide) (by decide) (List.mem_of_mem_head? hmark)⟩
    rw [Uri.hostOf_of_name huser hhead, List.takeWhile_append_of_pos hinner]
    cases hbehind with
    | absent => rw [List.takeWhile_nil, List.append_nil]
    | port => rw [List.takeWhile_cons_of_neg (by decide), List.append_nil]

/-- A colon in what is written counts only if it stands in front of the port. -/
theorem portOf?_authority (e : Endpoint) :
    (Uri.portOf? e.authority.toList).getD (defaultPort e.tls) = e.port := by
  rw [toList_authority, portPart]
  split
  · rename_i hdefault
    have hnone : Uri.portOf? (bracketed e.host).toList = none := by
      rw [Option.eq_none_iff_forall_ne_some]
      intro port hport
      obtain ⟨text, ⟨front, hfront, -, hclose, -⟩, -⟩ := Uri.portOf?_eq_some_iff.mp hport
      rw [toList_bracketed] at hfront
      split at hfront
      · have hlast := congrArg List.getLast? hfront
        rw [List.getLast?_concat, List.getLast?_append,
          List.getLast?_eq_some_getLast (List.cons_ne_nil _ _), Option.some_or] at hlast
        have hmem : ']' ∈ ':' :: text := Option.some.inj hlast ▸ List.getLast_mem _
        exact hclose (List.mem_of_ne_of_mem (by decide) hmem)
      · rename_i hcolon
        exact hcolon (hfront ▸ List.mem_append_right _ List.mem_cons_self)
    rw [List.append_nil, hnone, Option.getD_none, hdefault]
  · have hcolon : ':' ∉ Nat.toDigits 10 e.port.toNat := fun hmem =>
      absurd (Json.Number.isDigit_of_mem_toDigits hmem) (by decide)
    rw [Uri.portOf?, splitLast_append hcolon]
    exact congrArg (·.getD (defaultPort e.tls)) (port?_toDigits e.port)

/-- With or without the port, it is an authority or is none. -/
theorem isAuthority_authority (h : IsHost e.host.toList) :
    Uri.isAuthority e.authority.toList = Uri.isAuthority (bracketed e.host).toList := by
  rw [toList_authority]
  generalize hbehind : e.portPart = behind
  cases hbehind ▸ portForm_portPart e with
  | absent => rw [List.append_nil]
  | port hsome hdigits =>
    refine Uri.isAuthority_append_port ?_ ?_ hdigits hsome
    · rw [toList_bracketed]
      split
      · simpa using h.no_user
      · exact h.no_user
    · intro s hscan
      rw [toList_bracketed] at hscan
      split at hscan
      · -- Behind the closing bracket the colons are counted anew.
        obtain ⟨before, -, hlast⟩ := Uri.AuthorityScan.scans_append_iff.mp hscan
        obtain ⟨after, hclosing, hnil⟩ := Uri.AuthorityScan.scans_cons_iff.mp hlast
        obtain rfl := Uri.AuthorityScan.scans_nil_iff.mp hnil
        cases hclosing with
        | closing => rfl
        | plain hplain => cases hplain
      · rename_i hcolon
        exact hscan.colons_eq_zero hcolon

/-- What is written of an endpoint consists of characters of authorities. -/
theorem isAuthorityChar_authority (h : IsHost e.host.toList) :
    ∀ c ∈ e.authority.toList, Uri.IsAuthorityChar c := by
  rw [toList_authority]
  refine List.forall_mem_append.mpr ⟨?_, (portForm_portPart e).isAuthorityChar⟩
  rw [toList_bracketed]
  split
  · exact List.forall_mem_append.mpr ⟨List.forall_mem_cons.mpr ⟨by decide, h.isAuthorityChar⟩,
      List.forall_mem_singleton.mpr (by decide)⟩
  · exact h.isAuthorityChar

/-- The scheme that an endpoint is written with. -/
theorem toList_urlScheme (tls : Bool) :
    (if tls then "https" else "http").toList = ['h', 't', 't', 'p'] ∨
      (if tls then "https" else "http").toList = ['h', 't', 't', 'p', 's'] := by
  cases tls
  · exact .inl (by decide)
  · exact .inr (by decide)

/-- The URL of an endpoint: its scheme, the marks behind that, and what is written of it. -/
theorem toList_url (e : Endpoint) :
    e.url.toList =
      (if e.tls then "https" else "http").toList ++ ':' :: '/' :: '/' :: e.authority.toList := by
  rw [url, String.toList_append, String.toList_append, List.append_assoc]
  rfl

/-- No blank stands in the URL of an endpoint, so a reader that trims it first changes nothing. -/
theorem trim_url (h : IsHost e.host.toList) : trim e.url = e.url := by
  have hblank : ∀ c ∈ e.url.toList, isBlank c = false := by
    rw [toList_url]
    refine List.forall_mem_append.mpr ⟨?_, ?_⟩
    · rcases toList_urlScheme e.tls with hscheme | hscheme <;> rw [hscheme] <;>
        exact forall_mem_of_all (by decide)
    · have hauthority : ∀ c ∈ e.authority.toList, isBlank c = false := fun c hc =>
        Uri.isBlank_of_isAuthorityChar (isAuthorityChar_authority h c hc)
      have hslash : isBlank '/' = false := by decide
      exact List.forall_mem_cons.mpr ⟨by decide, List.forall_mem_cons.mpr
        ⟨hslash, List.forall_mem_cons.mpr ⟨hslash, hauthority⟩⟩⟩
  rw [trim, trimBy_of_forall hblank, String.ofList_toList]

/-- With colons a host is written so that it is an authority, and without any it has to be one. -/
theorem isAuthority_bracketed_iff (h : IsHost host.toList) :
    Uri.isAuthority (bracketed host).toList = true ∧ (bracketed host).toList ≠ [] ↔
      ':' ∈ host.toList ∨ host ≠ "" ∧ Uri.isAuthority host.toList = true := by
  rw [toList_bracketed]
  split
  · rename_i hcolon
    exact iff_of_true ⟨h.address hcolon, List.cons_ne_nil _ _⟩ (.inl hcolon)
  · rename_i hcolon
    rw [or_iff_right hcolon, and_comm, ne_eq, ne_eq, String.toList_eq_nil_iff]

/-- **An endpoint is read back from its URL exactly if its host is an authority.** A host with
colons, which is written in brackets, always is. -/
theorem parse_url_eq_ok_iff (h : IsHost e.host.toList) :
    parse e.url = .ok e ↔
      (':' ∈ e.host.toList ∨ e.host ≠ "" ∧ Uri.isAuthority e.host.toList = true) ∧
        e.url.utf8ByteSize ≤ Uri.maxLength := by
  have hhost : Uri.hostOf e.authority.toList = (bracketed e.host).toList := by
    rw [toList_authority, hostOf_bracketed h (portForm_portPart e)]
  have hread (u : Uri) := Uri.parse?_ofAuthority (u := u) (toList_urlScheme e.tls)
    (isAuthorityChar_authority h) (toList_url e)
  have hsecured : secured? (some (if e.tls then "https" else "http")) = .ok e.tls := by
    cases e.tls <;> rfl
  rw [parse_eq_ok_iff, trim_url h, ← isAuthority_bracketed_iff h, ← isAuthority_authority h]
  simp only [hread]
  constructor
  · rintro ⟨u, authority, ⟨hsize, hauthority, -, rfl⟩, hwritten, hsome, -⟩
    obtain rfl := String.ofList_injective (Option.some.inj hwritten)
    rw [hhost] at hsome
    exact ⟨⟨hauthority, hsome⟩, hsize⟩
  · rintro ⟨⟨hauthority, hsome⟩, hsize⟩
    have hauthority' : e.authority.toList ≠ [] := by
      rw [toList_authority]
      exact List.append_ne_nil_of_left_ne_nil hsome _
    refine ⟨_, e.authority.toList, ⟨hsize, hauthority, hauthority', rfl⟩, rfl, ?_, ?_, ?_,
      (portOf?_authority e).symm⟩
    · rw [hhost]
      exact hsome
    · rw [String.ofList_toList]
      exact hsecured
    · rw [hhost, String.ofList_toList, stripBrackets_bracketed]
      exact (stripBrackets_eq_self_iff.mpr h.bare).symm

end

/-! ### Endpoints of URLs -/

section

variable {url : String} {e : Endpoint}

/-- The host of every endpoint that was read has no brackets around it, and with colons it is an
authority in brackets. -/
theorem isHost_of_parse (h : parse url = .ok e) : IsHost e.host.toList := by
  obtain ⟨u, authority, hu, hauthority, -, -, hhost, -⟩ := parse_eq_ok_iff.mp h
  have hform : Uri.isAuthority authority = true := by
    cases Uri.Form.of_parse? hu with
    | bare => cases hauthority
    | authority hform | full _ hform =>
      rw [← String.ofList_injective (Option.some.inj hauthority)]
      exact hform
  rw [hhost]
  exact isHost_stripBrackets (Uri.hostForm_hostOf hform)

/-- The schemes under which a connection is secured. -/
theorem secured_iff {scheme : Option String} {tls : Bool} (h : secured? scheme = .ok tls) :
    tls = true ↔ scheme = some "https" ∨ scheme = some "wss" := by
  rcases scheme with _ | scheme
  · cases h
    simp
  · rw [secured?] at h
    split at h
    · rename_i hplain
      cases h
      rw [Bool.or_eq_true, beq_iff_eq, beq_iff_eq] at hplain
      rcases hplain with rfl | rfl <;> decide
    · split at h
      · rename_i hsecure
        cases h
        simpa using hsecure
      · cases h

/-- **The port that is written is taken, and where no port is written, that of the scheme.** The
endpoint is read back from its own URL if its host has colons or is an authority by itself, and the
URL is not too long. -/
theorem written_ports_are_taken (h : parse url = .ok e) :
    ∃ u authority, Uri.parse? (trim url) = some u ∧
      u.authority = some (String.ofList authority) ∧
      e.host = stripBrackets (String.ofList (Uri.hostOf authority)) ∧
      (e.tls = true ↔ u.scheme = some "https" ∨ u.scheme = some "wss") ∧
      (∀ text port, Uri.PortText authority text → WritesPort text port → e.port = port) ∧
      ((∀ text port, Uri.PortText authority text → ¬ WritesPort text port) →
        e.port = if e.tls then 443 else 80) ∧
      (parse e.url = .ok e ↔
        (':' ∈ e.host.toList ∨ e.host ≠ "" ∧ Uri.isAuthority e.host.toList = true) ∧
          e.url.utf8ByteSize ≤ Uri.maxLength) := by
  obtain ⟨u, authority, hu, hauthority, -, htls, hhost, hport⟩ := parse_eq_ok_iff.mp h
  refine ⟨u, authority, hu, hauthority, hhost, secured_iff htls, ?_, ?_,
    parse_url_eq_ok_iff (isHost_of_parse h)⟩
  · intro text port htext hwrites
    rw [hport, Uri.portOf?_eq_some_iff.mpr ⟨text, htext, hwrites⟩, Option.getD_some]
  · intro hnone
    have habsent : Uri.portOf? authority = none := by
      rw [Option.eq_none_iff_forall_ne_some]
      intro port hsome
      obtain ⟨text, htext, hwrites⟩ := Uri.portOf?_eq_some_iff.mp hsome
      exact hnone text port htext hwrites
    rw [hport, habsent]
    rfl

/-- An address in brackets, a user, and a port with a leading zero, which is that of the scheme:
what is read of it is read back without the port. -/
theorem bracketedUrl_taken :
    parse " https://user@[::1]:0443/x " = .ok ⟨"::1", 443, true⟩ ∧
      parse "https://[::1]" = .ok ⟨"::1", 443, true⟩ := by
  have h : parse " https://user@[::1]:0443/x " = .ok ⟨"::1", 443, true⟩ := by rfl
  obtain ⟨-, -, -, -, -, -, -, -, hback⟩ := written_ports_are_taken h
  exact ⟨h, hback.mpr ⟨.inl (by decide), by decide⟩⟩

/-- A text that is no port is passed over, where it should be refused. -/
theorem not_refused_of_unreadable :
    ¬ ∀ url e u authority text, parse url = .ok e → Uri.parse? (trim url) = some u →
      u.authority = some (String.ofList authority) → Uri.PortText authority text → text ≠ [] →
        WritesPort text e.port := by
  intro h
  have hport := h "http://localhost:99999" ⟨"localhost", 80, false⟩
    ⟨some "http", some "localhost:99999", "/", none⟩ "localhost:99999".toList "99999".toList
    rfl (by decide) rfl ⟨"localhost".toList, by decide, by decide, by decide, by decide⟩
    (by decide)
  have hread := port?_eq_some_iff.mpr hport
  revert hread
  decide

/-- Where brackets stand inside a host, a written endpoint is not read back. -/
example : parse "http://a[b]" = .ok ⟨"a[b", 80, false⟩ ∧
    parse (Endpoint.url ⟨"a[b", 80, false⟩) = .error (.malformed "http://a[b") := ⟨rfl, rfl⟩

end

end ReverseTunnel.Endpoint
