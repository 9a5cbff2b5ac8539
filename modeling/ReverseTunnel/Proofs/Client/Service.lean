import Mathlib.Data.List.Basic
import ReverseTunnel.Client.Service
import ReverseTunnel.Proofs.Client.Endpoint

/-!
# Services that are written and read

A service is printed as a URL with the port written out, whatever it was read from. It is split
into host and port again unless its host begins with a bracket and has no colon. But a text without
scheme is read by fewer checks than a URL: a slash, a question mark, a number sign or an at sign may
stand in its host, and such a host is turned down when it is read in a URL.

## Main results

* `splitPort?_eq_some_iff`, `authority_iff`, `parseUrl_eq_ok_iff`: what is read, as a relation.
* `isService_of_parse`: what holds of every service that was read.
* `parse_print_eq_ok_iff`: which services are read back from what is printed.
* `hostOfAddress_address`: which name a certificate is asked for.
* `services_are_read_back`: the two for every text that is read.
-/

namespace ReverseTunnel.Service

open Text Http

/-! ### Host and port -/

section

variable {cs host port : List Char} {port? : Option (List Char)}

/-- An address has a host, in brackets or without a colon, and perhaps a port. -/
inductive Splits : List Char → List Char → Option (List Char) → Prop
  | address {host : List Char} (hclose : ']' ∉ host) : Splits ('[' :: (host ++ [']'])) host none
  | addressPort {host port : List Char} (hclose : ']' ∉ host) :
      Splits ('[' :: (host ++ ']' :: ':' :: port)) host (some port)
  | name {host : List Char} (hopen : host.head? ≠ some '[') (hcolon : ':' ∉ host) :
      Splits host host none
  | namePort {host port : List Char} (hopen : host.head? ≠ some '[') (hcolon : ':' ∉ host)
      (hport : ':' ∉ port) : Splits (host ++ ':' :: port) host (some port)

/-- Without a bracket in front, the port is behind the first colon, and there is no other colon. -/
theorem splitPort?_of_name (h : cs.head? ≠ some '[') :
    splitPort? cs = match splitFirst ':' cs with
      | none => some (cs, none)
      | some (host, port) => if port.contains ':' then none else some (host, some port) := by
  unfold splitPort?
  split
  · exact absurd rfl h
  · rfl

/-- **How an address is split.** The function and the relation agree on every text. -/
theorem splitPort?_eq_some_iff : splitPort? cs = some (host, port?) ↔ Splits cs host port? := by
  have hhead {host port : List Char} :
      (host ++ ':' :: port).head? ≠ some '[' ↔ host.head? ≠ some '[' := by
    rcases host with _ | ⟨c, host⟩
    · exact iff_of_true (by simp) (by simp)
    · exact Iff.rfl
  constructor
  · intro h
    by_cases hopen : cs.head? = some '['
    · obtain ⟨rest, rfl⟩ := List.head?_eq_some_iff.mp hopen
      obtain ⟨⟨inner, after⟩, hsplit, hrest⟩ := Option.bind_eq_some_iff.mp h
      obtain ⟨rfl, hclose⟩ := splitFirst_eq_some_iff.mp hsplit
      dsimp only at hrest
      split at hrest
      · cases hrest
        exact .address hclose
      · cases hrest
        exact .addressPort hclose
      · cases hrest
    · rw [splitPort?_of_name hopen] at h
      split at h
      · rename_i hsplit
        cases h
        exact .name hopen (splitFirst_eq_none.mp hsplit)
      · rename_i hsplit
        obtain ⟨rfl, hcolon⟩ := splitFirst_eq_some_iff.mp hsplit
        obtain ⟨hport, h⟩ := Option.ite_none_left_eq_some.mp h
        cases h
        exact .namePort (hhead.mp hopen) hcolon (by simpa using hport)
  · intro h
    cases h with
    | address hclose | addressPort hclose =>
      exact Option.bind_eq_some_iff.mpr ⟨_, splitFirst_append hclose, rfl⟩
    | name hopen hcolon => rw [splitPort?_of_name hopen, splitFirst_eq_none.mpr hcolon]
    | namePort hopen hcolon hport =>
      rw [splitPort?_of_name (hhead.mpr hopen), splitFirst_append hcolon]
      exact if_neg (by simpa using hport)

end

/-! ### The address of a URL -/

section

variable {cs front : List Char} {mark : Char}

/-- A text holds no mark that ends the host of a URL. -/
def IsClear (cs : List Char) : Prop := ∀ mark ∈ ['/', '?', '#', '@'], mark ∉ cs

instance : DecidablePred IsClear := fun _ => List.decidableBAll _ _

/-- A mark with nothing behind it is passed over. -/
theorem cut_eq_nil_iff :
    cut mark cs = (front, []) ↔
      ∃ tail, tail.Sublist [mark] ∧ cs = front ++ tail ∧ mark ∉ front := by
  rw [cut]
  rcases hsplit : splitFirst mark cs with _ | ⟨before, behind⟩
  · have hmark := splitFirst_eq_none.mp hsplit
    constructor
    · intro h
      cases h
      exact ⟨[], List.nil_sublist _, (List.append_nil cs).symm, hmark⟩
    · rintro ⟨tail, htail, rfl, -⟩
      rcases List.sublist_singleton.mp htail with rfl | rfl
      · rw [List.append_nil, Option.getD_none]
      · exact absurd (List.mem_append_right _ List.mem_cons_self) hmark
  · obtain ⟨rfl, hmark⟩ := splitFirst_eq_some_iff.mp hsplit
    constructor
    · intro h
      cases h
      exact ⟨[mark], List.Sublist.refl _, rfl, hmark⟩
    · rintro ⟨tail, htail, heq, hfront⟩
      rcases List.sublist_singleton.mp htail with rfl | rfl
      · rw [List.append_nil] at heq
        exact absurd (heq ▸ List.mem_append_right _ List.mem_cons_self) hfront
      · rw [heq, splitFirst_append hfront] at hsplit
        cases hsplit
        rfl

/-- A slash with nothing behind it is passed over. -/
theorem slash_iff {cs : List Char} :
    ¬ (!(cs.dropWhile (· != '/')).isEmpty && cs.dropWhile (· != '/') != ['/']) = true ↔
      (cs.dropWhile (· != '/')).Sublist ['/'] := by
  rw [List.sublist_singleton]
  simp [or_iff_not_imp_left]

/-- What is left of a URL without fragment, query and path is its authority, and behind that there
is nothing but the marks of these. -/
theorem authority_iff {authority : List Char} :
    (∃ front rest, cut '#' cs = (front, []) ∧ cut '?' front = (rest, []) ∧
      rest.takeWhile (· != '/') = authority ∧ (rest.dropWhile (· != '/')).Sublist ['/'] ∧
        '@' ∉ authority) ↔
      ∃ tail, cs = authority ++ tail ∧ tail.Sublist ['/', '?', '#'] ∧ IsClear authority := by
  constructor
  · rintro ⟨front, rest, hfront, hrest, hauthority, hpath, huser⟩
    obtain ⟨fragment, hfragment, rfl, hhash⟩ := cut_eq_nil_iff.mp hfront
    obtain ⟨query, hquery, rfl, hmark⟩ := cut_eq_nil_iff.mp hrest
    have hslash : '/' ∉ authority := hauthority ▸ Uri.not_mem_takeWhile rest
    have hsubset : authority ⊆ rest := hauthority ▸ (List.takeWhile_sublist _).subset
    refine ⟨rest.dropWhile (· != '/') ++ (query ++ fragment), ?_,
      hpath.append (hquery.append hfragment), ?_⟩
    · rw [← hauthority, ← List.append_assoc, List.takeWhile_append_dropWhile, List.append_assoc]
    · have hclear : '#' ∉ authority ∧ '?' ∉ authority :=
        ⟨fun h => hhash (List.mem_append_left _ (hsubset h)), fun h => hmark (hsubset h)⟩
      simpa [IsClear] using ⟨hslash, hclear.2, hclear.1, huser⟩
  · rintro ⟨tail, rfl, htail, hclear⟩
    have hnot {mark : Char} (hmark : mark ∈ ['/', '?', '#', '@']) : mark ∉ authority :=
      hclear mark hmark
    obtain ⟨path, behind, rfl, hpath, hbehind⟩ :=
      List.sublist_append_iff.mp (show tail.Sublist (['/'] ++ ['?', '#']) from htail)
    obtain ⟨query, fragment, rfl, hquery, hfragment⟩ :=
      List.sublist_append_iff.mp (show behind.Sublist (['?'] ++ ['#']) from hbehind)
    have hslash : ∀ c ∈ authority, (c != '/') = true := fun c hc =>
      bne_iff_ne.mpr fun heq => hnot (by decide) (heq ▸ hc)
    have hpath' : path.takeWhile (· != '/') = [] ∧ path.dropWhile (· != '/') = path := by
      rcases List.sublist_singleton.mp hpath with rfl | rfl <;> decide
    refine ⟨authority ++ (path ++ query), authority ++ path, cut_eq_nil_iff.mpr
      ⟨fragment, hfragment, by simp, ?_⟩, cut_eq_nil_iff.mpr ⟨query, hquery, by simp, ?_⟩, ?_, ?_,
      hnot (by decide)⟩
    · simp only [List.mem_append, not_or]
      exact ⟨hnot (by decide), fun h => absurd (hpath.subset h) (by decide),
        fun h => absurd (hquery.subset h) (by decide)⟩
    · rw [List.mem_append, not_or]
      exact ⟨hnot (by decide), fun h => absurd (hpath.subset h) (by decide)⟩
    · rw [List.takeWhile_append_of_pos hslash, hpath'.1, List.append_nil]
    · rw [List.dropWhile_append_of_pos hslash, hpath'.2]
      exact hpath

/-- The port of a URL: the one that is written, or that of the scheme. -/
def ReadsPort (tls : Bool) (port : UInt16) : Option (List Char) → Prop
  | none => port = Endpoint.defaultPort tls
  | some digits => servicePort? (String.ofList digits) = some port

/-- What is read of a URL behind its scheme. Of path, query and fragment only the mark may be
there. -/
theorem parseUrl_eq_ok_iff {tls : Bool} {s : Service} :
    parseUrl tls cs = .ok s ↔ ∃ authority tail host port?, cs = authority ++ tail ∧
      tail.Sublist ['/', '?', '#'] ∧ IsClear authority ∧ Splits authority host port? ∧ host ≠ [] ∧
        ReadsPort tls s.port port? ∧ s = ⟨tls, String.ofList host, s.port⟩ := by
  have hcut {mark : Char} {cs : List Char} (h : ¬ (!(cut mark cs).2.isEmpty) = true) :
      cut mark cs = ((cut mark cs).1, []) :=
    Prod.ext rfl (by simpa using h)
  simp only [parseUrl, error_bind, ite_error_eq_ok_iff, bind_eq_ok_iff, elim_eq_ok_iff,
    Prod.exists, splitPort?_eq_some_iff, slash_iff]
  constructor
  · rintro ⟨hfragment, hquery, hpath, huser, host, port?, hsplits, hsome, hport⟩
    obtain ⟨tail, hcs, htail, hclear⟩ := authority_iff.mp
      ⟨_, _, hcut hfragment, hcut hquery, rfl, hpath, by simpa using huser⟩
    refine ⟨_, tail, host, port?, hcs, htail, hclear, hsplits, by simpa using hsome, ?_⟩
    rcases port? with _ | digits
    · cases hport
      exact ⟨rfl, rfl⟩
    · obtain ⟨port, hread, hs⟩ := bind_eq_ok hport
      cases hs
      exact ⟨elim_eq_ok_iff.mp hread, rfl⟩
  · rintro ⟨authority, tail, host, port?, hcs, htail, hclear, hsplits, hsome, hport, hs⟩
    obtain ⟨front, rest, hfront, hrest, rfl, hpath, huser⟩ :=
      authority_iff.mpr ⟨tail, hcs, htail, hclear⟩
    rw [hfront, hrest]
    refine ⟨by simp, by simp, hpath, by simpa using huser, host, port?, hsplits,
      by simpa using hsome, ?_⟩
    rcases port? with _ | digits
    · exact congrArg Except.ok ((congrArg (Service.mk tls _) hport.symm).trans hs.symm)
    · exact bind_eq_ok_iff.mpr ⟨s.port, elim_eq_ok_iff.mpr hport, congrArg Except.ok hs.symm⟩

end

/-! ### Services that were read -/

section

variable {cs host host' : List Char} {port? port?' : Option (List Char)} {s s' : Service}
  {input : String}

/-- An address is split in one way at most. -/
theorem Splits.unique (h : Splits cs host port?) (h' : Splits cs host' port?') :
    host' = host ∧ port?' = port? := by
  have heq := (splitPort?_eq_some_iff.mpr h').symm.trans (splitPort?_eq_some_iff.mpr h)
  simpa using heq

/-- Without a scheme there has to be a port, and the connection is not secured. -/
theorem parseAddress_eq_ok_iff :
    parseAddress cs = .ok s ↔ ∃ host digits, Splits cs host (some digits) ∧ host ≠ [] ∧
      servicePort? (String.ofList digits) = some s.port ∧
        s = ⟨false, String.ofList host, s.port⟩ := by
  simp only [parseAddress, ite_error_eq_ok_iff, bind_eq_ok_iff, elim_eq_ok_iff,
    Prod.exists, splitPort?_eq_some_iff, readPort]
  constructor
  · rintro ⟨host, port?, hsplits, digits, rfl, hsome, port, hport, hs⟩
    cases hs
    exact ⟨host, digits, hsplits, by simpa using hsome, hport, rfl⟩
  · rintro ⟨host, digits, hsplits, hsome, hport, hs⟩
    exact ⟨host, some digits, hsplits, digits, rfl, by simpa using hsome, s.port, hport,
      congrArg Except.ok hs.symm⟩

/-- What holds of every service that was read. -/
structure IsService (s : Service) : Prop where
  host_some : s.host ≠ ""
  host_form : ']' ∉ s.host.toList ∨ s.host.toList.head? ≠ some '[' ∧ ':' ∉ s.host.toList
  port_pos : 0 < s.port

/-- An opening bracket is closed. -/
theorem Splits.mem_close (h : Splits ('[' :: cs) host port?) : ']' ∈ cs := by
  obtain ⟨parts, hsplit, -⟩ := Option.bind_eq_some_iff.mp (splitPort?_eq_some_iff.mpr h)
  by_contra hclose
  rw [splitFirst_eq_none.mpr hclose] at hsplit
  cases hsplit

/-- A host that was split off has no closing bracket, or neither a bracket in front nor a colon. -/
theorem Splits.host_form (h : Splits cs host port?) :
    ']' ∉ host ∨ host.head? ≠ some '[' ∧ ':' ∉ host := by
  cases h with
  | address hclose | addressPort hclose => exact .inl hclose
  | name hopen hcolon | namePort hopen hcolon => exact .inr ⟨hopen, hcolon⟩

/-- If no mark that ends a host is in an address, none is in its host. -/
theorem Splits.isClear (h : Splits cs host port?) (hclear : IsClear cs) : IsClear host := by
  have hsubset : host ⊆ cs := by
    cases h with
    | address | addressPort => exact fun _ hc => List.mem_cons_of_mem _ (List.mem_append_left _ hc)
    | name => exact List.Subset.refl _
    | namePort => exact List.subset_append_left _ _
  exact fun mark hmark hmem => hclear mark hmark (hsubset hmem)

/-- The port of a service is never zero. -/
theorem servicePort?_pos {text : String} {port : UInt16} (h : servicePort? text = some port) :
    0 < port :=
  of_decide_eq_true (Option.filter_eq_some_iff.mp h).2

/-- Neither is the port of a URL, whether it is written or that of the scheme. -/
theorem ReadsPort.pos {tls : Bool} {port : UInt16} (h : ReadsPort tls port port?) : 0 < port := by
  rcases port? with _ | digits
  · rw [h]
    cases tls <;> decide
  · exact servicePort?_pos h

/-- What is split off of an address makes up a service, if there is a host and a port. -/
theorem isService_of_splits {tls : Bool} {port : UInt16} (h : Splits cs host port?)
    (hsome : host ≠ []) (hport : 0 < port) : IsService ⟨tls, String.ofList host, port⟩ where
  host_some heq := hsome (by
    rw [← String.toList_ofList (l := host)]
    exact congrArg String.toList heq)
  host_form := by
    rw [String.toList_ofList]
    exact h.host_form
  port_pos := hport

/-- What is read of a URL is a service, and no mark that ends a host is in its host. -/
theorem isService_of_parseUrl {tls : Bool} (h : parseUrl tls cs = .ok s) :
    IsService s ∧ IsClear s.host.toList := by
  obtain ⟨authority, tail, host, port?, -, -, hclear, hsplits, hsome, hport, hs⟩ :=
    parseUrl_eq_ok_iff.mp h
  rw [hs]
  refine ⟨isService_of_splits hsplits hsome hport.pos, ?_⟩
  rw [String.toList_ofList]
  exact hsplits.isClear hclear

/-- What is read has a host that can be split off again and a port, and the host of a URL holds no
mark that ends it. -/
theorem isService_of_parse (h : parse input = .ok s) :
    IsService s ∧ ("://".toList <:+: (trim input).toList → IsClear s.host.toList) := by
  rw [parse, ite_error_eq_ok_iff] at h
  obtain ⟨-, h⟩ := h
  split at h
  · rcases hread : readPort (trim input).toList with _ | port
    · rw [hread] at h
      cases h
    · rw [hread] at h
      cases h
      have hsplits : Splits "127.0.0.1".toList "127.0.0.1".toList none :=
        .name (by decide) (by decide)
      have hport := servicePort?_pos (elim_eq_ok_iff.mp hread)
      exact ⟨isService_of_splits hsplits (by decide) hport,
        fun _ => show IsClear "127.0.0.1".toList by decide⟩
  · split at h
    · rename_i hnone
      obtain ⟨host, digits, hsplits, hsome, hport, hs⟩ := parseAddress_eq_ok_iff.mp h
      refine ⟨?_, fun hmark => absurd hmark (splitAtMark_eq_none_iff.mp hnone)⟩
      rw [hs]
      exact isService_of_splits hsplits hsome (servicePort?_pos hport)
    · dsimp only at h
      split at h
      · exact (isService_of_parseUrl h).imp_right fun hclear _ => hclear
      · split at h
        · exact (isService_of_parseUrl h).imp_right fun hclear _ => hclear
        · cases h

end

/-! ### Reading what was written -/

section

variable {s s' : Service} {host : List Char} {port? : Option (List Char)}

/-- The port of a service as it is written. -/
def portDigits (s : Service) : List Char := Nat.toDigits 10 s.port.toNat

/-- A port is written in digits only. -/
theorem isDigit_portDigits (s : Service) : ∀ c ∈ s.portDigits, isDigit c = true :=
  fun _ => Json.Number.isDigit_of_mem_toDigits

/-- So no other character is in what is written for it. -/
theorem not_mem_portDigits {c : Char} (h : isDigit c = false) : c ∉ s.portDigits := fun hmem => by
  rw [isDigit_portDigits s c hmem] at h
  cases h

/-- The address of a service: its host, in brackets if it has a colon, and the port in any case. -/
theorem toList_address (s : Service) :
    s.address.toList = (Endpoint.bracketed s.host).toList ++ ':' :: s.portDigits := by
  rw [address, String.toList_append, String.toList_append, List.append_assoc]
  exact congrArg (_ ++ ':' :: ·) String.toList_ofList

/-- The last character that is written is a digit. -/
theorem getLast?_address (s : Service) :
    ∃ c, s.address.toList.getLast? = some c ∧ isDigit c = true := by
  have hsome : s.portDigits ≠ [] := Nat.toDigits_ne_nil
  refine ⟨s.portDigits.getLast hsome, ?_, isDigit_portDigits s _ (List.getLast_mem hsome)⟩
  rw [toList_address, List.append_cons, List.getLast?_append,
    List.getLast?_eq_some_getLast hsome, Option.some_or]

/-- What is printed is read behind its scheme. -/
theorem parse_print (s : Service) : parse s.print = parseUrl s.tls s.address.toList := by
  have hprint : s.print.toList = s.scheme.toList ++ ("://".toList ++ s.address.toList) := by
    rw [print, String.toList_append, String.toList_append, List.append_assoc]
  have hscheme : ':' ∉ s.scheme.toList := by
    rw [scheme]
    cases s.tls <;> decide
  obtain ⟨rest, hrest⟩ : ∃ rest, s.print.toList = 'h' :: rest := by
    rw [hprint, scheme]
    cases s.tls <;> exact ⟨_, rfl⟩
  have htrim : trim s.print = s.print := by
    obtain ⟨c, hlast, hdigit⟩ := getLast?_address s
    have hprint' : s.print.toList.getLast? = some c := by
      rw [hprint, List.getLast?_append, List.getLast?_append, hlast, Option.some_or, Option.some_or]
    rw [trim, trimBy_eq_self, String.ofList_toList]
    · rw [hrest]
      exact fun c hc => by cases hc; decide
    · rw [hprint']
      rintro c hc
      cases hc
      exact Uri.isBlank_of_isAuthorityChar (.inr (Uri.isPlainChar_of_isDigit hdigit))
  have hsome : ¬ s.print.isEmpty = true := by
    rw [String.isEmpty_iff, ← String.toList_eq_nil_iff, hrest]
    exact List.cons_ne_nil _ _
  have halone : ¬ isPortAlone s.print = true := by
    rw [isPortAlone, hrest]
    simp [isDigit]
  have hsplit : splitAtMark "://".toList s.print.toList =
      some (s.scheme.toList, s.address.toList) := hprint ▸ splitAtMark_append hscheme
  have hlower : lower (String.ofList s.scheme.toList) = if s.tls then "https" else "http" := by
    rw [scheme]
    cases s.tls <;> decide
  rw [parse]
  dsimp only
  rw [htrim, if_neg hsome, if_neg halone, hsplit]
  dsimp only
  rw [hlower]
  cases s.tls
  · exact if_pos (beq_self_eq_true _)
  · exact (if_neg (by decide)).trans (if_pos (beq_self_eq_true _))

/-- A mark that ends a host is in the address of a service exactly if it is in the host. -/
theorem isClear_address_iff : IsClear s.address.toList ↔ IsClear s.host.toList := by
  refine forall₂_congr fun mark hmark => not_congr ?_
  have hmarks : ∀ mark ∈ ['/', '?', '#', '@'],
      mark ≠ '[' ∧ mark ≠ ']' ∧ mark ≠ ':' ∧ isDigit mark = false :=
    forall_mem_of_all (by decide)
  obtain ⟨hopen, hclose, hcolon, hdigit⟩ := hmarks mark hmark
  have hport := not_mem_portDigits hdigit (s := s)
  rw [toList_address, Endpoint.toList_bracketed]
  split <;> simp [hopen, hclose, hcolon, hport]

/-- What is written is split into host and port again, unless the host has a bracket in front and no
colon, so that no brackets are put around it. -/
theorem splits_address_iff (h : IsService s) :
    Splits s.address.toList host port? ↔ host = s.host.toList ∧ port? = some s.portDigits ∧
      (s.host.toList.head? = some '[' → ':' ∈ s.host.toList) := by
  have hsplits_iff {cs : List Char} (h : Splits cs s.host.toList (some s.portDigits)) :
      Splits cs host port? ↔ host = s.host.toList ∧ port? = some s.portDigits :=
    ⟨h.unique, fun ⟨hhost, hport⟩ => hhost ▸ hport ▸ h⟩
  rw [toList_address, Endpoint.toList_bracketed]
  split
  · rename_i hcolon
    have hclose : ']' ∉ s.host.toList := h.host_form.elim id fun hname => absurd hcolon hname.2
    have hlist : '[' :: s.host.toList ++ [']'] ++ ':' :: s.portDigits =
        '[' :: (s.host.toList ++ ']' :: ':' :: s.portDigits) := by simp
    rw [hlist, hsplits_iff (.addressPort hclose)]
    simp [hcolon]
  · rename_i hcolon
    by_cases hopen : s.host.toList.head? = some '['
    · -- Without a colon nothing closes the bracket.
      have hclose : ']' ∉ s.host.toList := h.host_form.elim id fun hname => absurd hopen hname.1
      obtain ⟨inner, hinner⟩ := List.head?_eq_some_iff.mp hopen
      refine iff_of_false (fun hsplits => ?_) (fun hread => hcolon (hread.2.2 hopen))
      rw [hinner] at hsplits hclose
      have hmem := hsplits.mem_close
      simp [not_mem_portDigits (c := ']') (by decide)] at hmem
      exact hclose (List.mem_cons_of_mem _ hmem)
    · rw [hsplits_iff (.namePort hopen hcolon (not_mem_portDigits (by decide)))]
      simp [hopen]

/-- A port that is not zero is read back from its digits. -/
theorem servicePort?_portDigits (h : 0 < s.port) :
    servicePort? (String.ofList s.portDigits) = some s.port := by
  rw [servicePort?, portDigits, port?_toDigits, Option.filter_some, if_pos (decide_eq_true h)]

/-- **What is printed is read back as the service itself, or not at all.** -/
theorem parse_print_eq_ok_iff (h : IsService s) :
    parse s.print = .ok s' ↔ s' = s ∧ IsClear s.host.toList ∧
      (s.host.toList.head? = some '[' → ':' ∈ s.host.toList) := by
  rw [parse_print, parseUrl_eq_ok_iff]
  constructor
  · rintro ⟨authority, tail, host, port?, hlist, htail, hclear, hsplits, -, hport, hs⟩
    obtain rfl : tail = [] := by
      rcases List.eq_nil_or_concat tail with htail' | ⟨front, mark, rfl⟩
      · exact htail'
      · have hmarks : ∀ mark ∈ ['/', '?', '#'], isDigit mark = false :=
          forall_mem_of_all (by decide)
        obtain ⟨c, hlast, hdigit⟩ := getLast?_address s
        rw [List.concat_eq_append] at hlist htail
        rw [hlist, ← List.append_assoc, List.getLast?_concat] at hlast
        cases hlast
        rw [hmarks mark (htail.subset (List.mem_append_right _ List.mem_cons_self))] at hdigit
        cases hdigit
    rw [List.append_nil] at hlist
    subst hlist
    obtain ⟨rfl, rfl, hopen⟩ := (splits_address_iff h).mp hsplits
    refine ⟨?_, isClear_address_iff.mp hclear, hopen⟩
    have hport' : s'.port = s.port :=
      Option.some.inj (hport.symm.trans (servicePort?_portDigits h.port_pos))
    rw [hs, hport', String.ofList_toList]
  · rintro ⟨rfl, hclear, hopen⟩
    refine ⟨s'.address.toList, [], s'.host.toList, some s'.portDigits, (List.append_nil _).symm,
      List.nil_sublist _, isClear_address_iff.mpr hclear,
      (splits_address_iff h).mpr ⟨rfl, rfl, hopen⟩, ?_, servicePort?_portDigits h.port_pos, ?_⟩
    · rw [ne_eq, String.toList_eq_nil_iff]
      exact h.host_some
    · rw [String.ofList_toList]

/-- The name in a certificate is the host without the brackets that it may still have. -/
theorem hostOfAddress_address (s : Service) :
    hostOfAddress s.address = Endpoint.stripBrackets s.host := by
  have hcolon : ':' ∉ s.portDigits := not_mem_portDigits (by decide)
  have hclose : ¬ s.portDigits.contains ']' = true := by
    simpa using not_mem_portDigits (c := ']') (by decide)
  rw [hostOfAddress, toList_address, splitLast_append hcolon]
  simp only [if_neg hclose, String.ofList_toList]
  exact Endpoint.stripBrackets_bracketed s.host

/-- **A service that was read is read back from its printed form exactly if its host can stand in
a URL**: it holds none of the marks that end a host there, and no bracket stands in front of it
without a colon that has it put in brackets. The name in a certificate is its host exactly if that
has no bracket in front and none at its end. A URL gives no host with such a mark, the other form
may. -/
theorem services_are_read_back {input : String} (h : parse input = .ok s) :
    (∀ s', parse s.print = .ok s' ↔ s' = s ∧ IsClear s.host.toList ∧
      (s.host.toList.head? = some '[' → ':' ∈ s.host.toList)) ∧
    (hostOfAddress s.address = s.host ↔ Endpoint.Bare s.host.toList) ∧
    ("://".toList <:+: (trim input).toList → IsClear s.host.toList) := by
  obtain ⟨hservice, hclear⟩ := isService_of_parse h
  refine ⟨fun s' => parse_print_eq_ok_iff hservice, ?_, hclear⟩
  rw [hostOfAddress_address]
  exact Endpoint.stripBrackets_eq_self_iff

/-- An address in brackets with blanks around it, read and read back with its port written out. The
name in the certificate has no brackets. -/
theorem bracketedService_read :
    parse " HTTPS://[::1]/ " = .ok ⟨true, "::1", 443⟩ ∧
      parse "https://[::1]:443" = .ok ⟨true, "::1", 443⟩ ∧ hostOfAddress "[::1]:443" = "::1" := by
  have h : parse " HTTPS://[::1]/ " = .ok ⟨true, "::1", 443⟩ := rfl
  obtain ⟨hback, hname, hclear⟩ := services_are_read_back h
  have hmark : "://".toList <:+: (trim " HTTPS://[::1]/ ").toList :=
    ⟨"HTTPS".toList, "[::1]/".toList, rfl⟩
  exact ⟨h, (hback _).mpr ⟨rfl, hclear hmark, by decide⟩, hname.mpr (by decide)⟩

/-- An address passes the checks of a URL by, so that what is printed of it may be no URL of a
service. -/
theorem not_read_back_of_user :
    ¬ ∀ input s, parse input = .ok s → parse s.print = .ok s := by
  intro h
  have hback := h "user@localhost:3000" ⟨false, "user@localhost", 3000⟩ rfl
  cases hback

/-- A bracket at the end of a host is taken for one around it. -/
example : parse "https://a]:80" = .ok ⟨true, "a]", 80⟩ ∧ hostOfAddress "a]:80" = "a" := ⟨rfl, rfl⟩

end

end ReverseTunnel.Service
