import ReverseTunnel.Proofs.Http.Target
import ReverseTunnel.Proofs.Text.Number
import ReverseTunnel.Proofs.Text.Split

/-!
# Host and port of an authority

An authority is scanned once, character by character, and nothing but what a character does to a few
marks is kept. `AuthorityScan.Step` says this without the function, and all else follows from it: a
bracket is opened once, and behind an at sign or a closed bracket the colons are counted anew.

The host of an authority stands in brackets, in which colons count nowhere, or it has no colon. The
port is behind the last colon, unless a bracket is closed or a user ends behind that.

## Main results

* `AuthorityScan.step_eq_some_iff`: what a character does.
* `isAuthority_append_port`: a port can be put behind an authority.
* `hostForm_hostOf`: what the host of an authority looks like.
* `portOf?_eq_some_iff`: which port an authority has.
* `parse?_ofAuthority`: a URL that is a scheme and an authority.
-/

namespace ReverseTunnel.Http.Uri

open Text

/-! ### What is scanned -/

/-- What a character of an authority does to what has been seen. -/
inductive AuthorityScan.Step (s : AuthorityScan) : Char → AuthorityScan → Prop
  | colon (h : s.colons < maxColons) : Step s ':' { s with colons := s.colons + 1 }
  | opening (hpercent : s.percent = false) (hopened : s.opened = false) :
      Step s '[' { s with opened := true }
  | closing (hopened : s.opened = true) (hclosed : s.closed = false) :
      Step s ']' { s with closed := true, colons := 0, percent := false }
  | user : Step s '@' { s with colons := 0, percent := false }
  | percent : Step s '%' { s with percent := true }
  | plain {c : Char} (h : isPlainChar c = true) : Step s c s

/-- A character that an authority may hold. -/
def IsAuthorityChar (c : Char) : Prop := c ∈ [':', '[', ']', '@', '%'] ∨ isPlainChar c = true

instance : DecidablePred IsAuthorityChar := fun _ => inferInstanceAs (Decidable (_ ∨ _))

/-- A digit is one of the characters that an authority passes over without noting anything about
them. -/
theorem isPlainChar_of_isDigit {c : Char} (h : isDigit c = true) : isPlainChar c = true := by
  rw [isPlainChar, h, Bool.or_true, Bool.true_or]

/-- Every character of an authority is a printed one of ASCII. -/
theorem toNat_of_isAuthorityChar {c : Char} (h : IsAuthorityChar c) :
    0x20 < c.toNat ∧ c.toNat < 0x7F := by
  have hrange {a b : Char} (hab : 0x20 < a.toNat ∧ b.toNat < 0x7F)
      (hc : (decide (a ≤ c) && decide (c ≤ b)) = true) : 0x20 < c.toNat ∧ c.toNat < 0x7F := by
    rw [Bool.and_eq_true, decide_eq_true_eq, decide_eq_true_eq, Char.le_def, Char.le_def,
      UInt32.le_iff_toNat_le, UInt32.le_iff_toNat_le] at hc
    exact ⟨Nat.lt_of_lt_of_le hab.1 hc.1, Nat.lt_of_le_of_lt hc.2 hab.2⟩
  have hmarks : ∀ c ∈ [':', '[', ']', '@', '%'], 0x20 < c.toNat ∧ c.toNat < 0x7F :=
    forall_mem_of_all (by decide)
  have hplain : ∀ c ∈ "!$&'()*+,-.;=_~".toList, 0x20 < c.toNat ∧ c.toNat < 0x7F :=
    forall_mem_of_all (by decide)
  rcases h with h | h
  · exact hmarks c h
  · rw [isPlainChar, isLetter, isDigit, Bool.or_eq_true, Bool.or_eq_true, Bool.or_eq_true,
      List.contains_iff_mem] at h
    rcases h with ((h | h) | h) | h
    · exact hrange (by decide) h
    · exact hrange (by decide) h
    · exact hrange (by decide) h
    · exact hplain c h

/-- No character of an authority is a blank, so trimming an authority takes nothing from it. -/
theorem isBlank_of_isAuthorityChar {c : Char} (h : IsAuthorityChar c) : isBlank c = false := by
  have hnat := toNat_of_isAuthorityChar h
  simp only [isBlank, Bool.or_eq_false_iff, Bool.and_eq_false_iff, decide_eq_false_iff_not,
    beq_eq_false_iff_ne]
  omega

namespace AuthorityScan

variable {s s' : AuthorityScan} {c : Char} {cs cs' : List Char}

/-- The scan accepts a character exactly when one of the cases of `Step` does, and the marks it is
left with are those of the case. -/
theorem step_eq_some_iff : s.step c = some s' ↔ Step s c s' := by
  constructor
  · intro h
    unfold step at h
    split at h
    · subst c
      obtain ⟨hcolons, h⟩ := Option.ite_none_left_eq_some.mp h
      cases h
      exact .colon (Nat.lt_of_not_le hcolons)
    · split at h
      · subst c
        obtain ⟨hnew, h⟩ := Option.ite_none_left_eq_some.mp h
        cases h
        simp only [Bool.or_eq_true, not_or, Bool.not_eq_true] at hnew
        exact .opening hnew.1 hnew.2
      · split at h
        · subst c
          obtain ⟨hopen, h⟩ := Option.ite_none_left_eq_some.mp h
          cases h
          simp only [Bool.or_eq_true, not_or, Bool.not_eq_true, Bool.not_eq_false'] at hopen
          exact .closing hopen.1 hopen.2
        · split at h
          · subst c
            cases h
            exact .user
          · split at h
            · subst c
              cases h
              exact .percent
            · obtain ⟨hplain, h⟩ := Option.ite_none_right_eq_some.mp h
              cases h
              exact .plain hplain
  · intro h
    cases h with
    | colon h => exact if_neg (Nat.not_le.mpr h)
    | opening hpercent hopened => simp [step, hpercent, hopened]
    | closing hopened hclosed => simp [step, hopened, hclosed]
    | user => rfl
    | percent => rfl
    | plain h =>
      have hne {mark : Char} (hmark : isPlainChar mark = false) : c ≠ mark := by
        rintro rfl
        rw [h] at hmark
        cases hmark
      rw [step, if_neg (hne rfl), if_neg (hne rfl), if_neg (hne rfl), if_neg (hne rfl),
        if_neg (hne rfl), if_pos h]

/-- Some characters are scanned. -/
def Scans (s : AuthorityScan) (cs : List Char) (s' : AuthorityScan) : Prop :=
  cs.foldlM step s = some s'

/-- A text is scanned by a step for its first character and a scan of the others. -/
theorem scans_cons_iff : Scans s (c :: cs) s' ↔ ∃ next, Step s c next ∧ Scans next cs s' := by
  simp only [Scans, List.foldlM_cons, Option.bind_eq_bind, Option.bind_eq_some_iff,
    step_eq_some_iff]

/-- Two texts one behind the other are scanned one after the other: the second goes on with the
marks that the first has left. -/
theorem scans_append_iff :
    Scans s (cs ++ cs') s' ↔ ∃ next, Scans s cs next ∧ Scans next cs' s' := by
  simp only [Scans, List.foldlM_append, Option.bind_eq_bind, Option.bind_eq_some_iff]

/-- No text leaves the marks as they were. -/
theorem scans_nil_iff : Scans s [] s' ↔ s = s' := Option.some_inj

namespace Step

/-- Only a character that an authority may hold is accepted at all. -/
theorem isAuthorityChar (h : Step s c s') : IsAuthorityChar c := by
  cases h with
  | colon | opening | closing | user | percent => exact .inl (by decide)
  | plain h => exact .inr h

/-- A bracket is closed only after it was opened. -/
theorem opened_of_closed (h : Step s c s') (hs : s.closed = true → s.opened = true) :
    s'.closed = true → s'.opened = true := by
  cases h with
  | colon | user | percent | plain => exact hs
  | opening => exact fun _ => rfl
  | closing hopened => exact fun _ => hopened

/-- Once a bracket was opened it stays so, and no other is. -/
theorem opened_of_opened (h : Step s c s') (hs : s.opened = true) : s'.opened = true ∧ c ≠ '[' := by
  cases h with
  | colon | user | percent | closing => exact ⟨hs, by decide⟩
  | opening _ hopened => rw [hs] at hopened; cases hopened
  | plain h => exact ⟨hs, by rintro rfl; cases h⟩

/-- Without a closing bracket, none is closed. -/
theorem closed_eq (h : Step s c s') (hc : c ≠ ']') : s'.closed = s.closed := by
  cases h with
  | colon | opening | user | percent | plain => rfl
  | closing => exact absurd rfl hc

/-- Without a colon, none is counted. -/
theorem colons_eq_zero (h : Step s c s') (hc : c ≠ ':') (hs : s.colons = 0) : s'.colons = 0 := by
  cases h with
  | colon => exact absurd rfl hc
  | opening | percent | plain => exact hs
  | closing | user => rfl

end Step

namespace Scans

/-- What every character keeps is kept. -/
theorem keeps {P : AuthorityScan → Prop} (h : Scans s cs s') (hs : P s)
    (hstep : ∀ c ∈ cs, ∀ s s', Step s c s' → P s → P s') : P s' := by
  induction cs generalizing s with
  | nil => rwa [← scans_nil_iff.mp h]
  | cons c cs ih =>
    obtain ⟨next, hnext, hrest⟩ := scans_cons_iff.mp h
    obtain ⟨hc, hcs⟩ := List.forall_mem_cons.mp hstep
    exact ih hrest (hc _ _ hnext hs) hcs

/-- All that is scanned consists of characters that an authority may hold. -/
theorem isAuthorityChar (h : Scans s cs s') : ∀ c ∈ cs, IsAuthorityChar c := by
  induction cs generalizing s with
  | nil => exact fun _ hc => absurd hc List.not_mem_nil
  | cons c cs ih =>
    obtain ⟨next, hnext, hrest⟩ := scans_cons_iff.mp h
    exact List.forall_mem_cons.mpr ⟨hnext.isAuthorityChar, ih hrest⟩

/-- An opening bracket is not scanned where one was scanned before. -/
theorem not_mem_of_opened (h : Scans s cs s') (hs : s.opened = true) : '[' ∉ cs := by
  induction cs generalizing s with
  | nil => exact List.not_mem_nil
  | cons c cs ih =>
    obtain ⟨next, hnext, hrest⟩ := scans_cons_iff.mp h
    obtain ⟨hopened, hc⟩ := hnext.opened_of_opened hs
    rw [List.mem_cons, not_or]
    exact ⟨hc.symm, ih hrest hopened⟩

/-- Where the text has no colon, none has been counted when it ends. -/
theorem colons_eq_zero (h : Scans {} cs s') (hcs : ':' ∉ cs) : s'.colons = 0 :=
  h.keeps (P := fun s => s.colons = 0) rfl fun _ hc _ _ hstep hs =>
    hstep.colons_eq_zero (fun heq => hcs (heq ▸ hc)) hs

end Scans

/-- Digits are passed. -/
theorem scans_of_isDigit (h : ∀ c ∈ cs, isDigit c = true) : Scans s cs s := by
  induction cs with
  | nil => exact scans_nil_iff.mpr rfl
  | cons c cs ih =>
    obtain ⟨hc, hcs⟩ := List.forall_mem_cons.mp h
    exact scans_cons_iff.mpr ⟨s, .plain (isPlainChar_of_isDigit hc), ih hcs⟩

end AuthorityScan

/-! ### Authorities -/

section

open AuthorityScan

variable {cs : List Char}

/-- What the scan of an authority must have seen. -/
theorem isAuthority_iff :
    isAuthority cs = true ↔ ∃ s, Scans {} cs s ∧ s.opened = s.closed ∧ s.colons ≤ 1 ∧
      s.percent = false ∧ cs.getLast? ≠ some '@' := by
  rw [isAuthority]
  split
  · rename_i s hscan
    have hunique (s' : AuthorityScan) : Scans {} cs s' ↔ s' = s := by
      rw [Scans, hscan, Option.some_inj, eq_comm]
    simp [hunique, and_assoc]
  · rename_i hscan
    simp [Scans, hscan]

/-- An authority consists of the characters that an authority may hold, and no others. -/
theorem isAuthorityChar_of_isAuthority (h : isAuthority cs = true) :
    ∀ c ∈ cs, IsAuthorityChar c := by
  obtain ⟨s, hscan, -⟩ := isAuthority_iff.mp h
  exact hscan.isAuthorityChar

/-- A port can be put behind an authority that has no user, if no colon counts in it. -/
theorem isAuthority_append_port {digits : List Char} (huser : '@' ∉ cs)
    (hcolons : ∀ s, Scans {} cs s → s.colons = 0) (hdigits : ∀ c ∈ digits, isDigit c = true)
    (hsome : digits ≠ []) : isAuthority (cs ++ ':' :: digits) = isAuthority cs := by
  have hlast : cs.getLast? ≠ some '@' := fun h => huser (List.mem_of_getLast? h)
  have hlast' : (cs ++ ':' :: digits).getLast? ≠ some '@' := by
    intro h
    rw [List.append_cons, List.getLast?_append, List.getLast?_eq_some_getLast hsome,
      Option.some_or] at h
    exact absurd (hdigits _ (Option.some.inj h ▸ List.getLast_mem hsome)) (by decide)
  rw [Bool.eq_iff_iff, isAuthority_iff, isAuthority_iff]
  constructor
  · rintro ⟨s, hscan, hopened, -, hpercent, -⟩
    obtain ⟨s₁, h₁, hrest⟩ := scans_append_iff.mp hscan
    obtain ⟨s₂, hcolon, hrest⟩ := scans_cons_iff.mp hrest
    obtain rfl : s₂ = s := Option.some.inj ((scans_of_isDigit hdigits).symm.trans hrest)
    cases hcolon with
    | colon => exact ⟨s₁, h₁, hopened, by rw [hcolons s₁ h₁]; decide, hpercent, hlast⟩
    | plain h => cases h
  · rintro ⟨s, hscan, hopened, -, hpercent, -⟩
    have hzero := hcolons s hscan
    have hcolon : Step s ':' { s with colons := s.colons + 1 } := .colon (by rw [hzero]; decide)
    exact ⟨_, scans_append_iff.mpr ⟨s, hscan, scans_cons_iff.mpr
      ⟨_, hcolon, scans_of_isDigit hdigits⟩⟩, hopened, by simp [hzero], hpercent, hlast'⟩

end

/-! ### Hosts -/

section

open AuthorityScan

variable {authority name cs : List Char}

/-- A user in front does not change the host. -/
theorem hostOf_append_user (h : '@' ∉ cs) : hostOf (name ++ '@' :: cs) = hostOf cs := by
  rw [hostOf, hostOf, splitLast_append h, splitLast_of_not_mem h]

/-- The host of an authority that starts with a bracket goes up to the closing one, and both
brackets belong to it. -/
theorem hostOf_of_bracket (h : '@' ∉ '[' :: cs) :
    hostOf ('[' :: cs) = '[' :: cs.takeWhile (· != ']') ++ [']'] := by
  rw [hostOf, splitLast_of_not_mem h]
  rfl

/-- The host of an authority without brackets and user is all that stands in front of its first
colon. -/
theorem hostOf_of_name (h : '@' ∉ cs) (hname : cs.head? ≠ some '[') :
    hostOf cs = cs.takeWhile (· != ':') := by
  rw [hostOf, splitLast_of_not_mem h]
  rcases cs with _ | ⟨c, cs⟩
  · rfl
  · split
    · rename_i heq
      exact absurd (congrArg List.head? heq) hname
    · rfl

/-- What a host looks like: it stands in brackets that are an authority by themselves, or it has no
colon. -/
inductive HostForm : List Char → Prop
  | address {inner : List Char} (huser : '@' ∉ inner) (hopen : '[' ∉ inner) (hclose : ']' ∉ inner)
      (h : isAuthority ('[' :: inner ++ [']']) = true) : HostForm ('[' :: inner ++ [']'])
  | name {cs : List Char} (huser : '@' ∉ cs) (hcolon : ':' ∉ cs)
      (h : ∀ c ∈ cs, IsAuthorityChar c) : HostForm cs

/-- What is taken up to a mark does not hold the mark. -/
theorem not_mem_takeWhile {mark : Char} (cs : List Char) : mark ∉ cs.takeWhile (· != mark) :=
  fun h => by simpa using List.all_eq_true.mp List.all_takeWhile _ h

/-- Behind a user, or where there is none, nothing has been seen that counts. -/
theorem scans_user {s : AuthorityScan} {user : List Char}
    (huser : user = [] ∨ ∃ name, user = name ++ ['@']) (h : Scans {} user s)
    (hopened : s.opened = false) : s = {} := by
  rcases huser with rfl | ⟨name, rfl⟩
  · exact (scans_nil_iff.mp h).symm
  · obtain ⟨s₁, hname, hlast⟩ := scans_append_iff.mp h
    obtain ⟨s₂, hat, hnil⟩ := scans_cons_iff.mp hlast
    obtain rfl := scans_nil_iff.mp hnil
    have hclosed : s₁.closed = true → s₁.opened = true :=
      hname.keeps (P := fun s => s.closed = true → s.opened = true) Bool.false_ne_true.elim
        fun _ _ _ _ hstep => hstep.opened_of_closed
    cases hat with
    | user =>
      have hnot : s₁.closed = false := Bool.eq_false_iff.mpr fun h => by
        rw [show s₁.opened = true from hclosed h] at hopened
        cases hopened
      simp only [show s₁.opened = false from hopened, hnot]
    | plain hplain => exact absurd hplain (by decide)

/-- What stands in the brackets of an authority is an authority with them. -/
theorem isAuthority_bracket {s : AuthorityScan} {user rest : List Char}
    (huser : user = [] ∨ ∃ name, user = name ++ ['@']) (h : Scans {} (user ++ '[' :: rest) s) :
    '[' ∉ rest.takeWhile (· != ']') ∧
      isAuthority ('[' :: rest.takeWhile (· != ']') ++ [']']) = true := by
  obtain ⟨s₁, hfront, hrest⟩ := scans_append_iff.mp h
  obtain ⟨s₂, hopening, hrest⟩ := scans_cons_iff.mp hrest
  rw [← List.takeWhile_append_dropWhile (p := (· != ']')) (l := rest)] at hrest
  obtain ⟨s₃, hinner, -⟩ := scans_append_iff.mp hrest
  cases hopening with
  | plain h => cases h
  | opening hpercent hopened =>
    obtain rfl := scans_user huser hfront hopened
    have hopened₃ : s₃.opened = true :=
      hinner.keeps (P := fun s => s.opened = true) rfl fun _ _ _ _ hstep hs =>
        (hstep.opened_of_opened hs).1
    have hclosed₃ : s₃.closed = false :=
      hinner.keeps (P := fun s => s.closed = false) rfl fun c hc _ _ hstep hs => by
        rw [hstep.closed_eq (fun heq => not_mem_takeWhile rest (heq ▸ hc)), hs]
    refine ⟨hinner.not_mem_of_opened rfl, isAuthority_iff.mpr
      ⟨{ s₃ with closed := true, colons := 0, percent := false }, ?_, hopened₃, Nat.zero_le 1, rfl,
        by rw [List.getLast?_concat]; decide⟩⟩
    exact scans_append_iff.mpr ⟨s₃, scans_cons_iff.mpr ⟨_, .opening rfl rfl, hinner⟩,
      scans_cons_iff.mpr ⟨_, .closing hopened₃ hclosed₃, scans_nil_iff.mpr rfl⟩⟩

/-- The host of every authority has the form of a host, whatever user and port stand around it. -/
theorem hostForm_hostOf (h : isAuthority authority = true) : HostForm (hostOf authority) := by
  obtain ⟨s, hscan, -⟩ := isAuthority_iff.mp h
  have hchars := hscan.isAuthorityChar
  obtain ⟨user, hostPort, huser, rfl, hat, hhost⟩ : ∃ user hostPort,
      (user = [] ∨ ∃ name, user = name ++ ['@']) ∧ authority = user ++ hostPort ∧
        '@' ∉ hostPort ∧ hostOf authority = hostOf hostPort := by
    rcases hsplit : splitLast '@' authority with _ | ⟨name, hostPort⟩
    · exact ⟨[], authority, .inl rfl, rfl, splitLast_eq_none_iff.mp hsplit, rfl⟩
    · obtain ⟨rfl, hat⟩ := splitLast_eq_some_iff.mp hsplit
      exact ⟨name ++ ['@'], hostPort, .inr ⟨name, rfl⟩, by simp, hat, hostOf_append_user hat⟩
  have hpart {p : Char → Bool} {mark : Char} {cs : List Char} (hmark : mark ∉ cs) :
      mark ∉ cs.takeWhile p := fun hmem => hmark ((List.takeWhile_sublist p).subset hmem)
  rw [hhost]
  by_cases hbracket : hostPort.head? = some '['
  · obtain ⟨rest, rfl⟩ := List.head?_eq_some_iff.mp hbracket
    obtain ⟨hopen, hauthority⟩ := isAuthority_bracket huser hscan
    rw [hostOf_of_bracket hat]
    exact .address (hpart fun hmem => hat (List.mem_cons_of_mem _ hmem)) hopen
      (not_mem_takeWhile rest) hauthority
  · rw [hostOf_of_name hat hbracket]
    exact .name (hpart hat) (not_mem_takeWhile hostPort) fun c hc =>
      hchars c (List.mem_append_right _ ((List.takeWhile_sublist _).subset hc))

end

/-! ### Ports -/

section

variable {authority text : List Char} {port : UInt16}

/-- What stands where a port is written: behind the last colon, with no bracket closed and no user
ended behind it. -/
def PortText (authority text : List Char) : Prop :=
  ∃ front, authority = front ++ ':' :: text ∧ ':' ∉ text ∧ ']' ∉ text ∧ '@' ∉ text

/-- A port is written with digits and at most a plus sign in front, so no other character is in its
text. -/
theorem not_mem_of_writesPort (h : WritesPort text port) {c : Char} (hplus : c ≠ '+')
    (hdigit : isDigit c = false) : c ∉ text := by
  obtain ⟨digits, htext, -, hdigits, -⟩ := h
  have hnot : c ∉ digits := fun hmem => by
    rw [hdigits c hmem] at hdigit
    cases hdigit
  rcases htext with rfl | rfl
  · exact hnot
  · rw [List.mem_cons, not_or]
    exact ⟨hplus, hnot⟩

/-- The port of an authority is the one that is written there. -/
theorem portOf?_eq_some_iff :
    portOf? authority = some port ↔ ∃ text, PortText authority text ∧ WritesPort text port := by
  simp only [portOf?, Option.bind_eq_bind, Option.bind_eq_some_iff, Prod.exists]
  constructor
  · rintro ⟨front, text, hsplit, hport⟩
    obtain ⟨rfl, hcolon⟩ := splitLast_eq_some_iff.mp hsplit
    have hwrites := port?_eq_some_iff.mp hport
    exact ⟨text, ⟨front, rfl, hcolon, not_mem_of_writesPort hwrites (by decide) (by decide),
      not_mem_of_writesPort hwrites (by decide) (by decide)⟩, hwrites⟩
  · rintro ⟨text, ⟨front, rfl, hcolon, -, -⟩, hwrites⟩
    exact ⟨front, text, splitLast_append hcolon, port?_eq_some_iff.mpr hwrites⟩

end

/-! ### A scheme and an authority -/

section

variable {scheme authority : List Char} {u : Uri}

/-- A scheme in front of a colon and two slashes is cut off there, and the rest is what stands
behind the slashes. -/
theorem splitScheme?_append (h : ∀ c ∈ scheme, isSchemeChar c = true) (rest : List Char) :
    splitScheme? (scheme ++ ':' :: '/' :: '/' :: rest) = some (scheme, rest) := by
  rw [splitScheme?, List.dropWhile_append_of_pos h, List.takeWhile_append_of_pos h]
  simp [isSchemeChar, isLetter, isDigit]

/-- A URL that is a scheme of the web and an authority is read as these. -/
theorem parse?_ofAuthority
    (hscheme : scheme = ['h', 't', 't', 'p'] ∨ scheme = ['h', 't', 't', 'p', 's'])
    (hchars : ∀ c ∈ authority, IsAuthorityChar c) {url : String}
    (hurl : url.toList = scheme ++ ':' :: '/' :: '/' :: authority) :
    parse? url = some u ↔
      url.utf8ByteSize ≤ maxLength ∧ isAuthority authority = true ∧ authority ≠ [] ∧
        u = ⟨some (String.ofList scheme), some (String.ofList authority), "/", none⟩ := by
  have hends : ∀ c ∈ authority, (!(c == '/' || c == '?' || c == '#')) = true := by
    intro c hc
    rw [Bool.not_eq_true', Bool.or_eq_false_iff, Bool.or_eq_false_iff]
    refine ⟨⟨?_, ?_⟩, ?_⟩ <;> rw [beq_eq_false_iff_ne] <;> rintro rfl <;>
      exact absurd (hchars _ hc) (by decide)
  have hletters : ∀ c ∈ scheme, isSchemeChar c = true := by
    rcases hscheme with rfl | rfl <;> exact forall_mem_of_all (by decide)
  have hfull : parseFull? (scheme ++ ':' :: '/' :: '/' :: authority) = some u ↔
      isAuthority authority = true ∧ authority ≠ [] ∧
        u = ⟨some (String.ofList scheme), some (String.ofList authority), "/", none⟩ := by
    have hlength : ¬ scheme.length > maxSchemeLength := by rcases hscheme with rfl | rfl <;> decide
    have hnormal : normalScheme scheme = String.ofList scheme := by
      rcases hscheme with rfl | rfl <;> decide
    have hempty : pathAndQuery? [] = some ("", none) := rfl
    have htake := @List.takeWhile_append_of_pos _ _ authority [] hends
    have hdrop := @List.dropWhile_append_of_pos _ _ authority [] hends
    rw [List.append_nil] at htake hdrop
    simp only [parseFull?, splitScheme?_append hletters, htake, hdrop, List.takeWhile_nil,
      List.append_nil, List.dropWhile_nil, if_neg hlength, hnormal, hempty, Option.map_some]
    rw [Option.ite_none_left_eq_some, Bool.or_eq_true, not_or, Bool.not_eq_true', Bool.not_eq_false,
      List.isEmpty_iff, and_assoc, Option.some_inj, eq_comm (b := u)]
    rfl
  rw [parse?, Option.ite_none_left_eq_some, Nat.not_lt, hurl]
  refine and_congr_right fun _ => ?_
  rw [← hfull]
  rcases hscheme with rfl | rfl <;> rfl

end

end ReverseTunnel.Http.Uri
