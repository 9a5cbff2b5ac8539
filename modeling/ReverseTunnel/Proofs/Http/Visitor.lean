import ReverseTunnel.Http.Visitor
import ReverseTunnel.Proofs.Address.Print
import ReverseTunnel.Proofs.Http.Plain
import ReverseTunnel.Proofs.Text.Normal

/-!
# The address that a proxy names

A proxy names a visitor by its address, and there are three ways to write it: alone, between
brackets if it is of version 6, and with a port. The first two are read as what they mean, and so
is an address of version 4 with a port.

An address of version 6 with a port is not. Its brackets are what keeps the port apart, but the
opening one is gone when the reader comes to ports, and what is left is no address of any kind. So
the visitor has no address.

## Main results

* `Visitor.parseAddress?_text`: what is read of each way to write an address.
* `Visitor.named_address_is_taken`: whose address it is that a visitor is known by.
-/

namespace ReverseTunnel.Visitor

open Text Http

/-- How a proxy may write an address. -/
inductive Writing where
  /-- The address alone. -/
  | bare (ip : Ip)
  /-- An address of version 6 between brackets. -/
  | bracketed (bits : BitVec 128)
  /-- An address with a port. -/
  | withPort (ip : Ip) (port : UInt16)
  deriving DecidableEq, Repr

namespace Writing

/-- The address that is meant. -/
def ip : Writing → Ip
  | bare ip => ip
  | bracketed bits => .v6 bits
  | withPort ip _ => ip

/-- The text that is written. -/
def text : Writing → String
  | bare ip => ip.print
  | bracketed bits => "[" ++ (Ip.v6 bits).print ++ "]"
  | withPort ip port => SocketAddress.print ⟨ip, 0, port⟩

/-- The writing is one of an address of version 6 with a port. -/
def IsMisread : Writing → Prop
  | withPort (.v6 _) _ => True
  | _ => False

instance : DecidablePred IsMisread
  | bare _ => inferInstanceAs (Decidable False)
  | bracketed _ => inferInstanceAs (Decidable False)
  | withPort (.v4 _) _ => inferInstanceAs (Decidable False)
  | withPort (.v6 _) _ => inferInstanceAs (Decidable True)

/-! ### The text of an address -/

/-- The text of an address is made of the characters of its spelling. -/
theorem toList_print (ip : Ip) : ip.print.toList = ip.printChars := String.toList_ofList

/-- A long address in brackets, character by character. -/
theorem toList_bracketed (bits : BitVec 128) :
    (bracketed bits).text.toList = '[' :: (Ip.v6 bits).printChars ++ [']'] := by
  simp [text, toList_print]

/-- A short address and a port with a colon between them, character by character. -/
theorem toList_withPort_v4 (bits : BitVec 32) (port : UInt16) :
    (withPort (.v4 bits) port).text.toList =
      (Ip.v4 bits).printChars ++ ':' :: Nat.toDigits 10 port.toNat := by
  simp [text, SocketAddress.print, toList_print]

/-- A long address in brackets and the port behind it, character by character. -/
theorem toList_withPort_v6 (bits : BitVec 128) (port : UInt16) :
    (withPort (.v6 bits) port).text.toList =
      '[' :: (Ip.v6 bits).printChars ++ ']' :: ':' :: Nat.toDigits 10 port.toNat := by
  simp [text, SocketAddress.print, toList_print]

/-- No blank is part of such a text. -/
theorem isBlank_of_mem_text (w : Writing) : ∀ c ∈ w.text.toList, isBlank c = false := by
  have hprint (ip : Ip) : ∀ c ∈ ip.printChars, isBlank c = false := fun _ hc =>
    Ip.isBlank_of_isAddressChar (Ip.isAddressChar_of_mem_printChars hc)
  have hport (port : Nat) : ∀ c ∈ ':' :: Nat.toDigits 10 port, isBlank c = false := fun _ hc =>
    Ip.isBlank_of_isAddressChar (Ip.isAddressChar_of_mem_port hc)
  rcases w with ip | bits | ⟨bits | bits, port⟩
  · rw [text, toList_print]
    exact hprint ip
  · rw [toList_bracketed]
    exact List.forall_mem_append.mpr
      ⟨List.forall_mem_cons.mpr ⟨rfl, hprint _⟩, List.forall_mem_singleton.mpr rfl⟩
  · rw [toList_withPort_v4]
    exact List.forall_mem_append.mpr ⟨hprint _, hport _⟩
  · rw [toList_withPort_v6]
    exact List.forall_mem_append.mpr ⟨List.forall_mem_cons.mpr ⟨rfl, hprint _⟩,
      List.forall_mem_cons.mpr ⟨rfl, hport _⟩⟩

/-- Every way to write an address writes something, so the text is never taken for a missing one. -/
theorem isEmpty_text (w : Writing) : w.text.isEmpty = false := by
  rw [String.isEmpty_eq_false_iff, ne_eq, ← String.toList_eq_nil_iff]
  rcases w with ip | bits | ⟨bits | bits, port⟩
  · rw [text, toList_print]
    exact ip.printChars_ne_nil
  · simp [toList_bracketed]
  · simp [toList_withPort_v4]
  · simp [toList_withPort_v6]

end Writing

/-! ### How it is read -/

section

variable {opened core closed : List Char} {text : String}

/-- What stands between brackets is read as an address, and if it is none as one with a port. -/
theorem parseAddress?_of_toList (htext : text.toList = opened ++ core ++ closed)
    (hopened : ∀ c ∈ opened, c = '[') (hclosed : ∀ c ∈ closed, c = ']')
    (hfirst : '[' ∉ core) (hlast : core.getLast? ≠ some ']') (hsome : core ≠ []) :
    parseAddress? text = ((Ip.parseChars? .standard core).map Ip.unmap).or
      ((SocketAddress.parseChars? core).map fun socket => socket.ip.unmap) := by
  have hfront : text.toList.dropWhile (· == '[') = core ++ closed := by
    obtain ⟨c, core', rfl⟩ := List.exists_cons_of_ne_nil hsome
    have hc : ¬ (c == '[') = true := fun heq =>
      hfirst (beq_iff_eq.mp heq ▸ List.mem_cons_self)
    rw [htext, List.append_assoc, List.dropWhile_append_of_pos (by simpa using hopened),
      List.cons_append, List.dropWhile_cons_of_neg (p := (· == '[')) hc]
  have hback : ((core ++ closed).reverse.dropWhile (· == ']')).reverse = core := by
    obtain ⟨front, c, rfl⟩ := (List.eq_nil_or_concat core).resolve_left hsome
    have hc : ¬ (c == ']') = true := by simpa using hlast
    rw [List.concat_eq_append, List.reverse_append,
      List.dropWhile_append_of_pos (by simpa using hclosed), List.reverse_append,
      List.reverse_singleton, List.singleton_append,
      List.dropWhile_cons_of_neg (p := (· == ']')) hc]
    simp
  rw [parseAddress?, hfront, hback]
  cases Ip.parseChars? .standard core <;> rfl

/-- An address is read with brackets and without. -/
theorem parseAddress?_of_printChars {ip : Ip}
    (htext : text.toList = opened ++ ip.printChars ++ closed) (hopened : ∀ c ∈ opened, c = '[')
    (hclosed : ∀ c ∈ closed, c = ']') : parseAddress? text = some ip.unmap := by
  have hnot {c : Char} (hc : ¬ Ip.IsAddressChar c) : c ∉ ip.printChars := fun h =>
    hc (Ip.isAddressChar_of_mem_printChars h)
  have hlast : ip.printChars.getLast? ≠ some ']' := fun h =>
    hnot (by decide) (List.mem_of_getLast? h)
  rw [parseAddress?_of_toList htext hopened hclosed (hnot (by decide)) hlast ip.printChars_ne_nil,
    Ip.parseChars?_printChars]
  rfl

/-- With a bracket closed inside it, no text is read. -/
theorem parseAddress?_of_close (htext : text.toList = opened ++ core ++ [])
    (hopened : ∀ c ∈ opened, c = '[') (hfirst : '[' ∉ core) (hlast : core.getLast? ≠ some ']')
    (hclose : ']' ∈ core) : parseAddress? text = none := by
  have hnone : Ip.parseChars? .standard core = none :=
    Option.eq_none_iff_forall_ne_some.mpr fun _ h =>
      absurd (Ip.isAddressChar_of_parseChars? h _ hclose) (by decide)
  rw [parseAddress?_of_toList htext hopened (by simp) hfirst hlast (List.ne_nil_of_mem hclose),
    hnone, SocketAddress.parseChars?_of_close hfirst hclose]
  rfl

/-- Behind an address and a port, no bracket has to be closed. -/
theorem brackets_port (ip : Ip) {marks : List Char} (hmarks : '[' ∉ marks) (port : Nat) :
    '[' ∉ ip.printChars ++ (marks ++ Nat.toDigits 10 port) ∧
      (ip.printChars ++ (marks ++ Nat.toDigits 10 port)).getLast? ≠ some ']' := by
  have hdigit {c : Char} (hc : c ∈ Nat.toDigits 10 port) : (Ip.hexDigit? c).isSome = true :=
    Ip.isSome_hexDigit?_of_mem_toDigits (by decide) (by decide) hc
  constructor
  · refine List.not_mem_append (fun h => ?_) (List.not_mem_append hmarks fun h => ?_)
    · exact absurd (Ip.isAddressChar_of_mem_printChars h) (by decide)
    · exact absurd (hdigit h) (by decide)
  · obtain ⟨front, c, hdigits⟩ :=
      (List.eq_nil_or_concat (Nat.toDigits 10 port)).resolve_left Nat.toDigits_ne_nil
    rw [List.concat_eq_append] at hdigits
    rw [hdigits, ← List.append_assoc, ← List.append_assoc, List.getLast?_concat]
    rintro ⟨⟩
    exact absurd (hdigit (hdigits ▸ List.mem_concat_self)) (by decide)

/-- A short address with a port behind it is read back as the address alone. -/
theorem parseAddress?_withPort_v4 (bits : BitVec 32) (port : UInt16) :
    parseAddress? (Writing.withPort (.v4 bits) port).text = some (.v4 bits) := by
  have htext : (Writing.withPort (.v4 bits) port).text.toList =
      [] ++ ((Ip.v4 bits).printChars ++ ':' :: Nat.toDigits 10 port.toNat) ++ [] := by
    rw [List.nil_append, List.append_nil, Writing.toList_withPort_v4]
  have hmarks : '[' ∉ [':'] := by decide
  obtain ⟨hfirst, hlast⟩ := brackets_port (.v4 bits) hmarks port.toNat
  rw [parseAddress?_of_toList htext (by simp) (by simp) hfirst hlast (by simp),
    Ip.parseChars?_port, SocketAddress.parseChars?_v4]
  rfl

/-- Without its opening bracket, an address of version 6 with a port is none. -/
theorem parseAddress?_withPort_v6 (bits : BitVec 128) (port : UInt16) :
    parseAddress? (Writing.withPort (.v6 bits) port).text = none := by
  have htext : (Writing.withPort (.v6 bits) port).text.toList =
      ['['] ++ ((Ip.v6 bits).printChars ++ ']' :: ':' :: Nat.toDigits 10 port.toNat) ++ [] := by
    rw [List.append_nil, Writing.toList_withPort_v6]
    rfl
  have hmarks : '[' ∉ [']', ':'] := by decide
  obtain ⟨hfirst, hlast⟩ := brackets_port (.v6 bits) hmarks port.toNat
  exact parseAddress?_of_close htext (by simp) hfirst hlast (by simp)

end

/-- Each way to write an address is read as it is meant, but for the one that is misread. -/
theorem parseAddress?_text (w : Writing) :
    parseAddress? w.text = if w.IsMisread then none else some w.ip.unmap := by
  rcases w with ip | bits | ⟨bits | bits, port⟩
  · have htext : (Writing.bare ip).text.toList = [] ++ ip.printChars ++ [] := by
      rw [List.nil_append, List.append_nil, ← Writing.toList_print, Writing.text]
    exact parseAddress?_of_printChars htext (by simp) (by simp)
  · have htext : (Writing.bracketed bits).text.toList =
        ['['] ++ (Ip.v6 bits).printChars ++ [']'] := Writing.toList_bracketed bits
    exact parseAddress?_of_printChars htext (by simp) (by simp)
  · exact parseAddress?_withPort_v4 bits port
  · exact parseAddress?_withPort_v6 bits port

/-! ### Where it stands -/

/-- The first field of a name holds a text. Fields with other bytes than those of plain text hold
none. -/
def Holds (headers : Headers) (name : String) (text : List Char) : Prop :=
  Plain text ∧ headers.get? name = some (Utf8.encode (String.ofList text))

/-- A text is another one between spaces and tabs. -/
def Between (core text : List Char) : Prop :=
  ∃ front back, text = front ++ core ++ back ∧
    (∀ c ∈ front, c = ' ' ∨ c = '\t') ∧ ∀ c ∈ back, c = ' ' ∨ c = '\t'

/-- The first entry of a list with commas. -/
def IsFirst (entry text : List Char) : Prop :=
  ',' ∉ entry ∧ (text = entry ∨ ∃ rest, text = entry ++ ',' :: rest)

/-- Nothing is named in `X-Forwarded-For`: it is not there, it is not plain, or its first entry is
blank. -/
def Unforwarded (headers : Headers) : Prop :=
  ∀ text entry, Holds headers "x-forwarded-for" text → IsFirst entry text → Between [] entry

/-- A proxy names the visitor in the first entry of `X-Forwarded-For`, or in `X-Real-IP` where
nothing is named there. -/
inductive Names (headers : Headers) (word : List Char) : Prop
  | forwarded {entry text : List Char} (h : Holds headers "x-forwarded-for" text)
      (hfirst : IsFirst entry text) (hword : Between word entry)
  | direct {text : List Char} (hnone : Unforwarded headers) (h : Holds headers "x-real-ip" text)
      (hword : Between word text)

/-- No proxy names the visitor. -/
def Unnamed (headers : Headers) : Prop :=
  Unforwarded headers ∧ ∀ text, Holds headers "x-real-ip" text → Between [] text

section

variable {headers : Headers} {name : String} {word entry text : List Char}

/-- The text of a field is found exactly when the first field of that name holds it. -/
theorem text?_eq_some_iff {s : String} :
    headers.text? name = some s ↔ Holds headers name s.toList := by
  rw [Headers.text?, Option.bind_eq_some_iff, Holds, String.ofList_toList]
  constructor
  · rintro ⟨value, hvalue, hvisible⟩
    obtain ⟨hplain, rfl⟩ := visible?_eq_some_iff.mp hvisible
    exact ⟨hplain, hvalue⟩
  · rintro ⟨hplain, hvalue⟩
    exact ⟨_, hvalue, visible?_eq_some_iff.mpr ⟨hplain, rfl⟩⟩

/-- The text that the first field of a name holds is the one found under the name. -/
theorem Holds.text?_eq (h : Holds headers name text) :
    headers.text? name = some (String.ofList text) := by
  rw [text?_eq_some_iff, String.toList_ofList]
  exact h

/-- The first entry of a list with commas is what stands in front of the first comma. -/
theorem IsFirst.takeWhile_eq (h : IsFirst entry text) : text.takeWhile (· != ',') = entry := by
  obtain ⟨hcomma, hrest⟩ := h
  have hall : ∀ c ∈ entry, (c != ',') = true := fun c hc =>
    bne_iff_ne.mpr fun heq => hcomma (heq ▸ hc)
  rcases hrest with rfl | ⟨rest, rfl⟩
  · have htake : (text ++ []).takeWhile (· != ',') = text ++ [].takeWhile (· != ',') :=
      List.takeWhile_append_of_pos hall
    simpa using htake
  · rw [List.takeWhile_append_of_pos hall]
    simp

/-- What stands in front of the first comma is the first entry of the list. -/
theorem isFirst_takeWhile (text : List Char) : IsFirst (text.takeWhile (· != ',')) text := by
  rcases hsplit : splitFirst ',' text with _ | ⟨entry, rest⟩
  · have hfirst : IsFirst text text := ⟨splitFirst_eq_none.mp hsplit, .inl rfl⟩
    rwa [hfirst.takeWhile_eq]
  · obtain ⟨rfl, hcomma⟩ := splitFirst_eq_some hsplit
    have hfirst : IsFirst entry (entry ++ ',' :: rest) := ⟨hcomma, .inr ⟨rest, rfl⟩⟩
    rwa [hfirst.takeWhile_eq]

/-- A word without blanks is what is left of a text around it. -/
theorem Between.trim (h : Between word text) (hword : ∀ c ∈ word, isBlank c = false) :
    trim (String.ofList text) = String.ofList word := by
  obtain ⟨front, back, rfl, hfront, hback⟩ := h
  have hblank {cs : List Char} (h : ∀ c ∈ cs, c = ' ' ∨ c = '\t') : ∀ c ∈ cs, isBlank c = true := by
    intro c hc
    rcases h c hc with rfl | rfl <;> decide
  rw [Text.trim, String.toList_ofList, trimBy_of_padded (hblank hfront) (hblank hback) hword]

/-- From `X-Forwarded-For` the first entry is taken, without the blanks around it, unless nothing is
left of it then. -/
theorem forwardedFor?_of_isFirst (h : Holds headers "x-forwarded-for" text)
    (hfirst : IsFirst entry text) (hword : Between word entry)
    (hclear : ∀ c ∈ word, isBlank c = false) :
    forwardedFor? headers =
      if (String.ofList word).isEmpty then none else some (String.ofList word) := by
  rw [forwardedFor?, h.text?_eq, Option.bind_eq_bind, Option.bind_some, String.toList_ofList,
    hfirst.takeWhile_eq, hword.trim hclear]

/-- Where no `X-Forwarded-For` field can be read, none names an address. -/
theorem forwardedFor?_of_unforwarded (h : Unforwarded headers) : forwardedFor? headers = none := by
  rcases htext : headers.text? "x-forwarded-for" with _ | text
  · rw [forwardedFor?, htext]
    rfl
  · have hholds := text?_eq_some_iff.mp htext
    have hfirst := isFirst_takeWhile text.toList
    exact forwardedFor?_of_isFirst hholds hfirst (h _ _ hholds hfirst) (by simp)

/-- From `X-Real-IP` the whole text is taken, without the blanks around it, unless nothing is left
of it then. -/
theorem realIp?_of_holds (h : Holds headers "x-real-ip" text) (hword : Between word text)
    (hclear : ∀ c ∈ word, isBlank c = false) :
    realIp? headers =
      if (String.ofList word).isEmpty then none else some (String.ofList word) := by
  rw [realIp?, h.text?_eq, Option.bind_eq_bind, Option.bind_some, hword.trim hclear]

/-- Where the fields name an address and are trusted, it counts whoever the peer is, if it can be
read. -/
theorem address?_of_names {w : Writing} (h : Names headers w.text.toList) (peer : Ip) :
    address? true headers peer = parseAddress? w.text := by
  have hclear := w.isBlank_of_mem_text
  have hsome : (forwardedFor? headers).or (realIp? headers) = some w.text := by
    cases h with
    | forwarded h hfirst hbetween =>
      rw [forwardedFor?_of_isFirst h hfirst hbetween hclear, String.ofList_toList, w.isEmpty_text]
      rfl
    | direct hnone h hbetween =>
      rw [forwardedFor?_of_unforwarded hnone, realIp?_of_holds h hbetween hclear,
        String.ofList_toList, w.isEmpty_text]
      rfl
  simp only [address?, if_true, hsome]

/-- Where the fields name no address, the peer counts, even if fields are trusted. -/
theorem address?_of_unnamed (h : Unnamed headers) (peer : Ip) :
    address? true headers peer = some peer.unmap := by
  have hreal : realIp? headers = none := by
    rcases htext : headers.text? "x-real-ip" with _ | text
    · rw [realIp?, htext]
      rfl
    · have hholds := text?_eq_some_iff.mp htext
      exact realIp?_of_holds hholds (h.2 _ hholds) (by simp)
  simp only [address?, if_true, forwardedFor?_of_unforwarded h.1, hreal, Option.none_or]

end

/-- **A visitor has the address that a trusted proxy names.** Without trust, or where no proxy names
it, a visitor has the address that its connection comes from. With trust it has the one that is
named, whichever of the ways to write an address is taken, but it has none if that is one of version
6 with a port. Mapped addresses are taken for those that they carry. -/
theorem named_address_is_taken (headers : Headers) (peer : Ip) :
    address? false headers peer = some peer.unmap ∧
      (Unnamed headers → address? true headers peer = some peer.unmap) ∧
      ∀ w : Writing, Names headers w.text.toList →
        address? true headers peer = if w.IsMisread then none else some w.ip.unmap :=
  ⟨rfl, fun hunnamed => address?_of_unnamed hunnamed peer, fun w hnames => by
    rw [address?_of_names hnames, parseAddress?_text]⟩

/-- What a proxy says about a visitor that came through another one. -/
def relayed (word : String) : Headers :=
  [("x-forwarded-for", Utf8.encode (" " ++ word ++ "\t, 10.0.0.1"))]

/-- A word that a proxy in front has written into the field is the one that the fields name. -/
theorem names_relayed {word : String} (h : Plain word.toList) (hcomma : ',' ∉ word.toList) :
    Names (relayed word) word.toList := by
  have htext : (" " ++ word ++ "\t, 10.0.0.1").toList =
      [' '] ++ word.toList ++ ['\t'] ++ ',' :: " 10.0.0.1".toList := by
    simp
  have hplain : Plain (" " ++ word ++ "\t, 10.0.0.1").toList := by
    have hedges : Plain " ".toList ∧ Plain "\t, 10.0.0.1".toList := by decide
    rw [String.toList_append, String.toList_append]
    exact (hedges.1.append h).append hedges.2
  have hholds : Holds (relayed word) "x-forwarded-for" (" " ++ word ++ "\t, 10.0.0.1").toList :=
    ⟨hplain, by rw [String.ofList_toList]; rfl⟩
  have hfirst : IsFirst ([' '] ++ word.toList ++ ['\t'])
      (" " ++ word ++ "\t, 10.0.0.1").toList :=
    ⟨by simpa using hcomma, .inr ⟨_, htext⟩⟩
  exact .forwarded hholds hfirst ⟨_, _, rfl, List.forall_mem_singleton.mpr (.inl rfl),
    List.forall_mem_singleton.mpr (.inr rfl)⟩

/-- Where no proxy names a visitor it is known by its own address, and where one does, with a port,
by that. -/
theorem relayed_is_known :
    address? true [] (.v6 0xFFFF0A000009) = some (.v4 0x0A000009) ∧
      (Writing.withPort (.v4 0xC0000207) 8080).text = "192.0.2.7:8080" ∧
      Names (relayed "192.0.2.7:8080") "192.0.2.7:8080".toList ∧
      address? true (relayed "192.0.2.7:8080") (.v4 0x0A000009) = some (.v4 0xC0000207) := by
  have hnames : Names (relayed "192.0.2.7:8080") "192.0.2.7:8080".toList :=
    names_relayed (by decide) (by decide)
  have htext : (Writing.withPort (.v4 0xC0000207) 8080).text = "192.0.2.7:8080" := by decide
  have hunnamed : Unnamed [] := ⟨fun _ _ h => (by cases h.2), fun _ h => by cases h.2⟩
  refine ⟨(named_address_is_taken [] (.v6 0xFFFF0A000009)).2.1 hunnamed, htext, hnames, ?_⟩
  exact (named_address_is_taken (relayed "192.0.2.7:8080") (.v4 0x0A000009)).2.2
    (.withPort (.v4 0xC0000207) 8080) (htext ▸ hnames)

/-- An address of version 6 that is named with a port is not taken. -/
theorem relayed_is_unknown :
    (Writing.withPort (.v6 0x20010DB8000000000000000000000001) 8080).text =
        "[2001:db8::1]:8080" ∧
      Names (relayed "[2001:db8::1]:8080") "[2001:db8::1]:8080".toList ∧
      address? true (relayed "[2001:db8::1]:8080") (.v4 0x0A000009) ≠
        some (.v6 0x20010DB8000000000000000000000001) :=
  ⟨by decide, names_relayed (by decide) (by decide), by decide +kernel⟩

end ReverseTunnel.Visitor
