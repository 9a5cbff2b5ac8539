import ReverseTunnel.Address.Ip
import ReverseTunnel.Proofs.Http.Target
import ReverseTunnel.Proofs.Text.Split
import ReverseTunnel.Proofs.Text.Utf8

/-!
# Plain text

A field holds any bytes but control bytes. Text that is plain, that is, made of tabs, spaces and
the printable characters of ASCII, can stand in a field as it is. The texts that a server writes
into fields are plain: the spelling of every address, and the host that a request is for,
whichever part of the request names it.

## Main results

* `Plain.all_isValueByte`: a field can hold plain text.
* `plain_print`: the spelling of an address is plain.
* `visible?_eq_some_iff`: which fields are read as text, and as which.
* `Request.plain_host?`: the host that a request is for is plain.
-/

namespace ReverseTunnel.Http

open Text

/-- A tab, a space or a printable character of ASCII. -/
def IsPlain (c : Char) : Prop := c = '\t' ∨ (0x20 ≤ c.toNat ∧ c.toNat ≤ 0x7E)

instance : DecidablePred IsPlain := fun _ => inferInstanceAs (Decidable (_ ∨ _))

/-- Text of such characters only. -/
def Plain (cs : List Char) : Prop := ∀ c ∈ cs, IsPlain c

instance : DecidablePred Plain := fun cs => List.decidableBAll IsPlain cs

/-- A plain character is one of ASCII, so that a single byte encodes it. -/
theorem IsPlain.lt {c : Char} (h : IsPlain c) : c.toNat < 0x80 := by
  rcases h with rfl | h
  · decide
  · omega

namespace Plain

variable {cs cs' : List Char}

/-- Plain texts make plain text when one is put behind the other. -/
theorem append (h : Plain cs) (h' : Plain cs') : Plain (cs ++ cs') :=
  fun c hc => (List.mem_append.mp hc).elim (h c) (h' c)

/-- Plain parts with plain text between them make plain text. -/
theorem intercalate {sep : List Char} (hsep : Plain sep) {parts : List (List Char)}
    (h : ∀ part ∈ parts, Plain part) : Plain (sep.intercalate parts) :=
  forall_mem_intercalate hsep h

/-- The bytes of plain text are those of its characters. -/
theorem of_mem_encode {text : String} (h : Plain text.toList) {b : UInt8}
    (hb : b ∈ Utf8.encode text) : b.toNat = 0x09 ∨ (0x20 ≤ b.toNat ∧ b.toNat ≤ 0x7E) := by
  rw [Utf8.encode, List.mem_flatMap] at hb
  obtain ⟨c, hc, hb⟩ := hb
  rw [Utf8.utf8EncodeChar_of_ascii (h c hc).lt, List.mem_singleton] at hb
  subst hb
  rcases h c hc with rfl | hprint
  · exact .inl (by decide)
  · exact .inr (by rwa [Utf8.toNat_ofNat (by omega)])

/-- A field can hold plain text. -/
theorem all_isValueByte (h : Plain cs) :
    (Utf8.encode (String.ofList cs)).all isValueByte = true := by
  rw [List.all_eq_true]
  intro b hb
  have hbyte := of_mem_encode (by rwa [String.toList_ofList]) hb
  simp only [isValueByte, Bool.or_eq_true, Bool.and_eq_true, decide_eq_true_eq, beq_iff_eq,
    bne_iff_ne, ne_eq, ← UInt8.toNat_inj, UInt8.le_iff_toNat_le, UInt8.reduceToNat]
  omega

end Plain

/-! ### Addresses -/

/-- The character for a digit is plain in every base, the mark for a number that is no digit
included. -/
theorem isPlain_digitChar (n : Nat) : IsPlain n.digitChar := by
  by_cases h : n < 16
  · have hall : ∀ m < 16, IsPlain m.digitChar := by decide
    exact hall n h
  · rw [Nat.digitChar_eq_star.mpr (by omega)]
    decide

/-- A number is written with plain characters in every base. -/
theorem plain_toDigits {b : Nat} (hb : 1 < b) (n : Nat) : Plain (Nat.toDigits b n) := by
  induction n using Nat.base_induction b hb with
  | single m hm =>
    rw [Nat.toDigits_of_lt_base hm]
    exact fun c hc => List.mem_singleton.mp hc ▸ isPlain_digitChar m
  | digit m k hk hm ih =>
    rw [← Nat.toDigits_append_toDigits hb hm hk, Nat.toDigits_of_lt_base hk]
    exact ih.append fun c hc => List.mem_singleton.mp hc ▸ isPlain_digitChar k

/-- Numbers with marks between them are plain. -/
theorem plain_intercalate_toDigits {b : Nat} (hb : 1 < b) {sep : Char} (hsep : IsPlain sep)
    (ns : List Nat) : Plain (List.intercalate [sep] (ns.map (Nat.toDigits b))) := by
  refine Plain.intercalate (fun c hc => List.mem_singleton.mp hc ▸ hsep) fun part hpart => ?_
  obtain ⟨n, _, rfl⟩ := List.mem_map.mp hpart
  exact plain_toDigits hb n

/-- Four numbers with dots between them are plain. -/
theorem plain_printV4 (bits : BitVec 32) : Plain (Ip.printV4 bits) :=
  plain_intercalate_toDigits (by decide) (by decide) _

/-- Groups of hexadecimal digits with colons between them are plain. -/
theorem plain_printGroups (gs : List Nat) : Plain (Ip.printGroups gs) :=
  plain_intercalate_toDigits (by decide) (by decide) _

/-- The spelling of a long address is plain, both in groups and with a short address at its end. -/
theorem plain_printV6 (bits : BitVec 128) : Plain (Ip.printV6 bits) := by
  rw [Ip.printV6]
  split
  · have hmark : Plain "::ffff:".toList := by decide
    exact hmark.append (plain_printV4 _)
  · have hmark : Plain [':', ':'] := by decide
    dsimp only
    split
    · exact ((plain_printGroups _).append hmark).append (plain_printGroups _)
    · exact plain_printGroups _

/-- The spelling of an address is plain. -/
theorem plain_print (ip : Ip) : Plain ip.printChars :=
  match ip with
  | .v4 bits => plain_printV4 bits
  | .v6 bits => plain_printV6 bits

/-! ### Fields that are read as text -/

/-- A number below 128 is the number of the character made of it. -/
theorem toNat_ofNat_of_ascii {n : Nat} (h : n < 0x80) : (Char.ofNat n).toNat = n := by
  rw [Char.ofNat, dif_pos (.inl (by omega))]
  rfl

/-- What is read from a field as text is plain. -/
theorem plain_of_visible? {value : Bytes} {text : String} (h : visible? value = some text) :
    Plain text.toList := by
  rw [visible?] at h
  split at h
  · rename_i hbytes
    have hbyte : ∀ b ∈ value, b.toNat = 0x09 ∨ (0x20 ≤ b.toNat ∧ b.toNat ≤ 0x7E) := by
      intro b hb
      simpa [← UInt8.toNat_inj, UInt8.le_iff_toNat_le] using List.all_eq_true.mp hbytes b hb
    have hascii : ∀ b ∈ value, b < 0x80 := fun b hb => by
      have := hbyte b hb
      simp only [UInt8.lt_iff_toNat_lt, UInt8.reduceToNat]
      omega
    rw [Utf8.decode?_of_ascii hascii] at h
    cases h
    intro c hc
    rw [String.toList_ofList] at hc
    obtain ⟨b, hb, rfl⟩ := List.mem_map.mp hc
    rcases hbyte b hb with htab | hprint
    · exact .inl (by rw [htab])
    · exact .inr (by rwa [toNat_ofNat_of_ascii (by omega)])
  · cases h

/-- What is read from a field as text is plain text, and plain text is read as it is. -/
theorem visible?_eq_some_iff {value : Bytes} {text : String} :
    visible? value = some text ↔ Plain text.toList ∧ value = Utf8.encode text := by
  constructor
  · intro h
    refine ⟨plain_of_visible? h, Utf8.decode?_eq_some_iff.mp ?_⟩
    rw [visible?] at h
    exact (Option.ite_none_right_eq_some.mp h).2
  · rintro ⟨hplain, rfl⟩
    have hbytes : (Utf8.encode text).all (fun b => b == 0x09 || (0x20 ≤ b && b ≤ 0x7E)) = true := by
      rw [List.all_eq_true]
      intro b hb
      have hbyte := hplain.of_mem_encode hb
      simp only [Bool.or_eq_true, Bool.and_eq_true, decide_eq_true_eq, beq_iff_eq,
        ← UInt8.toNat_inj, UInt8.le_iff_toNat_le, UInt8.reduceToNat]
      exact hbyte
    rw [visible?, if_pos hbytes]
    exact Utf8.decode?_encode text

/-! ### Hosts -/

/-- What an authority passes over without noting it is plain. -/
theorem isPlain_of_isPlainChar {c : Char} (h : Uri.isPlainChar c = true) : IsPlain c := by
  have hmark : Plain "!$&'()*+,-.;=_~".toList := by decide
  have hrange {a b : Char} (ha : 0x20 ≤ a.toNat) (hb : b.toNat ≤ 0x7E) (hc : a ≤ c ∧ c ≤ b) :
      IsPlain c := by
    rw [Char.le_def, Char.le_def, UInt32.le_iff_toNat_le, UInt32.le_iff_toNat_le] at hc
    exact .inr ⟨Nat.le_trans ha hc.1, Nat.le_trans hc.2 hb⟩
  simp only [Uri.isPlainChar, Uri.isLetter, isDigit, Bool.or_eq_true, Bool.and_eq_true,
    decide_eq_true_eq, List.contains_iff_mem] at h
  rcases h with ((hsmall | hcapital) | hdigit) | hother
  · exact hrange (by decide) (by decide) hsmall
  · exact hrange (by decide) (by decide) hcapital
  · exact hrange (by decide) (by decide) hdigit
  · exact hmark c hother

/-- A character that the scan of an authority accepts is plain. -/
theorem isPlain_of_step {s s' : Uri.AuthorityScan} {c : Char} (h : s.step c = some s') :
    IsPlain c := by
  by_cases hmark : c ∈ [':', '[', ']', '@', '%']
  · have hall : Plain [':', '[', ']', '@', '%'] := by decide
    exact hall c hmark
  · simp only [List.mem_cons, List.not_mem_nil, or_false, not_or] at hmark
    obtain ⟨hcolon, hopen, hclose, hat, hpercent⟩ := hmark
    rw [Uri.AuthorityScan.step, if_neg hcolon, if_neg hopen, if_neg hclose, if_neg hat,
      if_neg hpercent] at h
    split at h
    · exact isPlain_of_isPlainChar ‹_›
    · cases h

/-- A text that an authority is scanned from is plain, whatever was seen before it. -/
theorem plain_of_foldlM_step {cs : List Char} {s s' : Uri.AuthorityScan}
    (h : cs.foldlM Uri.AuthorityScan.step s = some s') : Plain cs := by
  induction cs generalizing s with
  | nil => exact fun c hc => absurd hc List.not_mem_nil
  | cons c cs ih =>
    rw [List.foldlM_cons] at h
    obtain ⟨next, hstep, hrest⟩ := Option.bind_eq_some_iff.mp h
    exact List.forall_mem_cons.mpr ⟨isPlain_of_step hstep, ih hrest⟩

/-- An authority is plain. -/
theorem plain_of_isAuthority {cs : List Char} (h : Uri.isAuthority cs = true) : Plain cs := by
  rw [Uri.isAuthority] at h
  split at h
  · exact plain_of_foldlM_step ‹_›
  · cases h

/-- The host of an authority is part of it, but for a bracket that may be put behind it. -/
theorem Plain.hostOf {authority : List Char} (h : Plain authority) :
    Plain (Uri.hostOf authority) := by
  have hpart {p : Char → Bool} {cs : List Char} (hcs : Plain cs) : Plain (cs.takeWhile p) :=
    fun c hc => hcs c ((List.takeWhile_sublist p).subset hc)
  have hclose : Plain [']'] := by decide
  unfold Uri.hostOf
  extract_lets hostPort
  have hhostPort : Plain hostPort := by
    subst hostPort
    split
    · rename_i hsplit
      rw [splitLast_eq_some hsplit] at h
      exact fun c hc => h c (List.mem_append_right _ (List.mem_cons_of_mem _ hc))
    · exact h
  -- Wherever it came from, what is left is only cut from here on.
  clear_value hostPort
  split
  · exact (hpart hhostPort).append hclose
  · exact hpart hhostPort

/-- The host of a target is plain, since it is a part of the authority that was scanned. -/
theorem Uri.Form.plain_host? {u : Uri} {host : String} (h : Uri.Form u)
    (hhost : u.host? = some host) : Plain host.toList := by
  have hofList {a : List Char} (ha : Uri.isAuthority a = true)
      (heq : some (String.ofList (Uri.hostOf (String.ofList a).toList)) = some host) :
      Plain host.toList := by
    cases heq
    rw [String.toList_ofList, String.toList_ofList]
    exact (plain_of_isAuthority ha).hostOf
  cases h with
  | bare => cases hhost
  | authority ha => exact hofList ha hhost
  | full _ ha => exact hofList ha hhost

/-- The host that a request is for is plain, if the target of the request was read. -/
theorem Request.plain_host? {request : Request} {host : String} (h : Uri.Form request.uri)
    (hhost : request.host? = some host) : Plain host.toList := by
  rw [Request.host?, Option.or_eq_some_iff] at hhost
  rcases hhost with hfield | ⟨-, htarget⟩
  · obtain ⟨value, -, hvalue⟩ := Option.bind_eq_some_iff.mp hfield
    exact plain_of_visible? hvalue
  · exact h.plain_host? htarget

end ReverseTunnel.Http
