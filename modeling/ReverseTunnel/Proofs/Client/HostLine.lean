import ReverseTunnel.Proofs.Client.Head
import ReverseTunnel.Proofs.Text.Normal
import ReverseTunnel.Proofs.Text.Utf8

/-!
# The host line of a request head

A head is a request line and header lines, each with its end, and a blank line. When its host is
changed, one line of it is: the first that names the host. Others that do so are left out, and if
none does, one is put in front. Which lines these are is said by `NamesHost`, and what becomes of
the lines by `HostSet`, both without the functions that look for them.

The head is taken apart and put together again for this, so it matters that its lines are found as
they were (`linesOf_ofLines`) and that no blank line arises before the last
(`isComplete_ofLines`).

## Main results

* `namesHost_iff`: which lines are taken for host lines.
* `hostSet_setHost`: what becomes of the lines.
* `only_the_host_line_changes`: what becomes of the head.
-/

namespace ReverseTunnel.Head

open Text

variable {line requestLine : Bytes} {lines headers headers' : List Bytes} {host : String}

/-! ### Lines -/

/-- A line has no carriage return and no line feed in it. -/
def IsLine (line : Bytes) : Prop := 0x0D ∉ line ∧ 0x0A ∉ line

instance : DecidablePred IsLine := fun _ => inferInstanceAs (Decidable (_ ∧ _))

/-- The head with these lines. -/
def ofLines (lines : List Bytes) : Bytes := lines.flatMap (· ++ lineEnd) ++ lineEnd

/-- The lines of a head. -/
def linesOf (head : Bytes) : List Bytes :=
  (((dropEnd? terminator head).getD head).splitOn Bytes.newline).map stripReturn

/-- The return at the end of a line is stripped. -/
theorem stripReturn_append_return (line : Bytes) : stripReturn (line ++ [0x0D]) = line := by
  rw [stripReturn, dropEnd?_append, Option.getD_some]

/-- Nothing is stripped of a line, since there is no return in it. -/
theorem stripReturn_of_isLine (h : IsLine line) : stripReturn line = line := by
  have hlast : line.getLast? ≠ some 0x0D := fun hlast => h.1 (List.mem_of_getLast? hlast)
  rw [stripReturn, dropEnd?_of_getLast? hlast, Option.getD_none]

/-- The lines with an end of line between them. -/
theorem ofLines_eq (hsome : lines ≠ []) :
    ofLines lines = lineEnd.intercalate lines ++ terminator := by
  rw [ofLines]
  induction lines with
  | nil => exact absurd rfl hsome
  | cons line lines ih =>
    rcases lines with _ | ⟨next, lines⟩
    · simp [lineEnd, terminator]
    · rw [List.flatMap_cons, List.append_assoc, ih (by simp), List.intercalate_cons_cons]
      simp

/-- Lines that were put together are found again by a split at each newline, once the returns are
stripped. -/
theorem map_stripReturn_splitOn (h : ∀ line ∈ lines, IsLine line) (hsome : lines ≠ []) :
    ((lineEnd.intercalate lines).splitOn Bytes.newline).map stripReturn = lines := by
  induction lines with
  | nil => exact absurd rfl hsome
  | cons line lines ih =>
    obtain ⟨hline, hlines⟩ := List.forall_mem_cons.mp h
    rcases lines with _ | ⟨next, lines⟩
    · have hcut : Bytes.newline ∉ line := hline.2
      rw [List.intercalate_singleton, List.splitOn_eq_singleton hcut, List.map_singleton,
        stripReturn_of_isLine hline]
    · have hcut : Bytes.newline ∉ line ++ [0x0D] := by
        simpa [Bytes.newline] using hline.2
      have hfront : lineEnd.intercalate (line :: next :: lines) =
          line ++ [0x0D] ++ Bytes.newline :: lineEnd.intercalate (next :: lines) := by
        rw [List.intercalate_cons_cons, lineEnd, Bytes.newline]
        simp
      rw [hfront, List.splitOn_append_cons_self_of_not_mem hcut, List.map_cons,
        stripReturn_append_return, ih hlines (by simp)]

/-- The lines of a head are found as they were put in. -/
theorem linesOf_ofLines (h : ∀ line ∈ lines, IsLine line) (hsome : lines ≠ []) :
    linesOf (ofLines lines) = lines := by
  rw [linesOf, ofLines_eq hsome, dropEnd?_append, Option.getD_some,
    map_stripReturn_splitOn h hsome]

/-- The first blank line of a head is its last line. -/
theorem isComplete_ofLines (h : ∀ line ∈ requestLine :: headers, IsLine line)
    (hblank : [] ∉ headers) : IsComplete (ofLines (requestLine :: headers)) := by
  have hsplit : splitAtMark terminator (ofLines (requestLine :: headers)) =
      some (lineEnd.intercalate (requestLine :: headers), []) := by
    induction headers generalizing requestLine with
    | nil =>
      have hline : 0x0D ∉ requestLine := (h _ List.mem_cons_self).1
      rw [ofLines_eq (by simp), List.intercalate_singleton, terminator,
        splitAtMark_append_left hline, ← terminator]
      simpa using splitAtMark_mark terminator []
    | cons header headers ih =>
      have hline : 0x0D ∉ requestLine := (h _ List.mem_cons_self).1
      obtain ⟨b, rest, rfl⟩ : ∃ b rest, header = b :: rest :=
        List.exists_cons_of_ne_nil fun hnil => hblank (hnil ▸ List.mem_cons_self)
      have hb : b ≠ 0x0D := fun heq =>
        (h (b :: rest) (by simp)).1 (heq ▸ List.mem_cons_self)
      -- Neither of the two bytes that end the line begins a terminator.
      have hnext : ofLines (requestLine :: (b :: rest) :: headers) =
          requestLine ++ 0x0D :: 0x0A :: ofLines ((b :: rest) :: headers) := by
        simp [ofLines, lineEnd]
      have hreturn : ¬ terminator <+: 0x0D :: 0x0A :: ofLines ((b :: rest) :: headers) := by
        simp [terminator, ofLines, List.cons_prefix_cons, hb.symm]
      have hfeed : ¬ terminator <+: 0x0A :: ofLines ((b :: rest) :: headers) := by
        simp [terminator, List.cons_prefix_cons]
      have hrest := ih (fun line hmem => h line (List.mem_cons_of_mem _ hmem))
        (fun hmem => hblank (List.mem_cons_of_mem _ hmem))
      rw [hnext, terminator, splitAtMark_append_left hline, ← terminator, splitAtMark_cons hreturn,
        splitAtMark_cons hfeed, hrest, List.intercalate_cons_cons]
      simp [lineEnd]
  have hlength : length? (ofLines (requestLine :: headers)) =
      some (ofLines (requestLine :: headers)).length := by
    rw [length?, hsplit, Option.map_some, ofLines_eq (by simp), List.length_append]
  obtain ⟨head, rest, heq, hhead, hlen⟩ := length?_eq_some_iff.mp hlength
  have hrest : rest = [] := by
    rw [heq, List.length_append] at hlen
    exact List.length_eq_zero_iff.mp (by omega)
  rwa [heq, hrest, List.append_nil]

/-! ### Host lines -/

/-- A line that names the host: the word `host` in either case, with or without blanks around it,
and a colon. -/
def NamesHost (line : Bytes) : Prop :=
  ∃ before name behind value : Bytes, line = before ++ name ++ behind ++ 0x3A :: value ∧
    (∀ b ∈ before, Bytes.isBlank b = true) ∧ (∀ b ∈ behind, Bytes.isBlank b = true) ∧
    Bytes.lower name = Utf8.encode "host"

/-- Of the bytes that spell the word, none is a blank or a colon. -/
theorem of_mem_name {name : Bytes} (h : Bytes.lower name = Utf8.encode "host") {b : UInt8}
    (hb : b ∈ name) : Bytes.isBlank b = false ∧ b ≠ 0x3A := by
  have hmem : Bytes.lowerByte b ∈ [0x68, 0x6F, 0x73, 0x74] := by
    have hword : Utf8.encode "host" = [0x68, 0x6F, 0x73, 0x74] := by decide
    rw [← hword, ← h]
    exact List.mem_map_of_mem hb
  constructor
  · refine Bool.eq_false_iff.mpr fun hblank => ?_
    simp only [Bytes.isBlank, Bool.or_eq_true, beq_iff_eq] at hblank
    rcases hblank with (((rfl | rfl) | rfl) | rfl) | rfl <;> exact absurd hmem (by decide)
  · rintro rfl
    exact absurd hmem (by decide)

/-- What is looked for is a line that names the host. -/
theorem namesHost_iff : isHostLine line = true ↔ NamesHost line := by
  rw [isHostLine]
  constructor
  · intro h
    split at h
    · rename_i name value hsplit
      obtain ⟨rfl, -⟩ := splitFirst_eq_some hsplit
      obtain ⟨before, behind, hname, hbefore, hbehind⟩ := exists_trimBy (p := Bytes.isBlank) name
      exact ⟨before, Bytes.trim name, behind, value, by rw [Bytes.trim, ← hname], hbefore, hbehind,
        beq_iff_eq.mp h⟩
    · cases h
  · rintro ⟨before, name, behind, value, rfl, hbefore, hbehind, hname⟩
    have hcolon : 0x3A ∉ before ++ name ++ behind := by
      simp only [List.mem_append, not_or]
      refine ⟨⟨fun hmem => ?_, fun hmem => (of_mem_name hname hmem).2 rfl⟩, fun hmem => ?_⟩
      · exact absurd (hbefore _ hmem) (by decide)
      · exact absurd (hbehind _ hmem) (by decide)
    have htrim : Bytes.trim (before ++ name ++ behind) = name :=
      trimBy_of_padded hbefore hbehind fun b hb => (of_mem_name hname hb).1
    rw [splitFirst_append hcolon]
    simp only [htrim, hname, beq_self_eq_true]

instance : DecidablePred NamesHost := fun _ => decidable_of_iff _ namesHost_iff

/-- The line that names a host. -/
def hostLine (host : String) : Bytes := Utf8.encode ("Host: " ++ host)

/-- The line that is written for a host names the host. -/
theorem namesHost_hostLine (host : String) : NamesHost (hostLine host) := by
  refine ⟨[], Utf8.encode "Host", [], Utf8.encode (" " ++ host), ?_, by simp, by simp, by decide⟩
  have hword : Utf8.encode "Host: " = Utf8.encode "Host" ++ 0x3A :: Utf8.encode " " := by decide
  rw [hostLine, Utf8.encode_append, Utf8.encode_append, hword]
  simp

/-- Header lines, and what becomes of them: the first one that names the host is changed, and the
others that do are left out. Without any, there is one in front. -/
inductive HostSet (host : String) : List Bytes → List Bytes → Prop
  | replaced {before after : List Bytes} {line : Bytes}
      (hbefore : ∀ line ∈ before, ¬ NamesHost line) (hline : NamesHost line) :
      HostSet host (before ++ line :: after)
        (before ++ hostLine host :: after.filter fun line => ¬ NamesHost line)
  | inserted {headers : List Bytes} (h : ∀ line ∈ headers, ¬ NamesHost line) :
      HostSet host headers (hostLine host :: headers)

/-- The test for a line that names the host, as the filter of the lines has it. -/
theorem not_isHostLine_eq (line : Bytes) : (!isHostLine line) = decide (¬ NamesHost line) := by
  rw [Bool.eq_iff_iff, decide_eq_true_iff, ← namesHost_iff, Bool.not_eq_true', Bool.not_eq_true]

/-- Where no line names the host there is none to be replaced. -/
theorem replaceFirst_of_forall (new : Bytes) (h : ∀ line ∈ headers, ¬ NamesHost line) :
    replaceFirst new headers = none := by
  induction headers with
  | nil => rfl
  | cons header headers ih =>
    obtain ⟨hheader, hrest⟩ := List.forall_mem_cons.mp h
    rw [replaceFirst, if_neg fun hname => hheader (namesHost_iff.mp hname), ih hrest,
      Option.map_none]

/-- The first line that names the host is replaced, those in front of it stay, and any others behind
it go. -/
theorem replaceFirst_append {before after : List Bytes} (new : Bytes)
    (hbefore : ∀ line ∈ before, ¬ NamesHost line) (hline : NamesHost line) :
    replaceFirst new (before ++ line :: after) =
      some (before ++ new :: after.filter fun line => ¬ NamesHost line) := by
  induction before with
  | nil =>
    rw [List.nil_append, replaceFirst, if_pos (namesHost_iff.mpr hline)]
    simp only [not_isHostLine_eq, List.nil_append]
  | cons header before ih =>
    obtain ⟨hheader, hrest⟩ := List.forall_mem_cons.mp hbefore
    rw [List.cons_append, replaceFirst, if_neg fun hname => hheader (namesHost_iff.mp hname),
      ih hrest, Option.map_some, List.cons_append]

/-- What becomes of the lines. -/
theorem hostSet_setHost (host : String) (headers : List Bytes) :
    HostSet host headers (setHost host headers) := by
  rw [setHost, ← hostLine]
  rcases hfind : headers.find? (fun line => NamesHost line) with _ | line
  · have hnone : ∀ line ∈ headers, ¬ NamesHost line := by
      simpa using List.find?_eq_none.mp hfind
    rw [replaceFirst_of_forall _ hnone]
    exact .inserted hnone
  · obtain ⟨hline, before, after, rfl, hbefore⟩ := List.find?_eq_some_iff_append.mp hfind
    have hbefore : ∀ line ∈ before, ¬ NamesHost line := by simpa using hbefore
    have hline : NamesHost line := by simpa using hline
    rw [replaceFirst_append _ hbefore hline]
    exact .replaced hbefore hline

namespace HostSet

/-- A line is an old one or the new one. -/
theorem mem (h : HostSet host headers headers') (hline : line ∈ headers') :
    line = hostLine host ∨ line ∈ headers := by
  cases h with
  | replaced hbefore hname =>
    simp only [List.mem_append, List.mem_cons, List.mem_filter] at hline ⊢
    rcases hline with hmem | hnew | ⟨hmem, -⟩
    · exact .inr (.inl hmem)
    · exact .inl hnew
    · exact .inr (.inr (.inr hmem))
  | inserted => exact List.mem_cons.mp hline

/-- Exactly one line names the host. -/
theorem countP_eq_one (h : HostSet host headers headers') :
    headers'.countP (fun line => NamesHost line) = 1 := by
  have hnew := namesHost_hostLine host
  have hnone {lines : List Bytes} (h : ∀ line ∈ lines, ¬ NamesHost line) :
      lines.countP (fun line => NamesHost line) = 0 := by
    rw [List.countP_eq_zero]
    simpa using h
  cases h with
  | replaced hbefore hname =>
    rw [List.countP_append, List.countP_cons, hnone hbefore, hnone (by simp)]
    simp [hnew]
  | inserted hall =>
    rw [List.countP_cons, hnone hall]
    simp [hnew]

/-- Lines that were changed stay as they are. -/
theorem setHost_eq (h : HostSet host headers headers') : setHost host headers' = headers' := by
  have hnew := namesHost_hostLine host
  rw [setHost, ← hostLine]
  cases h with
  | replaced hbefore hname =>
    rw [replaceFirst_append _ hbefore hnew, List.filter_filter]
    simp
  | inserted hall =>
    have hkept : headers.filter (fun line => ¬ NamesHost line) = headers :=
      List.filter_eq_self.mpr (by simpa using hall)
    have hreplace : replaceFirst (hostLine host) ([] ++ hostLine host :: headers) =
        some (hostLine host :: headers.filter fun line => ¬ NamesHost line) :=
      replaceFirst_append (hostLine host) (by simp) hnew
    rw [List.nil_append] at hreplace
    rw [hreplace, hkept]
    rfl

end HostSet

/-! ### The head -/

/-- Once the lines of a head are known, a new host changes what stands behind the first of them. -/
theorem withHost_of_linesOf {head : Bytes} (h : linesOf head = requestLine :: headers) :
    withHost head host = ofLines (requestLine :: setHost host headers) := by
  rw [linesOf] at h
  rw [withHost, h, ofLines]

/-- The line that is written for a host is one line if the host is. -/
theorem isLine_hostLine (h : ∀ c ∈ host.toList, c ≠ '\r' ∧ c ≠ '\n') : IsLine (hostLine host) := by
  have hnot {c : Char} (hascii : c.toNat < 0x80) (hword : c ∉ "Host: ".toList)
      (hhost : c ∉ host.toList) : UInt8.ofNat c.toNat ∉ hostLine host := by
    rw [hostLine, Utf8.ofNat_mem_encode_iff hascii, String.toList_append, List.mem_append, not_or]
    exact ⟨hword, hhost⟩
  exact ⟨hnot (c := '\r') (by decide) (by decide) fun hmem => (h _ hmem).1 rfl,
    hnot (c := '\n') (by decide) (by decide) fun hmem => (h _ hmem).2 rfl⟩

/-- **Only the host line of a head is changed.** Of a request line and header lines, the first line
that names the host gives way to the new one, the others that do are left out, and if there is none
the new one comes first; all other lines stay as they are, in their order. What comes out is again
a head with these lines and nothing behind it, one of which names the host, and to change it in the
same way changes nothing. -/
theorem only_the_host_line_changes (requestLine : Bytes) (headers : List Bytes) (host : String)
    (hlines : ∀ line ∈ requestLine :: headers, IsLine line) (hblank : [] ∉ headers)
    (hhost : ∀ c ∈ host.toList, c ≠ '\r' ∧ c ≠ '\n') :
    ∃ headers', HostSet host headers headers' ∧
      withHost (ofLines (requestLine :: headers)) host = ofLines (requestLine :: headers') ∧
      linesOf (ofLines (requestLine :: headers')) = requestLine :: headers' ∧
      headers'.countP (fun line => NamesHost line) = 1 ∧
      IsComplete (ofLines (requestLine :: headers')) ∧
      withHost (ofLines (requestLine :: headers')) host = ofLines (requestLine :: headers') := by
  have hset := hostSet_setHost host headers
  obtain ⟨hrequest, hheaders⟩ := List.forall_mem_cons.mp hlines
  have hlines' : ∀ line ∈ requestLine :: setHost host headers, IsLine line := by
    refine List.forall_mem_cons.mpr ⟨hrequest, fun line hline => ?_⟩
    rcases hset.mem hline with rfl | hold
    · exact isLine_hostLine hhost
    · exact hheaders line hold
  have hblank' : [] ∉ setHost host headers := by
    intro hmem
    rcases hset.mem hmem with hnew | hold
    · obtain ⟨_, _, _, _, heq, -⟩ := namesHost_hostLine host
      rw [← hnew] at heq
      simp at heq
    · exact hblank hold
  have hagain := linesOf_ofLines hlines' (List.cons_ne_nil _ _)
  refine ⟨setHost host headers, hset, ?_, hagain, hset.countP_eq_one,
    isComplete_ofLines hlines' hblank', ?_⟩
  · exact withHost_of_linesOf (linesOf_ofLines hlines (List.cons_ne_nil _ _))
  · rw [withHost_of_linesOf hagain, hset.setHost_eq]

/-- The request line of the heads below. -/
def plainRequest : Bytes := Utf8.encode "GET /x HTTP/1.1"

/-- Header lines of which two name the host, neither in the usual way. -/
def crowdedHeaders : List Bytes :=
  ["Accept: */*", " hOST\t: public", "X-Host: keep", "HOST:again"].map Utf8.encode

/-- In these lines, the first of the two is changed and the second is left out. -/
theorem crowdedHeaders_change :
    (∀ line ∈ plainRequest :: crowdedHeaders, IsLine line) ∧ [] ∉ crowdedHeaders ∧
      (∀ c ∈ "local:1".toList, c ≠ '\r' ∧ c ≠ '\n') ∧
      withHost (ofLines (plainRequest :: crowdedHeaders)) "local:1" = ofLines (plainRequest ::
        ["Accept: */*", "Host: local:1", "X-Host: keep"].map Utf8.encode) ∧
      IsComplete (withHost (ofLines (plainRequest :: crowdedHeaders)) "local:1") := by
  have hlines : ∀ line ∈ plainRequest :: crowdedHeaders, IsLine line := by decide
  have hblank : [] ∉ crowdedHeaders := by decide
  have hhost : ∀ c ∈ "local:1".toList, c ≠ '\r' ∧ c ≠ '\n' := by simp
  have ⟨headers', _, heq, _, _, hcomplete, _⟩ :=
    only_the_host_line_changes plainRequest crowdedHeaders "local:1" hlines hblank hhost
  exact ⟨hlines, hblank, hhost, by decide, heq ▸ hcomplete⟩

end ReverseTunnel.Head
