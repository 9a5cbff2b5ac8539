import ReverseTunnel.Capture.Exchange
import ReverseTunnel.Proofs.Client.HostLine
import ReverseTunnel.Proofs.Text.Number

/-!
# What is told of an exchange

What is told of an exchange is read off the first bytes of either direction. If these hold a whole
head, what is told is what the head was written from: its lines are found again, since there is no
end of a line in them, and so are the words of its first line and the two sides of each header.
Whatever stands behind the head is not looked at.

A direction may have been kept only up to some point. Inside the head nothing is found of it, since
a head shows its end only with its last byte, and behind the head nothing is missed.

## Main results

* `headLines?_take`: the lines of a head of which only the first bytes were kept.
* `requestHead?_take`, `responseHead?_take`: what is found in a head.
* `told_as_written`: what is told of an exchange.
-/

namespace ReverseTunnel.Exchange

open Text

/-! ### Heads -/

/-- A text that fits on one line. -/
def OneLine (text : String) : Prop := ∀ c ∈ text.toList, c ≠ '\r' ∧ c ≠ '\n'

instance : DecidablePred OneLine := fun _ => List.decidableBAll _ _

/-- A word of the first line of a head. -/
structure IsWord (word : String) : Prop where
  ne_empty : word ≠ ""
  oneLine : OneLine word
  no_space : ' ' ∉ word.toList

/-- A word that names a version of the protocol. -/
structure IsVersionWord (word : String) : Prop extends IsWord word where
  begins : "HTTP/".toList <+: word.toList

/-- A name and a value as a header line can hold them: no blanks around either, and no colon in the
name. -/
structure IsHeader (header : String × String) : Prop where
  trim_name : trim header.1 = header.1
  trim_value : trim header.2 = header.2
  no_colon : ':' ∉ header.1.toList
  oneLine_name : OneLine header.1
  oneLine_value : OneLine header.2

/-- The head of a request. -/
structure RequestHead where
  method : String
  target : String
  version : String
  headers : List (String × String)
  isWord_method : IsWord method
  isWord_target : IsWord target
  isVersionWord : IsVersionWord version
  isHeader : ∀ header ∈ headers, IsHeader header

/-- The head of a response. -/
structure ResponseHead where
  version : String
  status : UInt16
  /-- The phrase behind the status, if there is one. It may have blanks in it. -/
  reason : Option String
  headers : List (String × String)
  isVersionWord : IsVersionWord version
  oneLine_reason : ∀ text, reason = some text → OneLine text
  isHeader : ∀ header ∈ headers, IsHeader header

/-- The line of a header. -/
def headerLine (header : String × String) : String := header.1 ++ ": " ++ header.2

/-- A head as it is written: each line with its end, and a blank line. -/
def render (first : String) (headers : List (String × String)) : Bytes :=
  Head.ofLines ((first :: headers.map headerLine).map Utf8.encode)

/-- The first line of a request. -/
def RequestHead.line (head : RequestHead) : String :=
  head.method ++ " " ++ head.target ++ " " ++ head.version

/-- The first line of a response. -/
def ResponseHead.line (head : ResponseHead) : String :=
  head.version ++ " " ++ toString head.status.toNat ++ (head.reason.map (" " ++ ·)).getD ""

/-- The bytes of the head of a request. -/
def RequestHead.bytes (head : RequestHead) : Bytes := render head.line head.headers

/-- The bytes of the head of a response. -/
def ResponseHead.bytes (head : ResponseHead) : Bytes := render head.line head.headers

/-! ### Lines -/

namespace OneLine

variable {text text' : String}

/-- Two texts that fit on one line do so together. -/
theorem append (h : OneLine text) (h' : OneLine text') : OneLine (text ++ text') := by
  rw [OneLine, String.toList_append]
  exact List.forall_mem_append.mpr ⟨h, h'⟩

/-- No return stands in the text, so a split at the ends of lines passes it whole. -/
theorem not_mem_return (h : OneLine text) : '\r' ∉ text.toList := fun hmem => (h _ hmem).1 rfl

/-- The bytes of one line are a line. -/
theorem isLine (h : OneLine text) : Head.IsLine (Utf8.encode text) := by
  have hnot {c : Char} (hascii : c.toNat < 0x80) (hc : c ∉ text.toList) :
      UInt8.ofNat c.toNat ∉ Utf8.encode text := fun hmem =>
    hc ((Utf8.ofNat_mem_encode_iff hascii).mp hmem)
  exact ⟨hnot (c := '\r') (by decide) h.not_mem_return,
    hnot (c := '\n') (by decide) fun hmem => (h _ hmem).2 rfl⟩

end OneLine

/-- A text without a return is the last line, behind what was read of it before. -/
theorem splitLines_of_not_mem {line : List Char} (h : '\r' ∉ line) (read : List Char) :
    headLines?.splitLines read line = [read.reverse ++ line] := by
  induction line generalizing read with
  | nil => simp [headLines?.splitLines]
  | cons c line ih =>
    rw [List.mem_cons, not_or] at h
    obtain ⟨hc, hline⟩ := h
    rw [headLines?.splitLines.eq_3 _ _ _ (fun _ heq => absurd heq.symm hc), ih hline]
    simp

/-- A line is passed up to its end. -/
theorem splitLines_append {line : List Char} (h : '\r' ∉ line) (read rest : List Char) :
    headLines?.splitLines read (line ++ '\r' :: '\n' :: rest) =
      (read.reverse ++ line) :: headLines?.splitLines [] rest := by
  induction line generalizing read with
  | nil => simp [headLines?.splitLines]
  | cons c line ih =>
    rw [List.mem_cons, not_or] at h
    obtain ⟨hc, hline⟩ := h
    rw [List.cons_append, headLines?.splitLines.eq_3 _ _ _ (fun _ heq => absurd heq.symm hc),
      ih hline]
    simp

/-- Lines that were put together are found again, if none of them has a return in it. -/
theorem splitLines_intercalate {lines : List (List Char)} (h : ∀ line ∈ lines, '\r' ∉ line)
    (hsome : lines ≠ []) :
    headLines?.splitLines [] (List.intercalate ['\r', '\n'] lines) = lines := by
  induction lines with
  | nil => exact absurd rfl hsome
  | cons line lines ih =>
    obtain ⟨hline, hlines⟩ := List.forall_mem_cons.mp h
    rcases lines with _ | ⟨next, lines⟩
    · rw [List.intercalate_singleton, splitLines_of_not_mem hline]
      rfl
    · rw [List.intercalate_cons_cons, List.append_assoc, List.cons_append, List.singleton_append,
        splitLines_append hline, ih hlines (by simp)]
      rfl

/-- The bytes of lines are those of the text that they make up. -/
theorem intercalate_encode (lines : List String) :
    Head.lineEnd.intercalate (lines.map Utf8.encode) =
      Utf8.encode (String.ofList (List.intercalate ['\r', '\n'] (lines.map String.toList))) := by
  rw [Utf8.encode_ofList]
  induction lines with
  | nil => rfl
  | cons line lines ih =>
    rcases lines with _ | ⟨next, lines⟩
    · simp [Utf8.encode]
    · have hend : ['\r', '\n'].flatMap String.utf8EncodeChar = Head.lineEnd := by decide
      simp only [List.map_cons, List.intercalate_cons_cons, List.flatMap_append, hend] at ih ⊢
      rw [ih, Utf8.encode]

/-! ### The lines of a head -/

section

variable {first : String} {headers : List (String × String)}

/-- No line behind the first is blank. -/
theorem headerLine_ne_nil (header : String × String) : Utf8.encode (headerLine header) ≠ [] := by
  have hcolon : ':' ∈ (headerLine header).toList := by simp [headerLine]
  exact List.ne_nil_of_mem ((Utf8.ofNat_mem_encode_iff (c := ':') (by decide)).mpr hcolon)

/-- What is written for a header fits on one line. -/
theorem IsHeader.oneLine {header : String × String} (h : IsHeader header) :
    OneLine (headerLine header) :=
  (h.oneLine_name.append (by decide)).append h.oneLine_value

/-- Every line of a head fits on one line: the first by assumption, the others as headers do. -/
theorem oneLine_of_mem (hfirst : OneLine first) (hheaders : ∀ header ∈ headers, IsHeader header) :
    ∀ line ∈ first :: headers.map headerLine, OneLine line := by
  refine List.forall_mem_cons.mpr ⟨hfirst, fun line hline => ?_⟩
  obtain ⟨header, hheader, rfl⟩ := List.mem_map.mp hline
  exact (hheaders header hheader).oneLine

/-- The first blank line of a head is its last line. -/
theorem isComplete_render (hfirst : OneLine first)
    (hheaders : ∀ header ∈ headers, IsHeader header) : Head.IsComplete (render first headers) := by
  refine Head.isComplete_ofLines (fun line hline => ?_) fun hblank => ?_
  · rw [← List.map_cons] at hline
    obtain ⟨text, htext, rfl⟩ := List.mem_map.mp hline
    exact (oneLine_of_mem hfirst hheaders text htext).isLine
  · obtain ⟨text, htext, hnil⟩ := List.mem_map.mp hblank
    obtain ⟨header, -, rfl⟩ := List.mem_map.mp htext
    exact headerLine_ne_nil header hnil

/-- The lines of a head are found, whatever stands behind it. -/
theorem headLines?_render (hfirst : OneLine first)
    (hheaders : ∀ header ∈ headers, IsHeader header) (rest : Bytes) :
    headLines? (render first headers ++ rest) =
      some (first.toList :: headers.map fun header => (headerLine header).toList) := by
  have hcomplete := isComplete_render hfirst hheaders
  have hlines : ∀ line ∈ (first :: headers.map headerLine).map String.toList, '\r' ∉ line := by
    intro line hline
    obtain ⟨text, htext, rfl⟩ := List.mem_map.mp hline
    exact (oneLine_of_mem hfirst hheaders text htext).not_mem_return
  rw [render, Head.ofLines_eq (by simp), intercalate_encode] at hcomplete ⊢
  have hsplit := hcomplete.splitAtMark_append rest
  rw [Head.terminator] at hsplit
  rw [headLines?, Head.terminator, hsplit]
  simp only [Option.bind_eq_bind, Option.bind_some, Utf8.decode?_encode, String.toList_ofList]
  rw [splitLines_intercalate hlines (by simp), List.map_cons, List.map_map]
  rfl

/-- Without a whole head there are no lines. -/
theorem headLines?_eq_none {bytes : Bytes} (h : Head.length? bytes = none) :
    headLines? bytes = none := by
  have hsplit := Option.map_eq_none_iff.mp h
  rw [Head.terminator] at hsplit
  rw [headLines?, hsplit]
  rfl

/-- Of a head of which only the first bytes were kept, all lines are found or none. -/
theorem headLines?_take (hfirst : OneLine first) (hheaders : ∀ header ∈ headers, IsHeader header)
    (rest : Bytes) (kept : Nat) :
    headLines? ((render first headers ++ rest).take kept) =
      if kept < (render first headers).length then none
      else some (first.toList :: headers.map fun header => (headerLine header).toList) := by
  split
  · rename_i hshort
    refine headLines?_eq_none ((isComplete_render hfirst hheaders).length?_eq_none
      (List.take_prefix kept _) ?_)
    exact Nat.lt_of_le_of_lt (List.length_take_le kept _) hshort
  · rename_i hlong
    rw [List.take_append, List.take_of_length_le (Nat.le_of_not_lt hlong),
      headLines?_render hfirst hheaders]

/-! ### What is found on the lines -/

/-- The two sides of a header are found on its line. -/
theorem header?_headerLine {header : String × String} (h : IsHeader header) :
    header? (headerLine header).toList = some header := by
  have htrim {text : String} (h : trim text = text) : trimBy isBlank text.toList = text.toList := by
    rw [← String.toList_ofList (l := trimBy isBlank text.toList), ← trim, h]
  have hvalue : trimBy isBlank (' ' :: header.2.toList) = header.2.toList := by
    rw [trimBy, List.dropWhile_cons_of_pos (by decide)]
    exact htrim h.trim_value
  have hline : (headerLine header).toList =
      header.1.toList ++ ':' :: (' ' :: header.2.toList) := by
    simp [headerLine]
  rw [hline, header?, splitFirst_append h.no_colon, Option.map_some]
  simp only [hvalue, htrim h.trim_name, String.ofList_toList]

/-- All headers are found again in their order, the repeated ones too. -/
theorem filterMap_header? (hheaders : ∀ header ∈ headers, IsHeader header) :
    (headers.map fun header => (headerLine header).toList).filterMap header? = headers := by
  induction headers with
  | nil => rfl
  | cons header headers ih =>
    obtain ⟨hheader, hrest⟩ := List.forall_mem_cons.mp hheaders
    rw [List.map_cons, List.filterMap_cons_some (header?_headerLine hheader), ih hrest]

end

/-- The word for a version is taken for one. -/
theorem IsVersionWord.isVersion {word : String} (h : IsVersionWord word) :
    isVersion word.toList = true := List.isPrefixOf_iff_prefix.mpr h.begins

/-- No word of a first line is empty, as the reader of it checks. -/
theorem IsWord.isEmpty {word : String} (h : IsWord word) : word.toList.isEmpty = false := by
  rw [List.isEmpty_eq_false_iff, ne_eq, String.toList_eq_nil_iff]
  exact h.ne_empty

namespace RequestHead

variable (head : RequestHead)

/-- The first line of a request fits on one line, since each of its words does. -/
theorem oneLine : OneLine head.line :=
  (((head.isWord_method.oneLine.append (by decide)).append head.isWord_target.oneLine).append
    (by decide)).append head.isVersionWord.oneLine

/-- The three words are found in the first line of a request, since no blank stands in them. -/
theorem splitOn_line :
    head.line.toList.splitOn ' ' =
      [head.method.toList, head.target.toList, head.version.toList] := by
  have hline : head.line.toList =
      head.method.toList ++ ' ' :: (head.target.toList ++ ' ' :: head.version.toList) := by
    simp [line]
  rw [hline, List.splitOn_append_cons_self_of_not_mem head.isWord_method.no_space,
    List.splitOn_append_cons_self_of_not_mem head.isWord_target.no_space,
    List.splitOn_eq_singleton head.isVersionWord.no_space]

/-- What is found of a request of which only the first bytes were kept. -/
theorem requestHead?_take (body : Bytes) (kept : Nat) :
    requestHead? ((head.bytes ++ body).take kept) =
      if kept < head.bytes.length then none
      else some (head.method, head.target, head.headers) := by
  rw [requestHead?, bytes, headLines?_take head.oneLine head.isHeader]
  split
  · rfl
  · simp only [Option.bind_eq_bind, Option.bind_some, head.splitOn_line,
      filterMap_header? head.isHeader, head.isWord_method.isEmpty, head.isWord_target.isEmpty,
      head.isVersionWord.isVersion, String.ofList_toList]
    rfl

end RequestHead

namespace ResponseHead

variable (head : ResponseHead)

/-- The digits of the status. -/
def digits : List Char := Nat.toDigits 10 head.status.toNat

/-- A status is written in digits only. -/
theorem isDigit_of_mem_digits {c : Char} (h : c ∈ head.digits) : isDigit c = true :=
  Json.Number.isDigit_of_mem_toDigits h

/-- The characters of the first line of a response: its version, its status, and its reason behind
one more blank if it has any. -/
theorem toList_line :
    head.line.toList = head.version.toList ++ ' ' ::
      (head.digits ++ ((head.reason.map fun text => ' ' :: text.toList).getD [])) := by
  rw [line, digits]
  cases head.reason <;> simp

/-- The first line of a response fits on one line, whatever the reason says. -/
theorem oneLine : OneLine head.line := by
  have hreason {reason : Option String} (h : ∀ text, reason = some text → OneLine text) :
      ∀ c ∈ (reason.map fun text => ' ' :: text.toList).getD [], c ≠ '\r' ∧ c ≠ '\n' := by
    cases reason with
    | none => simp
    | some text => exact List.forall_mem_cons.mpr ⟨by decide, h text rfl⟩
  have hdigits : ∀ c ∈ head.digits, c ≠ '\r' ∧ c ≠ '\n' := fun c hc =>
    ⟨fun heq => absurd (heq ▸ head.isDigit_of_mem_digits hc) (by decide),
      fun heq => absurd (heq ▸ head.isDigit_of_mem_digits hc) (by decide)⟩
  rw [OneLine, toList_line]
  exact List.forall_mem_append.mpr ⟨head.isVersionWord.oneLine,
    List.forall_mem_cons.mpr ⟨by decide, List.forall_mem_append.mpr
      ⟨hdigits, hreason head.oneLine_reason⟩⟩⟩

/-- Whatever the reason says, the status is the second word. -/
theorem exists_splitOn_line :
    ∃ words, head.line.toList.splitOn ' ' = head.version.toList :: head.digits :: words := by
  have hspace : ' ' ∉ head.digits := fun h => absurd (head.isDigit_of_mem_digits h) (by decide)
  rw [toList_line, List.splitOn_append_cons_self_of_not_mem head.isVersionWord.no_space]
  rcases head.reason with _ | text
  · exact ⟨[], by simp [List.splitOn_eq_singleton hspace]⟩
  · exact ⟨text.toList.splitOn ' ', by
      simp [List.splitOn_append_cons_self_of_not_mem hspace]⟩

/-- What is found of a response of which only the first bytes were kept. -/
theorem responseHead?_take (body : Bytes) (kept : Nat) :
    responseHead? ((head.bytes ++ body).take kept) =
      if kept < head.bytes.length then none else some (head.status.toNat, head.headers) := by
  obtain ⟨words, hwords⟩ := head.exists_splitOn_line
  have hstatus : unsigned? 65536 (String.ofList head.digits) = some head.status.toNat :=
    unsigned?_toDigits head.status.toNat_lt
  rw [responseHead?, bytes, headLines?_take head.oneLine head.isHeader]
  split
  · rfl
  · simp only [Option.bind_eq_bind, Option.bind_some, hwords, filterMap_header? head.isHeader,
      head.isVersionWord.isVersion, hstatus]
    rfl

end ResponseHead

/-! ### What is told -/

/-- The host that headers name: the value of the first of them that is called so, in letters of
either case. -/
inductive NamesHost : List (String × String) → Option String → Prop
  | absent {headers : List (String × String)} (h : ∀ header ∈ headers, lower header.1 ≠ "host") :
      NamesHost headers none
  | named {before after : List (String × String)} {name value : String}
      (hbefore : ∀ header ∈ before, lower header.1 ≠ "host") (hname : lower name = "host") :
      NamesHost (before ++ (name, value) :: after) (some value)

/-- The host that is told is the one that the headers name. -/
theorem namesHost_iff {headers : List (String × String)} {host : Option String} :
    NamesHost headers host ↔
      (headers.find? fun h => sameIgnoringCase h.1 "host").map (·.2) = host := by
  have hsame (name : String) : sameIgnoringCase name "host" = true ↔ lower name = "host" := by
    have hword : lower "host" = "host" := by decide
    rw [sameIgnoringCase, hword, beq_iff_eq]
  constructor
  · intro h
    cases h with
    | absent habsent =>
      rw [List.find?_eq_none.mpr fun header hheader heq =>
        habsent header hheader ((hsame _).mp heq), Option.map_none]
    | @named before after name value hbefore hname =>
      have hfirst : ∀ header ∈ before, (!sameIgnoringCase header.1 "host") = true :=
        fun header hheader => by simpa using mt (hsame _).mp (hbefore header hheader)
      have hfind : (before ++ (name, value) :: after).find?
          (fun h => sameIgnoringCase h.1 "host") = some (name, value) :=
        List.find?_eq_some_iff_append.mpr ⟨(hsame _).mpr hname, before, after, rfl, hfirst⟩
      rw [hfind, Option.map_some]
  · rintro rfl
    rcases hfind : headers.find? (fun h => sameIgnoringCase h.1 "host") with _ | ⟨name, value⟩
    · rw [hfind]
      refine .absent fun header hheader hname => ?_
      exact List.find?_eq_none.mp hfind header hheader ((hsame _).mpr hname)
    · obtain ⟨hname, before, after, rfl, hbefore⟩ := List.find?_eq_some_iff_append.mp hfind
      rw [hfind]
      refine .named (fun header hheader heq => ?_) ((hsame _).mp hname)
      simpa [(hsame _).mpr heq] using hbefore header hheader

/-- **An exchange is told as it was written.** For every request and every response, whatever
follows their heads and however much of either direction was kept: if the head of the request was
kept, then its method, its target and all its headers are told in their order, and the host that
they name; so are the status and the headers of the response if its head was kept, and none
otherwise. Without the head of the request nothing is told. -/
theorem told_as_written (request : RequestHead) (response : ResponseHead)
    (requestBody responseBody : Bytes) (requestKept responseKept : Nat) (startedAt : Timestamp)
    (duration bytesIn bytesOut : Nat) :
    ∃ host, NamesHost request.headers host ∧
      ofTaps? {
        startedAt, duration, bytesIn, bytesOut
        request := (request.bytes ++ requestBody).take requestKept
        response := (response.bytes ++ responseBody).take responseKept } =
      if requestKept < request.bytes.length then none
      else some {
        startedAt, duration, bytesIn, bytesOut, host
        method := request.method
        path := request.target
        requestHeaders := request.headers
        status :=
          if responseKept < response.bytes.length then none else some response.status.toNat
        responseHeaders :=
          if responseKept < response.bytes.length then [] else response.headers } := by
  refine ⟨_, namesHost_iff.mpr rfl, ?_⟩
  rw [ofTaps?]
  simp only [request.requestHead?_take, response.responseHead?_take]
  split
  · rfl
  · split
    · rfl
    · rfl

/-- A request with two headers that name the host, neither in the usual way. -/
def crowdedRequest : RequestHead where
  method := "GET"
  target := "/a:b?c"
  version := "HTTP/1.1"
  headers := [("Accept", ""), ("hOST", "public:1"), ("Host", "again"), ("accept", "a, b")]
  isWord_method := ⟨by decide, by decide, by decide⟩
  isWord_target := ⟨by decide, by decide, by decide⟩
  isVersionWord := ⟨⟨by decide, by decide, by decide⟩, by decide⟩
  isHeader := by
    simp only [List.forall_mem_cons]
    exact ⟨⟨by decide, by decide, by decide, by decide, by decide⟩,
      ⟨by decide, by decide, by decide, by decide, by decide⟩,
      ⟨by decide, by decide, by decide, by decide, by decide⟩,
      ⟨by decide, by decide, by decide, by decide, by decide⟩, by simp⟩

/-- A response without a reason. -/
def silentResponse : ResponseHead where
  version := "HTTP/1.0"
  status := 204
  reason := none
  headers := [("Via", "a"), ("Via", "b")]
  isVersionWord := ⟨⟨by decide, by decide, by decide⟩, by decide⟩
  oneLine_reason := fun _ h => by cases h
  isHeader := by
    simp only [List.forall_mem_cons]
    exact ⟨⟨by decide, by decide, by decide, by decide, by decide⟩,
      ⟨by decide, by decide, by decide, by decide, by decide⟩, by simp⟩

/-- Of a request with a blank line in its body all is told, and of the response nothing if its last
byte is missing. -/
theorem crowdedRequest_told :
    crowdedRequest.bytes.length = 76 ∧ silentResponse.bytes.length = 32 ∧
      ofTaps? {
        startedAt := ⟨0⟩, duration := 5, bytesIn := 81, bytesOut := 32
        request := (crowdedRequest.bytes ++ [0xFF, 0x0D, 0x0A, 0x0D, 0x0A]).take 81
        response := (silentResponse.bytes ++ []).take 31 } =
      some {
        startedAt := ⟨0⟩, duration := 5, bytesIn := 81, bytesOut := 32
        method := "GET", path := "/a:b?c", host := some "public:1", status := none
        requestHeaders := crowdedRequest.headers, responseHeaders := [] } := by
  have hrequest : crowdedRequest.bytes.length = 76 := by decide
  have hresponse : silentResponse.bytes.length = 32 := by decide
  obtain ⟨host, hhost, htold⟩ := told_as_written crowdedRequest silentResponse
    [0xFF, 0x0D, 0x0A, 0x0D, 0x0A] [] 81 31 ⟨0⟩ 5 81 32
  have hnamed : host = some "public:1" := (namesHost_iff.mp hhost).symm.trans (by decide)
  refine ⟨hrequest, hresponse, htold.trans ?_⟩
  rw [hrequest, hresponse, hnamed]
  rfl

end ReverseTunnel.Exchange
