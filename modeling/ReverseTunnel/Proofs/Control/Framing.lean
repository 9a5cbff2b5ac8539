import ReverseTunnel.Control.Line

/-!
# Lines, however they arrive

A connection hands over its bytes in pieces, and where one piece ends and the next begins says
nothing. After each piece the decoder is asked for all that it has (`poll`), and once more when
no piece is left. What is heard in this way is compared with what the whole text says when it is
cut at its ends of line (`readAll`), without any decoder.

A decoder that waits holds the unfinished last line and has looked at all of it (`waiting`). So
everything that was heard before can be forgotten, and one more piece extends the unfinished line
(`readLines_append`). A line that is too large is noticed with its end or before it came; the
length that is reported then depends on the pieces and is left out of the comparison.

## Main results

* `Marked.decode`, `Marked.finish`: no end of line is ever passed over.
* `poll_decode`: asking a decoder for all it has cuts what is buffered at its ends of line.
* `feed_waiting`: so do several pieces, one after another.
* `listening_is_reading`: the pieces in which a text arrives do not matter.
-/

namespace ReverseTunnel

/-- Whether nothing can be read after the error. -/
def LineError.isFinal : LineError → Bool
  | .json _ => false
  | _ => true

/-- The error without the length of the message, of which more might have come. -/
def LineError.unmeasured : LineError → LineError
  | .tooLarge _ => .tooLarge 0
  | e => e

namespace LineDecoder

variable {α : Type} {limit : Nat} {parse? : Bytes → Option α} {d : LineDecoder}

/-! ### Listening -/

/-- What an answer of a decoder says, if it is not that nothing is there. -/
def heard? : Except LineError (Option α) → Option (Except LineError α)
  | .ok none => none
  | .ok (some message) => some (.ok message)
  | .error e => some (.error e)

/-- Whether a decoder is asked no more after it said this. -/
def isLast : Except LineError α → Bool
  | .ok _ => false
  | .error e => e.isFinal

/-- Every answer after which more is asked takes bytes with it. -/
def Consumes (ask : LineDecoder → Except LineError (Option α) × LineDecoder) : Prop :=
  ∀ d said, heard? (ask d).1 = some said → isLast said = false →
    (ask d).2.buffered.length < d.buffered.length

/-- Asks until nothing more is there, or until an error is final; then no decoder is left. -/
def poll (ask : LineDecoder → Except LineError (Option α) × LineDecoder) (h : Consumes ask)
    (d : LineDecoder) : List (Except LineError α) × Option LineDecoder :=
  match hsaid : heard? (ask d).1 with
  | none => ([], some (ask d).2)
  | some said =>
    if hlast : isLast said then ([said], none)
    else
      have := h d said hsaid (by simpa using hlast)
      let (more, left) := poll ask h (ask d).2
      (said :: more, left)
termination_by d.buffered.length

/-- Goes on with more, if anything is left to go on with. -/
def proceed {β γ : Type} (heard : List (Except LineError α) × Option β)
    (go : β → List (Except LineError α) × Option γ) : List (Except LineError α) × Option γ :=
  match heard with
  | (said, none) => (said, none)
  | (said, some left) => (said ++ (go left).1, (go left).2)

/-! ### What a decoder has looked at -/

/-- What is marked as looked at is there, and no line ends in it. -/
structure Marked (d : LineDecoder) : Prop where
  inside : d.scanned ≤ d.buffered.length
  passed : Bytes.newline ∉ d.buffered.take d.scanned

/-- The decoder that holds an unfinished line and has looked at all of it. -/
def waiting (line : Bytes) : LineDecoder := ⟨line, line.length⟩

/-- A text either has no end of line or begins with a line. -/
theorem lines_induction {P : Bytes → Prop} (last : ∀ line, Bytes.newline ∉ line → P line)
    (line : ∀ line rest, Bytes.newline ∉ line → P rest → P (line ++ Bytes.newline :: rest))
    (text : Bytes) : P text := by
  induction hn : text.length using Nat.strongRecOn generalizing text with
  | ind n ih =>
    by_cases h : Bytes.newline ∈ text
    · obtain ⟨first, rest, rfl, hfirst⟩ := List.eq_append_cons_of_mem h
      have hlt : rest.length < n := by
        simp only [List.length_append, List.length_cons] at hn
        omega
      exact line first rest hfirst (ih rest.length hlt rest rfl)
    · exact last text h

/-- The first end of line is found where it stands, behind a text that has none. -/
theorem idxOf?_append_cons {line rest : Bytes} (h : Bytes.newline ∉ line) :
    (line ++ Bytes.newline :: rest).idxOf? Bytes.newline = some line.length := by
  induction line with
  | nil => simp [List.idxOf?_cons]
  | cons b line ih =>
    have hb : b ≠ Bytes.newline := fun hb => h (hb ▸ List.mem_cons_self)
    have hline : Bytes.newline ∉ line := fun hmem => h (List.mem_cons_of_mem b hmem)
    simp [List.idxOf?_cons, ih hline, hb]

namespace Marked

/-- The mark does not stand behind the first end of line. -/
theorem scanned_le (h : Marked d) {line rest : Bytes}
    (hd : d.buffered = line ++ Bytes.newline :: rest) : d.scanned ≤ line.length := by
  refine Nat.le_of_not_lt fun hlt => h.passed ?_
  rw [hd, List.take_append]
  obtain ⟨k, hk⟩ := Nat.exists_eq_succ_of_ne_zero (show d.scanned - line.length ≠ 0 by omega)
  rw [hk, List.take_succ_cons]
  exact List.mem_append_right _ List.mem_cons_self

/-- A complete line is taken out, unless it is too large. -/
theorem decode_of_line (h : Marked d) (limit : Nat) (parse? : Bytes → Option α)
    {line rest : Bytes} (hline : Bytes.newline ∉ line)
    (hd : d.buffered = line ++ Bytes.newline :: rest) :
    d.decode limit parse? =
      if line.length > limit then (.error (.tooLarge line.length), { d with scanned := 0 })
      else (read parse? line, ⟨rest, 0⟩) := by
  have hle := h.scanned_le hd
  have hfound : (d.buffered.drop d.scanned).idxOf? Bytes.newline =
      some (line.length - d.scanned) := by
    rw [hd, List.drop_append_of_le_length hle,
      idxOf?_append_cons fun hmem => hline (List.mem_of_mem_drop hmem), List.length_drop]
  have hstop : d.scanned + (line.length - d.scanned) = line.length := by omega
  have htake : d.buffered.take line.length = line := by rw [hd, List.take_left]
  have hdrop : d.buffered.drop (line.length + 1) = rest := by
    rw [hd, ← List.drop_drop, List.drop_left, List.drop_one, List.tail_cons]
  rw [decode, hfound]
  simp only [hstop, htake, hdrop]

/-- Without a complete line nothing is taken out, and all is looked at. -/
theorem decode_of_not_mem (limit : Nat) (parse? : Bytes → Option α)
    (hnone : Bytes.newline ∉ d.buffered) :
    d.decode limit parse? =
      if d.buffered.length > limit then (.error (.tooLarge d.buffered.length), d)
      else (.ok none, waiting d.buffered) := by
  have hfound : (d.buffered.drop d.scanned).idxOf? Bytes.newline = none :=
    List.idxOf?_eq_none_iff.mpr fun hmem => hnone (List.mem_of_mem_drop hmem)
  rw [decode, hfound]
  rfl

/-- A decoder that has looked at nothing is marked. -/
theorem unmarked (text : Bytes) : Marked ⟨text, 0⟩ := ⟨Nat.zero_le _, by simp⟩

/-- A decoder that waits for the rest of a line has looked at all of it, and found no end. -/
theorem waiting {line : Bytes} (h : Bytes.newline ∉ line) : Marked (waiting line) :=
  ⟨Nat.le_refl _, by simpa [LineDecoder.waiting] using h⟩

/-- Bytes arrive behind the mark. -/
theorem push (h : Marked d) (bytes : Bytes) : Marked (d.push bytes) := by
  constructor
  · have := h.inside
    simp only [LineDecoder.push, List.length_append]
    omega
  · simpa [LineDecoder.push, List.take_append_of_le_length h.inside] using h.passed

/-- Asking keeps the mark: whatever is left over was looked at, or the mark is back at the front. -/
theorem decode (h : Marked d) : Marked (d.decode limit parse?).2 := by
  by_cases hmem : Bytes.newline ∈ d.buffered
  · obtain ⟨line, rest, hd, hline⟩ := List.eq_append_cons_of_mem hmem
    rw [h.decode_of_line limit parse? hline hd]
    split
    · exact unmarked d.buffered
    · exact unmarked rest
  · rw [decode_of_not_mem limit parse? hmem]
    split
    · exact h
    · exact waiting hmem

/-- Asking at the end keeps the mark as well. -/
theorem finish (h : Marked d) : Marked (d.finish limit parse?).2 := by
  have hdecode : Marked (d.decode limit parse?).2 := h.decode
  rw [LineDecoder.finish]
  split
  · split <;> exact unmarked []
  · exact hdecode

end Marked

/-- The decoders that there can be, whoever pushes and asks. -/
inductive Reachable (limit : Nat) (parse? : Bytes → Option α) : LineDecoder → Prop
  | start : Reachable limit parse? {}
  | push {d : LineDecoder} (h : Reachable limit parse? d) (bytes : Bytes) :
      Reachable limit parse? (d.push bytes)
  | decode {d : LineDecoder} (h : Reachable limit parse? d) :
      Reachable limit parse? (d.decode limit parse?).2
  | finish {d : LineDecoder} (h : Reachable limit parse? d) :
      Reachable limit parse? (d.finish limit parse?).2

/-- **The mark is never wrong.** Whoever pushes and asks, no end of line is missed. -/
theorem Reachable.marked (h : Reachable limit parse? d) : Marked d := by
  induction h with
  | start => exact Marked.unmarked []
  | push _ bytes ih => exact ih.push bytes
  | decode _ ih => exact ih.decode
  | finish _ ih => exact ih.finish

/-! ### What is taken out -/

/-- What one line says. -/
def readLine (parse? : Bytes → Option α) (line : Bytes) : Except LineError α :=
  (parse? (Bytes.trim line)).elim (.error (.json "")) .ok

/-- What is read of a line is always heard, be it a message or an error. -/
theorem heard?_read (line : Bytes) : heard? (read parse? line) = some (readLine parse? line) := by
  rw [read, readLine]
  rcases parse? (Bytes.trim line) with _ | message <;> rfl

/-- No line by itself is the last that is heard: a message that cannot be read is passed over. -/
theorem isLast_readLine (line : Bytes) : isLast (readLine parse? line) = false := by
  rw [readLine]
  rcases parse? (Bytes.trim line) with _ | message <;> rfl

/-- What is read of a line is never that it was too large, which is found before. -/
theorem read_ne_tooLarge (line : Bytes) (n : Nat) :
    read parse? line ≠ .error (.tooLarge n) := by
  rw [read]
  rcases parse? (Bytes.trim line) with _ | message <;> simp

/-- Only a line is taken out; what is not there or too large leaves the bytes as they are. -/
theorem decode_inv (limit : Nat) (parse? : Bytes → Option α) (d : LineDecoder) :
    (∃ n, (d.decode limit parse?).1 = .error (.tooLarge n) ∧
        (d.decode limit parse?).2.buffered = d.buffered) ∨
      ((d.decode limit parse?).1 = .ok none ∧
        (d.decode limit parse?).2.buffered = d.buffered) ∨
      ∃ line, (d.decode limit parse?).1 = read parse? line ∧
        (d.decode limit parse?).2.buffered.length < d.buffered.length := by
  rcases hfound : (d.buffered.drop d.scanned).idxOf? Bytes.newline with _ | offset
  · by_cases hlarge : d.buffered.length > limit
    · simp [decode, hfound, hlarge]
    · simp [decode, hfound, hlarge]
  · have hlt : offset < (d.buffered.drop d.scanned).length :=
      (List.idxOf?_eq_some_iff.mp hfound).1
    rw [List.length_drop] at hlt
    by_cases hlarge : d.scanned + offset > limit
    · simp [decode, hfound, hlarge]
    · refine .inr (.inr ⟨d.buffered.take (d.scanned + offset), ?_, ?_⟩)
      · simp [decode, hfound, hlarge]
      · simp only [decode, hfound, hlarge, if_false, List.length_drop]
        omega

/-- Each message that is decoded takes bytes with it, so asking again and again comes to an end. -/
theorem decode_consumes : Consumes (decode limit parse?) := by
  intro d said hsaid hlast
  rcases decode_inv limit parse? d with
    ⟨n, hanswer, -⟩ | ⟨hanswer, -⟩ | ⟨line, -, hlt⟩
  · rw [hanswer] at hsaid
    cases hsaid
    cases hlast
  · rw [hanswer] at hsaid
    cases hsaid
  · exact hlt

/-- At the end what stands behind the last line is a line too, unless it is blank. -/
theorem finish_of_none (h : (d.decode limit parse?).1 = .ok none) :
    d.finish limit parse? =
      if (Bytes.trim d.buffered).isEmpty then (.ok none, {}) else (read parse? d.buffered, {}) := by
  have hbuffered : (d.decode limit parse?).2.buffered = d.buffered := by
    rcases decode_inv limit parse? d with
      ⟨n, hanswer, -⟩ | ⟨-, hbuffered⟩ | ⟨line, hanswer, -⟩
    · cases h.symm.trans hanswer
    · exact hbuffered
    · have hread : heard? (read parse? line) = some (readLine parse? line) := heard?_read line
      rw [← hanswer, h] at hread
      cases hread
  rw [finish, ← Prod.eta (d.decode limit parse?), h]
  simp only [hbuffered]

/-- As long as there are whole lines, asking at the end is asking as before. -/
theorem finish_of_ne_none (h : (d.decode limit parse?).1 ≠ .ok none) :
    d.finish limit parse? = d.decode limit parse? := by
  rw [finish]
  split
  · rename_i hanswer
    exact absurd (congrArg Prod.fst hanswer) h
  · rfl

/-- Asking at the end takes bytes with each message too. -/
theorem finish_consumes : Consumes (finish limit parse?) := by
  intro d said hsaid hlast
  by_cases h : (d.decode limit parse?).1 = .ok none
  · rw [finish_of_none h] at hsaid ⊢
    by_cases hblank : (Bytes.trim d.buffered).isEmpty
    · rw [if_pos hblank] at hsaid
      cases hsaid
    · rw [if_neg hblank]
      refine List.length_pos_iff.mpr fun hnil => hblank ?_
      rw [hnil]
      rfl
  · rw [finish_of_ne_none h] at hsaid ⊢
    exact decode_consumes d said hsaid hlast

/-- What is too large stays where it is. -/
theorem buffered_of_decode_tooLarge {n : Nat}
    (h : (d.decode limit parse?).1 = .error (.tooLarge n)) :
    (d.decode limit parse?).2.buffered = d.buffered := by
  rcases decode_inv limit parse? d with
    ⟨m, -, hbuffered⟩ | ⟨-, hbuffered⟩ | ⟨line, hanswer, -⟩
  · exact hbuffered
  · exact hbuffered
  · exact absurd (hanswer.symm.trans h) (read_ne_tooLarge line n)

/-- What is too large stays where it is at the end too. -/
theorem buffered_of_finish_tooLarge {n : Nat}
    (h : (d.finish limit parse?).1 = .error (.tooLarge n)) :
    (d.finish limit parse?).2.buffered = d.buffered := by
  by_cases hnone : (d.decode limit parse?).1 = .ok none
  · rw [finish_of_none hnone] at h
    split at h
    · cases h
    · exact absurd h (read_ne_tooLarge _ n)
  · rw [finish_of_ne_none hnone] at h ⊢
    exact buffered_of_decode_tooLarge h

/-! ### Pieces -/

/-- What is heard while pieces arrive, and what the decoder is then. -/
def feed (limit : Nat) (parse? : Bytes → Option α) (d : LineDecoder) :
    List Bytes → List (Except LineError α) × Option LineDecoder
  | [] => ([], some d)
  | piece :: pieces =>
    proceed (poll (decode limit parse?) decode_consumes (d.push piece)) fun d =>
      feed limit parse? d pieces

/-- What is heard on a connection on which pieces arrive, and then its end. -/
def listen (limit : Nat) (parse? : Bytes → Option α) (pieces : List Bytes) :
    List (Except LineError α) :=
  (proceed (feed limit parse? {} pieces) (poll (finish limit parse?) finish_consumes)).1

/-- What is heard, lengths aside. -/
def unmeasured (heard : List (Except LineError α)) : List (Except LineError α) :=
  heard.map (Except.mapError LineError.unmeasured)

/-! ### What a whole text says -/

/-- What the pieces of a text between its ends of line say, and what stands behind the last of
these. A piece that is too large is the last that says something. -/
def readLines (limit : Nat) (parse? : Bytes → Option α) :
    List Bytes → List (Except LineError α) × Option Bytes
  | [] => ([], some [])
  | [rest] => if rest.length > limit then ([.error (.tooLarge 0)], none) else ([], some rest)
  | line :: pieces =>
    if line.length > limit then ([.error (.tooLarge 0)], none)
    else
      let (more, left) := readLines limit parse? pieces
      (readLine parse? line :: more, left)

/-- What a text says: its lines, and what stands behind the last of them unless it is blank. -/
def readAll (limit : Nat) (parse? : Bytes → Option α) (text : Bytes) :
    List (Except LineError α) :=
  match readLines limit parse? (text.splitOn Bytes.newline) with
  | (said, none) => said
  | (said, some rest) =>
    said ++ if (Bytes.trim rest).isEmpty then [] else [readLine parse? rest]

/-- Without an end of line nothing is said, and all is left, if it is not too large. -/
theorem readLines_splitOn_of_not_mem {rest : Bytes} (h : Bytes.newline ∉ rest) :
    readLines limit parse? (rest.splitOn Bytes.newline) =
      if rest.length > limit then ([.error (.tooLarge 0)], none) else ([], some rest) := by
  rw [List.splitOn_eq_singleton h, readLines]

/-- A text that begins with a line says what that says, and then what the rest says. -/
theorem readLines_splitOn_of_line {line : Bytes} (h : Bytes.newline ∉ line) (rest : Bytes) :
    readLines limit parse? ((line ++ Bytes.newline :: rest).splitOn Bytes.newline) =
      if line.length > limit then ([.error (.tooLarge 0)], none)
      else proceed ([readLine parse? line], some rest) fun rest =>
        readLines limit parse? (rest.splitOn Bytes.newline) := by
  rw [List.splitOn_append_cons_self_of_not_mem h, readLines]
  · rfl
  · simp

/-- Going on twice is going on once with both. -/
theorem proceed_proceed {β γ δ : Type} (heard : List (Except LineError α) × Option β)
    (f : β → List (Except LineError α) × Option γ)
    (g : γ → List (Except LineError α) × Option δ) :
    proceed (proceed heard f) g = proceed heard fun left => proceed (f left) g := by
  rcases heard with ⟨said, _ | left⟩
  · rfl
  · rcases hf : f left with ⟨more, _ | left'⟩
    · simp [proceed, hf]
    · simp [proceed, hf]

/-- A line that is too large says so, whatever stands behind it. -/
theorem readLines_of_large {line : Bytes} (h : Bytes.newline ∉ line) (hlarge : line.length > limit)
    (more : Bytes) :
    readLines limit parse? ((line ++ more).splitOn Bytes.newline) =
      ([.error (.tooLarge 0)], none) := by
  -- Whether its end is there by now or not, the line only got longer.
  by_cases hmem : Bytes.newline ∈ more
  · obtain ⟨first, rest, rfl, hfirst⟩ := List.eq_append_cons_of_mem hmem
    have hnone : Bytes.newline ∉ line ++ first := by simp [h, hfirst]
    rw [← List.append_assoc, readLines_splitOn_of_line hnone, if_pos]
    rw [List.length_append]
    omega
  · rw [readLines_splitOn_of_not_mem (by simp [h, hmem]), if_pos]
    rw [List.length_append]
    omega

/-- Of a text only what stands behind its last end of line has to be kept. -/
theorem readLines_append (text more : Bytes) :
    readLines limit parse? ((text ++ more).splitOn Bytes.newline) =
      proceed (readLines limit parse? (text.splitOn Bytes.newline)) fun rest =>
        readLines limit parse? ((rest ++ more).splitOn Bytes.newline) := by
  induction text using lines_induction with
  | last rest hrest =>
    rw [readLines_splitOn_of_not_mem hrest]
    by_cases hlarge : rest.length > limit
    · rw [if_pos hlarge, readLines_of_large hrest hlarge]
      rfl
    · rw [if_neg hlarge]
      rfl
  | line line rest hline ih =>
    rw [List.append_assoc, List.cons_append, readLines_splitOn_of_line hline,
      readLines_splitOn_of_line hline]
    by_cases hlarge : line.length > limit
    · rw [if_pos hlarge, if_pos hlarge]
      rfl
    · rw [if_neg hlarge, if_neg hlarge, proceed_proceed]
      simp only [proceed, ih]

/-- What is left is an unfinished line, and not too large. -/
theorem readLines_left {text rest : Bytes} {said : List (Except LineError α)}
    (h : readLines limit parse? (text.splitOn Bytes.newline) = (said, some rest)) :
    Bytes.newline ∉ rest ∧ ¬ rest.length > limit := by
  induction text using lines_induction generalizing said with
  | last line hline =>
    rw [readLines_splitOn_of_not_mem hline] at h
    by_cases hlarge : line.length > limit
    · simp [hlarge] at h
    · rw [if_neg hlarge] at h
      cases h
      exact ⟨hline, hlarge⟩
  | line line more hline ih =>
    rw [readLines_splitOn_of_line hline] at h
    by_cases hlarge : line.length > limit
    · simp [hlarge] at h
    · rw [if_neg hlarge] at h
      have hleft : (readLines limit parse? (more.splitOn Bytes.newline)).2 = some rest :=
        congrArg Prod.snd h
      exact ih (Prod.ext rfl hleft)

/-! ### The decoder reads the text -/

section

variable {ask : LineDecoder → Except LineError (Option α) × LineDecoder} {hask : Consumes ask}

/-- If nothing is there, asking is over and the decoder is kept. -/
theorem poll_of_none (h : heard? (ask d).1 = none) : poll ask hask d = ([], some (ask d).2) := by
  rw [poll]
  split
  · rfl
  · rename_i hsaid
    cases h.symm.trans hsaid

/-- An error that is final is the last that is heard, and no decoder is left. -/
theorem poll_of_last {said : Except LineError α} (h : heard? (ask d).1 = some said)
    (hlast : isLast said = true) : poll ask hask d = ([said], none) := by
  rw [poll]
  split
  · rename_i hnone
    cases h.symm.trans hnone
  · rename_i hsaid
    cases h.symm.trans hsaid
    rw [dif_pos hlast]

/-- Anything else that is heard is followed by what is heard when it is asked again. -/
theorem poll_of_said {said : Except LineError α} (h : heard? (ask d).1 = some said)
    (hlast : isLast said = false) :
    poll ask hask d = proceed ([said], some (ask d).2) (poll ask hask) := by
  rw [poll]
  split
  · rename_i hnone
    cases h.symm.trans hnone
  · rename_i hsaid
    cases h.symm.trans hsaid
    rw [dif_neg (by simp [hlast])]
    rfl

end

/-- A decoder that waits for the rest of a line, lengths aside. -/
def settled (heard : List (Except LineError α) × Option Bytes) :
    List (Except LineError α) × Option LineDecoder :=
  Prod.map id (Option.map waiting) heard

/-- Lengths can be left aside before or after going on. -/
theorem unmeasured_proceed {β γ : Type} (heard : List (Except LineError α) × Option β)
    (go : β → List (Except LineError α) × Option γ) :
    Prod.map unmeasured id (proceed heard go) =
      proceed (Prod.map unmeasured id heard) fun left => Prod.map unmeasured id (go left) := by
  rcases heard with ⟨said, _ | left⟩
  · rfl
  · simp [proceed, unmeasured]

/-- To go on from what is left is to go on with a decoder that waits. -/
theorem proceed_settled {γ : Type} (heard : List (Except LineError α) × Option Bytes)
    (go : LineDecoder → List (Except LineError α) × Option γ) :
    proceed (settled heard) go = proceed heard fun rest => go (waiting rest) := by
  rcases heard with ⟨said, _ | left⟩ <;> rfl

/-- A decoder that waits may be taken before or after going on. -/
theorem settled_proceed (heard : List (Except LineError α) × Option Bytes)
    (go : Bytes → List (Except LineError α) × Option Bytes) :
    settled (proceed heard go) = proceed heard fun rest => settled (go rest) := by
  rcases heard with ⟨said, _ | left⟩ <;> rfl

/-- What goes on in the same way from all that can be left goes on in the same way. -/
theorem proceed_congr {β γ : Type} {heard : List (Except LineError α) × Option β}
    {f g : β → List (Except LineError α) × Option γ}
    (h : ∀ left, heard.2 = some left → f left = g left) : proceed heard f = proceed heard g := by
  rcases heard with ⟨said, _ | left⟩
  · rfl
  · simp only [proceed, h left rfl]

/-- There are no lengths in what one line says. -/
theorem unmeasured_readLine (line : Bytes) :
    unmeasured [readLine parse? line] = [readLine parse? line] := by
  rw [readLine]
  rcases parse? (Bytes.trim line) with _ | message <;> rfl

/-- Asking a decoder for all it has reads the lines of what is buffered. -/
theorem poll_decode (h : Marked d) :
    Prod.map unmeasured id (poll (decode limit parse?) decode_consumes d) =
      settled (readLines limit parse? (d.buffered.splitOn Bytes.newline)) := by
  generalize htext : d.buffered = text
  induction text using lines_induction generalizing d with
  | last rest hrest =>
    subst htext
    have hdecode := Marked.decode_of_not_mem limit parse? hrest
    rw [readLines_splitOn_of_not_mem hrest]
    by_cases hlarge : d.buffered.length > limit
    · rw [if_pos hlarge] at hdecode ⊢
      rw [poll_of_last (by rw [hdecode]; rfl) rfl]
      rfl
    · rw [if_neg hlarge] at hdecode ⊢
      rw [poll_of_none (by rw [hdecode]; rfl), hdecode]
      rfl
  | line line rest hline ih =>
    -- Behind a line that was taken out nothing is marked, so the induction is over all marks.
    have hdecode := h.decode_of_line limit parse? hline htext
    rw [readLines_splitOn_of_line hline]
    by_cases hlarge : line.length > limit
    · rw [if_pos hlarge] at hdecode ⊢
      rw [poll_of_last (by rw [hdecode]; rfl) rfl]
      rfl
    · rw [if_neg hlarge] at hdecode ⊢
      rw [poll_of_said (by rw [hdecode]; exact heard?_read line) (isLast_readLine line),
        unmeasured_proceed, settled_proceed, hdecode]
      have hrest := ih (Marked.unmarked rest) rfl
      simp only [Prod.map, unmeasured_readLine, proceed, id, ← hrest]

/-- A decoder that waits reads the lines of what it holds and of the pieces that arrive. -/
theorem feed_waiting {rest : Bytes} (h : Bytes.newline ∉ rest) (hfits : ¬ rest.length > limit)
    (pieces : List Bytes) :
    Prod.map unmeasured id (feed limit parse? (waiting rest) pieces) =
      settled (readLines limit parse? ((rest ++ pieces.flatten).splitOn Bytes.newline)) := by
  induction pieces generalizing rest with
  | nil =>
    rw [List.flatten_nil, List.append_nil, readLines_splitOn_of_not_mem h, if_neg hfits]
    rfl
  | cons piece pieces ih =>
    rw [feed, unmeasured_proceed, poll_decode ((Marked.waiting h).push piece), proceed_settled,
      List.flatten_cons, ← List.append_assoc, readLines_append, settled_proceed]
    -- Both sides now go on from the line that the piece left unfinished.
    refine proceed_congr fun left hleft => ?_
    obtain ⟨hnone, hsmall⟩ := readLines_left (Prod.ext rfl hleft)
    exact ih hnone hsmall

/-- At the end of a connection the unfinished line is read, unless it is blank. -/
theorem poll_finish {rest : Bytes} (h : Bytes.newline ∉ rest) (hfits : ¬ rest.length > limit) :
    poll (finish limit parse?) finish_consumes (waiting rest) =
      (if (Bytes.trim rest).isEmpty then [] else [readLine parse? rest], some {}) := by
  have hnothing (line : Bytes) (hline : Bytes.newline ∉ line) (hsmall : ¬ line.length > limit) :
      ((waiting line).decode limit parse?).1 = .ok none := by
    rw [Marked.decode_of_not_mem limit parse? hline]
    exact congrArg Prod.fst (if_neg hsmall)
  have hfinish := finish_of_none (hnothing rest h hfits)
  by_cases hblank : (Bytes.trim rest).isEmpty
  · rw [if_pos hblank]
    rw [show (waiting rest).buffered = rest from rfl, if_pos hblank] at hfinish
    rw [poll_of_none (by rw [hfinish]; rfl), hfinish]
  · rw [if_neg hblank]
    rw [show (waiting rest).buffered = rest from rfl, if_neg hblank] at hfinish
    have hempty := finish_of_none (hnothing [] (by simp) (by simp))
    rw [poll_of_said (by rw [hfinish]; exact heard?_read rest) (isLast_readLine rest), hfinish]
    simp only [proceed]
    rw [show ({} : LineDecoder) = waiting [] from rfl, poll_of_none (by rw [hempty]; rfl), hempty]
    rfl

/-- What is heard is what the lines of the whole text say. -/
theorem unmeasured_listen (pieces : List Bytes) :
    unmeasured (listen limit parse? pieces) = readAll limit parse? pieces.flatten := by
  have hfeed : Prod.map unmeasured id (feed limit parse? {} pieces) =
      settled (readLines limit parse? (pieces.flatten.splitOn Bytes.newline)) :=
    feed_waiting (List.not_mem_nil : Bytes.newline ∉ []) (by simp) pieces
  have hlisten := unmeasured_proceed (feed limit parse? {} pieces)
    (poll (finish limit parse?) finish_consumes)
  rw [hfeed, proceed_settled] at hlisten
  refine (congrArg Prod.fst hlisten).trans ?_
  rw [readAll]
  rcases hlines : readLines limit parse? (pieces.flatten.splitOn Bytes.newline) with
    ⟨said, _ | rest⟩
  · rfl
  · obtain ⟨hnone, hfits⟩ := readLines_left hlines
    simp only [proceed, poll_finish hnone hfits, Prod.map]
    split
    · rfl
    · rw [unmeasured_readLine]

/-- **Listening is reading.** However a text is cut into pieces, what is heard is what its lines
say, for any limit and any kind of message. No end of line is passed over on the way, at any point
that a reader can reach, and what is too large is left in the buffer as it is. -/
theorem listening_is_reading (limit : Nat) (parse? : Bytes → Option α) :
    (∀ pieces : List Bytes,
      unmeasured (listen limit parse? pieces) = readAll limit parse? pieces.flatten) ∧
    (∀ d : LineDecoder, Reachable limit parse? d →
      d.scanned ≤ d.buffered.length ∧ Bytes.newline ∉ d.buffered.take d.scanned) ∧
    (∀ (d : LineDecoder) (n : Nat), (d.decode limit parse?).1 = .error (.tooLarge n) →
      (d.decode limit parse?).2.buffered = d.buffered) ∧
    ∀ (d : LineDecoder) (n : Nat), (d.finish limit parse?).1 = .error (.tooLarge n) →
      (d.finish limit parse?).2.buffered = d.buffered :=
  ⟨unmeasured_listen, fun _ h => ⟨h.marked.inside, h.marked.passed⟩,
    fun _ _ => buffered_of_decode_tooLarge, fun _ _ => buffered_of_finish_tooLarge⟩

/-- A reader of lines that knows one message, the letter `a`. -/
def letter? (line : Bytes) : Option Unit := if line = [0x61] then some () else none

/-- A message whose end comes later, a line that is no message, and a line that is too large
before its end has come. -/
theorem listening_to_three_pieces :
    unmeasured (listen 1 letter? [[0x61], [0x0A, 0x62, 0x0A, 0x61], [0x61, 0x61, 0x0A]]) =
        [.ok (), .error (.json ""), .error (.tooLarge 0)] ∧
      (Reachable 1 letter? (({} : LineDecoder).push [0x61]) ∧
        Bytes.newline ∉ (({} : LineDecoder).push [0x61]).buffered.take 0) ∧
      ((decode 1 letter? ⟨[0x61, 0x61], 1⟩).1 = .error (.tooLarge 2) ∧
        (decode 1 letter? ⟨[0x61, 0x61], 1⟩).2.buffered = [0x61, 0x61]) ∧
      (finish 1 letter? ⟨[0x61, 0x61, 0x0A], 2⟩).1 = .error (.tooLarge 2) ∧
        (finish 1 letter? ⟨[0x61, 0x61, 0x0A], 2⟩).2.buffered = [0x61, 0x61, 0x0A] := by
  have ⟨heard, marked, decoded, finished⟩ := listening_is_reading 1 letter?
  have hreachable : Reachable 1 letter? (({} : LineDecoder).push [0x61]) := .push .start [0x61]
  exact ⟨heard _, ⟨hreachable, (marked _ hreachable).2⟩, ⟨rfl, decoded _ 2 rfl⟩,
    rfl, finished _ 2 rfl⟩

end LineDecoder

end ReverseTunnel
