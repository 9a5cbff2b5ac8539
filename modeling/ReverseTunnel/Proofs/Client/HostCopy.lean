import ReverseTunnel.Proofs.Client.HostLine
import ReverseTunnel.Proofs.Stream.Reading

/-!
# Copying with another host

The head of a stream is collected until it is complete, and then goes on with another host; all
that follows is copied as it is. If the limit is reached before, or the stream ends, all of it is
copied as it is.

The limit is compared with what was collected after whole reads. So a head within the limit is
always changed, however it arrives. A head above it is meant to be left alone, but the read that
reaches the limit may bring the end of such a head along, and then it is changed: which of the two
happens hangs on the pieces in which the stream arrives, for every head that is too long by less
than one read.

## Main results

* `readHead_of_lasting`: how long a head is collected, and that it is found where it is.
* `short_heads_get_the_host`: what is copied if the head is within the limit.
* `long_heads_hang_on_the_reads`: what is copied if it is not.
* `overshooting_changed`: a head above the limit that is changed.
-/

namespace ReverseTunnel

open Head Text

variable {tap : Tap} {sink : Sink} {host : String} {read head rest : Bytes} {scanned : Nat}
  {pieces : List Bytes} {run : HeadRun}

/-! ### Collecting a head -/

/-- How collecting a head ends, with `read` at the start: some pieces were read, the last of them
below the limit, and the head was looked for in all of it. Without a head the limit is reached, or
nothing is left. -/
structure Collects (tap : Tap) (read : Bytes) (pieces : List Bytes) (run : HeadRun) : Prop where
  hands : tap.Hands headBufferSize pieces
  read_eq : run.read = read ++ pieces.flatten
  left : tap.source.bytes = pieces.flatten ++ run.tap.source.bytes
  lasting : run.tap.source.failure = none
  length_eq : run.length = .ok (length? run.read)
  below : ∀ earlier last, pieces = earlier ++ [last] →
    (read ++ earlier.flatten).length < maxHeadLength
  enough : length? run.read = none →
    maxHeadLength ≤ run.read.length ∨ run.tap.source.bytes = []

/-- Nothing more is read. -/
theorem Collects.done {left : Tap} (hleft : tap.source.bytes = left.source.bytes)
    (hlasting : left.source.failure = none)
    (henough : length? read = none → maxHeadLength ≤ read.length ∨ left.source.bytes = []) :
    Collects tap read [] ⟨left, read, .ok (length? read)⟩ where
  hands := .none tap
  read_eq := by simp
  left := by simpa using hleft
  lasting := hlasting
  length_eq := rfl
  below := fun earlier last h => by simp at h
  enough := henough

/-- One more piece is read. -/
theorem Collects.more {left : Tap} {got : Bytes} (hread : tap.read headBufferSize = (.ok got, left))
    (hsome : got ≠ []) (hbelow : read.length < maxHeadLength)
    (h : Collects left (read ++ got) pieces run) : Collects tap read (got :: pieces) run where
  hands := .more hread hsome h.hands
  read_eq := by simp [h.read_eq]
  left := by rw [Tap.bytes_read hread, h.left]; simp
  lasting := h.lasting
  length_eq := h.length_eq
  below := by
    intro earlier last heq
    rcases earlier with _ | ⟨first, earlier⟩
    · simpa using hbelow
    · obtain ⟨rfl, hpieces⟩ := List.cons.inj heq
      simpa using h.below earlier last hpieces
  enough := h.enough

/-- However a stream that lasts arrives, its head is found where it is, and nothing is read beyond
the piece that completes it or reaches the limit. -/
theorem readHead_of_lasting (hlasting : tap.source.failure = none)
    (hpassed : Passed scanned read) :
    ∃ pieces, Collects tap read pieces (readHead tap read scanned) := by
  fun_induction readHead tap read scanned with
  | case1 tap read scanned n hfound =>
    rw [lengthFrom?_eq_length? hpassed] at hfound
    rw [← hfound]
    exact ⟨[], .done rfl hlasting fun hnone => by rw [hfound] at hnone; cases hnone⟩
  | case2 tap read scanned hfound hlimit =>
    rw [lengthFrom?_eq_length? hpassed] at hfound
    rw [← hfound]
    exact ⟨[], .done rfl hlasting fun _ => .inl hlimit⟩
  | case3 tap read scanned hfound hlimit e left hread =>
    obtain ⟨got, hgot, -⟩ := Tap.read_of_lasting hlasting (by decide) hread
    cases hgot
  | case4 tap read scanned hfound hlimit left hread =>
    obtain ⟨got, hgot, hlasting', -, hnil⟩ := Tap.read_of_lasting hlasting (by decide) hread
    cases hgot
    rw [lengthFrom?_eq_length? hpassed] at hfound
    have hleft := Tap.bytes_read hread
    rw [List.nil_append, hnil rfl] at hleft
    rw [← hfound]
    exact ⟨[], .done (by rw [hnil rfl, ← hleft]) hlasting' fun _ => .inr hleft.symm⟩
  | case5 tap read scanned hfound hlimit got left hread hsome _ ih =>
    obtain ⟨-, -, hlasting', -⟩ := Tap.read_of_lasting hlasting (by decide) hread
    rw [lengthFrom?_eq_length? hpassed] at hfound
    obtain ⟨pieces, hcollects⟩ := ih hlasting' (passed_of_none hfound got)
    exact ⟨got :: pieces, hcollects.more hread hsome (Nat.lt_of_not_le hlimit)⟩

namespace Collects

variable (h : Collects tap [] pieces run)

include h

/-- What was collected is all the pieces that were read, joined. -/
theorem read_eq_flatten : run.read = pieces.flatten := h.read_eq

/-- What was collected and what is left in the source are the stream. -/
theorem bytes_eq : tap.source.bytes = run.read ++ run.tap.source.bytes := by
  rw [h.read_eq_flatten, ← h.left]

/-- The head is found if it was collected. -/
theorem length?_of_le (hhead : IsComplete head) (hbytes : tap.source.bytes = head ++ rest)
    (hle : head.length ≤ run.read.length) : length? run.read = some head.length := by
  have hprefix : head <+: run.read :=
    List.prefix_of_prefix_length_le ⟨rest, hbytes.symm⟩ ⟨_, h.bytes_eq.symm⟩ hle
  obtain ⟨more, hmore⟩ := hprefix
  rw [← hmore, hhead.length?_append]

/-- The head is not found before it was collected. -/
theorem length?_of_lt (hhead : IsComplete head) (hbytes : tap.source.bytes = head ++ rest)
    (hlt : run.read.length < head.length) : length? run.read = none := by
  have hprefix : run.read <+: head ++ rest := ⟨_, by rw [← h.bytes_eq, hbytes]⟩
  exact hhead.length?_eq_none hprefix hlt

/-- A head that was not collected is above the limit, and the limit was reached. -/
theorem reached_of_lt (hhead : IsComplete head) (hbytes : tap.source.bytes = head ++ rest)
    (hlt : run.read.length < head.length) : maxHeadLength ≤ run.read.length := by
  refine (h.enough (h.length?_of_lt hhead hbytes hlt)).resolve_right fun hnil => ?_
  have hlength := congrArg List.length h.bytes_eq
  simp only [hbytes, hnil, List.length_append, List.length_nil] at hlength
  omega

/-- What is written is the stream, with another host in its head if the head was collected. -/
theorem written (hhead : IsComplete head) (hbytes : tap.source.bytes = head ++ rest) :
    withHostIfComplete run.read (length? run.read) host ++ run.tap.source.bytes =
      (if head.length ≤ run.read.length then withHost head host else head) ++ rest := by
  split
  · rename_i hle
    obtain ⟨more, hmore⟩ : head <+: run.read :=
      List.prefix_of_prefix_length_le ⟨rest, hbytes.symm⟩ ⟨_, h.bytes_eq.symm⟩ hle
    have hrest : more ++ run.tap.source.bytes = rest := by
      have heq := h.bytes_eq
      rw [hbytes, ← hmore, List.append_assoc] at heq
      exact (List.append_cancel_left heq).symm
    rw [h.length?_of_le hhead hbytes hle, withHostIfComplete, ← hmore, List.take_left,
      List.drop_left, List.append_assoc, hrest]
  · rename_i hlt
    rw [h.length?_of_lt hhead hbytes (Nat.lt_of_not_le hlt), withHostIfComplete, ← h.bytes_eq,
      hbytes]

/-- A stream without a head is written as it is. -/
theorem written_of_none (hnone : ¬ terminator <:+: tap.source.bytes) :
    withHostIfComplete run.read (length? run.read) host ++ run.tap.source.bytes =
      tap.source.bytes := by
  have hfound : length? run.read = none := by
    rw [length?_eq_none_iff]
    exact fun hinside => hnone (hinside.trans ⟨[], run.tap.source.bytes, by simp [h.bytes_eq]⟩)
  rw [hfound, withHostIfComplete, ← h.bytes_eq]

end Collects

/-! ### Copying -/

/-- What a copy leaves behind if all went well: these bytes written and the end announced, and as
many bytes counted as were read. -/
structure Copied (tap : Tap) (sink : Sink) (written : Bytes) (run : CopyRun) : Prop where
  written_eq : run.sink.written = sink.written ++ written
  ended : run.sink.ended = true
  result_eq : run.result = .ok tap.source.bytes.length
  counter_eq : run.counter = tap.source.bytes.length

/-- Behind what was collected, a stream that lasts is copied as it is. -/
theorem copied_of_collects (host : String) (hroom : sink.bound = none)
    (hrun : readHead tap [] 0 = run) (h : Collects tap [] pieces run) :
    Copied tap sink (withHostIfComplete run.read (length? run.read) host ++ run.tap.source.bytes)
      (copyWithHost tap sink host) := by
  let front := withHostIfComplete run.read (length? run.read) host
  have hhead : copyWithHost tap sink host = copyFrom run.tap
      { sink with written := sink.written ++ front } run.read.length run.read.length := by
    rw [copyWithHost, hrun]
    simp only [h.length_eq, Sink.write_of_room hroom, front]
  have hroom' : { sink with written := sink.written ++ front }.bound = none := hroom
  obtain ⟨left, hcopy⟩ :=
    copyFrom_of_lasting run.read.length run.read.length h.lasting hroom'
  have hlength : tap.source.bytes.length = run.read.length + run.tap.source.bytes.length := by
    rw [h.bytes_eq, List.length_append]
  rw [hhead, hcopy, ← hlength]
  exact ⟨List.append_assoc _ _ _, rfl, rfl, rfl⟩

/-- **A head within the limit gets the host, however it arrives.** A stream that lasts is copied to
a sink that takes everything. If its first head is within the limit, that head goes on with the
host and all that follows as it is; without a head the whole stream goes on as it is. The end is
announced, and the result and the count are the number of bytes read. -/
theorem short_heads_get_the_host (tap : Tap) (sink : Sink) (host : String)
    (hlasting : tap.source.failure = none) (hroom : sink.bound = none)
    (hshort : ∀ head rest, tap.source.bytes = head ++ rest → IsComplete head →
      head.length ≤ maxHeadLength) :
    (∀ head rest, tap.source.bytes = head ++ rest → IsComplete head →
        Copied tap sink (withHost head host ++ rest) (copyWithHost tap sink host)) ∧
      (¬ terminator <:+: tap.source.bytes →
        Copied tap sink tap.source.bytes (copyWithHost tap sink host)) := by
  obtain ⟨pieces, hcollects⟩ := readHead_of_lasting hlasting (passed_zero [])
  have hcopied := copied_of_collects host hroom rfl hcollects
  refine ⟨fun head rest hbytes hhead => ?_, fun hnone => ?_⟩
  · have hle : head.length ≤ (readHead tap [] 0).read.length := by
      refine Nat.le_of_not_lt fun hlt => ?_
      have hreached := hcollects.reached_of_lt hhead hbytes hlt
      have := hshort head rest hbytes hhead
      omega
    simpa only [hcollects.written hhead hbytes, if_pos hle] using hcopied
  · simpa only [hcollects.written_of_none hnone] using hcopied

/-- The head of a short request. -/
def shortHead : Bytes := ofLines [plainRequest, Utf8.encode "Host: public"]

/-- A short request that arrives in two pieces, the first of which ends within the terminator. -/
def cutTap : Tap :=
  ⟨⟨[shortHead.take (shortHead.length - 1), 0x0A :: Utf8.encode "body"], none⟩, none⟩

/-- The short request gets the host, and its body goes on. -/
theorem cutTap_gets_the_host :
    cutTap.source.failure = none ∧ IsComplete shortHead ∧
      cutTap.source.bytes = shortHead ++ Utf8.encode "body" ∧
      Copied cutTap {} (ofLines [plainRequest, Utf8.encode "Host: local:1"] ++ Utf8.encode "body")
        (copyWithHost cutTap {} "local:1") := by
  have hbytes : cutTap.source.bytes = shortHead ++ Utf8.encode "body" := by decide
  have hhead : IsComplete shortHead := isComplete_ofLines (by decide) (by decide)
  have hshort : ∀ head rest, cutTap.source.bytes = head ++ rest → IsComplete head →
      head.length ≤ maxHeadLength := by
    intro head rest heq _
    have hlength := congrArg List.length heq
    have hsmall : (shortHead ++ Utf8.encode "body").length ≤ maxHeadLength := by decide
    rw [hbytes] at hlength
    rw [hlength, List.length_append] at hsmall
    omega
  have hhost : withHost shortHead "local:1" =
      ofLines [plainRequest, Utf8.encode "Host: local:1"] := by decide
  have hcopied :=
    (short_heads_get_the_host cutTap {} "local:1" rfl rfl hshort).1 shortHead _ hbytes hhead
  exact ⟨rfl, hhead, hbytes, hhost ▸ hcopied⟩

/-! ### Heads above the limit -/

/-- The read of `last` is the one that reaches the limit. -/
structure ReachesLimit (tap : Tap) (earlier : List Bytes) (last : Bytes) : Prop where
  hands : tap.Hands headBufferSize (earlier ++ [last])
  below : earlier.flatten.length < maxHeadLength
  reached : maxHeadLength ≤ (earlier ++ [last]).flatten.length

/-- A head above the limit is collected until the limit is reached. -/
theorem Collects.reachesLimit (h : Collects tap [] pieces run) (hhead : IsComplete head)
    (hbytes : tap.source.bytes = head ++ rest) (hlong : maxHeadLength < head.length) :
    ∃ earlier last, pieces = earlier ++ [last] ∧ ReachesLimit tap earlier last := by
  have hreached : maxHeadLength ≤ pieces.flatten.length := by
    rw [← h.read_eq_flatten]
    by_cases hlt : run.read.length < head.length
    · exact h.reached_of_lt hhead hbytes hlt
    · omega
  rcases List.eq_nil_or_concat pieces with rfl | ⟨earlier, last, rfl⟩
  · exact absurd hreached (by decide)
  · rw [List.concat_eq_append] at h hreached
    exact ⟨earlier, last, List.concat_eq_append, h.hands, by simpa using h.below earlier last rfl,
      hreached⟩

/-- The read that reaches the limit goes beyond it by less than a read. -/
theorem ReachesLimit.lt {earlier : List Bytes} {last : Bytes} (h : ReachesLimit tap earlier last) :
    (earlier ++ [last]).flatten.length < maxHeadLength + headBufferSize := by
  have hlast : last.length ≤ headBufferSize := h.hands.prefix_bytes.2 last (by simp)
  have hbelow := h.below
  simp only [List.flatten_append, List.flatten_singleton, List.length_append]
  omega

/-- A head above the limit is changed exactly if the read that reaches the limit completes it. -/
theorem copied_of_long (host : String) (hlasting : tap.source.failure = none)
    (hroom : sink.bound = none) (hhead : IsComplete head)
    (hbytes : tap.source.bytes = head ++ rest) (hlong : maxHeadLength < head.length) :
    ∃ earlier last, ReachesLimit tap earlier last ∧
      Copied tap sink
        ((if head.length ≤ (earlier ++ [last]).flatten.length then withHost head host else head) ++
          rest)
        (copyWithHost tap sink host) := by
  obtain ⟨pieces, hcollects⟩ := readHead_of_lasting hlasting (passed_zero [])
  have hcopied := copied_of_collects host hroom rfl hcollects
  obtain ⟨earlier, last, rfl, hreaches⟩ := hcollects.reachesLimit hhead hbytes hlong
  rw [hcollects.written hhead hbytes, hcollects.read_eq_flatten] at hcopied
  exact ⟨earlier, last, hreaches, hcopied⟩

/-- A stream that arrives in two chunks, the first of `n` bytes. -/
def inTwo (n : Nat) (stream : Bytes) : Tap := ⟨⟨[stream.take n, stream.drop n], none⟩, none⟩

/-- A stream in two pieces is still that stream. -/
theorem bytes_inTwo (n : Nat) (stream : Bytes) : (inTwo n stream).source.bytes = stream := by
  simp [inTwo, Source.bytes]

/-- If a chunk ends at the limit, the limit is reached exactly. -/
theorem ReachesLimit.le_of_inTwo {stream : Bytes} {earlier : List Bytes} {last : Bytes}
    (h : ReachesLimit (inTwo maxHeadLength stream) earlier last)
    (hlong : maxHeadLength < stream.length) :
    (earlier ++ [last]).flatten.length ≤ maxHeadLength := by
  have hlength : (stream.take maxHeadLength).length = maxHeadLength :=
    List.length_take_of_le (Nat.le_of_lt hlong)
  have hchunk : stream.take maxHeadLength ≠ [] := List.ne_nil_of_length_eq_add_one hlength
  rcases h.hands.of_chunk hchunk with hwithin | ⟨front, behind, _, hpieces, hfront, -⟩
  · rwa [hlength] at hwithin
  · rcases List.eq_nil_or_concat behind with rfl | ⟨between, last', rfl⟩
    · rw [List.append_nil] at hpieces
      exact Nat.le_of_eq (by rw [hpieces, hfront, hlength])
    · -- Then the whole chunk would have been read before the limit was reached.
      rw [List.concat_eq_append, ← List.append_assoc] at hpieces
      obtain ⟨rfl, -⟩ := List.append_inj' hpieces rfl
      have hbelow := h.below
      rw [List.flatten_append, List.length_append, hfront, hlength] at hbelow
      omega

/-- If a chunk ends one byte before the limit, one more read is made, as large as it can be. -/
theorem ReachesLimit.ge_of_inTwo {stream : Bytes} {earlier : List Bytes} {last : Bytes}
    (h : ReachesLimit (inTwo (maxHeadLength - 1) stream) earlier last)
    (hlong : maxHeadLength < stream.length) :
    min stream.length (maxHeadLength - 1 + headBufferSize) ≤
      (earlier ++ [last]).flatten.length := by
  have hlength : (stream.take (maxHeadLength - 1)).length = maxHeadLength - 1 :=
    List.length_take_of_le (by omega)
  have hchunk : stream.take (maxHeadLength - 1) ≠ [] := List.ne_nil_of_length_eq_add_one hlength
  have hchunk' : stream.drop (maxHeadLength - 1) ≠ [] := by
    rw [ne_eq, List.drop_eq_nil_iff]
    omega
  have hreached := h.reached
  have hpositive : 0 < maxHeadLength := by decide
  rcases h.hands.of_chunk hchunk with hwithin | ⟨front, behind, _, hpieces, hfront, hbehind⟩
  · omega
  · rw [hpieces, List.flatten_append, List.length_append, hfront, hlength] at hreached ⊢
    rcases behind with _ | ⟨got, behind⟩
    · simp only [List.flatten_nil, List.length_nil] at hreached
      omega
    · rw [(hbehind.first_chunk hchunk').1, List.flatten_cons, List.length_append,
        List.length_take, List.length_drop]
      omega

/-- **Whether a head above the limit is left alone hangs on the reads.** A stream with such a head
is copied with the host changed exactly if the read that reaches the limit completes the head. So
it goes on as it is if the head is too long by a read or more; every such stream also does if it
arrives in chunks of which one ends at the limit, and every stream whose head is too long by less
than a read is changed if a chunk ends one byte before the limit. -/
theorem long_heads_hang_on_the_reads (host : String) (head rest : Bytes) (hhead : IsComplete head)
    (hlong : maxHeadLength < head.length) :
    (∀ (tap : Tap) (sink : Sink), tap.source.failure = none → sink.bound = none →
        tap.source.bytes = head ++ rest →
        ∃ earlier last, ReachesLimit tap earlier last ∧
          Copied tap sink
            ((if head.length ≤ (earlier ++ [last]).flatten.length then withHost head host
              else head) ++ rest)
            (copyWithHost tap sink host)) ∧
      (maxHeadLength + headBufferSize ≤ head.length → ∀ (tap : Tap) (sink : Sink),
        tap.source.failure = none → sink.bound = none → tap.source.bytes = head ++ rest →
        Copied tap sink (head ++ rest) (copyWithHost tap sink host)) ∧
      (∀ sink : Sink, sink.bound = none →
        Copied (inTwo maxHeadLength (head ++ rest)) sink (head ++ rest)
          (copyWithHost (inTwo maxHeadLength (head ++ rest)) sink host)) ∧
      (head.length < maxHeadLength + headBufferSize → ∀ sink : Sink, sink.bound = none →
        Copied (inTwo (maxHeadLength - 1) (head ++ rest)) sink (withHost head host ++ rest)
          (copyWithHost (inTwo (maxHeadLength - 1) (head ++ rest)) sink host)) := by
  have hstream : maxHeadLength < (head ++ rest).length := by
    rw [List.length_append]
    omega
  refine ⟨fun tap sink hlasting hroom hbytes => ?_,
    fun hlonger tap sink hlasting hroom hbytes => ?_, fun sink hroom => ?_,
    fun hfits sink hroom => ?_⟩
  · exact copied_of_long host hlasting hroom hhead hbytes hlong
  · obtain ⟨earlier, last, hreaches, hcopied⟩ :=
      copied_of_long host hlasting hroom hhead hbytes hlong
    have hlt := hreaches.lt
    rwa [if_neg (by omega)] at hcopied
  · obtain ⟨earlier, last, hreaches, hcopied⟩ :=
      copied_of_long host rfl hroom hhead (bytes_inTwo maxHeadLength _) hlong
    have hle := hreaches.le_of_inTwo hstream
    rwa [if_neg (by omega)] at hcopied
  · obtain ⟨earlier, last, hreaches, hcopied⟩ :=
      copied_of_long host rfl hroom hhead (bytes_inTwo (maxHeadLength - 1) _) hlong
    have hge := hreaches.ge_of_inTwo hstream
    have hpositive : 0 < maxHeadLength := by decide
    rw [List.length_append] at hge
    rwa [if_pos (by omega)] at hcopied

/-- A header line with a value of `n` bytes. -/
def cookieLine (n : Nat) : Bytes := Utf8.encode "Cookie: " ++ List.replicate n 0x61

/-- The head with that line, and without a host. -/
def cookieHead (n : Nat) : Bytes := ofLines [plainRequest, cookieLine n]

/-- The length of the head with a long cookie, which can be chosen freely. -/
theorem length_cookieHead (n : Nat) : (cookieHead n).length = n + 29 := by
  have hrequest : plainRequest.length = 15 := by decide
  have hname : (Utf8.encode "Cookie: ").length = 8 := by decide
  simp only [cookieHead, cookieLine, ofLines, lineEnd, List.flatMap_cons, List.flatMap_nil,
    List.length_append, List.length_replicate, List.length_cons, List.length_nil, hrequest, hname]
  omega

/-- Each line of the head is one, whatever the length of the cookie. -/
theorem isLine_of_mem_cookieHead (n : Nat) :
    ∀ line ∈ [plainRequest, cookieLine n], IsLine line := by
  have hrequest : IsLine plainRequest := by decide
  have hname : IsLine (Utf8.encode "Cookie: ") := by decide
  have hline : IsLine (cookieLine n) := by simpa [IsLine, cookieLine] using hname
  exact List.forall_mem_cons.mpr ⟨hrequest, List.forall_mem_singleton.mpr hline⟩

/-- The head with a long cookie is complete. -/
theorem isComplete_cookieHead (n : Nat) : IsComplete (cookieHead n) := by
  have hsome : Utf8.encode "Cookie: " ≠ [] := by decide
  exact isComplete_ofLines (isLine_of_mem_cookieHead n) (by simp [cookieLine, hsome])

/-- A line is put into that head. -/
theorem withHost_cookieHead_ne (n : Nat) (host : String) :
    withHost (cookieHead n) host ≠ cookieHead n := by
  have hother : ∀ line ∈ [cookieLine n], ¬ NamesHost line := by
    have hcolon : Utf8.encode "Cookie: " = Utf8.encode "Cookie" ++ [0x3A, 0x20] := by decide
    have hname :
        (Bytes.lower (Bytes.trim (Utf8.encode "Cookie")) == Utf8.encode "host") = false := by decide
    rw [List.forall_mem_singleton, ← namesHost_iff, isHostLine, cookieLine, hcolon,
      List.append_assoc, List.cons_append, splitFirst_append (by decide)]
    simp only [hname, Bool.false_eq_true, not_false_eq_true]
  rw [cookieHead, withHost_of_linesOf (linesOf_ofLines (isLine_of_mem_cookieHead n) (by simp)),
    setHost, replaceFirst_of_forall _ hother]
  refine fun heq => absurd (congrArg List.length heq) ?_
  simp only [ofLines, List.flatMap_cons, List.length_append, Option.getD_none, lineEnd,
    List.length_cons]
  omega

/-- A head above the limit. -/
def longHead : Bytes := cookieHead 65520

/-- The long head is longer than a head may be, by a few bytes. -/
theorem length_longHead : longHead.length = 65549 := length_cookieHead 65520

/-- The long head is complete, so it is only too long. -/
theorem isComplete_longHead : IsComplete longHead := isComplete_cookieHead 65520

/-- That head goes on as it is or with another host. -/
theorem longHead_hangs :
    IsComplete longHead ∧ maxHeadLength < longHead.length ∧
      longHead.length < maxHeadLength + headBufferSize ∧
      Copied (inTwo maxHeadLength longHead) {} longHead
        (copyWithHost (inTwo maxHeadLength longHead) {} "local:1") ∧
      Copied (inTwo (maxHeadLength - 1) longHead) {} (withHost longHead "local:1")
        (copyWithHost (inTwo (maxHeadLength - 1) longHead) {} "local:1") := by
  have hlong : maxHeadLength < longHead.length := by rw [length_longHead]; decide
  have hfits : longHead.length < maxHeadLength + headBufferSize := by rw [length_longHead]; decide
  have ⟨_, _, hkept, hchanged⟩ :=
    long_heads_hang_on_the_reads "local:1" longHead [] isComplete_longHead hlong
  have hkept := hkept {} rfl
  have hchanged := hchanged hfits {} rfl
  rw [List.append_nil] at hkept hchanged
  rw [List.append_nil] at hchanged
  exact ⟨isComplete_longHead, hlong, hfits, hkept, hchanged⟩

/-- A head above the limit that is changed although it is meant to be left alone: all but one byte
of what the limit allows arrives first, then the rest of the head. -/
theorem overshooting_changed :
    (inTwo (maxHeadLength - 1) longHead).source.failure = none ∧
      (inTwo (maxHeadLength - 1) longHead).source.bytes = longHead ∧ IsComplete longHead ∧
      maxHeadLength < longHead.length ∧
      (copyWithHost (inTwo (maxHeadLength - 1) longHead) {} "local:1").sink.written ≠ longHead := by
  have hlong : maxHeadLength < longHead.length := by rw [length_longHead]; decide
  have hbytes := bytes_inTwo (maxHeadLength - 1) longHead
  have hstream : (inTwo (maxHeadLength - 1) longHead).source.bytes = longHead ++ [] := by
    rw [hbytes, List.append_nil]
  refine ⟨rfl, hbytes, isComplete_longHead, hlong, ?_⟩
  have hroom : ({} : Sink).bound = none := rfl
  obtain ⟨earlier, last, hreaches, hcopied⟩ :=
    copied_of_long "local:1" rfl hroom isComplete_longHead hstream hlong
  have hge := hreaches.ge_of_inTwo hlong
  rw [length_longHead] at hge
  have hcollected : longHead.length ≤ (earlier ++ [last]).flatten.length := by
    rw [length_longHead]
    exact hge
  have hwritten := hcopied.written_eq
  rw [if_pos hcollected, List.append_nil, List.nil_append] at hwritten
  rw [hwritten]
  exact withHost_cookieHead_ne 65520 "local:1"

end ReverseTunnel
