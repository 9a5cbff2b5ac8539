import ReverseTunnel.Proofs.Control.Framing
import ReverseTunnel.Proofs.Control.Message
import ReverseTunnel.Proofs.Text.Normal

/-!
# Sent and heard

Both ends of the control channel have the same limit. Whoever writes messages within it, one
behind the other, is understood: in whatever pieces the bytes arrive, the other end hears the
messages in their order, no error, and nothing is left of the bytes. A message that is too large
for the reader is not written in the first place, and what was written before stays as it was.

Three facts about a message carry this: it is written without an end of line, it has no blanks at
its ends, and it is read as it was.

## Main results

* `feed_lines`: lines that were written are heard.
* `sent_is_heard`: so are requests and answers.
-/

namespace ReverseTunnel

open Json LineDecoder

variable {limit : Nat} {buffer : Bytes}

/-! ### Writing one message and several -/

/-- Writes messages one behind the other, as long as none is too large. -/
def writeLines (limit : Nat) (buffer : Bytes) : List Value → Except LineError Unit × Bytes
  | [] => (.ok (), buffer)
  | message :: messages =>
    match writeLine limit buffer message with
    | (.ok (), buffer) => writeLines limit buffer messages
    | (.error e, buffer) => (.error e, buffer)

/-- The lines of messages. -/
def lines (messages : List Value) : Bytes :=
  messages.flatMap fun message => message.print ++ [Bytes.newline]

/-- A message that is not too long is put behind what is in the buffer, with an end of line. -/
theorem writeLine_of_le {message : Value} (h : message.print.length ≤ limit) :
    writeLine limit buffer message = (.ok (), buffer ++ (message.print ++ [Bytes.newline])) := by
  have hfits : ¬ message.print.length > limit := Nat.not_lt.mpr h
  simp only [writeLine, encodeLine, if_neg hfits]

/-- A message that is too long is refused with its length, and the buffer stays as it is. -/
theorem writeLine_of_gt {message : Value} (h : limit < message.print.length) :
    writeLine limit buffer message = (.error (.tooLarge message.print.length), buffer) := by
  simp only [writeLine, encodeLine, if_pos h]

/-- Messages none of which is too long are put into the buffer one after another. -/
theorem writeLines_of_le {messages : List Value}
    (h : ∀ message ∈ messages, message.print.length ≤ limit) :
    writeLines limit buffer messages = (.ok (), buffer ++ lines messages) := by
  induction messages generalizing buffer with
  | nil => rw [writeLines, lines, List.flatMap_nil, List.append_nil]
  | cons message messages ih =>
    rw [writeLines, writeLine_of_le (h message List.mem_cons_self)]
    dsimp only
    rw [ih fun other hother => h other (List.mem_cons_of_mem message hother), lines, lines,
      List.flatMap_cons, List.append_assoc]

/-! ### The line of a message -/

variable {α β : Type} {parse? : Bytes → Option α}

/-- A message that is written on one line, and read from that line as `heard`. -/
structure Spoken (parse? : Bytes → Option α) (message : Value) (heard : α) : Prop where
  oneLine : Bytes.newline ∉ message.print
  readLine : readLine parse? message.print = .ok heard

/-- An object is written with braces at its ends. -/
theorem trim_print_object (fields : List (String × Value)) :
    Bytes.trim (Value.object fields).print = (Value.object fields).print := by
  have hopen : String.utf8EncodeChar '\x7b' = [0x7B] := by decide
  have hclose : String.utf8EncodeChar '\x7d' = [0x7D] := by decide
  have hprint : (Value.object fields).print =
      0x7B :: ((Value.printFields fields).flatMap String.utf8EncodeChar ++ [0x7D]) := by
    rw [Value.print, Text.Utf8.encode_ofList, Value.printChars, List.cons_append,
      List.flatMap_cons, List.flatMap_append, List.flatMap_singleton, hopen, hclose]
    rfl
  rw [hprint]
  refine Text.trimBy_eq_self (fun b hb => ?_) fun b hb => ?_
  · cases hb
    decide
  · rw [← List.cons_append, List.getLast?_concat] at hb
    cases hb
    decide

/-- An object is spoken if it can be written and is read as it was. -/
theorem Spoken.of_object {depth : Nat} {fields : List (String × Value)} {heard : α}
    (hwritable : Writable depth (.object fields))
    (hread : parse? (Value.object fields).print = some heard) :
    Spoken parse? (.object fields) heard where
  oneLine h := absurd (hwritable.le_of_mem_print h) (by decide)
  readLine := by
    rw [LineDecoder.readLine, trim_print_object, hread]
    rfl

/-- A request is understood by a server as the message that it was written as. -/
theorem TunnelRequest.spoken (request : TunnelRequest) :
    Spoken RawRequest.parse? request.toJson request.raw := by
  have hwritable := request.writable_toJson
  have hread := request.parse?_print
  rw [request.toJson_eq] at hwritable hread ⊢
  exact .of_object hwritable hread

/-- An answer for a name is understood by a client as it was meant. -/
theorem HttpTunnelAnswer.spoken (answer : HttpTunnelAnswer) :
    Spoken HttpTunnelAnswer.parse? answer.toJson answer :=
  .of_object answer.writable_toJson answer.parse?_print

/-- An answer for a port is understood by a client as it was meant. -/
theorem TcpTunnelAnswer.spoken (answer : TcpTunnelAnswer) :
    Spoken TcpTunnelAnswer.parse? answer.toJson answer :=
  .of_object answer.writable_toJson answer.parse?_print

/-! ### Hearing what was written -/

section Heard

variable {toJson : β → Value} {heard : β → α} {messages : List β}

/-- The lines that were written say the messages. -/
theorem readLines_lines (hspoken : ∀ m ∈ messages, Spoken parse? (toJson m) (heard m))
    (hfits : ∀ m ∈ messages, (toJson m).print.length ≤ limit) :
    readLines limit parse? ((lines (messages.map toJson)).splitOn Bytes.newline) =
      ((messages.map heard).map .ok, some []) := by
  induction messages with
  | nil =>
    have hempty : Bytes.newline ∉ ([] : Bytes) := List.not_mem_nil
    exact (readLines_splitOn_of_not_mem hempty).trans (if_neg (Nat.not_lt_zero limit))
  | cons m messages ih =>
    obtain ⟨holine, hline⟩ := hspoken m List.mem_cons_self
    have hrest := ih (fun other hother => hspoken other (List.mem_cons_of_mem m hother))
      fun other hother => hfits other (List.mem_cons_of_mem m hother)
    rw [List.map_cons, lines, List.flatMap_cons, ← lines, List.append_assoc,
      List.singleton_append, readLines_splitOn_of_line holine,
      if_neg (Nat.not_lt.mpr (hfits m List.mem_cons_self)), hline]
    simp only [proceed, hrest]
    rfl

/-- What is heard without an error is heard as it is. -/
theorem eq_of_unmeasured {said : List (Except LineError α)} {as : List α}
    (h : unmeasured said = as.map .ok) : said = as.map .ok := by
  induction said generalizing as with
  | nil => exact h
  | cons first said ih =>
    rcases as with _ | ⟨a, as⟩
    · cases h
    · obtain ⟨hfirst, hrest⟩ := List.cons.inj h
      rcases first with e | a'
      · cases hfirst
      · cases hfirst
        rw [ih hrest]
        rfl

/-- Lines that were written are heard, in whatever pieces they arrive. -/
theorem feed_lines (toJson : β → Value) (heard : β → α)
    (hspoken : ∀ m ∈ messages, Spoken parse? (toJson m) (heard m))
    (hfits : ∀ m ∈ messages, (toJson m).print.length ≤ limit) {pieces : List Bytes}
    (hpieces : pieces.flatten = lines (messages.map toJson)) :
    feed limit parse? {} pieces = ((messages.map heard).map .ok, some {}) := by
  have hempty : Bytes.newline ∉ ([] : Bytes) := List.not_mem_nil
  have hfeed : Prod.map unmeasured id (feed limit parse? {} pieces) =
      settled (readLines limit parse? (pieces.flatten.splitOn Bytes.newline)) :=
    feed_waiting hempty (Nat.not_lt_zero limit) pieces
  rw [hpieces, readLines_lines hspoken hfits] at hfeed
  have hsaid : unmeasured (feed limit parse? {} pieces).1 = (messages.map heard).map .ok :=
    congrArg Prod.fst hfeed
  have hleft : (feed limit parse? {} pieces).2 = some {} := congrArg Prod.snd hfeed
  exact Prod.ext (eq_of_unmeasured hsaid) hleft

/-- Messages within the limit are written, and what was written is heard. -/
theorem written_is_heard (toJson : β → Value) (heard : β → α)
    (hspoken : ∀ m ∈ messages, Spoken parse? (toJson m) (heard m))
    (hfits : ∀ m ∈ messages, (toJson m).print.length ≤ limit) :
    ∃ buffer, writeLines limit [] (messages.map toJson) = (.ok (), buffer) ∧
      ∀ pieces : List Bytes, pieces.flatten = buffer →
        feed limit parse? {} pieces = ((messages.map heard).map .ok, some {}) := by
  refine ⟨lines (messages.map toJson), ?_, fun pieces hpieces => ?_⟩
  · rw [writeLines_of_le (List.forall_mem_map.mpr hfits), List.nil_append]
  · exact feed_lines toJson heard hspoken hfits hpieces

end Heard

/-- **What is sent is heard.** Requests within the limit that are written one behind the other are
heard by a reader of the same limit, in whatever pieces the bytes arrive: each is read in its two
steps as the request that was written, in order, without an error, and no byte is left. So are the
answers of either kind. A message above the limit is not written and leaves the buffer as it
was. -/
theorem sent_is_heard (limit : Nat) :
    (∀ requests : List TunnelRequest,
      (∀ request ∈ requests, request.toJson.print.length ≤ limit) →
      ∃ buffer, writeLines limit [] (requests.map TunnelRequest.toJson) = (.ok (), buffer) ∧
        ∀ pieces : List Bytes, pieces.flatten = buffer →
          ∃ raws : List RawRequest,
            feed limit RawRequest.parse? {} pieces = (raws.map .ok, some {}) ∧
              raws.map RawRequest.decode = requests.map .ok) ∧
    (∀ answers : List HttpTunnelAnswer,
      (∀ answer ∈ answers, answer.toJson.print.length ≤ limit) →
      ∃ buffer, writeLines limit [] (answers.map HttpTunnelAnswer.toJson) = (.ok (), buffer) ∧
        ∀ pieces : List Bytes, pieces.flatten = buffer →
          feed limit HttpTunnelAnswer.parse? {} pieces = (answers.map .ok, some {})) ∧
    (∀ answers : List TcpTunnelAnswer,
      (∀ answer ∈ answers, answer.toJson.print.length ≤ limit) →
      ∃ buffer, writeLines limit [] (answers.map TcpTunnelAnswer.toJson) = (.ok (), buffer) ∧
        ∀ pieces : List Bytes, pieces.flatten = buffer →
          feed limit TcpTunnelAnswer.parse? {} pieces = (answers.map .ok, some {})) ∧
    ∀ (buffer : Bytes) (message : Value), limit < message.print.length →
      writeLine limit buffer message = (.error (.tooLarge message.print.length), buffer) := by
  refine ⟨?_, ?_, ?_, ?_⟩
  · intro requests hfits
    obtain ⟨buffer, hwritten, hheard⟩ := written_is_heard TunnelRequest.toJson TunnelRequest.raw
      (fun request _ => request.spoken) hfits
    refine ⟨buffer, hwritten, fun pieces hpieces => ⟨_, hheard pieces hpieces, ?_⟩⟩
    rw [List.map_map]
    refine List.map_congr_left fun request _ => ?_
    rw [Function.comp_apply, request.decode_raw]
  · intro answers hfits
    simpa only [List.map_id] using written_is_heard HttpTunnelAnswer.toJson id
      (fun answer _ => answer.spoken) hfits
  · intro answers hfits
    simpa only [List.map_id] using written_is_heard TcpTunnelAnswer.toJson id
      (fun answer _ => answer.spoken) hfits
  · intro buffer message hlarge
    exact writeLine_of_gt hlarge

/-- A request of 76 bytes with a label that needs escapes, and a shorter one. -/
def spokenRequests : List TunnelRequest :=
  [.http { authtoken := "t", subdomain := "d\n\"é", allowPath := ["/a", ""] },
    .tcp { authtoken := "", remotePort := 22 }]

/-- An answer of each kind for a name. -/
def spokenNames : List HttpTunnelAnswer :=
  [.granted "demo" "http://demo.t", .rejected ⟨.unknown, "no"⟩]

/-- An answer of each kind for a port. -/
def spokenPorts : List TcpTunnelAnswer := [.granted 22, .rejected ⟨.rateLimited, ""⟩]

/-- A request of 77 bytes. -/
def longRequest : TunnelRequest :=
  .http { authtoken := "to", subdomain := "d\n\"é", allowPath := ["/a", ""] }

/-- With a limit of 76 bytes, a text that arrives in two pieces around an empty one is heard, and
a request of 77 bytes is not written. -/
theorem sent_is_heard_in_pieces :
    (∃ (buffer : Bytes) (raws : List RawRequest),
      writeLines 76 [] (spokenRequests.map TunnelRequest.toJson) = (.ok (), buffer) ∧
        feed 76 RawRequest.parse? {} [buffer.take 50, [], buffer.drop 50] =
          (raws.map .ok, some {}) ∧
        raws.map RawRequest.decode = spokenRequests.map .ok) ∧
      (∃ buffer, writeLines 76 [] (spokenNames.map HttpTunnelAnswer.toJson) = (.ok (), buffer) ∧
        feed 76 HttpTunnelAnswer.parse? {} [buffer.take 50, [], buffer.drop 50] =
          (spokenNames.map .ok, some {})) ∧
      (∃ buffer, writeLines 76 [] (spokenPorts.map TcpTunnelAnswer.toJson) = (.ok (), buffer) ∧
        feed 76 TcpTunnelAnswer.parse? {} [buffer.take 50, [], buffer.drop 50] =
          (spokenPorts.map .ok, some {})) ∧
      writeLine 76 [0x0A] longRequest.toJson =
        (.error (.tooLarge longRequest.toJson.print.length), [0x0A]) := by
  have ⟨requests, names, ports, refused⟩ := sent_is_heard 76
  have hpieces (buffer : Bytes) : [buffer.take 50, [], buffer.drop 50].flatten = buffer := by
    simp
  obtain ⟨buffer, hwritten, hheard⟩ := requests spokenRequests (by decide +kernel)
  obtain ⟨raws, hraws, hdecoded⟩ := hheard _ (hpieces buffer)
  obtain ⟨buffer', hwritten', hheard'⟩ := names spokenNames (by decide +kernel)
  obtain ⟨buffer'', hwritten'', hheard''⟩ := ports spokenPorts (by decide +kernel)
  exact ⟨⟨buffer, raws, hwritten, hraws, hdecoded⟩, ⟨buffer', hwritten', hheard' _ (hpieces _)⟩,
    ⟨buffer'', hwritten'', hheard'' _ (hpieces _)⟩, refused _ _ (by decide +kernel)⟩

end ReverseTunnel
