import ReverseTunnel.Client.Request
import ReverseTunnel.Proofs.Control.Receive
import ReverseTunnel.Proofs.Server.Grounds

/-!
# What a client makes of an answer

A server that cannot tell what it was asked for answers as if it had been asked for a port, so a
client may be told of its failure in the words of either kind of answer. What is told then must not
depend on the words: the reason, and with it whether asking again may help.

An answer is a record, and a record is written as an object or as an array. What stands in it under
a name is said in `Holds`, for both; the rest is about records.

## Main results

* `HttpTunnelAnswer.spoken_tcp`, `TcpTunnelAnswer.spoken_http`: each kind of answer is read as the
  other one, with the same reason.
* `grantOf_of_text`: what is granted depends on the text of the answer alone.
* `errorParts_of_holds`: the message and the kind that an answer holds.
* `answers_understood`: all that a client makes of an answer.
-/

namespace ReverseTunnel

open Json Server

/-! ### Answers read as those of the other kind -/

section

variable {names : List String} {slots : Slots}

/-- The name of a slot is looked for. -/
theorem mem_named_of_mem {name : String} {value? : Option Value} (h : (name, value?) ∈ slots)
    (hname : name ∈ names) : (name, value?) ∈ slots.named names :=
  mem_named.mpr ⟨h, hname⟩

/-- A name that no slot has is not found among those that are looked for either. -/
theorem not_mem_named {name : String} (h : name ∉ slots.map Prod.fst) :
    name ∉ (slots.named names).map Prod.fst := fun hmem =>
  h ((List.filter_sublist.map Prod.fst).subset hmem)

end

/-- What an answer for a port says to somebody who asked for a name. -/
theorem HttpTunnelAnswer.spoken_tcp (a : TcpTunnelAnswer) :
    Spoken HttpTunnelAnswer.parse? a.toJson
      { kind := a.kind, error := a.error, errorKind := a.errorKind } := by
  have hwritable := a.writable_toJson
  rw [a.toJson_eq] at hwritable ⊢
  refine .of_object hwritable ?_
  have hnames := nodup_named a.nodup_slots ["type", "id", "url", "error", "error_kind"]
  rw [parse?, Tree.parse?_print hwritable, Option.bind_some, ofTree?,
    readRecord_object a.nodup_slots, Option.bind_eq_bind, Option.bind_some,
    readKind_written hnames a.kind (mem_named_of_mem (by simp [TcpTunnelAnswer.slots]) (by simp)),
    readField_of_not_mem (not_mem_named (by simp [TcpTunnelAnswer.slots])),
    readField_of_not_mem (not_mem_named (by simp [TcpTunnelAnswer.slots])),
    readError_written hnames a.error
      (mem_named_of_mem (by simp [TcpTunnelAnswer.slots]) (by simp)),
    readErrorKind_written hnames a.errorKind
      (mem_named_of_mem (by simp [TcpTunnelAnswer.slots]) (by simp))]
  rfl

/-- What an answer for a name says to somebody who asked for a port. -/
theorem TcpTunnelAnswer.spoken_http (a : HttpTunnelAnswer) :
    Spoken TcpTunnelAnswer.parse? a.toJson
      { kind := a.kind, error := a.error, errorKind := a.errorKind } := by
  have hwritable := a.writable_toJson
  rw [a.toJson_eq] at hwritable ⊢
  refine .of_object hwritable ?_
  have hnames := nodup_named a.nodup_slots ["type", "remote_port", "error", "error_kind"]
  rw [parse?, Tree.parse?_print hwritable, Option.bind_some, ofTree?,
    readRecord_object a.nodup_slots, Option.bind_eq_bind, Option.bind_some,
    readKind_written hnames a.kind (mem_named_of_mem (by simp [HttpTunnelAnswer.slots]) (by simp)),
    readField_of_not_mem (not_mem_named (by simp [HttpTunnelAnswer.slots])),
    readError_written hnames a.error
      (mem_named_of_mem (by simp [HttpTunnelAnswer.slots]) (by simp)),
    readErrorKind_written hnames a.errorKind
      (mem_named_of_mem (by simp [HttpTunnelAnswer.slots]) (by simp))]
  rfl

/-! ### What stands in a record -/

/-- Whether a record has a value under a name. In an array the names stand in order. -/
inductive Holds (names : List String) (name : String) (value : Tree) : Tree → Prop
  | object {fields : List (Bytes × Tree)} {key : Bytes} (hmem : (key, value) ∈ fields)
      (hkey : unescape? key = some name) : Holds names name value (.object fields)
  | array {items : List Tree} (hmem : (name, value) ∈ names.zip items) :
      Holds names name value (.array items)

section

variable {α β : Type}

/-- What is in a mapped list is what the elements are mapped to. -/
theorem mem_of_mapM_eq_some {f : α → Option β} {xs : List α} {ys : List β}
    (h : xs.mapM f = some ys) {y : β} : y ∈ ys ↔ ∃ x ∈ xs, f x = some y := by
  induction xs generalizing ys with
  | nil =>
    obtain rfl : [] = ys := Option.some.inj h
    simp
  | cons x xs ih =>
    simp only [List.mapM_cons, bind, Option.bind_eq_some_iff] at h
    obtain ⟨first, hfirst, rest, hrest, heq⟩ := h
    obtain rfl : first :: rest = ys := Option.some.inj heq
    simp [ih hrest, hfirst, eq_comm]

/-- What is found only once is found first. -/
theorem find?_of_countP_le_one {p : α → Bool} {xs : List α} (hcount : xs.countP p ≤ 1) {x : α}
    (hmem : x ∈ xs) (hx : p x = true) : xs.find? p = some x := by
  induction xs with
  | nil => exact absurd hmem List.not_mem_nil
  | cons y xs ih =>
    rcases hy : p y with _ | _
    · rw [List.find?_cons_of_neg (by simp [hy])]
      rw [List.countP_cons_of_neg (by simp [hy])] at hcount
      rcases List.mem_cons.mp hmem with rfl | hmem
      · exact absurd (hx.symm.trans hy) (by decide)
      · exact ih hcount hmem
    · rw [List.find?_cons_of_pos hy]
      rw [List.countP_cons_of_pos hy] at hcount
      rcases List.mem_cons.mp hmem with rfl | hmem
      · rfl
      · have hpositive : 0 < xs.countP p := List.countP_pos_iff.mpr ⟨x, hmem, hx⟩
        omega

variable {names : List String} {name : String} {known : List (String × Tree)} {tree : Tree}

/-- What is read of an object. -/
theorem eq_of_readRecord_object {fields : List (Bytes × Tree)}
    (h : readRecord names (.object fields) = some known) :
    ∃ named, (fields.mapM fun (key, tree) => do some (← unescape? key, tree)) = some named ∧
      known = named.filter (fun field => names.contains field.1) ∧
      ∀ name ∈ names, known.countP (·.1 == name) ≤ 1 := by
  simp only [readRecord, bind, Option.bind_eq_some_iff] at h
  obtain ⟨named, hnamed, h⟩ := h
  obtain ⟨hcount, heq⟩ := Option.ite_none_right_eq_some.mp h
  obtain rfl := Option.some.inj heq
  refine ⟨named, hnamed, rfl, fun name hname => ?_⟩
  exact of_decide_eq_true (List.all_eq_true.mp hcount name hname)

/-- What is read of an array. -/
theorem eq_of_readRecord_array {items : List Tree}
    (h : readRecord names (.array items) = some known) : known = names.zip items :=
  (Option.some.inj (Option.ite_none_right_eq_some.mp h).2).symm

/-- What is read of a record is what stands in it. -/
theorem mem_of_readRecord (h : readRecord names tree = some known) (hname : name ∈ names)
    {value : Tree} : (name, value) ∈ known ↔ Holds names name value tree := by
  cases tree with
  | object fields =>
    obtain ⟨named, hnamed, rfl, -⟩ := eq_of_readRecord_object h
    rw [List.mem_filter, mem_of_mapM_eq_some hnamed]
    constructor
    · rintro ⟨⟨⟨key, tree⟩, hmem, hread⟩, -⟩
      simp only [bind, Option.bind_eq_some_iff, Option.some.injEq, Prod.mk.injEq] at hread
      obtain ⟨_, hkey, rfl, rfl⟩ := hread
      exact .object hmem hkey
    · rintro (⟨hmem, hkey⟩ | _)
      exact ⟨⟨_, hmem, by simp [hkey]⟩, List.contains_iff_mem.mpr hname⟩
  | array items =>
    rw [eq_of_readRecord_array h]
    constructor
    · exact .array
    · rintro (_ | hmem)
      exact hmem
  | null | bool | number | string => cases h

/-- No name stands twice in what is read. -/
theorem countP_of_readRecord (h : readRecord names tree = some known) (hnames : names.Nodup)
    (hname : name ∈ names) : known.countP (·.1 == name) ≤ 1 := by
  cases tree with
  | object fields =>
    obtain ⟨_, _, _, hcount⟩ := eq_of_readRecord_object h
    exact hcount name hname
  | array items =>
    rw [eq_of_readRecord_array h]
    have hsublist : ((names.zip items).map Prod.fst).Sublist names := by
      rw [List.zip_eq_zip_take_min, List.map_fst_zip (by simp)]
      exact List.take_sublist _ _
    have hcount := List.nodup_iff_count.mp (hnames.sublist hsublist) name
    rwa [List.count, List.countP_map] at hcount
  | null | bool | number | string => cases h

/-- **The value of a field is what the record holds under its name.** -/
theorem readField_of_holds (h : readRecord names tree = some known) (hnames : names.Nodup)
    (hname : name ∈ names) {value : Tree} (hholds : Holds names name value tree) (default : α)
    (read : Tree → Option α) : readField known name default read = read value := by
  have hmem := (mem_of_readRecord h hname).mpr hholds
  rw [readField, find?_of_countP_le_one (countP_of_readRecord h hnames hname) hmem
    (beq_self_eq_true name)]

/-- A field that is not there is read as its default. -/
theorem readField_of_not_holds (h : readRecord names tree = some known) (hname : name ∈ names)
    (hnone : ∀ value, ¬ Holds names name value tree) (default : α) (read : Tree → Option α) :
    readField known name default read = some default := by
  have hfind : known.find? (·.1 == name) = none := by
    rw [List.find?_eq_none]
    rintro ⟨other, value⟩ hmem hother
    obtain rfl : other = name := beq_iff_eq.mp hother
    exact hnone value ((mem_of_readRecord h hname).mp hmem)
  rw [readField, hfind]

end

/-! ### What stands in an answer -/

namespace Client

/-- The fields of an answer to a request for this kind of tunnel. -/
def fieldNames : TunnelKind → List String
  | .http => ["type", "id", "url", "error", "error_kind"]
  | .tcp => ["type", "remote_port", "error", "error_kind"]

/-- What a text says to a client that asked for this kind of tunnel. -/
def answer? (kind : TunnelKind) (text : Bytes) : Option Answer :=
  match kind with
  | .http => (HttpTunnelAnswer.parse? text).map .http
  | .tcp => (TcpTunnelAnswer.parse? text).map .tcp

/-- The tag of the kind of failure that a record holds, if it holds one. -/
inductive Tagged (names : List String) (record : Tree) : Option String → Prop
  | absent (h : ∀ value, ¬ Holds names "error_kind" value record) : Tagged names record none
  | null (h : Holds names "error_kind" .null record) : Tagged names record none
  | tag {value : Tree} {tag : String} (h : Holds names "error_kind" value record)
      (htag : readTag value = some tag) : Tagged names record (some tag)

section

variable {kind : TunnelKind} {text reply : Bytes} {answer : Answer} {record : Tree}
  {message : String}

/-- The error fields of an answer are those of its record. -/
theorem errorFields_of_answer (h : answer? kind text = some answer)
    (hrecord : Tree.parse? text = some record) :
    ∃ known, readRecord (fieldNames kind) record = some known ∧
      readField known "error" none (readOptional readString) = some (errorParts answer).1 ∧
      readField known "error_kind" none (readOptional fun t => (readTag t).map .ofTag) =
        some (errorParts answer).2 := by
  cases kind with
  | http =>
    obtain ⟨a, ha, rfl⟩ := Option.map_eq_some_iff.mp h
    simp only [HttpTunnelAnswer.parse?, hrecord, Option.bind_some, HttpTunnelAnswer.ofTree?, bind,
      Option.bind_eq_some_iff] at ha
    obtain ⟨known, hknown, _, -, _, -, _, -, error, herror, errorKind, herrorKind, heq⟩ := ha
    obtain rfl := Option.some.inj heq
    exact ⟨known, hknown, herror, herrorKind⟩
  | tcp =>
    obtain ⟨a, ha, rfl⟩ := Option.map_eq_some_iff.mp h
    simp only [TcpTunnelAnswer.parse?, hrecord, Option.bind_some, TcpTunnelAnswer.ofTree?, bind,
      Option.bind_eq_some_iff] at ha
    obtain ⟨known, hknown, _, -, _, -, error, herror, errorKind, herrorKind, heq⟩ := ha
    obtain rfl := Option.some.inj heq
    exact ⟨known, hknown, herror, herrorKind⟩

/-- A value that is read is not `null`. -/
theorem readOptional_of_read {α : Type} {read : Tree → Option α} {value : Tree} {a : α}
    (hnull : read .null = none) (h : read value = some a) :
    readOptional read value = some (some a) := by
  rw [readOptional, h]
  · rfl
  · rintro rfl
    rw [hnull] at h
    cases h

/-- **The message and the kind of failure that an answer holds.** -/
theorem errorParts_of_holds (h : answer? kind text = some answer)
    (hrecord : Tree.parse? text = some record) {raw : Bytes} {tag? : Option String}
    (hmessage : Holds (fieldNames kind) "error" (.string raw) record)
    (hraw : unescape? raw = some message) (htag : Tagged (fieldNames kind) record tag?) :
    errorParts answer = (some message, tag?.map .ofTag) := by
  obtain ⟨known, hknown, herror, herrorKind⟩ := errorFields_of_answer h hrecord
  have hnames : (fieldNames kind).Nodup := by cases kind <;> decide
  have hname : "error" ∈ fieldNames kind ∧ "error_kind" ∈ fieldNames kind := by
    cases kind <;> decide
  rw [readField_of_holds hknown hnames hname.1 hmessage, readOptional_of_read rfl hraw] at herror
  refine Prod.ext (Option.some.inj herror).symm ?_
  cases htag with
  | absent hnone =>
    rw [readField_of_not_holds hknown hname.2 hnone] at herrorKind
    exact (Option.some.inj herrorKind).symm
  | null hholds =>
    rw [readField_of_holds hknown hnames hname.2 hholds] at herrorKind
    exact (Option.some.inj herrorKind).symm
  | @tag value tag hholds htag =>
    have hread : ((readTag value).map .ofTag : Option Rejection.Kind) = some (.ofTag tag) := by
      rw [htag]
      rfl
    rw [readField_of_holds hknown hnames hname.2 hholds, readOptional_of_read rfl hread]
      at herrorKind
    exact (Option.some.inj herrorKind).symm

/-! ### What an answer grants -/

/-- What a client makes of an answer. -/
def grantOfAnswer : Answer → Except TunnelError Grant
  | .http answer => nameOf answer
  | .tcp answer => portOf answer

/-- The text of a reply is read, whatever it is read as. -/
theorem readAnswer_eq {α : Type} (parse? : Bytes → Option α) (reply : Bytes) :
    readAnswer parse? reply =
      readAnswer some reply >>= fun text => (parse? text).elim (.error (.line (.json ""))) .ok := by
  rw [readAnswer, readAnswer, Received.ofStream_eq]
  rcases Received.ofStream some reply true with text | e | _ | _
  · rw [Received.readAs]
    cases hparsed : parse? text <;> simp [bind, Except.bind, hparsed]
  · rfl
  · rfl
  · rfl

/-- **What is granted depends on the text of the reply alone.** -/
theorem grantOf_eq (kind : TunnelKind) (reply : Bytes) :
    grantOf kind reply = readAnswer some reply >>= fun text =>
      (answer? kind text).elim (.error (.line (.json ""))) grantOfAnswer := by
  cases kind with
  | http =>
    rw [grantOf, readAnswer_eq]
    rcases readAnswer some reply with e | text
    · rfl
    · simp only [bind, Except.bind, answer?]
      cases HttpTunnelAnswer.parse? text <;> rfl
  | tcp =>
    rw [grantOf, readAnswer_eq]
    rcases readAnswer some reply with e | text
    · rfl
    · simp only [bind, Except.bind, answer?]
      cases TcpTunnelAnswer.parse? text <;> rfl

/-- What a client makes of a reply depends only on the answer that its text says. -/
theorem grantOf_of_text (htext : readAnswer some reply = .ok text)
    (h : answer? kind text = some answer) : grantOf kind reply = grantOfAnswer answer := by
  rw [grantOf_eq, htext]
  simp only [bind, Except.bind, h, Option.elim]

/-- A client that was granted anything has read a text, and an answer in it. -/
theorem text_of_grantOf {grant : Grant} (h : grantOf kind reply = .ok grant) :
    ∃ text answer, readAnswer some reply = .ok text ∧ answer? kind text = some answer ∧
      grantOfAnswer answer = .ok grant := by
  rw [grantOf_eq] at h
  rcases htext : readAnswer some reply with e | text
  · rw [htext] at h
    cases h
  rw [htext] at h
  simp only [bind, Except.bind] at h
  rcases hanswer : answer? kind text with _ | answer
  · rw [hanswer] at h
    cases h
  · rw [hanswer] at h
    exact ⟨text, answer, rfl, hanswer, h⟩

/-- What is made of an answer for a name: the error of a rejection, and otherwise the grant if there
is a name. -/
theorem nameOf_eq (answer : HttpTunnelAnswer) :
    nameOf answer = match answer.result with
      | .error r => .error (.rejected r)
      | .ok answer =>
        if Text.blank answer.id || Text.blank answer.url then .error .invalidAnswer
        else .ok (.name answer) := by
  rw [nameOf]
  rcases answer.result with r | answer
  · rfl
  · rfl

/-- What is made of an answer for a port: the error of a rejection, and otherwise the grant if there
is a port. -/
theorem portOf_eq (answer : TcpTunnelAnswer) :
    portOf answer = match answer.result with
      | .error r => .error (.rejected r)
      | .ok answer =>
        if answer.remotePort = 0 then .error .invalidAnswer else .ok (.port answer.remotePort) := by
  rw [portOf]
  rcases answer.result with r | answer
  · rfl
  · rfl

/-- An answer with a message in it is a rejection. -/
theorem grantOfAnswer_of_message (h : (errorParts answer).1 = some message)
    (hsome : message.isEmpty = false) :
    grantOfAnswer answer = .error (.rejected (.ofParts message (errorParts answer).2)) := by
  rcases answer with ⟨kind, id, url, error, errorKind⟩ | ⟨kind, port, error, errorKind⟩
  · obtain rfl : error = some message := h
    simp [grantOfAnswer, nameOf_eq, HttpTunnelAnswer.result, rejection?, hsome, errorParts]
  · obtain rfl : error = some message := h
    simp [grantOfAnswer, portOf_eq, TcpTunnelAnswer.result, rejection?, hsome, errorParts]

/-- What can be granted by an answer: a name with an id and a URL, or a port. -/
inductive Grants : Answer → Grant → Prop
  | name {a : HttpTunnelAnswer} (hid : Text.blank a.id = false) (hurl : Text.blank a.url = false) :
      Grants (.http a) (.name a)
  | port {a : TcpTunnelAnswer} (hport : a.remotePort ≠ 0) : Grants (.tcp a) (.port a.remotePort)

/-- An answer without a message is taken as it is. -/
theorem grantOfAnswer_of_no_message {grant : Grant}
    (h : ∀ message, (errorParts answer).1 = some message → message.isEmpty = true)
    (hgrants : Grants answer grant) : grantOfAnswer answer = .ok grant := by
  have hnone : rejection? (errorParts answer).1 (errorParts answer).2 = none := by
    rcases herror : (errorParts answer).1 with _ | message
    · rfl
    · simp [rejection?, h message herror]
  cases hgrants with
  | @name a hid hurl =>
    have hnone : rejection? a.error a.errorKind = none := hnone
    have hresult : a.result = .ok a := by rw [HttpTunnelAnswer.result, hnone]
    simp [grantOfAnswer, nameOf_eq, hresult, hid, hurl]
  | @port a hport =>
    have hnone : rejection? a.error a.errorKind = none := hnone
    have hresult : a.result = .ok a := by rw [TcpTunnelAnswer.result, hnone]
    simp [grantOfAnswer, portOf_eq, hresult, hport]

/-! ### What a client makes of what the server wrote -/

/-- An answer as a client hears it that asked for this kind of tunnel. -/
def heardAs : TunnelKind → Answer → Answer
  | .http, .tcp a => .http { kind := a.kind, error := a.error, errorKind := a.errorKind }
  | .tcp, .http a => .tcp { kind := a.kind, error := a.error, errorKind := a.errorKind }
  | _, answer => answer

/-- Whichever words an answer is taken to be in, its error is the same. -/
theorem errorParts_heardAs (kind : TunnelKind) (answer : Answer) :
    errorParts (heardAs kind answer) = errorParts answer := by
  cases kind <;> cases answer <;> rfl

/-- An answer that is taken to be in its own words is taken as it is. -/
theorem heardAs_schema (answer : Answer) : heardAs answer.schema answer = answer := by
  cases answer <;> rfl

/-- A line that could be written is the text of its value and a newline, and the text is not too
long. -/
theorem line_of_encodeLine {json : Value} {line : Bytes}
    (h : encodeLine maxMessageLength json = .ok line) :
    line = json.print ++ [Bytes.newline] ∧ json.print.length ≤ maxMessageLength := by
  simp only [encodeLine] at h
  split at h
  · cases h
  · rename_i hfits
    exact ⟨(Except.ok.inj h).symm, Nat.le_of_not_lt hfits⟩

/-- A line that could be written is read as what it was written from. -/
theorem readAnswer_of_encodeLine {α : Type} {parse? : Bytes → Option α} {json : Value} {heard : α}
    (hspoken : Spoken parse? json heard) {line : Bytes}
    (h : encodeLine maxMessageLength json = .ok line) : readAnswer parse? line = .ok heard := by
  obtain ⟨rfl, hfits⟩ := line_of_encodeLine h
  rw [readAnswer, Received.ofStream_of_spoken hspoken hfits]

/-- **What an answer of the server grants**, in whatever words it is given. -/
theorem grantOf_of_encodeLine {line : Bytes}
    (h : encodeLine maxMessageLength answer.toJson = .ok line) :
    grantOf kind line = grantOfAnswer (heardAs kind answer) := by
  cases kind with
  | http =>
    cases answer with
    | http a =>
      simp [grantOf, readAnswer_of_encodeLine a.spoken h, bind, Except.bind, grantOfAnswer, heardAs]
    | tcp a =>
      simp [grantOf, readAnswer_of_encodeLine (HttpTunnelAnswer.spoken_tcp a) h, bind, Except.bind,
        grantOfAnswer, heardAs]
  | tcp =>
    cases answer with
    | http a =>
      simp [grantOf, readAnswer_of_encodeLine (TcpTunnelAnswer.spoken_http a) h, bind, Except.bind,
        grantOfAnswer, heardAs]
    | tcp a =>
      simp [grantOf, readAnswer_of_encodeLine a.spoken h, bind, Except.bind, grantOfAnswer, heardAs]

/-- A client that is sent the line of an answer sends its request, and makes of the answer what it
says in the words of the request. -/
theorem requestTunnel_of_encodeLine {request : TunnelRequest} {asked line : Bytes}
    (hasked : requestLine request = .ok asked)
    (h : encodeLine maxMessageLength answer.toJson = .ok line) :
    requestTunnel (.sends line) request =
      (asked, grantOfAnswer (heardAs request.kind answer)) := by
  simp only [requestTunnel, hasked]
  rw [grantOf_of_encodeLine h]

end

/-! ### Kinds of failures -/

/-- The messages that tell by themselves that asking again may help. -/
def passingMessages : List String :=
  ["too many active tunnels", "rate limit exceeded", "requested port unavailable"]

/-- Of an error without a tag, its message alone decides whether it passes. -/
theorem retryable_ofMessage_iff (message : String) :
    (Rejection.Kind.ofMessage message).retryable = true ↔
      Text.trim message ∈ passingMessages := by
  have htold : ∀ kind ∈ Rejection.Kind.told,
      kind.retryable = true ↔ kind.message ∈ passingMessages := by decide
  have hpassing : ∀ text ∈ passingMessages, ∃ kind ∈ Rejection.Kind.told, kind.message = text := by
    decide
  rw [Rejection.Kind.ofMessage]
  rcases hfound : Rejection.Kind.told.find? (·.message == Text.trim message) with _ | kind
  · have hnot : ∀ kind ∈ Rejection.Kind.told, kind.message ≠ Text.trim message := by
      simpa using hfound
    refine iff_of_false (by rw [hfound]; decide) fun hmem => ?_
    obtain ⟨kind, hkind, heq⟩ := hpassing _ hmem
    exact hnot kind hkind heq
  · have hmessage : kind.message = Text.trim message := by
      simpa using List.find?_some hfound
    rw [hfound, Option.getD_some, htold kind (List.mem_of_find?_eq_some hfound), hmessage]

/-- A tag is that of a kind, or stands for none that is known. -/
theorem ofTag_cases (tag : String) :
    (∃ kind : Rejection.Kind, kind.tag = tag ∧ Rejection.Kind.ofTag tag = kind) ∨
      (∀ kind : Rejection.Kind, kind.tag ≠ tag) ∧ Rejection.Kind.ofTag tag = .unknown := by
  by_cases hknown : ∃ kind : Rejection.Kind, kind.tag = tag
  · obtain ⟨kind, rfl⟩ := hknown
    exact .inl ⟨kind, rfl, kind.ofTag_tag⟩
  · have hnot : ∀ kind : Rejection.Kind, kind.tag ≠ tag := fun kind heq => hknown ⟨kind, heq⟩
    have hnone : Rejection.Kind.all.find? (·.tag == tag) = none := by
      simpa using fun kind _ => hnot kind
    exact .inr ⟨hnot, by rw [Rejection.Kind.ofTag, hnone, Option.getD_none]⟩

/-! ### All that a client makes of an answer -/

/-- What a client that asks for this kind of tunnel makes of the answer. -/
structure Understands (kind : TunnelKind) : Prop where
  /-- A rejection is understood as it was meant, in the words of either kind of answer, and so is
  whether asking again may help. -/
  rejection : ∀ (words : Option TunnelKind) (r : Rejection) (request : TunnelRequest)
    (asked line : Bytes), request.kind = kind → requestLine request = .ok asked →
    r.message.isEmpty = false →
    encodeLine maxMessageLength (Answer.rejected words r).toJson = .ok line →
    requestTunnel (.sends line) request = (asked, .error (.rejected r)) ∧
      (TunnelError.rejected r).retryable = r.retryable
  /-- Whoever sent it, an answer with a message in it is a rejection for the reason that it gives.
  If it gives none, the message tells the reason. -/
  message : ∀ (reply text : Bytes) (answer : Answer) (message : String),
    readAnswer some reply = .ok text → answer? kind text = some answer →
    (errorParts answer).1 = some message → message.isEmpty = false →
    grantOf kind reply = .error (.rejected
      ⟨(errorParts answer).2.getD (.ofMessage message), message⟩)
  /-- The reason is given by a tag in the record that was sent. -/
  reason : ∀ (text : Bytes) (record : Tree) (answer : Answer) (raw : Bytes) (message : String)
    (tag? : Option String), Tree.parse? text = some record → answer? kind text = some answer →
    Holds (fieldNames kind) "error" (.string raw) record → unescape? raw = some message →
    Tagged (fieldNames kind) record tag? →
    errorParts answer = (some message, tag?.map .ofTag)
  /-- Tags that are not known all stand for one reason, for which it does not help to ask again. -/
  tags : ∀ tag : String,
    (∃ known : Rejection.Kind, known.tag = tag ∧ Rejection.Kind.ofTag tag = known) ∨
      (∀ known : Rejection.Kind, known.tag ≠ tag) ∧ Rejection.Kind.ofTag tag = .unknown ∧
        (Rejection.Kind.ofTag tag).retryable = false
  /-- Of the reasons that a message tells, asking again helps for three. -/
  untagged : ∀ message : String, (Rejection.Kind.ofMessage message).retryable = true ↔
    Text.trim message ∈ passingMessages
  /-- What has a message in it is never a success. -/
  success : ∀ (reply : Bytes) (grant : Grant), grantOf kind reply = .ok grant →
    ∃ text answer, readAnswer some reply = .ok text ∧ answer? kind text = some answer ∧
      ∀ message, (errorParts answer).1 = some message → message.isEmpty = true
  /-- What has none and grants something is taken as it is. -/
  grants : ∀ (reply text : Bytes) (answer : Answer) (grant : Grant),
    readAnswer some reply = .ok text → answer? kind text = some answer →
    (∀ message, (errorParts answer).1 = some message → message.isEmpty = true) →
    Grants answer grant → grantOf kind reply = .ok grant
  /-- So is what the server grants. -/
  granted : ∀ (answer : Answer) (grant : Grant) (request : TunnelRequest) (asked line : Bytes),
    request.kind = kind → answer.schema = kind → requestLine request = .ok asked →
    encodeLine maxMessageLength answer.toJson = .ok line →
    (∀ message, (errorParts answer).1 = some message → message.isEmpty = true) →
    Grants answer grant → requestTunnel (.sends line) request = (asked, .ok grant)

/-- **Answers mean the same to either end.** A rejection that the server writes, in the words of
either kind of tunnel, is understood for the reason and with the message that it was meant with. So
is an answer of another server that has a message in it, and no such answer is ever taken for a
success. An answer without one is taken as it is. -/
theorem answers_understood (kind : TunnelKind) : Understands kind := by
  constructor
  case rejection =>
    rintro words r request asked line rfl hasked hsome hline
    refine ⟨?_, rfl⟩
    have hparts : errorParts (heardAs request.kind (.rejected words r)) =
        (some r.message, some r.kind) := by
      rw [errorParts_heardAs, errorParts_rejected]
    rw [requestTunnel_of_encodeLine hasked hline,
      grantOfAnswer_of_message (congrArg Prod.fst hparts) hsome, hparts]
    rfl
  case message =>
    intro reply text answer message htext hanswer hmessage hsome
    rw [grantOf_of_text htext hanswer, grantOfAnswer_of_message hmessage hsome]
    rfl
  case reason =>
    intro text record answer raw message tag? hrecord hanswer hmessage hraw htag
    exact errorParts_of_holds hanswer hrecord hmessage hraw htag
  case tags =>
    intro tag
    rcases ofTag_cases tag with hknown | ⟨hnot, hunknown⟩
    · exact .inl hknown
    · exact .inr ⟨hnot, hunknown, by rw [hunknown]; rfl⟩
  case untagged => exact retryable_ofMessage_iff
  case success =>
    intro reply grant hgrant
    obtain ⟨text, answer, htext, hanswer, hok⟩ := text_of_grantOf hgrant
    refine ⟨text, answer, htext, hanswer, fun message hmessage => ?_⟩
    by_contra hsome
    rw [grantOfAnswer_of_message hmessage (by simpa using hsome)] at hok
    cases hok
  case grants =>
    intro reply text answer grant htext hanswer hnone hgrants
    rw [grantOf_of_text htext hanswer]
    exact grantOfAnswer_of_no_message hnone hgrants
  case granted =>
    rintro answer grant request asked line rfl hschema hasked hline hnone hgrants
    rw [requestTunnel_of_encodeLine hasked hline, ← hschema, heardAs_schema,
      grantOfAnswer_of_no_message hnone hgrants]

end Client

end ReverseTunnel
