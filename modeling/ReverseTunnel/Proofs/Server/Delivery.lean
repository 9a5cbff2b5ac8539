import ReverseTunnel.Proofs.Control.Message
import ReverseTunnel.Proofs.Json.Width
import ReverseTunnel.Proofs.Policy.Reporting
import ReverseTunnel.Proofs.Server.Alone
import ReverseTunnel.Proofs.Text.Normal

/-!
# Rejections on their way

A session that turns its client down says so once, and its client hears it if it listens and if
the line is not too long for the channel. Most rejections are ready-made (`stock`) and short. The
rejection of a policy shows the text that is refused, as a quoted text inside a JSON string, and
that may cost seven times the bytes of the text: a request that fits into a line can be turned
down by an answer that does not, and then its client is told nothing.

## Main results

* `size_le_of_mem_stock`: ready-made rejections are short.
* `long_text_of_size`: a long rejection shows a long text.
* `rejections_are_heard_iff_short`: what is said is heard exactly if it fits.
* `not_reports`: a request that fits, and whose rejection does not.
-/

namespace ReverseTunnel.Server

open Json

/-! ### Ready-made rejections -/

/-- The rejections that say nothing of the request. -/
def stock : List Rejection :=
  Rejection.Kind.all.map .plain ++ [
    ⟨.invalidRequest, "invalid subdomain"⟩, ⟨.invalidRequest, "invalid domain"⟩,
    ⟨.invalidRequest, "invalid tcp port range"⟩, ⟨.invalidRequest, "requested port out of range"⟩,
    ⟨.allocationFailed, "failed to reserve subdomain"⟩,
    ⟨.allocationFailed, "failed to reserve port"⟩]

/-- Whether a policy was refused. -/
def AboutPolicy (raw : RawRequest) (r : Rejection) : Prop :=
  ∃ request e, raw.decode = .ok (.http request) ∧ Policy.ofRequest request = .error e ∧
    r = e.toRejection

section

variable {s : Settings} {raw : RawRequest} {r : Rejection}

/-- A rejection that gives no more than its kind is ready-made. -/
theorem plain_mem_stock (kind : Rejection.Kind) : .plain kind ∈ stock := by
  cases kind <;> decide

/-- Every ready-made rejection has a message. -/
theorem message_ne_empty_of_mem_stock (h : r ∈ stock) : r.message ≠ "" := by
  have hall : ∀ r ∈ stock, r.message ≠ "" := by decide
  exact hall r h

/-- A request whose fields do not fit its kind is turned down ready-made. -/
theorem mem_stock_of_decode (h : raw.decode = .error r) : r ∈ stock := by
  have invalid {α : Type} {f : α → TunnelRequest} {request? : Option α}
      (h : (request?.elim (.error (.plain .invalidRequest)) .ok : Except Rejection α).map f =
        .error r) : r ∈ stock := by
    rcases request? with _ | request
    · obtain rfl := Except.error.inj h
      exact plain_mem_stock _
    · cases h
  rw [RawRequest.decode] at h
  rcases hkind : raw.kind? with _ | _ | _
  · simp only [hkind] at h
    obtain rfl := Except.error.inj h
    exact plain_mem_stock _
  · simp only [hkind] at h
    exact invalid h
  · simp only [hkind] at h
    exact invalid h

/-- A request whose name or domain is wrong is turned down ready-made, without the name in the
answer. -/
theorem mem_stock_of_namedId {domain : String} {request : HttpTunnelRequest}
    (h : namedId domain request = .error r) : r ∈ stock := by
  rw [namedId] at h
  split at h
  · cases h
  · obtain rfl := Except.error.inj h
    exact plain_mem_stock _
  · split at h
    · cases h
    · obtain rfl := Except.error.inj h
      decide
  · split at h
    · cases h
    · obtain rfl := Except.error.inj h
      decide

/-- An unusable range of ports is turned down ready-made. -/
theorem mem_stock_of_check {range : PortRange} (h : range.check = .error r) : r ∈ stock := by
  rw [PortRange.check] at h
  split at h
  · cases h
  · obtain rfl := Except.error.inj h
    decide

/-- A port that is not in the range, or whose range is unusable, is turned down ready-made. -/
theorem mem_stock_of_checkPort {range : PortRange} {port : UInt16}
    (h : range.checkPort port = .error r) : r ∈ stock := by
  rw [PortRange.checkPort] at h
  rcases bind_eq_error h with h | ⟨_, -, h⟩
  · exact mem_stock_of_check h
  · split at h
    · cases h
    · obtain rfl := Except.error.inj h
      decide

/-- Of all that can be wrong with a request by itself, only its policy is turned down in words of
its own. -/
theorem Refused.mem_stock (h : Refused s raw r) : r ∈ stock ∨ AboutPolicy raw r := by
  cases h with
  | token => exact .inl (plain_mem_stock _)
  | kind => exact .inl (plain_mem_stock _)
  | fields _ h => exact .inl (mem_stock_of_decode h)
  | name _ h => exact .inl (mem_stock_of_namedId h)
  | policy hasked h => exact .inr ⟨_, _, hasked, h, rfl⟩
  | port _ _ h => exact .inl (mem_stock_of_checkPort h)
  | range _ _ h => exact .inl (mem_stock_of_check h)
  | ports => exact .inl (plain_mem_stock _)

/-- If the owner of a place cannot be looked up, the rejection is ready-made. -/
theorem lookupFailed_mem_stock (place : Place) : lookupFailed place ∈ stock := by
  rcases place with _ | _
  · exact (by decide : ⟨.invalidRequest, "invalid subdomain"⟩ ∈ stock)
  · exact plain_mem_stock .authError

/-- If a place cannot be reserved, the rejection is ready-made. -/
theorem claimFailed_mem_stock (place : Place) : claimFailed place ∈ stock := by
  rcases place with _ | _
  · exact (by decide : ⟨.allocationFailed, "failed to reserve subdomain"⟩ ∈ stock)
  · exact (by decide : ⟨.allocationFailed, "failed to reserve port"⟩ ∈ stock)

/-- What a session is told by others leads to a ready-made rejection. -/
theorem Cause.mem_stock {e : Event} (h : Cause s raw e r) : r ∈ stock := by
  cases h with
  | lookup => exact lookupFailed_mem_stock _
  | _ => exact plain_mem_stock _

/-- Only the rejection of a policy says anything of the request. -/
theorem Grounds.mem_stock {told : List Event} (h : Grounds s raw told r) :
    r ∈ stock ∨ AboutPolicy raw r := by
  cases h with
  | refused h => exact h.mem_stock
  | cause _ h => exact .inl h.mem_stock
  | claim => exact .inl (claimFailed_mem_stock _)
  | owned | register => exact .inl (plain_mem_stock _)

end

/-! ### The length of an answer -/

section

open Text

/-- An answer that turns a request for a name down. -/
theorem size_rejected_http (r : Rejection) :
    (Answer.rejected (some .http) r).size =
      38 + width (quote r.message) + width (quote r.kind.tag) := by
  have hprint : (Answer.rejected (some .http) r).toJson.printChars =
      "\x7b\"type\":\"http\",\"error\":".toList ++ (quote r.message ++
        (",\"error_kind\":".toList ++ (quote r.kind.tag ++ ['\x7d']))) := by
    simp [Answer.rejected, Answer.toJson, HttpTunnelAnswer.rejected, HttpTunnelAnswer.toJson,
      textField, errorFields, Value.printChars, Value.printFields]
    rfl
  have hfirst : width "\x7b\"type\":\"http\",\"error\":".toList = 23 := by decide
  have hsecond : width ",\"error_kind\":".toList = 14 := by decide
  have hlast : width ['\x7d'] = 1 := by decide
  rw [Answer.size, length_print, hprint]
  simp only [width_append, hfirst, hsecond, hlast]
  omega

/-- Any other request is turned down like one for a port. -/
theorem size_rejected_tcp {kind : Option TunnelKind} (hkind : kind ≠ some .http) (r : Rejection) :
    (Answer.rejected kind r).size =
      53 + width (quote r.message) + width (quote r.kind.tag) := by
  have hprint : (Answer.rejected kind r).toJson.printChars =
      "\x7b\"type\":\"tcp\",\"remote_port\":0,\"error\":".toList ++ (quote r.message ++
        (",\"error_kind\":".toList ++ (quote r.kind.tag ++ ['\x7d']))) := by
    have hanswer : Answer.rejected kind r = .tcp (.rejected r) := by
      rcases kind with _ | _ | _
      · rfl
      · exact absurd rfl hkind
      · rfl
    simp [hanswer, Answer.toJson, TcpTunnelAnswer.rejected, TcpTunnelAnswer.toJson,
      errorFields, Value.printChars, Value.printFields]
    rfl
  have hfirst : width "\x7b\"type\":\"tcp\",\"remote_port\":0,\"error\":".toList = 38 := by decide
  have hsecond : width ",\"error_kind\":".toList = 14 := by decide
  have hlast : width ['\x7d'] = 1 := by decide
  rw [Answer.size, length_print, hprint]
  simp only [width_append, hfirst, hsecond, hlast]
  omega

/-- A text in quotes is as wide as its escaped characters and two quotation marks. -/
theorem width_quote (s : String) : width (quote s) = width (s.toList.flatMap escapeChar) + 2 := by
  have hmark : width ['"'] = 1 := by decide
  rw [quote, List.cons_append, width_cons, width_append, hmark]
  omega

/-- No kind of rejection has a tag of more than nineteen characters. -/
theorem width_quote_tag_le (kind : Rejection.Kind) : width (quote kind.tag) ≤ 21 := by
  cases kind <;> decide

/-- A ready-made rejection is short. -/
theorem size_le_of_mem_stock {r : Rejection} (h : r ∈ stock) (kind : Option TunnelKind) :
    (Answer.rejected kind r).size ≤ 300 := by
  have hall : ∀ r ∈ stock, width (quote r.message) ≤ 60 := by decide
  have hmessage := hall r h
  have htag := width_quote_tag_le r.kind
  by_cases hkind : kind = some .http
  · rw [hkind, size_rejected_http]
    omega
  · rw [size_rejected_tcp hkind]
    omega

end

/-! ### Rejections of policies -/

section

open Text

variable {request : HttpTunnelRequest} {slot : Policy.Slot}

/-- The names of the fields are short and need no escapes. -/
theorem width_field_le (h : slot ∈ Policy.slots request) :
    width (slot.field.toList.flatMap escapeChar) ≤ 22 := by
  have hall : ∀ field ∈ ["basic_auth", "allow_cidr", "deny_cidr", "allow_method", "allow_path",
      "allow_path_prefix", "request_header_add", "request_header_remove", "response_header_add",
      "response_header_remove"], width (field.toList.flatMap escapeChar) ≤ 22 := by decide
  refine hall slot.field ?_
  have hfield := List.mem_map_of_mem (f := Policy.Slot.field) h
  exact hfield

/-- Every message about a field begins with its name. -/
theorem width_about (field rest : String) :
    width (("invalid " ++ field ++ rest).toList.flatMap escapeChar) =
      8 + width (field.toList.flatMap escapeChar) + width (rest.toList.flatMap escapeChar) := by
  have hfirst : width ("invalid ".toList.flatMap escapeChar) = 8 := by decide
  simp only [String.toList_append, List.flatMap_append, width_append, hfirst]

/-- The message of a rejection that shows a text. -/
theorem width_message_invalidEntry (field text : String) :
    width ((FieldError.invalidEntry field text).message.toList.flatMap escapeChar) =
      14 + width (field.toList.flatMap escapeChar) + width (echo text) := by
  have hcolon : width (": ".toList.flatMap escapeChar) = 2 := by decide
  have hmessage : (FieldError.invalidEntry field text).message =
      "invalid " ++ field ++ (": " ++ quoted text) := (String.append_assoc ..)
  rw [hmessage, width_about, String.toList_append, List.flatMap_append, width_append, hcolon,
    width_escape_quoted]
  omega

/-- The answer to a refused policy is as long as its message, apart from 57 bytes around it. -/
theorem size_toRejection (e : FieldError) :
    (Answer.rejected (some .http) e.toRejection).size =
      57 + width (e.message.toList.flatMap escapeChar) := by
  have htag : width (quote Rejection.Kind.invalidRequest.tag) = 17 := by decide
  have hmessage : e.toRejection.message = e.message := rfl
  have hkind : e.toRejection.kind = .invalidRequest := rfl
  rw [size_rejected_http, hmessage, hkind, htag, width_quote]
  omega

/-- Only a text of the request makes the rejection of a policy long, and only a long one. -/
theorem long_text_of_size {e : FieldError} (h : Policy.ofRequest request = .error e)
    (hsize : maxMessageLength < (Answer.rejected (some .http) e.toRejection).size) :
    ∃ slot ∈ Policy.slots request, ∃ text ∈ slot.texts,
      e = .invalidEntry slot.field text ∧ 9350 ≤ (Utf8.encode text).length := by
  obtain ⟨slot, hslot, hblamed⟩ := Policy.reported h
  have hfield := width_field_le hslot
  rw [size_toRejection, maxMessageLength] at hsize
  cases hblamed with
  | length =>
      have hmessage : (FieldError.tooManyEntries slot.field).message =
          "invalid " ++ slot.field ++ ": too many entries" := rfl
      have hrest : width (": too many entries".toList.flatMap escapeChar) = 18 := by decide
      rw [hmessage, width_about, hrest] at hsize
      omega
  | empty =>
      have hmessage : (FieldError.emptyEntry slot.field).message =
          "invalid " ++ slot.field ++ "" := String.append_empty.symm
      have hrest : width ("".toList.flatMap escapeChar) = 0 := by decide
      rw [hmessage, width_about, hrest] at hsize
      omega
  | @text text htext =>
      have hecho := width_echo_le text
      rw [width_message_invalidEntry] at hsize
      exact ⟨slot, hslot, text, htext, rfl, by omega⟩

end

/-! ### What is heard -/

section

variable {σ : Type} [DecidableEq σ]

variable {settings : Settings} {store : Store} {rates : RateLimiter Float} {moves : List (Move σ)}
  {me : σ}

/-- To a client that listens all is sent that fits. -/
theorem sent_eq {b : Answer} {sent : Bool}
    (hwritable : ∀ c, .step me c ∈ moves → c.connected = true)
    (h : (me, ⟨.send b, sent⟩) ∈ ((Course.start store rates).run settings moves).trace) :
    sent = decide (b.size ≤ maxMessageLength) := by
  obtain ⟨earlier, c, later, rfl, next, seat, -, hreply⟩ := Course.occurred h
  have hconnected : c.connected = true := hwritable c (by simp)
  refine hreply.trans ((perform_send me c _ seat b).trans ?_)
  rw [hconnected, Bool.and_true]

/-- A client that listens hears what was said to it, if it fits. -/
theorem heard?_of_said {a : Answer} (hwritable : ∀ c, .step me c ∈ moves → c.connected = true)
    (hsaid : a ∈ (dialogue me ((Course.start store rates).run settings moves).trace).said) :
    ((Course.start store rates).run settings moves).heard? me =
      if a.size ≤ maxMessageLength then some a else none := by
  split
  · rename_i hfits
    obtain ⟨sent, hmem⟩ := mem_said_iff.mp hsaid
    obtain rfl : sent = true := (sent_eq hwritable hmem).trans (decide_eq_true hfits)
    exact (Course.heard?_eq_some_iff settings store rates moves me a).mpr hmem
  · rename_i hlong
    refine Option.eq_none_iff_forall_ne_some.mpr fun b hb => hlong ?_
    have hmem := (Course.heard?_eq_some_iff settings store rates moves me b).mp hb
    have hone := (Course.sound_run settings store rates moves me).said_eq hsaid
    obtain rfl : b = a := by simpa [hone] using mem_said_iff.mpr ⟨true, hmem⟩
    exact of_decide_eq_true (sent_eq hwritable hmem).symm

/-- A rejection has a message, and is long only if it shows a long text of the request. -/
theorem message_and_size_of_founded {d : Dialogue} {kind : Option TunnelKind} {r : Rejection}
    (h : Founded settings d (.rejected kind r)) : r.message ≠ "" ∧
      (maxMessageLength < (Answer.rejected kind r).size → ∃ raw request,
        d.raw = some raw ∧ raw.decode = .ok (.http request) ∧
        ∃ slot ∈ Policy.slots request, ∃ text ∈ slot.texts,
          r = (FieldError.invalidEntry slot.field text).toRejection ∧
          9350 ≤ (Text.Utf8.encode text).length) := by
  have short (hstock : r ∈ stock) : ¬ maxMessageLength < (Answer.rejected kind r).size := by
    have hsize := size_le_of_mem_stock hstock kind
    rw [maxMessageLength]
    omega
  rcases h.of_rejected with ⟨-, rfl⟩ | ⟨raw, hraw, hanswer, hgrounds, -⟩
  · have hstock := plain_mem_stock .protocol
    exact ⟨message_ne_empty_of_mem_stock hstock, fun hlong => absurd hlong (short hstock)⟩
  · rcases hgrounds.mem_stock with hstock | ⟨request, e, hdecode, herror, rfl⟩
    · exact ⟨message_ne_empty_of_mem_stock hstock, fun hlong => absurd hlong (short hstock)⟩
    · refine ⟨e.message_ne_empty, fun hlong => ⟨raw, request, hraw, hdecode, ?_⟩⟩
      rw [hanswer, kind?_of_decode hdecode] at hlong
      obtain ⟨slot, hslot, text, htext, rfl, hbytes⟩ := long_text_of_size herror hlong
      exact ⟨slot, hslot, text, htext, rfl, hbytes⟩

end

/-- **Rejections are heard if they fit.** In every course a session that received a message, and
has come to its end, has said exactly one thing. If that was a rejection, it has a message; and a
client that listened the whole time has heard it exactly if it fits into a line. The only
rejections that do not fit are those of a policy, of which one of the texts has 9350 bytes at
least. -/
theorem rejections_are_heard_iff_short {σ : Type} [DecidableEq σ] (settings : Settings)
    (store : Store) (rates : RateLimiter Float) (moves : List (Move σ)) :
    let w := (Course.start store rates).run settings moves
    (∀ me seat, w.system.sessions.get? me = some ⟨.done (), seat⟩ →
      (dialogue me w.trace).Addressed → ∃ answer, (dialogue me w.trace).said = [answer]) ∧
    ∀ me kind r, .rejected kind r ∈ (dialogue me w.trace).said →
      r.message ≠ "" ∧ (dialogue me w.trace).said = [.rejected kind r] ∧
      ((∀ c, .step me c ∈ moves → c.connected = true) →
        w.heard? me = if (Answer.rejected kind r).size ≤ maxMessageLength then
          some (.rejected kind r) else none) ∧
      (maxMessageLength < (Answer.rejected kind r).size → ∃ raw request,
        (dialogue me w.trace).raw = some raw ∧ raw.decode = .ok (.http request) ∧
        ∃ slot ∈ Policy.slots request, ∃ text ∈ slot.texts,
          r = (FieldError.invalidEntry slot.field text).toRejection ∧
          9350 ≤ (Text.Utf8.encode text).length) := by
  intro w
  have hsound := Course.sound_run settings store rates moves
  refine ⟨fun me seat hdone haddressed => ?_, fun me kind r hsaid => ?_⟩
  · have hanswered : (dialogue me w.trace).Answered :=
      ((Course.candid_run settings store rates moves).obeys me _ hdone).done_inv haddressed
    obtain ⟨answer, hmem⟩ := List.exists_mem_of_ne_nil _ hanswered
    exact ⟨answer, (hsound me).said_eq hmem⟩
  · have hfounded := message_and_size_of_founded ((hsound me).founded _ hsaid)
    exact ⟨hfounded.1, (hsound me).said_eq hsaid, fun hwritable => heard?_of_said hwritable hsaid,
      hfounded.2⟩

/-! ### A rejection that is lost -/

section

open Text

/-- A text of delete characters. -/
def deletes (n : Nat) : String := String.ofList (List.replicate n '\x7f')

/-- A request for any name, of which one method is made of delete characters. -/
def deleteRequest (n : Nat) : HttpTunnelRequest := { allowMethod := [deletes n] }

/-- Delete characters are no blanks, so none of them is trimmed. -/
theorem trim_deletes (n : Nat) : trim (deletes n) = deletes n := by
  have hblank : ∀ c ∈ List.replicate n '\x7f', isBlank c = false := by
    intro c hc
    rw [List.eq_of_mem_replicate hc]
    decide
  rw [trim, deletes, String.toList_ofList, trimBy_of_forall hblank]

/-- A method of delete characters is no method. -/
theorem ofRequest_deleteRequest (n : Nat) :
    Policy.ofRequest (deleteRequest n) = .error (.invalidEntry "allow_method" (deletes n)) := by
  have hencode : Utf8.encode (deletes n) = List.replicate n 0x7F := by
    have hone : String.utf8EncodeChar '\x7f' = [0x7F] := by decide
    rw [deletes, Utf8.encode_ofList, List.flatMap_replicate, hone, List.flatten_replicate_singleton]
  have htoken : Http.isToken (List.replicate n 0x7F) = false := by
    rcases n with _ | n
    · rfl
    · rfl
  have hmethod : Policy.readMethod "allow_method" (deletes n) =
      .error (.invalidEntry "allow_method" (deletes n)) := by
    rw [Policy.readMethod, trim_deletes, hencode, htoken]
    rfl
  have hmethods : Policy.readMethods "allow_method" [deletes n] =
      .error (.invalidEntry "allow_method" (deletes n)) := by
    have hlength : ¬ [deletes n].length > Policy.maxAllowed := (by decide : ¬ 1 > 32)
    rw [Policy.readMethods, Policy.readEntries, if_neg hlength, List.mapM_cons, hmethod]
    rfl
  rw [Policy.ofRequest, deleteRequest, hmethods]
  rfl

/-- The request has as many bytes as it has delete characters, and a few more. -/
theorem length_deleteRequest (n : Nat) :
    (TunnelRequest.http (deleteRequest n)).toJson.print.length = n + 50 := by
  have hprint : (TunnelRequest.http (deleteRequest n)).toJson.printChars =
      "\x7b\"type\":\"http\",\"authtoken\":\"\",\"allow_method\":[".toList ++
        (quote (deletes n) ++ "]\x7d".toList) := by
    simp [TunnelRequest.toJson, TunnelRequest.kind, HttpTunnelRequest.fields, deleteRequest,
      textField, listField, headerField, Value.printChars, Value.printFields, Value.printItems]
    rfl
  have hescape : ∀ c ∈ List.replicate n '\x7f', width (escapeChar c) = 1 := by
    intro c hc
    rw [List.eq_of_mem_replicate hc]
    decide
  have hfirst :
      width "\x7b\"type\":\"http\",\"authtoken\":\"\",\"allow_method\":[".toList = 46 := by
    decide
  have hlast : width "]\x7d".toList = 2 := by decide
  rw [length_print, hprint, width_append, width_append, hfirst, hlast, width_quote, deletes,
    String.toList_ofList, width_flatMap_eq hescape, List.length_replicate]
  omega

/-- What is said of it has seven times as many bytes. -/
theorem size_deleteRequest (n : Nat) :
    (Answer.rejected (some .http)
      (FieldError.invalidEntry "allow_method" (deletes n)).toRejection).size = 7 * n + 83 := by
  have hfield : width ("allow_method".toList.flatMap escapeChar) = 12 := by decide
  rw [size_toRejection, width_message_invalidEntry, hfield, deletes, width_echo_replicate]
  omega

/-- A client that asks for it and listens. -/
def asking (n : Nat) : Circumstances :=
  { arrives := .request (TunnelRequest.http (deleteRequest n)).raw, draws := ["abcdefgh"] }

/-- Alone with a server it is turned down after so many steps. -/
def askingMoves (n turns : Nat) : List (Move Unit) :=
  .enter () :: List.replicate turns (.step () (asking n))

/-- In these moves, all that happens happens under the same circumstances. -/
theorem of_step_mem_askingMoves {n turns : Nat} {c : Circumstances}
    (h : .step () c ∈ askingMoves n turns) : c = asking n := by
  rcases List.mem_cons.mp h with h | h
  · cases h
  · exact (Move.step.inj (List.eq_of_mem_replicate h)).2

/-- The server turns such a request down in the end, and tries to say which text was wrong. -/
theorem deleteRequest_rejected (n : Nat) :
    ∃ turns, .rejected (some .http)
        (FieldError.invalidEntry "allow_method" (deletes n)).toRejection ∈
      (dialogue () ((Course.start {} {}).run smallServer (askingMoves n turns)).trace).said := by
  have hleads : Leads () (asking n) (session smallServer)
      ((Course.start (σ := Unit) {} {}).system.shared, {})
      (.rejected (some .http)
        (FieldError.invalidEntry "allow_method" (deletes n)).toRejection) := by
    have harrives : (asking n).arrives = .request (TunnelRequest.http (deleteRequest n)).raw := rfl
    have haccepted : Accepts smallServer {} "" := fun _ h => by cases h
    have hpermits : Permits smallServer (Course.start (σ := Unit) {} {}).system.shared 0 "" :=
      ⟨rfl, rfl⟩
    have hdecode := (TunnelRequest.http (deleteRequest n)).decode_raw
    have hlabel : (lower (trim "")).isEmpty = true := by decide
    have hname : (trim "").isEmpty = true := by decide
    have hnamed : namedId smallServer.tunnelDomain (deleteRequest n) = .ok none := by
      simp only [namedId, deleteRequest, hlabel, hname]
    refine session_leads rfl harrives rfl hdecode haccepted hpermits ?_
    intro limiter rates slot
    refine Leads.bind ?_
    exact serveHttp_leads_of_policy hnamed rfl (ofRequest_deleteRequest n)
  obtain ⟨turns, sent, hsent, -⟩ := Course.says_of_leads rfl hleads
  exact ⟨turns, mem_said_iff.mpr ⟨sent, hsent⟩⟩

/-- A client that is turned down for ten delete characters hears it, and one that is turned down
for 9400 of them does not. One that says nothing sensible is answered, too. -/
theorem deleteRequests_heard :
    (∃ turns, ((Course.start {} {}).run smallServer (askingMoves 10 turns)).heard? () =
      some (.rejected (some .http)
        (FieldError.invalidEntry "allow_method" (deletes 10)).toRejection)) ∧
    (∃ turns, ((Course.start {} {}).run smallServer (askingMoves 9400 turns)).heard? () = none ∧
      ∃ (raw : RawRequest) (request : HttpTunnelRequest), raw.decode = .ok (.http request) ∧
        ∃ slot ∈ Policy.slots request, ∃ text ∈ slot.texts, 9350 ≤ (Utf8.encode text).length) ∧
    ∃ answer, (dialogue () ((Course.start {} {}).run smallServer (.enter () ::
      List.replicate 5 (.step () { arrives := .malformed }))).trace).said = [answer] := by
  refine ⟨?_, ?_, ?_⟩
  · obtain ⟨turns, hsaid⟩ := deleteRequest_rejected 10
    have hheard := (rejections_are_heard_iff_short smallServer {} {} (askingMoves 10 turns)).2 ()
      _ _ hsaid
    refine ⟨turns, (hheard.2.2.1 fun c hc => ?_).trans (if_pos ?_)⟩
    · rw [of_step_mem_askingMoves hc]
      rfl
    · rw [size_deleteRequest]
      decide
  · obtain ⟨turns, hsaid⟩ := deleteRequest_rejected 9400
    have hheard := (rejections_are_heard_iff_short smallServer {} {} (askingMoves 9400 turns)).2 ()
      _ _ hsaid
    have hlong : maxMessageLength < (Answer.rejected (some .http)
        (FieldError.invalidEntry "allow_method" (deletes 9400)).toRejection).size := by
      rw [size_deleteRequest]
      decide
    refine ⟨turns, (hheard.2.2.1 fun c hc => ?_).trans (if_neg (Nat.not_le.mpr hlong)), ?_⟩
    · rw [of_step_mem_askingMoves hc]
      rfl
    · obtain ⟨raw, request, -, hdecode, slot, hslot, text, htext, -, hbytes⟩ := hheard.2.2.2 hlong
      exact ⟨raw, request, hdecode, slot, hslot, text, htext, hbytes⟩
  · exact (rejections_are_heard_iff_short smallServer {} {} _).1 () _ rfl
      ⟨.malformed, mem_told_iff.mpr (List.mem_of_getElem? (i := 3) rfl), by simp⟩

/-- Whether every client that asks in a line within the limit, and listens, hears it when it is
turned down. -/
def Settings.Reports (s : Settings) : Prop :=
  ∀ (store : Store) (rates : RateLimiter Float) (moves : List (Move Unit))
    (request : TunnelRequest) (kind : Option TunnelKind) (r : Rejection),
    request.toJson.print.length ≤ maxMessageLength →
    (∀ c, .step () c ∈ moves → c.arrives = .request request.raw ∧ c.connected = true) →
    .rejected kind r ∈ (dialogue () ((Course.start store rates).run s moves).trace).said →
    ((Course.start store rates).run s moves).heard? () = some (.rejected kind r)

/-- A request of 9450 bytes is enough for a rejection that never arrives. -/
theorem not_reports : ¬ smallServer.Reports := by
  intro h
  obtain ⟨turns, hsaid⟩ := deleteRequest_rejected 9400
  have hfits : (TunnelRequest.http (deleteRequest 9400)).toJson.print.length ≤
      maxMessageLength := by
    rw [length_deleteRequest]
    decide
  have hheard := h {} {} (askingMoves 9400 turns) (.http (deleteRequest 9400)) _ _ hfits
    (fun c hc => by rw [of_step_mem_askingMoves hc]; exact ⟨rfl, rfl⟩) hsaid
  have hlost := heard?_of_said
    (fun c hc => by rw [of_step_mem_askingMoves hc]; rfl) hsaid
  rw [hheard, size_deleteRequest, if_neg (by decide)] at hlost
  cases hlost

end

end ReverseTunnel.Server
