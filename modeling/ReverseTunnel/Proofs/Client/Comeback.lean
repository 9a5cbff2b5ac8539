import ReverseTunnel.Proofs.Client.Resumption
import ReverseTunnel.Proofs.Server.Delivery

/-!
# Coming back too early

A client that lost its connection may be back before the server has noticed. Its old session still
has its slot, and its name or its port. Whatever happens then, in whatever order, between the calls
of all sessions: if the service that is asked works, and the place is nobody else's, the client is
granted the place, or it is turned down for a reason that passes. There is one exception, that of a
name. A port that is still bound is `portUnavailable`, which passes; a name that is still listed is
`registrationFailed`, which does not.

## Main results

* `Comeback.grounds`: the reasons for which such a client is turned down.
* `comeback_outcome`: what it is told, and whether it goes on.
* `not_survives`: a client that is told that its own name is taken.
-/

namespace ReverseTunnel

open Server

namespace Server.Course.Precedes

variable {σ : Type} {w w' : Course σ}

/-- Tokens stay what they are. -/
theorem valid (h : w.Precedes w') (token : String) :
    w'.system.shared.store.valid token = w.system.shared.store.valid token := by
  rw [Store.valid, Store.valid, h.tokens]

/-- As long as nobody changes the tokens, the identity of a token stays the same. -/
theorem tokenId? (h : w.Precedes w') (token : String) :
    w'.system.shared.store.tokenId? token = w.system.shared.store.tokenId? token := by
  rw [Store.tokenId?, Store.tokenId?, h.tokens]

end Server.Course.Precedes

namespace Client

/-- A request is read as itself and as no other. -/
theorem eq_of_decode_raw {request other : TunnelRequest} (h : request.raw.decode = .ok other) :
    request = other :=
  Except.ok.inj (request.decode_raw.symm.trans h)

/-- A client that comes back: in the course of some moves one session was granted something for a
request, and another one has received the request for it. The service that this one asks works, its
token is accepted, and at the end the place is nobody else's. -/
structure Comeback {σ : Type} [DecidableEq σ] (s : Settings) (store : Store)
    (rates : RateLimiter Float) (moves : List (Move σ)) (first me : σ) (request : TunnelRequest)
    (answer : Answer) (grant : Grant) : Prop where
  asked : ∃ raw, (dialogue first ((Course.start store rates).run s moves).trace).raw = some raw ∧
    raw.decode = .ok request
  heard : ((Course.start store rates).run s moves).heard? first = some answer
  granted : grantOf request.kind (answerLine answer) = .ok grant
  again : (dialogue me ((Course.start store rates).run s moves).trace).raw =
    some (grant.resume request).raw
  works : ∀ c, .step me c ∈ moves → c.works = true
  accepted : Accepts s ((Course.start store rates).run s moves).system.shared.store
    request.authtoken
  may : MayHave s ((Course.start store rates).run s moves).system.shared.store request.authtoken
    grant.place

namespace Comeback

variable {σ : Type} [DecidableEq σ] {s : Settings} {store : Store} {rates : RateLimiter Float}
  {moves : List (Move σ)} {first me : σ} {request : TunnelRequest} {answer : Answer} {grant : Grant}
  (h : Comeback s store rates moves first me request answer grant)

include h

/-- A session that heard its grant has been granted it, in the sense of what restores a tunnel. -/
theorem to_granted : Granted s
    (dialogue first ((Course.start store rates).run s moves).trace).told request answer grant := by
  obtain ⟨raw, hraw, hdecode⟩ := h.asked
  exact granted_of_heard hraw hdecode h.heard h.granted

/-- What a session was told while the service worked, and that the course went on from there. -/
theorem told {e : Server.Event}
    (he : e ∈ (dialogue me ((Course.start store rates).run s moves).trace).told) :
    ∃ earlier c later seat, moves = earlier ++ .step me c :: later ∧ c.works = true ∧
      ((Course.start store rates).run s earlier).Precedes ((Course.start store rates).run s moves) ∧
      e.reply = (perform me c ((Course.start store rates).run s earlier).system.shared seat
        e.call).1 := by
  obtain ⟨earlier, c, later, rfl, _, seat, -, hreply⟩ := Course.occurred (mem_told_iff.mp he)
  refine ⟨earlier, c, later, seat, rfl, h.works c (by simp), ?_, hreply⟩
  rw [Course.run_append]
  exact Course.precedes_run _ _

/-- Its token identifies whom it identifies at the end. -/
theorem identified {token : Option TokenId}
    (htoken : Identified s (grant.resume request).raw
      (dialogue me ((Course.start store rates).run s moves).trace).told token) :
    token = identity s ((Course.start store rates).run s moves).system.shared.store
      request.authtoken := by
  cases htoken with
  | told hlooked hmem =>
    obtain ⟨earlier, c, later, seat, -, hworks, hprecedes, hreply⟩ := h.told hmem
    have hreply : some _ = _ := hreply
    simp only [perform, hworks, if_true, Option.some.injEq] at hreply
    rw [identity, if_pos hlooked, hprecedes.tokenId?, hreply, grant.authtoken_resume]
  | unasked hlooked =>
    rw [identity, if_neg (by simp [hlooked])]

/-- Where places belong to tokens, nobody ever comes to own the place but whom its token
identifies. -/
theorem owner_eq (howns : s.ownsPlaces = true) {token owner : TokenId}
    (htoken : Identified s (grant.resume request).raw
      (dialogue me ((Course.start store rates).run s moves).trace).told (some token))
    {before : Course σ} (hprecedes : before.Precedes ((Course.start store rates).run s moves))
    (howner : before.system.shared.store.owner? grant.place = some owner) : owner = token := by
  obtain ⟨id, hid, hmay⟩ := h.may howns
  obtain rfl : token = id := Option.some.inj ((h.identified htoken).trans hid)
  exact hmay owner (hprecedes.store _ _ howner)

/-! ### What it can be told -/

section

variable (hnames : namedPlace? s (grant.resume request) = some grant.place)

omit h in
include hnames in
/-- It names the place of the grant and no other. -/
theorem eq_of_names {place : Place} (hplace : Names s (grant.resume request).raw place) :
    place = grant.place := by
  obtain ⟨asked, hasked, hnamed⟩ := hplace
  obtain rfl := eq_of_decode_raw hasked
  exact Option.some.inj (hnamed.symm.trans hnames)

include hnames in
/-- What a request for a name asks for. -/
theorem asks_http {again : HttpTunnelRequest}
    (hasked : (grant.resume request).raw.decode = .ok (.http again)) :
    request.kind = .http ∧ ∃ id, answer = .grantedName id (s.publicUrl id) ∧
      grant.place = .subdomain id ∧ Registry.normalId? id = some id ∧
      namedId s.tunnelDomain again = .ok (some id) ∧
      ∃ policy, Policy.ofRequest again = .ok policy := by
  have hagain := eq_of_decode_raw hasked
  refine ⟨?_, h.to_granted.resume_http hnames hagain⟩
  rw [← grant.kind_resume, hagain, TunnelRequest.kind]

/-- What a request for a port asks for. -/
theorem asks_tcp {again : TcpTunnelRequest}
    (hasked : (grant.resume request).raw.decode = .ok (.tcp again)) :
    answer = .grantedPort again.remotePort ∧ again.remotePort ≠ 0 ∧
      s.ports.checkPort again.remotePort = .ok () := by
  have hagain := eq_of_decode_raw hasked
  obtain ⟨hanswer, -, hport, hchecked⟩ := h.to_granted.resume_tcp hagain
  exact ⟨hanswer, hport, hchecked⟩

include hnames in
/-- By itself it is no reason to turn the client down. -/
theorem not_refused {r : Rejection} : ¬ Refused s (grant.resume request).raw r := by
  intro hrefused
  have hdecode := (grant.resume request).decode_raw
  cases hrefused with
  | token hlooked hshared hsome hne =>
    have haccepted := h.accepted
    rw [Accepts, if_neg (by simp [hlooked])] at haccepted
    rw [grant.authtoken_resume] at hne
    rcases haccepted _ hshared with hempty | heq
    · exact absurd (hempty.symm.trans hsome) (by simp)
    · exact hne heq
  | kind hkind => exact absurd ((kind?_of_decode hdecode).symm.trans hkind) (by simp)
  | fields _ herror => exact absurd (hdecode.symm.trans herror) (by simp)
  | name hasked herror =>
    obtain ⟨-, id, -, -, -, hid, -⟩ := h.asks_http hnames hasked
    exact absurd (hid.symm.trans herror) (by simp)
  | policy hasked herror =>
    obtain ⟨-, id, -, -, -, -, policy, hpolicy⟩ := h.asks_http hnames hasked
    exact absurd (hpolicy.symm.trans herror) (by simp)
  | port hasked _ herror =>
    obtain ⟨-, -, hchecked⟩ := h.asks_tcp hasked
    exact absurd (hchecked.symm.trans herror) (by simp)
  | range hasked hzero _ =>
    obtain ⟨-, hport, -⟩ := h.asks_tcp hasked
    exact hport hzero
  | ports hasked hzero =>
    obtain ⟨-, hport, -⟩ := h.asks_tcp hasked
    exact hport hzero

include hnames in
/-- What it is told of the service's doing passes. -/
theorem retryable_of_cause {e : Server.Event} {r : Rejection}
    (he : e ∈ (dialogue me ((Course.start store rates).run s moves).trace).told)
    (hcause : Cause s (grant.resume request).raw e r) :
    ∃ kind, r = .plain kind ∧ kind.retryable = true := by
  obtain ⟨earlier, c, later, seat, -, hworks, hprecedes, hreply⟩ := h.told he
  cases hcause with
  | invalid hlooked =>
    have haccepted := h.accepted
    have hreply : some false = _ := hreply
    simp only [perform, hworks, if_true, Option.some.injEq, grant.authtoken_resume] at hreply
    rw [Accepts, if_pos hlooked, hprecedes.valid] at haccepted
    exact absurd (hreply.trans haccepted) (by simp)
  | unvalidated | unidentified | lookup =>
    simp [perform, hworks] at hreply
  | slots => exact ⟨.tooManyTunnels, rfl, rfl⟩
  | rate => exact ⟨.rateLimited, rfl, rfl⟩
  | bind => exact ⟨.portUnavailable, rfl, rfl⟩
  | anonymous howns _ hnone =>
    obtain ⟨id, hid, -⟩ := h.may howns
    have hlooked : s.identifies = true := (Bool.and_eq_true_iff.mp howns).1
    have hsame := h.identified (.told hlooked he)
    rw [hnone, hid] at hsame
    cases hsame
  | draw hasked hnone =>
    obtain ⟨-, id, -, -, -, hid, -⟩ := h.asks_http hnames hasked
    exact absurd (hid.symm.trans hnone) (by simp)

include hnames in
/-- **Why it can be turned down**: for a reason that passes, or because its id was taken when it
was to be registered. -/
theorem grounds {r : Rejection}
    (hgrounds : Grounds s (grant.resume request).raw
      (dialogue me ((Course.start store rates).run s moves).trace).told r) :
    (∃ kind, r = .plain kind ∧ kind.retryable = true) ∨
      r = .plain .registrationFailed ∧ request.kind = .http ∧
        ∃ earlier c later, moves = earlier ++ .step me c :: later ∧
          ((Course.start store rates).run s earlier).system.shared.at? grant.place.normal ≠
            none := by
  cases hgrounds with
  | refused hrefused => exact absurd hrefused (h.not_refused hnames)
  | cause he hcause => exact .inl (h.retryable_of_cause hnames he hcause)
  | owned howns hplace htoken howner hne =>
    -- Whoever was found to own the place owns it at the end, and there nobody else does.
    obtain rfl := eq_of_names hnames hplace
    obtain ⟨earlier, c, later, seat, -, hworks, hprecedes, hreply⟩ := h.told howner
    have hreply : some (some _) = _ := hreply
    simp only [perform, hworks, if_true, Option.some.injEq] at hreply
    exact absurd (h.owner_eq howns htoken hprecedes hreply.symm) hne
  | claim howns hplace htoken hfailed =>
    obtain rfl := eq_of_names hnames hplace
    obtain ⟨earlier, c, later, seat, -, hworks, hprecedes, hreply⟩ := h.told hfailed
    have hreply : false = _ := hreply
    simp only [perform, hworks, if_true] at hreply
    split at hreply
    · cases hreply
    · rename_i hnone
      obtain ⟨current, howner, hne⟩ := reserve?_eq_none hnone
      exact absurd (h.owner_eq howns htoken hprecedes howner) hne
  | @register again id policy hasked hid hfailed =>
    obtain ⟨hkind, named, -, hplace, hnormal, hnamed, -⟩ := h.asks_http hnames hasked
    obtain rfl : named = id := by
      rcases hid with hid | ⟨hnone, -⟩
      · exact Option.some.inj (Except.ok.inj (hnamed.symm.trans hid))
      · exact absurd (hnamed.symm.trans hnone) (by simp)
    -- Its id is in the form under which ids are compared, so it failed because it was listed.
    obtain ⟨earlier, c, later, seat, hmoves, -, -, hreply⟩ := h.told hfailed
    refine .inr ⟨rfl, hkind, earlier, c, later, hmoves, fun hfree => ?_⟩
    rw [hplace, Registry.normal_of_normalId? hnormal, Shared.at?, Option.map_eq_none_iff] at hfree
    have hreply : false = _ := hreply
    simp [perform, Registry.register, hnormal, Table.contains, hfree] at hreply

include hnames in
/-- **What it can be told**: what it was granted, or one of these reasons. -/
theorem answers {a : Answer}
    (ha : a ∈ (dialogue me ((Course.start store rates).run s moves).trace).said) :
    a = answer ∨ ∃ r, a = .rejected (some request.kind) r ∧
      Grounds s (grant.resume request).raw
        (dialogue me ((Course.start store rates).run s moves).trace).told r := by
  have hdecode := (grant.resume request).decode_raw
  cases (Course.sound_run s store rates moves me).founded a ha with
  | malformed hnone => exact absurd (h.again.symm.trans hnone) (by simp)
  | @rejected raw r hraw hgrounds _ =>
    obtain rfl := Option.some.inj (h.again.symm.trans hraw)
    refine .inr ⟨r, ?_, hgrounds⟩
    rw [kind?_of_decode hdecode, grant.kind_resume]
  | @name raw again policy id hraw hasked hid _ =>
    obtain rfl := Option.some.inj (h.again.symm.trans hraw)
    obtain ⟨-, named, rfl, -, -, hnamed, -⟩ := h.asks_http hnames hasked
    rcases hid with hid | ⟨hnone, -⟩
    · obtain rfl := Option.some.inj (Except.ok.inj (hnamed.symm.trans hid))
      exact .inl rfl
    · exact absurd (hnamed.symm.trans hnone) (by simp)
  | @port raw again port hraw hasked hport =>
    obtain rfl := Option.some.inj (h.again.symm.trans hraw)
    obtain ⟨rfl, hnonzero, -⟩ := h.asks_tcp hasked
    rcases hport with ⟨rfl, -, -⟩ | ⟨hzero, -⟩
    · exact .inl rfl
    · exact absurd hzero hnonzero

end

end Comeback

/-! ### What the client makes of it -/

/-- Whether a run that was known by this grant goes on when that comes of its request: on the new
connection, or with another try after a pause. -/
def Grant.GoesOn (grant : Grant) (result : Except TunnelError Grant) : Prop :=
  ∀ {ι : Type} [DecidableEq ι] (known : Grant → ι) (shown : ι → String) (t : Tunnel ι)
    (pause connection : Nat), t.identity = known grant →
    (t.judge shown pause connection (result.map known)).stage = .serving ∨
      (t.judge shown pause connection (result.map known)).stage = .pausing (nextPause pause)

/-- A client that gets back what it had goes on. -/
theorem goesOn_ok (grant : Grant) : grant.GoesOn (.ok grant) := by
  intro ι _ known shown t pause connection hidentity
  have hsame : t.judge shown pause connection (.ok (known grant)) = t.install connection :=
    if_pos hidentity.symm
  exact .inl (congrArg Tunnel.stage hsame)

/-- A client that is turned down goes on exactly if the error is one that may pass. -/
theorem goesOn_error_iff {grant : Grant} {e : TunnelError} :
    grant.GoesOn (.error e) ↔ e.retryable = true := by
  refine ⟨fun h => ?_, fun h ι _ known shown t pause connection _ => ?_⟩
  · by_contra hfinal
    have hjudged (t : Tunnel Unit) : t.judge (fun _ => "") 0 0 (.error e) =
        (t.act (.close 0)).leave (.error e) := if_neg hfinal
    have hstage := h (fun _ => ()) (fun _ => "") { reconnects := true, identity := () } 0 0 rfl
    rw [Except.map, hjudged] at hstage
    rcases hstage with hstage | hstage <;> cases hstage
  · have hjudged : t.judge shown pause connection (.error e) =
        (t.act (.close connection)).rest (nextPause pause) (.pausing (nextPause pause)) :=
      if_pos h
    exact .inr (congrArg Tunnel.stage hjudged)

/-- A rejection without a message of its own fits into a line. -/
theorem size_plain_le (kind : Option TunnelKind) (reason : Rejection.Kind) :
    (Answer.rejected kind (.plain reason)).size ≤ maxMessageLength :=
  (size_le_of_mem_stock (plain_mem_stock reason) kind).trans (by decide)

/-- So it is heard as it was said. -/
theorem grantOf_plain (kind : TunnelKind) (reason : Rejection.Kind) :
    grantOf kind (answerLine (.rejected (some kind) (.plain reason))) =
      .error (.rejected (.plain reason)) := by
  have hfits := size_plain_le (some kind) reason
  cases kind with
  | http =>
    rw [grantOf_rejected_http hfits]
    cases reason <;> rfl
  | tcp =>
    rw [grantOf_rejected_tcp hfits]
    cases reason <;> rfl

/-- **A client that comes back too early** is answered once. It is granted what it had, or turned
down for a reason that passes, and goes on; or it had a name, that name was taken when its session
was to register it, and it is turned down for that, and does not go on. -/
theorem comeback_outcome {σ : Type} [DecidableEq σ] {s : Settings} {store : Store}
    {rates : RateLimiter Float} {moves : List (Move σ)} {first me : σ} {request : TunnelRequest}
    {answer : Answer} {grant : Grant}
    (h : Comeback s store rates moves first me request answer grant)
    (hnames : namedPlace? s (grant.resume request) = some grant.place) :
    let w := (Course.start store rates).run s moves
    (∀ seat, w.system.sessions.get? me = some ⟨.done (), seat⟩ →
      ∃ a, (dialogue me w.trace).said = [a]) ∧
    ∀ a ∈ (dialogue me w.trace).said,
      ((∀ c, .step me c ∈ moves → c.connected = true) → w.heard? me = some a) ∧
      ((a = answer ∨
          ∃ kind, a = .rejected (some request.kind) (.plain kind) ∧ kind.retryable = true) ∧
        grant.GoesOn (grantOf request.kind (answerLine a)) ∨
      a = .rejected (some .http) (.plain .registrationFailed) ∧ request.kind = .http ∧
        ¬ grant.GoesOn (grantOf request.kind (answerLine a)) ∧
        ∃ earlier c later, moves = earlier ++ .step me c :: later ∧
          ((Course.start store rates).run s earlier).system.shared.at? grant.place.normal ≠
            none) := by
  intro w
  have hsound := Course.sound_run s store rates moves me
  refine ⟨fun seat hdone => ?_, fun a ha => ?_⟩
  · have haddressed : (dialogue me w.trace).Addressed :=
      ⟨_, (faithful_dialogue me w.trace).raw _ h.again, by simp⟩
    have hanswered : (dialogue me w.trace).Answered :=
      ((Course.candid_run s store rates moves).obeys me _ hdone).done_inv haddressed
    obtain ⟨a, ha⟩ := List.exists_mem_of_ne_nil _ hanswered
    exact ⟨a, hsound.said_eq ha⟩
  · rcases h.answers hnames ha with rfl | ⟨r, rfl, hgrounds⟩
    · refine ⟨fun hwritable => ?_, .inl ⟨.inl rfl, ?_⟩⟩
      · rw [heard?_of_said hwritable ha, if_pos (Course.size_le_of_heard h.heard)]
      · rw [h.granted]
        exact goesOn_ok grant
    -- Of all grounds for a rejection, only that the name is listed already is not one that passes.
    · rcases h.grounds hnames hgrounds with ⟨kind, rfl, hretry⟩ | ⟨rfl, hhttp, htaken⟩
      · refine ⟨fun hwritable => ?_, .inl ⟨.inr ⟨kind, rfl, hretry⟩, ?_⟩⟩
        · rw [heard?_of_said hwritable ha, if_pos (size_plain_le _ _)]
        · rw [grantOf_plain, goesOn_error_iff]
          exact hretry
      · refine ⟨fun hwritable => ?_, .inr ⟨by rw [hhttp], hhttp, ?_, htaken⟩⟩
        · rw [heard?_of_said hwritable ha, if_pos (size_plain_le _ _)]
        · rw [grantOf_plain, goesOn_error_iff]
          decide

/-! ### A port and a name -/

/-- What a client does that asks for this. The random id is `abcdefgh`. -/
def asks (request : TunnelRequest) : Circumstances :=
  { arrives := .request request.raw, draws := ["abcdefgh"] }

/-- A session is granted something after so many steps; then one for another request has taken
eight steps. -/
def overlap (request again : TunnelRequest) (steps : Nat) : List (Move Bool) :=
  [.enter false, .enter true] ++ List.replicate steps (.step false (asks request)) ++
    List.replicate 8 (.step true (asks again))

/-- In an overlap the session that comes second asks for the same at each of its steps. -/
theorem eq_of_step_mem_overlap {request again : TunnelRequest} {steps : Nat} {c : Circumstances}
    (h : .step true c ∈ overlap request again steps) : c = asks again := by
  rcases List.mem_append.mp h with h | h
  · rcases List.mem_append.mp h with h | h
    · simp at h
    · exact absurd (List.eq_of_mem_replicate h) (by simp)
  · exact (Move.step.inj (List.eq_of_mem_replicate h)).2

/-- The second session is that of a client that comes back, if both have been received and the
first one is the token's. -/
theorem comeback_of_overlap {s : Settings} {request again : TunnelRequest} {answer : Answer}
    {grant : Grant} {steps : Nat} (hopen : s.validates = false ∧ s.authToken = none)
    (hgranted : grantOf request.kind (answerLine answer) = .ok grant)
    (hresume : grant.resume request = again)
    (hasked : (dialogue false ((Course.start twoTokens {}).run s
      (overlap request again steps)).trace).raw = some request.raw)
    (hagain : (dialogue true ((Course.start twoTokens {}).run s
      (overlap request again steps)).trace).raw = some again.raw)
    (hcourse :
      let w := (Course.start twoTokens {}).run s (overlap request again steps)
      w.heard? false = some answer ∧
        identity s w.system.shared.store request.authtoken = some 1 ∧
        (w.system.shared.store.owner? grant.place).getD 1 = 1) :
    Comeback s twoTokens {} (overlap request again steps) false true request answer grant := by
  obtain ⟨hheard, hid, howner⟩ := hcourse
  refine ⟨⟨request.raw, hasked, request.decode_raw⟩, hheard, hgranted, hresume ▸ hagain,
    fun c hc => ?_, ?_, fun _ => ⟨1, hid, fun owner h => ?_⟩⟩
  · rw [eq_of_step_mem_overlap hc]
    rfl
  · rw [Accepts, if_neg (by simp [hopen.1]), hopen.2]
    exact fun _ h => by cases h
  · rwa [h] at howner

/-- A client whose token is `a` asks for the port 1. -/
def firstPort : TunnelRequest := .tcp { authtoken := "a", remotePort := 1 }

/-- It comes back while its old session still has the port. -/
theorem firstPort_comeback : Comeback smallServer twoTokens {} (overlap firstPort firstPort 9)
    false true firstPort (.grantedPort 1) (.port 1) :=
  comeback_of_overlap ⟨rfl, rfl⟩ ((grantOf_tcp (a := .granted 1) (by decide +kernel)).trans rfl)
    rfl rfl rfl (by decide +kernel)

/-- It is told that the port cannot be had, and tries again. -/
theorem firstPort_goesOn :
    ((Course.start twoTokens {}).run smallServer (overlap firstPort firstPort 9)).heard? true =
        some (.rejected (some .tcp) (.plain .portUnavailable)) ∧
      Grant.GoesOn (.port 1)
        (grantOf .tcp (answerLine (.rejected (some .tcp) (.plain .portUnavailable)))) := by
  have hsaid : Answer.rejected (some .tcp) (.plain .portUnavailable) ∈ (dialogue true
      ((Course.start twoTokens {}).run smallServer (overlap firstPort firstPort 9)).trace).said :=
    List.mem_cons_self
  have houtcome := (comeback_outcome firstPort_comeback (by decide +kernel)).2 _ hsaid
  refine ⟨houtcome.1 fun c hc => ?_, ?_⟩
  · rw [eq_of_step_mem_overlap hc]
    rfl
  · rcases houtcome.2 with ⟨-, hgoes⟩ | ⟨-, hhttp, -⟩
    · exact hgoes
    · cases hhttp

/-- Whether a client that comes back while its tunnel is live is only turned down for reasons that
pass. -/
def Survives (s : Settings) : Prop :=
  ∀ (store : Store) (rates : RateLimiter Float) (moves : List (Move Bool))
    (request : TunnelRequest) (answer : Answer) (grant : Grant),
    let w := (Course.start store rates).run s moves
    Comeback s store rates moves false true request answer grant →
    w.system.shared.at? grant.place.normal = some false →
    ∀ kind r, .rejected kind r ∈ (dialogue true w.trace).said → r.retryable = true

/-- A client whose token is `a` asks for the name `demo`. -/
def demoName : TunnelRequest := .http { authtoken := "a", subdomain := "demo" }

/-- What it is granted. -/
def demoAnswer : HttpTunnelAnswer := .granted "demo" "https://demo.t"

/-- It comes back while its old session still has the name. -/
theorem demoName_comeback : Comeback smallServer twoTokens {} (overlap demoName demoName 9)
    false true demoName (.http demoAnswer) (.name demoAnswer) :=
  comeback_of_overlap ⟨rfl, rfl⟩ ((grantOf_http (by decide +kernel)).trans rfl)
    (by decide +kernel) rfl rfl (by decide +kernel)

/-- A server whose domain is no name. -/
def slashServer : Settings := { smallServer with tunnelDomain := "t/" }

/-- What a client is granted that asks it for any name. -/
def slashAnswer : HttpTunnelAnswer := .granted "abcdefgh" "https://abcdefgh.t/"

/-- When it comes back it asks for the host in front of the slash. -/
theorem slashName_comeback : Comeback slashServer twoTokens {} (overlap anyName sameName 8)
    false true anyName (.http slashAnswer) (.name slashAnswer) :=
  comeback_of_overlap ⟨rfl, rfl⟩ ((grantOf_http (by decide +kernel)).trans rfl)
    (by decide +kernel) rfl rfl (by decide +kernel)

/-- A client that is too early for its name is turned down for good. So is one that was announced
under a domain that is no name: what it asks for is not what it had. -/
theorem not_survives : ¬ Survives smallServer ∧ ¬ Survives slashServer := by
  constructor
  · intro h
    have hretry := h twoTokens {} (overlap demoName demoName 9) _ _ _ demoName_comeback
      (by decide +kernel) (some .http) (.plain .registrationFailed) List.mem_cons_self
    exact absurd hretry (by decide)
  · intro h
    have hretry := h twoTokens {} (overlap anyName sameName 8) _ _ _ slashName_comeback
      (by decide +kernel) (some .http) ⟨.invalidRequest, "invalid domain"⟩
      (List.mem_of_getElem? (i := 0) (by decide +kernel))
    exact absurd hretry (by decide)

end Client

end ReverseTunnel
