import ReverseTunnel.Proofs.Server.Grounds

/-!
# The candor of sessions

Every session keeps its dialogue as it should be, whatever it is told: it answers a message once,
what it says is founded, and it reserves at most the place that its request names, before it
answers. The plan is read from its first call to its last, one lemma for each part of it.

## Main results

* `session_candid`: every session is candid, and has answered by its end.
-/

namespace ReverseTunnel.Server

/-! ### What the parts of a session leave behind -/

namespace Dialogue

/-- More was heard, and nothing else has changed. -/
def Hears (d d' : Dialogue) : Prop := ∃ more, d' = d.hear more

/-- More was heard and perhaps a place reserved, and nothing was said. -/
structure Goes (d d' : Dialogue) : Prop where
  raw : d'.raw = d.raw
  said : d'.said = d.said
  told : d.told ⊆ d'.told

variable {d d' d'' : Dialogue}

/-- Without a reply, nothing more is heard. -/
theorem Hears.refl (d : Dialogue) : d.Hears d := ⟨[], rfl⟩

/-- What is heard over two parts is heard over both of them. -/
theorem Hears.trans (h : d.Hears d') (h' : d'.Hears d'') : d.Hears d'' := by
  obtain ⟨first, rfl⟩ := h
  obtain ⟨second, rfl⟩ := h'
  exact ⟨second ++ first, by simp [hear]⟩

/-- Most replies change nothing. -/
theorem hears_after (d : Dialogue) (call : Call) (reply : call.Reply)
    (h : d.note call reply = d) : d.Hears (d.after ⟨call, reply⟩) :=
  ⟨[⟨call, reply⟩], by rw [after, h]; rfl⟩

/-- Where only more was heard, nothing was said. -/
theorem Hears.goes (h : d.Hears d') : d.Goes d' := by
  obtain ⟨more, rfl⟩ := h
  exact ⟨rfl, rfl, List.subset_append_right more d.told⟩

/-- Without a reply, nothing is said. -/
theorem Goes.refl (d : Dialogue) : d.Goes d := (Hears.refl d).goes

/-- If nothing is said over two parts, nothing is over both of them. -/
theorem Goes.trans (h : d.Goes d') (h' : d'.Goes d'') : d.Goes d'' where
  raw := h'.raw.trans h.raw
  said := h'.said.trans h.said
  told := List.Subset.trans h.told h'.told

/-- A reply to a call that neither asks for a request nor sends an answer. -/
theorem goes_after (d : Dialogue) (call : Call) (reply : call.Reply)
    (hraw : (d.note call reply).raw = d.raw) (hsaid : (d.note call reply).said = d.said) :
    d.Goes (d.after ⟨call, reply⟩) :=
  ⟨hraw, hsaid, List.subset_cons_self _ _⟩

end Dialogue

section

variable {s : Settings} {raw : RawRequest} {d : Dialogue}

/-- Whether a session that is turned down like this may say so. -/
def Dialogue.Declines (s : Settings) (raw : RawRequest) (d : Dialogue) (r : Rejection) : Prop :=
  Grounds s raw d.told r ∧ (d.reserved = [] ∨ Late raw r)

/-- How a trial ends that reserves nothing. -/
def EndsHeard {α : Type} (s : Settings) (raw : RawRequest) (d d' : Dialogue)
    (result : Except Rejection α) : Prop :=
  d.Hears d' ∧ ∀ r, result = .error r → Grounds s raw d'.told r

/-- How a trial ends that may have reserved a place. -/
def EndsCandid {α : Type} (s : Settings) (raw : RawRequest) (d d' : Dialogue)
    (result : Except Rejection α) : Prop :=
  d.Goes d' ∧ ∀ r, result = .error r → d'.Declines s raw r

/-- A trial that is passed and only heard more ends as it should. -/
theorem endsHeard_ok {α : Type} {d' : Dialogue} (h : d.Hears d') (a : α) :
    EndsHeard s raw d d' (.ok a) :=
  ⟨h, fun r hr => by cases hr⟩

/-- A trial that only heard more and fails on good grounds ends as it should. -/
theorem endsHeard_error {α : Type} {d' : Dialogue} (h : d.Hears d') {r : Rejection}
    (hr : Grounds s raw d'.told r) : EndsHeard (α := α) s raw d d' (.error r) :=
  ⟨h, fun r' hr' => by cases hr'; exact hr⟩

/-- A trial that is passed ends as it should, if nothing was said. -/
theorem endsCandid_ok {α : Type} {d' : Dialogue} (h : d.Goes d') (a : α) :
    EndsCandid s raw d d' (.ok a) :=
  ⟨h, fun r hr => by cases hr⟩

/-- A trial that fails ends as it should, if nothing was said and the session may say why. -/
theorem endsCandid_error {α : Type} {d' : Dialogue} (h : d.Goes d') {r : Rejection}
    (hr : d'.Declines s raw r) : EndsCandid (α := α) s raw d d' (.error r) :=
  ⟨h, fun r' hr' => by cases hr'; exact hr⟩

/-! ### Admission -/

/-- Looking at a token only hears what the store says of it, and a token is refused on good grounds.
-/
theorem authenticate_candid :
    (authenticate s raw.authtoken).run.Obeys (candor s) (EndsHeard s raw d) d := by
  rw [authenticate]
  rcases hlooked : s.validates with _ | _
  · rcases hshared : s.authToken with _ | expected
    · exact .done (endsHeard_ok (.refl d) ())
    · rw [if_neg (by simp)]
      dsimp only
      split
      · exact .done (endsHeard_ok (.refl d) ())
      · rename_i hother
        simp only [Bool.or_eq_true, beq_iff_eq, not_or, Bool.not_eq_true] at hother
        exact .done (endsHeard_error (.refl d)
          (.refused (.token hlooked hshared hother.1 hother.2)))
  · refine .ask trivial fun reply => ?_
    have hears := d.hears_after (.validate raw.authtoken) reply rfl
    rcases reply with _ | _ | _
    · exact .done (endsHeard_error hears (.cause List.mem_cons_self .unvalidated))
    · exact .done (endsHeard_error hears (.cause List.mem_cons_self (.invalid hlooked)))
    · exact .done (endsHeard_ok hears ())

/-- Asking for the identity of a token only hears the answer, and whoever goes on is known by it. -/
theorem identify_candid :
    (identify s raw.authtoken).run.Obeys (candor s)
      (fun d' result => EndsHeard s raw d d' result ∧
        ∀ token, result = .ok token → Identified s raw d'.told token) d := by
  rw [identify]
  rcases hasks : s.identifies with _ | _
  · refine .done ⟨endsHeard_ok (.refl d) none, fun token htoken => ?_⟩
    obtain rfl := Except.ok.inj htoken
    exact .unasked hasks
  · refine .ask trivial fun reply => ?_
    have hears := d.hears_after (.identify raw.authtoken) reply rfl
    rcases reply with _ | id
    · exact .done ⟨endsHeard_error hears (.cause List.mem_cons_self .unidentified),
        fun token htoken => by cases htoken⟩
    · refine .done ⟨endsHeard_ok hears _, fun token htoken => ?_⟩
      obtain rfl := Except.ok.inj htoken
      exact .told hasks List.mem_cons_self

/-- Charging a token only hears whether it may have another tunnel, and a token is refused on good
grounds. -/
theorem charge_candid (token : Option TokenId) :
    (charge s token).run.Obeys (candor s) (EndsHeard s raw d) d := by
  rw [charge]
  refine .ask trivial fun reply => ?_
  have hslot := d.hears_after (.acquire (token.getD 0) s.maxTunnels) reply rfl
  rcases reply with _ | _
  · exact .done (endsHeard_error hslot (.cause List.mem_cons_self (.slots _)))
  refine .ask trivial fun reply => ?_
  have hrate := hslot.trans
    (Dialogue.hears_after _ (.create (token.getD 0) s.maxCreations) reply rfl)
  rcases reply with _ | _
  · refine .ask trivial fun _ => .done ?_
    refine endsHeard_error (hrate.trans (Dialogue.hears_after _ .release () rfl)) ?_
    exact .cause (List.mem_cons_of_mem _ List.mem_cons_self) (.rate _)
  · exact .done (endsHeard_ok hrate ())

/-- How the screening ends. -/
def EndsAdmitted (s : Settings) (raw : RawRequest) (d d' : Dialogue)
    (result : Except Rejection Admission) : Prop :=
  EndsHeard s raw d d' result ∧ ∀ admission, result = .ok admission →
    Identified s raw d'.told admission.token ∧
    match admission.request with
    | none => raw.kind? = none
    | some request => raw.decode = .ok request

/-- An admission that only heard more and is refused on good grounds ends as it should. -/
theorem endsAdmitted_of_error {d' : Dialogue} {r : Rejection} (h : d.Hears d')
    (hgrounds : Grounds s raw d'.told r) : EndsAdmitted s raw d d' (.error r) :=
  ⟨endsHeard_error h hgrounds, fun admission hok => by cases hok⟩

/-- Whoever is admitted asked for what was decoded, or for no known kind of tunnel. -/
theorem screen_candid : (screen s raw).run.Obeys (candor s) (EndsAdmitted s raw d) d := by
  rw [screen]
  refine obeys_run_bind authenticate_candid (fun d₁ _ h₁ => ?_)
    fun d₁ r h₁ => endsAdmitted_of_error h₁.1 (h₁.2 r rfl)
  refine obeys_run_bind identify_candid (fun d₂ token h₂ => ?_)
    fun d₂ r h₂ => endsAdmitted_of_error (h₁.1.trans h₂.1.1) (h₂.1.2 r rfl)
  have hears := h₁.1.trans h₂.1.1
  have htoken := h₂.2 token rfl
  have charged : ∀ request : Option TunnelRequest,
      (match request with
        | none => raw.kind? = none
        | some request => raw.decode = .ok request) →
      (charge s token >>= fun _ => pure ⟨token, request⟩ : Trial Admission).run.Obeys
        (candor s) (EndsAdmitted s raw d) d₂ := fun request hrequest =>
    obeys_run_bind (charge_candid token) (fun d₃ _ h₃ => .done
      ⟨endsHeard_ok (hears.trans h₃.1) _, fun admission hok => by
        cases hok
        exact ⟨htoken.mono h₃.1.goes.told, hrequest⟩⟩)
      fun d₃ r h₃ => endsAdmitted_of_error (hears.trans h₃.1) (h₃.2 r rfl)
  rcases hkind : raw.kind? with _ | kind
  · exact charged none hkind
  · rcases hdecode : raw.decode with r | request
    · exact .done (endsAdmitted_of_error hears (.refused (.fields hkind hdecode)))
    · exact charged (some request) hdecode

/-! ### Claims -/

/-- Whoever is told the owner of a place and judged has grounds. -/
theorem endsCandid_judge {d' : Dialogue} {place : Place} {token owner : TokenId} (h : d.Goes d')
    (hreserved : d'.reserved = []) (howns : s.ownsPlaces = true) (hnames : Names s raw place)
    (htoken : Identified s raw d.told (some token))
    (howner : ⟨.owner place, some (some owner)⟩ ∈ d'.told) :
    EndsCandid s raw d d' (judge token owner) := by
  rw [judge]
  split
  · exact endsCandid_ok h ()
  · rename_i hne
    exact endsCandid_error h ⟨.owned howns hnames (htoken.mono h.told) howner hne,
      .inl hreserved⟩

/-- Whoever cannot be identified cannot own a place. -/
theorem grounds_of_anonymous {told : List Event} {place : Place} (howns : s.ownsPlaces = true)
    (hnames : Names s raw place) {token : Option TokenId} (htoken : Identified s raw told token)
    (hnone : token = none) : Grounds s raw told (.plain .unauthorized) := by
  cases htoken with
  | told _ h => exact .cause h (.anonymous howns hnames hnone)
  | unasked h => simp [Settings.ownsPlaces, h] at howns

/-- A claim that is turned down has reserved nothing. -/
theorem claim_candid {place : Place} {token : Option TokenId} (hraw : d.raw = some raw)
    (hsaid : d.said = []) (hreserved : d.reserved = []) (hnames : Names s raw place)
    (htoken : Identified s raw d.told token) :
    (claim s place token).run.Obeys (candor s) (EndsCandid s raw d) d := by
  rcases howns : s.ownsPlaces with _ | _
  · rw [run_claim_of_not_ownsPlaces howns]
    exact .done (endsCandid_ok (.refl d) ())
  rcases token with _ | token
  · rw [run_claim_none howns]
    exact .done (endsCandid_error (.refl d)
      ⟨grounds_of_anonymous howns hnames htoken rfl, .inl hreserved⟩)
  rw [run_claim howns]
  refine .ask trivial fun reply₁ => ?_
  have h₁ := (d.hears_after (.owner place) reply₁ rfl).goes
  rcases reply₁ with _ | _ | owner
  · exact .done (endsCandid_error h₁
      ⟨.cause List.mem_cons_self (.lookup hnames), .inl hreserved⟩)
  · have hdue : (d.after ⟨.owner place, some none⟩).Reservable s token place :=
      ⟨howns, raw, hraw, hnames, htoken.mono h₁.told⟩
    refine .ask ⟨hsaid, hreserved, hdue⟩ fun reply₂ => ?_
    have h₂ := h₁.trans (Dialogue.goes_after _ (.reserve token place) reply₂
      (by cases reply₂ <;> rfl) (by cases reply₂ <;> rfl))
    rcases reply₂ with _ | _
    · refine .ask trivial fun reply₃ => ?_
      have h₃ := h₂.trans (Dialogue.hears_after _ (.owner place) reply₃ rfl).goes
      have hfailed : Grounds s raw
          (((d.after ⟨.owner place, some none⟩).after ⟨.reserve token place, false⟩).after
            ⟨.owner place, reply₃⟩).told (claimFailed place) :=
        .claim howns hnames (htoken.mono h₃.told) (List.mem_cons_of_mem _ List.mem_cons_self)
      rcases reply₃ with _ | _ | owner
      · exact .done (endsCandid_error h₃ ⟨hfailed, .inl hreserved⟩)
      · exact .done (endsCandid_error h₃ ⟨hfailed, .inl hreserved⟩)
      · exact .done (endsCandid_judge h₃ hreserved howns hnames htoken List.mem_cons_self)
    · exact .done (endsCandid_ok h₂ ())
  · exact .done (endsCandid_judge h₁ hreserved howns hnames htoken List.mem_cons_self)

/-! ### Places -/

/-- Asking whether a port belongs to somebody else only hears the owner, and always finds an answer.
-/
theorem reservedForOther_candid (port : UInt16) (token : Option TokenId) :
    (reservedForOther s port token).run.Obeys (candor s)
      (fun d' result => d.Hears d' ∧ ∃ taken, result = .ok taken) d := by
  rw [reservedForOther]
  rcases s.ownsPlaces with _ | _
  · exact .done ⟨.refl d, false, rfl⟩
  refine .ask trivial fun reply => ?_
  have hears := d.hears_after (.owner (.port port)) reply rfl
  rcases reply with _ | _ | owner
  · exact .done ⟨hears, true, rfl⟩
  · exact .done ⟨hears, false, rfl⟩
  · exact .done ⟨hears, _, rfl⟩

/-- The scan of a range finds one of its ports, or none. -/
theorem bindFirst_candid (token : Option TokenId) (ports : List UInt16) :
    (bindFirst s token ports).run.Obeys (candor s)
      (fun d' result => d.Hears d' ∧
        match result with
        | .ok port => port ∈ ports
        | .error r => r = .plain .noPortsAvailable) d := by
  induction ports generalizing d with
  | nil => exact .done ⟨.refl d, rfl⟩
  | cons port rest ih =>
      refine obeys_run_bind (reservedForOther_candid port token) (fun d₁ taken h₁ => ?_)
        fun d₁ r h₁ => by simp at h₁
      have further : ∀ d₂, d.Hears d₂ → (bindFirst s token rest).run.Obeys (candor s)
          (fun d' result => d.Hears d' ∧
            match result with
            | .ok port' => port' ∈ port :: rest
            | .error r => r = .plain .noPortsAvailable) d₂ := by
        intro d₂ h₂
        refine ih.mono fun d' result h => ⟨h₂.trans h.1, ?_⟩
        rcases result with r | port'
        · exact h.2
        · exact List.mem_cons_of_mem port h.2
      rcases taken with _ | _
      · refine .ask trivial fun reply => ?_
        have h₂ := h₁.1.trans (Dialogue.hears_after d₁ (.bind port) reply rfl)
        rcases reply with _ | _
        · exact further _ h₂
        · exact .done ⟨h₂, List.mem_cons_self⟩
      · exact further d₁ h₁.1

/-- The port is one that the request names, or any one of the range. -/
theorem choosePort_candid {request : TcpTunnelRequest} {token : Option TokenId}
    (hraw : d.raw = some raw) (hsaid : d.said = []) (hreserved : d.reserved = [])
    (hasked : raw.decode = .ok (.tcp request)) (htoken : Identified s raw d.told token) :
    (choosePort s token request.remotePort).run.Obeys (candor s)
      (fun d' result => EndsCandid s raw d d' result ∧
        ∀ port, result = .ok port → ChosenPort s request port) d := by
  rw [choosePort]
  by_cases hport : request.remotePort = 0
  · rw [if_pos hport]
    rcases hrange : s.ports.check with r | range
    · exact .done ⟨endsCandid_error (.refl d)
        ⟨.refused (.range hasked hport hrange), .inl hreserved⟩, fun port h => by cases h⟩
    refine obeys_run_mk_bind ((bindFirst_candid token range.ports).mono fun d' result h => ?_)
    obtain ⟨⟨more, rfl⟩, hfound⟩ := h
    have hgoes := (Dialogue.Hears.goes ⟨more, rfl⟩ : d.Goes (d.hear more))
    rcases result with r | port
    · refine ⟨endsCandid_error hgoes ⟨?_, .inl hreserved⟩, fun port h => by cases h⟩
      exact (hfound : r = _) ▸ .refused (.ports hasked hport)
    · refine ⟨endsCandid_ok hgoes port, fun port' h => ?_⟩
      obtain rfl := Except.ok.inj h
      exact .inr ⟨hport, range, hrange, hfound⟩
  · rw [if_neg hport]
    rcases hchecked : s.ports.checkPort request.remotePort with r | _
    · exact .done ⟨endsCandid_error (.refl d)
        ⟨.refused (.port hasked hport hchecked), .inl hreserved⟩, fun port h => by cases h⟩
    refine obeys_run_mk_bind ?_
    have hnames : Names s raw (.port request.remotePort) := ⟨_, hasked, if_neg hport⟩
    refine obeys_run_bind (claim_candid hraw hsaid hreserved hnames htoken) (fun d₁ _ h₁ => ?_)
      fun d₁ r h₁ => ⟨endsCandid_error h₁.1 (h₁.2 r rfl), fun port h => by cases h⟩
    refine .ask trivial fun reply => ?_
    have h₂ := h₁.1.trans (Dialogue.hears_after d₁ (.bind request.remotePort) reply rfl).goes
    rcases reply with _ | _
    · exact .done ⟨endsCandid_error h₂ ⟨.cause List.mem_cons_self (.bind hasked hport),
        .inr (.bind hasked hport)⟩, fun port h => by cases h⟩
    · refine .done ⟨endsCandid_ok h₂ _, fun port h => ?_⟩
      obtain rfl := Except.ok.inj h
      exact .inl ⟨rfl, hport, hchecked⟩

/-- The id is one that the request names, or it was drawn. -/
theorem chooseId_candid {request : HttpTunnelRequest} {token : Option TokenId}
    (hraw : d.raw = some raw) (hsaid : d.said = []) (hreserved : d.reserved = [])
    (hasked : raw.decode = .ok (.http request)) (htoken : Identified s raw d.told token) :
    (chooseId s token request).run.Obeys (candor s)
      (fun d' result => EndsCandid s raw d d' result ∧
        ∀ id, result = .ok id → ChosenId s d'.told request id) d := by
  rw [chooseId]
  rcases hnamed : namedId s.tunnelDomain request with r | _ | id
  · exact .done ⟨endsCandid_error (.refl d)
      ⟨.refused (.name hasked hnamed), .inl hreserved⟩, fun id h => by cases h⟩
  · refine .ask trivial fun reply => ?_
    have h₁ := (d.hears_after .draw reply rfl).goes
    rcases reply with _ | id
    · exact .done ⟨endsCandid_error h₁
        ⟨.cause List.mem_cons_self (.draw hasked hnamed), .inl hreserved⟩, fun id h => by cases h⟩
    · refine .done ⟨endsCandid_ok h₁ id, fun id' h => ?_⟩
      obtain rfl := Except.ok.inj h
      exact .inr ⟨hnamed, List.mem_cons_self⟩
  · refine obeys_run_mk_bind ?_
    have hnames : Names s raw (.subdomain id) := ⟨_, hasked, by simp only [namedPlace?, hnamed]⟩
    refine obeys_run_bind (claim_candid hraw hsaid hreserved hnames htoken) (fun d₁ _ h₁ => ?_)
      fun d₁ r h₁ => ⟨endsCandid_error h₁.1 (h₁.2 r rfl), fun id h => by cases h⟩
    refine .done ⟨endsCandid_ok h₁.1 id, fun id' h => ?_⟩
    obtain rfl := Except.ok.inj h
    exact .inl hnamed

/-- The policy is read after the place was claimed. -/
theorem prepare_candid {request : HttpTunnelRequest} {token : Option TokenId}
    (hraw : d.raw = some raw) (hsaid : d.said = []) (hreserved : d.reserved = [])
    (hasked : raw.decode = .ok (.http request)) (htoken : Identified s raw d.told token) :
    (prepare s token request).run.Obeys (candor s)
      (fun d' result => EndsCandid s raw d d' result ∧ ∀ id policy, result = .ok (id, policy) →
        ChosenId s d'.told request id ∧ Policy.ofRequest request = .ok policy) d := by
  rw [prepare]
  refine obeys_run_bind (chooseId_candid hraw hsaid hreserved hasked htoken)
    (fun d₁ id h₁ => ?_) fun d₁ r h₁ =>
      ⟨endsCandid_error h₁.1.1 (h₁.1.2 r rfl), fun id policy h => by cases h⟩
  rcases hpolicy : Policy.ofRequest request with e | policy
  · exact .done ⟨endsCandid_error h₁.1.1
      ⟨.refused (.policy hasked hpolicy), .inr (.policy hasked hpolicy)⟩,
      fun id policy h => by cases h⟩
  · refine .done ⟨endsCandid_ok h₁.1.1 _, fun id' policy' h => ?_⟩
    obtain ⟨rfl, rfl⟩ := Prod.mk.inj (Except.ok.inj h)
    exact ⟨h₁.2 id rfl, rfl⟩

/-! ### Whole sessions -/

/-- Whether a session has said something. -/
def Dialogue.Answered (d : Dialogue) : Prop := d.said ≠ []

/-- To turn a request down is to say so. -/
theorem refuse_candid {kind : Option TunnelKind} {r : Rejection} (hsaid : d.said = [])
    (h : Founded s d (.rejected kind r)) :
    (refuse kind r).Obeys (candor s) (fun d' _ => d'.Answered) d :=
  .ask ⟨hsaid, h⟩ fun _ => .ask trivial fun _ => .ask trivial fun _ => .done (List.cons_ne_nil _ _)

/-- What is left to do after an answer says nothing more. -/
theorem serveTcp_candid {request : TcpTunnelRequest} {token : Option TokenId}
    (hraw : d.raw = some raw) (hsaid : d.said = []) (hreserved : d.reserved = [])
    (hkind : raw.kind? = some .tcp) (hasked : raw.decode = .ok (.tcp request))
    (htoken : Identified s raw d.told token) :
    (serveTcp s token request).Obeys (candor s) (fun d' _ => d'.Answered) d := by
  rw [serveTcp]
  refine (choosePort_candid hraw hsaid hreserved hasked htoken).bind fun d₁ result h => ?_
  obtain ⟨⟨hgoes, hdeclines⟩, hport⟩ := h
  have hraw₁ := hgoes.raw.trans hraw
  have hsaid₁ := hgoes.said.trans hsaid
  rcases result with r | port
  · have hgrounds := hdeclines r rfl
    exact refuse_candid hsaid₁ (hkind ▸ .rejected hraw₁ hgrounds.1 hgrounds.2)
  · refine .ask ⟨hsaid₁, .port hraw₁ hasked (hport port rfl)⟩ fun sent => ?_
    rcases sent with _ | _
    · exact .ask trivial fun _ => .ask trivial fun _ => .done (List.cons_ne_nil _ _)
    · exact .ask trivial fun _ => .ask trivial fun _ => .ask trivial fun _ =>
        .done (List.cons_ne_nil _ _)

/-- A session for an HTTP tunnel keeps its dialogue as it should be from the decoded request on, and
has answered by its end. -/
theorem serveHttp_candid {request : HttpTunnelRequest} {token : Option TokenId}
    (hraw : d.raw = some raw) (hsaid : d.said = []) (hreserved : d.reserved = [])
    (hkind : raw.kind? = some .http) (hasked : raw.decode = .ok (.http request))
    (htoken : Identified s raw d.told token) :
    (serveHttp s token request).Obeys (candor s) (fun d' _ => d'.Answered) d := by
  rw [serveHttp]
  refine (prepare_candid hraw hsaid hreserved hasked htoken).bind fun d₁ result h => ?_
  obtain ⟨⟨hgoes, hdeclines⟩, hplace⟩ := h
  have hraw₁ := hgoes.raw.trans hraw
  have hsaid₁ := hgoes.said.trans hsaid
  rcases result with r | ⟨id, policy⟩
  · have hgrounds := hdeclines r rfl
    exact refuse_candid hsaid₁ (hkind ▸ .rejected hraw₁ hgrounds.1 hgrounds.2)
  obtain ⟨hid, hpolicy⟩ := hplace id policy rfl
  refine .ask trivial fun registered => ?_
  rcases registered with _ | _
  · refine refuse_candid hsaid₁ (hkind ▸ .rejected hraw₁ ?_ (.inr (.register hasked)))
    exact .register hasked (hid.mono (List.subset_cons_self _ _)) List.mem_cons_self
  · have hlisted : ChosenId s (d₁.after ⟨.register id policy, true⟩).told request id :=
      hid.mono (List.subset_cons_self _ _)
    refine .ask ⟨hsaid₁, .name hraw₁ hasked hlisted hpolicy⟩ fun sent => ?_
    rcases sent with _ | _
    · exact .ask trivial fun _ => .ask trivial fun _ => .done (List.cons_ne_nil _ _)
    · exact .ask trivial fun _ => .ask trivial fun _ => .ask trivial fun _ =>
        .done (List.cons_ne_nil _ _)

/-- What was decoded is of the kind that the request names. -/
theorem kind?_of_decode {raw : RawRequest} {request : TunnelRequest}
    (h : raw.decode = .ok request) : raw.kind? = some request.kind := by
  rw [RawRequest.decode] at h
  rcases hkind : raw.kind? with _ | _ | _
  · simp [hkind] at h
  · simp only [hkind] at h
    rcases hfields : HttpTunnelRequest.ofFields? raw.fields with _ | fields
    · simp [hfields, Except.map] at h
    · simp only [hfields, Option.elim_some, Except.map, Except.ok.injEq] at h
      rw [← h, TunnelRequest.kind]
  · simp only [hkind] at h
    rcases hfields : TcpTunnelRequest.ofFields? raw.fields with _ | fields
    · simp [hfields, Except.map] at h
    · simp only [hfields, Option.elim_some, Except.map, Except.ok.injEq] at h
      rw [← h, TunnelRequest.kind]

/-- Whoever is admitted is answered. -/
theorem serve_candid {admission : Admission} (hraw : d.raw = some raw) (hsaid : d.said = [])
    (hreserved : d.reserved = []) (htoken : Identified s raw d.told admission.token)
    (hrequest : match admission.request with
      | none => raw.kind? = none
      | some request => raw.decode = .ok request) :
    (serve s admission).Obeys (candor s) (fun d' _ => d'.Answered) d := by
  have last : ∀ (d' : Dialogue) (_ : Unit), d'.Answered →
      (call .release).Obeys (candor s) (fun d'' _ => d''.Answered) d' :=
    fun d' _ h => .ask trivial fun _ => .done h
  rw [serve]
  rcases hasked : admission.request with _ | request | request
  · have hkind : raw.kind? = none := by simpa only [hasked] using hrequest
    refine (refuse_candid hsaid ?_).bind last
    exact hkind ▸ .rejected hraw (.refused (.kind hkind)) (.inl hreserved)
  · have hdecode : raw.decode = .ok (.http request) := by simpa only [hasked] using hrequest
    exact (serveHttp_candid hraw hsaid hreserved (kind?_of_decode hdecode) hdecode htoken).bind last
  · have hdecode : raw.decode = .ok (.tcp request) := by simpa only [hasked] using hrequest
    exact (serveTcp_candid hraw hsaid hreserved (kind?_of_decode hdecode) hdecode htoken).bind last

/-- A session that has received a request, and has said and reserved nothing, is candid. -/
theorem respond_candid (hraw : d.raw = some raw) (hsaid : d.said = [])
    (hreserved : d.reserved = []) :
    (respond s raw).Obeys (candor s) (fun d' _ => d'.Answered) d := by
  rw [respond]
  refine screen_candid.bind fun d₁ result h => ?_
  obtain ⟨⟨⟨more, rfl⟩, hgrounds⟩, hadmitted⟩ := h
  rcases result with r | admission
  · exact refuse_candid hsaid (.rejected hraw (hgrounds r rfl) (.inl hreserved))
  · obtain ⟨htoken, hrequest⟩ := hadmitted admission rfl
    exact serve_candid hraw hsaid hreserved htoken hrequest

end

/-- Whether a message came before the end of the stream. -/
def Dialogue.Addressed (d : Dialogue) : Prop :=
  ∃ reception, ⟨.receive, reception⟩ ∈ d.told ∧ reception ≠ .ended

/-- **Every session is candid**, whatever it is told. If a message came, it has answered by the
time that it ends. -/
theorem session_candid (s : Settings) :
    (session s).Obeys (candor s) (fun d _ => d.Addressed → d.Answered) {} := by
  refine .ask trivial fun opened => ?_
  rcases opened with _ | _
  · refine .ask trivial fun _ => .done ?_
    rintro ⟨reception, hmem, -⟩
    simp [candor, Dialogue.after, Dialogue.note] at hmem
  refine .ask ⟨rfl, rfl⟩ fun reception => ?_
  rcases reception with raw | _ | _
  · exact (respond_candid rfl rfl rfl).mono fun _ _ h _ => h
  · exact (refuse_candid rfl (.malformed rfl)).mono fun _ _ h _ => h
  · refine .ask trivial fun _ => .done ?_
    rintro ⟨reception, hmem, hne⟩
    simp only [candor, Dialogue.after, Dialogue.note, List.mem_cons, Event.mk.injEq, reduceCtorEq,
      false_and, List.not_mem_nil, or_false, false_or, true_and, heq_eq_eq] at hmem
    exact absurd hmem hne

end ReverseTunnel.Server
