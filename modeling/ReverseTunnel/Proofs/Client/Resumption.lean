import ReverseTunnel.Client.Reconnect
import ReverseTunnel.Client.Request
import ReverseTunnel.Proofs.Control.Receive
import ReverseTunnel.Proofs.Domain
import ReverseTunnel.Proofs.Server.Alone
import ReverseTunnel.Proofs.Server.Reservation
import ReverseTunnel.Server.Rehearsal

/-!
# Coming back to the same place

A client that lost its connection asks for what it was granted. Whatever decided over the grant, a
label or a domain that its request named, a random id, a port that it named or one that the server
chose: its new request names that very place, and whatever else was accepted of its first request
is accepted again. So a server in which the place is free, and which lets the token have it, grants
it once more in the same words, and the client goes on.

## Main results

* `granted_of_heard`: what a client was granted, and why.
* `Granted.names`: the new request names the place of the grant.
* `resumption_restores`: the server grants it again, and the client goes on.
-/

namespace ReverseTunnel

open Server

namespace Client

/-! ### What a client asks for again -/

/-- The place that was granted. -/
def Grant.place : Grant → Place
  | .name answer => .subdomain answer.id
  | .port number => .port number

/-- The request for what was granted. -/
def Grant.resume : Grant → TunnelRequest → TunnelRequest
  | .name answer, .http request => .http ((⟨answer.id, answer.url⟩ : HttpIdentity).resume request)
  | .port number, .tcp request => .tcp (resumePort number request)
  | _, request => request

/-- A request for what was granted is of the kind of the first one. -/
theorem Grant.kind_resume (grant : Grant) (request : TunnelRequest) :
    (grant.resume request).kind = request.kind := by
  rcases grant with answer | number <;> rcases request with request | request <;> rfl

/-- A request for what was granted shows the token of the first one. -/
theorem Grant.authtoken_resume (grant : Grant) (request : TunnelRequest) :
    (grant.resume request).raw.authtoken = request.authtoken := by
  rcases grant with answer | number <;> rcases request with request | request
  · change (HttpIdentity.resume _ request).authtoken = request.authtoken
    rw [HttpIdentity.resume]
    split <;> rfl
  · rfl
  · rfl
  · rfl

/-- The policy that a request asks for does not depend on the name that it asks for. -/
theorem ofRequest_resume (previous : HttpIdentity) (request : HttpTunnelRequest) :
    Policy.ofRequest (previous.resume request) = Policy.ofRequest request := by
  rw [HttpIdentity.resume]
  split <;> rfl

end Client

namespace Server

/-! ### Names that are asked for -/

section

variable {domain id : String} {request : HttpTunnelRequest}

/-- The choice of an id is left to the server exactly if the request says nothing of it. -/
theorem namedId_eq_none_iff : namedId domain request = .ok none ↔
    (Text.blank request.subdomain && Text.blank request.domain) = true := by
  rw [namedId, Text.isEmpty_lower, Text.isEmpty_trim, Text.isEmpty_trim]
  rcases hlabel : Text.blank request.subdomain with _ | _ <;>
    rcases hname : Text.blank request.domain with _ | _
  · simp
  · simp only [Bool.false_and, Bool.false_eq_true, iff_false]
    split <;> simp
  · simp only [Bool.and_false, Bool.false_eq_true, iff_false]
    split <;> simp
  · simp

/-- An id that is named is a label. -/
theorem isLabel_of_namedId (h : namedId domain request = .ok (some id)) :
    Domain.isLabel id = true := by
  rw [namedId] at h
  split at h
  · exact absurd (Except.ok.inj h) (by simp)
  · exact absurd h (by simp)
  · split at h
    · rename_i hlabel
      exact Option.some.inj (Except.ok.inj h) ▸ hlabel
    · exact absurd h (by simp)
  · split at h
    · rename_i hfound
      have hlabel := (Option.filter_eq_some_iff.mp hfound).2
      exact Option.some.inj (Except.ok.inj h) ▸ hlabel
    · exact absurd h (by simp)

/-- **The new request names the id that was granted**, whether the old one named it or left it to
the server. -/
theorem namedId_resume {s : Settings} (hdomain : Domain.IsWritten s.tunnelDomain)
    (h : namedId s.tunnelDomain request = .ok (some id) ∨
      namedId s.tunnelDomain request = .ok none ∧ Domain.isLabel id = true) :
    namedId s.tunnelDomain ((⟨id, s.publicUrl id⟩ : Client.HttpIdentity).resume request) =
      .ok (some id) := by
  rw [Client.HttpIdentity.resume]
  rcases h with hnamed | ⟨hnone, hlabel⟩
  · rw [if_neg fun hblank => ?_]
    · exact hnamed
    · rw [namedId_eq_none_iff.mpr hblank] at hnamed
      cases hnamed
  · have hblank := namedId_eq_none_iff.mp hnone
    have hclean := Domain.clean_announced hdomain hlabel
    have htrim : Text.trim (String.ofList (Domain.announced s.tunnelDomain id)) =
        String.ofList (Domain.announced s.tunnelDomain id) := by
      rw [Text.trim, String.toList_ofList, Text.trimBy_of_forall fun c hc =>
        Domain.isBlank_of_isHostChar (hclean.chars c hc)]
    have hsome : (String.ofList (Domain.announced s.tunnelDomain id)).isEmpty = false := by
      simp [Domain.announced]
    have hsubdomain : (Text.lower (Text.trim request.subdomain)).isEmpty = true := by
      rw [Text.isEmpty_lower, Text.isEmpty_trim]
      exact (Bool.and_eq_true_iff.mp hblank).1
    rw [if_pos hblank, Domain.hostOfUrl_publicUrl hdomain hlabel, namedId]
    simp only [hsubdomain, htrim, hsome, hclean.ofInput, Domain.label?_announced hdomain hlabel,
      Option.filter_some, hlabel, if_true]

end

/-! ### Ports that are asked for -/

/-- The ports of a range are those that may be asked for. -/
theorem checkPort_of_mem_ports {range : PortRange} {port : UInt16} (husable : range.usable = true)
    (hmem : port ∈ range.ports) : port ≠ 0 ∧ range.checkPort port = .ok () := by
  have hpositive : range.first.toNat ≠ 0 ∧ range.first.toNat ≤ range.last.toNat := by
    simp only [PortRange.usable, Bool.and_eq_true, bne_iff_ne, ne_eq, decide_eq_true_eq,
      ← UInt16.toNat_inj, UInt16.le_iff_toNat_le] at husable
    exact ⟨husable.1.1, husable.2⟩
  obtain ⟨n, hn, rfl⟩ := List.mem_map.mp hmem
  obtain ⟨hfirst, hlast⟩ := List.mem_range'_1.mp hn
  have hbound := range.last.toNat_lt
  have hsize : n < UInt16.size := by
    rw [UInt16.size]
    omega
  have hnat : (UInt16.ofNat n).toNat = n := UInt16.toNat_ofNat_of_lt hsize
  have hinside : (range.first ≤ UInt16.ofNat n && UInt16.ofNat n ≤ range.last) = true := by
    simp only [Bool.and_eq_true, decide_eq_true_eq, UInt16.le_iff_toNat_le, hnat]
    omega
  refine ⟨fun hzero => ?_, ?_⟩
  · rw [hzero] at hnat
    simp at hnat
    omega
  · rw [PortRange.checkPort, PortRange.check, if_pos husable]
    exact if_pos hinside

/-- **The new request names a port that may be asked for.** -/
theorem checkPort_of_chosen {s : Settings} {request : TcpTunnelRequest} {port : UInt16}
    (h : ChosenPort s request port) : port ≠ 0 ∧ s.ports.checkPort port = .ok () := by
  rcases h with ⟨-, hport, hchecked⟩ | ⟨-, range, hcheck, hmem⟩
  · exact ⟨hport, hchecked⟩
  · rw [PortRange.check] at hcheck
    split at hcheck
    · rename_i husable
      exact checkPort_of_mem_ports husable (Except.ok.inj hcheck ▸ hmem)
    · cases hcheck

end Server

namespace Client

/-! ### What was granted -/

/-- The one message of a reply is read. -/
theorem readAnswer_of_spoken {α : Type} {parse? : Bytes → Option α} {text : Json.Value}
    {message : α} (hspoken : Spoken parse? text message)
    (hfits : text.print.length ≤ maxMessageLength) :
    readAnswer parse? (text.print ++ [Bytes.newline]) = .ok message := by
  rw [readAnswer, Received.ofStream_of_spoken hspoken hfits]

/-- The line of an answer. -/
def answerLine (answer : Answer) : Bytes := answer.toJson.print ++ [Bytes.newline]

section

variable {answer : Answer} {grant : Grant}

/-- If the line of an answer for a name is not too long, the client makes of it what the answer
says. -/
theorem grantOf_http {a : HttpTunnelAnswer} (hfits : (Answer.http a).size ≤ maxMessageLength) :
    grantOf .http (answerLine (.http a)) = nameOf a := by
  have hread : readAnswer HttpTunnelAnswer.parse? (answerLine (.http a)) = .ok a :=
    readAnswer_of_spoken a.spoken hfits
  rw [grantOf, hread]
  rfl

/-- If the line of an answer for a port is not too long, the client makes of it what the answer
says. -/
theorem grantOf_tcp {a : TcpTunnelAnswer} (hfits : (Answer.tcp a).size ≤ maxMessageLength) :
    grantOf .tcp (answerLine (.tcp a)) = portOf a := by
  have hread : readAnswer TcpTunnelAnswer.parse? (answerLine (.tcp a)) = .ok a :=
    readAnswer_of_spoken a.spoken hfits
  rw [grantOf, hread]
  rfl

/-- A grant that was made of a name holds just that name. -/
theorem eq_of_nameOf {id url : String} (h : nameOf (.granted id url) = .ok grant) :
    grant = .name (.granted id url) := by
  have hname : (if Text.blank id || Text.blank url then .error .invalidAnswer
      else .ok (.name (.granted id url)) : Except TunnelError Grant) = .ok grant := h
  split at hname
  · cases hname
  · exact (Except.ok.inj hname).symm

/-- A grant that was made of a port holds just that port. -/
theorem eq_of_portOf {port : UInt16} (h : portOf (.granted port) = .ok grant) :
    grant = .port port := by
  have hport : (if port = 0 then .error .invalidAnswer
      else .ok (.port port) : Except TunnelError Grant) = .ok grant := h
  split at hport
  · cases hport
  · exact (Except.ok.inj hport).symm

section

variable {r : Rejection}

/-- A rejection in the words for names is heard as one, if it is not too long. -/
theorem grantOf_rejected_http (hfits : (Answer.rejected (some .http) r).size ≤ maxMessageLength) :
    grantOf .http (answerLine (.rejected (some .http) r)) = nameOf (.rejected r) :=
  grantOf_http hfits

/-- A rejection in the words for ports is heard as one, if it is not too long. -/
theorem grantOf_rejected_tcp (hfits : (Answer.rejected (some .tcp) r).size ≤ maxMessageLength) :
    grantOf .tcp (answerLine (.rejected (some .tcp) r)) = portOf (.rejected r) :=
  grantOf_tcp hfits

/-- A rejection grants nothing. -/
theorem grantOf_rejected {kind : TunnelKind}
    (hfits : (Answer.rejected (some kind) r).size ≤ maxMessageLength) :
    grantOf kind (answerLine (.rejected (some kind) r)) ≠ .ok grant := by
  rcases kind with _ | _
  · rw [grantOf_rejected_http hfits, nameOf, HttpTunnelAnswer.result]
    rcases hempty : r.message.isEmpty with _ | _
    · simp [HttpTunnelAnswer.rejected, rejection?, hempty, Except.mapError, bind, Except.bind]
    · simp [HttpTunnelAnswer.rejected, rejection?, hempty, Except.mapError, bind, Except.bind,
        Text.blank]
  · rw [grantOf_rejected_tcp hfits, portOf, TcpTunnelAnswer.result]
    rcases hempty : r.message.isEmpty with _ | _
    · simp [TcpTunnelAnswer.rejected, rejection?, hempty, Except.mapError, bind, Except.bind]
    · simp [TcpTunnelAnswer.rejected, rejection?, hempty, Except.mapError, bind, Except.bind]

end

end

/-- What a request was granted, by what its session was told, and what has been checked for it. -/
inductive Granted (s : Settings) (told : List Server.Event) : TunnelRequest → Answer → Grant → Prop
  | name {request : HttpTunnelRequest} {id : String} {policy : Policy}
      (hid : ChosenId s told request id) (hpolicy : Policy.ofRequest request = .ok policy) :
      Granted s told (.http request) (.grantedName id (s.publicUrl id))
        (.name (.granted id (s.publicUrl id)))
  | port {request : TcpTunnelRequest} {port : UInt16} (hport : port ≠ 0)
      (hchecked : s.ports.checkPort port = .ok ()) :
      Granted s told (.tcp request) (.grantedPort port) (.port port)

section

variable {σ : Type} [DecidableEq σ] {settings : Settings} {store : Store}
  {rates : RateLimiter Float} {moves : List (Move σ)} {first : σ}

/-- An id that was drawn is one of those that were to be drawn. -/
theorem isRandomId_of_drawn {id : String}
    (hdraws : ∀ c, .step first c ∈ moves → ∀ id ∈ c.draws, Registry.isRandomId id = true)
    (h : ⟨.draw, some id⟩ ∈
      (dialogue first ((Course.start store rates).run settings moves).trace).told) :
    Registry.isRandomId id = true := by
  obtain ⟨_, c, _, rfl, _, _, -, hreply⟩ := Course.occurred (mem_told_iff.mp h)
  refine hdraws c (by simp) id ?_
  have hfound := hreply.symm
  simp only [perform, Registry.allocate] at hfound
  split at hfound
  · rename_i drawn hdrawn
    obtain rfl : drawn = id := Option.some.inj hfound
    exact List.mem_of_mem_take (List.mem_of_find?_eq_some hdrawn)
  · cases hfound

/-- **What a client was granted** in the course of any moves, by the request that was received
from it. -/
theorem granted_of_heard {raw : RawRequest} {request : TunnelRequest} {answer : Answer}
    {grant : Grant}
    (hraw : (dialogue first ((Course.start store rates).run settings moves).trace).raw = some raw)
    (hdecode : raw.decode = .ok request)
    (hheard : ((Course.start store rates).run settings moves).heard? first = some answer)
    (hgrant : grantOf request.kind (answerLine answer) = .ok grant) :
    Granted settings (dialogue first ((Course.start store rates).run settings moves).trace).told
      request answer grant := by
  have hfits := Course.size_le_of_heard hheard
  have hsaid := mem_said_iff.mpr
    ⟨true, (Course.heard?_eq_some_iff settings store rates moves first answer).mp hheard⟩
  have hfounded := (Course.sound_run settings store rates moves first).founded answer hsaid
  cases hfounded with
  | malformed h => exact absurd (hraw.symm.trans h) (by simp)
  | rejected h hgrounds hlate =>
    obtain rfl := Option.some.inj (hraw.symm.trans h)
    rw [kind?_of_decode hdecode] at hfits hgrant
    exact absurd hgrant (grantOf_rejected hfits)
  | name h hasked hid hpolicy =>
    obtain rfl := Option.some.inj (hraw.symm.trans h)
    obtain rfl := Except.ok.inj (hdecode.symm.trans hasked)
    obtain rfl := eq_of_nameOf ((grantOf_http hfits).symm.trans hgrant)
    exact .name hid hpolicy
  | port h hasked hport =>
    obtain rfl := Option.some.inj (hraw.symm.trans h)
    obtain rfl := Except.ok.inj (hdecode.symm.trans hasked)
    obtain rfl := eq_of_portOf ((grantOf_tcp hfits).symm.trans hgrant)
    obtain ⟨hport, hchecked⟩ := checkPort_of_chosen hport
    exact .port hport hchecked

end

/-! ### What is granted again -/

/-- Whether a server lets whoever shows a token have a place at once: the service that it asks
works, the token is accepted and within its limits, the place is free and nobody else's. -/
structure Welcomes (s : Settings) {σ : Type} (shared : Shared σ) (c : Circumstances)
    (token : String) (place : Place) : Prop where
  opens : c.opens = true
  works : c.works = true
  connected : c.connected = true
  bindable : ∀ port, place = .port port → c.bindable = true
  accepted : Accepts s shared.store token
  permitted : Permits s shared c.now token
  may : MayHave s shared.store token place
  free : shared.at? place.normal = none

section

variable {σ : Type} {s : Settings} {shared : Shared σ} {me : σ} {c : Circumstances} {seat : Seat}
  {request : TunnelRequest} {answer : Answer} {grant : Grant} {told : List Server.Event}

/-- A request within the limit is received as it was written. -/
theorem reception?_of_line {script : Script}
    (hline : requestLine request = .ok script.input) :
    Rehearsal.reception? script = some (.request request.raw) := by
  have hfits : ¬ request.toJson.print.length > maxMessageLength := by
    intro hlarge
    rw [requestLine, encodeLine, if_pos hlarge] at hline
    cases hline
  have hinput : script.input = request.toJson.print ++ [Bytes.newline] := by
    rw [requestLine, encodeLine, if_neg hfits] at hline
    exact (Except.ok.inj hline).symm
  rw [Rehearsal.reception?, hinput,
    Received.ofStream_of_spoken request.spoken (Nat.le_of_not_gt hfits)]

/-- **The new request names the place of the grant**: that of a port always, and that of an id at
any rate where the domain is written as usual. -/
theorem Granted.names (h : Granted s told request answer grant)
    (hdomain : Domain.IsWritten s.tunnelDomain)
    (hdrawn : ∀ id, ⟨.draw, some id⟩ ∈ told → Domain.isLabel id = true) :
    namedPlace? s (grant.resume request) = some grant.place := by
  cases h with
  | @name request id policy hid hpolicy =>
    have hnamed := namedId_resume hdomain (hid.imp_right (.imp_right (hdrawn id)))
    simp only [Grant.resume, HttpTunnelAnswer.granted, namedPlace?, hnamed, Grant.place]
  | port hport _ => exact if_neg hport

/-- What a request asks for that names an id. -/
theorem namedId_of_namedPlace? {request : HttpTunnelRequest} {place : Place}
    (h : namedPlace? s (.http request) = some place) :
    ∃ id, namedId s.tunnelDomain request = .ok (some id) ∧ place = .subdomain id := by
  rw [namedPlace?] at h
  split at h
  · rename_i id hnamed
    exact ⟨id, hnamed, (Option.some.inj h).symm⟩
  · cases h

/-- What the new request for a name asks for. -/
theorem Granted.resume_http (h : Granted s told request answer grant)
    (hnames : namedPlace? s (grant.resume request) = some grant.place) {again : HttpTunnelRequest}
    (hagain : grant.resume request = .http again) :
    ∃ id, answer = .grantedName id (s.publicUrl id) ∧ grant.place = .subdomain id ∧
      Registry.normalId? id = some id ∧ namedId s.tunnelDomain again = .ok (some id) ∧
      ∃ policy, Policy.ofRequest again = .ok policy := by
  rw [hagain] at hnames
  obtain ⟨id, hnamed, hplace⟩ := namedId_of_namedPlace? hnames
  cases h with
  | @name request id' policy hid hpolicy =>
    obtain rfl : id' = id := Place.subdomain.inj hplace
    obtain rfl := TunnelRequest.http.inj hagain
    exact ⟨id', rfl, rfl, Domain.normalId?_of_isLabel (isLabel_of_namedId hnamed), hnamed, policy,
      (ofRequest_resume ⟨id', s.publicUrl id'⟩ request).trans hpolicy⟩
  | port => cases hagain

/-- What the new request for a port asks for. -/
theorem Granted.resume_tcp (h : Granted s told request answer grant) {again : TcpTunnelRequest}
    (hagain : grant.resume request = .tcp again) :
    answer = .grantedPort again.remotePort ∧ grant.place = .port again.remotePort ∧
      again.remotePort ≠ 0 ∧ s.ports.checkPort again.remotePort = .ok () := by
  cases h with
  | name => cases hagain
  | port hport hchecked =>
    obtain rfl := TunnelRequest.tcp.inj hagain
    exact ⟨rfl, rfl, hport, hchecked⟩

/-- **What was granted once is granted again**, to the request for it, where it can be had. -/
theorem Granted.leads (h : Granted s told request answer grant)
    (hnames : namedPlace? s (grant.resume request) = some grant.place)
    (hwelcomes : Welcomes s shared c request.authtoken grant.place) (limiter : Limiter)
    (rates : RateLimiter Float) :
    Leads me c (serve s ⟨identity s shared.store request.authtoken, some (grant.resume request)⟩)
      ({ shared with limiter, rates }, seat) answer := by
  have hmay := hwelcomes.may
  have hnone := hwelcomes.free
  rcases hagain : grant.resume request with again | again
  · obtain ⟨id, rfl, hplace, hid, hnamed, policy, hpolicy⟩ := h.resume_http hnames hagain
    rw [hplace] at hmay hnone
    rw [Registry.normal_of_normalId? hid, Shared.at?, Option.map_eq_none_iff] at hnone
    have hfree : shared.registry.contains id = false := by
      simp [Registry.contains, Registry.get?, hid, hnone]
    have hsome : (Registry.normalId? id).isSome := by
      rw [hid]
      rfl
    have hleads : Leads me c (serveHttp s (identity s shared.store request.authtoken) again)
        ({ shared with limiter, rates }, seat) (.grantedName id (s.publicUrl id)) :=
      serveHttp_leads hwelcomes.works hnamed hpolicy hmay hsome hfree
    exact hleads.bind
  · obtain ⟨rfl, hplace, hport, hchecked⟩ := h.resume_tcp hagain
    rw [hplace] at hmay hnone
    rw [Place.normal, Shared.at?] at hnone
    have hfree : shared.listeners.contains again.remotePort = false := by
      simp [Table.contains, hnone]
    have hleads : Leads me c (serveTcp s (identity s shared.store request.authtoken) again)
        ({ shared with limiter, rates }, seat) (.grantedPort again.remotePort) :=
      serveTcp_leads hwelcomes.works hport hchecked hmay (hwelcomes.bindable _ hplace) hfree
    exact hleads.bind

end

/-- **Resuming restores the tunnel.** A client was granted a name or a port in the course of any
moves; its id was drawn at random, or its request named it by a label or a domain; its port was
named or chosen by the server. Then the request with which it comes back is received as it was
written, and any server of the same settings, in any state in which the place can be had, grants it
in the same words. The client reads the same grant from them, so its run goes on with the new
connection. -/
theorem resumption_restores {settings : Settings} (hdomain : Domain.IsWritten settings.tunnelDomain)
    {σ : Type} [DecidableEq σ] (store : Store) (rates : RateLimiter Float) (moves : List (Move σ))
    {first : σ} {raw : RawRequest} {request : TunnelRequest} {answer : Answer} {grant : Grant}
    (hdraws : ∀ c, .step first c ∈ moves → ∀ id ∈ c.draws, Registry.isRandomId id = true)
    (hraw : (dialogue first ((Course.start store rates).run settings moves).trace).raw = some raw)
    (hdecode : raw.decode = .ok request)
    (hheard : ((Course.start store rates).run settings moves).heard? first = some answer)
    (hgrant : grantOf request.kind (answerLine answer) = .ok grant)
    {τ : Type} [DecidableEq τ] (w : Course τ) {me : τ} (hme : w.system.sessions.get? me = none)
    {script : Script} (hline : requestLine (grant.resume request) = .ok script.input)
    {c : Circumstances} (harrives : Rehearsal.reception? script = some c.arrives)
    (hwelcomes : Welcomes settings w.system.shared c request.authtoken grant.place) :
    (∃ n, (w.run settings (.enter me :: List.replicate n (.step me c))).heard? me = some answer) ∧
      requestTunnel (.sends (answerLine answer)) (grant.resume request) =
        (script.input, .ok grant) ∧
      ∀ {ι : Type} [DecidableEq ι] (known : Grant → ι) (shown : ι → String) (t : Tunnel ι)
        (pause connection : Nat), t.identity = known grant →
        t.judge shown pause connection ((requestTunnel (.sends (answerLine answer))
          (grant.resume request)).2.map known) = t.install connection := by
  have hgranted := granted_of_heard hraw hdecode hheard hgrant
  have hnames := hgranted.names hdomain fun id hdrawn =>
    Domain.isLabel_of_isRandomId (isRandomId_of_drawn hdraws hdrawn)
  have hasked : requestTunnel (.sends (answerLine answer)) (grant.resume request) =
      (script.input, .ok grant) := by
    simp only [requestTunnel, hline, grant.kind_resume, hgrant]
  refine ⟨?_, hasked, fun known shown t pause connection hidentity => ?_⟩
  · have hreceived : c.arrives = .request (grant.resume request).raw :=
      Option.some.inj (harrives.symm.trans (reception?_of_line hline))
    have htoken : (grant.resume request).raw.authtoken = request.authtoken :=
      grant.authtoken_resume request
    have hleads : Leads me c (session settings) (w.system.shared, {}) answer := by
      refine session_leads hwelcomes.opens hreceived hwelcomes.works (TunnelRequest.decode_raw _)
        (htoken ▸ hwelcomes.accepted) (htoken ▸ hwelcomes.permitted) fun limiter rates slot => ?_
      rw [htoken]
      exact hgranted.leads hnames hwelcomes limiter rates
    obtain ⟨n, -, -, hagain⟩ := Course.says_of_leads hme hleads
    exact ⟨n, hagain hwelcomes.connected (Course.size_le_of_heard hheard)⟩
  · rw [hasked]
    exact if_pos hidentity.symm

/-! ### A name that comes back -/

/-- A client whose token is `a` asks for any name. -/
def anyName : TunnelRequest := .http { authtoken := "a" }

/-- What it is granted if the random id is `abcdefgh`. -/
def randomName : HttpTunnelAnswer := .granted "abcdefgh" "https://abcdefgh.t"

/-- The steps of its session. -/
def anyNameMoves : List (Move Unit) :=
  .enter () ::
    List.replicate 8 (.step () { arrives := .request anyName.raw, draws := ["abcdefgh"] })

/-- What it asks for when it comes back. -/
def sameName : TunnelRequest := .http { authtoken := "a", domain := "abcdefgh.t" }

/-- What it then writes. -/
def comesBack : Script := { input := sameName.toJson.print ++ [Bytes.newline] }

/-- It is granted the same name by a server that was started anew. -/
theorem randomName_restored :
    ∃ n, ((Course.start twoTokens {}).run smallServer (.enter () :: List.replicate n
      (.step () { arrives := .request sameName.raw }))).heard? () = some (.http randomName) := by
  have hdomain : Domain.IsWritten smallServer.tunnelDomain :=
    ⟨[['t']], [], [], by decide, by decide, by simp only [List.mem_singleton, forall_eq]; decide,
      .inl rfl, .inl rfl⟩
  have hdraws : ∀ c, .step () c ∈ anyNameMoves →
      ∀ id ∈ c.draws, Registry.isRandomId id = true := by
    intro c hc
    rcases List.mem_cons.mp hc with hc | hc
    · cases hc
    · rw [(Move.step.inj (List.eq_of_mem_replicate hc)).2]
      decide
  have hraw : (dialogue () ((Course.start twoTokens {}).run smallServer anyNameMoves).trace).raw =
      some anyName.raw := rfl
  have hheard : ((Course.start twoTokens {}).run smallServer anyNameMoves).heard? () =
      some (.http randomName) := by decide +kernel
  have hgrant : grantOf anyName.kind (answerLine (.http randomName)) = .ok (.name randomName) :=
    (grantOf_http (by decide +kernel)).trans rfl
  have hresume : (Grant.name randomName).resume anyName = sameName := by decide +kernel
  have hfits : ¬ sameName.toJson.print.length > maxMessageLength := by decide +kernel
  have hline : requestLine sameName = .ok comesBack.input := by
    rw [requestLine, encodeLine, if_neg hfits]
    rfl
  have hwelcomes : Welcomes smallServer (Course.start (σ := Unit) twoTokens {}).system.shared
      { arrives := .request sameName.raw } "a" (.subdomain "abcdefgh") :=
    { opens := rfl
      works := rfl
      connected := rfl
      bindable := fun _ _ => rfl
      accepted := fun _ h => by cases h
      permitted := ⟨rfl, rfl⟩
      may := fun _ => ⟨1, rfl, fun owner h => by cases h⟩
      free := rfl }
  exact (resumption_restores hdomain twoTokens {} anyNameMoves hdraws hraw anyName.decode_raw hheard
    hgrant (Course.start twoTokens {}) rfl (hresume ▸ hline) (reception?_of_line hline)
    hwelcomes).1

end Client

end ReverseTunnel
