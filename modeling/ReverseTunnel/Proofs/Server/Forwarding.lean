import ReverseTunnel.Proofs.Http.Fields
import ReverseTunnel.Proofs.Http.Plain
import ReverseTunnel.Proofs.Server.Access

/-!
# What the server vouches for

Without a proxy in front, a server removes what a visitor says about where it comes from and puts
its own word in that place: the address, the host and the protocol. The client behind the tunnel
is meant to rely on it.

A visitor cannot put in another word. It can take the word away: the fields that concern one
connection are removed last, and a `Connection` field may list any name, those of the server's own
fields and `host` among them.

## Main results

* `values_passedHeaders`: what is left of a field behind all edits.
* `vouched_iff_unlisted`: the server's word arrives exactly if the visitor lists none of it.
* `not_vouched_of_listed`: a visitor that lists it.
-/

namespace ReverseTunnel.Gateway

open Http

variable {σ : Type} {s : Settings} {policy : Policy} {peer : Ip} {host : String}
  {headers : Headers} {name : String}

/-! ### What is vouched for -/

/-- The names of the fields with the server's word. -/
def ownNames : List String := ["x-forwarded-for", "x-forwarded-host", "x-forwarded-proto"]

/-- The fields with the server's word, and what it says there. -/
def ownFields (s : Settings) (peer : Ip) (host : String) : Headers :=
  [("x-forwarded-for", Text.Utf8.encode peer.unmap.print),
    ("x-forwarded-host", Text.Utf8.encode host),
    ("x-forwarded-proto", Text.Utf8.encode (if s.tls then "https" else "http"))]

/-- The forwarding fields that the server has nothing to say in. -/
def silentFields : List String := ["forwarded", "x-forwarded-port", "x-real-ip"]

/-- The fields that a client gets, where those that arrived are the visitor's, say what the server
vouches for: its own word and no other, and the host as it was asked for. -/
structure Vouched (s : Settings) (peer : Ip) (host : String) (arrived sent : Headers) : Prop where
  own : ∀ field ∈ ownFields s peer host, sent.values field.1 = [field.2]
  silent : ∀ name ∈ silentFields, sent.values name = []
  hostField : sent.values "host" = arrived.values "host"

/-- The fields with the server's word have the names of these, in the same order. -/
theorem map_fst_ownFields (s : Settings) (peer : Ip) (host : String) :
    (ownFields s peer host).map Prod.fst = ownNames := rfl

/-- A field with the server's word has one of these names. -/
theorem mem_ownNames {field : String × Bytes} (h : field ∈ ownFields s peer host) :
    field.1 ∈ ownNames := map_fst_ownFields s peer host ▸ List.mem_map_of_mem h

/-! ### One edit at a time -/

/-- A plain text that is set is the one value of its field, and replaces all that was there. -/
theorem values_setText_self {text : String} (h : Plain text.toList) :
    (setText headers name text).values name = [Text.Utf8.encode text] := by
  have hvalue : (Text.Utf8.encode text).all isValueByte = true := by
    simpa only [String.ofList_toList] using h.all_isValueByte
  simp only [setText, if_pos hvalue, Headers.values_set_self]

/-- Setting a text changes no other field, whether or not a field can hold the text. -/
theorem values_setText_of_ne {other text : String} (h : name ≠ other) :
    (setText headers other text).values name = headers.values name := by
  rw [setText]
  split
  · exact Headers.values_set_of_ne _ _ h
  · rfl

/-- The forwarding fields that are set say what the server vouches for, each of them once. -/
theorem values_setForwarding_own (hhost : Plain host.toList) {field : String × Bytes}
    (hfield : field ∈ ownFields s peer host) :
    (setForwarding headers peer.unmap host s.tls).values field.1 = [field.2] := by
  have haddress : Plain peer.unmap.print.toList := by
    rw [Ip.print, String.toList_ofList]
    exact plain_print _
  have hprotocol : Plain (if s.tls then "https" else "http").toList := by
    cases s.tls <;> decide
  simp only [ownFields, List.mem_cons, List.not_mem_nil, or_false] at hfield
  rw [setForwarding]
  rcases hfield with rfl | rfl | rfl
  · dsimp only
    rw [values_setText_of_ne (by decide), values_setText_of_ne (by decide),
      values_setText_self haddress]
  · dsimp only
    rw [values_setText_of_ne (by decide), values_setText_self hhost]
  · exact values_setText_self hprotocol

/-- Other fields are removed or left as they are. -/
theorem values_setForwarding_of_not_own {address : Ip} {tls : Bool}
    (h : name ∉ ownNames) :
    (setForwarding headers address host tls).values name =
      if name ∈ forwardingFields then [] else headers.values name := by
  simp only [ownNames, List.mem_cons, List.not_mem_nil, or_false, not_or] at h
  rw [setForwarding, values_setText_of_ne h.2.2, values_setText_of_ne h.2.1,
    values_setText_of_ne h.1]
  split
  · exact Headers.values_removeAll_of_mem ‹_›
  · exact Headers.values_removeAll_of_not_mem ‹_›

/-- Dropping the credential changes no other field. -/
theorem values_dropCredential (h : name ≠ "authorization") :
    (dropCredential policy headers).values name = headers.values name := by
  rw [dropCredential]
  split
  · exact Headers.values_remove_of_ne _ h
  · rfl

/-- Asking for another protocol changes no field but the two that it is asked in. -/
theorem values_setUpgrade (hconnection : name ≠ "connection") (hupgrade : name ≠ "upgrade")
    (protocol : Option Bytes) :
    (setUpgrade headers protocol).values name = headers.values name := by
  cases protocol with
  | none => rfl
  | some protocol =>
    rw [setUpgrade, Headers.values_set_of_ne _ _ hupgrade, Headers.values_set_of_ne _ _ hconnection]

/-! ### All edits -/

/-- Without trust, what is left of a field is what the server wrote there, unless the visitor
listed the field: then nothing is. -/
theorem values_passedHeaders (hdistrust : s.trustsProxy = false) (hhop : name ∉ hopByHop)
    (hname : name ≠ "") :
    (passedHeaders s policy peer (Visitor.address? s.trustsProxy headers peer) host headers).values
        name =
      if name ∈ headers.connectionWords then []
      else (setForwarding (dropCredential policy headers) peer.unmap host s.tls).values name := by
  have hconnection : name ≠ "connection" := fun h => hhop (h ▸ by decide)
  have hupgrade : name ≠ "upgrade" := fun h => hhop (h ▸ by decide)
  -- The edits before the last leave the `Connection` fields alone: it is the visitor who lists.
  have hwords :
      (setForwarding (dropCredential policy headers) peer.unmap host s.tls).connectionWords =
        headers.connectionWords := by
    refine Headers.connectionWords_congr ?_
    rw [values_setForwarding_of_not_own (by decide), if_neg (by decide),
      values_dropCredential (by decide)]
  have haddress : (Visitor.address? s.trustsProxy headers peer).getD peer = peer.unmap := by
    rw [hdistrust]
    rfl
  rw [passedHeaders, haddress, hdistrust, if_neg Bool.false_ne_true,
    values_setUpgrade hconnection hupgrade, Headers.values_stripHop hhop hname, hwords]

/-- The visitor's host field passes unless it is listed. -/
theorem values_passedHeaders_host (hdistrust : s.trustsProxy = false) :
    (passedHeaders s policy peer (Visitor.address? s.trustsProxy headers peer) host headers).values
        "host" =
      if "host" ∈ headers.connectionWords then [] else headers.values "host" := by
  rw [values_passedHeaders hdistrust (by decide) (by decide),
    values_setForwarding_of_not_own (by decide),
    if_neg (by decide : "host" ∉ forwardingFields), values_dropCredential (by decide)]

/-- The server's word passes unless it is listed. -/
theorem values_passedHeaders_own (hdistrust : s.trustsProxy = false) (hhost : Plain host.toList)
    {field : String × Bytes} (hfield : field ∈ ownFields s peer host) :
    (passedHeaders s policy peer (Visitor.address? s.trustsProxy headers peer) host headers).values
        field.1 =
      if field.1 ∈ headers.connectionWords then [] else [field.2] := by
  have hname : field.1 ∈ ownNames := mem_ownNames hfield
  have hhop : ∀ name ∈ ownNames, name ∉ hopByHop ∧ name ≠ "" := by decide
  rw [values_passedHeaders hdistrust (hhop _ hname).1 (hhop _ hname).2,
    values_setForwarding_own hhost hfield]

/-- Of the fields that the server says nothing in, nothing passes. -/
theorem values_passedHeaders_silent (hdistrust : s.trustsProxy = false)
    (hname : name ∈ silentFields) :
    (passedHeaders s policy peer (Visitor.address? s.trustsProxy headers peer) host headers).values
        name = [] := by
  have hsilent : ∀ name ∈ silentFields, name ∉ hopByHop ∧ name ≠ "" ∧ name ∈ forwardingFields ∧
      name ∉ ownNames := by decide
  obtain ⟨hhop, hempty, hforwarding, hown⟩ := hsilent name hname
  rw [values_passedHeaders hdistrust hhop hempty, values_setForwarding_of_not_own hown,
    if_pos hforwarding, ite_self]

/-! ### What a visitor can take away -/

/-- A visitor lists none of the server's word, and no host field that it sends itself. -/
def Unlisted (headers : Headers) : Prop :=
  (∀ name ∈ ownNames, name ∉ headers.connectionWords) ∧
    ("host" ∈ headers.connectionWords → headers.values "host" = [])

/-- What is passed on is vouched for exactly if the visitor lists none of it. -/
theorem vouched_passedHeaders_iff (hdistrust : s.trustsProxy = false) (hhost : Plain host.toList) :
    Vouched s peer host headers
        (passedHeaders s policy peer (Visitor.address? s.trustsProxy headers peer) host headers) ↔
      Unlisted headers := by
  constructor
  · intro hvouched
    refine ⟨fun name hname hlisted => ?_, fun hlisted => ?_⟩
    · rw [← map_fst_ownFields s peer host] at hname
      obtain ⟨field, hfield, rfl⟩ := List.mem_map.mp hname
      have hvalue := hvouched.own field hfield
      rw [values_passedHeaders_own hdistrust hhost hfield, if_pos hlisted] at hvalue
      cases hvalue
    · rw [← hvouched.hostField, values_passedHeaders_host hdistrust, if_pos hlisted]
  · rintro ⟨hown, hlisted⟩
    refine ⟨fun field hfield => ?_, fun name hname => ?_, ?_⟩
    · rw [values_passedHeaders_own hdistrust hhost hfield,
        if_neg (hown field.1 (mem_ownNames hfield))]
    · exact values_passedHeaders_silent hdistrust hname
    · rw [values_passedHeaders_host hdistrust]
      split
      · rename_i hhostListed
        exact (hlisted hhostListed).symm
      · rfl

/-- **The server's word arrives unless the visitor lists it.** Without trust in a proxy, a visitor
never puts its own word in place of the server's: each field has the server's value or, if a
`Connection` field lists it, none. So what the client gets is vouched for exactly if the visitor
lists none of it. -/
theorem vouched_iff_unlisted (s : Settings) (registry : Registry σ) (tunnel : Tunnel σ) (peer : Ip)
    (request : Request) (target host : String) (hdistrust : s.trustsProxy = false)
    (htarget : Uri.parse? target = some request.uri)
    (hreaches : Reaches s registry request host tunnel) (sent : Request) (upgrades : Bool)
    (hsent : route s registry peer request = .forwarded tunnel sent upgrades) :
    let passed := passedHeaders s tunnel.policy peer
      (Visitor.address? s.trustsProxy request.headers peer) host request.headers
    sent.headers = tunnel.policy.transformRequest passed ∧
      (∀ field ∈ ownFields s peer host, passed.values field.1 =
        if field.1 ∈ request.headers.connectionWords then [] else [field.2]) ∧
      (∀ name ∈ silentFields, passed.values name = []) ∧
      (Vouched s peer host request.headers passed ↔ Unlisted request.headers) := by
  intro passed
  have hhost : Plain host.toList :=
    Request.plain_host? (Uri.Form.of_parse? htarget) hreaches.named
  rw [route_of_reaches hreaches] at hsent
  obtain ⟨-, rfl⟩ := of_visit_eq_forwarded hsent
  refine ⟨rfl, ?_, ?_, vouched_passedHeaders_iff hdistrust hhost⟩
  · intro field hfield
    exact values_passedHeaders_own hdistrust hhost hfield
  · intro name hname
    exact values_passedHeaders_silent hdistrust hname

/-- A server that trusts no proxy. -/
def bareSettings : Settings := ⟨"tunnel.test", false, false⟩

/-- A tunnel that asks for nothing. -/
def bareTunnel : Tunnel Unit := ⟨"demo", (), {}⟩

/-- The server with that tunnel alone. -/
def bareRegistry : Registry Unit := ⟨⟨[("demo", bareTunnel)]⟩⟩

/-- A visitor asks for `/` with these words in its `Connection` field. -/
def listingVisit (words : String) : Request where
  method := "GET"
  uri := ⟨none, none, "/", none⟩
  headers := [("host", Text.Utf8.encode "demo.tunnel.test"),
    ("connection", Text.Utf8.encode words)]

/-- The loopback address. -/
def loopback : Ip := .v4 0x7F000001

/-- The fields that the client gets for that visit. -/
def listingPassed (words : String) : Headers :=
  passedHeaders bareSettings bareTunnel.policy loopback
    (Visitor.address? bareSettings.trustsProxy (listingVisit words).headers loopback)
    "demo.tunnel.test" (listingVisit words).headers

/-- A visitor that lists a field of no concern gets through with the server's word. -/
theorem vouched_of_keepAlive :
    bareSettings.trustsProxy = false ∧ Uri.parse? "/" = some (listingVisit "keep-alive").uri ∧
      Reaches bareSettings bareRegistry (listingVisit "keep-alive") "demo.tunnel.test"
        bareTunnel ∧
      ∃ sent upgrades, route bareSettings bareRegistry loopback (listingVisit "keep-alive") =
          .forwarded bareTunnel sent upgrades ∧
        Vouched bareSettings loopback "demo.tunnel.test" (listingVisit "keep-alive").headers
          (listingPassed "keep-alive") := by
  have htarget : Uri.parse? "/" = some (listingVisit "keep-alive").uri := by decide +kernel
  have hreaches : Reaches bareSettings bareRegistry (listingVisit "keep-alive")
      "demo.tunnel.test" bareTunnel := ⟨by decide +kernel, by decide +kernel, rfl⟩
  have hsent := (route_of_reaches hreaches loopback).trans (visit_of_ok rfl)
  have hunlisted : Unlisted (listingVisit "keep-alive").headers :=
    ⟨by decide +kernel, by decide +kernel⟩
  have ⟨_, _, _, hvouched⟩ := vouched_iff_unlisted bareSettings bareRegistry bareTunnel loopback
    (listingVisit "keep-alive") "/" "demo.tunnel.test" rfl htarget hreaches _ _ hsent
  exact ⟨rfl, htarget, hreaches, _, _, hsent, hvouched.mpr hunlisted⟩

/-- A visitor that lists the field with its address gets through without the server's word. -/
theorem not_vouched_of_listed :
    bareSettings.trustsProxy = false ∧
      ∃ sent upgrades, route bareSettings bareRegistry loopback (listingVisit "x-forwarded-for") =
          .forwarded bareTunnel sent upgrades ∧
        ¬ Vouched bareSettings loopback "demo.tunnel.test"
          (listingVisit "x-forwarded-for").headers (listingPassed "x-forwarded-for") := by
  have hreaches : Reaches bareSettings bareRegistry (listingVisit "x-forwarded-for")
      "demo.tunnel.test" bareTunnel := ⟨by decide +kernel, by decide +kernel, rfl⟩
  have hsent := (route_of_reaches hreaches loopback).trans (visit_of_ok rfl)
  refine ⟨rfl, _, _, hsent, fun hvouched => ?_⟩
  have hgone : (listingPassed "x-forwarded-for").values "x-forwarded-for" = [] := by
    decide +kernel
  have hkept := hvouched.own _ List.mem_cons_self
  rw [hgone] at hkept
  cases hkept

end ReverseTunnel.Gateway
