import ReverseTunnel.Proofs.Json.Fields
import ReverseTunnel.Server.Session

/-!
# Requests in two steps

A request is read twice: for its type and token, by which it is admitted, and then for the fields of
the type. Both times it is the same object that is read, and of a repeated field the last value, so
what is admitted and what is served are one request. Which request that is, is said here field by
field, by what the values mean; a field that is absent says what stands for nothing, and a field that
the type does not have says nothing.

## Main results

* `TunnelRequest.ofFields?_eq_some_iff`: the fields of a type are read as the request that they say.
* `TunnelRequest.ofFields?_eq_none_iff`: they are read as none if the value of one has the wrong
  shape.
* `RawRequest.both_steps_agree`: what both steps make of a line.
-/

namespace ReverseTunnel

open Json Text

variable {fields : List (String × Value)} {name : String}

/-! ### Fields -/

/-- A text field is read exactly as the fields say it: the last one of the name, and an empty text
if there is none. -/
theorem readText_eq_some_iff {text : String} :
    readText fields name = some text ↔ Says IsText "" fields name text := by
  rw [← elim_field?_eq_some_iff string?_eq_some_iff, readText]
  cases Value.field? fields name <;> rfl

/-- A field for a list of texts is read exactly as the fields say it, and an empty list if there is
none. -/
theorem readList_eq_some_iff {texts : List String} :
    readList fields name = some texts ↔ Says (AreAll IsText) [] fields name texts := by
  rw [← elim_field?_eq_some_iff strings?_eq_some_iff, readList]
  cases Value.field? fields name <;> rfl

/-- A field for a port is read exactly as the fields say it, and as zero if there is none. -/
theorem readPort_eq_some_iff {port : UInt16} :
    readPort fields name = some port ↔ Says IsPort 0 fields name port := by
  rw [← elim_field?_eq_some_iff port?_eq_some_iff, readPort]
  cases Value.field? fields name <;> rfl

/-- A header entry is written as an object, or as an array of its name and value of which the last
ones may be missing. -/
inductive IsHeader : Value → HeaderEntry → Prop
  | object {fields : List (String × Value)} {name value : String}
      (hname : Says IsText "" fields "name" name) (hvalue : Says IsText "" fields "value" value) :
      IsHeader (.object fields) ⟨name, value⟩
  | none : IsHeader (.array []) ⟨"", ""⟩
  | name {name : String} : IsHeader (.array [.string name]) ⟨name, ""⟩
  | both {name value : String} : IsHeader (.array [.string name, .string value]) ⟨name, value⟩

/-- Which values are a header with its value. -/
theorem HeaderEntry.ofJson?_eq_some_iff (v : Value) (entry : HeaderEntry) :
    HeaderEntry.ofJson? v = some entry ↔ IsHeader v entry := by
  constructor
  · intro h
    rw [HeaderEntry.ofJson?.eq_def] at h
    split at h
    · obtain ⟨name, hname, h⟩ := Option.bind_eq_some_iff.mp h
      obtain ⟨value, hvalue, h⟩ := Option.bind_eq_some_iff.mp h
      cases h
      exact .object (readText_eq_some_iff.mp hname) (readText_eq_some_iff.mp hvalue)
    · cases h
      exact .none
    · obtain ⟨name, hname, h⟩ := Option.bind_eq_some_iff.mp h
      cases h
      cases (string?_eq_some_iff _ _).mp hname
      exact .name
    · obtain ⟨name, hname, h⟩ := Option.bind_eq_some_iff.mp h
      obtain ⟨value, hvalue, h⟩ := Option.bind_eq_some_iff.mp h
      cases h
      cases (string?_eq_some_iff _ _).mp hname
      cases (string?_eq_some_iff _ _).mp hvalue
      exact .both
    · cases h
  · rintro (⟨hname, hvalue⟩ | _ | _ | _)
    · rw [HeaderEntry.ofJson?, readText_eq_some_iff.mpr hname, readText_eq_some_iff.mpr hvalue]
      rfl
    · rfl
    · rfl
    · rfl

/-- A field for headers is read exactly as the fields say it, and an empty list if there is none. -/
theorem readHeaders_eq_some_iff {entries : List HeaderEntry} :
    readHeaders fields name = some entries ↔ Says (AreAll IsHeader) [] fields name entries := by
  rw [← elim_field?_eq_some_iff (items?_eq_some_iff HeaderEntry.ofJson?_eq_some_iff), readHeaders]
  rcases Value.field? fields name with _ | (_ | _ | _ | _ | _ | _) <;> rfl

/-! ### Shapes -/

/-- The shape that the value of a field has to have. -/
inductive Shape where
  | text
  | texts
  | headers
  | port

/-- A value has a shape if it means something in that shape. -/
def Shape.Fits : Shape → Value → Prop
  | .text, v => ∃ text, IsText v text
  | .texts, v => ∃ texts, AreAll IsText v texts
  | .headers, v => ∃ entries, AreAll IsHeader v entries
  | .port, v => ∃ port, IsPort v port

/-- The fields of each type of request. -/
def TunnelKind.shapes : TunnelKind → List (String × Shape)
  | .http => [("authtoken", .text), ("subdomain", .text), ("domain", .text), ("basic_auth", .text),
      ("allow_cidr", .texts), ("deny_cidr", .texts), ("request_header_add", .headers),
      ("request_header_remove", .texts), ("response_header_add", .headers),
      ("response_header_remove", .texts), ("allow_method", .texts), ("allow_path", .texts),
      ("allow_path_prefix", .texts)]
  | .tcp => [("authtoken", .text), ("remote_port", .port)]

/-- Every field of a type that has a value has one of the right shape. -/
def TunnelKind.Fit (kind : TunnelKind) (fields : List (String × Value)) : Prop :=
  ∀ field ∈ kind.shapes, ∀ v, Counts fields field.1 v → field.2.Fits v

/-! ### Requests for a name -/

namespace HttpTunnelRequest

/-- A request that says field by field what an object says. -/
structure SaidBy (fields : List (String × Value)) (r : HttpTunnelRequest) : Prop where
  authtoken : Says IsText "" fields "authtoken" r.authtoken
  subdomain : Says IsText "" fields "subdomain" r.subdomain
  domain : Says IsText "" fields "domain" r.domain
  basicAuth : Says IsText "" fields "basic_auth" r.basicAuth
  allowCidr : Says (AreAll IsText) [] fields "allow_cidr" r.allowCidr
  denyCidr : Says (AreAll IsText) [] fields "deny_cidr" r.denyCidr
  requestHeaderAdd : Says (AreAll IsHeader) [] fields "request_header_add" r.requestHeaderAdd
  requestHeaderRemove :
    Says (AreAll IsText) [] fields "request_header_remove" r.requestHeaderRemove
  responseHeaderAdd : Says (AreAll IsHeader) [] fields "response_header_add" r.responseHeaderAdd
  responseHeaderRemove :
    Says (AreAll IsText) [] fields "response_header_remove" r.responseHeaderRemove
  allowMethod : Says (AreAll IsText) [] fields "allow_method" r.allowMethod
  allowPath : Says (AreAll IsText) [] fields "allow_path" r.allowPath
  allowPathPrefix : Says (AreAll IsText) [] fields "allow_path_prefix" r.allowPathPrefix

/-- **What a request for a name is read from**: fields that say each part of it, and nothing else
about them matters. -/
theorem ofFields?_eq_some_iff {r : HttpTunnelRequest} :
    ofFields? fields = some r ↔ r.SaidBy fields := by
  constructor
  · intro h
    obtain ⟨authtoken, hauthtoken, h⟩ := Option.bind_eq_some_iff.mp h
    obtain ⟨subdomain, hsubdomain, h⟩ := Option.bind_eq_some_iff.mp h
    obtain ⟨domain, hdomain, h⟩ := Option.bind_eq_some_iff.mp h
    obtain ⟨basicAuth, hbasicAuth, h⟩ := Option.bind_eq_some_iff.mp h
    obtain ⟨allowCidr, hallowCidr, h⟩ := Option.bind_eq_some_iff.mp h
    obtain ⟨denyCidr, hdenyCidr, h⟩ := Option.bind_eq_some_iff.mp h
    obtain ⟨requestHeaderAdd, hrequestHeaderAdd, h⟩ := Option.bind_eq_some_iff.mp h
    obtain ⟨requestHeaderRemove, hrequestHeaderRemove, h⟩ := Option.bind_eq_some_iff.mp h
    obtain ⟨responseHeaderAdd, hresponseHeaderAdd, h⟩ := Option.bind_eq_some_iff.mp h
    obtain ⟨responseHeaderRemove, hresponseHeaderRemove, h⟩ := Option.bind_eq_some_iff.mp h
    obtain ⟨allowMethod, hallowMethod, h⟩ := Option.bind_eq_some_iff.mp h
    obtain ⟨allowPath, hallowPath, h⟩ := Option.bind_eq_some_iff.mp h
    obtain ⟨allowPathPrefix, hallowPathPrefix, h⟩ := Option.bind_eq_some_iff.mp h
    cases h
    exact ⟨readText_eq_some_iff.mp hauthtoken, readText_eq_some_iff.mp hsubdomain,
      readText_eq_some_iff.mp hdomain, readText_eq_some_iff.mp hbasicAuth,
      readList_eq_some_iff.mp hallowCidr, readList_eq_some_iff.mp hdenyCidr,
      readHeaders_eq_some_iff.mp hrequestHeaderAdd, readList_eq_some_iff.mp hrequestHeaderRemove,
      readHeaders_eq_some_iff.mp hresponseHeaderAdd,
      readList_eq_some_iff.mp hresponseHeaderRemove, readList_eq_some_iff.mp hallowMethod,
      readList_eq_some_iff.mp hallowPath, readList_eq_some_iff.mp hallowPathPrefix⟩
  · intro h
    rw [ofFields?, readText_eq_some_iff.mpr h.authtoken, readText_eq_some_iff.mpr h.subdomain,
      readText_eq_some_iff.mpr h.domain, readText_eq_some_iff.mpr h.basicAuth,
      readList_eq_some_iff.mpr h.allowCidr, readList_eq_some_iff.mpr h.denyCidr,
      readHeaders_eq_some_iff.mpr h.requestHeaderAdd,
      readList_eq_some_iff.mpr h.requestHeaderRemove,
      readHeaders_eq_some_iff.mpr h.responseHeaderAdd,
      readList_eq_some_iff.mpr h.responseHeaderRemove, readList_eq_some_iff.mpr h.allowMethod,
      readList_eq_some_iff.mpr h.allowPath, readList_eq_some_iff.mpr h.allowPathPrefix]
    rfl

/-- An object says a request for a name if its fields have the shapes for one. -/
theorem exists_saidBy_iff : (∃ r, SaidBy fields r) ↔ TunnelKind.http.Fit fields := by
  simp only [TunnelKind.Fit, TunnelKind.shapes, List.forall_mem_cons]
  constructor
  · rintro ⟨r, h⟩
    exact ⟨exists_says_iff.mp ⟨_, h.authtoken⟩, exists_says_iff.mp ⟨_, h.subdomain⟩,
      exists_says_iff.mp ⟨_, h.domain⟩, exists_says_iff.mp ⟨_, h.basicAuth⟩,
      exists_says_iff.mp ⟨_, h.allowCidr⟩, exists_says_iff.mp ⟨_, h.denyCidr⟩,
      exists_says_iff.mp ⟨_, h.requestHeaderAdd⟩, exists_says_iff.mp ⟨_, h.requestHeaderRemove⟩,
      exists_says_iff.mp ⟨_, h.responseHeaderAdd⟩, exists_says_iff.mp ⟨_, h.responseHeaderRemove⟩,
      exists_says_iff.mp ⟨_, h.allowMethod⟩, exists_says_iff.mp ⟨_, h.allowPath⟩,
      exists_says_iff.mp ⟨_, h.allowPathPrefix⟩, fun _ h => absurd h List.not_mem_nil⟩
  · have text {name : String} (h : ∀ v, Counts fields name v → Shape.text.Fits v) :
        ∃ text, Says IsText "" fields name text := exists_says_iff.mpr h
    have texts {name : String} (h : ∀ v, Counts fields name v → Shape.texts.Fits v) :
        ∃ texts, Says (AreAll IsText) [] fields name texts := exists_says_iff.mpr h
    have headers {name : String} (h : ∀ v, Counts fields name v → Shape.headers.Fits v) :
        ∃ entries, Says (AreAll IsHeader) [] fields name entries := exists_says_iff.mpr h
    rintro ⟨h1, h2, h3, h4, h5, h6, h7, h8, h9, h10, h11, h12, h13, -⟩
    obtain ⟨authtoken, hauthtoken⟩ := text h1
    obtain ⟨subdomain, hsubdomain⟩ := text h2
    obtain ⟨domain, hdomain⟩ := text h3
    obtain ⟨basicAuth, hbasicAuth⟩ := text h4
    obtain ⟨allowCidr, hallowCidr⟩ := texts h5
    obtain ⟨denyCidr, hdenyCidr⟩ := texts h6
    obtain ⟨requestHeaderAdd, hrequestHeaderAdd⟩ := headers h7
    obtain ⟨requestHeaderRemove, hrequestHeaderRemove⟩ := texts h8
    obtain ⟨responseHeaderAdd, hresponseHeaderAdd⟩ := headers h9
    obtain ⟨responseHeaderRemove, hresponseHeaderRemove⟩ := texts h10
    obtain ⟨allowMethod, hallowMethod⟩ := texts h11
    obtain ⟨allowPath, hallowPath⟩ := texts h12
    obtain ⟨allowPathPrefix, hallowPathPrefix⟩ := texts h13
    exact ⟨⟨authtoken, subdomain, domain, basicAuth, allowCidr, denyCidr, requestHeaderAdd,
        requestHeaderRemove, responseHeaderAdd, responseHeaderRemove, allowMethod, allowPath,
        allowPathPrefix⟩,
      hauthtoken, hsubdomain, hdomain, hbasicAuth, hallowCidr, hdenyCidr, hrequestHeaderAdd,
      hrequestHeaderRemove, hresponseHeaderAdd, hresponseHeaderRemove, hallowMethod, hallowPath,
      hallowPathPrefix⟩

/-- The request is made of the fields of its type. -/
theorem ofFields?_congr {fields' : List (String × Value)}
    (h : ∀ field ∈ TunnelKind.http.shapes, Agree fields fields' field.1) :
    ofFields? fields = ofFields? fields' := by
  simp only [TunnelKind.shapes, List.forall_mem_cons] at h
  obtain ⟨h1, h2, h3, h4, h5, h6, h7, h8, h9, h10, h11, h12, h13, -⟩ := h
  simp only [ofFields?, readText, readList, readHeaders, h1.field?_eq, h2.field?_eq,
    h3.field?_eq, h4.field?_eq, h5.field?_eq, h6.field?_eq, h7.field?_eq, h8.field?_eq,
    h9.field?_eq, h10.field?_eq, h11.field?_eq, h12.field?_eq, h13.field?_eq]

end HttpTunnelRequest

/-! ### Requests for a port -/

namespace TcpTunnelRequest

/-- A request that says field by field what an object says. -/
structure SaidBy (fields : List (String × Value)) (r : TcpTunnelRequest) : Prop where
  authtoken : Says IsText "" fields "authtoken" r.authtoken
  remotePort : Says IsPort 0 fields "remote_port" r.remotePort

/-- **What a request for a port is read from**: fields that say each part of it, and nothing else
about them matters. -/
theorem ofFields?_eq_some_iff {r : TcpTunnelRequest} :
    ofFields? fields = some r ↔ r.SaidBy fields := by
  constructor
  · intro h
    obtain ⟨authtoken, hauthtoken, h⟩ := Option.bind_eq_some_iff.mp h
    obtain ⟨remotePort, hremotePort, h⟩ := Option.bind_eq_some_iff.mp h
    cases h
    exact ⟨readText_eq_some_iff.mp hauthtoken, readPort_eq_some_iff.mp hremotePort⟩
  · intro h
    rw [ofFields?, readText_eq_some_iff.mpr h.authtoken, readPort_eq_some_iff.mpr h.remotePort]
    rfl

/-- An object says a request for a port if its fields have the shapes for one. -/
theorem exists_saidBy_iff : (∃ r, SaidBy fields r) ↔ TunnelKind.tcp.Fit fields := by
  simp only [TunnelKind.Fit, TunnelKind.shapes, List.forall_mem_cons]
  constructor
  · rintro ⟨r, h⟩
    exact ⟨exists_says_iff.mp ⟨_, h.authtoken⟩, exists_says_iff.mp ⟨_, h.remotePort⟩,
      fun _ h => absurd h List.not_mem_nil⟩
  · rintro ⟨h1, h2, -⟩
    have htoken : ∃ text, Says IsText "" fields "authtoken" text := exists_says_iff.mpr h1
    have hport : ∃ port, Says IsPort 0 fields "remote_port" port := exists_says_iff.mpr h2
    obtain ⟨authtoken, hauthtoken⟩ := htoken
    obtain ⟨remotePort, hremotePort⟩ := hport
    exact ⟨⟨authtoken, remotePort⟩, hauthtoken, hremotePort⟩

/-- The request is made of the fields of its type. -/
theorem ofFields?_congr {fields' : List (String × Value)}
    (h : ∀ field ∈ TunnelKind.tcp.shapes, Agree fields fields' field.1) :
    ofFields? fields = ofFields? fields' := by
  simp only [TunnelKind.shapes, List.forall_mem_cons] at h
  obtain ⟨h1, h2, -⟩ := h
  simp only [ofFields?, readText, readPort, h1.field?_eq, h2.field?_eq]

end TcpTunnelRequest

/-! ### Requests of either type -/

namespace TunnelRequest

/-- A request that says field by field what an object says. -/
def SaidBy (fields : List (String × Value)) : TunnelRequest → Prop
  | .http r => r.SaidBy fields
  | .tcp r => r.SaidBy fields

/-- The token of a request is the one that its object says, whatever the type. -/
theorem SaidBy.says_authtoken {request : TunnelRequest} (h : request.SaidBy fields) :
    Says IsText "" fields "authtoken" request.authtoken := by
  cases request with
  | http r => exact HttpTunnelRequest.SaidBy.authtoken h
  | tcp r => exact TcpTunnelRequest.SaidBy.authtoken h

/-- The request of a type that the fields make. -/
def ofFields? (kind : TunnelKind) (fields : List (String × Value)) : Option TunnelRequest :=
  match kind with
  | .http => (HttpTunnelRequest.ofFields? fields).map .http
  | .tcp => (TcpTunnelRequest.ofFields? fields).map .tcp

variable {kind : TunnelKind}

/-- Which request of a kind is read from fields: the one of that kind that they say. -/
theorem ofFields?_eq_some_iff {request : TunnelRequest} :
    ofFields? kind fields = some request ↔ request.kind = kind ∧ request.SaidBy fields := by
  cases kind with
  | http =>
    rw [ofFields?, Option.map_eq_some_iff]
    constructor
    · rintro ⟨r, hr, rfl⟩
      exact ⟨rfl, HttpTunnelRequest.ofFields?_eq_some_iff.mp hr⟩
    · rintro ⟨hkind, hsaid⟩
      cases request with
      | http r => exact ⟨r, HttpTunnelRequest.ofFields?_eq_some_iff.mpr hsaid, rfl⟩
      | tcp r => cases hkind
  | tcp =>
    rw [ofFields?, Option.map_eq_some_iff]
    constructor
    · rintro ⟨r, hr, rfl⟩
      exact ⟨rfl, TcpTunnelRequest.ofFields?_eq_some_iff.mp hr⟩
    · rintro ⟨hkind, hsaid⟩
      cases request with
      | http r => cases hkind
      | tcp r => exact ⟨r, TcpTunnelRequest.ofFields?_eq_some_iff.mpr hsaid, rfl⟩

/-- No request of a kind is read exactly if the fields do not fit the kind. -/
theorem ofFields?_eq_none_iff_not_fit :
    ofFields? kind fields = none ↔ ¬ kind.Fit fields := by
  cases kind with
  | http =>
    rw [ofFields?, Option.map_eq_none_iff, Option.eq_none_iff_forall_ne_some,
      ← HttpTunnelRequest.exists_saidBy_iff, not_exists]
    exact forall_congr' fun r => not_congr HttpTunnelRequest.ofFields?_eq_some_iff
  | tcp =>
    rw [ofFields?, Option.map_eq_none_iff, Option.eq_none_iff_forall_ne_some,
      ← TcpTunnelRequest.exists_saidBy_iff, not_exists]
    exact forall_congr' fun r => not_congr TcpTunnelRequest.ofFields?_eq_some_iff

/-- The fields make no request exactly if the value of one has the wrong shape. -/
theorem ofFields?_eq_none_iff :
    ofFields? kind fields = none ↔
      ∃ field ∈ kind.shapes, ∃ v, Counts fields field.1 v ∧ ¬ field.2.Fits v := by
  rw [ofFields?_eq_none_iff_not_fit, TunnelKind.Fit]
  simp only [Classical.not_forall, exists_prop]

/-- The request is made of the fields of its type. -/
theorem ofFields?_congr {fields' : List (String × Value)}
    (h : ∀ field ∈ kind.shapes, Agree fields fields' field.1) :
    ofFields? kind fields = ofFields? kind fields' := by
  cases kind with
  | http => rw [ofFields?, ofFields?, HttpTunnelRequest.ofFields?_congr h]
  | tcp => rw [ofFields?, ofFields?, TcpTunnelRequest.ofFields?_congr h]

end TunnelRequest

/-! ### Both steps -/

/-- Which texts name a kind: its tag, in letters of any case and with blanks around it. -/
theorem TunnelKind.parse?_eq_some_iff {s : String} {kind : TunnelKind} :
    TunnelKind.parse? s = some kind ↔ lower (trim s) = kind.tag := by
  simp only [TunnelKind.parse?, beq_iff_eq]
  split
  · rename_i hword
    cases kind <;> simp [hword, TunnelKind.tag]
  · split
    · rename_i hword
      cases kind <;> simp [hword, TunnelKind.tag]
    · rename_i hhttp htcp
      cases kind <;> simp [hhttp, htcp, TunnelKind.tag]

namespace RawRequest

/-- A type names a kind of tunnel, in either case and with blanks around it. -/
def Names (raw : RawRequest) (kind : TunnelKind) : Prop := lower (trim raw.type) = kind.tag

/-- The fields of which any notice is taken: the type, the token, and those of the type. -/
def Heeds (raw : RawRequest) (name : String) : Prop :=
  name = "type" ∨ name = "authtoken" ∨
    ∃ kind, raw.Names kind ∧ ∃ field ∈ kind.shapes, field.1 = name

variable {raw : RawRequest} {kind : TunnelKind}

/-- The kind of a message is the one that it names. -/
theorem kind?_eq_some_iff : raw.kind? = some kind ↔ raw.Names kind := TunnelKind.parse?_eq_some_iff

/-- A message names no kind exactly if its type is neither of the two words. -/
theorem not_exists_names_iff :
    (¬ ∃ kind, raw.Names kind) ↔ lower (trim raw.type) ≠ "http" ∧ lower (trim raw.type) ≠ "tcp" := by
  constructor
  · exact fun h => ⟨fun hhttp => h ⟨.http, hhttp⟩, fun htcp => h ⟨.tcp, htcp⟩⟩
  · rintro ⟨hhttp, htcp⟩ ⟨_ | _, hkind⟩
    · exact hhttp hkind
    · exact htcp hkind

/-- A message that names a kind is decoded as a request of that kind, or is an invalid one. -/
theorem decode_of_names (h : raw.Names kind) :
    raw.decode =
      (TunnelRequest.ofFields? kind raw.fields).elim (.error (.plain .invalidRequest)) .ok := by
  rw [decode, kind?_eq_some_iff.mpr h]
  cases kind with
  | http =>
    rw [TunnelRequest.ofFields?]
    cases HttpTunnelRequest.ofFields? raw.fields <;> rfl
  | tcp =>
    rw [TunnelRequest.ofFields?]
    cases TcpTunnelRequest.ofFields? raw.fields <;> rfl

/-- A message that names no kind is of an unsupported type, whatever else it says. -/
theorem decode_of_not_names (h : ¬ ∃ kind, raw.Names kind) :
    raw.decode = .error (.plain .unsupportedType) := by
  have hnone : raw.kind? = none := by
    rw [Option.eq_none_iff_forall_ne_some]
    exact fun kind hkind => h ⟨kind, kind?_eq_some_iff.mp hkind⟩
  rw [decode, hnone]

/-- A request is decoded as what its fields say. -/
theorem decode_eq_ok_iff {request : TunnelRequest} :
    raw.decode = .ok request ↔ raw.Names request.kind ∧ request.SaidBy raw.fields := by
  by_cases hnames : ∃ kind, raw.Names kind
  · obtain ⟨kind, hkind⟩ := hnames
    have hsame : raw.Names request.kind ↔ request.kind = kind := by
      rw [← kind?_eq_some_iff, kind?_eq_some_iff.mpr hkind, Option.some_inj, eq_comm]
    rw [decode_of_names hkind, hsame, ← TunnelRequest.ofFields?_eq_some_iff]
    cases TunnelRequest.ofFields? kind raw.fields <;> simp
  · rw [decode_of_not_names hnames]
    exact iff_of_false (fun h => nomatch h) fun h => hnames ⟨_, h.1⟩

/-- A request is of no known type, or the value of one of its fields has the wrong shape. -/
theorem decode_eq_error_iff {e : Rejection} :
    raw.decode = .error e ↔
      ((¬ ∃ kind, raw.Names kind) ∧ e = .plain .unsupportedType) ∨
      ((∃ kind, raw.Names kind ∧ ∃ field ∈ kind.shapes, ∃ v,
        Counts raw.fields field.1 v ∧ ¬ field.2.Fits v) ∧ e = .plain .invalidRequest) := by
  by_cases hnames : ∃ kind, raw.Names kind
  · obtain ⟨kind, hkind⟩ := hnames
    have hsame : (∃ kind, raw.Names kind ∧ ∃ field ∈ kind.shapes, ∃ v,
        Counts raw.fields field.1 v ∧ ¬ field.2.Fits v) ↔
        TunnelRequest.ofFields? kind raw.fields = none := by
      rw [TunnelRequest.ofFields?_eq_none_iff]
      constructor
      · rintro ⟨kind', hkind', hwrong⟩
        rw [← kind?_eq_some_iff, kind?_eq_some_iff.mpr hkind] at hkind'
        cases hkind'
        exact hwrong
      · exact fun hwrong => ⟨kind, hkind, hwrong⟩
    rw [decode_of_names hkind, hsame, or_iff_right fun h => h.1 ⟨kind, hkind⟩]
    cases TunnelRequest.ofFields? kind raw.fields <;> simp [eq_comm]
  · rw [decode_of_not_names hnames, or_iff_left fun h => hnames ⟨h.1.choose, h.1.choose_spec.1⟩,
      and_iff_right hnames, Except.error.injEq, eq_comm]

/-- A request that is decoded is the one that was admitted by its token. -/
theorem screen_of_decode {request : TunnelRequest} (h : raw.decode = .ok request)
    (s : Server.Settings) :
    Server.screen s raw = (do
      Server.authenticate s raw.authtoken
      let token ← Server.identify s raw.authtoken
      Server.charge s token
      pure ⟨token, some request⟩) := by
  rw [Server.screen, kind?_eq_some_iff.mpr (decode_eq_ok_iff.mp h).1, h]
  rfl

/-! ### Lines -/

/-- Which values are read as a message: an object whose type and token are texts, if they are there.
-/
theorem ofJson?_eq_some_iff {v : Value} :
    ofJson? v = some raw ↔ v = .object raw.fields ∧ Says IsText "" raw.fields "type" raw.type ∧
      Says IsText "" raw.fields "authtoken" raw.authtoken := by
  rcases v with _ | _ | _ | _ | _ | fields
  case object =>
    simp only [ofJson?, Option.bind_eq_bind, Option.bind_eq_some_iff, readText_eq_some_iff]
    constructor
    · rintro ⟨type, htype, authtoken, hauthtoken, ⟨⟩⟩
      exact ⟨rfl, htype, hauthtoken⟩
    · rintro ⟨⟨⟩, htype, hauthtoken⟩
      exact ⟨_, htype, _, hauthtoken, rfl⟩
  all_goals exact iff_of_false (fun h => nomatch h) fun h => nomatch h.1

/-- Objects that agree in what is heeded are read alike. -/
theorem read_congr {fields : List (String × Value)} (hraw : ofJson? (.object raw.fields) = some raw)
    (h : ∀ name, raw.Heeds name → Agree raw.fields fields name) :
    ∃ raw', ofJson? (.object fields) = some raw' ∧ raw'.type = raw.type ∧
      raw'.authtoken = raw.authtoken ∧ raw'.decode = raw.decode := by
  obtain ⟨-, htype, hauthtoken⟩ := ofJson?_eq_some_iff.mp hraw
  have htype' := htype.congr (h "type" (.inl rfl))
  have hauthtoken' := hauthtoken.congr (h "authtoken" (.inr (.inl rfl)))
  let raw' : RawRequest := ⟨raw.type, raw.authtoken, fields⟩
  refine ⟨raw', ofJson?_eq_some_iff.mpr ⟨rfl, htype', hauthtoken'⟩, rfl, rfl, ?_⟩
  by_cases hnames : ∃ kind, raw.Names kind
  · obtain ⟨kind, hkind⟩ := hnames
    have hkind' : raw'.Names kind := hkind
    have hmade := TunnelRequest.ofFields?_congr fun field hfield =>
      h field.1 (.inr (.inr ⟨kind, hkind, field, hfield, rfl⟩))
    rw [decode_of_names hkind, decode_of_names hkind', hmade]
  · have hnames' : ¬ ∃ kind, raw'.Names kind := hnames
    rw [decode_of_not_names hnames, decode_of_not_names hnames']

/-- What the two steps make of one object. -/
structure Consistent (raw : RawRequest) : Prop where
  type : Says IsText "" raw.fields "type" raw.type
  authtoken : Says IsText "" raw.fields "authtoken" raw.authtoken
  /-- The second step makes the request that the fields of the type say. -/
  decoded (request : TunnelRequest) :
    raw.decode = .ok request ↔ raw.Names request.kind ∧ request.SaidBy raw.fields
  /-- It is admitted by the token that it has. -/
  admitted (request : TunnelRequest) : raw.decode = .ok request →
    request.authtoken = raw.authtoken ∧ ∀ s, Server.screen s raw = (do
      Server.authenticate s request.authtoken
      let token ← Server.identify s request.authtoken
      Server.charge s token
      pure ⟨token, some request⟩)
  unsupported : raw.decode = .error (.plain .unsupportedType) ↔
    lower (trim raw.type) ≠ "http" ∧ lower (trim raw.type) ≠ "tcp"
  invalid : raw.decode = .error (.plain .invalidRequest) ↔
    ∃ kind, raw.Names kind ∧ ∃ field ∈ kind.shapes, ∃ v,
      Counts raw.fields field.1 v ∧ ¬ field.2.Fits v
  refused (e : Rejection) :
    raw.decode = .error e → e = .plain .unsupportedType ∨ e = .plain .invalidRequest
  /-- Nothing else in the object matters. -/
  unheeded (fields : List (String × Value)) :
    (∀ name, raw.Heeds name → Agree raw.fields fields name) →
    ∃ raw', ofJson? (.object fields) = some raw' ∧ raw'.type = raw.type ∧
      raw'.authtoken = raw.authtoken ∧ raw'.decode = raw.decode

/-- **A request is admitted and served as one.** A line that is received is an object, and both
steps read that object and the last value of each of its fields. So the token that is looked at
first is the token of the request that is served, and a request that is refused later is so for its
kind or for its fields. -/
theorem both_steps_agree {line : Bytes} {raw : RawRequest}
    (h : RawRequest.parse? line = some raw) :
    Value.parse? line = some (.object raw.fields) ∧ raw.Consistent := by
  obtain ⟨v, hv, hraw⟩ := Option.bind_eq_some_iff.mp h
  obtain ⟨rfl, htype, hauthtoken⟩ := ofJson?_eq_some_iff.mp hraw
  have hdiffer : Rejection.plain .unsupportedType ≠ Rejection.plain .invalidRequest := by decide
  refine ⟨hv, htype, hauthtoken, fun request => decode_eq_ok_iff, fun request hdecode => ?_, ?_, ?_,
    fun e hdecode => ?_, fun fields => read_congr hraw⟩
  · have hsaid := (decode_eq_ok_iff.mp hdecode).2.says_authtoken
    have hsame : request.authtoken = raw.authtoken := Option.some.inj
      ((readText_eq_some_iff.mpr hsaid).symm.trans (readText_eq_some_iff.mpr hauthtoken))
    rw [hsame]
    exact ⟨rfl, screen_of_decode hdecode⟩
  · rw [decode_eq_error_iff, or_iff_left fun h => hdiffer h.2, and_iff_left rfl,
      not_exists_names_iff]
  · rw [decode_eq_error_iff, or_iff_right fun h => hdiffer h.2.symm, and_iff_left rfl]
  · rcases decode_eq_error_iff.mp hdecode with ⟨-, he⟩ | ⟨-, he⟩
    · exact .inl he
    · exact .inr he

/-- A request for a name in which the token is repeated, one header entry is an array and in the
other the name is repeated, and a field that is for ports has a value that is no port. -/
def crowdedLine : Bytes := Utf8.encode ("\x7b\"remote_port\":-1,\"authtoken\":\"a\"," ++
  "\"type\":\" Http\",\"request_header_add\":[[\"x-a\",\"1\"]," ++
  "\x7b\"name\":\"y\",\"value\":\"2\",\"name\":\"x-b\"\x7d],\"authtoken\":\"b\"\x7d")

/-- The request in it, with the last of what is repeated and without the port. -/
def crowdedRequest : TunnelRequest :=
  .http { authtoken := "b", requestHeaderAdd := [⟨"x-a", "1"⟩, ⟨"x-b", "2"⟩] }

/-- The request is admitted with the token that it has. -/
theorem crowdedLine_consistent :
    ∃ raw, RawRequest.parse? crowdedLine = some raw ∧ raw.decode = .ok crowdedRequest ∧
      raw.authtoken = "b" ∧ Value.parse? crowdedLine = some (.object raw.fields) ∧
      raw.Consistent := by
  have hread : (RawRequest.parse? crowdedLine).map decode = some (.ok crowdedRequest) := by
    decide +kernel
  obtain ⟨raw, hraw, hdecode⟩ := Option.map_eq_some_iff.mp hread
  have ⟨hvalue, hconsistent⟩ := both_steps_agree hraw
  exact ⟨raw, hraw, hdecode, (hconsistent.admitted _ hdecode).1.symm, hvalue, hconsistent⟩

end RawRequest

end ReverseTunnel
