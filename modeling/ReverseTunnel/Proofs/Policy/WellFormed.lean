import ReverseTunnel.Proofs.Address.Block
import ReverseTunnel.Proofs.Http.Token
import ReverseTunnel.Proofs.Policy.Credential
import ReverseTunnel.Proofs.Policy.Faults

/-!
# Accepted policies are well formed

What each field of a request has to look like, and what becomes of it, said by the text that it is:
a method is a token and is kept in capitals, a path begins with a slash, a header field is none of
those that a policy may not touch. A request is refused for the first of its faults, and if it has
none, then the policy that is read from it has its lists entry by entry.

## Main results

* `judges_readNetwork`, `judges_readMethod`, `judges_readPath`, `judges_readHeader`,
  `judges_parse`: what is refused of an entry and what is kept of it.
* `Policy.accepted_or_first_fault`: a request is refused for its first fault, or its policy is well
  formed.
-/

namespace ReverseTunnel

open Text

namespace Policy

/-! ### Networks -/

/-- The network that a text says: an address stands for itself alone, and a mapped one for what it
carries; a block has its length behind a slash. -/
inductive WrittenNetwork (raw : String) : Network → Prop
  | single {ip : Ip} (hbare : '/' ∉ (trim raw).toList) (hip : Ip.parse? (trim raw) = some ip) :
      WrittenNetwork raw (.single ip.unmap)
  | block {block : Block} {address length : List Char}
      (htext : (trim raw).toList = address ++ '/' :: length) (hslash : '/' ∉ address)
      (hip : Ip.parseChars? .wide address = some block.address)
      (hdigits : length.length ≤ block.address.lengthDigits)
      (hlength : decimal? length = some block.length) : WrittenNetwork raw block.network

/-- What may be wrong with an entry that is to be a network. -/
def networkFault (field raw : String) : Fault :=
  First [.when (trim raw = "") (.emptyEntry field),
    .when (¬ ∃ network, WrittenNetwork raw network) (.invalidEntry field raw)]

/-- What is kept of an entry that is a network. -/
structure NetworkForm (raw : String) (network : Network) : Prop where
  written : WrittenNetwork raw network
  masked : network.Masked

variable {field raw : String}

/-- A network that is written in a policy keeps no bits behind its prefix. -/
theorem WrittenNetwork.masked {network : Network} (h : WrittenNetwork raw network) :
    network.Masked := by
  cases h with
  | single => exact Block.masked_single
  | block => exact Block.masked_network

/-- The text of a network is read exactly if one is written in it, a block where it has a slash and
a single address where it has none. -/
theorem network?_eq_some_iff {network : Network} :
    (if (trim raw).toList.contains '/' then Network.parseChars? (trim raw).toList
      else (Ip.parse? (trim raw)).map fun ip => Network.single ip.unmap) = some network ↔
      WrittenNetwork raw network := by
  rcases hsplit : splitFirst '/' (trim raw).toList with _ | ⟨address, length⟩
  · have hbare := splitFirst_eq_none.mp hsplit
    rw [if_neg (mt List.contains_iff_mem.mp hbare), Option.map_eq_some_iff]
    constructor
    · rintro ⟨ip, hip, rfl⟩
      exact .single hbare hip
    · rintro (⟨-, hip⟩ | ⟨htext, -, -, -, -⟩)
      · exact ⟨_, hip, rfl⟩
      · exact absurd (htext ▸ List.mem_append_right _ List.mem_cons_self) hbare
  · obtain ⟨htext, hslash⟩ := splitFirst_eq_some hsplit
    have hmem : '/' ∈ (trim raw).toList := htext ▸ List.mem_append_right _ List.mem_cons_self
    rw [if_pos (List.contains_iff_mem.mpr hmem), htext, Network.parseChars?_eq_some_iff hslash]
    constructor
    · rintro ⟨block, hip, hdigits, hlength, rfl⟩
      exact .block htext hslash hip hdigits hlength
    · rintro (⟨hbare, -⟩ | ⟨htext', hslash', hip, hdigits, hlength⟩)
      · exact absurd hmem hbare
      · rw [htext', splitFirst_append hslash'] at hsplit
        cases hsplit
        exact ⟨_, hip, hdigits, hlength, rfl⟩

/-- The reader of networks refuses a text exactly if it is blank or no network is written in it. -/
theorem judges_readNetwork (field raw : String) :
    Judges (readNetwork field raw) (networkFault field raw) (NetworkForm raw) := by
  rw [readNetwork]
  refine .guarded String.isEmpty_iff fun _ => ?_
  refine (Judges.mono ?_ fun network (hnetwork : WrittenNetwork raw network) => ?_).only
  · exact .option fun network => network?_eq_some_iff
  · exact ⟨hnetwork, hnetwork.masked⟩

/-! ### Methods -/

/-- What may be wrong with an entry that is to be a method. -/
def methodFault (field raw : String) : Fault :=
  .when (¬ Http.IsToken (trim raw)) (.invalidEntry field raw)

/-- What is kept of an entry that is a method. -/
structure MethodForm (raw method : String) : Prop where
  eq : method = upper (trim raw)
  token : Http.IsToken method
  capital : ∀ c ∈ method.toList, c.isLower = false

/-- The reader of methods refuses a text exactly if it is no token, and gives it in capitals
otherwise. -/
theorem judges_readMethod (field raw : String) :
    Judges (readMethod field raw) (methodFault field raw) (MethodForm raw) := by
  rw [readMethod]
  refine .given (Http.isToken_encode _) fun htoken => ?_
  exact ⟨rfl, (Http.isToken_upper _).mpr htoken, fun _ => Http.isLower_of_mem_upper⟩

/-! ### Paths -/

/-- The path of a request, and neither a query nor a fragment behind it. -/
structure IsPath (text : String) : Prop where
  start : text.toList.head? = some '/'
  plain : ∀ c ∈ text.toList, c ≠ '?' ∧ c ≠ '#' ∧ isControl c = false ∧ isBlank c = false

/-- What may be wrong with an entry that is to be a path. -/
def pathFault (field raw : String) : Fault :=
  .when (¬ IsPath (trim raw)) (.invalidEntry field raw)

/-- What is kept of an entry that is a path. -/
structure PathForm (raw path : String) : Prop where
  eq : path = trim raw
  path : IsPath path

/-- The check of a path finds what makes a text one. -/
theorem isPath_iff {text : String} : isPath text = true ↔ IsPath text := by
  simp only [isPath, Bool.and_eq_true, List.all_eq_true, beq_iff_eq, bne_iff_ne,
    Bool.not_eq_true', and_assoc]
  exact ⟨fun h => ⟨h.1, h.2⟩, fun h => ⟨h.start, h.plain⟩⟩

/-- The reader of paths refuses a text exactly if it is no path, and gives it without the blanks
around it otherwise. -/
theorem judges_readPath (field raw : String) :
    Judges (readPath field raw) (pathFault field raw) (PathForm raw) := by
  rw [readPath]
  exact .given isPath_iff fun hpath => ⟨rfl, hpath⟩

/-! ### Header fields -/

/-- The name of a header field that a policy may touch. -/
structure IsName (text : String) : Prop where
  token : Http.IsToken text
  short : text.toList.length ≤ 65535
  free : lower text ∉ protectedHeaders

/-- What may be wrong with an entry that is to be the name of a header field. -/
def nameFault (field raw : String) : Fault :=
  .when (¬ IsName (trim raw)) (.invalidEntry field raw)

/-- What is kept of an entry that is the name of a header field. -/
structure NameForm (raw name : String) : Prop where
  eq : name = lower (trim raw)
  token : Http.IsToken name
  small : ∀ c ∈ name.toList, c.isUpper = false
  free : name ∉ protectedHeaders

/-- The check of a field name finds what makes a text one: a token within the limit that is not
protected. -/
theorem isName_iff {text : String} :
    (Http.isToken (Utf8.encode (lower text)) &&
      (Utf8.encode (lower text)).length ≤ maxNameLength &&
      !protectedHeaders.contains (lower text)) = true ↔ IsName text := by
  rw [Bool.and_eq_true, Bool.and_eq_true, decide_eq_true_iff, Http.isToken_encode,
    Bool.not_eq_true', Bool.eq_false_iff, ne_eq, List.contains_iff_mem]
  have hlength (htoken : Http.IsToken (lower text)) :
      (Utf8.encode (lower text)).length = text.toList.length := by
    rw [htoken.length_encode, lower, String.toList_ofList, List.length_map]
  constructor
  · rintro ⟨⟨htoken, hshort⟩, hfree⟩
    rw [hlength htoken] at hshort
    exact ⟨(Http.isToken_lower text).mp htoken, hshort, hfree⟩
  · rintro ⟨htoken, hshort, hfree⟩
    have hlower := (Http.isToken_lower text).mpr htoken
    rw [← hlength hlower] at hshort
    exact ⟨⟨hlower, hshort⟩, hfree⟩

/-- The reader of field names refuses a text exactly if it is no name, and gives the name in small
letters otherwise. -/
theorem judges_readName (field raw : String) :
    Judges (readName field raw) (nameFault field raw) (NameForm raw) := by
  rw [readName]
  refine .given isName_iff fun hname => ?_
  have htoken := (Http.isToken_lower _).mpr hname.token
  exact ⟨rfl, htoken, fun _ => Http.isUpper_of_mem_lower, hname.free⟩

/-- The value of a header field: bounded, and without control bytes other than tabs. -/
structure IsValue (value : Bytes) : Prop where
  short : value.length ≤ 8192
  clean : ∀ b ∈ value, b = 0x09 ∨ (0x20 ≤ b ∧ b ≠ 0x7F)

/-- What may be wrong with an entry that is to be the value of a header field. -/
def valueFault (field raw : String) : Fault :=
  .when (¬ IsValue (Utf8.encode (trim raw))) (.invalidEntry field raw)

/-- What is kept of an entry that is the value of a header field. -/
structure ValueForm (raw : String) (value : Bytes) : Prop where
  eq : value = Utf8.encode (trim raw)
  value : IsValue value

/-- The check of a field value finds what makes bytes one: they are within the limit, and each of
them can stand in a field. -/
theorem isValue_iff {value : Bytes} :
    (value.length ≤ maxValueLength && value.all Http.isValueByte) = true ↔ IsValue value := by
  simp only [Bool.and_eq_true, decide_eq_true_iff, List.all_eq_true, Http.isValueByte,
    Bool.or_eq_true, beq_iff_eq, bne_iff_ne]
  exact ⟨fun h => ⟨h.1, h.2⟩, fun h => ⟨h.short, h.clean⟩⟩

/-- The reader of field values refuses a text exactly if it is no value, and gives its bytes
otherwise. -/
theorem judges_readValue (field raw : String) :
    Judges (readValue field raw) (valueFault field raw) (ValueForm raw) := by
  rw [readValue]
  refine .given isValue_iff fun hvalue => ?_
  exact ⟨rfl, hvalue⟩

/-- What may be wrong with a header field: its name, then its value. -/
def headerFault (field : String) (entry : HeaderEntry) : Fault :=
  First [nameFault field entry.name, valueFault field entry.value]

/-- What is kept of a header field. -/
structure HeaderForm (entry : HeaderEntry) (header : String × Bytes) : Prop where
  name : NameForm entry.name header.1
  value : ValueForm entry.value header.2

/-- Of a header entry the name is judged first, and the value only if the name is in order. -/
theorem judges_readHeader (field : String) (entry : HeaderEntry) :
    Judges (readHeader field entry) (headerFault field entry) (HeaderForm entry) := by
  refine (judges_readName field entry.name).bind fun name hname => ?_
  refine (judges_readValue field entry.value).bind fun value hvalue => ?_
  exact .ok ⟨hname, hvalue⟩

/-! ### Credentials -/

/-- What may be wrong with a text that asks for a credential. -/
def credentialFault (raw : String) : Fault :=
  First [
    .when (trim raw ≠ "" ∧ ':' ∉ (trim raw).toList) (.invalidEntry "basic_auth" "missing ':'"),
    .when (∃ user password, trim raw = user ++ ":" ++ password ∧ ':' ∉ user.toList ∧ trim user = "")
      (.invalidEntry "basic_auth" "empty user")]

/-- What is kept of a text that asks for a credential, or for none. -/
def CredentialForm (raw : String) : Option Credential → Prop
  | none => trim raw = ""
  | some credential => credential.user ≠ "" ∧ ':' ∉ credential.user.toList ∧
      ∃ user, trim raw = user ++ ":" ++ credential.password ∧ ':' ∉ user.toList ∧
        trim user = credential.user

/-- A text without a colon is no credential, unless it is blank and stands for none. -/
theorem credentialFault_of_no_colon (hcolon : ':' ∉ (trim raw).toList) (e : FieldError) :
    credentialFault raw e ↔
      Fault.when (¬ trim raw = "") (.invalidEntry "basic_auth" "missing ':'") e := by
  constructor
  · rintro (⟨⟨hsome, -⟩, rfl⟩ | ⟨-, ⟨⟨user, password, htext, -⟩, -⟩ | ⟨-, h⟩⟩)
    · exact ⟨hsome, rfl⟩
    · exact absurd (by simp [htext]) hcolon
    · exact absurd h not_first_nil
  · rintro ⟨hsome, rfl⟩
    exact .here ⟨⟨hsome, hcolon⟩, rfl⟩

/-- A text with a colon is no credential exactly if nothing but blanks is in front of it. -/
theorem credentialFault_of_colon {user password : String}
    (htext : trim raw = user ++ ":" ++ password) (hcolon : ':' ∉ user.toList) (e : FieldError) :
    credentialFault raw e ↔
      First [.when (trim user = "") (.invalidEntry "basic_auth" "empty user")] e := by
  have hmem : ':' ∈ (trim raw).toList := by simp [htext]
  have hempty : (∃ user' password', trim raw = user' ++ ":" ++ password' ∧ ':' ∉ user'.toList ∧
      trim user' = "") ↔ trim user = "" := by
    constructor
    · rintro ⟨user', password', htext', hcolon', hempty⟩
      have hsplit := (Credential.splitColon?_eq_some_iff.mpr ⟨htext, hcolon⟩).symm.trans
        (Credential.splitColon?_eq_some_iff.mpr ⟨htext', hcolon'⟩)
      cases hsplit
      exact hempty
    · exact fun hempty => ⟨user, password, htext, hcolon, hempty⟩
  rw [credentialFault, first_cons_of_not fun e he => he.1.2 hmem, hempty]

/-- The reader of credentials refuses a text exactly if it is not blank and has no colon, or no user
in front of it. -/
theorem judges_parse (raw : String) :
    Judges (Credential.parse raw) (credentialFault raw) (CredentialForm raw) := by
  rcases Credential.no_colon_or_split (trim raw) with hnone | ⟨user, password, htext, hcolon⟩
  · rw [Credential.parse_of_no_colon hnone]
    refine Judges.congr ?_ (credentialFault_of_no_colon hnone)
    exact .given String.isEmpty_iff fun hempty => hempty
  · rw [Credential.parse_of_colon htext hcolon]
    refine Judges.congr ?_ (credentialFault_of_colon htext hcolon)
    refine .guarded String.isEmpty_iff fun hsome => .ok ⟨hsome, ?_, user, htext, hcolon, rfl⟩
    rw [trim, String.toList_ofList]
    exact fun hmem => hcolon (trimBy_subset _ hmem)

/-! ### Policies -/

/-- What may be wrong with a request, in the order in which it is looked at. -/
def faults (r : HttpTunnelRequest) : List Fault := [
  credentialFault r.basicAuth,
  listFault 64 networkFault "allow_cidr" r.allowCidr,
  listFault 64 networkFault "deny_cidr" r.denyCidr,
  listFault 32 methodFault "allow_method" r.allowMethod,
  listFault 32 pathFault "allow_path" r.allowPath,
  listFault 32 pathFault "allow_path_prefix" r.allowPathPrefix,
  listFault 32 headerFault "request_header_add" r.requestHeaderAdd,
  listFault 32 nameFault "request_header_remove" r.requestHeaderRemove,
  listFault 32 headerFault "response_header_add" r.responseHeaderAdd,
  listFault 32 nameFault "response_header_remove" r.responseHeaderRemove]

/-- A policy that has every field of a request, in the form that is asked for. -/
structure WellFormed (r : HttpTunnelRequest) (p : Policy) : Prop where
  credential : CredentialForm r.basicAuth p.credential
  allowNetworks : ListForm 64 NetworkForm r.allowCidr p.allowNetworks
  denyNetworks : ListForm 64 NetworkForm r.denyCidr p.denyNetworks
  allowMethods : ListForm 32 MethodForm r.allowMethod p.allowMethods
  allowPaths : ListForm 32 PathForm r.allowPath p.allowPaths
  allowPathPrefixes : ListForm 32 PathForm r.allowPathPrefix p.allowPathPrefixes
  requestAdd : ListForm 32 HeaderForm r.requestHeaderAdd p.requestAdd
  requestRemove : ListForm 32 NameForm r.requestHeaderRemove p.requestRemove
  responseAdd : ListForm 32 HeaderForm r.responseHeaderAdd p.responseAdd
  responseRemove : ListForm 32 NameForm r.responseHeaderRemove p.responseRemove

/-- The policy of a request is refused exactly for the first fault in the order in which its parts
are read, and is well formed otherwise. -/
theorem judges_ofRequest (r : HttpTunnelRequest) :
    Judges (ofRequest r) (First (faults r)) (WellFormed r) := by
  refine (judges_parse _).bind fun _ hcredential => ?_
  refine (judges_readEntries judges_readNetwork _ _ _).bind fun _ hallowNetworks => ?_
  refine (judges_readEntries judges_readNetwork _ _ _).bind fun _ hdenyNetworks => ?_
  refine (judges_readEntries judges_readMethod _ _ _).bind fun _ hallowMethods => ?_
  refine (judges_readEntries judges_readPath _ _ _).bind fun _ hallowPaths => ?_
  refine (judges_readEntries judges_readPath _ _ _).bind fun _ hallowPathPrefixes => ?_
  refine (judges_readEntries judges_readHeader _ _ _).bind fun _ hrequestAdd => ?_
  refine (judges_readEntries judges_readName _ _ _).bind fun _ hrequestRemove => ?_
  refine (judges_readEntries judges_readHeader _ _ _).bind fun _ hresponseAdd => ?_
  refine (judges_readEntries judges_readName _ _ _).bind fun _ hresponseRemove => ?_
  exact .ok ⟨hcredential, hallowNetworks, hdenyNetworks, hallowMethods, hallowPaths,
    hallowPathPrefixes, hrequestAdd, hrequestRemove, hresponseAdd, hresponseRemove⟩

/-- **Policies are accepted whole or not at all.** A request is refused for the first of its faults
and with the error that says it; a request without faults has a policy, and the policy is well
formed. -/
theorem accepted_or_first_fault (r : HttpTunnelRequest) :
    (∀ e, ofRequest r = .error e ↔ First (faults r) e) ∧
      ((∃ p, ofRequest r = .ok p ∧ WellFormed r p) ∨ ∃ e, First (faults r) e) := by
  have hjudges := judges_ofRequest r
  refine ⟨hjudges.error_iff, ?_⟩
  rcases hread : ofRequest r with e | p
  · exact .inr ⟨e, (hjudges.error_iff e).mp hread⟩
  · exact .inl ⟨p, rfl, hjudges.of_ok p hread⟩

/-- The empty method would be a fault, too, but the network is looked at before it. -/
example : ofRequest { denyCidr := ["10.0.0.0/8", " 10.0.0.0/33"], allowMethod := [""] } =
    .error (.invalidEntry "deny_cidr" " 10.0.0.0/33") := by
  rfl

end Policy

end ReverseTunnel
