import ReverseTunnel.Proofs.Policy.Reading
import ReverseTunnel.Proofs.Text.Normal
import ReverseTunnel.Proofs.Text.Number
import ReverseTunnel.Proofs.Text.Utf8
import ReverseTunnel.Server.Config

/-!
# Where a configuration is from

Every setting of a server is taken from its variable of the environment if that says something
that can be read, else from the file, else it has its default. The two ends of the range of ports
are settings by themselves, so that one can be from the environment and the other from the file:
what is checked is what came together. A configuration fails for one of six faults, and for nothing
else, and the one that is reported is there.

## Main results

* `Setting.source_ofText` and its siblings: what a setting is read as, by the kind of its values.
* `resolve_eq_ok_iff`: what is accepted.
* `fault_of_resolve`, `exists_error_of_fault`: what is turned down.
* `settings_have_their_sources`: all of it, and what holds of everything that is accepted.
-/

namespace ReverseTunnel

open Text

/-! ### Variables -/

/-- A variable says something: it is set, to a text that is not blank. -/
def Environment.Says (env : Environment) (name text : String) : Prop :=
  env.get? ("SLUICE_" ++ name) = some (Utf8.encode text) ∧ blank text = false

/-- The function that looks a variable up finds the text that the variable says. -/
theorem Environment.text?_eq_some_iff {env : Environment} {name text : String} :
    env.text? name = some text ↔ env.Says name text := by
  rw [text?, Option.filter_eq_some_iff, Option.bind_eq_some_iff, Bool.not_eq_true', Says]
  simp only [Utf8.decode?_eq_some_iff, exists_eq_right]

namespace Server

/-! ### Settings -/

/-- A setting: the variable that may give it, what a text of that stands for, what the file says,
and the value that it has otherwise. -/
structure Setting (α : Type) where
  name : String
  Reads : String → α → Prop
  inFile : ConfigFile → Option α
  default : Option α

namespace Setting

variable {α : Type}

/-- The variable has a text that stands for the value. -/
def IsGiven (setting : Setting α) (env : Environment) (value : α) : Prop :=
  ∃ text, env.Says setting.name text ∧ setting.Reads text value

/-- Where the value of a setting is from, if it has one. -/
inductive Source (setting : Setting α) (env : Environment) (file : ConfigFile) : Option α → Prop
  | environment {value : α} (h : setting.IsGiven env value) : Source setting env file (some value)
  | file {value : α} (hnone : ∀ value, ¬ setting.IsGiven env value)
      (h : setting.inFile file = some value) : Source setting env file (some value)
  | default (hnone : ∀ value, ¬ setting.IsGiven env value) (h : setting.inFile file = none) :
      Source setting env file setting.default

variable {setting : Setting α} {env : Environment} {file : ConfigFile} {read? value? : Option α}

/-- If a function reads the variable of a setting, the value is what it reads, or else what the file
says, or else the default. -/
theorem source_iff (hread : ∀ value, read? = some value ↔ setting.IsGiven env value) :
    setting.Source env file value? ↔
      value? = (read?.or (setting.inFile file)).or setting.default := by
  constructor
  · intro h
    cases h with
    | environment h => rw [(hread _).mpr h, Option.some_or, Option.some_or]
    | file hnone h =>
      obtain rfl : read? = none := Option.eq_none_iff_forall_ne_some.mpr fun value hvalue =>
        hnone value ((hread value).mp hvalue)
      rw [h, Option.none_or, Option.some_or]
    | default hnone h =>
      obtain rfl : read? = none := Option.eq_none_iff_forall_ne_some.mpr fun value hvalue =>
        hnone value ((hread value).mp hvalue)
      rw [h, Option.none_or, Option.none_or]
  · rintro rfl
    rcases read? with _ | value
    · have hnone (value : α) : ¬ setting.IsGiven env value := fun h => nomatch (hread value).mpr h
      rcases hfile : setting.inFile file with _ | value
      · exact .default hnone hfile
      · exact .file hnone hfile
    · exact .environment ((hread value).mp rfl)

/-! ### The kinds of settings -/

variable (name : String)

/-- A text is taken as it is. -/
def ofText (inFile : ConfigFile → Option String) (default : Option String) : Setting String :=
  ⟨name, fun text value => value = text, inFile, default⟩

/-- A port is written without the blanks around it. -/
def ofPort (inFile : ConfigFile → Option UInt16) (default : UInt16) : Setting UInt16 :=
  ⟨name, fun text port => WritesPort (trim text).toList port, inFile, some default⟩

/-- A number is written without the blanks around it. -/
def ofNumber (inFile : ConfigFile → Option Int) : Setting Int :=
  ⟨name, fun text n => WritesInteger (trim text).toList n, inFile, some 0⟩

/-- The words for a truth value. -/
def words : Bool → List String
  | true => ["1", "true", "yes", "on"]
  | false => ["0", "false", "no", "off"]

/-- A word is read as the truth value whose word it is, and no word stands for both. -/
theorem read_words_iff {word : String} {value : Bool} :
    (if (words true).contains word then some true
      else if (words false).contains word then some false else none) = some value ↔
      word ∈ words value := by
  have hapart : ∀ word ∈ words true, word ∉ words false := by decide
  simp only [List.contains_iff_mem]
  by_cases htrue : word ∈ words true
  · have hfalse := hapart word htrue
    rw [if_pos htrue]
    cases value <;> simp [htrue, hfalse]
  · rw [if_neg htrue, Option.ite_none_right_eq_some]
    cases value <;> simp [htrue]

/-- A truth value is one of its words, in letters of any case and without the blanks around it. -/
def ofSwitch (inFile : ConfigFile → Option Bool) : Setting Bool :=
  ⟨name, fun text value => lower (trim text) ∈ words value, inFile, some false⟩

variable {name}

/-- The value of a text is that of the variable, or else of the file, or else the default. -/
theorem source_ofText {inFile : ConfigFile → Option String} {default : Option String}
    {value? : Option String} :
    (ofText name inFile default).Source env file value? ↔
      value? = ((env.text? name).or (inFile file)).or default := by
  refine source_iff fun value => ?_
  rw [Environment.text?_eq_some_iff]
  exact ⟨fun h => ⟨value, h, rfl⟩, fun ⟨_, h, hvalue⟩ => hvalue ▸ h⟩

/-- A text has only one value in one environment and file. -/
theorem ofText_unique {inFile : ConfigFile → Option String} {default : Option String}
    {text? text?' : Option String} (h : (ofText name inFile default).Source env file text?)
    (h' : (ofText name inFile default).Source env file text?') : text? = text?' :=
  (source_ofText.mp h).trans (source_ofText.mp h').symm

/-- What is read of the text of a variable. -/
theorem bind_text?_eq_some_iff {read : String → Option α} {Reads : String → α → Prop} {value : α}
    (h : ∀ text, read text = some value ↔ Reads text value) :
    (env.text? name).bind read = some value ↔ ∃ text, env.Says name text ∧ Reads text value := by
  simp only [Option.bind_eq_some_iff, Environment.text?_eq_some_iff, h]

/-- The value of a port is what can be read of the variable, or else that of the file, or else the
default. -/
theorem source_ofPort {inFile : ConfigFile → Option UInt16} {default port : UInt16} :
    (ofPort name inFile default).Source env file (some port) ↔
      port = ((env.port? name).or (inFile file)).getD default := by
  have hread (port : UInt16) :
      env.port? name = some port ↔ (ofPort name inFile default).IsGiven env port :=
    bind_text?_eq_some_iff fun text => by
      rw [← String.ofList_toList (s := trim text), port?_eq_some_iff]
      rfl
  rw [source_iff hread, ofPort, Option.or_some, Option.some_inj]

/-- A port has only one value in one environment and file. -/
theorem ofPort_unique {inFile : ConfigFile → Option UInt16} {default port port' : UInt16}
    (h : (ofPort name inFile default).Source env file (some port))
    (h' : (ofPort name inFile default).Source env file (some port')) : port = port' :=
  (source_ofPort.mp h).trans (source_ofPort.mp h').symm

/-- The value of a number is what can be read of the variable, or else that of the file, or else 0.
-/
theorem source_ofNumber {inFile : ConfigFile → Option Int} {n : Int} :
    (ofNumber name inFile).Source env file (some n) ↔
      n = ((env.number? name).or (inFile file)).getD 0 := by
  have hread (n : Int) : env.number? name = some n ↔ (ofNumber name inFile).IsGiven env n :=
    bind_text?_eq_some_iff fun text => by
      rw [← String.ofList_toList (s := trim text), signed?_eq_some_iff]
      rfl
  rw [source_iff hread, ofNumber, Option.or_some, Option.some_inj]

/-- A truth value is what can be read of the variable, or else that of the file, or else false. -/
theorem source_ofSwitch {inFile : ConfigFile → Option Bool} {value : Bool} :
    (ofSwitch name inFile).Source env file (some value) ↔
      value = ((env.boolean? name).or (inFile file)).getD false := by
  have hread (value : Bool) :
      env.boolean? name = some value ↔ (ofSwitch name inFile).IsGiven env value :=
    bind_text?_eq_some_iff fun text => read_words_iff
  rw [source_iff hread, ofSwitch, Option.or_some, Option.some_inj]

/-! ### The settings of a server -/

/-- Where visitors and clients connect. -/
def listenAddress : Setting String :=
  ofText "HTTP_ADDR" ConfigFile.httpAddress (some "0.0.0.0:8080")

/-- The domain in front of which the names of tunnels stand. There is no default. -/
def tunnelDomain : Setting String := ofText "TUNNEL_DOMAIN" ConfigFile.tunnelDomain none

/-- The first of the public ports. -/
def firstPort : Setting UInt16 := ofPort "TCP_PORT_START" (·.ports.map (·.1)) 30000

/-- The last of the public ports. -/
def lastPort : Setting UInt16 := ofPort "TCP_PORT_END" (·.ports.map (·.2)) 40000

/-- Where public ports are bound. -/
def bindAddress : Setting String := ofText "TCP_BIND_ADDR" ConfigFile.bindAddress (some "0.0.0.0")

/-- Whether the forwarding headers of a proxy in front are trusted. -/
def trustsProxy : Setting Bool := ofSwitch "TRUST_PROXY_HEADERS" ConfigFile.trustsProxy

/-- How many tunnels a token may have at once. Without a positive number there is no limit. -/
def maxTunnels : Setting Int := ofNumber "MAX_TUNNELS_PER_TOKEN" ConfigFile.maxTunnels

/-- How many tunnels a token may create in a minute. Without a positive number there is no limit. -/
def maxCreations : Setting Int := ofNumber "MAX_TUNNEL_CREATES_PER_MINUTE" ConfigFile.maxCreations

/-- The token that all clients share. -/
def authToken : Setting String := ofText "AUTH_TOKEN" ConfigFile.authToken none

/-- The file of the certificate, for connections over TLS. -/
def certificate : Setting String := ofText "TLS_CERT" ConfigFile.certificate none

/-- The file of the private key that belongs to the certificate. -/
def key : Setting String := ofText "TLS_KEY" ConfigFile.key none

end Setting

/-! ### What is accepted -/

open Setting

/-- An entry for a token has a text and somebody's id. -/
def TokenEntry.Names (entry : TokenEntry) : Prop := blank entry.token = false ∧ 0 < entry.id

/-- A configuration that came together from the environment and a file. -/
structure Settled (env : Environment) (file : ConfigFile) (c : Config) : Prop where
  httpAddress : ∃ text, listenAddress.Source env file (some text) ∧
    SocketAddress.parse? text = some c.httpAddress
  tunnelDomain : tunnelDomain.Source env file (some c.tunnelDomain) ∧ blank c.tunnelDomain = false
  first : firstPort.Source env file (some c.ports.first)
  last : lastPort.Source env file (some c.ports.last)
  ports : c.ports.first ≠ 0 ∧ c.ports.first ≤ c.ports.last
  bindAddress : ∃ text, bindAddress.Source env file (some text) ∧
    Ip.parse? (trim text) = some c.bindAddress
  trustsProxy : trustsProxy.Source env file (some c.trustsProxy)
  maxTunnels : maxTunnels.Source env file (some c.maxTunnels)
  maxCreations : maxCreations.Source env file (some c.maxCreations)
  /-- The shared token has no blanks around it. One that is blank is none. -/
  authToken : ∃ text?, authToken.Source env file text? ∧ ∀ token, c.authToken = some token ↔
    ∃ text, text? = some text ∧ blank text = false ∧ token = trim text
  certificate : certificate.Source env file (c.tls.map TlsFiles.certificate)
  key : key.Source env file (c.tls.map TlsFiles.key)
  tokens : c.tokens = file.tokens ∧ ∀ entry ∈ file.tokens, entry.Names

/-- What may be wrong with an environment and a file, and the error that says so. -/
inductive Fault (env : Environment) (file : ConfigFile) : ConfigError → Prop
  | httpAddress {text : String} (hsource : listenAddress.Source env file (some text))
      (h : SocketAddress.parse? text = none) : Fault env file (.httpAddress text)
  | tunnelDomain
      (h : ∀ text, Setting.tunnelDomain.Source env file (some text) → blank text = true) :
      Fault env file .tunnelDomain
  | ports {first last : UInt16} (hfirst : firstPort.Source env file (some first))
      (hlast : lastPort.Source env file (some last)) (h : first = 0 ∨ last < first) :
      Fault env file (.ports first last)
  | bindAddress {text : String} (hsource : Setting.bindAddress.Source env file (some text))
      (h : Ip.parse? (trim text) = none) : Fault env file (.bindAddress text)
  | tls {certificate? key? : Option String}
      (hcertificate : certificate.Source env file certificate?)
      (hkey : key.Source env file key?) (h : certificate?.isSome ≠ key?.isSome) :
      Fault env file .tls
  | tokens {entry : TokenEntry} (hmem : entry ∈ file.tokens) (h : ¬ entry.Names) :
      Fault env file .tokens

section

variable {env : Environment} {file : ConfigFile} {c : Config} {e : ConfigError}

/-- The address to listen on is accepted exactly if the text from its source can be read as one. -/
theorem resolveAddress_eq_ok_iff {address : SocketAddress} :
    resolveAddress env file = .ok address ↔ ∃ text, listenAddress.Source env file (some text) ∧
      SocketAddress.parse? text = some address := by
  simp only [resolveAddress, elim_eq_ok_iff, listenAddress, source_ofText, Option.or_some,
    Option.some_inj, exists_eq_left]

/-- The domain is accepted exactly if its source gives one that is not blank. -/
theorem resolveDomain_eq_ok_iff {domain : String} :
    resolveDomain env file = .ok domain ↔
      Setting.tunnelDomain.Source env file (some domain) ∧ blank domain = false := by
  rw [resolveDomain, elim_eq_ok_iff, Option.filter_eq_some_iff, Setting.tunnelDomain, source_ofText,
    Option.or_none, eq_comm, Bool.not_eq_true']

/-- The ports are accepted exactly if their sources give a range without port 0 that does not end
before it starts. -/
theorem resolvePorts_eq_ok_iff {ports : PortRange} :
    resolvePorts env file = .ok ports ↔ firstPort.Source env file (some ports.first) ∧
      lastPort.Source env file (some ports.last) ∧ ports.first ≠ 0 ∧ ports.first ≤ ports.last := by
  rw [firstPort, source_ofPort, lastPort, source_ofPort, resolvePorts]
  rw [ite_error_eq_ok_iff, not_or, UInt16.not_lt]
  constructor
  · rintro ⟨⟨hsome, hle⟩, hports⟩
    cases hports
    exact ⟨rfl, rfl, hsome, hle⟩
  · rintro ⟨hfirst, hlast, hsome, hle⟩
    rw [← hfirst, ← hlast]
    exact ⟨⟨hsome, hle⟩, rfl⟩

/-- The address to bind ports on is accepted exactly if the text from its source can be read as one,
without the blanks around it. -/
theorem resolveBindAddress_eq_ok_iff {address : Ip} :
    resolveBindAddress env file = .ok address ↔ ∃ text,
      Setting.bindAddress.Source env file (some text) ∧ Ip.parse? (trim text) = some address := by
  simp only [Setting.bindAddress, source_ofText, Option.or_some, Option.some_inj, exists_eq_left]
  rw [resolveBindAddress]
  rcases (env.text? "TCP_BIND_ADDR").or file.bindAddress with _ | text
  · have hdefault : Ip.parse? (trim "0.0.0.0") = some (.v4 0) := by decide
    rw [Option.getD_none, hdefault, Option.some_inj]
    exact ⟨Except.ok.inj, congrArg _⟩
  · exact elim_eq_ok_iff

/-- The files for TLS are accepted exactly if their sources give both of them, or neither. -/
theorem resolveTls_eq_ok_iff {tls : Option TlsFiles} :
    resolveTls env file = .ok tls ↔ certificate.Source env file (tls.map TlsFiles.certificate) ∧
      key.Source env file (tls.map TlsFiles.key) := by
  rw [certificate, source_ofText, key, source_ofText, Option.or_none, Option.or_none, resolveTls]
  rcases (env.text? "TLS_CERT").or file.certificate with _ | certificate <;>
    rcases (env.text? "TLS_KEY").or file.key with _ | key <;>
    rcases tls with _ | ⟨certificate', key'⟩ <;> simp [eq_comm]

/-- A list of tokens is accepted exactly if every entry names a token, and is kept as it is then. -/
theorem checkTokens_eq_ok_iff {entries tokens : List TokenEntry} :
    checkTokens entries = .ok tokens ↔ tokens = entries ∧ ∀ entry ∈ entries, entry.Names := by
  rw [checkTokens, ite_error_eq_ok_iff]
  have hnames : ¬ (entries.any fun entry => blank entry.token || entry.id ≤ 0) = true ↔
      ∀ entry ∈ entries, entry.Names := by
    simp [TokenEntry.Names]
  rw [hnames, and_comm, Except.ok.injEq, eq_comm (a := entries)]

/-- A shared token is taken without the blanks around it, if anything is left then. -/
theorem filter_trim_eq_some_iff {text? : Option String} {token : String} :
    (text?.map trim).filter (fun token => !token.isEmpty) = some token ↔
      ∃ text, text? = some text ∧ blank text = false ∧ token = trim text := by
  simp only [Option.filter_eq_some_iff, Option.map_eq_some_iff, Bool.not_eq_true']
  constructor
  · rintro ⟨⟨text, htext, rfl⟩, hsome⟩
    exact ⟨text, htext, isEmpty_trim text ▸ hsome, rfl⟩
  · rintro ⟨text, htext, hblank, rfl⟩
    exact ⟨⟨text, htext, rfl⟩, (isEmpty_trim text).trans hblank⟩

/-- **What is accepted is what came together.** -/
theorem resolve_eq_ok_iff : resolve env file = .ok c ↔ Settled env file c := by
  simp only [resolve, bind_eq_ok_iff, resolveAddress_eq_ok_iff, resolveDomain_eq_ok_iff,
    resolvePorts_eq_ok_iff, resolveBindAddress_eq_ok_iff, resolveTls_eq_ok_iff,
    checkTokens_eq_ok_iff]
  constructor
  · rintro ⟨_, haddress, _, hdomain, ports, ⟨hfirst, hlast, hports⟩, _, hbind, _,
      ⟨hcertificate, hkey⟩, _, htokens, h⟩
    cases h
    exact ⟨haddress, hdomain, hfirst, hlast, hports, hbind, source_ofSwitch.mpr rfl,
      source_ofNumber.mpr rfl, source_ofNumber.mpr rfl,
      ⟨_, source_ofText.mpr (Option.or_none ..).symm, fun token => filter_trim_eq_some_iff⟩,
      hcertificate, hkey, htokens⟩
  · intro h
    have hproxy : c.trustsProxy =
        ((env.boolean? "TRUST_PROXY_HEADERS").or file.trustsProxy).getD false :=
      source_ofSwitch.mp h.trustsProxy
    have htunnels : c.maxTunnels =
        ((env.number? "MAX_TUNNELS_PER_TOKEN").or file.maxTunnels).getD 0 :=
      source_ofNumber.mp h.maxTunnels
    have hcreations : c.maxCreations =
        ((env.number? "MAX_TUNNEL_CREATES_PER_MINUTE").or file.maxCreations).getD 0 :=
      source_ofNumber.mp h.maxCreations
    have htoken : c.authToken = (((env.text? "AUTH_TOKEN").or file.authToken).map trim).filter
        fun token => !token.isEmpty := by
      obtain ⟨text?, hsource, htoken⟩ := h.authToken
      obtain rfl := source_ofText.mp hsource
      refine Option.ext fun token => (htoken token).trans ?_
      rw [Option.or_none]
      exact filter_trim_eq_some_iff.symm
    refine ⟨_, h.httpAddress, _, h.tunnelDomain, _, ⟨h.first, h.last, h.ports⟩, _, h.bindAddress, _,
      ⟨h.certificate, h.key⟩, _, h.tokens, ?_⟩
    rw [← hproxy, ← htunnels, ← hcreations, ← htoken]

/-! ### What is turned down -/

/-- What is reported is there. -/
theorem fault_of_resolve (h : resolve env file = .error e) : Fault env file e := by
  rcases bind_eq_error h with h | ⟨_, -, h⟩
  · obtain ⟨hnone, rfl⟩ := elim_eq_error_iff.mp h
    exact .httpAddress (source_ofText.mpr (Option.or_some ..).symm) hnone
  rcases bind_eq_error h with h | ⟨_, -, h⟩
  · obtain ⟨hnone, rfl⟩ := elim_eq_error_iff.mp h
    refine .tunnelDomain fun text hsource => eq_true_of_ne_false fun hblank => ?_
    have hdomain := (source_ofText.mp hsource).trans (Option.or_none ..)
    rw [← hdomain, Option.filter_some, hblank] at hnone
    cases hnone
  rcases bind_eq_error h with h | ⟨_, -, h⟩
  · rw [resolvePorts] at h
    split at h
    · rename_i hbad
      cases h
      exact .ports (source_ofPort.mpr rfl) (source_ofPort.mpr rfl) hbad
    · cases h
  rcases bind_eq_error h with h | ⟨_, -, h⟩
  · rw [resolveBindAddress] at h
    split at h
    · cases h
    · rename_i text htext
      obtain ⟨hnone, rfl⟩ := elim_eq_error_iff.mp h
      exact .bindAddress (source_ofText.mpr (congrArg (Option.or · _) htext).symm) hnone
  rcases bind_eq_error h with h | ⟨_, -, h⟩
  · have hcertificate : certificate.Source env file ((env.text? "TLS_CERT").or file.certificate) :=
      source_ofText.mpr (Option.or_none ..).symm
    have hkey : key.Source env file ((env.text? "TLS_KEY").or file.key) :=
      source_ofText.mpr (Option.or_none ..).symm
    rw [resolveTls] at h
    generalize (env.text? "TLS_CERT").or file.certificate = certificate? at h hcertificate
    generalize (env.text? "TLS_KEY").or file.key = key? at h hkey
    rcases certificate? with _ | certificate <;> rcases key? with _ | key <;> cases h
    · exact .tls hcertificate hkey Bool.false_ne_true
    · exact .tls hcertificate hkey Bool.false_ne_true.symm
  rcases bind_eq_error h with h | ⟨_, -, h⟩
  · rw [checkTokens] at h
    split at h
    · rename_i hbad
      cases h
      obtain ⟨entry, hmem, hentry⟩ := List.any_eq_true.mp hbad
      refine .tokens hmem fun hnames => ?_
      rw [hnames.1, Bool.false_or, decide_eq_true_eq] at hentry
      exact absurd hnames.2 (Int.not_lt.mpr hentry)
    · cases h
  · cases h

/-- A fault is not accepted. -/
theorem not_settled_of_fault (h : Fault env file e) : ¬ Settled env file c := by
  intro hsettled
  cases h with
  | httpAddress hsource hbad =>
    obtain ⟨text, hsource', hgood⟩ := hsettled.httpAddress
    obtain rfl := Option.some.inj (ofText_unique hsource hsource')
    rw [hbad] at hgood
    cases hgood
  | tunnelDomain hbad =>
    obtain ⟨hsource, hgood⟩ := hsettled.tunnelDomain
    rw [hbad _ hsource] at hgood
    cases hgood
  | ports hfirst hlast hbad =>
    obtain rfl := ofPort_unique hfirst hsettled.first
    obtain rfl := ofPort_unique hlast hsettled.last
    exact hbad.elim hsettled.ports.1 (UInt16.not_lt.mpr hsettled.ports.2)
  | bindAddress hsource hbad =>
    obtain ⟨text, hsource', hgood⟩ := hsettled.bindAddress
    obtain rfl := Option.some.inj (ofText_unique hsource hsource')
    rw [hbad] at hgood
    cases hgood
  | tls hcertificate hkey hbad =>
    rw [ofText_unique hcertificate hsettled.certificate, ofText_unique hkey hsettled.key,
      Option.isSome_map, Option.isSome_map] at hbad
    exact hbad rfl
  | tokens hmem hbad => exact hbad (hsettled.tokens.2 _ hmem)

/-- What holds of every configuration that is accepted. -/
structure Config.IsSound (c : Config) : Prop where
  ports : 1 ≤ c.ports.first ∧ c.ports.first ≤ c.ports.last
  check : c.ports.check = .ok c.ports
  authToken : ∀ token, c.authToken = some token → token ≠ "" ∧ trim token = token
  tokens : ∀ entry ∈ c.tokens, 0 < entry.id

/-- A configuration that is settled is sound, whatever its sources are. -/
theorem Settled.isSound (h : Settled env file c) : c.IsSound := by
  have hfirst : 1 ≤ c.ports.first := by
    rw [UInt16.le_iff_toNat_le]
    exact Nat.pos_of_ne_zero fun hzero => h.ports.1 (UInt16.toNat_inj.mp hzero)
  have hlast : c.ports.last ≠ 0 := by
    intro hzero
    have hle := UInt16.le_iff_toNat_le.mp (UInt16.le_trans hfirst h.ports.2)
    rw [hzero] at hle
    cases hle
  refine ⟨⟨hfirst, h.ports.2⟩, ?_, fun token htoken => ?_, fun entry hmem => ?_⟩
  · rw [PortRange.check, if_pos]
    simpa [PortRange.usable, hlast] using h.ports
  · obtain ⟨text?, -, hauth⟩ := h.authToken
    obtain ⟨text, -, hblank, rfl⟩ := (hauth token).mp htoken
    refine ⟨fun hempty => ?_, trim_trim text⟩
    rw [← isEmpty_trim, hempty] at hblank
    cases hblank
  · exact (h.tokens.2 entry (h.tokens.1 ▸ hmem)).2

/-- **Every setting is from its variable, else from the file, else the default**, and what comes
together so is turned down exactly if there is a fault in it, for one of these faults. What is
accepted can be used: its ports are a range without port 0, its shared token is not blank, and each
of its tokens identifies somebody. -/
theorem settings_have_their_sources (env : Environment) (file : ConfigFile) :
    (∀ c, resolve env file = .ok c ↔ Settled env file c) ∧
    (∀ e, resolve env file = .error e → Fault env file e) ∧
    ((∃ e, Fault env file e) → ∃ e, resolve env file = .error e) ∧
    ∀ c, resolve env file = .ok c → c.IsSound := by
  refine ⟨fun c => resolve_eq_ok_iff, fun e => fault_of_resolve, fun ⟨e, he⟩ => ?_,
    fun c h => (resolve_eq_ok_iff.mp h).isSound⟩
  rcases hresolve : resolve env file with e' | c
  · exact ⟨e', rfl⟩
  · exact absurd (resolve_eq_ok_iff.mp hresolve) (not_settled_of_fault he)

/-- A file with a range of ports and a shared token. -/
def rangeFile : ConfigFile where
  tunnelDomain := some "tunnel.test"
  ports := some (100, 200)
  authToken := some " shared "

/-- An environment that gives one end of the range, and a blank instead of the token. -/
def lastPortEnv : Environment :=
  ⟨[("SLUICE_TCP_PORT_END", Utf8.encode " 300"), ("SLUICE_AUTH_TOKEN", Utf8.encode " ")]⟩

/-- Each end of the range is from where it is given, and the shared token is that of the file. -/
theorem rangeFile_settled :
    Settled lastPortEnv rangeFile ⟨⟨.v4 0, 0, 8080⟩, "tunnel.test", ⟨100, 300⟩, .v4 0, false, 0, 0,
      some "shared", none, []⟩ :=
  ((settings_have_their_sources lastPortEnv rangeFile).1 _).mp rfl

/-- What is from the environment need not go with what is from the file. -/
example : resolve ⟨[("SLUICE_TCP_PORT_START", Utf8.encode "250")]⟩ rangeFile =
    .error (.ports 250 200) := rfl

end

end Server

end ReverseTunnel
