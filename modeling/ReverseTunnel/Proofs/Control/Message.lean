import ReverseTunnel.Control.Message
import ReverseTunnel.Proofs.Json.Reading

/-!
# Messages that were written

A message has a fixed list of fields, of which those that say nothing are left out. What is left
out is read as nothing, so it does not matter which fields these are: a message is described by
its list of fields with and without values (`Slots`), what is written is what has a value, and every
field is found again with the value that it had or as absent.

A request is looked up among its fields from the last to the first, an answer from the first to
the last, and of an answer no field may be repeated. Since no name stands twice in the list, all
of these come to the same.

## Main results

* `field?_written`, `find?_written`: every field is found as it was.
* `TunnelRequest.parse?_print`, `TunnelRequest.decode_raw`: a request is read in its two steps.
* `HttpTunnelAnswer.parse?_print`, `TcpTunnelAnswer.parse?_print`: an answer is read in one.
-/

namespace ReverseTunnel

open Json

/-- The fields that a message can have, in order, with the values of those that are written. -/
abbrev Slots := List (String × Option Value)

/-- The fields that are written. -/
def written (slots : Slots) : List (String × Value) :=
  slots.filterMap fun slot => slot.2.map (slot.1, ·)

section Slots

variable {slots : Slots} {name : String} {value? : Option Value}

/-- The fields of some slots and then of others are written one after another. -/
theorem written_append (slots slots' : Slots) :
    written (slots ++ slots') = written slots ++ written slots' :=
  List.filterMap_append

/-- The fields that are written are the slots that have a value. -/
theorem mem_written {field : String × Value} :
    field ∈ written slots ↔ (field.1, some field.2) ∈ slots := by
  rw [written, List.mem_filterMap]
  constructor
  · rintro ⟨⟨name, _ | value⟩, hmem, heq⟩
    · cases heq
    · cases heq
      exact hmem
  · exact fun hmem => ⟨_, hmem, rfl⟩

/-- The names that are written are names of slots, in their order. -/
theorem map_fst_written_sublist (slots : Slots) :
    ((written slots).map Prod.fst).Sublist (slots.map Prod.fst) := by
  induction slots with
  | nil => exact .slnil
  | cons slot slots ih =>
    rcases slot with ⟨name, _ | value⟩
    · exact ih.cons name
    · exact ih.cons_cons name

/-- A field is found with its value, or not at all if it is not written. -/
theorem find?_written (hnames : (slots.map Prod.fst).Nodup) (h : (name, value?) ∈ slots) :
    (written slots).find? (·.1 == name) = value?.map (name, ·) := by
  induction slots with
  | nil => exact absurd h List.not_mem_nil
  | cons slot slots ih =>
    obtain ⟨hfirst, hnames⟩ := List.nodup_cons.mp hnames
    have hcons : written (slot :: slots) = written [slot] ++ written slots :=
      written_append [slot] slots
    rw [hcons, List.find?_append]
    rcases List.mem_cons.mp h with rfl | hmem
    · have hnone : (written slots).find? (·.1 == name) = none := by
        rw [List.find?_eq_none]
        intro field hfield hname
        have hslot := List.mem_map_of_mem (f := Prod.fst) (mem_written.mp hfield)
        rw [beq_iff_eq] at hname
        exact hfirst (hname ▸ hslot)
      rw [hnone, Option.or_none]
      cases value? <;> simp [written]
    · have hne : slot.1 ≠ name := fun heq =>
        hfirst (heq ▸ List.mem_map_of_mem (f := Prod.fst) hmem)
      have hother : (written [slot]).find? (·.1 == name) = none := by
        rcases slot with ⟨name', _ | value⟩
        · rfl
        · simpa [written] using hne
      rw [hother, Option.none_or, ih hnames hmem]

/-- So it is if the last field of a name counts. -/
theorem field?_written (hnames : (slots.map Prod.fst).Nodup) (h : (name, value?) ∈ slots) :
    Value.field? (written slots) name = value? := by
  have hreverse : (written slots).reverse = written slots.reverse := List.filterMap_reverse.symm
  have hnames' : (slots.reverse.map Prod.fst).Nodup := by
    rw [List.map_reverse]
    exact List.pairwise_reverse.mpr (hnames.imp Ne.symm)
  rw [Value.field?, hreverse, find?_written hnames' (List.mem_reverse.mpr h), Option.map_map]
  cases value? <;> rfl

/-- What is written nests one deeper than the values in it. -/
theorem writable_written {depth : Nat}
    (h : ∀ slot ∈ slots, ∀ value ∈ slot.2, Writable depth value) :
    Writable (depth + 1) (.object (written slots)) :=
  .object fun _ hfield => h _ (mem_written.mp hfield) _ rfl

end Slots

/-! ### Values that may be left out -/

/-- A text, left out when it is empty. -/
def textSlot (s : String) : Option Value := if s.isEmpty then none else some (.string s)

/-- A list of texts, left out when it is empty. -/
def listSlot (texts : List String) : Option Value :=
  if texts.isEmpty then none else some (.array (texts.map .string))

/-- Header entries, left out when there are none. -/
def headerSlot (entries : List HeaderEntry) : Option Value :=
  if entries.isEmpty then none else some (.array (entries.map HeaderEntry.toJson))

/-- The fields of a header entry. -/
def HeaderEntry.slots (entry : HeaderEntry) : Slots :=
  [("name", some (.string entry.name)), ("value", some (.string entry.value))]

/-- A text field is the slot of its text, written. -/
theorem textField_eq (name value : String) :
    textField name value = written [(name, textSlot value)] := by
  rw [textField, textSlot]
  split <;> rfl

/-- A field for a list of texts is the slot of the list, written. -/
theorem listField_eq (name : String) (values : List String) :
    listField name values = written [(name, listSlot values)] := by
  rw [listField, listSlot]
  split <;> rfl

/-- A field for headers is the slot of the headers, written. -/
theorem headerField_eq (name : String) (entries : List HeaderEntry) :
    headerField name entries = written [(name, headerSlot entries)] := by
  rw [headerField, headerSlot]
  split <;> rfl

section Values

variable {depth : Nat} {fields : List (String × Value)} {name s : String} {texts : List String}
  {entries : List HeaderEntry}

/-- A value that can be written can be written as the value of a slot. -/
theorem writable_some {v : Value} (h : Writable depth v) :
    ∀ value ∈ some v, Writable depth value := by
  rintro _ ⟨⟩
  exact h

/-- The value of a text slot can be written at any depth. -/
theorem writable_textSlot : ∀ value ∈ textSlot s, Writable depth value := by
  intro value h
  obtain ⟨-, ⟨⟩⟩ := Option.ite_none_left_eq_some.mp h
  exact .string s

/-- The value of a slot for a list of texts can be written one level down. -/
theorem writable_listSlot : ∀ value ∈ listSlot texts, Writable (depth + 1) value := by
  intro value h
  obtain ⟨-, ⟨⟩⟩ := Option.ite_none_left_eq_some.mp h
  exact .array (List.forall_mem_map.mpr fun text _ => .string text)

/-- A header can be written one level down, being an object of texts. -/
theorem writable_headerEntry (entry : HeaderEntry) : Writable (depth + 1) entry.toJson :=
  .object (List.forall_mem_cons.mpr ⟨.string _, List.forall_mem_singleton.mpr (.string _)⟩)

/-- The value of a slot for headers can be written two levels down. -/
theorem writable_headerSlot : ∀ value ∈ headerSlot entries, Writable (depth + 2) value := by
  intro value h
  obtain ⟨-, ⟨⟩⟩ := Option.ite_none_left_eq_some.mp h
  exact .array (List.forall_mem_map.mpr fun entry _ => writable_headerEntry entry)

/-- A field that holds a text is read as that text. -/
theorem readText_of_string (h : Value.field? fields name = some (.string s)) :
    readText fields name = some s := by
  rw [readText, h]
  rfl

/-- A text is read back from the field of its slot, the empty one from no field at all. -/
theorem readText_of_textSlot (h : Value.field? fields name = textSlot s) :
    readText fields name = some s := by
  by_cases hempty : s.isEmpty
  · rw [readText, h, textSlot, if_pos hempty, String.isEmpty_iff.mp hempty]
  · rw [textSlot, if_neg hempty] at h
    exact readText_of_string h

/-- A list of texts is read back from the field of its slot, the empty one from no field at all. -/
theorem readList_of_listSlot (h : Value.field? fields name = listSlot texts) :
    readList fields name = some texts := by
  have hread : (texts.map Value.string).mapM Value.string? = some texts :=
    Text.mapM_map_of_inverse fun _ _ => rfl
  by_cases hempty : texts.isEmpty
  · rw [readList, h, listSlot, if_pos hempty, List.isEmpty_iff.mp hempty]
  · rw [readList, h, listSlot, if_neg hempty]
    exact hread

/-- A header is read back from what is written for it. -/
theorem ofJson?_toJson (entry : HeaderEntry) : HeaderEntry.ofJson? entry.toJson = some entry := by
  have hnames : (entry.slots.map Prod.fst).Nodup :=
    (by decide : ["name", "value"].Nodup)
  have hfields : entry.toJson = .object (written entry.slots) := rfl
  rw [hfields, HeaderEntry.ofJson?,
    readText_of_string (field?_written hnames List.mem_cons_self),
    readText_of_string (field?_written hnames (List.mem_cons_of_mem _ List.mem_cons_self))]
  rfl

/-- Headers are read back from the field of their slot, no headers from no field at all. -/
theorem readHeaders_of_headerSlot (h : Value.field? fields name = headerSlot entries) :
    readHeaders fields name = some entries := by
  by_cases hempty : entries.isEmpty
  · rw [readHeaders, h, headerSlot, if_pos hempty, List.isEmpty_iff.mp hempty]
  · rw [readHeaders, h, headerSlot, if_neg hempty]
    exact Text.mapM_map_of_inverse fun entry _ => ofJson?_toJson entry

/-- A port is a number that can be written. -/
theorem writable_port (port : UInt16) : Writable depth (.number (.ofNat port.toNat)) :=
  .natural (Nat.lt_trans port.toNat_lt (by decide))

/-- A port is read back from its number. -/
theorem port?_ofNat (port : UInt16) :
    (Value.number (.ofNat port.toNat)).port? = some port := by
  have hfits : (some port.toNat).filter (· < 65536) = some port.toNat := by
    simp [port.toNat_lt]
  rw [Value.port?, Number.natural?_ofNat, hfits, Option.map_some, UInt16.ofNat_toNat]

/-- A field that holds the number of a port is read as that port. -/
theorem readPort_of_number {port : UInt16}
    (h : Value.field? fields name = some (.number (.ofNat port.toNat))) :
    readPort fields name = some port := by
  rw [readPort, h]
  exact port?_ofNat port

end Values

/-- A kind is found again by its tag, as a server reads it. -/
theorem TunnelKind.parse?_tag (kind : TunnelKind) : TunnelKind.parse? kind.tag = some kind := by
  cases kind <;> decide

/-- A kind is found again by its tag, as a client reads it, which allows for no other spelling. -/
theorem TunnelKind.ofTag?_tag (kind : TunnelKind) : TunnelKind.ofTag? kind.tag = some kind := by
  cases kind <;> decide

/-! ### Requests -/

/-- The fields of a request for a name. -/
def HttpTunnelRequest.slots (r : HttpTunnelRequest) : Slots :=
  [("type", some (.string TunnelKind.http.tag)),
    ("authtoken", some (.string r.authtoken)),
    ("subdomain", textSlot r.subdomain),
    ("domain", textSlot r.domain),
    ("basic_auth", textSlot r.basicAuth),
    ("allow_cidr", listSlot r.allowCidr),
    ("deny_cidr", listSlot r.denyCidr),
    ("request_header_add", headerSlot r.requestHeaderAdd),
    ("request_header_remove", listSlot r.requestHeaderRemove),
    ("response_header_add", headerSlot r.responseHeaderAdd),
    ("response_header_remove", listSlot r.responseHeaderRemove),
    ("allow_method", listSlot r.allowMethod),
    ("allow_path", listSlot r.allowPath),
    ("allow_path_prefix", listSlot r.allowPathPrefix)]

/-- The fields of a request for a port. -/
def TcpTunnelRequest.slots (r : TcpTunnelRequest) : Slots :=
  [("type", some (.string TunnelKind.tcp.tag)),
    ("authtoken", some (.string r.authtoken)),
    ("remote_port", some (.number (.ofNat r.remotePort.toNat)))]

/-- The fields of a request. -/
def TunnelRequest.slots : TunnelRequest → Slots
  | .http r => r.slots
  | .tcp r => r.slots

namespace HttpTunnelRequest

/-- The fields of a request for a name are its slots, written. -/
theorem written_slots (r : HttpTunnelRequest) :
    written r.slots = ("type", .string TunnelKind.http.tag) :: r.fields := by
  simp only [fields, textField_eq, listField_eq, headerField_eq, ← written_append,
    List.cons_append, List.nil_append]
  rfl

/-- No two slots of a request for a name have the same name. -/
theorem nodup_slots (r : HttpTunnelRequest) : (r.slots.map Prod.fst).Nodup :=
  (by decide : ["type", "authtoken", "subdomain", "domain", "basic_auth", "allow_cidr",
    "deny_cidr", "request_header_add", "request_header_remove", "response_header_add",
    "response_header_remove", "allow_method", "allow_path", "allow_path_prefix"].Nodup)

/-- A request for a name is read from its fields. -/
theorem ofFields?_written (r : HttpTunnelRequest) : ofFields? (written r.slots) = some r := by
  have hfield {name : String} {value? : Option Value} (h : (name, value?) ∈ r.slots) :
      Value.field? (written r.slots) name = value? := field?_written r.nodup_slots h
  have htoken : readText (written r.slots) "authtoken" = some r.authtoken :=
    readText_of_string (hfield (by simp [slots]))
  have htext (name text : String) (h : (name, textSlot text) ∈ r.slots) :
      readText (written r.slots) name = some text := readText_of_textSlot (hfield h)
  have hlist (name : String) (texts : List String) (h : (name, listSlot texts) ∈ r.slots) :
      readList (written r.slots) name = some texts := readList_of_listSlot (hfield h)
  have hheaders (name : String) (entries : List HeaderEntry)
      (h : (name, headerSlot entries) ∈ r.slots) :
      readHeaders (written r.slots) name = some entries := readHeaders_of_headerSlot (hfield h)
  rw [ofFields?, htoken,
    htext "subdomain" r.subdomain (by simp [slots]),
    htext "domain" r.domain (by simp [slots]),
    htext "basic_auth" r.basicAuth (by simp [slots]),
    hlist "allow_cidr" r.allowCidr (by simp [slots]),
    hlist "deny_cidr" r.denyCidr (by simp [slots]),
    hheaders "request_header_add" r.requestHeaderAdd (by simp [slots]),
    hlist "request_header_remove" r.requestHeaderRemove (by simp [slots]),
    hheaders "response_header_add" r.responseHeaderAdd (by simp [slots]),
    hlist "response_header_remove" r.responseHeaderRemove (by simp [slots]),
    hlist "allow_method" r.allowMethod (by simp [slots]),
    hlist "allow_path" r.allowPath (by simp [slots]),
    hlist "allow_path_prefix" r.allowPathPrefix (by simp [slots])]
  rfl

/-- Every value of a request for a name can be written. -/
theorem writable_slots (r : HttpTunnelRequest) (depth : Nat) :
    ∀ slot ∈ r.slots, ∀ value ∈ slot.2, Writable (depth + 2) value := by
  simp only [slots, List.forall_mem_cons]
  exact ⟨writable_some (.string _), writable_some (.string _), writable_textSlot,
    writable_textSlot, writable_textSlot, writable_listSlot, writable_listSlot,
    writable_headerSlot, writable_listSlot, writable_headerSlot, writable_listSlot,
    writable_listSlot, writable_listSlot, writable_listSlot, List.forall_mem_nil _⟩

end HttpTunnelRequest

namespace TcpTunnelRequest

/-- The fields of a request for a port are its slots, written. -/
theorem written_slots (r : TcpTunnelRequest) :
    written r.slots = ("type", .string TunnelKind.tcp.tag) :: r.fields := rfl

/-- No two slots of a request for a port have the same name. -/
theorem nodup_slots (r : TcpTunnelRequest) : (r.slots.map Prod.fst).Nodup :=
  (by decide : ["type", "authtoken", "remote_port"].Nodup)

/-- A request for a port is read from its fields. -/
theorem ofFields?_written (r : TcpTunnelRequest) : ofFields? (written r.slots) = some r := by
  have htoken : readText (written r.slots) "authtoken" = some r.authtoken :=
    readText_of_string (field?_written r.nodup_slots (by simp [slots]))
  have hport : readPort (written r.slots) "remote_port" = some r.remotePort :=
    readPort_of_number (field?_written r.nodup_slots (by simp [slots]))
  rw [ofFields?, htoken, hport]
  rfl

/-- Every value of a request for a port can be written. -/
theorem writable_slots (r : TcpTunnelRequest) (depth : Nat) :
    ∀ slot ∈ r.slots, ∀ value ∈ slot.2, Writable depth value := by
  simp only [slots, List.forall_mem_cons]
  exact ⟨writable_some (.string _), writable_some (.string _), writable_some (writable_port _),
    List.forall_mem_nil _⟩

end TcpTunnelRequest

namespace TunnelRequest

/-- A request is written as the object of its slots, whatever its kind. -/
theorem toJson_eq (request : TunnelRequest) : request.toJson = .object (written request.slots) :=
  match request with
  | .http r => congrArg Value.object r.written_slots.symm
  | .tcp r => congrArg Value.object r.written_slots.symm

/-- Every request can be written, without going too deep. -/
theorem writable_toJson (request : TunnelRequest) : Writable maxDepth request.toJson := by
  rw [toJson_eq]
  cases request with
  | http r => exact writable_written (r.writable_slots 124)
  | tcp r => exact writable_written (r.writable_slots 126)

/-- What the first step of reading a request that was written gives. -/
def raw (request : TunnelRequest) : RawRequest :=
  ⟨request.kind.tag, request.authtoken, written request.slots⟩

/-- The first step finds type and token. -/
theorem parse?_print (request : TunnelRequest) :
    RawRequest.parse? request.toJson.print = some request.raw := by
  have hnames : (request.slots.map Prod.fst).Nodup := by
    cases request with
    | http r => exact r.nodup_slots
    | tcp r => exact r.nodup_slots
  have htype : readText (written request.slots) "type" = some request.kind.tag := by
    refine readText_of_string (field?_written hnames ?_)
    cases request <;> exact List.mem_cons_self
  have htoken : readText (written request.slots) "authtoken" = some request.authtoken := by
    refine readText_of_string (field?_written hnames ?_)
    cases request <;> exact List.mem_cons_of_mem _ List.mem_cons_self
  rw [RawRequest.parse?, Value.parse?_print request.writable_toJson, Option.bind_some, toJson_eq,
    RawRequest.ofJson?, htype, htoken]
  rfl

/-- The second step gives the request back. -/
theorem decode_raw (request : TunnelRequest) : request.raw.decode = .ok request := by
  have hkind : request.raw.kind? = some request.kind := TunnelKind.parse?_tag request.kind
  rw [RawRequest.decode, hkind]
  cases request with
  | http r =>
    change Except.map _ (Option.elim (HttpTunnelRequest.ofFields? (written r.slots)) _ _) = _
    rw [r.ofFields?_written]
    rfl
  | tcp r =>
    change Except.map _ (Option.elim (TcpTunnelRequest.ofFields? (written r.slots)) _ _) = _
    rw [r.ofFields?_written]
    rfl

end TunnelRequest

/-! ### Answers -/

section Records

variable {slots : Slots}

/-- The trees of the fields that are written. -/
def writtenTrees (slots : Slots) : List (String × Tree) :=
  (written slots).map fun field => (field.1, field.2.tree)

/-- The fields that have one of some names. -/
def Slots.named (slots : Slots) (names : List String) : Slots :=
  slots.filter fun slot => names.contains slot.1

/-- Slots with different names still have different names when only some are looked for. -/
theorem nodup_named (hnames : (slots.map Prod.fst).Nodup) (names : List String) :
    ((slots.named names).map Prod.fst).Nodup :=
  hnames.sublist (List.filter_sublist.map Prod.fst)

/-- The slots that are found for some names are those that have one of them. -/
theorem mem_named {slot : String × Option Value} {names : List String} :
    slot ∈ slots.named names ↔ slot ∈ slots ∧ slot.1 ∈ names := by
  rw [Slots.named, List.mem_filter, List.contains_iff_mem]

/-- To look for some slots and write them is to write all and look for some fields. -/
theorem written_named (slots : Slots) (names : List String) :
    written (slots.named names) = (written slots).filter fun field => names.contains field.1 := by
  rw [written, written, Slots.named, List.filterMap_filter, List.filter_filterMap]
  congr 1
  funext slot
  rcases slot with ⟨name, _ | value⟩
  · simp
  · simp [Option.filter]

/-- The same of the trees that are written for the values. -/
theorem writtenTrees_named (slots : Slots) (names : List String) :
    (writtenTrees slots).filter (fun field => names.contains field.1) =
      writtenTrees (slots.named names) := by
  rw [writtenTrees, writtenTrees, written_named, List.filter_map]
  rfl

/-- The tree of a message is read as the trees of those fields that are looked for. -/
theorem readRecord_object (hnames : (slots.map Prod.fst).Nodup) (names : List String) :
    readRecord names (Value.object (written slots)).tree =
      some (writtenTrees (slots.named names)) := by
  have hfst (slots : Slots) : (writtenTrees slots).map Prod.fst = (written slots).map Prod.fst := by
    rw [writtenTrees, List.map_map]
    rfl
  have hsublist : ((writtenTrees (slots.named names)).map Prod.fst).Sublist
      ((slots.named names).map Prod.fst) := hfst _ ▸ map_fst_written_sublist _
  -- A name that was left out is counted as well, with no field.
  have honce : (names.all fun name =>
      (writtenTrees (slots.named names)).countP (·.1 == name) ≤ 1) = true := by
    rw [List.all_eq_true]
    intro name _
    have hcount := List.nodup_iff_count.mp ((nodup_named hnames names).sublist hsublist) name
    rw [List.count, List.countP_map] at hcount
    exact decide_eq_true hcount
  rw [Value.tree, readRecord, Text.mapM_map_of_some (k := fun field => (field.1, field.2.tree))]
  · rw [← writtenTrees]
    simp only [Option.bind_eq_bind, Option.bind_some, writtenTrees_named, honce, if_true]
  · intro field _
    dsimp only
    rw [unescape?_escape]
    rfl

/-- All of them are read if all are looked for. -/
theorem readRecord_written (hnames : (slots.map Prod.fst).Nodup) :
    readRecord (slots.map Prod.fst) (Value.object (written slots)).tree =
      some (writtenTrees slots) := by
  have hall : slots.named (slots.map Prod.fst) = slots :=
    List.filter_eq_self.mpr fun slot hslot =>
      List.contains_iff_mem.mpr (List.mem_map_of_mem hslot)
  rw [readRecord_object hnames, hall]

/-- A field is read from its tree, or absent if it was not written. -/
theorem readField_written {α : Type} (hnames : (slots.map Prod.fst).Nodup) {name : String}
    {value? : Option Value} (h : (name, value?) ∈ slots) (default : α) (read : Tree → Option α) :
    readField (writtenTrees slots) name default read =
      value?.elim (some default) fun value => read value.tree := by
  have hfind : (writtenTrees slots).find? (·.1 == name) =
      ((written slots).find? (·.1 == name)).map fun field => (field.1, field.2.tree) :=
    List.find?_map
  rw [readField, hfind, find?_written hnames h]
  cases value? <;> rfl

/-- A field that is no field of the message is absent. -/
theorem readField_of_not_mem {α : Type} {name : String} (h : name ∉ slots.map Prod.fst)
    (default : α) (read : Tree → Option α) :
    readField (writtenTrees slots) name default read = some default := by
  have hnone : (writtenTrees slots).find? (·.1 == name) = none := by
    rw [List.find?_eq_none]
    intro field hfield hname
    obtain ⟨written', hwritten, rfl⟩ := List.mem_map.mp hfield
    rw [beq_iff_eq] at hname
    exact h (hname ▸ List.mem_map_of_mem (f := Prod.fst) (mem_written.mp hwritten))
  rw [readField, hnone]

/-- A text is read back from its tree. -/
theorem readString_tree (s : String) : readString (Value.string s).tree = some s := by
  rw [Value.tree, readString, unescape?_escape]

/-- So is a text that is a tag. -/
theorem readTag_tree (s : String) : readTag (Value.string s).tree = some s := by
  rw [Value.tree, readTag, unescape?_escape]

/-- So is the number of a port. -/
theorem readPortNumber_tree (port : UInt16) :
    readPortNumber (Value.number (.ofNat port.toNat)).tree = some port := by
  rw [Value.tree, readPortNumber, port?_ofNat]

/-- A text that may be missing is not `null`. -/
theorem readOptional_string {α : Type} {read : Tree → Option α} {s : String} {a : α}
    (h : read (Value.string s).tree = some a) :
    readOptional read (Value.string s).tree = some (some a) := by
  rw [Value.tree] at h ⊢
  rw [readOptional, h]
  · rfl
  · simp

end Records

/-- The fields of an answer for a name. -/
def HttpTunnelAnswer.slots (a : HttpTunnelAnswer) : Slots :=
  [("type", some (.string a.kind.tag)),
    ("id", textSlot a.id),
    ("url", textSlot a.url),
    ("error", a.error.map .string),
    ("error_kind", a.errorKind.map fun kind => .string kind.tag)]

/-- The fields of an answer for a port. -/
def TcpTunnelAnswer.slots (a : TcpTunnelAnswer) : Slots :=
  [("type", some (.string a.kind.tag)),
    ("remote_port", some (.number (.ofNat a.remotePort.toNat))),
    ("error", a.error.map .string),
    ("error_kind", a.errorKind.map fun kind => .string kind.tag)]

section Answers

variable {slots : Slots}

/-- The fields of an error are two slots, written: its message and its kind. -/
theorem errorFields_eq (error : Option String) (kind? : Option Rejection.Kind) :
    errorFields error kind? = written [("error", error.map .string),
      ("error_kind", kind?.map fun kind => .string kind.tag)] := by
  cases error <;> cases kind? <;> rfl

/-- A text that may be missing can be written where it is not. -/
theorem writable_map_string {α : Type} {depth : Nat} {text : α → String} {a? : Option α} :
    ∀ value ∈ a?.map fun a => Value.string (text a), Writable depth value := by
  intro value h
  obtain ⟨a, -, rfl⟩ := Option.map_eq_some_iff.mp h
  exact .string _

/-- The kind of an answer is read back from its fields. -/
theorem readKind_written (hnames : (slots.map Prod.fst).Nodup) (kind : TunnelKind)
    (h : ("type", some (.string kind.tag)) ∈ slots) (default : TunnelKind) :
    readField (writtenTrees slots) "type" default (fun t => (readTag t).bind TunnelKind.ofTag?) =
      some kind := by
  rw [readField_written hnames h]
  simp only [Option.elim, readTag_tree, Option.bind_some, TunnelKind.ofTag?_tag]

/-- A text is read back from the fields of an answer, the empty one from no field at all. -/
theorem readText_written (hnames : (slots.map Prod.fst).Nodup) (name s : String)
    (h : (name, textSlot s) ∈ slots) :
    readField (writtenTrees slots) name "" readString = some s := by
  rw [readField_written hnames h, textSlot]
  split
  · rename_i hempty
    rw [String.isEmpty_iff.mp hempty]
    rfl
  · exact readString_tree s

/-- The message of an error is read back from the fields of an answer, and so is that there is none.
-/
theorem readError_written (hnames : (slots.map Prod.fst).Nodup) (error : Option String)
    (h : ("error", error.map .string) ∈ slots) :
    readField (writtenTrees slots) "error" none (readOptional readString) = some error := by
  rw [readField_written hnames h]
  cases error with
  | none => rfl
  | some message => exact readOptional_string (readString_tree message)

/-- The kind of an error is read back from the fields of an answer, and so is that there is none. -/
theorem readErrorKind_written (hnames : (slots.map Prod.fst).Nodup)
    (kind? : Option Rejection.Kind)
    (h : ("error_kind", kind?.map fun kind => .string kind.tag) ∈ slots) :
    readField (writtenTrees slots) "error_kind" none
      (readOptional fun t => (readTag t).map .ofTag) = some kind? := by
  rw [readField_written hnames h]
  cases kind? with
  | none => rfl
  | some kind =>
    refine readOptional_string ?_
    rw [readTag_tree, Option.map_some, Rejection.Kind.ofTag_tag]

end Answers

namespace HttpTunnelAnswer

/-- An answer for a name is written as the object of its slots. -/
theorem toJson_eq (a : HttpTunnelAnswer) : a.toJson = .object (written a.slots) := by
  simp only [toJson, textField_eq, errorFields_eq, List.cons_append, ← written_append,
    List.nil_append]
  rfl

/-- No two slots of an answer for a name have the same name. -/
theorem nodup_slots (a : HttpTunnelAnswer) : (a.slots.map Prod.fst).Nodup :=
  (by decide : ["type", "id", "url", "error", "error_kind"].Nodup)

/-- Every value of an answer for a name can be written. -/
theorem writable_slots (a : HttpTunnelAnswer) (depth : Nat) :
    ∀ slot ∈ a.slots, ∀ value ∈ slot.2, Writable depth value := by
  simp only [slots, List.forall_mem_cons]
  exact ⟨writable_some (.string _), writable_textSlot, writable_textSlot, writable_map_string,
    writable_map_string, List.forall_mem_nil _⟩

/-- Every answer for a name can be written, without going too deep. -/
theorem writable_toJson (a : HttpTunnelAnswer) : Writable maxDepth a.toJson :=
  a.toJson_eq ▸ writable_written (a.writable_slots 126)

/-- An answer for a name is read from what was written. -/
theorem parse?_print (a : HttpTunnelAnswer) : parse? a.toJson.print = some a := by
  have hnames := a.nodup_slots
  have hrecord : readRecord ["type", "id", "url", "error", "error_kind"] a.toJson.tree =
      some (writtenTrees a.slots) := a.toJson_eq ▸ readRecord_written hnames
  rw [parse?, Tree.parse?_print a.writable_toJson, Option.bind_some, ofTree?, hrecord,
    Option.bind_eq_bind, Option.bind_some,
    readKind_written hnames a.kind (by simp [slots]),
    readText_written hnames "id" a.id (by simp [slots]),
    readText_written hnames "url" a.url (by simp [slots]),
    readError_written hnames a.error (by simp [slots]),
    readErrorKind_written hnames a.errorKind (by simp [slots])]
  rfl

end HttpTunnelAnswer

namespace TcpTunnelAnswer

/-- An answer for a port is written as the object of its slots. -/
theorem toJson_eq (a : TcpTunnelAnswer) : a.toJson = .object (written a.slots) := by
  simp only [toJson, errorFields_eq]
  rfl

/-- No two slots of an answer for a port have the same name. -/
theorem nodup_slots (a : TcpTunnelAnswer) : (a.slots.map Prod.fst).Nodup :=
  (by decide : ["type", "remote_port", "error", "error_kind"].Nodup)

/-- Every value of an answer for a port can be written. -/
theorem writable_slots (a : TcpTunnelAnswer) (depth : Nat) :
    ∀ slot ∈ a.slots, ∀ value ∈ slot.2, Writable depth value := by
  simp only [slots, List.forall_mem_cons]
  exact ⟨writable_some (.string _), writable_some (writable_port _), writable_map_string,
    writable_map_string, List.forall_mem_nil _⟩

/-- Every answer for a port can be written, without going too deep. -/
theorem writable_toJson (a : TcpTunnelAnswer) : Writable maxDepth a.toJson :=
  a.toJson_eq ▸ writable_written (a.writable_slots 126)

/-- An answer for a port is read from what was written. -/
theorem parse?_print (a : TcpTunnelAnswer) : parse? a.toJson.print = some a := by
  have hnames := a.nodup_slots
  have hrecord : readRecord ["type", "remote_port", "error", "error_kind"] a.toJson.tree =
      some (writtenTrees a.slots) := a.toJson_eq ▸ readRecord_written hnames
  have hport : readField (writtenTrees a.slots) "remote_port" 0 readPortNumber =
      some a.remotePort := by
    rw [readField_written hnames (List.mem_cons_of_mem _ List.mem_cons_self)]
    exact readPortNumber_tree a.remotePort
  rw [parse?, Tree.parse?_print a.writable_toJson, Option.bind_some, ofTree?, hrecord,
    Option.bind_eq_bind, Option.bind_some,
    readKind_written hnames a.kind (by simp [slots]), hport,
    readError_written hnames a.error (by simp [slots]),
    readErrorKind_written hnames a.errorKind (by simp [slots])]
  rfl

end TcpTunnelAnswer

end ReverseTunnel
