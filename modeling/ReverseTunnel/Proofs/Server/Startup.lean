import ReverseTunnel.Proofs.Server.Alone
import ReverseTunnel.Proofs.Server.Resolution
import ReverseTunnel.Proofs.Server.World
import ReverseTunnel.Server.Config

/-!
# Who may open a tunnel

Whom a server lets in is said by its configuration: by the tokens that it lists or, if it lists
none, by the one token that all share. Between the two stand a store, which is filled once and in
which a later entry replaces what an earlier one said, and the settings that say whether the store
is asked at all. A token is written three times, in the configuration, in the environment and by
the client, and blanks around it count nowhere.

A store is read in several ways, but each entry either decides what is read or does not touch it.
So the last entry that decides is the one that counts, and this is shown once for all readings.

## Main results

* `read_of_isLast`: the last entry that decides what is read.
* `authenticate_atOnce`, `identify_atOnce`: what a session is told about a token.
* `config_decides_who_enters`: who may open a tunnel, under which identity, and who owns which
  place from the start.
-/

namespace ReverseTunnel.Server

/-! ### Entries -/

namespace TokenEntry

/-- What is reserved for a token. -/
def places (entry : TokenEntry) : List Place :=
  entry.subdomains.map .subdomain ++ entry.ports.map .port

/-- The entry is for the token that is shown, blanks around either aside. -/
def IsFor (shown : String) (entry : TokenEntry) : Prop := Text.trim entry.token = Text.trim shown

/-- The entry lists a place, names in letters of any case and with blanks around them. -/
def Lists (place : Place) (entry : TokenEntry) : Prop :=
  ∃ listed ∈ entry.places, listed.normal = place.normal

instance {shown : String} {entry : TokenEntry} : Decidable (entry.IsFor shown) :=
  inferInstanceAs (Decidable (Text.trim entry.token = Text.trim shown))

instance {place : Place} {entry : TokenEntry} : Decidable (entry.Lists place) :=
  inferInstanceAs (Decidable (∃ listed ∈ entry.places, listed.normal = place.normal))

/-- An entry is the last one of a list of which something holds. -/
def IsLast (P : TokenEntry → Prop) (entries : List TokenEntry) (entry : TokenEntry) : Prop :=
  ∃ before after, entries = before ++ entry :: after ∧ P entry ∧ ∀ later ∈ after, ¬ P later

/-- If something holds of an entry of a list, there is a last one of which it does. -/
theorem exists_isLast {P : TokenEntry → Prop} {entries : List TokenEntry}
    (h : ∃ entry ∈ entries, P entry) : ∃ entry, IsLast P entries entry := by
  induction entries with
  | nil =>
    obtain ⟨_, hmem, -⟩ := h
    cases hmem
  | cons head rest ih =>
    by_cases hrest : ∃ entry ∈ rest, P entry
    · obtain ⟨entry, before, after, rfl, hlast⟩ := ih hrest
      exact ⟨entry, head :: before, after, rfl, hlast⟩
    · obtain ⟨entry, hmem, hentry⟩ := h
      rcases List.mem_cons.mp hmem with rfl | hmem
      · exact ⟨entry, [], rest, rfl, hentry, fun later hlater hP => hrest ⟨later, hlater, hP⟩⟩
      · exact absurd ⟨entry, hmem, hentry⟩ hrest

/-- The last entry of which something holds is one of the list. -/
theorem IsLast.mem {P : TokenEntry → Prop} {entries : List TokenEntry} {entry : TokenEntry}
    (h : IsLast P entries entry) : entry ∈ entries := by
  obtain ⟨before, after, rfl, -⟩ := h
  exact List.mem_append_right before List.mem_cons_self

/-! ### What an entry does to the store -/

/-- Giving places away changes no token. -/
theorem tokens_foldl_assign (owner : TokenId) (places : List Place) (store : Store) :
    (places.foldl (fun s place => s.assign owner place) store).tokens = store.tokens := by
  induction places generalizing store with
  | nil => rfl
  | cons place places ih => exact ih (store.assign owner place)

/-- A place that is not among those given away keeps its owner. -/
theorem owner?_foldl_assign_of_not_listed {owner : TokenId} {places : List Place} {place : Place}
    (h : ∀ listed ∈ places, listed.normal ≠ place.normal) (store : Store) :
    (places.foldl (fun s place => s.assign owner place) store).owner? place =
      store.owner? place := by
  induction places generalizing store with
  | nil => rfl
  | cons first places ih =>
    rw [List.forall_mem_cons] at h
    rw [List.foldl_cons, ih h.2, owner?_assign, if_neg (Ne.symm h.1)]

/-- A place that is among those given away gets the new owner, also if it is listed twice. -/
theorem owner?_foldl_assign_of_listed {owner : TokenId} {places : List Place} {place : Place}
    (h : ∃ listed ∈ places, listed.normal = place.normal) (store : Store) :
    (places.foldl (fun s place => s.assign owner place) store).owner? place = some owner := by
  induction places generalizing store with
  | nil =>
    obtain ⟨_, hmem, -⟩ := h
    cases hmem
  | cons first places ih =>
    rw [List.foldl_cons]
    by_cases hplaces : ∃ listed ∈ places, listed.normal = place.normal
    · exact ih hplaces (store.assign owner first)
    · have hfirst : first.normal = place.normal := by
        obtain ⟨listed, hmem, hlisted⟩ := h
        rcases List.mem_cons.mp hmem with rfl | hmem
        · exact hlisted
        · exact absurd ⟨listed, hmem, hlisted⟩ hplaces
      have hothers : ∀ listed ∈ places, listed.normal ≠ place.normal := fun listed hmem he =>
        hplaces ⟨listed, hmem, he⟩
      rw [owner?_foldl_assign_of_not_listed hothers, owner?_assign, if_pos hfirst.symm]

/-- An entry is added by adding its token and then giving it its places, one after the other. -/
theorem addTo_eq (store : Store) (entry : TokenEntry) :
    addTo store entry = entry.places.foldl (fun s place => s.assign entry.id place)
      (store.addToken (Text.trim entry.token) entry.id) := by
  rw [addTo, places, List.foldl_append, List.foldl_map, List.foldl_map]

variable {shown : String} {place : Place} {entry : TokenEntry}

/-- An entry for the token that is shown decides whom it identifies. -/
theorem tokenId?_addTo_of_isFor (h : entry.IsFor shown) (store : Store) :
    (addTo store entry).tokenId? shown = some entry.id := by
  rw [addTo_eq, Store.tokenId?, tokens_foldl_assign, Store.addToken, h]
  exact Table.get?_put_self _ _ _

/-- An entry for another token does not change whom the one that is shown identifies. -/
theorem tokenId?_addTo_of_not_isFor (h : ¬ entry.IsFor shown) (store : Store) :
    (addTo store entry).tokenId? shown = store.tokenId? shown := by
  rw [addTo_eq, Store.tokenId?, tokens_foldl_assign, Store.addToken]
  exact Table.get?_put_of_ne _ _ (Ne.symm h)

/-- An entry that lists a place decides who owns it, whoever owned it before. -/
theorem owner?_addTo_of_lists (h : entry.Lists place) (store : Store) :
    (addTo store entry).owner? place = some entry.id := by
  rw [addTo_eq]
  exact owner?_foldl_assign_of_listed h _

/-- An entry that does not list a place does not change who owns it. -/
theorem owner?_addTo_of_not_lists (h : ¬ entry.Lists place) (store : Store) :
    (addTo store entry).owner? place = store.owner? place := by
  rw [addTo_eq]
  exact owner?_foldl_assign_of_not_listed (fun listed hmem he => h ⟨listed, hmem, he⟩) _

/-! ### What is read from a filled store -/

section

variable (read : Store → Option TokenId) {P : TokenEntry → Prop} {entries : List TokenEntry}

/-- Entries that do not decide what is read change nothing. -/
theorem read_of_none (hmiss : ∀ entry, ¬ P entry → ∀ store, read (addTo store entry) = read store)
    (h : ∀ entry ∈ entries, ¬ P entry) (store : Store) :
    read (entries.foldl addTo store) = read store := by
  induction entries generalizing store with
  | nil => rfl
  | cons entry entries ih =>
    rw [List.forall_mem_cons] at h
    rw [List.foldl_cons, ih h.2, hmiss entry h.1]

/-- The last entry that decides what is read is the one that counts. -/
theorem read_of_isLast (hhit : ∀ entry, P entry → ∀ store, read (addTo store entry) = some entry.id)
    (hmiss : ∀ entry, ¬ P entry → ∀ store, read (addTo store entry) = read store)
    (h : IsLast P entries entry) (store : Store) :
    read (entries.foldl addTo store) = some entry.id := by
  obtain ⟨before, after, rfl, hentry, hafter⟩ := h
  rw [List.foldl_append, List.foldl_cons, read_of_none read hmiss hafter, hhit entry hentry]

end

end TokenEntry

/-! ### The store of a configuration -/

namespace Config

variable {c : Config} {shown : String} {place : Place} {entry : TokenEntry}

/-- The store with which the server starts. Without tokens it is empty and never asked. -/
def store (c : Config) : Store := c.store?.getD {}

/-- The store of a configuration is filled entry by entry, in the order in which they are listed. -/
theorem store_eq (c : Config) : c.store = c.tokens.foldl TokenEntry.addTo {} := by
  rw [store, store?]
  rcases c.tokens with _ | ⟨entry, entries⟩
  · rfl
  · rfl

/-- A token identifies whom the last entry for it says. -/
theorem tokenId?_store (h : TokenEntry.IsLast (TokenEntry.IsFor shown) c.tokens entry) :
    c.store.tokenId? shown = some entry.id := by
  rw [store_eq]
  exact TokenEntry.read_of_isLast (fun store => store.tokenId? shown)
    (fun _ => TokenEntry.tokenId?_addTo_of_isFor) (fun _ => TokenEntry.tokenId?_addTo_of_not_isFor)
    h {}

/-- A place is owned by whom the last entry says that lists it. -/
theorem owner?_store (h : TokenEntry.IsLast (TokenEntry.Lists place) c.tokens entry) :
    c.store.owner? place = some entry.id := by
  rw [store_eq]
  exact TokenEntry.read_of_isLast (fun store => store.owner? place)
    (fun _ => TokenEntry.owner?_addTo_of_lists) (fun _ => TokenEntry.owner?_addTo_of_not_lists)
    h {}

/-- A token is valid exactly if there is an entry for it. -/
theorem valid_store_iff :
    c.store.valid shown = true ↔ ∃ entry ∈ c.tokens, entry.IsFor shown := by
  have hvalid : c.store.valid shown = (c.store.tokenId? shown).isSome := rfl
  rw [hvalid]
  by_cases h : ∃ entry ∈ c.tokens, entry.IsFor shown
  · obtain ⟨entry, hlast⟩ := TokenEntry.exists_isLast h
    rw [tokenId?_store hlast]
    exact iff_of_true rfl h
  · have hnone : c.store.tokenId? shown = none := by
      rw [store_eq]
      exact TokenEntry.read_of_none (fun store => store.tokenId? shown)
        (fun _ => TokenEntry.tokenId?_addTo_of_not_isFor)
        (fun entry hmem he => h ⟨entry, hmem, he⟩) {}
    rw [hnone]
    exact iff_of_false Bool.false_ne_true h

/-- Of a file, its tokens are taken as they are, if each identifies somebody. The shared token is
not empty. -/
theorem of_resolve {env : Environment} {file : ConfigFile} (h : resolve env file = .ok c) :
    c.tokens = file.tokens ∧ (∀ entry ∈ c.tokens, 0 < entry.id) ∧
      ∀ expected, c.authToken = some expected → expected ≠ "" := by
  have hsettled := resolve_eq_ok_iff.mp h
  exact ⟨hsettled.tokens.1, hsettled.isSound.tokens, fun expected hexpected =>
    (hsettled.isSound.authToken expected hexpected).1⟩

end Config

/-! ### What a session is told -/

section

variable {σ : Type} (me : σ) (now : Circumstances)

/-- The reply to a call at some moment, and what it leaves behind. -/
def atOnce (call : Call) (here : Shared σ × Seat) : call.Reply × Shared σ × Seat :=
  perform me now here.1 here.2 call

variable {me now} {s : Settings} {shared : Shared σ} {seat : Seat} {shown : String}

/-- A token is let through exactly if it is accepted. -/
theorem authenticate_atOnce (hworks : now.works = true) :
    ((authenticate s shown).run.play (atOnce me now) (shared, seat)).1 = .ok () ↔
      Accepts s shared.store shown := by
  rw [authenticate, Accepts]
  rcases s.validates with _ | _
  · rw [if_neg Bool.false_ne_true, if_neg Bool.false_ne_true]
    rcases s.authToken with _ | expected
    · exact iff_of_true rfl fun expected hexpected => by cases hexpected
    · have haccepted : (expected.isEmpty || Text.trim shown == expected) = true ↔
          ∀ other, some expected = some other →
            other.isEmpty = true ∨ Text.trim shown = other := by
        simp
      dsimp only
      by_cases h : (expected.isEmpty || Text.trim shown == expected) = true
      · rw [if_pos h]
        exact iff_of_true rfl (haccepted.mp h)
      · rw [if_neg h]
        exact iff_of_false (fun hok => by cases hok) (mt haccepted.mpr h)
  · have hreply : atOnce me now (.validate shown) (shared, seat) =
        (some (shared.store.valid shown), shared, seat) := by
      simp only [atOnce, perform, hworks, if_true]
    rw [if_pos rfl, if_pos rfl, play_run_ask_bind hreply]
    rcases shared.store.valid shown with _ | _
    · exact iff_of_false (fun hok => by cases hok) Bool.false_ne_true
    · exact iff_of_true rfl rfl

/-- If the store is asked while it works, whom a token identifies is what the store says. -/
theorem identify_atOnce (hworks : now.works = true) :
    ((identify s shown).run.play (atOnce me now) (shared, seat)).1 =
      .ok (identity s shared.store shown) := by
  rw [identify, identity]
  rcases s.identifies with _ | _
  · rfl
  · have hreply : atOnce me now (.identify shown) (shared, seat) =
        (some (shared.store.tokenId? shown), shared, seat) := by
      simp only [atOnce, perform, hworks, if_true]
    rw [if_pos rfl, if_pos rfl, play_run_ask_bind hreply]
    rfl

end

/-! ### Who may open a tunnel -/

/-- Who may open a tunnel: whoever shows a token that is listed or, where none is, the shared
token, if there is one. -/
def Config.Admits (c : Config) (shown : String) : Prop :=
  if c.tokens = [] then ∀ expected, c.authToken = some expected → Text.trim shown = expected
  else ∃ entry ∈ c.tokens, entry.IsFor shown

/-- The server accepts a token exactly if the configuration admits it, as long as no token has come
or gone since the start. -/
theorem accepts_iff {env : Environment} {file : ConfigFile} {c : Config}
    (h : resolve env file = .ok c) {store : Store} {shown : String}
    (htokens : store.tokens = c.store.tokens) :
    Accepts c.settings store shown ↔ c.Admits shown := by
  have hvalid : store.valid shown = c.store.valid shown := by
    rw [Store.valid, Store.valid, htokens]
  rw [Accepts, Config.Admits, hvalid]
  by_cases hnone : c.tokens = []
  · have hasked : c.settings.validates = false := by simp [Config.settings, hnone]
    rw [hasked, if_neg Bool.false_ne_true, if_pos hnone]
    refine forall_congr' fun expected => imp_congr_right fun hexpected => or_iff_right ?_
    simpa using (Config.of_resolve h).2.2 expected hexpected
  · have hasked : c.settings.validates = true := by simp [Config.settings, hnone]
    rw [hasked, if_pos rfl, if_neg hnone, Config.valid_store_iff]

/-- **The configuration decides who may open a tunnel.** At any moment of any course of a server,
whatever its configuration, a token is let through exactly if it is one of those that are listed
or, where none is, the shared one. A listed token identifies whom the last entry for it names, and
that is somebody. From the start every place that is listed belongs to whom the last entry names
that lists it. -/
theorem config_decides_who_enters {σ : Type} [DecidableEq σ] (env : Environment)
    (file : ConfigFile) (c : Config) (hresolved : resolve env file = .ok c)
    (rates : RateLimiter Float) (moves : List (Move σ)) (me : σ) (now : Circumstances)
    (hworks : now.works = true) (seat : Seat) (shown : String) :
    let here := (((Course.start c.store rates).run c.settings moves).system.shared, seat)
    let told := ((authenticate c.settings shown).run.play (atOnce me now) here).1
    c.tokens = file.tokens ∧
    (told = .ok () ↔ c.Admits shown) ∧
    (c.tokens ≠ [] → told = .ok () →
      ∃ entry, TokenEntry.IsLast (TokenEntry.IsFor shown) c.tokens entry ∧ 0 < entry.id ∧
        ((identify c.settings shown).run.play (atOnce me now) here).1 = .ok (some entry.id)) ∧
    ∀ place, (∃ entry ∈ c.tokens, entry.Lists place) →
      ∃ entry, TokenEntry.IsLast (TokenEntry.Lists place) c.tokens entry ∧
        c.store.owner? place = some entry.id := by
  intro here told
  have hkept : (Course.start c.store rates).Precedes
      ((Course.start c.store rates).run c.settings moves) := Course.precedes_run _ moves
  have htokens : here.1.store.tokens = c.store.tokens := hkept.tokens
  have htold : told = .ok () ↔ c.Admits shown :=
    (authenticate_atOnce hworks).trans (accepts_iff hresolved htokens)
  refine ⟨(Config.of_resolve hresolved).1, htold, fun hsome hok => ?_, fun place hlisted => ?_⟩
  · have hlisted : ∃ entry ∈ c.tokens, entry.IsFor shown := by
      have hadmits := htold.mp hok
      rwa [Config.Admits, if_neg hsome] at hadmits
    obtain ⟨entry, hlast⟩ := TokenEntry.exists_isLast hlisted
    have hid : 0 < entry.id := (Config.of_resolve hresolved).2.1 entry hlast.mem
    refine ⟨entry, hlast, hid, ?_⟩
    have hasked : c.settings.identifies = true := by simp [Config.settings, hsome]
    have hstored : here.1.store.tokenId? shown = some entry.id := by
      rw [Store.tokenId?, htokens]
      exact Config.tokenId?_store hlast
    rw [identify_atOnce hworks, identity, hasked, if_pos rfl, hstored, Option.filter_some,
      if_pos (decide_eq_true hid)]
  · obtain ⟨entry, hlast⟩ := TokenEntry.exists_isLast hlisted
    exact ⟨entry, hlast, Config.owner?_store hlast⟩

/-- A file in which one token is listed twice, and one name for two tokens. -/
def crowdedFile : ConfigFile where
  tunnelDomain := some "tunnel.test"
  authToken := some "shared"
  tokens := [⟨" alpha", 1, ["Demo"], [30001]⟩, ⟨"beta", 3, ["other"], []⟩,
    ⟨"alpha ", 2, [" demo "], []⟩]

/-- The token that is listed twice opens a tunnel, and the name is somebody's. -/
theorem crowdedFile_decides :
    ∃ c, resolve {} crowdedFile = .ok c ∧ c.tokens = crowdedFile.tokens ∧
      ((authenticate c.settings "\talpha").run.play (atOnce () {}) ({ store := c.store }, {})).1 =
        .ok () ∧
      (∃ entry, TokenEntry.IsLast (TokenEntry.IsFor "\talpha") c.tokens entry ∧ 0 < entry.id ∧
        ((identify c.settings "\talpha").run.play (atOnce () {}) ({ store := c.store }, {})).1 =
          .ok (some entry.id)) ∧
      ∃ entry, TokenEntry.IsLast (TokenEntry.Lists (.subdomain "demo")) c.tokens entry ∧
        c.store.owner? (.subdomain "demo") = some entry.id := by
  obtain ⟨c, hresolved⟩ : ∃ c, resolve {} crowdedFile = .ok c := ⟨_, rfl⟩
  have ⟨htokens, hopens, hidentifies, howned⟩ :=
    config_decides_who_enters {} crowdedFile c hresolved {} [] () {} rfl {} "\talpha"
  have hsome : c.tokens ≠ [] := htokens ▸ List.cons_ne_nil _ _
  have hadmits : c.Admits "\talpha" := by
    rw [Config.Admits, if_neg hsome, htokens]
    exact ⟨_, List.mem_cons_self, by decide⟩
  have hlisted : ∃ entry ∈ c.tokens, entry.Lists (.subdomain "demo") := by
    rw [htokens]
    exact ⟨_, List.mem_cons_self, .subdomain "Demo", by decide, by decide⟩
  exact ⟨c, hresolved, htokens, hopens.mpr hadmits, hidentifies hsome (hopens.mpr hadmits),
    howned _ hlisted⟩

end ReverseTunnel.Server
