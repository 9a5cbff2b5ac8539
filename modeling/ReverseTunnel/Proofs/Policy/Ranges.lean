import ReverseTunnel.Proofs.Address.Block
import ReverseTunnel.Proofs.Policy.Reading

/-!
# Which addresses a policy lets in

The lists of a tunnel name addresses and blocks of addresses, and an entry is meant to cover what
it names in whatever family it is written. A visitor's address is taken for the version 4 address
that it carries, if it carries one, and so is an entry that is a single address. An entry that is a
block is not. Written in the mapped range, it is accepted and kept, but it covers nothing: as a
denied one it keeps nobody out, as an allowed one it lets nobody in.

## Main results

* `NetworkEntry.contains_kept`: what an accepted entry covers.
* `Policy.allowed_iff_covered`: which addresses are let in.
* `Policy.not_meant_of_mapped`: a block in the mapped range that is denied, and a visitor out of it.
-/

namespace ReverseTunnel

open Text

/-! ### Entries -/

/-- An entry of a list of networks: an address, or a block behind which a length is written. -/
inductive NetworkEntry where
  | bare (ip : Ip)
  | range (block : Block)

namespace NetworkEntry

/-- What a text says, up to blanks around it: `address` or `address/length`. -/
def ofText? (raw : String) : Option NetworkEntry :=
  match splitFirst '/' (trim raw).toList with
  | none => (Ip.parse? (trim raw)).map bare
  | some (address, length) => do
    let ip ← Ip.parseChars? .wide address
    let n ← decimal? length
    if hn : n ≤ ip.width then some (range ⟨ip, n, hn⟩) else none

/-- The block that an entry names. -/
def block : NetworkEntry → Block
  | bare ip => .single ip
  | range block => block

/-- The network that is kept for an entry. -/
def kept : NetworkEntry → Network
  | bare ip => .single ip.unmap
  | range block => block.network

/-- An entry that covers nothing although it names something: a block in the mapped range. -/
def Lost : NetworkEntry → Prop
  | bare _ => False
  | range block => block.IsMapped

/-- What an accepted entry covers. -/
theorem contains_kept {entry : NetworkEntry} {ip : Ip} :
    entry.kept.contains ip.unmap = true ↔ entry.block.Covers ip ∧ ¬ entry.Lost := by
  cases entry with
  | bare address =>
    rw [kept, ← Block.network_single, ← Block.unmap_single, Block.contains_network]
    exact (and_iff_left not_false).symm
  | range block =>
    by_cases hmapped : block.IsMapped
    · rw [kept, Block.not_contains_of_mapped hmapped]
      exact iff_of_false Bool.false_ne_true fun h => h.2 hmapped
    · have hcovers : block.Covers ip ↔ block.address.Shares block.length ip.unmap := by
        rw [Block.Covers, Block.unmap_of_not_isMapped hmapped]
      rw [kept, Block.contains_network, ← hcovers]
      exact (and_iff_left hmapped).symm

/-- What is read of a block is kept of it. -/
theorem of_parseChars? {cs address length : List Char} {network : Network}
    (hsplit : splitFirst '/' cs = some (address, length))
    (h : Network.parseChars? cs = some network) :
    ∃ ip n, ∃ hn : n ≤ ip.width, Ip.parseChars? .wide address = some ip ∧
      decimal? length = some n ∧ (range ⟨ip, n, hn⟩).kept = network := by
  obtain ⟨rfl, hslash⟩ := splitFirst_eq_some hsplit
  obtain ⟨⟨ip, n, hn⟩, hip, -, hlength, rfl⟩ := (Network.parseChars?_eq_some_iff hslash).mp h
  exact ⟨ip, n, hn, hip, hlength, rfl⟩

/-- An accepted text is an entry, and what is kept is kept of that entry. -/
theorem of_readNetwork {field raw : String} {network : Network}
    (h : Policy.readNetwork field raw = .ok network) :
    ∃ entry, ofText? raw = some entry ∧ entry.kept = network := by
  simp only [Policy.readNetwork] at h
  split at h
  · cases h
  · rcases hsplit : splitFirst '/' (trim raw).toList with _ | ⟨address, length⟩
    · have hslash : (trim raw).toList.contains '/' = false := by
        simpa using splitFirst_eq_none.mp hsplit
      rw [hslash, if_neg Bool.false_ne_true] at h
      rcases hip : Ip.parse? (trim raw) with _ | ip
      · rw [hip] at h
        cases h
      · rw [hip] at h
        refine ⟨bare ip, ?_, Except.ok.inj h⟩
        simp only [ofText?, hsplit, hip, Option.map_some]
    · have hslash : (trim raw).toList.contains '/' = true := by
        rw [(splitFirst_eq_some hsplit).1]
        simp
      rw [hslash, if_pos rfl] at h
      rcases hnetwork : Network.parseChars? (trim raw).toList with _ | read
      · rw [hnetwork] at h
        cases h
      · rw [hnetwork] at h
        obtain rfl : read = network := Except.ok.inj h
        obtain ⟨ip, n, hn, hip, hdecimal, hkept⟩ := of_parseChars? hsplit hnetwork
        refine ⟨range ⟨ip, n, hn⟩, ?_, hkept⟩
        simp only [ofText?, hsplit, hip, hdecimal, Option.bind_eq_bind, Option.bind_some,
          dif_pos hn]

end NetworkEntry

namespace Policy

variable {field : String} {entries : List String} {networks : List Network} {ip : Ip}

/-! ### Lists -/

/-- An entry of a list, as it is written, covers an address. -/
def EntryCovers (raw : String) (ip : Ip) : Prop :=
  ∃ entry, NetworkEntry.ofText? raw = some entry ∧ entry.block.Covers ip

/-- An entry of a list, as it is written, is a block in the mapped range. -/
def EntryLost (raw : String) : Prop :=
  ∃ entry, NetworkEntry.ofText? raw = some entry ∧ entry.Lost

/-- What is meant by two lists of entries: no denied one covers the address and, unless all are
allowed, an allowed one does. -/
def MeansToAllow (allow deny : List String) (ip : Ip) : Prop :=
  (∀ raw ∈ deny, ¬ EntryCovers raw ip) ∧ (allow = [] ∨ ∃ raw ∈ allow, EntryCovers raw ip)

/-- An accepted list contains an address if an entry covers it that is not lost. -/
theorem any_contains_iff (h : readNetworks field entries = .ok networks) :
    networks.any (·.contains ip.unmap) = true ↔
      ∃ raw ∈ entries, EntryCovers raw ip ∧ ¬ EntryLost raw := by
  rw [List.any_eq_true]
  constructor
  · rintro ⟨network, hnetwork, hcontains⟩
    obtain ⟨raw, hraw, hread⟩ := of_mem_readEntries h hnetwork
    obtain ⟨entry, hentry, rfl⟩ := NetworkEntry.of_readNetwork hread
    obtain ⟨hcovers, hkept⟩ := NetworkEntry.contains_kept.mp hcontains
    refine ⟨raw, hraw, ⟨entry, hentry, hcovers⟩, ?_⟩
    rintro ⟨other, hother, hlost⟩
    obtain rfl : entry = other := Option.some.inj (hentry.symm.trans hother)
    exact hkept hlost
  · rintro ⟨raw, hraw, ⟨entry, hentry, hcovers⟩, hkept⟩
    obtain ⟨network, hnetwork, hread⟩ := mem_readEntries h hraw
    obtain ⟨other, hother, rfl⟩ := NetworkEntry.of_readNetwork hread
    obtain rfl : entry = other := Option.some.inj (hentry.symm.trans hother)
    exact ⟨_, hnetwork, NetworkEntry.contains_kept.mpr
      ⟨hcovers, fun hlost => hkept ⟨entry, hentry, hlost⟩⟩⟩

/-- **Lists of networks mean what they say, but for blocks in the mapped range.** An address is let
in exactly if every denied entry that covers it is lost and, unless all are allowed, an allowed one
covers it that is not. So two lists without blocks in the mapped range do what is meant by them. -/
theorem allowed_iff_covered (policy : Policy) (allow deny : List String)
    (allowField denyField : String)
    (hallow : readNetworks allowField allow = .ok policy.allowNetworks)
    (hdeny : readNetworks denyField deny = .ok policy.denyNetworks) (ip : Ip) :
    (policy.allowsAddress ip = true ↔
      (∀ raw ∈ deny, EntryCovers raw ip → EntryLost raw) ∧
        (allow = [] ∨ ∃ raw ∈ allow, EntryCovers raw ip ∧ ¬ EntryLost raw)) ∧
    ((∀ raw ∈ allow ++ deny, ¬ EntryLost raw) →
      (policy.allowsAddress ip = true ↔ MeansToAllow allow deny ip)) := by
  have hempty : policy.allowNetworks.isEmpty = true ↔ allow = [] :=
    List.isEmpty_iff.trans (eq_nil_iff_of_readEntries hallow)
  have hdenied : policy.denyNetworks.any (·.contains ip.unmap) = false ↔
      ∀ raw ∈ deny, EntryCovers raw ip → EntryLost raw := by
    rw [← Bool.not_eq_true, any_contains_iff hdeny]
    simp only [not_exists, not_and, Classical.not_not]
  have hdecides : policy.allowsAddress ip = true ↔
      (∀ raw ∈ deny, EntryCovers raw ip → EntryLost raw) ∧
        (allow = [] ∨ ∃ raw ∈ allow, EntryCovers raw ip ∧ ¬ EntryLost raw) := by
    rw [← hdenied, ← hempty, ← any_contains_iff hallow, allowsAddress]
    cases policy.denyNetworks.any (·.contains ip.unmap) <;> simp
  refine ⟨hdecides, fun hkept => ?_⟩
  rw [hdecides, MeansToAllow]
  refine and_congr (forall_congr' fun raw => imp_congr_right fun hraw => ?_) (or_congr_right ?_)
  · exact imp_congr_right fun _ => iff_false_intro (hkept raw (List.mem_append_right allow hraw))
  · refine exists_congr fun raw => and_congr_right fun hraw => ?_
    exact and_iff_left (hkept raw (List.mem_append_left deny hraw))

/-- Two entries are allowed, of which one is an address in the mapped range. -/
def homeAllow : List String := ["10.0.0.0/8", " ::ffff:192.168.0.1"]

/-- One address out of the block is denied. -/
def homeDeny : List String := ["10.1.2.3"]

/-- The policy with these entries. -/
def homePolicy : Policy where
  allowNetworks := [.v4 0x0A000000 8, .v4 0xC0A80001 32]
  denyNetworks := [.v4 0x0A010203 32]

/-- The address in the mapped range is covered, whichever way the visitor's is written. -/
theorem homePolicy_covers :
    readNetworks "allow_cidr" homeAllow = .ok homePolicy.allowNetworks ∧
      readNetworks "deny_cidr" homeDeny = .ok homePolicy.denyNetworks ∧
      ∀ ip ∈ [Ip.v4 0xC0A80001, Ip.v6 0xFFFFC0A80001],
        (∀ raw ∈ homeDeny, EntryCovers raw ip → EntryLost raw) ∧
          ∃ raw ∈ homeAllow, EntryCovers raw ip ∧ ¬ EntryLost raw := by
  have hallow : readNetworks "allow_cidr" homeAllow = .ok homePolicy.allowNetworks := by rfl
  have hdeny : readNetworks "deny_cidr" homeDeny = .ok homePolicy.denyNetworks := by rfl
  refine ⟨hallow, hdeny, fun ip hip => ?_⟩
  have hallowed : ∀ ip ∈ [Ip.v4 0xC0A80001, Ip.v6 0xFFFFC0A80001],
      homePolicy.allowsAddress ip = true := by decide
  have ⟨hdenied, hcovered⟩ := (allowed_iff_covered homePolicy homeAllow homeDeny _ _ hallow hdeny
    ip).1.mp (hallowed ip hip)
  exact ⟨hdenied, hcovered.resolve_left (List.cons_ne_nil _ _)⟩

/-- A block in the mapped range, and nothing else, is denied. -/
def mappedDeny : List String := ["::ffff:10.0.0.0/104"]

/-- The policy with that block. -/
def mappedPolicy : Policy where
  denyNetworks := [.v6 0xFFFF0A000000 104]

/-- An address out of the block is let in. -/
theorem not_meant_of_mapped :
    readNetworks "allow_cidr" [] = .ok mappedPolicy.allowNetworks ∧
      readNetworks "deny_cidr" mappedDeny = .ok mappedPolicy.denyNetworks ∧
      mappedPolicy.allowsAddress (.v4 0x0A010203) = true ∧
      ¬ MeansToAllow [] mappedDeny (.v4 0x0A010203) := by
  refine ⟨rfl, by rfl, by decide, fun hmeant => ?_⟩
  refine hmeant.1 "::ffff:10.0.0.0/104" (by decide)
    ⟨.range ⟨.v6 0xFFFF0A000000, 104, by decide⟩, by rfl, ?_⟩
  show SameLeading 8 (0x0A000000 : BitVec 32) (0x0A010203 : BitVec 32)
  decide

end Policy

end ReverseTunnel
