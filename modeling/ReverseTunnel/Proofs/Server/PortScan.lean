import ReverseTunnel.Proofs.Server.Alone
import ReverseTunnel.Proofs.Server.Precedence

/-!
# Any port

Whoever asks for no port in particular gets the least one of the range that can be had. A port can
be had if the operating system lets it be bound and nobody has bound it, and, on a server whose
places belong to tokens, if it can be said whose it is and it is nobody's or the token's own. All of
this stands still while the ports are tried.

## Main results

* `mem_ports_iff`, `pairwise_ports`: the ports of a range are tried in increasing order, up to the
  last one that there is.
* `bindFirst_drive`: the first port that can be had is bound, and no other.
* `least_port_is_granted`: what a request is told, and what it leaves behind.
-/

namespace ReverseTunnel

/-! ### The ports of a range -/

namespace PortRange

variable {range : PortRange} {port : UInt16}

/-- A number of the range is a port. -/
theorem toNat_ofNat_of_mem {n : Nat}
    (h : n ∈ List.range' range.first.toNat (range.last.toNat + 1 - range.first.toNat)) :
    (UInt16.ofNat n).toNat = n := by
  have hbound := range.last.toNat_lt
  have hmem := List.mem_range'_1.mp h
  refine UInt16.toNat_ofNat_of_lt' ?_
  rw [UInt16.size]
  omega

/-- The ports of a range are those from its first one to its last. -/
theorem mem_ports_iff : port ∈ range.ports ↔ range.first ≤ port ∧ port ≤ range.last := by
  rw [ports, List.mem_map]
  simp only [UInt16.le_iff_toNat_le]
  constructor
  · rintro ⟨n, hn, rfl⟩
    rw [toNat_ofNat_of_mem hn]
    have hmem := List.mem_range'_1.mp hn
    omega
  · intro h
    exact ⟨port.toNat, List.mem_range'_1.mpr (by omega), UInt16.ofNat_toNat⟩

/-- The ports of a range are tried in ascending order, each of them once. -/
theorem pairwise_ports (range : PortRange) : range.ports.Pairwise (· < ·) := by
  refine List.pairwise_map.mpr ((List.pairwise_lt_range' 1).imp_of_mem fun hm hn hlt => ?_)
  rw [UInt16.lt_iff_toNat_lt, toNat_ofNat_of_mem hm, toNat_ofNat_of_mem hn]
  exact hlt

/-- The last port that there is is one of them. -/
example : (⟨65534, 65535⟩ : PortRange).ports = [65534, 65535] := by decide

/-- A range can be used exactly if it has no port 0 and does not end before it starts. -/
theorem usable_iff : range.usable = true ↔ 0 < range.first ∧ range.first ≤ range.last := by
  simp only [usable, Bool.and_eq_true, bne_iff_ne, decide_eq_true_eq, ne_eq, ← UInt16.toNat_inj,
    UInt16.le_iff_toNat_le, UInt16.lt_iff_toNat_lt, UInt16.toNat_zero]
  omega

end PortRange

namespace Server

variable {σ : Type} (me : σ) (s : Settings) (c : Call → Circumstances) (token : Option TokenId)

/-! ### Trying one port after another -/

/-- Replies to every call in circumstances that hang on the call, until there is something to
say. -/
def untilAnswer (call : Call) (now : Shared σ × Seat) : Option (call.Reply × Shared σ × Seat) :=
  match call with
  | .send _ => none
  | call => some (perform me (c call) now.1 now.2 call)

/-- Whether a token can have a port, in circumstances that hang on the call: it can be bound, and if
places belong to tokens, it can be said whose it is, and it is nobody's or the token's own. -/
def Offers (shared : Shared σ) (port : UInt16) : Prop :=
  (c (.bind port)).bindable = true ∧ shared.listeners.contains port = false ∧
    (s.ownsPlaces = true → (c (.owner (.port port))).works = true ∧
      ∀ owner ∈ shared.store.owner? (.port port), token = some owner)

instance (shared : Shared σ) (port : UInt16) : Decidable (Offers s c token shared port) :=
  inferInstanceAs (Decidable (_ ∧ _ ∧ _))

/-- Whether a token can have a port of the public ones. -/
def Available (shared : Shared σ) (port : UInt16) : Prop :=
  (s.ports.first ≤ port ∧ port ≤ s.ports.last) ∧ Offers s c token shared port

/-- What comes of trying some ports, one after another. -/
def scanned (shared : Shared σ) (ports : List UInt16) : Except Rejection UInt16 :=
  match ports.find? (Offers s c token shared ·) with
  | some port => .ok port
  | none => .error (.plain .noPortsAvailable)

/-- What the server shares after somebody got a port, or none. -/
def Shared.bound (shared : Shared σ) : Except Rejection UInt16 → Shared σ
  | .ok port => { shared with listeners := shared.listeners.put port me }
  | .error _ => shared

variable {me s c token} {shared : Shared σ} {seat : Seat} {port : UInt16} {ports : List UInt16}

/-- The first port is taken if the token can have it. -/
theorem scanned_cons_of_offers (h : Offers s c token shared port) :
    scanned s c token shared (port :: ports) = .ok port := by
  simp only [scanned, List.find?_cons, decide_eq_true h]

/-- A port that the token cannot have is passed over. -/
theorem scanned_cons_of_not (h : ¬ Offers s c token shared port) :
    scanned s c token shared (port :: ports) = scanned s c token shared ports := by
  simp only [scanned, List.find?_cons, decide_eq_false h]

/-- The port that is found is the least one that can be had. -/
theorem scanned_eq_ok_iff (hsorted : ports.Pairwise (· < ·)) :
    scanned s c token shared ports = .ok port ↔
      (port ∈ ports ∧ Offers s c token shared port) ∧
        ∀ other, other ∈ ports ∧ Offers s c token shared other → port ≤ other := by
  induction ports with
  | nil => simp [scanned]
  | cons first rest ih =>
    obtain ⟨hfirst, hrest⟩ := List.pairwise_cons.mp hsorted
    by_cases hoffers : Offers s c token shared first
    · have hleast : ∀ other ∈ first :: rest, first ≤ other := by
        intro other hother
        rcases List.mem_cons.mp hother with rfl | hother
        · exact UInt16.le_refl _
        · exact UInt16.le_of_lt (hfirst other hother)
      rw [scanned_cons_of_offers hoffers]
      constructor
      · rintro ⟨⟩
        exact ⟨⟨List.mem_cons_self, hoffers⟩, fun other hother => hleast other hother.1⟩
      · rintro ⟨⟨hmem, -⟩, hle⟩
        have := hle first ⟨List.mem_cons_self, hoffers⟩
        rw [UInt16.le_antisymm this (hleast port hmem)]
    · have hskip : ∀ other, other ∈ first :: rest ∧ Offers s c token shared other ↔
          other ∈ rest ∧ Offers s c token shared other := by
        intro other
        rw [List.mem_cons, or_and_right, or_iff_right]
        rintro ⟨rfl, h⟩
        exact hoffers h
      simp only [scanned_cons_of_not hoffers, hskip]
      exact ih hrest

/-- Nothing is found where nothing can be had. -/
theorem scanned_eq_error_iff {r : Rejection} :
    scanned s c token shared ports = .error r ↔
      r = .plain .noPortsAvailable ∧ ∀ port ∈ ports, ¬ Offers s c token shared port := by
  rw [scanned]
  rcases hfound : ports.find? (Offers s c token shared ·) with _ | port
  · have hnone := List.find?_eq_none.mp hfound
    simp only [decide_eq_true_eq] at hnone
    rw [Except.error.injEq, eq_comm]
    exact ⟨fun h => ⟨h, hnone⟩, fun h => h.1⟩
  · have hoffers : Offers s c token shared port := by simpa using List.find?_some hfound
    have hmem := List.mem_of_find?_eq_some hfound
    simp only [reduceCtorEq, false_iff, not_and]
    exact fun _ hnone => hnone port hmem hoffers

/-! ### What a session is told -/

variable (me s c token shared seat port) in
/-- Whether a port is passed over without an attempt to bind it. -/
theorem reservedForOther_drive :
    ∃ taken, (reservedForOther s port token).run.drive (untilAnswer me c) (shared, seat) =
        (.done (.ok taken), shared, seat) ∧
      (taken = false ↔ (s.ownsPlaces = true → (c (.owner (.port port))).works = true ∧
        ∀ owner ∈ shared.store.owner? (.port port), token = some owner)) := by
  rw [reservedForOther]
  rcases howns : s.ownsPlaces with _ | _
  · exact ⟨false, rfl, by simp⟩
  rcases hworks : (c (.owner (.port port))).works with _ | _
  · have hreply : untilAnswer me c (.owner (.port port)) (shared, seat) =
        some (none, shared, seat) := by simp [untilAnswer, perform, hworks]
    exact ⟨true, drive_run_ask_bind hreply, by simp⟩
  have hreply : untilAnswer me c (.owner (.port port)) (shared, seat) =
      some (some (shared.store.owner? (.port port)), shared, seat) := by
    simp [untilAnswer, perform, hworks]
  rcases howner : shared.store.owner? (.port port) with _ | owner
  · exact ⟨false, drive_run_ask_bind (howner ▸ hreply), by simp⟩
  · refine ⟨some owner != token, drive_run_ask_bind (howner ▸ hreply), ?_⟩
    rw [bne_eq_false_iff_eq, eq_comm]
    simp

/-- **The first port that can be had is bound**, and no other. -/
theorem bindFirst_drive (ports : List UInt16) :
    (bindFirst s token ports).run.drive (untilAnswer me c) (shared, seat) =
      (.done (scanned s c token shared ports),
        shared.bound me (scanned s c token shared ports), seat) := by
  induction ports with
  | nil => rfl
  | cons port rest ih =>
    obtain ⟨taken, hlooked, htaken⟩ :=
      reservedForOther_drive me s c token shared seat port
    rw [bindFirst, drive_run_bind_of_ok hlooked]
    rcases taken with _ | _
    -- A port that may be had by its owner can still be bound already, by a session or from outside.
    · rcases hfree : (c (.bind port)).bindable && !shared.listeners.contains port with _ | _
      · have hreply : untilAnswer me c (.bind port) (shared, seat) =
            some (false, shared, seat) := by simp [untilAnswer, perform, hfree]
        have hnot : ¬ Offers s c token shared port := fun h => by simp [h.1, h.2.1] at hfree
        rw [scanned_cons_of_not hnot, ← ih]
        exact drive_run_ask_bind hreply
      · have hreply : untilAnswer me c (.bind port) (shared, seat) =
            some (true, { shared with listeners := shared.listeners.put port me }, seat) := by
          simp [untilAnswer, perform, hfree]
        have hoffers : Offers s c token shared port := by
          simp only [Bool.and_eq_true, Bool.not_eq_true'] at hfree
          exact ⟨hfree.1, hfree.2, htaken.mp rfl⟩
        rw [scanned_cons_of_offers hoffers]
        exact drive_run_ask_bind hreply
    · have hnot : ¬ Offers s c token shared port := fun h => by cases htaken.mpr h.2.2
      rw [scanned_cons_of_not hnot, ← ih]
      rfl

/-- What came of the choice of a port is what the client is to be told. -/
theorem serveTcp_drive (request : TcpTunnelRequest) (result : Except Rejection UInt16)
    (hchosen : (choosePort s token request.remotePort).run.drive (untilAnswer me c) (shared, seat) =
      (.done result, shared.bound me result, seat)) :
    ∃ next, (serveTcp s token request).drive (untilAnswer me c) (shared, seat) =
      (.ask (.send (Answer.ofResult .tcp (result.map .grantedPort))) next,
        shared.bound me result, seat) := by
  rcases result with r | port
  · exact ⟨_, Plan.drive_bind_of_done hchosen⟩
  · exact ⟨_, Plan.drive_bind_of_done hchosen⟩

/-- **The least port is granted.** A request for any port is told of the least port of the range
that can be had, which is then bound; that there is none, exactly if there is none; or that the
range cannot be used. Nothing else is bound, whatever was tried, and the session always comes to the
point where it has something to say. -/
theorem least_port_is_granted (me : σ) (s : Settings) (c : Call → Circumstances)
    (token : Option TokenId) (request : TcpTunnelRequest) (shared : Shared σ) (seat : Seat) :
    ∃ result next,
      (serveTcp s token { request with remotePort := 0 }).drive (untilAnswer me c) (shared, seat) =
        (.ask (.send (Answer.ofResult .tcp (result.map .grantedPort))) next,
          shared.bound me result, seat) ∧
      (∀ port, result = .ok port ↔
        (0 < s.ports.first ∧ s.ports.first ≤ s.ports.last) ∧
          Available s c token shared port ∧
          ∀ other, Available s c token shared other → port ≤ other) ∧
      (result = .error (.plain .noPortsAvailable) ↔
        (0 < s.ports.first ∧ s.ports.first ≤ s.ports.last) ∧
          ∀ port, ¬ Available s c token shared port) ∧
      (¬ (0 < s.ports.first ∧ s.ports.first ≤ s.ports.last) →
        result = .error ⟨.invalidRequest, "invalid tcp port range"⟩) := by
  simp only [Available, ← PortRange.usable_iff, ← PortRange.mem_ports_iff]
  rcases husable : s.ports.usable with _ | _
  · have hcheck : s.ports.check = .error ⟨.invalidRequest, "invalid tcp port range"⟩ := by
      rw [PortRange.check, husable]
      rfl
    have hchosen : (choosePort s token 0).run.drive (untilAnswer me c) (shared, seat) =
        (.done (.error ⟨.invalidRequest, "invalid tcp port range"⟩), shared, seat) := by
      rw [choosePort, if_pos rfl, hcheck]
      rfl
    obtain ⟨next, hsent⟩ := serveTcp_drive { request with remotePort := 0 } (.error _) hchosen
    exact ⟨_, next, hsent, by simp, by simp [Rejection.plain], fun _ => rfl⟩
  · have hcheck : s.ports.check = .ok s.ports := by
      rw [PortRange.check, husable]
      rfl
    have hchosen : (choosePort s token 0).run.drive (untilAnswer me c) (shared, seat) =
        (.done (scanned s c token shared s.ports.ports),
          shared.bound me (scanned s c token shared s.ports.ports), seat) := by
      rw [choosePort, if_pos rfl, hcheck]
      exact bindFirst_drive s.ports.ports
    obtain ⟨next, hsent⟩ := serveTcp_drive { request with remotePort := 0 } _ hchosen
    refine ⟨_, next, hsent, fun port => ?_, ?_, fun h => absurd rfl h⟩
    · rw [scanned_eq_ok_iff (PortRange.pairwise_ports s.ports), and_iff_right rfl]
    · rw [scanned_eq_error_iff]
      simp

end Server

end ReverseTunnel
