/-
Networks of routing processes and the addresses of interfaces.

A network statement gives an address and a wildcard, and it covers an interface address that is the
same in all bits which the wildcard does not set.  The addresses are those of the whole tree: they
stand in sections for interfaces, however deep these stand themselves.

What the rule decides about a routing process follows from its network statements alone, each
looked at by itself.  One that cannot be read settles it, whatever the others say, for then nothing
can be said about the process.
-/
import DeviceLint.Layout.Parse
import DeviceLint.Proofs.AddressText
import DeviceLint.Proofs.Outcome
import DeviceLint.Proofs.Walk
import DeviceLint.Rule.Builtin
import DeviceLint.Schema.Builtin

namespace DeviceLint

/-! ### Statements with addresses -/

namespace Node

/-- Whether a statement has an address and a wildcard for its first two arguments. -/
structure IsNetwork (s : Node) (network wildcard : Ipv4) : Prop where
  network : s.param? 1 = some network.text
  wildcard : s.param? 2 = some wildcard.text

/-- Whether an `ip address` statement has an address and a mask. -/
structure IsAddressed (s : Node) (address mask : Ipv4) : Prop where
  address : s.param? 2 = some address.text
  mask : s.param? 3 = some mask.text

theorem bind_parse?_eq_some_iff {text? : Option String} {a : Ipv4} :
    text? >>= Ipv4.parse? = some a ↔ text? = some a.text := by
  cases text? with
  | none => simp
  | some text => simp [Ipv4.parse?_eq_some_iff]

theorem addressAndMask?_eq_some_iff {s : Node} {address mask : Ipv4} :
    s.addressAndMask? = some (address, mask) ↔ s.IsAddressed address mask := by
  have hsteps : s.addressAndMask? = some (address, mask) ↔
      s.param? 2 >>= Ipv4.parse? = some address ∧ s.param? 3 >>= Ipv4.parse? = some mask := by
    unfold addressAndMask?
    cases s.param? 2 >>= Ipv4.parse? with
    | none => simp
    | some a =>
        cases s.param? 3 >>= Ipv4.parse? with
        | none => simp
        | some m => simp
  rw [hsteps, bind_parse?_eq_some_iff, bind_parse?_eq_some_iff]
  constructor
  · intro h
    exact ⟨h.1, h.2⟩
  · intro h
    exact ⟨h.address, h.mask⟩

end Node

/-! ### Coverage -/

/-- Whether some interface of a tree has an address that agrees with a network on every bit which
the wildcard does not set. -/
def Tree.Covers (t : Tree) (network wildcard : Ipv4) : Prop :=
  ∃ port, t.Has port ∧ port.isGroup = true ∧ port.isMatch "interface" = true ∧
    ∃ s ∈ port.children, s.isMatch "ip address" = true ∧
      ∃ address mask, s.IsAddressed address mask ∧
        ∀ i < 32, wildcard.bits.getLsbD i = false →
          address.bits.getLsbD i = network.bits.getLsbD i

/-- Whether a statement is a network statement, and its network is covered. -/
def Node.IsCovered (t : Tree) (s : Node) : Prop :=
  ∃ network wildcard, s.IsNetwork network wildcard ∧ t.Covers network wildcard

namespace Rule

theorem mem_interfaceAddresses {n : Node} {a : InterfaceAddress} :
    a ∈ n.interfaceAddresses ↔ a.interface = (n.param? 1).getD "" ∧
      ∃ s ∈ n.children, s.isMatch "ip address" = true ∧ s.IsAddressed a.address a.mask := by
  obtain ⟨interface, address, mask⟩ := a
  simp only [Node.interfaceAddresses, List.mem_filterMap, Node.childrenMatching, List.mem_filter,
    Option.map_eq_some_iff, Prod.exists, InterfaceAddress.mk.injEq,
    Node.addressAndMask?_eq_some_iff]
  constructor
  · rintro ⟨s, ⟨hs, hmatch⟩, _, _, haddressed, rfl, rfl, rfl⟩
    exact ⟨rfl, s, hs, hmatch, haddressed⟩
  · rintro ⟨rfl, s, hs, hmatch, haddressed⟩
    exact ⟨s, ⟨hs, hmatch⟩, address, mask, haddressed, rfl, rfl, rfl⟩

theorem isCovered_iff {c : Context} {network wildcard : Ipv4} :
    isCovered c.interfaceAddresses (network, wildcard) = true ↔ c.tree.Covers network wildcard := by
  simp only [isCovered, List.any_eq_true, Context.interfaceAddresses, List.mem_flatMap,
    List.mem_filter, Bool.and_eq_true, Tree.mem_walk_iff, mem_interfaceAddresses,
    Ipv4.agreesOutside_iff, Tree.Covers]
  constructor
  · rintro ⟨a, ⟨port, ⟨hport, hgroup, hmatch⟩, -, s, hs, haddress, haddressed⟩, hagree⟩
    exact ⟨port, hport, hgroup, hmatch, s, hs, haddress, a.address, a.mask, haddressed, hagree⟩
  · rintro ⟨port, hport, hgroup, hmatch, s, hs, haddress, address, mask, haddressed, hagree⟩
    exact ⟨⟨_, address, mask⟩, ⟨port, ⟨hport, hgroup, hmatch⟩, rfl, s, hs, haddress, haddressed⟩,
      hagree⟩

end Rule

instance (t : Tree) (network wildcard : Ipv4) : Decidable (t.Covers network wildcard) :=
  decidable_of_iff _ (Rule.isCovered_iff (c := .ofName "" t))

namespace Rule

/-! ### Reading network statements -/

theorem addressIn_eq_ok_iff {s : Node} {i : Nat} {a : Ipv4} :
    addressIn s i = .ok a ↔ s.param? i = some a.text := by
  rw [← Node.bind_parse?_eq_some_iff]
  unfold addressIn
  cases s.param? i with
  | none => simp
  | some text => cases hread : Ipv4.parse? text <;> simp [hread]

theorem addressIn_eq_error {s : Node} {i : Nat} {fault : Fault}
    (h : addressIn s i = .error fault) : ∃ causes, fault = .failed causes := by
  unfold addressIn at h
  split at h
  · cases h
    exact ⟨_, rfl⟩
  · split at h
    · cases h
    · cases h
      exact ⟨_, rfl⟩

theorem networkOf_eq_ok_iff {s : Node} {p : Ipv4 × Ipv4} :
    networkOf s = .ok p ↔ s.IsNetwork p.1 p.2 := by
  constructor
  · intro h
    obtain ⟨network, hnetwork, h⟩ := ok_of_bind h
    obtain ⟨wildcard, hwildcard, h⟩ := ok_of_bind h
    cases h
    exact ⟨addressIn_eq_ok_iff.mp hnetwork, addressIn_eq_ok_iff.mp hwildcard⟩
  · intro h
    unfold networkOf
    rw [addressIn_eq_ok_iff.mpr h.network, addressIn_eq_ok_iff.mpr h.wildcard]
    rfl

theorem networkOf_eq_error {s : Node} {fault : Fault} (h : networkOf s = .error fault) :
    ∃ causes, fault = .failed causes := by
  rcases bind_eq_error_iff.mp h with h | ⟨network, -, h⟩
  · exact addressIn_eq_error h
  · exact addressIn_eq_error (bind_pure_eq_error_iff.mp h)

/-- Statements are read one by one until one cannot be read. -/
theorem mapM_networkOf_cases (statements : List Node) :
    (∃ networks, statements.mapM networkOf = .ok networks ∧
      List.Forall₂ (fun s p => s.IsNetwork p.1 p.2) statements networks) ∨
    (∃ causes, statements.mapM networkOf = .error (.failed causes)) ∧
      ∃ s ∈ statements, ∀ network wildcard, ¬ s.IsNetwork network wildcard := by
  cases h : statements.mapM networkOf with
  | ok networks =>
      refine .inl ⟨networks, rfl, ?_⟩
      exact ((mapM_eq_ok_iff statements networks).mp h).imp fun _ _ => networkOf_eq_ok_iff.mp
  | error fault =>
      rw [mapM_eq_error_iff fun s e => Iff.rfl] at h
      obtain ⟨before, s, after, rfl, -, hfault⟩ := h
      obtain ⟨causes, rfl⟩ := networkOf_eq_error hfault
      refine .inr ⟨⟨causes, rfl⟩, s, by simp, fun network wildcard hnetwork => ?_⟩
      rw [networkOf_eq_ok_iff (p := (network, wildcard)) |>.mpr hnetwork] at hfault
      cases hfault

/-! ### The verdict -/

section

variable {id : String} {addresses : List InterfaceAddress} {networks : List (Ipv4 × Ipv4)}

theorem networkVerdict_informational_iff :
    (∃ message, networkVerdict id addresses networks = .informational message)
      ↔ networks = [] := by
  unfold networkVerdict
  by_cases hempty : networks = []
  · simp [hempty]
  · rw [if_neg (by simpa using hempty)]
    split <;> simp [hempty]

theorem networkVerdict_pass_iff :
    (∃ message, networkVerdict id addresses networks = .pass message)
      ↔ networks ≠ [] ∧ ∀ p ∈ networks, isCovered addresses p = true := by
  have hfilter : (networks.filter fun p => !isCovered addresses p).isEmpty = true
      ↔ ∀ p ∈ networks, isCovered addresses p = true := by
    simp [List.filter_eq_nil_iff]
  rw [← hfilter]
  unfold networkVerdict
  by_cases hempty : networks = []
  · simp [hempty]
  · rw [if_neg (by simpa using hempty)]
    split
    · rename_i hall
      simp [hempty, hall]
    · rename_i hsome
      simp [hsome]

/-- What a failure says of networks that are not covered. -/
def uncoveredMessage (networks : List (Ipv4 × Ipv4)) : String :=
  "OSPF network " ++ ", ".intercalate (networks.map fun p => p.1.text ++ " " ++ p.2.text) ++
    " does not match any configured interface"

theorem networkVerdict_eq_fail_iff {message : String} :
    networkVerdict id addresses networks = .fail message ↔
      (networks.filter fun p => !isCovered addresses p) ≠ [] ∧
        message = uncoveredMessage (networks.filter fun p => !isCovered addresses p) := by
  unfold networkVerdict
  by_cases hempty : networks = []
  · simp [hempty]
  · rw [if_neg (by simpa using hempty)]
    split
    · rename_i hall
      simp [List.isEmpty_iff.mp hall]
    · rename_i hsome
      rw [Verdict.fail.injEq, eq_comm]
      have hne : (networks.filter fun p => !isCovered addresses p) ≠ [] := by simpa using hsome
      simp only [ne_eq, hne, not_false_eq_true, true_and]
      -- The message is the same, put together in another way.
      exact Iff.rfl

end

/-! ### The rule -/

theorem coveredNetworks_cases (c : Context) (n : Node) :
    (∃ networks, List.Forall₂ (fun s p => s.IsNetwork p.1 p.2) (n.childrenMatching "network") networks
      ∧ coveredNetworks.check n c = .ok (networkVerdict n.id c.interfaceAddresses networks)) ∨
    (∃ causes, coveredNetworks.check n c = .error (.failed causes)) ∧
      ∃ s ∈ n.childrenMatching "network", ∀ network wildcard, ¬ s.IsNetwork network wildcard := by
  have hcheck : coveredNetworks.check n c = ((n.childrenMatching "network").mapM networkOf).map
      (networkVerdict n.id c.interfaceAddresses) := by
    show (do return networkVerdict _ _ (← (n.childrenMatching "network").mapM networkOf)) = _
    cases (n.childrenMatching "network").mapM networkOf <;> rfl
  rw [hcheck]
  rcases mapM_networkOf_cases (n.childrenMatching "network") with
    ⟨networks, hread, hnetworks⟩ | ⟨⟨causes, hread⟩, hfaulty⟩
  · refine .inl ⟨networks, hnetworks, ?_⟩
    rw [hread]
    rfl
  · refine .inr ⟨⟨causes, ?_⟩, hfaulty⟩
    rw [hread]
    rfl

/-- Of a statement that is read there is only one reading. -/
theorem networks_unique {statements : List Node} {ps qs : List (Ipv4 × Ipv4)}
    (hp : List.Forall₂ (fun s p => s.IsNetwork p.1 p.2) statements ps)
    (hq : List.Forall₂ (fun s p => s.IsNetwork p.1 p.2) statements qs) : ps = qs := by
  simp only [← networkOf_eq_ok_iff, ← mapM_eq_ok_iff] at hp hq
  rw [hp] at hq
  exact Except.ok.inj hq

/-- Statements are covered if their networks are. -/
theorem forall_isCovered_iff {t : Tree} {statements : List Node} {networks : List (Ipv4 × Ipv4)}
    (h : List.Forall₂ (fun s p => s.IsNetwork p.1 p.2) statements networks) :
    (∀ s ∈ statements, s.IsCovered t) ↔ ∀ p ∈ networks, t.Covers p.1 p.2 := by
  induction h with
  | nil => simp
  | @cons s p statements networks hs _ ih =>
      have hcovered : s.IsCovered t ↔ t.Covers p.1 p.2 := by
        constructor
        · rintro ⟨network, wildcard, hnetwork, hcovers⟩
          have heq : (network, wildcard) = p := by
            rw [← networkOf_eq_ok_iff (p := (network, wildcard))] at hnetwork
            rw [← networkOf_eq_ok_iff, hnetwork] at hs
            exact Except.ok.inj hs
          rwa [← heq]
        · intro hcovers
          exact ⟨p.1, p.2, hs, hcovers⟩
      rw [List.forall_mem_cons, List.forall_mem_cons, hcovered, ih]

/-! ### The verdict on statements that are read -/

section

variable {c : Context} {id : String} {statements : List Node} {networks : List (Ipv4 × Ipv4)}

theorem isCovered_eq (c : Context) (p : Ipv4 × Ipv4) :
    isCovered c.interfaceAddresses p = decide (c.tree.Covers p.1 p.2) := by
  rw [Bool.eq_iff_iff, decide_eq_true_iff]
  exact isCovered_iff

theorem eq_nil_iff_of_read (h : List.Forall₂ (fun s p => s.IsNetwork p.1 p.2) statements networks) :
    networks = [] ↔ statements = [] := by
  rw [← List.length_eq_zero_iff, ← List.length_eq_zero_iff, h.length_eq]

theorem networkVerdict_informational_iff_of_read
    (h : List.Forall₂ (fun s p => s.IsNetwork p.1 p.2) statements networks) :
    (∃ message, networkVerdict id c.interfaceAddresses networks = .informational message)
      ↔ statements = [] := by
  rw [networkVerdict_informational_iff, eq_nil_iff_of_read h]

theorem networkVerdict_pass_iff_of_read
    (h : List.Forall₂ (fun s p => s.IsNetwork p.1 p.2) statements networks) :
    (∃ message, networkVerdict id c.interfaceAddresses networks = .pass message)
      ↔ statements ≠ [] ∧ ∀ s ∈ statements, s.IsCovered c.tree := by
  rw [networkVerdict_pass_iff, ne_eq, eq_nil_iff_of_read h, forall_isCovered_iff h]
  simp only [isCovered_eq, decide_eq_true_eq, ne_eq]

theorem networkVerdict_fail_iff_of_read
    (h : List.Forall₂ (fun s p => s.IsNetwork p.1 p.2) statements networks) {message : String} :
    networkVerdict id c.interfaceAddresses networks = .fail message ↔
      ∃ networks, List.Forall₂ (fun s p => s.IsNetwork p.1 p.2) statements networks ∧
        (networks.filter fun p => ¬ c.tree.Covers p.1 p.2) ≠ [] ∧
        message = uncoveredMessage (networks.filter fun p => ¬ c.tree.Covers p.1 p.2) := by
  simp only [networkVerdict_eq_fail_iff, isCovered_eq, ← decide_not]
  constructor
  · intro hfail
    exact ⟨networks, h, hfail⟩
  · rintro ⟨networks', h', hfail⟩
    rwa [networks_unique h h']

end

/--
**The rule decides about a routing process by which of its networks are covered.**

If a network statement cannot be read, that is an error.  If there are none, there is nothing to
verify.  Otherwise the process passes exactly if all its networks are covered, and a failure lists
the networks that are not, one for each statement and in the order of the statements.
-/
theorem coveredNetworks_check (c : Context) (n : Node) :
    ((∃ causes, coveredNetworks.check n c = .error (.failed causes)) ↔
      ∃ s ∈ n.childrenMatching "network", ∀ network wildcard, ¬ s.IsNetwork network wildcard) ∧
    ((∃ message, coveredNetworks.check n c = .ok (.informational message)) ↔
      n.childrenMatching "network" = []) ∧
    ((∃ message, coveredNetworks.check n c = .ok (.pass message)) ↔
      n.childrenMatching "network" ≠ [] ∧
        ∀ s ∈ n.childrenMatching "network", s.IsCovered c.tree) ∧
    ∀ message, coveredNetworks.check n c = .ok (.fail message) ↔
      ∃ networks, List.Forall₂ (fun s p => s.IsNetwork p.1 p.2) (n.childrenMatching "network")
          networks ∧
        (networks.filter fun p => ¬ c.tree.Covers p.1 p.2) ≠ [] ∧
        message = uncoveredMessage (networks.filter fun p => ¬ c.tree.Covers p.1 p.2) := by
  rcases coveredNetworks_cases c n with ⟨networks, hread, hcheck⟩ | ⟨⟨causes, hcheck⟩, hfaulty⟩
  · rw [hcheck]
    simp only [Except.ok.injEq]
    refine ⟨?_, networkVerdict_informational_iff_of_read hread,
      networkVerdict_pass_iff_of_read hread, fun _ => networkVerdict_fail_iff_of_read hread⟩
    simp only [reduceCtorEq, exists_false, false_iff]
    rintro ⟨s, hs, hnone⟩
    obtain ⟨p, hp⟩ := (exists_forall₂_iff _).mp ⟨networks, hread⟩ s hs
    exact hnone p.1 p.2 hp
  · obtain ⟨s, hs, hnone⟩ := hfaulty
    rw [hcheck]
    refine ⟨⟨fun _ => ⟨s, hs, hnone⟩, fun _ => ⟨causes, rfl⟩⟩, ?_, ?_, fun message => ?_⟩
    · simp [List.ne_nil_of_mem hs]
    · simp only [reduceCtorEq, exists_false, false_iff]
      rintro ⟨-, hall⟩
      obtain ⟨network, wildcard, hnetwork, -⟩ := hall s hs
      exact hnone network wildcard hnetwork
    · simp only [reduceCtorEq, false_iff]
      rintro ⟨networks, hread, -⟩
      obtain ⟨p, hp⟩ := (exists_forall₂_iff _).mp ⟨networks, hread⟩ s hs
      exact hnone p.1 p.2 hp

/-- The first wildcard leaves the second octet open, and the address of the interface agrees on the
others. -/
example :
    let tree := parse Schema.ciscoIos ("interface e0\n ip address 10.7.0.1 255.0.0.0\n" ++
      "router ospf 1\n network 10.0.0.1 0.255.0.0\n network 10.0.1.0 0.0.0.255\n")
    tree[1]?.map (coveredNetworks.check · (.ofSchema Schema.ciscoIos tree)) = some (.ok (.fail
      "OSPF network 10.0.1.0 0.0.0.255 does not match any configured interface")) := by
  decide +kernel

end Rule

end DeviceLint
