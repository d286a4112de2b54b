import Tacker.UserData.Leftovers
import Tacker.UserData.Default

/-!
# The values of a connection point

What a mention of a connection point gives: the network of its link and the addresses of its
configurations. A template that reads the fixed IPs by their index and member gets them filled in, as
far as there are addresses, and the loops over the connection points return.
-/

namespace Tacker.UserData

open Tacker.Basis

/-! ## Mentions -/

/-- The mention of a connection point: that of the grant if there is one, else that of the
request. -/
def mention (req : Req) (grant : Grant) (cpName : Key) : Option (String × ExtCp) :=
  (findCp cpName grant.extVirtualLinks).or (findCp cpName req.extVirtualLinks)

lemma findCp_append {cpName : Key} {vls vls' : List ExtVl} :
    findCp cpName (vls ++ vls') = (findCp cpName vls).or (findCp cpName vls') :=
  List.findSome?_append

/-- The entries for addresses, of all configurations of the mention. -/
def entries (extcp : ExtCp) : List IpAddresses :=
  extcp.cpConfig.flatMap fun cpConf =>
    cpConf.cpProtocolData.flatMap fun protData => protData.ipOverEthernet.getD []

/-- What an entry gives: its first address and its subnet, if it has one of them. -/
def given (ip : IpAddresses) : Option FixedIp :=
  match ip.fixedAddresses.bind List.head?, ip.subnetId with
  | none, none => none
  | address, subnet => some ⟨address, subnet⟩

/-- The addresses that a mention gives. -/
def givenAddresses (extcp : ExtCp) : List FixedIp :=
  (entries extcp).filterMap given

/-- No entry has a list of fixed addresses without an address. -/
def HasAddresses (extcp : ExtCp) : Prop :=
  ∀ ip ∈ entries extcp, ip.fixedAddresses ≠ some []

lemma fixedIp_given {ip : IpAddresses} (has : ip.fixedAddresses ≠ some []) :
    fixedIp ip = .ok (given ip) := by
  cases addresses : ip.fixedAddresses with
  | none => cases subnet : ip.subnetId <;> simp [fixedIp, given, addresses, subnet]
  | some fixedAddresses =>
    cases fixedAddresses with
    | nil => exact absurd addresses has
    | cons address others => simp [fixedIp, given, addresses]

/-- The loop over the configurations returns the addresses. -/
lemma getFixedIpsFromExtcp_given {extcp : ExtCp} (has : HasAddresses extcp) :
    getFixedIpsFromExtcp extcp = .ok (givenAddresses extcp) := by
  have mapped (ips : List IpAddresses) (has : ∀ ip ∈ ips, ip.fixedAddresses ≠ some []) :
      ips.mapM fixedIp = .ok (ips.map given) := by
    induction ips with
    | nil => rfl
    | cons ip ips ih =>
      apply mapM_cons_ok.mpr
      exact ⟨_, _, fixedIp_given (has ip List.mem_cons_self),
        ih fun ip mem => has ip (List.mem_cons_of_mem _ mem), rfl⟩
  rw [getFixedIpsFromExtcp]
  apply bind_ok.mpr
  refine ⟨_, mapped (entries extcp) has, ?_⟩
  rw [givenAddresses, List.filterMap_map]
  rfl

lemma addresses_given {found : String × ExtCp} (has : HasAddresses found.2) :
    addresses (some found) = .ok (some (givenAddresses found.2)) := by
  rw [addresses, Option.mapM_some, getFixedIpsFromExtcp_given has]
  rfl

/-! ## Fixed IPs -/

/-- The template reads the fixed IPs by their index and member. -/
def IndexedIps (ips : Value) : Prop :=
  ips.isDict = true ∧ ∀ i v, ips.get? (.int i) = some v → v.isDict = true

/-- A fixed IP of the template with the members that it asks for. -/
structure FilledIp (asked : Value) (ext : FixedIp) (v : Value) : Prop where
  subnet : v.get? "subnet" = (asked.get? "subnet").map fun _ => orNone ext.subnet
  ipAddress : v.get? "ip_address" = (asked.get? "ip_address").map fun _ => orNone ext.ipAddress
  others : ∀ key, key ≠ .str "subnet" → key ≠ .str "ip_address" → v.get? key = asked.get? key

/-- The fixed IPs from an index on: as many as the template reads without a gap and as there are
addresses, in their order. -/
inductive FilledIps (ips : Value) : Nat → List FixedIp → List Value → Prop where
  | nil {i : Nat} : FilledIps ips i [] []
  | stop {i : Nat} {exts : List FixedIp} : ips.get? (.int i) = none → FilledIps ips i exts []
  | cons {i : Nat} {ext : FixedIp} {exts : List FixedIp} {asked v : Value} {vs : List Value} :
    ips.get? (.int i) = some asked → FilledIp asked ext v → FilledIps ips (i + 1) exts vs →
    FilledIps ips i (ext :: exts) (v :: vs)

lemma hasKey_dict {d : Value} {key : Key} (dict : d.isDict = true) :
    hasKey d key = .ok (d.get? key).isSome :=
  hasKey_ok.mpr ⟨dict, rfl⟩

lemma fillFixedIp_filled {asked : Value} (ext : FixedIp) (dict : asked.isDict = true) :
    ∃ v, fillFixedIp asked ext = .ok v ∧ FilledIp asked ext v := by
  have dict' : (setAsked asked "subnet" (orNone ext.subnet)).isDict = true := by
    rw [isDict_setAsked, dict]
  refine ⟨setAsked (setAsked asked "subnet" (orNone ext.subnet)) "ip_address"
    (orNone ext.ipAddress), ?_, ?_⟩
  · apply bind_ok.mpr
    refine ⟨_, hasKey_dict dict, bind_ok.mpr ⟨_, hasKey_dict dict', rfl⟩⟩
  · constructor
    · rw [get?_setAsked dict', if_neg (by simp), get?_setAsked dict, if_pos rfl]
    · rw [get?_setAsked dict', if_pos rfl, get?_setAsked dict, if_neg (by simp)]
    · intro key notSubnet notAddress
      rw [get?_setAsked dict', if_neg notAddress, get?_setAsked dict, if_neg notSubnet]

/-- The loop over the addresses returns the fixed IPs. -/
lemma fillFixedIps_filled {ips : Value} (indexed : IndexedIps ips) (i : Nat) (exts : List FixedIp) :
    ∃ filled, fillFixedIps ips i exts = .ok filled ∧ FilledIps ips i exts filled := by
  induction exts generalizing i with
  | nil => exact ⟨[], rfl, .nil⟩
  | cons ext exts ih =>
    cases there : ips.get? (.int i) with
    | none =>
      refine ⟨[], ?_, .stop there⟩
      apply bind_ok.mpr
      refine ⟨_, hasKey_dict indexed.1, ?_⟩
      rw [there]
      rfl
    | some asked =>
      obtain ⟨v, made, filledIp⟩ := fillFixedIp_filled ext (indexed.2 i asked there)
      obtain ⟨vs, rest, filledIps⟩ := ih (i + 1)
      refine ⟨v :: vs, ?_, .cons there filledIp filledIps⟩
      apply bind_ok.mpr
      refine ⟨_, hasKey_dict indexed.1, ?_⟩
      rw [there]
      apply bind_ok.mpr
      refine ⟨asked, item_ok.mpr there, bind_ok.mpr ⟨v, made, bind_ok.mpr ⟨vs, rest, rfl⟩⟩⟩

/-- The parameters of a connection point are those of its mention: the network, and the fixed IPs
with the addresses. -/
structure CpGiven (found : String × ExtCp) (asked v : Value) : Prop where
  network : v.get? "network" = (asked.get? "network").map fun _ => text found.1
  fixedIps : ∀ ips, asked.get? "fixed_ips" = some ips → ∃ filled,
    v.get? "fixed_ips" = some (.list filled) ∧ FilledIps ips 0 (givenAddresses found.2) filled
  noFixedIps : asked.get? "fixed_ips" = none → v.get? "fixed_ips" = none

lemma makeFixedIps_filled {cpValue ips : Value} (exts : List FixedIp)
    (asks : cpValue.get? "fixed_ips" = some ips) (indexed : IndexedIps ips) :
    ∃ filled, makeFixedIps cpValue (some exts) = .ok (.list filled) ∧
      FilledIps ips 0 exts filled := by
  obtain ⟨filled, made, filledIps⟩ := fillFixedIps_filled indexed 0 exts
  refine ⟨filled, ?_, filledIps⟩
  apply bind_ok.mpr
  refine ⟨filled, ?_, rfl⟩
  rw [asks]
  exact made

/-! ## One connection point -/

variable {found : Option (String × ExtCp)} {asked : Value}

/-- Where a mentioned connection point is asked for its fixed IPs, they can be made. -/
def FixedIpsReady (found : Option (String × ExtCp)) (asked : Value) : Prop :=
  ∀ f, found = some f → HasAddresses f.2 ∧
    ∀ ips, asked.get? "fixed_ips" = some ips → IndexedIps ips

/-- The second step of `fillCpValue`. -/
def addFixedIps (fixedIps : Except Raised (Option (List FixedIp))) (cpValue v : Value) :
    Except Raised Value := do
  if ← hasKey v "fixed_ips" then
    let ips ← makeFixedIps cpValue (← fixedIps)
    return v.set "fixed_ips" ips
  else return v

/-- A connection point that is filled in, at the instantiation or a scale-out. -/
lemma fillCpValue_filled (dict : asked.isDict = true) (ready : FixedIpsReady found asked)
    (known : found = none → asked.get? "fixed_ips" = none) :
    ∃ v, fillCpValue (found.map Prod.fst) (addresses found) asked = .ok v ∧ v.isDict = true ∧
      (∀ f, found = some f → CpGiven f asked v) ∧
      (found = none → v.get? "network" = ((asked.get? "network").map fun _ => .null) ∧
        v.get? "fixed_ips" = none) := by
  have step : fillCpValue (found.map Prod.fst) (addresses found) asked =
      addFixedIps (addresses found) asked
        (setAsked asked "network" (orNone (found.map Prod.fst))) := by
    rw [fillCpValue, hasKey_dict dict]
    rfl
  generalize networkEq : setAsked asked "network" (orNone (found.map Prod.fst)) = w at step
  have dict' : w.isDict = true := by
    rw [← networkEq, isDict_setAsked, dict]
  have others (key : Key) (other : key ≠ .str "network") : w.get? key = asked.get? key := by
    rw [← networkEq, get?_setAsked dict, if_neg other]
  have network : w.get? "network" =
      (asked.get? "network").map fun _ => orNone (found.map Prod.fst) := by
    rw [← networkEq, get?_setAsked dict, if_pos rfl]
  rw [step]
  cases asks : asked.get? "fixed_ips" with
  | none =>
    have noFixedIps : w.get? "fixed_ips" = none := by
      rw [others _ (by simp), asks]
    refine ⟨w, ?_, dict', ?_, ?_⟩
    · apply bind_ok.mpr
      refine ⟨_, hasKey_dict dict', ?_⟩
      rw [noFixedIps]
      rfl
    · rintro f rfl
      constructor
      · exact network
      · intro ips asks'
        rw [asks] at asks'
        cases asks'
      · intro _
        exact noFixedIps
    · rintro rfl
      exact ⟨network, noFixedIps⟩
  | some ips =>
    cases found with
    | none =>
      rw [known rfl] at asks
      cases asks
    | some f =>
      obtain ⟨has, indexed⟩ := ready f rfl
      obtain ⟨filled, made, filledIps⟩ := makeFixedIps_filled (givenAddresses f.2) asks
        (indexed ips asks)
      refine ⟨w.set "fixed_ips" (.list filled), ?_, ?_, ?_, ?_⟩
      · apply bind_ok.mpr
        refine ⟨_, hasKey_dict dict', ?_⟩
        rw [others _ (by simp), asks]
        apply bind_ok.mpr
        exact ⟨_, addresses_given has, bind_ok.mpr ⟨_, made, rfl⟩⟩
      · rw [Json.isDict_set]
        exact dict'
      · rintro _ ⟨⟩
        constructor
        · rw [Json.get?_set dict', if_neg (by simp)]
          exact network
        · intro ips' asks'
          rw [asks] at asks'
          obtain rfl := Option.some.inj asks'
          exact ⟨filled, by rw [Json.get?_set dict', if_pos rfl], filledIps⟩
        · intro none
          rw [asks] at none
          cases none
      · intro none
        cases none

/-- New values of a connection point, at a change: they can be made, and are those of the
mention. -/
lemma newCp_given (dict : asked.isDict = true) (ready : FixedIpsReady found asked)
    (known : found = none → (asked.get? "fixed_ips").isSome = true →
      (asked.get? "network").isSome = true) :
    ∃ made, newCp (found.map Prod.fst) (addresses found) asked = .ok made := by
  cases asksNetwork : (asked.get? "network").isSome with
  | false =>
    cases asks : asked.get? "fixed_ips" with
    | none =>
      simp [newCp, hasKey_dict dict, asksNetwork, asks, bind, Except.bind, pure, Except.pure]
    | some ips =>
      cases found with
      | none =>
        have network := known rfl (by rw [asks]; rfl)
        rw [asksNetwork] at network
        cases network
      | some f =>
        obtain ⟨has, indexed⟩ := ready f rfl
        obtain ⟨filled, made, -⟩ := makeFixedIps_filled (givenAddresses f.2) asks
          (indexed ips asks)
        simp [newCp, hasKey_dict dict, asksNetwork, asks, addresses_given has, made, bind,
          Except.bind, pure, Except.pure]
  | true =>
    cases found with
    | none =>
      simp [newCp, hasKey_dict dict, asksNetwork, bind, Except.bind, pure, Except.pure]
    | some f =>
      cases asks : asked.get? "fixed_ips" with
      | none =>
        simp [newCp, hasKey_dict dict, asksNetwork, asks, bind, Except.bind, pure, Except.pure]
      | some ips =>
        obtain ⟨has, indexed⟩ := ready f rfl
        obtain ⟨filled, made, -⟩ := makeFixedIps_filled (givenAddresses f.2) asks
          (indexed ips asks)
        simp [newCp, hasKey_dict dict, asksNetwork, asks, addresses_given has, made, bind,
          Except.bind, pure, Except.pure]

/-- What a new connection point has is what its mention gives. -/
lemma NewCp.given {f : String × ExtCp} {v : Value} (new : NewCp (some f) asked v)
    (ready : FixedIpsReady (some f) asked) : CpGiven f asked v := by
  obtain ⟨has, indexed⟩ := ready f rfl
  have fixedIps := new.fixedIps
  constructor
  · rw [new.network]
    cases asked.get? "network" <;> rfl
  · intro ips asks
    obtain ⟨filled, made, filledIps⟩ := makeFixedIps_filled (givenAddresses f.2) asks
      (indexed ips asks)
    rw [asks, Option.isSome_some, if_pos rfl] at fixedIps
    obtain ⟨exts, ips', got, made', there⟩ := fixedIps
    obtain rfl := Except.ok.inj (got.symm.trans (addresses_given has))
    obtain rfl := Except.ok.inj (made'.symm.trans made)
    exact ⟨filled, there, filledIps⟩
  · intro none
    rw [none, Option.isSome_none, if_neg Bool.false_ne_true] at fixedIps
    exact fixedIps

end Tacker.UserData
