import Tacker.UserData.Template
import Tacker.UserData.Standard
import Tacker.UserData.Default

/-!
# The new values of the connection points

What a change of the external connectivity makes of the connection points of the template: those
that the links connect get the parameters the template asks for, the others are left out.
-/

namespace Tacker.UserData

open Tacker.Basis

variable {found : Option (String × ExtCp)} {cpValue v : Value} {made : Option Value}

lemma hasKey_ok {d : Value} {key : Key} {b : Bool} :
    hasKey d key = .ok b ↔ d.isDict = true ∧ b = (d.get? key).isSome := by
  cases dict : d.isDict <;> simp [hasKey, dict, eq_comm]

lemma item_ok {d v : Value} {key : Key} : item d key = .ok v ↔ d.get? key = some v := by
  cases found : d.get? key <;> simp [item, found]

lemma keysOf_ok {d : Value} {ks : List Key} :
    keysOf d = .ok ks ↔ d.isDict = true ∧ ks = d.keys := by
  cases dict : d.isDict <;> simp [keysOf, dict, eq_comm]

lemma getOrEmpty_ok {d v : Value} {key : Key} :
    getOrEmpty d key = .ok v ↔ d.isDict = true ∧ v = (d.get? key).getD .empty := by
  cases dict : d.isDict <;> simp [getOrEmpty, dict, eq_comm]

/-- The addresses of the connection that was found. -/
def addresses (found : Option (String × ExtCp)) : Except Raised (Option (List FixedIp)) :=
  found.mapM fun found => getFixedIpsFromExtcp found.2

lemma addresses_none {exts : Option (List FixedIp)} (eq : addresses none = .ok exts) :
    exts = none := by
  cases eq
  rfl

/-- The fixed IPs of a connection point are a list, and need addresses to fill in. -/
lemma makeFixedIps_ok {exts : Option (List FixedIp)} {ips : Value}
    (eq : makeFixedIps cpValue exts = .ok ips) :
    exts.isSome = true ∧ ips.isDict = false ∧ ips.isNull = false := by
  cases exts with
  | none => cases eq
  | some exts =>
    obtain ⟨filled, -, eq⟩ := bind_ok.mp eq
    obtain rfl := pure_ok.mp eq
    exact ⟨rfl, rfl, rfl⟩

/-- What a connected connection point gets: the network and the fixed IPs, if asked for. -/
structure NewCp (found : Option (String × ExtCp)) (cpValue v : Value) : Prop where
  dict : v.isDict = true
  network : v.get? "network" =
    if (cpValue.get? "network").isSome then some (orNone (found.map Prod.fst)) else none
  fixedIps : if (cpValue.get? "fixed_ips").isSome then
      ∃ exts ips, addresses found = .ok exts ∧ makeFixedIps cpValue exts = .ok ips ∧
        v.get? "fixed_ips" = some ips
    else v.get? "fixed_ips" = none
  others : ∀ key, key ≠ .str "network" → key ≠ .str "fixed_ips" → v.get? key = none

/-- The template asks for the network or the fixed IPs of the connection point. -/
def asksCp (cpValue : Value) : Bool :=
  (cpValue.get? "network").isSome || (cpValue.get? "fixed_ips").isSome

/-- A connection point gets new values exactly if it is connected and the template asks for some. -/
lemma newCp_ok (eq : newCp (found.map Prod.fst) (addresses found) cpValue = .ok made) :
    made = none ∧ (found = none ∨ asksCp cpValue = false) ∨
      ∃ v, made = some v ∧ found.isSome = true ∧ asksCp cpValue = true ∧ NewCp found cpValue v := by
  obtain ⟨hasNetwork, network, eq⟩ := bind_ok.mp eq
  obtain ⟨dict, rfl⟩ := hasKey_ok.mp network
  cases asksNetwork : (cpValue.get? "network").isSome with
  | false =>
    simp only [asksNetwork, Bool.false_and, Bool.false_eq_true, if_false] at eq
    obtain ⟨hasIps, asks, eq⟩ := bind_ok.mp eq
    obtain ⟨-, rfl⟩ := hasKey_ok.mp asks
    cases asksIps : (cpValue.get? "fixed_ips").isSome with
    | false =>
      rw [asksIps, if_neg Bool.false_ne_true] at eq
      obtain rfl := pure_ok.mp eq
      exact Or.inl ⟨rfl, Or.inr (by simp [asksCp, asksNetwork, asksIps])⟩
    | true =>
      rw [asksIps, if_pos rfl] at eq
      obtain ⟨exts, got, eq⟩ := bind_ok.mp eq
      obtain ⟨ips, filled, eq⟩ := bind_ok.mp eq
      obtain rfl := pure_ok.mp eq
      refine Or.inr ⟨_, rfl, ?_, by simp [asksCp, asksIps], ?_⟩
      · cases found with
        | none =>
          have some := (makeFixedIps_ok filled).1
          rw [addresses_none got] at some
          cases some
        | some found => rfl
      · constructor
        · rfl
        · simp [asksNetwork]
        · rw [asksIps, if_pos rfl]
          exact ⟨exts, ips, got, filled, by simp⟩
        · intro key _ ne
          simp [ne]
  | true =>
    cases found with
    | none =>
      simp only [asksNetwork, Option.map_none, Option.isNone_none, Bool.and_self, if_true] at eq
      obtain rfl := pure_ok.mp eq
      exact Or.inl ⟨rfl, Or.inl rfl⟩
    | some found =>
      simp only [asksNetwork, Option.map_some, Option.isNone_some, Bool.and_false,
        Bool.false_eq_true, if_false, if_true] at eq
      obtain ⟨hasIps, asks, eq⟩ := bind_ok.mp eq
      obtain ⟨-, rfl⟩ := hasKey_ok.mp asks
      cases asksIps : (cpValue.get? "fixed_ips").isSome with
      | false =>
        rw [asksIps, if_neg Bool.false_ne_true] at eq
        obtain rfl := pure_ok.mp eq
        refine Or.inr ⟨_, rfl, rfl, by simp [asksCp, asksNetwork], ?_⟩
        constructor
        · rfl
        · simp [asksNetwork]
        · rw [asksIps, if_neg Bool.false_ne_true]
          simp
        · intro key ne _
          simp [ne]
      | true =>
        rw [asksIps, if_pos rfl] at eq
        obtain ⟨exts, got, eq⟩ := bind_ok.mp eq
        obtain ⟨ips, filled, eq⟩ := bind_ok.mp eq
        obtain rfl := pure_ok.mp eq
        refine Or.inr ⟨_, rfl, rfl, by simp [asksCp, asksNetwork], ?_⟩
        constructor
        · rfl
        · simp [asksNetwork]
        · rw [asksIps, if_pos rfl]
          exact ⟨exts, ips, got, filled, by simp⟩
        · intro key ne ne'
          simp [ne, ne']

/-- A new value is neither a dictionary nor `None`. -/
lemma NewCp.value (new : NewCp found cpValue v) (connected : found.isSome = true) {key : Key}
    {w : Value} (got : v.get? key = some w) : w.isDict = false ∧ w.isNull = false := by
  by_cases isNetwork : key = .str "network"
  · subst isNetwork
    rw [new.network] at got
    cases asked : (cpValue.get? "network").isSome with
    | false => simp [asked] at got
    | true =>
      rw [asked, if_pos rfl] at got
      cases found with
      | none => cases connected
      | some found =>
        cases got
        exact ⟨rfl, rfl⟩
  · by_cases isIps : key = .str "fixed_ips"
    · subst isIps
      have ips := new.fixedIps
      cases asked : (cpValue.get? "fixed_ips").isSome with
      | false =>
        rw [asked, if_neg Bool.false_ne_true, got] at ips
        cases ips
      | true =>
        rw [asked, if_pos rfl] at ips
        obtain ⟨exts, ips, -, filled, got'⟩ := ips
        rw [got] at got'
        cases got'
        exact (makeFixedIps_ok filled).2
    · rw [new.others key isNetwork isIps] at got
      cases got

/-- The keys of the new values are those the template asks for. -/
lemma NewCp.isSome_iff (new : NewCp found cpValue v) (key : Key) :
    (v.get? key).isSome = true ↔
      (key = .str "network" ∨ key = .str "fixed_ips") ∧ (cpValue.get? key).isSome = true := by
  by_cases isNetwork : key = .str "network"
  · subst isNetwork
    rw [new.network]
    cases asked : (cpValue.get? "network").isSome <;> simp
  · by_cases isIps : key = .str "fixed_ips"
    · subst isIps
      have ips := new.fixedIps
      cases asked : (cpValue.get? "fixed_ips").isSome with
      | false =>
        rw [asked, if_neg Bool.false_ne_true] at ips
        simp [ips]
      | true =>
        rw [asked, if_pos rfl] at ips
        obtain ⟨exts, ips, -, -, got⟩ := ips
        simp [got]
    · simp [new.others key isNetwork isIps, isNetwork, isIps]

/-! ## All connection points -/

/-- The new values of the connection points: an entry for each of the template that is connected and
asks for some. -/
structure NewCps (find : Key → Option (String × ExtCp)) (cps newCps : Value) : Prop where
  dict : newCps.isDict = true
  some_iff : ∀ name, (newCps.get? name).isSome = true ↔
    ∃ cpValue, cps.get? name = some cpValue ∧ asksCp cpValue = true ∧ (find name).isSome = true
  new : ∀ name v, newCps.get? name = some v →
    ∃ cpValue, cps.get? name = some cpValue ∧ NewCp (find name) cpValue v

/-- A loop that makes each connection point from what was found for its name. -/
lemma newCps_of_buildDict {find : Key → Option (String × ExtCp)} {cps newCps : Value}
    {make : Key → Except Raised (Option Value)}
    (makes : ∀ name made, make name = .ok made → ∃ cpValue, cps.get? name = some cpValue ∧
      newCp ((find name).map Prod.fst) (addresses (find name)) cpValue = .ok made)
    (eq : Json.buildDict make cps.keys = .ok newCps) : NewCps find cps newCps := by
  obtain ⟨dict, made, absent⟩ := Json.buildDict_ok eq
  have entry : ∀ name, (newCps.get? name = none ∧
        ∀ cpValue, cps.get? name = some cpValue → find name = none ∨ asksCp cpValue = false) ∨
      ∃ cpValue v, cps.get? name = some cpValue ∧ newCps.get? name = some v ∧
        (find name).isSome = true ∧ asksCp cpValue = true ∧ NewCp (find name) cpValue v := by
    intro name
    by_cases mem : name ∈ cps.keys
    · obtain ⟨cpValue, got, newEq⟩ := makes name _ (made name mem)
      rcases newCp_ok newEq with ⟨none, why⟩ | ⟨v, some, connected, asks, new⟩
      · refine Or.inl ⟨none, fun cpValue' got' => ?_⟩
        rw [got] at got'
        cases got'
        exact why
      · exact Or.inr ⟨cpValue, v, got, some, connected, asks, new⟩
    · refine Or.inl ⟨absent name mem, fun cpValue got => ?_⟩
      rw [Json.mem_keys_iff, got] at mem
      exact absurd rfl mem
  refine ⟨dict, fun name => ?_, fun name v got => ?_⟩
  · rcases entry name with ⟨none, why⟩ | ⟨cpValue, v, got, some, connected, asks, -⟩
    · refine ⟨fun isSome => by simp [none] at isSome, ?_⟩
      rintro ⟨cpValue, got, asks, connected⟩
      rcases why cpValue got with eq | eq
      · simp [eq] at connected
      · simp [eq] at asks
    · exact ⟨fun _ => ⟨cpValue, got, asks, connected⟩, fun _ => by simp [some]⟩
  · rcases entry name with ⟨none, -⟩ | ⟨cpValue, w, got', some, -, -, new⟩
    · rw [none] at got
      cases got
    · rw [some] at got
      cases got
      exact ⟨cpValue, got', new⟩

/-- The connection point that the name of a parameter stands for in the standard class. -/
def standardFind (vls : List ExtVl) (cpNameIdx : Key) : Option (String × ExtCp) :=
  match rmIdxKey cpNameIdx with
  | .ok cpName => findCp (.str cpName) vls
  | .error _ => none

lemma standard_newCps {cps newCps : Value} {req : Req} {grant : Grant}
    (eq : StandardUserData.getNewCpsFromReq cps req grant = .ok newCps) :
    NewCps (standardFind (grant.extVirtualLinks ++ req.extVirtualLinks)) cps newCps := by
  obtain ⟨names, keys, eq⟩ := bind_ok.mp eq
  obtain ⟨-, rfl⟩ := keysOf_ok.mp keys
  refine newCps_of_buildDict (fun name made eq => ?_) eq
  obtain ⟨cpName, rm, eq⟩ := bind_ok.mp eq
  obtain ⟨cpValue, got, eq⟩ := bind_ok.mp eq
  refine ⟨cpValue, item_ok.mp got, ?_⟩
  simp only [standardFind, rm]
  exact eq

lemma default_newCps (find : Key → Option (String × ExtCp)) {cps newCps : Value}
    (eq : DefaultUserData.getNewCps (fun name => (find name).map Prod.fst)
      (fun name => addresses (find name)) cps = .ok newCps) : NewCps find cps newCps := by
  obtain ⟨names, keys, eq⟩ := bind_ok.mp eq
  obtain ⟨-, rfl⟩ := keysOf_ok.mp keys
  refine newCps_of_buildDict (fun name made eq => ?_) eq
  obtain ⟨cpValue, got, eq⟩ := bind_ok.mp eq
  exact ⟨cpValue, item_ok.mp got, eq⟩

/-! ## Which members the change sets -/

/-- The names of the parameters of a connection point. -/
def IsCpParam (key : Key) : Prop :=
  key = .str "network" ∨ key = .str "fixed_ips"

/-- The members that the new connection points set in the `nfv` dictionary. -/
inductive SetsCp (params : List Value) (connected : Key → Prop) : List Key → Prop where
  | cps : SetsCp params connected ["CP"]
  | cp {name param : Key} (isParam : IsCpParam param) (asked : Asks params ["CP", name, param])
    (isConnected : connected name) : SetsCp params connected ["CP", name]
  | param {name param : Key} (isParam : IsCpParam param)
    (asked : Asks params ["CP", name, param]) (isConnected : connected name) :
    SetsCp params connected ["CP", name, param]

/-- The parameters of the connection points in the dictionary of a template. -/
lemma cps_get? {nfv cps : Value} {params : List Value} {hot : Value}
    (all : getParams hot = .ok params) (nfvEq : initNfvDict hot = .ok nfv)
    (cpsEq : cpsOf nfv = .ok cps) (name param : Key) :
    (∃ cpValue, cps.get? name = some cpValue ∧ (cpValue.get? param).isSome = true) ↔
      Asks params ["CP", name, param] := by
  obtain ⟨-, rfl⟩ := getOrEmpty_ok.mp cpsEq
  have present := (initNfvDict_ok all nfvEq).2 ["CP", name, param] (List.cons_ne_nil _ _) (by simp)
  rw [← present, Json.presentAt_cons]
  cases found : nfv.get? (.str "CP") with
  | none => simp
  | some cps =>
    simp only [Option.getD_some, Option.some.injEq, exists_eq_left']
    rw [Json.presentAt_cons]
    apply exists_congr
    intro cpValue
    rw [Json.presentAt_cons]
    simp [presentAt_nil, Option.isSome_iff_exists]

/-- What the patch with the new connection points sets. -/
lemma word_newCps {find : Key → Option (String × ExtCp)} {hot nfv cps newCps : Value}
    {params : List Value} (all : getParams hot = .ok params) (nfvEq : initNfvDict hot = .ok nfv)
    (cpsEq : cpsOf nfv = .ok cps) (new : NewCps find cps newCps) {path : List Key}
    (ne : path ≠ []) :
    ((.empty : Value).set "CP" newCps).word path = .sets ↔
      SetsCp params (fun name => (find name).isSome = true) path := by
  have asks := cps_get? all nfvEq cpsEq
  cases path with
  | nil => exact absurd rfl ne
  | cons key path =>
    rw [Json.word_cons rfl, Json.get?_single]
    by_cases isCp : key = .str "CP"
    · subst isCp
      have notNull := Json.isNull_of_isDict new.dict
      simp only [if_true, notNull, Bool.false_eq_true, if_false]
      cases path with
      | nil => exact ⟨fun _ => .cps, fun _ => Json.word_nil _⟩
      | cons name path =>
        rw [Json.word_cons new.dict]
        cases got : newCps.get? name with
        | none =>
          have none : ¬ ∃ cpValue, cps.get? name = some cpValue ∧ asksCp cpValue = true ∧
              (find name).isSome = true := by
            rw [← new.some_iff, got]
            exact Bool.false_ne_true
          refine ⟨fun sets => (by cases sets), fun sets => absurd ?_ none⟩
          cases sets with
          | @cp _ param isParam asked isConnected =>
            obtain ⟨cpValue, got, isSome⟩ := (asks name param).mpr asked
            refine ⟨cpValue, got, ?_, isConnected⟩
            rcases isParam with rfl | rfl <;> simp [asksCp, isSome]
          | @param _ param isParam asked isConnected =>
            obtain ⟨cpValue, got, isSome⟩ := (asks name param).mpr asked
            refine ⟨cpValue, got, ?_, isConnected⟩
            rcases isParam with rfl | rfl <;> simp [asksCp, isSome]
        | some v =>
          obtain ⟨cpValue, gotCp, newCp⟩ := new.new name v got
          obtain ⟨cpValue', gotCp', asksIt, isConnected⟩ :=
            (new.some_iff name).mp (by rw [got]; rfl)
          rw [gotCp] at gotCp'
          cases gotCp'
          have vNotNull := Json.isNull_of_isDict newCp.dict
          simp only [vNotNull, Bool.false_eq_true, if_false]
          cases path with
          | nil =>
            refine ⟨fun _ => ?_, fun _ => Json.word_nil _⟩
            rcases Bool.or_eq_true _ _ ▸ asksIt with isSome | isSome
            · exact .cp (.inl rfl) ((asks name _).mp ⟨cpValue, gotCp, isSome⟩) isConnected
            · exact .cp (.inr rfl) ((asks name _).mp ⟨cpValue, gotCp, isSome⟩) isConnected
          | cons param path =>
            rw [Json.word_cons newCp.dict]
            have isSome_iff := newCp.isSome_iff param
            cases gotParam : v.get? param with
            | none =>
              refine ⟨fun sets => (by cases sets), fun sets => ?_⟩
              cases sets with
              | param isParam asked _ =>
                obtain ⟨cpValue', gotCp', isSome⟩ := (asks name param).mpr asked
                rw [gotCp] at gotCp'
                cases gotCp'
                have := isSome_iff.mpr ⟨isParam, isSome⟩
                rw [gotParam] at this
                cases this
            | some w =>
              obtain ⟨wValue, wNotNull⟩ := newCp.value isConnected gotParam
              simp only [wNotNull, Bool.false_eq_true, if_false]
              cases path with
              | nil =>
                refine ⟨fun _ => ?_, fun _ => Json.word_nil _⟩
                obtain ⟨isParam, isSome⟩ := isSome_iff.mp (by rw [gotParam]; rfl)
                exact .param isParam ((asks name param).mp ⟨cpValue, gotCp, isSome⟩) isConnected
              | cons key path =>
                rw [Json.word_value_cons wValue]
                exact ⟨fun sets => (by cases sets), fun sets => (by cases sets)⟩
    · rw [if_neg isCp]
      refine ⟨fun sets => (by cases sets), fun sets => absurd ?_ isCp⟩
      cases sets <;> rfl

end Tacker.UserData
