import Tacker.Basis.MergePatch

/-!
# Heat templates in user data classes

What the user data classes of `infra_drivers/openstack` do with the template of a package: the
indexed copies of the VDU resources and the dictionary of the parameters that the template takes
from `nfv`. A template is a parsed YAML document. The keys of a dictionary are scalars or `None`, and
a truth value is the same key as its number.
-/

namespace Tacker.UserData

open Tacker.Basis

/-- A key of a dictionary. -/
inductive Key where
  | str (s : String)
  | int (n : Int)
  | none
  | other (text : String)
deriving DecidableEq, Repr

instance : Coe String Key := ⟨.str⟩

/-- A scalar; the ones that nothing is done with, such as floats, are known by their text. -/
inductive Scalar where
  | bool (b : Bool)
  | int (n : Int)
  | str (s : String)
  | other (text : String)
deriving DecidableEq, Repr

/-- A parsed YAML or JSON value. -/
abbrev Value := Json Key Scalar

/-- The Python exceptions of the scripts. -/
inductive Raised where
  | attributeError
  | keyError
  | typeError
  | indexError
  | unboundLocalError
  | valueError
deriving DecidableEq, Repr

/-- A string as a value. -/
def text (s : String) : Value := .atom (.str s)

/-- The items of a list. -/
def items : Value → Option (List Value)
  | .arr _ item => some (List.ofFn item)
  | _ => none

/-- `d.get(key, {})`, where `d` has to be a dictionary. -/
def getOrEmpty (d : Value) (key : Key) : Except Raised Value :=
  if d.isDict then .ok ((d.get? key).getD .empty) else .error .attributeError

/-- `d.keys()`, `d.values()` and `d.items()` are there for dictionaries only. -/
def keysOf (d : Value) : Except Raised (List Key) :=
  if d.isDict then .ok d.keys else .error .attributeError

/-- `d[key]`. -/
def item (d : Value) (key : Key) : Except Raised Value :=
  match d.get? key with
  | some v => .ok v
  | none => .error (if d.isDict then .keyError else .typeError)

/-- The value that is there, or the exception. -/
def orRaise {α : Type} (found : Option α) (raised : Raised) : Except Raised α :=
  (found.map Except.ok).getD (.error raised)

/-- `d[name][param] = value`. -/
def setIn (d : Value) (name param : Key) (value : Value) : Except Raised Value := do
  let entry ← item d name
  if entry.isDict then return d.set name (entry.set param value) else .error .typeError

/-! ## Indices -/

/-- `add_idx`. -/
def addIdx (name : String) (index : Nat) : String :=
  name ++ "-" ++ toString index

/-- `str.rpartition('-')` without the separator, if there is one. -/
def rpartition (s : String) : Option (String × String) :=
  match s.toList.reverse.span (· ≠ '-') with
  | (_, []) => none
  | (tail, _ :: head) => some (String.ofList head.reverse, String.ofList tail.reverse)

/-- `rm_idx`. -/
def rmIdx (nameIdx : String) : String :=
  ((rpartition nameIdx).map Prod.fst).getD ""

/-- What an f-string makes of a scalar. -/
def format : Value → Except Raised String
  | .null => .ok "None"
  | .atom (.bool b) => .ok (if b then "True" else "False")
  | .atom (.int n) => .ok (toString n)
  | .atom (.str s) => .ok s
  | .atom (.other s) => .ok s
  | _ => .error .typeError

/-- What `add_idx_to_vdu_template` does with one property: if it is a `get_param` with four or more
items, the third of them gets the index. -/
def addIdxToProp (vduIdx : Nat) (propValue : Value) : Except Raised Value :=
  if propValue.isDict then
    match (propValue.get? "get_param").bind items with
    | some (a :: b :: c :: d :: rest) => do
      let c' ← format c
      return propValue.set "get_param" (.list (a :: b :: text (addIdx c' vduIdx) :: d :: rest))
    | _ => return propValue
  else .error .attributeError

/-- `add_idx_to_vdu_template`. -/
def addIdxToVduTemplate (vduTemplate : Value) (vduIdx : Nat) : Except Raised Value := do
  let properties ← getOrEmpty vduTemplate "properties"
  let _ ← keysOf properties
  let properties' ← properties.mapValuesM fun _ propValue => addIdxToProp vduIdx propValue
  return if (vduTemplate.get? "properties").isSome then
    vduTemplate.set "properties" properties' else vduTemplate

/-! ## Parameters -/

/-- `_get_get_param`: the arguments of every `get_param` in a value. -/
def getGetParam : Value → List Value
  | .obj ks _ value => ks.flatMap fun key =>
    if key = .str "get_param" then [value key] else getGetParam (value key)
  | .arr size item => (List.finRange size).flatMap fun i => getGetParam (item i)
  | _ => []

/-- The arguments of every `get_param` in the properties of the resources of a template. -/
def getParams (hotTemplate : Value) : Except Raised (List Value) := do
  let resources ← getOrEmpty hotTemplate "resources"
  let names ← keysOf resources
  let found ← names.mapM fun name => do
    let res ← item resources name
    let properties ← getOrEmpty res "properties"
    return getGetParam properties
  return found.flatten

/-- An item of a `get_param` list as the key of a dictionary; lists and dictionaries are not
hashable. -/
def toKey : Value → Except Raised Key
  | .atom (.str s) => .ok (.str s)
  | .atom (.int n) => .ok (.int n)
  | .atom (.bool b) => .ok (.int (if b then 1 else 0))
  | .atom (.other s) => .ok (.other s)
  | .null => .ok .none
  | _ => .error .typeError

/-- The keys of a parameter of `nfv` with four or more items, `nfv` itself left out. -/
def nfvKeys (param : Value) : Except Raised (Option (List Key)) :=
  match items param with
  | some (.atom (.str "nfv") :: b :: c :: d :: rest) => some <$> (b :: c :: d :: rest).mapM toKey
  | _ => .ok none

/-- `setdefault` down to the last key, and `None` there. -/
def setNone (parent : Value) : List Key → Except Raised Value
  | [] => .ok parent
  | [last] => if parent.isDict then .ok (parent.set last .null) else .error .typeError
  | key :: ks =>
    if parent.isDict then do
      let child ← setNone ((parent.get? key).getD .empty) ks
      return parent.set key child
    else .error .attributeError

/-- One parameter of `init_nfv_dict`. -/
def addParam (nfv : Value) (param : Value) : Except Raised Value := do
  match ← nfvKeys param with
  | some ks => setNone nfv ks
  | none => return nfv

/-- `init_nfv_dict`: the parameters that the template takes from `nfv`, without values yet. -/
def initNfvDict (hotTemplate : Value) : Except Raised Value := do
  let params ← getParams hotTemplate
  params.foldlM addParam .empty

/-!
## The parameters of a template

`init_nfv_dict` makes a dictionary of dictionaries of dictionaries, and the members of these are the
parameters that some `get_param` of the template asks for.
-/

/-- The value is a dictionary, and so are its members, down to the depth. -/
def Levels : Nat → Value → Prop
  | 0, _ => True
  | depth + 1, t => t.isDict = true ∧ ∀ key v, t.get? key = some v → Levels depth v

lemma levels_empty (depth : Nat) : Levels depth .empty := by
  cases depth with
  | zero => trivial
  | succ depth => exact ⟨rfl, fun key v found => by cases found⟩

lemma Levels.le {n m : Nat} {t : Value} (levels : Levels m t) (le : n ≤ m) : Levels n t := by
  induction n generalizing m t with
  | zero => trivial
  | succ n ih =>
    cases m with
    | zero => cases le
    | succ m =>
      refine ⟨levels.1, fun key v found => ?_⟩
      exact ih (levels.2 key v found) (Nat.le_of_succ_le_succ le)

/-- What `setNone` writes at its first key. -/
lemma setNone_ok {t t' : Value} {key : Key} {ks : List Key} (eq : setNone t (key :: ks) = .ok t') :
    t.isDict = true ∧ ∃ v, t' = t.set key v ∧
      (ks ≠ [] → setNone ((t.get? key).getD .empty) ks = .ok v) := by
  cases ks with
  | nil =>
    cases dict : t.isDict with
    | false => simp [setNone, dict] at eq
    | true =>
      refine ⟨rfl, .null, ?_, fun ne => absurd rfl ne⟩
      simpa [setNone, dict] using eq.symm
  | cons key' ks =>
    cases dict : t.isDict with
    | false => simp [setNone, dict] at eq
    | true =>
      simp only [setNone, dict, if_true] at eq
      obtain ⟨v, inner, eq⟩ := bind_ok.mp eq
      exact ⟨rfl, v, (pure_ok.mp eq).symm, fun _ => inner⟩

lemma setNone_levels {t t' : Value} {ks : List Key} {depth : Nat} (levels : Levels depth t)
    (le : depth ≤ ks.length) (eq : setNone t ks = .ok t') : Levels depth t' := by
  induction ks generalizing t t' depth with
  | nil =>
    cases Nat.le_zero.mp le
    trivial
  | cons key ks ih =>
    cases depth with
    | zero => trivial
    | succ depth =>
      obtain ⟨dict, v, rfl, inner⟩ := setNone_ok eq
      refine ⟨by rw [Json.isDict_set, dict], fun key' w found => ?_⟩
      rw [Json.get?_set dict] at found
      by_cases same : key' = key
      · rw [if_pos same] at found
        cases found
        cases ks with
        | nil =>
          cases Nat.le_zero.mp (Nat.le_of_succ_le_succ le)
          trivial
        | cons key'' ks =>
          refine ih ?_ (Nat.le_of_succ_le_succ le) (inner (List.cons_ne_nil _ _))
          cases old : t.get? key with
          | none => exact levels_empty depth
          | some w => exact levels.2 key w old
      · rw [if_neg same] at found
        exact levels.2 key' w found

lemma presentAt_nil (t : Value) : t.PresentAt [] :=
  ⟨t, by simp [Json.at?]⟩

/-- A parameter adds the paths that lead to it, and no others at that depth. -/
lemma setNone_presentAt {t t' : Value} {path ks : List Key} (le : path.length ≤ ks.length)
    (eq : setNone t ks = .ok t') : t'.PresentAt path ↔ t.PresentAt path ∨ path <+: ks := by
  induction path generalizing t t' ks with
  | nil => simp [presentAt_nil]
  | cons key path ih =>
    cases ks with
    | nil => cases le
    | cons key' ks =>
      obtain ⟨dict, v, rfl, inner⟩ := setNone_ok eq
      rw [Json.presentAt_cons, Json.presentAt_cons, List.cons_prefix_cons, Json.get?_set dict]
      by_cases same : key = key'
      · subst same
        cases path with
        | nil => simp [presentAt_nil]
        | cons key'' path =>
          cases ks with
          | nil => cases Nat.le_of_succ_le_succ le
          | cons key''' ks =>
            have step := ih (Nat.le_of_succ_le_succ le) (inner (List.cons_ne_nil _ _))
            cases old : t.get? key with
            | none =>
              rw [old] at step
              have absent : ¬ Json.PresentAt (.empty : Value) (key'' :: path) := by
                rw [Json.presentAt_cons]
                rintro ⟨w, found, -⟩
                cases found
              simpa [absent] using step
            | some w =>
              rw [old] at step
              simpa using step
      · simp [same]

/-- The template asks for the parameter, or for one below it. -/
def Asks (params : List Value) (path : List Key) : Prop :=
  ∃ param ∈ params, ∃ ks, nfvKeys param = .ok (some ks) ∧ path <+: ks

lemma nfvKeys_length {param : Value} {ks : List Key} (eq : nfvKeys param = .ok (some ks)) :
    3 ≤ ks.length := by
  unfold nfvKeys at eq
  split at eq
  · rename_i b c d rest items
    obtain ⟨ks', keys, eq⟩ := map_ok.mp eq
    cases eq
    rw [mapM_ok_length keys]
    simp
  · cases eq

lemma addParam_ok {nfv nfv' param : Value} (levels : Levels 3 nfv)
    (eq : addParam nfv param = .ok nfv') :
    Levels 3 nfv' ∧ ∀ path, path.length ≤ 3 →
      (nfv'.PresentAt path ↔ nfv.PresentAt path ∨ Asks [param] path) := by
  obtain ⟨found, keys, eq⟩ := bind_ok.mp eq
  cases found with
  | none =>
    obtain rfl := pure_ok.mp eq
    refine ⟨levels, fun path _ => ?_⟩
    simp [Asks, keys]
  | some ks =>
    have le := nfvKeys_length keys
    refine ⟨setNone_levels levels le eq, fun path short => ?_⟩
    rw [setNone_presentAt (Nat.le_trans short le) eq]
    simp [Asks, keys]

/-- The dictionary of the parameters has three levels, and the members down there are those that
the template asks for. -/
theorem initNfvDict_ok {hot nfv : Value} {params : List Value} (all : getParams hot = .ok params)
    (eq : initNfvDict hot = .ok nfv) :
    Levels 3 nfv ∧ ∀ path, path ≠ [] → path.length ≤ 3 → (nfv.PresentAt path ↔ Asks params path) := by
  have fold : ∀ (params : List Value) (start nfv : Value), Levels 3 start →
      params.foldlM addParam start = .ok nfv →
      Levels 3 nfv ∧ ∀ path, path.length ≤ 3 →
        (nfv.PresentAt path ↔ start.PresentAt path ∨ Asks params path) := by
    intro params
    induction params with
    | nil =>
      intro start nfv levels eq
      obtain rfl := foldlM_nil_ok.mp eq
      exact ⟨levels, fun path _ => by simp [Asks]⟩
    | cons param params ih =>
      intro start nfv levels eq
      obtain ⟨next, step, eq⟩ := foldlM_cons_ok.mp eq
      obtain ⟨levels', present⟩ := addParam_ok levels step
      obtain ⟨levels'', present'⟩ := ih next nfv levels' eq
      refine ⟨levels'', fun path short => ?_⟩
      rw [present' path short, present path short, or_assoc]
      simp [Asks]
  rw [initNfvDict, all] at eq
  obtain ⟨levels, present⟩ := fold params .empty nfv (levels_empty 3) eq
  refine ⟨levels, fun path ne short => ?_⟩
  rw [present path short]
  have absent : ¬ Json.PresentAt (.empty : Value) path := by
    cases path with
    | nil => exact absurd rfl ne
    | cons key path =>
      rw [Json.presentAt_cons]
      rintro ⟨v, found, -⟩
      cases found
  simp [absent]

/-- A dictionary of parameters is one of a template whose parameters are known. -/
lemma getParams_of_initNfvDict {hot nfv : Value} (eq : initNfvDict hot = .ok nfv) :
    ∃ params, getParams hot = .ok params := by
  obtain ⟨params, all, -⟩ := bind_ok.mp eq
  exact ⟨params, all⟩

end Tacker.UserData
