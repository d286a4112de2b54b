import Tacker.UserData.NewCps

/-!
# What external managed virtual links make of a template

The links act on each resource on its own: the network of a link and its subnets are taken out, and
in the other resources the references to the network become the identifier of the first link of
that name.
-/

namespace Tacker.UserData

open Tacker.Basis

lemma rel_bind_get? {s t : Option Value} (rel : Option.Rel Json.Same s t) (key : Key) :
    Option.Rel Json.Same (s.bind fun v => v.get? key) (t.bind fun v => v.get? key) := by
  cases rel with
  | none => exact .none
  | some same => exact same.get? key

/-! ## Resource by resource -/

/-- What links make of the resource of a name: what is left of it, if anything. -/
def treatRes (name : Key) : List ExtManagedVl → Value → Except Raised (Option Value)
  | [], res => .ok (some res)
  | vl :: vls, res => do
    let isSubnet ← isSubnetOf vl.vnfVirtualLinkDescId res
    if name = .str vl.vnfVirtualLinkDescId ∨ isSubnet = true then return none
    else treatRes name vls (change vl.vnfVirtualLinkDescId vl.resourceId res)

/-- The resource of a name in a template. -/
def resource (hot : Value) (name : Key) : Option Value :=
  (hot.get? "resources").bind fun resources => resources.get? name

lemma popRes_ok {resources left : Value} {name : Key} (eq : popRes resources name = .ok left) :
    left = resources.del name := by
  unfold popRes at eq
  cases found : (resources.get? name).isSome with
  | true => simpa [found] using eq.symm
  | false => simp [found] at eq

lemma foldlM_popRes_ok {names : List Key} {resources left : Value}
    (eq : names.foldlM popRes resources = .ok left) :
    left.isDict = resources.isDict ∧
      ∀ name, left.get? name = if name ∈ names then none else resources.get? name := by
  induction names generalizing resources with
  | nil =>
    obtain rfl := foldlM_nil_ok.mp eq
    exact ⟨rfl, fun name => rfl⟩
  | cons name₀ names ih =>
    obtain ⟨next, step, eq⟩ := foldlM_cons_ok.mp eq
    obtain rfl := popRes_ok step
    obtain ⟨dict, get⟩ := ih eq
    refine ⟨by rw [dict, Json.isDict_del], fun name => ?_⟩
    rw [get name, Json.get?_del]
    by_cases same : name = name₀ <;> simp [same]

/-- The names to delete are those of the network and of its subnets. -/
lemma delReses_ok {vlName : String} {resources : Value} {names : List Key}
    (eq : delReses vlName resources = .ok names) :
    ∀ name res, resources.get? name = some res → ∃ isSubnet, isSubnetOf vlName res = .ok isSubnet ∧
      (name ∈ names ↔ name = .str vlName ∨ isSubnet = true) := by
  intro name res found
  obtain ⟨lists, each, eq⟩ := bind_ok.mp eq
  obtain rfl := pure_ok.mp eq
  have mem : name ∈ resources.keys := by rw [Json.mem_keys_iff, found]; rfl
  obtain ⟨list, made⟩ := mapM_ok_of_mem each mem
  obtain ⟨isSubnet, checked, -⟩ := bind_ok.mp made
  rw [found, Option.getD_some] at checked
  refine ⟨isSubnet, checked, ?_⟩
  constructor
  · intro inNames
    obtain ⟨list', inLists, inList⟩ := List.mem_flatten.mp inNames
    obtain ⟨name', -, made'⟩ := (mem_of_mapM_ok each).mp inLists
    obtain ⟨isSubnet', checked', made'⟩ := bind_ok.mp made'
    obtain rfl := pure_ok.mp made'
    have same : name = name' := by
      rcases List.mem_append.mp inList with inList | inList
      · by_cases eq : name' = .str vlName
        · simpa [eq] using inList
        · simp [eq] at inList
      · cases isSubnet' <;> simp at inList
        exact inList
    subst same
    rw [found, Option.getD_some, checked] at checked'
    cases checked'
    rcases List.mem_append.mp inList with inList | inList
    · by_cases eq : name = .str vlName
      · exact Or.inl eq
      · simp [eq] at inList
    · cases isSubnet with
      | true => exact Or.inr rfl
      | false => simp at inList
  · intro why
    obtain ⟨isSubnet', checked', eq⟩ := bind_ok.mp made
    rw [found, Option.getD_some, checked] at checked'
    cases checked'
    obtain rfl := pure_ok.mp eq
    apply List.mem_flatten.mpr
    refine ⟨_, (mem_of_mapM_ok each).mpr ⟨name, mem, made⟩, ?_⟩
    rcases why with rfl | rfl <;> simp

/-- A template that links made of another one: only the resources differ, each in its own way. -/
structure Treated (vls : List ExtManagedVl) (hot hot' : Value) : Prop where
  isDict : hot'.isDict = hot.isDict
  value : hot.isDict = false → hot' = hot
  others : ∀ key, key ≠ .str "resources" → hot'.get? key = hot.get? key
  resources : hot'.get? "resources" = hot.get? "resources" ∨
    ∃ r r', hot.get? "resources" = some r ∧ r.isDict = true ∧
      hot'.get? "resources" = some r' ∧ r'.isDict = true
  absent : ∀ name, resource hot name = none → resource hot' name = none
  treated : ∀ name res, resource hot name = some res →
    treatRes name vls res = .ok (resource hot' name)

/-- What one link makes of the template. -/
lemma applyExtManagedVl_ok {hot hot' : Value} {vl : ExtManagedVl}
    (eq : applyExtManagedVl hot vl = .ok hot') : Treated [vl] hot hot' := by
  obtain ⟨resources, got, eq⟩ := bind_ok.mp eq
  obtain ⟨dict, rfl⟩ := getOrEmpty_ok.mp got
  obtain ⟨keys, isKeys, eq⟩ := bind_ok.mp eq
  obtain ⟨resDict, -⟩ := keysOf_ok.mp isKeys
  obtain ⟨names, toDelete, eq⟩ := bind_ok.mp eq
  obtain ⟨changed, changedEq, eq⟩ := bind_ok.mp eq
  obtain ⟨left, popped, eq⟩ := bind_ok.mp eq
  obtain rfl := pure_ok.mp eq
  obtain ⟨changedDict, changedSome, changedNone⟩ := Json.mapValuesM_ok resDict changedEq
  obtain ⟨leftDict, leftGet⟩ := foldlM_popRes_ok popped
  cases found : hot.get? "resources" with
  | none =>
    rw [if_neg (by simp)]
    constructor
    · rfl
    · exact fun _ => rfl
    · exact fun _ _ => rfl
    · exact Or.inl rfl
    · exact fun _ absent => absent
    · intro name res got
      simp [resource, found] at got
  | some resources =>
    rw [found, Option.getD_some] at resDict changedSome changedNone toDelete
    rw [if_pos (by simp)]
    have after : ∀ name, resource (hot.set "resources" left) name = left.get? name := by
      intro name
      simp [resource, Json.get?_set dict]
    have before : ∀ name, resource hot name = resources.get? name := by
      intro name
      simp [resource, found]
    constructor
    · rw [Json.isDict_set]
    · intro value
      rw [value] at dict
      cases dict
    · intro key ne
      rw [Json.get?_set dict, if_neg ne]
    · refine Or.inr ⟨resources, left, found, resDict, ?_, by rw [leftDict, changedDict]⟩
      rw [Json.get?_set dict, if_pos rfl]
    · intro name absent
      rw [after, leftGet, changedNone name (by rw [← before, absent]), ite_self]
    · intro name res got
      rw [before] at got
      obtain ⟨isSubnet, checked, mem⟩ := delReses_ok toDelete name res got
      obtain ⟨v, made, gotV⟩ := changedSome name res got
      cases made
      rw [after, leftGet, treatRes]
      apply bind_ok.mpr
      refine ⟨isSubnet, checked, ?_⟩
      simp only [mem, gotV]
      by_cases gone : name = .str vl.vnfVirtualLinkDescId ∨ isSubnet = true
      · rw [if_pos gone, if_pos gone]
        rfl
      · rw [if_neg gone, if_neg gone]
        rfl

/-- A link before the others acts on each resource before them. -/
lemma Treated.cons {vl : ExtManagedVl} {vls : List ExtManagedVl} {hot mid hot' : Value}
    (first : Treated [vl] hot mid) (rest : Treated vls mid hot') : Treated (vl :: vls) hot hot' := by
  constructor
  · rw [rest.isDict, first.isDict]
  · intro value
    rw [rest.value (by rw [first.isDict, value]), first.value value]
  · intro key ne
    rw [rest.others key ne, first.others key ne]
  · rcases first.resources with same | ⟨r, r', got, dict, got', dict'⟩
    · rw [← same]
      exact rest.resources
    · rcases rest.resources with same | ⟨-, r'', -, -, got'', dict''⟩
      · exact Or.inr ⟨r, r', got, dict, by rw [same, got'], dict'⟩
      · exact Or.inr ⟨r, r'', got, dict, got'', dict''⟩
  · intro name absent
    exact rest.absent name (first.absent name absent)
  · intro name res got
    obtain ⟨isSubnet, checked, step⟩ := bind_ok.mp (first.treated name res got)
    rw [treatRes]
    apply bind_ok.mpr
    refine ⟨isSubnet, checked, ?_⟩
    by_cases gone : name = .str vl.vnfVirtualLinkDescId ∨ isSubnet = true
    · rw [if_pos gone] at step ⊢
      have none := (pure_ok.mp step).symm
      rw [rest.absent name none]
      rfl
    · rw [if_neg gone] at step ⊢
      have some := (Except.ok.inj step).symm
      exact rest.treated name _ some

/-- What links make of the template, resource by resource. -/
theorem applyExtManagedVls_ok {hot hot' : Value} {vls : List ExtManagedVl}
    (eq : applyExtManagedVls hot vls = .ok hot') : Treated vls hot hot' := by
  induction vls generalizing hot with
  | nil =>
    obtain rfl := foldlM_nil_ok.mp eq
    exact ⟨rfl, fun _ => rfl, fun _ _ => rfl, .inl rfl, fun _ absent => absent, fun _ _ got => got ▸ rfl⟩
  | cons vl vls ih =>
    obtain ⟨mid, step, eq⟩ := foldlM_cons_ok.mp eq
    exact (applyExtManagedVl_ok step).cons (ih eq)

lemma Treated.resources_dict {vls : List ExtManagedVl} {hot hot' r : Value}
    (treated : Treated vls hot hot') (got : hot.get? "resources" = some r) (dict : r.isDict = true) :
    ∃ r', hot'.get? "resources" = some r' ∧ r'.isDict = true := by
  rcases treated.resources with same | ⟨-, r', -, -, got', dict'⟩
  · exact ⟨r, by rw [same, got], dict⟩
  · exact ⟨r', got', dict'⟩

lemma Treated.resources_same {vls : List ExtManagedVl} {hot hot' : Value}
    (treated : Treated vls hot hot')
    (value : ∀ r, hot.get? "resources" = some r → r.isDict = false) :
    hot'.get? "resources" = hot.get? "resources" := by
  rcases treated.resources with same | ⟨r, -, got, dict, -, -⟩
  · exact same
  · rw [value r got] at dict
    cases dict

lemma resource_eq {hot r : Value} (got : hot.get? "resources" = some r) (name : Key) :
    resource hot name = r.get? name := by
  rw [resource, got, Option.bind_some]

/-- Two templates made of the same one are the same if each resource is. -/
lemma Treated.same_iff {vls vls' : List ExtManagedVl} {hot a b : Value}
    (left : Treated vls hot a) (right : Treated vls' hot b) :
    a.Same b ↔ ∀ name, Option.Rel Json.Same (resource a name) (resource b name) := by
  cases dict : hot.isDict with
  | false =>
    rw [left.value dict, right.value dict]
    exact ⟨fun _ name => Json.same_rel_refl _, fun _ => Json.Same.refl _⟩
  | true =>
    rw [Json.same_iff (by rw [left.isDict, dict]) (by rw [right.isDict, dict])]
    constructor
    · intro all name
      exact rel_bind_get? (all "resources") name
    · intro all key
      by_cases isResources : key = .str "resources"
      · subst isResources
        by_cases isDict : ∃ r, hot.get? "resources" = some r ∧ r.isDict = true
        · obtain ⟨r, got, dict⟩ := isDict
          obtain ⟨r₁, got₁, dict₁⟩ := left.resources_dict got dict
          obtain ⟨r₂, got₂, dict₂⟩ := right.resources_dict got dict
          rw [got₁, got₂]
          apply Option.Rel.some
          apply (Json.same_iff dict₁ dict₂).mpr
          intro name
          rw [← resource_eq got₁, ← resource_eq got₂]
          exact all name
        · have value : ∀ r, hot.get? "resources" = some r → r.isDict = false := by
            intro r got
            cases dict : r.isDict with
            | false => rfl
            | true => exact absurd ⟨r, got, dict⟩ isDict
          rw [left.resources_same value, right.resources_same value]
          exact Json.same_rel_refl _
      · rw [left.others key isResources, right.others key isResources]
        exact Json.same_rel_refl _

/-! ## References -/

/-- The link that a value refers to. -/
def refName (value : Value) : Option String :=
  if value.keys = [.str "get_resource"] then
    match value.get? "get_resource" with
    | some (.atom (.str s)) => some s
    | _ => none
  else none

lemma isGetResource_iff {vlName : String} {value : Value} :
    isGetResource vlName value = true ↔ refName value = some vlName := by
  unfold isGetResource refName
  by_cases keys : value.keys = [.str "get_resource"]
  · simp only [keys, decide_true, Bool.true_and, if_true]
    cases value.get? "get_resource" with
    | none => simp
    | some v =>
      cases v with
      | atom a => cases a <;> simp
      | _ => simp
  · simp [keys]

/-- The link is referred to in a member of the value, at any depth. -/
def RefersTo (vlName : String) : Value → Prop
  | .obj ks _ value => ∃ key ∈ ks, refName (value key) = some vlName ∨ RefersTo vlName (value key)
  | _ => False

/-- The arguments of `get_resource` are no dictionaries, at any depth. -/
def PlainArgs : Value → Prop
  | .obj ks _ value => ∀ key ∈ ks,
      (key = .str "get_resource" → (value key).isDict = false) ∧ PlainArgs (value key)
  | _ => True

/-- The network that a link of the name stands for: that of the first such link. -/
def networkOf (vls : List ExtManagedVl) (vlName : String) : Option String :=
  (vls.find? fun vl => vl.vnfVirtualLinkDescId = vlName).map (·.resourceId)

/-- A reference to a link that stands for a network is replaced by it, another one is kept. -/
def replaceRef (network : String → Option String) (value other : Value) : Value :=
  match refName value with
  | some vlName => ((network vlName).map text).getD value
  | none => other

/-- The value with every reference to a link replaced. -/
def rewrite (network : String → Option String) : Value → Value
  | .obj ks unique value => .obj ks unique fun key =>
    replaceRef network (value key) (rewrite network (value key))
  | value => value

variable {vlName networkId : String} {t v : Value} {network network' : String → Option String}

/-- A reference has one member, which is a name. -/
lemma refName_eq_some {name : String} (eq : refName v = some name) :
    v.keys = [.str "get_resource"] ∧ v.get? "get_resource" = some (text name) := by
  unfold refName at eq
  by_cases keys : v.keys = [.str "get_resource"]
  · rw [if_pos keys] at eq
    split at eq
    · rename_i s found
      cases eq
      exact ⟨keys, found⟩
    · cases eq
  · rw [if_neg keys] at eq
    cases eq

lemma replaceRef_some {name : String} {other : Value} (eq : refName v = some name) :
    replaceRef network v other = ((network name).map text).getD v := by
  rw [replaceRef, eq]

lemma replaceRef_none {other : Value} (eq : refName v = none) :
    replaceRef network v other = other := by
  rw [replaceRef, eq]

lemma isDict_of_refName {name : String} (eq : refName v = some name) : v.isDict = true :=
  Json.isDict_of_get? (refName_eq_some eq).2

/-- The members of a reference. -/
lemma get?_of_refName {name : String} (eq : refName v = some name) {key : Key} {w : Value}
    (found : v.get? key = some w) : key = .str "get_resource" ∧ w = text name := by
  obtain ⟨keys, arg⟩ := refName_eq_some eq
  have mem : key ∈ v.keys := by rw [Json.mem_keys_iff, found]; rfl
  rw [keys] at mem
  obtain rfl := List.mem_singleton.mp mem
  rw [arg] at found
  exact ⟨rfl, (Option.some.inj found).symm⟩

lemma refName_value (value : v.isDict = false) : refName v = none := by
  cases eq : refName v with
  | none => rfl
  | some name => rw [isDict_of_refName eq] at value; cases value

lemma isGetResource_value (value : v.isDict = false) : isGetResource vlName v = false := by
  cases eq : isGetResource vlName v with
  | false => rfl
  | true =>
    have isRef := isGetResource_iff.mp eq
    rw [refName_value value] at isRef
    cases isRef

lemma change_value (value : v.isDict = false) : change vlName networkId v = v := by
  cases v with
  | obj ks unique value' => cases value
  | _ => rfl

@[simp] lemma isDict_change : (change vlName networkId v).isDict = v.isDict := by
  cases v <;> rfl

@[simp] lemma keys_change : (change vlName networkId v).keys = v.keys := by
  cases v <;> rfl

/-- What becomes of a member. -/
lemma get?_change {key : Key} :
    (change vlName networkId v).get? key = (v.get? key).map fun w =>
      if isGetResource vlName w then text networkId else change vlName networkId w := by
  cases v with
  | obj ks unique value => by_cases mem : key ∈ ks <;> simp [change, Json.get?, mem]
  | _ => rfl

lemma PlainArgs.get? (plain : PlainArgs v) {key : Key} {w : Value} (found : v.get? key = some w) :
    PlainArgs w ∧ (key = .str "get_resource" → w.isDict = false) := by
  cases v with
  | obj ks unique value =>
    by_cases mem : key ∈ ks
    · simp only [Json.get?, mem, if_true, Option.some.injEq] at found
      subst found
      exact (plain key mem).symm
    · simp [Json.get?, mem] at found
  | _ => cases found

/-- A value that is no reference does not become one. -/
lemma refName_change (plain : ∀ arg, v.get? "get_resource" = some arg → arg.isDict = false) :
    refName (change vlName networkId v) = refName v := by
  unfold refName
  rw [keys_change, get?_change]
  cases found : v.get? "get_resource" with
  | none => rfl
  | some arg =>
    have value := plain arg found
    rw [Option.map_some, isGetResource_value value, change_value value]
    rfl

/-- A reference to another link stays as it is. -/
lemma same_change_of_refName {name : String} (eq : refName v = some name) :
    (change vlName networkId v).Same v := by
  have dict := isDict_of_refName eq
  rw [Json.same_iff (by rw [isDict_change, dict]) dict]
  intro key
  rw [get?_change]
  cases found : v.get? key with
  | none => exact .none
  | some w =>
    obtain ⟨-, rfl⟩ := get?_of_refName eq found
    exact .some (Json.Same.refl _)

lemma PlainArgs.change (plain : PlainArgs v) : PlainArgs (change vlName networkId v) := by
  induction v with
  | obj ks unique value ih =>
    intro key mem
    obtain ⟨arg, inner⟩ := plain key mem
    by_cases isRef : isGetResource vlName (value key) = true
    · simp only [isRef, if_true]
      exact ⟨fun _ => rfl, trivial⟩
    · simp only [isRef, Bool.false_eq_true, if_false]
      refine ⟨fun eq => ?_, ih key inner⟩
      rw [isDict_change]
      exact arg eq
  | _ => trivial

/-- Without links nothing is rewritten. -/
lemma same_rewrite_none : (rewrite (fun _ => none) t).Same t := by
  induction t with
  | obj ks unique value ih =>
    intro key
    refine ⟨Iff.rfl, fun _ => ?_⟩
    show Json.Same (replaceRef _ (value key) _) (value key)
    cases ref : refName (value key) with
    | none =>
      rw [replaceRef_none ref]
      exact ih key
    | some name =>
      rw [replaceRef_some ref]
      exact Json.Same.refl _
  | _ => exact Json.Same.refl _

lemma isGetResource_of_refName {name : String} (eq : refName v = some name) :
    isGetResource vlName v = decide (name = vlName) := by
  rw [Bool.eq_iff_iff, isGetResource_iff, eq, decide_eq_true_iff, Option.some.injEq]

lemma isGetResource_of_none (eq : refName v = none) : isGetResource vlName v = false := by
  rw [Bool.eq_false_iff, Ne, isGetResource_iff, eq]
  intro isSome
  cases isSome

/-- The first link of a name decides what the references to it become. -/
lemma same_rewrite_change (plain : PlainArgs t) :
    (rewrite network (change vlName networkId t)).Same
      (rewrite (Function.update network vlName (some networkId)) t) := by
  induction t with
  | obj ks unique value ih =>
    intro key
    refine ⟨Iff.rfl, fun mem => ?_⟩
    obtain ⟨-, inner⟩ := plain key mem
    have member : ∀ w, w = (if isGetResource vlName (value key) then text networkId
        else change vlName networkId (value key)) →
        (replaceRef network w (rewrite network w)).Same
          (replaceRef (Function.update network vlName (some networkId)) (value key)
            (rewrite (Function.update network vlName (some networkId)) (value key))) := by
      intro w eq
      cases ref : refName (value key) with
      | none =>
        rw [isGetResource_of_none ref, if_neg Bool.false_ne_true] at eq
        have still : refName w = none := by
          rw [eq, refName_change fun arg found => (inner.get? found).2 rfl, ref]
        rw [replaceRef_none still, replaceRef_none ref, eq]
        exact ih key inner
      | some name =>
        rw [isGetResource_of_refName ref] at eq
        rw [replaceRef_some ref]
        by_cases same : name = vlName
        · rw [if_pos (decide_eq_true same)] at eq
          rw [eq, replaceRef_none rfl, same, Function.update_self]
          exact Json.Same.refl _
        · rw [if_neg (by simpa using same)] at eq
          have still : refName w = some name := by
            rw [eq, refName_change fun arg found => by rw [(get?_of_refName ref found).2]; rfl, ref]
          rw [replaceRef_some still, Function.update_of_ne same]
          cases network name with
          | none =>
            rw [eq]
            exact same_change_of_refName ref
          | some id => exact Json.Same.refl _
    exact member _ rfl
  | _ => exact Json.Same.refl _

/-- A reference refers to nothing below it. -/
lemma not_refersTo_of_refName {name : String} (eq : refName v = some name) :
    ¬ RefersTo vlName v := by
  cases v with
  | obj ks unique value =>
    rintro ⟨key, mem, refers⟩
    have found : (Json.obj ks unique value).get? key = some (value key) := by
      simp [Json.get?, mem]
    rw [(get?_of_refName eq found).2] at refers
    rcases refers with isRef | refers
    · cases isRef
    · exact refers
  | _ => exact fun refers => refers.elim

/-- A value is rewritten alike exactly if the networks of the links it refers to are the same. -/
lemma same_rewrite_iff :
    (rewrite network t).Same (rewrite network' t) ↔
      ∀ vlName, RefersTo vlName t → network vlName = network' vlName := by
  induction t with
  | obj ks unique value ih =>
    have member : ∀ key, (replaceRef network (value key) (rewrite network (value key))).Same
          (replaceRef network' (value key) (rewrite network' (value key))) ↔
        ∀ vlName, refName (value key) = some vlName ∨ RefersTo vlName (value key) →
          network vlName = network' vlName := by
      intro key
      cases ref : refName (value key) with
      | none =>
        rw [replaceRef_none ref, replaceRef_none ref, ih key]
        simp
      | some name =>
        rw [replaceRef_some ref, replaceRef_some ref]
        simp only [Option.some.injEq, not_refersTo_of_refName ref, or_false, forall_eq']
        have dict := isDict_of_refName ref
        cases network name with
        | none =>
          cases network' name with
          | none => exact ⟨fun _ => rfl, fun _ => Json.Same.refl _⟩
          | some id' =>
            refine ⟨fun same => ?_, fun eq => by cases eq⟩
            have eq : (value key).isDict = false := same.isDict
            rw [dict] at eq
            cases eq
        | some id =>
          cases network' name with
          | none =>
            refine ⟨fun same => ?_, fun eq => by cases eq⟩
            have eq : false = (value key).isDict := same.isDict
            rw [dict] at eq
            cases eq
          | some id' =>
            show Scalar.str id = Scalar.str id' ↔ some id = some id'
            simp
    constructor
    · rintro same vlName ⟨key, mem, refers⟩
      exact (member key).mp ((same key).2 mem) vlName refers
    · intro all key
      refine ⟨Iff.rfl, fun mem => (member key).mpr fun vlName refers => ?_⟩
      exact all vlName ⟨key, mem, refers⟩
  | _ => exact ⟨fun _ vlName refers => refers.elim, fun _ => Json.Same.refl _⟩

/-! ## Networks and subnets -/

/-- A string that was found. -/
def asStr : Option Value → Option String
  | some (.atom (.str s)) => some s
  | _ => none

/-- The link that a subnet is part of. -/
def subnetNet (res : Value) : Option String :=
  if asStr (res.get? "type") = some "OS::Neutron::Subnet" then
    asStr (res.at? ["properties", "network", "get_resource"])
  else none

/-- The links take the resource out of the template: it is the network of one or a subnet of it. -/
def Deletes (vls : List ExtManagedVl) (name : Key) (res : Value) : Prop :=
  ∃ vl ∈ vls, name = .str vl.vnfVirtualLinkDescId ∨ subnetNet res = some vl.vnfVirtualLinkDescId

/-- A resource as Heat accepts it: its type is no dictionary, and the arguments of `get_resource` in
it are none either. -/
structure HotRes (res : Value) : Prop where
  plain : PlainArgs res
  type : ∀ v, res.get? "type" = some v → v.isDict = false

lemma isSubnetOf_ok {res : Value} {isSubnet : Bool} (eq : isSubnetOf vlName res = .ok isSubnet) :
    isSubnet = true ↔ subnetNet res = some vlName := by
  obtain ⟨type, found, eq⟩ := bind_ok.mp eq
  rw [subnetNet, item_ok.mp found]
  split at eq
  · obtain ⟨properties, gotProperties, eq⟩ := bind_ok.mp eq
    obtain ⟨-, rfl⟩ := getOrEmpty_ok.mp gotProperties
    obtain ⟨net, gotNet, eq⟩ := bind_ok.mp eq
    obtain ⟨-, rfl⟩ := getOrEmpty_ok.mp gotNet
    have path : res.at? ["properties", "network", "get_resource"] =
        ((((res.get? "properties").getD .empty).get? "network").getD .empty).get?
          "get_resource" := by
      rw [Json.at?_cons]
      cases res.get? "properties" with
      | none => rfl
      | some properties =>
        rw [Option.bind_some, Json.at?_cons, Option.getD_some]
        cases properties.get? "network" with
        | none => rfl
        | some network => simp [Json.at?_cons]
    have isType : asStr (some (.atom (.str "OS::Neutron::Subnet"))) = some "OS::Neutron::Subnet" := rfl
    rw [if_pos isType, path]
    split at eq
    · split at eq
      · rename_i net found
        cases eq
        simp [found, asStr]
      · rename_i other
        cases eq
        cases arg : (((((res.get? "properties").getD .empty).get? "network").getD .empty).get?
            "get_resource" : Option Value) with
        | none => simp [asStr]
        | some v =>
          cases v with
          | atom a =>
            cases a with
            | str s => exact absurd arg (other s)
            | _ => simp [asStr]
          | _ => simp [asStr]
    · cases eq
  · rename_i other
    cases eq
    have notSubnet : asStr (some type) ≠ some "OS::Neutron::Subnet" := by
      cases type with
      | atom a =>
        cases a with
        | str s =>
          intro eq
          simp only [asStr, Option.some.injEq] at eq
          exact other (by rw [eq])
        | _ => simp [asStr]
      | _ => simp [asStr]
    simp [notSubnet]

lemma HotRes.change {res : Value} (hot : HotRes res) :
    HotRes (change vlName networkId res) := by
  constructor
  · exact hot.plain.change
  · intro v found
    rw [get?_change] at found
    obtain ⟨type, old, rfl⟩ := Option.map_eq_some_iff.mp found
    have value := hot.type type old
    rw [isGetResource_value value, if_neg Bool.false_ne_true, isDict_change, value]

/-- A resource that is no subnet of the link stays the subnet that it is. -/
lemma subnetNet_change {res : Value} (hot : HotRes res) (ne : subnetNet res ≠ some vlName) :
    subnetNet (change vlName networkId res) = subnetNet res := by
  have type : asStr ((change vlName networkId res).get? "type") = asStr (res.get? "type") := by
    rw [get?_change]
    cases found : res.get? "type" with
    | none => rfl
    | some v =>
      have value := hot.type v found
      rw [Option.map_some, isGetResource_value value, change_value value, if_neg Bool.false_ne_true]
  unfold subnetNet at ne ⊢
  rw [type]
  by_cases isSubnet : asStr (res.get? "type") = some "OS::Neutron::Subnet"
  · rw [if_pos isSubnet] at ne ⊢
    rw [if_pos isSubnet]
    rw [Json.at?_cons, get?_change]
    rw [Json.at?_cons] at ne ⊢
    cases foundP : res.get? "properties" with
    | none => rfl
    | some properties =>
      rw [foundP, Option.bind_some] at ne
      rw [Option.map_some, Option.bind_some, Option.bind_some]
      have plainP := (hot.plain.get? foundP).1
      by_cases refP : isGetResource vlName properties = true
      · rw [if_pos refP]
        have absent : properties.get? "network" = none := by
          cases foundN : properties.get? "network" with
          | none => rfl
          | some network =>
            have eq := (get?_of_refName (isGetResource_iff.mp refP) foundN).1
            simp at eq
        rw [Json.at?_cons, Json.at?_cons, absent]
        rfl
      · rw [if_neg refP, Json.at?_cons, get?_change]
        rw [Json.at?_cons] at ne ⊢
        cases foundN : properties.get? "network" with
        | none => rfl
        | some network =>
          rw [foundN, Option.bind_some] at ne
          rw [Option.map_some, Option.bind_some, Option.bind_some]
          have plainN := (plainP.get? foundN).1
          by_cases refN : isGetResource vlName network = true
          · have arg := (refName_eq_some (isGetResource_iff.mp refN)).2
            rw [Json.at?_cons, arg] at ne
            exact absurd rfl ne
          · rw [if_neg refN, Json.at?_cons, Json.at?_cons, get?_change]
            cases foundA : network.get? "get_resource" with
            | none => rfl
            | some arg =>
              have value := (plainN.get? foundA).2 rfl
              rw [Option.map_some, isGetResource_value value, change_value value,
                if_neg Bool.false_ne_true]
  · rw [if_neg isSubnet, if_neg isSubnet]

lemma deletes_cons {vl : ExtManagedVl} {vls : List ExtManagedVl} {name : Key} {res : Value} :
    Deletes (vl :: vls) name res ↔
      (name = .str vl.vnfVirtualLinkDescId ∨ subnetNet res = some vl.vnfVirtualLinkDescId) ∨
        Deletes vls name res := by
  simp [Deletes]

lemma networkOf_cons {vl : ExtManagedVl} {vls : List ExtManagedVl} :
    networkOf (vl :: vls) =
      Function.update (networkOf vls) vl.vnfVirtualLinkDescId (some vl.resourceId) := by
  funext vlName
  by_cases same : vlName = vl.vnfVirtualLinkDescId
  · subst same
    simp [networkOf]
  · have ne : vl.vnfVirtualLinkDescId ≠ vlName := fun eq => same eq.symm
    simp [networkOf, same, ne]

/-- Links delete a resource, or replace the references in it. -/
theorem treatRes_ok {vls : List ExtManagedVl} {name : Key} {res : Value} {left : Option Value}
    (hot : HotRes res) (eq : treatRes name vls res = .ok left) :
    (Deletes vls name res → left = none) ∧
      (¬ Deletes vls name res → ∃ v, left = some v ∧ v.Same (rewrite (networkOf vls) res)) := by
  induction vls generalizing res with
  | nil =>
    cases eq
    refine ⟨fun deletes => ?_, fun _ => ⟨res, rfl, same_rewrite_none.symm⟩⟩
    obtain ⟨vl, mem, -⟩ := deletes
    cases mem
  | cons vl vls ih =>
    rw [treatRes] at eq
    obtain ⟨isSubnet, checked, eq⟩ := bind_ok.mp eq
    have isNet := or_congr_right (a := name = .str vl.vnfVirtualLinkDescId) (isSubnetOf_ok checked)
    rw [deletes_cons]
    by_cases gone : name = .str vl.vnfVirtualLinkDescId ∨ subnetNet res =
        some vl.vnfVirtualLinkDescId
    · rw [if_pos (isNet.mpr gone)] at eq
      obtain rfl := pure_ok.mp eq
      exact ⟨fun _ => rfl, fun kept => absurd (Or.inl gone) kept⟩
    · rw [if_neg fun why => gone (isNet.mp why)] at eq
      obtain ⟨deleted, kept⟩ := ih hot.change eq
      have same : Deletes vls name (change vl.vnfVirtualLinkDescId vl.resourceId res) ↔
          Deletes vls name res := by
        unfold Deletes
        rw [subnetNet_change hot fun isNet => gone (Or.inr isNet)]
      rw [same] at deleted kept
      refine ⟨fun deletes => ?_, fun notDeleted => ?_⟩
      · rcases deletes with now | later
        · exact absurd now gone
        · exact deleted later
      · obtain ⟨v, eq, sameV⟩ := kept fun later => notDeleted (Or.inr later)
        refine ⟨v, eq, ?_⟩
        rw [networkOf_cons]
        exact sameV.trans (same_rewrite_change hot.plain)

end Tacker.UserData
