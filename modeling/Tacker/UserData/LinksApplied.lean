import Tacker.UserData.References

/-!
# Links that are applied to a template

When links can be applied at all, and when what they make of a template is what they ought to make
of it: `_change` passes over lists, the resources of a template are looked at only, and nobody cares
for the references to the subnets that are taken out.
-/

namespace Tacker.UserData

open Tacker.Basis

variable {vls : List ExtManagedVl} {vl : ExtManagedVl} {hot hot' resources : Value} {vlName : String}
  {name : Key} {res v : Value}

/-! ## Templates -/

/-- A resource definition as Heat accepts it: it has a type, the arguments of `get_resource` in it
are no dictionaries, and its properties as a whole are no reference. -/
structure ResDef (res : Value) : Prop where
  type : ∃ type, res.get? "type" = some (text type)
  plain : PlainArgs res
  properties : ∀ properties, res.get? "properties" = some properties → refName properties = none

/-- A template as Heat accepts it. -/
structure Hot (hot : Value) : Prop where
  isDict : hot.isDict = true
  resources : ∀ resources, hot.get? "resources" = some resources → resources.isDict = true
  each : ∀ name res, resource hot name = some res → ResDef res

lemma ResDef.hotRes (wf : ResDef res) : HotRes res := by
  refine ⟨wf.plain, fun v found => ?_⟩
  obtain ⟨type, eq⟩ := wf.type
  rw [eq] at found
  rw [← Option.some.inj found]
  rfl

lemma ResDef.isDict (wf : ResDef res) : res.isDict = true := by
  obtain ⟨type, eq⟩ := wf.type
  exact Json.isDict_of_get? eq

/-- A resource definition as a whole is no reference. -/
lemma ResDef.refName_eq (wf : ResDef res) : refName res = none := by
  cases ref : refName res with
  | none => rfl
  | some other =>
    obtain ⟨type, eq⟩ := wf.type
    exact absurd (get?_of_refName ref eq).1 (by decide)

lemma ResDef.change {networkId : String} (wf : ResDef res) :
    ResDef (change vlName networkId res) := by
  refine ⟨?_, wf.plain.change, ?_⟩
  · obtain ⟨type, eq⟩ := wf.type
    exact ⟨type, by rw [get?_change, eq]; rfl⟩
  · intro properties found
    rw [get?_change] at found
    obtain ⟨old, eq, rfl⟩ := Option.map_eq_some_iff.mp found
    have none := wf.properties old eq
    rw [isGetResource_of_none none, if_neg Bool.false_ne_true,
      refName_change fun arg found => ((wf.plain.get? eq).1.get? found).2 rfl, none]

/-! ## Subnets that can be looked at -/

/-- The properties of the resource, if it is a subnet, and its network are dictionaries. -/
def Readable (res : Value) : Prop :=
  asStr (res.get? "type") = some "OS::Neutron::Subnet" →
    ∀ properties, res.get? "properties" = some properties → properties.isDict = true ∧
      ∀ net, properties.get? "network" = some net → net.isDict = true

/-- Whether a resource is a subnet of the link can be told exactly if the resource is readable. -/
lemma isSubnetOf_total (vlName : String) (wf : ResDef res) :
    (∃ isSubnet, isSubnetOf vlName res = .ok isSubnet) ↔ Readable res := by
  obtain ⟨type, typed⟩ := wf.type
  unfold Readable
  rw [typed]
  constructor
  · rintro ⟨isSubnet, ok⟩ isType properties found
    obtain rfl := Option.some.inj isType
    obtain ⟨type', got, ok⟩ := bind_ok.mp ok
    rw [item_ok.mpr typed] at got
    obtain rfl := Except.ok.inj got
    obtain ⟨properties', got, ok⟩ := bind_ok.mp ok
    obtain ⟨-, rfl⟩ := getOrEmpty_ok.mp got
    obtain ⟨network, got, ok⟩ := bind_ok.mp ok
    obtain ⟨dict, rfl⟩ := getOrEmpty_ok.mp got
    rw [found, Option.getD_some] at dict ok
    refine ⟨dict, fun net found' => ?_⟩
    rw [found', Option.getD_some] at ok
    cases netDict : net.isDict with
    | true => rfl
    | false =>
      rw [netDict, if_neg Bool.false_ne_true] at ok
      cases ok
  · intro readable
    cases result : isSubnetOf vlName res with
    | ok isSubnet => exact ⟨isSubnet, rfl⟩
    | error raised =>
      unfold isSubnetOf at result
      rw [item_ok.mpr typed] at result
      simp only [bind, Except.bind] at result
      split at result
      · case h_1 isType =>
        have readable := readable (congrArg (fun v => asStr (some v)) isType)
        have dict : ((res.get? "properties").getD .empty).isDict = true := by
          cases found : res.get? "properties" with
          | none => rfl
          | some properties => exact (readable properties found).1
        have netDict : ((((res.get? "properties").getD .empty).get? "network").getD .empty).isDict =
            true := by
          cases found : res.get? "properties" with
          | none => rfl
          | some properties =>
            rw [Option.getD_some]
            cases found' : properties.get? "network" with
            | none => rfl
            | some net => exact (readable properties found).2 net found'
        simp only [getOrEmpty, wf.isDict, dict, netDict, if_true] at result
        split at result
        · cases result
        · cases result
      · cases result

/-- A resource stays readable under links that it is no subnet of. -/
lemma Readable.changed {networkId : String} (wf : ResDef res) (readable : Readable res)
    (ne : subnetNet res ≠ some vlName) : Readable (change vlName networkId res) := by
  intro isSubnet properties found
  have type : asStr ((change vlName networkId res).get? "type") = asStr (res.get? "type") := by
    obtain ⟨type, eq⟩ := wf.type
    rw [get?_change, eq]
    rfl
  rw [type] at isSubnet
  rw [get?_change] at found
  obtain ⟨old, eq, rfl⟩ := Option.map_eq_some_iff.mp found
  obtain ⟨dict, nets⟩ := readable isSubnet old eq
  rw [isGetResource_of_none (wf.properties old eq), if_neg Bool.false_ne_true]
  refine ⟨by rw [isDict_change, dict], fun net found => ?_⟩
  rw [get?_change] at found
  obtain ⟨oldNet, eq', rfl⟩ := Option.map_eq_some_iff.mp found
  by_cases isRef : isGetResource vlName oldNet = true
  · -- the resource is a subnet of the link then
    have arg := (refName_eq_some (isGetResource_iff.mp isRef)).2
    rw [subnetNet, if_pos isSubnet, Json.at?_cons, eq, Option.bind_some, Json.at?_cons, eq',
      Option.bind_some, Json.at?_cons, arg] at ne
    exact absurd rfl ne
  · rw [if_neg isRef, isDict_change]
    exact nets oldNet eq'

/-! ## Names that can be popped -/

lemma foldlM_popRes_total {names : List Key} :
    (∃ left, names.foldlM popRes resources = .ok left) ↔
      names.Nodup ∧ ∀ name ∈ names, (resources.get? name).isSome = true := by
  induction names generalizing resources with
  | nil =>
    refine ⟨fun _ => ⟨List.nodup_nil, fun name mem => by cases mem⟩, fun _ => ⟨resources, rfl⟩⟩
  | cons name names ih =>
    have step : ∀ left, (name :: names).foldlM popRes resources = .ok left ↔
        (resources.get? name).isSome = true ∧ names.foldlM popRes (resources.del name) = .ok left := by
      intro left
      rw [foldlM_cons_ok]
      unfold popRes
      by_cases isSome : (resources.get? name).isSome = true
      · simp [isSome]
      · simp [isSome]
    simp only [step, exists_and_left, ih, List.nodup_cons, List.forall_mem_cons, Json.get?_del]
    constructor
    · rintro ⟨isSome, unique, all⟩
      refine ⟨⟨fun mem => ?_, unique⟩, isSome, fun other mem => ?_⟩
      · simpa using all name mem
      · have here := all other mem
        by_cases same : other = name
        · simp [same] at here
        · rwa [if_neg same] at here
    · rintro ⟨⟨fresh, unique⟩, isSome, all⟩
      refine ⟨isSome, unique, fun other mem => ?_⟩
      have ne : other ≠ name := fun eq => fresh (eq ▸ mem)
      rw [if_neg ne]
      exact all other mem

/-- The names of one resource in `del_reses`. -/
def delNames (vlName : String) (resources : Value) (name : Key) : List Key :=
  (if name = .str vlName then [name] else []) ++
    if subnetNet ((resources.get? name).getD .null) = some vlName then [name] else []

lemma mem_delNames {other : Key} (mem : other ∈ delNames vlName resources name) : other = name := by
  rcases List.mem_append.mp mem with mem | mem
  · by_cases isName : name = .str vlName
    · rw [if_pos isName] at mem
      exact List.mem_singleton.mp mem
    · rw [if_neg isName] at mem
      cases mem
  · by_cases isSubnet : subnetNet ((resources.get? name).getD .null) = some vlName
    · rw [if_pos isSubnet] at mem
      exact List.mem_singleton.mp mem
    · rw [if_neg isSubnet] at mem
      cases mem

lemma delReses_eq {names : List Key} (eq : delReses vlName resources = .ok names) :
    names = resources.keys.flatMap (delNames vlName resources) := by
  obtain ⟨lists, each, eq⟩ := bind_ok.mp eq
  obtain rfl := pure_ok.mp eq
  rw [← List.map_id lists, map_of_mapM_ok (h := delNames vlName resources) each]
  · rfl
  · intro name mem list made
    obtain ⟨isSubnet, checked, made⟩ := bind_ok.mp made
    obtain rfl := pure_ok.mp made
    show _ ++ _ = delNames vlName resources name
    unfold delNames
    congr 1
    by_cases isNet : isSubnet = true
    · rw [if_pos isNet, if_pos ((isSubnetOf_ok checked).mp isNet)]
    · rw [if_neg isNet, if_neg fun eq => isNet ((isSubnetOf_ok checked).mpr eq)]

/-- No name is there twice exactly if the network is no subnet of itself. -/
lemma nodup_names : (resources.keys.flatMap (delNames vlName resources)).Nodup ↔
    ∀ name res, resources.get? name = some res →
      ¬ (name = .str vlName ∧ subnetNet res = some vlName) := by
  rw [List.nodup_flatMap]
  constructor
  · rintro ⟨each, -⟩ name res found ⟨isName, isSubnet⟩
    have mem : name ∈ resources.keys := by rw [Json.mem_keys_iff, found]; rfl
    have unique := each name mem
    rw [delNames, found, Option.getD_some, if_pos isName, if_pos isSubnet] at unique
    simp at unique
  · intro not
    refine ⟨fun name mem => ?_, ?_⟩
    · obtain ⟨res, found⟩ := Option.isSome_iff_exists.mp (Json.mem_keys_iff.mp mem)
      rw [delNames, found, Option.getD_some]
      by_cases isName : name = .str vlName
      · rw [if_neg fun isSubnet => not name res found ⟨isName, isSubnet⟩, List.append_nil,
          if_pos isName]
        exact List.nodup_singleton name
      · rw [if_neg isName, List.nil_append]
        by_cases isSubnet : subnetNet res = some vlName
        · rw [if_pos isSubnet]
          exact List.nodup_singleton name
        · rw [if_neg isSubnet]
          exact List.nodup_nil
    · apply (Json.unique_keys resources).imp
      intro name other ne here there there'
      exact ne ((mem_delNames there).symm.trans (mem_delNames there'))

/-! ## One link -/

/-- The link can be applied to the resource: it can be told whether it is a subnet of it, and the
network is no subnet of itself. -/
def Applicable (vlName : String) (name : Key) (res : Value) : Prop :=
  Readable res ∧ ¬ (name = .str vlName ∧ subnetNet res = some vlName)

lemma delReses_total (vlName : String) (each : ∀ name res, resources.get? name = some res → ResDef res) :
    (∃ names, delReses vlName resources = .ok names) ↔
      ∀ name res, resources.get? name = some res → Readable res := by
  constructor
  · rintro ⟨names, eq⟩ name res found
    obtain ⟨isSubnet, checked, -⟩ := delReses_ok eq name res found
    exact (isSubnetOf_total vlName (each name res found)).mp ⟨isSubnet, checked⟩
  · intro readable
    have all : ∀ name ∈ resources.keys, ∃ list : List Key, (do
        let isSubnet ← isSubnetOf vlName ((resources.get? name).getD .null)
        return (if name = .str vlName then [name] else []) ++ (if isSubnet then [name] else []) :
          Except Raised (List Key)) = .ok list := by
      intro name mem
      obtain ⟨res, found⟩ := Option.isSome_iff_exists.mp (Json.mem_keys_iff.mp mem)
      obtain ⟨isSubnet, checked⟩ :=
        (isSubnetOf_total vlName (each name res found)).mpr (readable name res found)
      rw [found, Option.getD_some]
      exact ⟨_, bind_ok.mpr ⟨isSubnet, checked, rfl⟩⟩
    obtain ⟨lists, eq⟩ := mapM_ok_total.mpr all
    exact ⟨lists.flatten, bind_ok.mpr ⟨lists, eq, rfl⟩⟩

/-- A link can be applied exactly if it can be applied to every resource. -/
lemma applyExtManagedVl_total (wf : Hot hot) : (∃ hot', applyExtManagedVl hot vl = .ok hot') ↔
    ∀ name res, resource hot name = some res → Applicable vl.vnfVirtualLinkDescId name res := by
  have dict : ((hot.get? "resources").getD .empty).isDict = true := by
    cases found : hot.get? "resources" with
    | none => rfl
    | some resources => exact wf.resources resources found
  have same : ∀ name, resource hot name = ((hot.get? "resources").getD .empty).get? name := by
    intro name
    unfold resource
    cases hot.get? "resources" with
    | none => rfl
    | some resources => rfl
  have each : ∀ name res, ((hot.get? "resources").getD .empty).get? name = some res →
      ResDef res := by
    intro name res found
    exact wf.each name res (by rw [same, found])
  simp only [same]
  constructor
  · rintro ⟨hot', eq⟩
    obtain ⟨resources, got, eq⟩ := bind_ok.mp eq
    obtain ⟨-, rfl⟩ := getOrEmpty_ok.mp got
    obtain ⟨keys, -, eq⟩ := bind_ok.mp eq
    obtain ⟨names, toDelete, eq⟩ := bind_ok.mp eq
    obtain ⟨changed, changedEq, eq⟩ := bind_ok.mp eq
    obtain ⟨left, popped, -⟩ := bind_ok.mp eq
    have unique := (foldlM_popRes_total.mp ⟨left, popped⟩).1
    rw [delReses_eq toDelete, nodup_names] at unique
    have readable := (delReses_total _ each).mp ⟨names, toDelete⟩
    exact fun name res found => ⟨readable name res found, unique name res found⟩
  · intro applicable
    obtain ⟨names, toDelete⟩ := (delReses_total vl.vnfVirtualLinkDescId each).mpr
      fun name res found => (applicable name res found).1
    obtain ⟨changed, changedEq⟩ := Json.mapValuesM_total
      (f := fun _ res => (.ok (change vl.vnfVirtualLinkDescId vl.resourceId res) : Except Raised Value))
      (t := (hot.get? "resources").getD .empty) fun _ res _ => ⟨_, rfl⟩
    obtain ⟨-, changedSome, -⟩ := Json.mapValuesM_ok dict changedEq
    have popped : ∃ left, names.foldlM popRes changed = .ok left := by
      rw [foldlM_popRes_total, delReses_eq toDelete]
      refine ⟨nodup_names.mpr fun name res found => (applicable name res found).2, ?_⟩
      intro name mem
      obtain ⟨other, there, mem⟩ := List.mem_flatMap.mp mem
      obtain rfl := mem_delNames mem
      obtain ⟨res, found⟩ := Option.isSome_iff_exists.mp (Json.mem_keys_iff.mp there)
      obtain ⟨v, -, got⟩ := changedSome name res found
      rw [got]
      rfl
    obtain ⟨left, popped⟩ := popped
    refine ⟨if (hot.get? "resources").isSome then hot.set "resources" left else hot, ?_⟩
    apply bind_ok.mpr
    refine ⟨_, getOrEmpty_ok.mpr ⟨wf.isDict, rfl⟩, ?_⟩
    apply bind_ok.mpr
    refine ⟨_, keysOf_ok.mpr ⟨dict, rfl⟩, ?_⟩
    apply bind_ok.mpr
    refine ⟨names, toDelete, ?_⟩
    apply bind_ok.mpr
    refine ⟨changed, changedEq, ?_⟩
    exact bind_ok.mpr ⟨left, popped, rfl⟩

/-! ## All links -/

/-- What a link leaves of a resource that it does not take out. -/
lemma Treated.one (treated : Treated [vl] hot hot') (found : resource hot name = some res) :
    resource hot' name =
      if name = .str vl.vnfVirtualLinkDescId ∨ subnetNet res = some vl.vnfVirtualLinkDescId then none
      else some (change vl.vnfVirtualLinkDescId vl.resourceId res) := by
  obtain ⟨isSubnet, checked, eq⟩ := bind_ok.mp (treated.treated name res found)
  have iff := isSubnetOf_ok checked
  by_cases gone : name = .str vl.vnfVirtualLinkDescId ∨ isSubnet = true
  · rw [if_pos gone] at eq
    rw [if_pos (gone.imp_right iff.mp)]
    exact (pure_ok.mp eq).symm
  · rw [if_neg gone] at eq
    rw [if_neg fun why => gone (why.imp_right iff.mpr)]
    exact (Except.ok.inj eq).symm

/-- A resource that is there after a link was there before. -/
lemma Treated.before (treated : Treated [vl] hot hot')
    (found : resource hot' name = some v) : ∃ res, resource hot name = some res ∧
      ¬ (name = .str vl.vnfVirtualLinkDescId ∨ subnetNet res = some vl.vnfVirtualLinkDescId) ∧
      v = change vl.vnfVirtualLinkDescId vl.resourceId res := by
  cases old : resource hot name with
  | none =>
    rw [treated.absent name old] at found
    cases found
  | some res =>
    rw [treated.one old] at found
    by_cases gone : name = .str vl.vnfVirtualLinkDescId ∨
        subnetNet res = some vl.vnfVirtualLinkDescId
    · rw [if_pos gone] at found
      cases found
    · rw [if_neg gone] at found
      exact ⟨res, rfl, gone, (Option.some.inj found).symm⟩

/-- A link leaves a template that Heat accepts. -/
lemma Treated.wellFormed (treated : Treated [vl] hot hot') (wf : Hot hot) : Hot hot' := by
  refine ⟨by rw [treated.isDict, wf.isDict], fun resources found => ?_, fun name v found => ?_⟩
  · rcases treated.resources with same | ⟨r, r', -, -, found', dict⟩
    · exact wf.resources resources (same ▸ found)
    · rw [found'] at found
      exact Option.some.inj found ▸ dict
  · obtain ⟨res, old, -, rfl⟩ := treated.before found
    exact (wf.each name res old).change

/-- So do links. -/
lemma Hot.applied (wf : Hot hot) (eq : applyExtManagedVls hot vls = .ok hot') : Hot hot' := by
  induction vls generalizing hot with
  | nil =>
    obtain rfl := foldlM_nil_ok.mp eq
    exact wf
  | cons vl vls ih =>
    obtain ⟨mid, step, eq⟩ := foldlM_cons_ok.mp eq
    exact ih ((applyExtManagedVl_ok step).wellFormed wf) eq

/-- The links after the first one can be applied to what it leaves exactly if they could be
applied to the template itself. -/
lemma Treated.applicable (treated : Treated [vl] hot hot') (wf : Hot hot)
    (first : ∀ name res, resource hot name = some res →
      Applicable vl.vnfVirtualLinkDescId name res) (vlName : String) :
    (∀ name res, resource hot' name = some res → Applicable vlName name res) ↔
      ∀ name res, resource hot name = some res → Applicable vlName name res := by
  constructor
  · intro all name res found
    refine ⟨(first name res found).1, ?_⟩
    rintro ⟨isName, isSubnet⟩
    by_cases same : vlName = vl.vnfVirtualLinkDescId
    · subst same
      exact (first name res found).2 ⟨isName, isSubnet⟩
    · have kept : ¬ (name = .str vl.vnfVirtualLinkDescId ∨
          subnetNet res = some vl.vnfVirtualLinkDescId) := by
        rintro (isOther | isOther)
        · rw [isName] at isOther
          injection isOther with eq
          exact same eq
        · rw [isSubnet] at isOther
          exact same (Option.some.inj isOther)
      have left := treated.one found
      rw [if_neg kept] at left
      apply (all name _ left).2
      refine ⟨isName, ?_⟩
      rw [subnetNet_change (wf.each name res found).hotRes fun eq => kept (.inr eq), isSubnet]
  · intro all name v found
    obtain ⟨res, old, kept, rfl⟩ := treated.before found
    have defined := wf.each name res old
    obtain ⟨readable, not⟩ := all name res old
    refine ⟨readable.changed defined fun eq => kept (.inr eq), ?_⟩
    rw [subnetNet_change defined.hotRes fun eq => kept (.inr eq)]
    exact not

/-- Links can be applied exactly if each of them can be applied to every resource. -/
theorem applyExtManagedVls_total (wf : Hot hot) :
    (∃ hot', applyExtManagedVls hot vls = .ok hot') ↔
      ∀ vl ∈ vls, ∀ name res, resource hot name = some res →
        Applicable vl.vnfVirtualLinkDescId name res := by
  induction vls generalizing hot with
  | nil =>
    refine ⟨fun _ vl mem => ?_, fun _ => ⟨hot, rfl⟩⟩
    cases mem
  | cons vl vls ih =>
    rw [List.forall_mem_cons]
    constructor
    · rintro ⟨hot', eq⟩
      obtain ⟨mid, step, eq⟩ := foldlM_cons_ok.mp eq
      have first := (applyExtManagedVl_total wf).mp ⟨mid, step⟩
      have treated := applyExtManagedVl_ok step
      refine ⟨first, fun other mem => ?_⟩
      exact (treated.applicable wf first _).mp ((ih (treated.wellFormed wf)).mp ⟨hot', eq⟩ other mem)
    · rintro ⟨first, rest⟩
      obtain ⟨mid, step⟩ := (applyExtManagedVl_total wf).mpr first
      have treated := applyExtManagedVl_ok step
      obtain ⟨hot', eq⟩ := (ih (treated.wellFormed wf)).mpr fun other mem =>
        (treated.applicable wf first _).mpr (rest other mem)
      exact ⟨hot', foldlM_cons_ok.mpr ⟨mid, step, eq⟩⟩

end Tacker.UserData
