import Tacker.UserData.LinkEffects
import Tacker.UserData.Default

/-!
# The resources of the VDUs in a template

Which resources the standard class adds to the template of the package, and which ones the patches
that delete resources take away.
-/

namespace Tacker.UserData

open Tacker.Basis

/-! ## Adding -/

lemma setRes_ok {hot hot' res : Value} {name : String} (eq : setRes hot name res = .ok hot') :
    hot.isDict = true ∧ hot'.isDict = true ∧
      (∀ key, key ≠ .str "resources" → hot'.get? key = hot.get? key) ∧
      ∀ key, resource hot' key = if key = .str name then some res else resource hot key := by
  obtain ⟨resources, got, eq⟩ := bind_ok.mp eq
  have got := item_ok.mp got
  have dict := Json.isDict_of_get? got
  cases inner : resources.isDict with
  | false => simp [inner] at eq
  | true =>
    rw [if_pos inner] at eq
    obtain rfl := pure_ok.mp eq
    refine ⟨dict, by rw [Json.isDict_set, dict], fun key ne => ?_, fun key => ?_⟩
    · rw [Json.get?_set dict, if_neg ne]
    · rw [resource, Json.get?_set dict, if_pos rfl, Option.bind_some, Json.get?_set inner,
        resource_eq got]

/-- A VDU resource is added under its name. -/
lemma addVduRes_ok {p : Popped} {hot hot' : Value} {vduName : String} {vduIdx : Nat}
    (eq : addVduRes p hot vduName vduIdx = .ok hot') :
    hot'.isDict = hot.isDict ∧ (∀ key, key ≠ .str "resources" → hot'.get? key = hot.get? key) ∧
      ∃ vdu res, p.vdu vduName = .ok vdu ∧ addIdxToVduTemplate vdu vduIdx = .ok res ∧
        ∀ key, resource hot' key =
          if key = .str (addIdx vduName vduIdx) then some res else resource hot key := by
  obtain ⟨vdu, found, eq⟩ := bind_ok.mp eq
  obtain ⟨res, made, eq⟩ := bind_ok.mp eq
  obtain ⟨dict, dict', others, get⟩ := setRes_ok eq
  exact ⟨by rw [dict, dict'], others, vdu, res, found, made, get⟩

/-- The VDU resources of some indices, added one after the other. -/
def addAll (p : Popped) (hot : Value) (added : List (String × Nat)) : Except Raised Value :=
  added.foldlM (fun hot vdu => addVduRes p hot vdu.1 vdu.2) hot

/-- The resource was made from that of some VDU. -/
def IsVduRes (p : Popped) (res : Value) : Prop :=
  ∃ vduName vduIdx vdu, p.vdu vduName = .ok vdu ∧ addIdxToVduTemplate vdu vduIdx = .ok res

/-- The template with VDU resources is as before elsewhere. -/
lemma addAll_ok {p : Popped} {hot hot' : Value} {added : List (String × Nat)}
    (eq : addAll p hot added = .ok hot') :
    hot'.isDict = hot.isDict ∧ (∀ key, key ≠ .str "resources" → hot'.get? key = hot.get? key) ∧
      (∀ key, (∀ vdu ∈ added, key ≠ .str (addIdx vdu.1 vdu.2)) →
        resource hot' key = resource hot key) ∧
      ∀ vdu ∈ added, ∃ res, resource hot' (addIdx vdu.1 vdu.2) = some res ∧ IsVduRes p res := by
  induction added generalizing hot with
  | nil =>
    obtain rfl := foldlM_nil_ok.mp eq
    exact ⟨rfl, fun _ _ => rfl, fun _ _ => rfl, by simp⟩
  | cons first added ih =>
    obtain ⟨next, step, eq⟩ := foldlM_cons_ok.mp eq
    obtain ⟨dict, others, vdu, made, found, isMade, get⟩ := addVduRes_ok step
    obtain ⟨dict', others', same, there⟩ := ih eq
    refine ⟨by rw [dict', dict], fun key ne => by rw [others' key ne, others key ne],
      fun key fresh => ?_, fun vdu' mem => ?_⟩
    · obtain ⟨ne, fresh⟩ := List.forall_mem_cons.mp fresh
      rw [same key fresh, get key, if_neg ne]
    · rcases List.mem_cons.mp mem with rfl | mem
      · by_cases again : ∃ vdu'' ∈ added, addIdx vdu'.1 vdu'.2 = addIdx vdu''.1 vdu''.2
        · obtain ⟨vdu'', mem, eq⟩ := again
          rw [eq]
          exact there vdu'' mem
        · refine ⟨made, ?_, vdu'.1, vdu'.2, vdu, found, isMade⟩
          rw [same, get, if_pos rfl]
          intro vdu'' mem eq
          exact again ⟨vdu'', mem, Key.str.inj eq⟩
      · exact there vdu' mem

/-- The names of added resources. -/
def namesOf (added : List (ResourceDef × Nat)) : List String :=
  added.map fun res => addIdx res.1.resourceTemplateId res.2

lemma addHot_eq {p : Popped} {added : List (ResourceDef × Nat)} :
    addHot p added = addAll p p.hot (added.map fun res => (res.1.resourceTemplateId, res.2)) := by
  rw [addHot, addAll, List.foldlM_map]

/-- The template with the added VDU resources is as before elsewhere. -/
lemma addHot_ok {p : Popped} {added : List (ResourceDef × Nat)} {hot : Value}
    (eq : addHot p added = .ok hot) :
    hot.isDict = p.hot.isDict ∧ (∀ key, key ≠ .str "resources" → hot.get? key = p.hot.get? key) ∧
      (∀ key, (∀ name ∈ namesOf added, key ≠ .str name) → resource hot key = resource p.hot key) ∧
      ∀ name ∈ namesOf added, ∃ res, resource hot name = some res ∧ IsVduRes p res := by
  rw [addHot_eq] at eq
  obtain ⟨dict, others, same, there⟩ := addAll_ok eq
  refine ⟨dict, others, fun key fresh => same key fun vdu mem => ?_, fun name mem => ?_⟩
  · obtain ⟨res, inAdded, rfl⟩ := List.mem_map.mp mem
    exact fresh _ (List.mem_map.mpr ⟨res, inAdded, rfl⟩)
  · obtain ⟨res, inAdded, rfl⟩ := List.mem_map.mp mem
    exact there (res.1.resourceTemplateId, res.2) (List.mem_map.mpr ⟨res, inAdded, rfl⟩)

/-- The VDU and the index of each recorded VNFC that has one. -/
def recordedVdus (inst : Inst) : List (String × Nat) :=
  inst.vnfcResourceInfo.filterMap fun instVnfc =>
    instVnfc.vduIdx.map fun vduIdx => (instVnfc.vduId, vduIdx)

/-- The template of the instance has a resource for each recorded VNFC. -/
lemma instHot_ok {vnfd : Vnfd} {inst : Inst} {hot : Value} (eq : instHot vnfd inst = .ok hot) :
    ∃ p, popVdus vnfd inst.flavourId = .ok p ∧ addAll p p.hot (recordedVdus inst) = .ok hot := by
  obtain ⟨p, popped, eq⟩ := bind_ok.mp eq
  refine ⟨p, popped, ?_⟩
  have loop : ∀ (vnfcs : List VnfcResourceInfo) (start : Value),
      vnfcs.foldlM (addInstVnfc p) start = .ok hot →
      addAll p start (vnfcs.filterMap fun instVnfc =>
        instVnfc.vduIdx.map fun vduIdx => (instVnfc.vduId, vduIdx)) = .ok hot := by
    intro vnfcs
    induction vnfcs with
    | nil => exact fun start eq => eq
    | cons vnfc vnfcs ih =>
      intro start eq
      obtain ⟨next, step, eq⟩ := foldlM_cons_ok.mp eq
      rw [List.filterMap_cons]
      cases idx : vnfc.vduIdx with
      | none =>
        rw [addInstVnfc, idx] at step
        cases step
        exact ih start eq
      | some vduIdx =>
        rw [addInstVnfc, idx] at step
        exact foldlM_cons_ok.mpr ⟨next, step, ih next eq⟩
  exact loop inst.vnfcResourceInfo p.hot eq

/-! ## Deleting -/

/-- The names that the rollback of a scale-out deletes are those of the resources it added. -/
lemma rolledBackNames_ok {vduNodes : List String} {next : String → Nat} {reses : List ResourceDef}
    {names : List String} (eq : StandardUserData.rolledBackNames vduNodes next reses = .ok names) :
    names = namesOf (numberVdus vduNodes next reses) := by
  induction reses generalizing next names with
  | nil =>
    cases eq
    rfl
  | cons res reses ih =>
    unfold StandardUserData.rolledBackNames at eq
    unfold numberVdus
    by_cases compute : res.type = "COMPUTE"
    · rw [if_pos compute] at eq
      by_cases isVdu : res.resourceTemplateId ∈ vduNodes
      · rw [if_pos isVdu] at eq
        obtain ⟨rest, restEq, eq⟩ := bind_ok.mp eq
        obtain rfl := pure_ok.mp eq
        rw [if_pos ⟨compute, isVdu⟩, ih restEq]
        rfl
      · rw [if_neg isVdu] at eq
        cases eq
    · rw [if_neg compute] at eq
      rw [if_neg fun both => compute both.1]
      exact ih eq

/-- A dictionary of entries that are all `null`. -/
lemma get?_dict_null {names : List String} {key : Key} :
    (Json.dict (names.map fun name => (Key.str name, (.null : Value)))).get? key =
      if ∃ name ∈ names, key = .str name then some .null else none := by
  have loop : ∀ (names : List String) (start : Value), start.isDict = true →
      ((names.map fun name => (Key.str name, (.null : Value))).foldl
        (fun t entry => t.set entry.1 entry.2) start).get? key =
        if ∃ name ∈ names, key = .str name then some .null else start.get? key := by
    intro names
    induction names with
    | nil => simp
    | cons name names ih =>
      intro start dict
      rw [List.map_cons, List.foldl_cons, ih _ (by rw [Json.isDict_set, dict]),
        Json.get?_set dict]
      by_cases mem : ∃ name ∈ names, key = .str name
      · have mem' : ∃ n ∈ name :: names, key = .str n := by
          obtain ⟨n, mem, eq⟩ := mem
          exact ⟨n, List.mem_cons_of_mem _ mem, eq⟩
        rw [if_pos mem, if_pos mem']
      · rw [if_neg mem]
        by_cases same : key = .str name
        · rw [if_pos same, if_pos ⟨name, List.mem_cons_self, same⟩]
        · rw [if_neg same, if_neg]
          rintro ⟨n, inNames, eq⟩
          rcases List.mem_cons.mp inNames with rfl | inNames
          · exact same eq
          · exact mem ⟨n, inNames, eq⟩
  exact loop names .empty rfl

lemma isDict_dict_null (names : List String) :
    (Json.dict (names.map fun name => (Key.str name, (.null : Value)))).isDict = true := by
  have loop : ∀ (names : List String) (start : Value), start.isDict = true →
      ((names.map fun name => (Key.str name, (.null : Value))).foldl
        (fun t entry => t.set entry.1 entry.2) start).isDict = true := by
    intro names
    induction names with
    | nil => exact fun start dict => dict
    | cons name names ih =>
      intro start dict
      exact ih _ (by rw [Json.isDict_set, dict])
  exact loop names .empty rfl

/-- The resources that are left of a template after some were deleted. -/
lemma resource_deleting {template : Value} {names : List String} {key : Key} :
    resource (template.jsonMergePatch (StandardUserData.deleting names)) key =
      if ∃ name ∈ names, key = .str name then none else resource template key := by
  have patch : StandardUserData.deleting names = Json.empty.set (.str "resources")
      (Json.dict (names.map fun name => (Key.str name, (.null : Value)))) := rfl
  have notNull := Json.isNull_of_isDict (isDict_dict_null names)
  rw [patch, resource, Json.get?_jsonMergePatch_single notNull, if_pos rfl, Option.bind_some,
    Json.get?_jsonMergePatch (isDict_dict_null names), get?_dict_null]
  by_cases mem : ∃ name ∈ names, key = .str name
  · rw [if_pos mem, if_pos mem]
    rfl
  · rw [if_neg mem, if_neg mem]
    show (Json.asDict _).get? key = _
    rw [Json.get?_asDict, resource, Json.get?_asDict]
    cases template.get? "resources" with
    | none => rfl
    | some resources => rfl

/-- A resource after one of the same name was laid over it, if there is one. -/
def laidOver (old : Option Value) : Option Value → Option Value
  | none => old
  | some v => Json.patchAt old v

/-- The resources of a template after another one was laid over it. -/
lemma resource_jsonMergePatch {template patch resources : Value} (dict : patch.isDict = true)
    (got : patch.get? "resources" = some resources) (inner : resources.isDict = true) (key : Key) :
    resource (template.jsonMergePatch patch) key =
      laidOver (resource template key) (resource patch key) := by
  have notNull := Json.isNull_of_isDict inner
  have old : (((template.asDict.get? "resources").getD .null).asDict).get? key =
      resource template key := by
    rw [Json.get?_asDict, resource, Json.get?_asDict]
    cases template.get? "resources" <;> rfl
  rw [resource, Json.get?_jsonMergePatch_some dict got notNull, Option.bind_some,
    Json.get?_jsonMergePatch inner, ← resource_eq got, old]
  cases resource patch key <;> rfl

/-! ## Scale-out -/

/-- The template that a scale-out lays over the one of the stack, and what comes of that. -/
lemma scaleOut_template {csar : Csar} {req : Req} {inst : Inst} {grantReq : GrantReq} {grant : Grant}
    {fields : Fields} (eq : StandardUserData.scaleOut csar req inst grantReq grant = .ok fields) :
    ∃ p hot template, popVdus (csar inst.vnfdId) inst.flavourId = .ok p ∧
      addHot p (addedBy csar inst grantReq) = .ok hot ∧
      applyExtManagedVls hot inst.extManagedVirtualLinkInfo = .ok template ∧
      ∀ stack key, resource (updateFields stack fields).template key =
        laidOver (resource stack.template key) (resource template key) := by
  rw [StandardUserData.scaleOut] at eq
  obtain ⟨⟨added, hot⟩, addedEq, eq⟩ := bind_ok.mp eq
  obtain ⟨asked, askedEq, eq⟩ := bind_ok.mp eq
  obtain ⟨vdus, -, eq⟩ := bind_ok.mp eq
  obtain ⟨cps, -, eq⟩ := bind_ok.mp eq
  obtain ⟨template, templateEq, eq⟩ := bind_ok.mp eq
  obtain rfl := pure_ok.mp eq
  rw [addedHot] at addedEq
  obtain ⟨p, popped, addedEq⟩ := bind_ok.mp addedEq
  obtain ⟨hot', hotEq, addedEq⟩ := bind_ok.mp addedEq
  obtain ⟨rfl, rfl⟩ := Prod.mk.inj (pure_ok.mp addedEq)
  refine ⟨p, hot', template, popped, hotEq, templateEq, fun stack key => ?_⟩
  show resource (stack.template.jsonMergePatch template) key = _
  have treated := applyExtManagedVls_ok templateEq
  -- the parameters were found, so the resources are a dictionary
  obtain ⟨params, all⟩ := getParams_of_initNfvDict askedEq
  obtain ⟨resources, got, all⟩ := bind_ok.mp all
  obtain ⟨hotDict, rfl⟩ := getOrEmpty_ok.mp got
  obtain ⟨names, keys, -⟩ := bind_ok.mp all
  obtain ⟨resDict, -⟩ := keysOf_ok.mp keys
  have templateDict : template.isDict = true := by rw [treated.isDict, hotDict]
  cases found : hot'.get? "resources" with
  | none =>
    have absent : template.get? "resources" = none := by
      rw [treated.resources_same (by simp [found]), found]
    have noRes : resource template key = none := by rw [resource, absent]; rfl
    rw [noRes, resource, Json.get?_jsonMergePatch_none templateDict absent, Json.get?_asDict]
    rfl
  | some resources =>
    rw [found] at resDict
    obtain ⟨resources', got', dict'⟩ := treated.resources_dict found resDict
    exact resource_jsonMergePatch templateDict got' dict' key

/-- The rollback of a scale-out deletes the added resources. -/
lemma scaleRollback_template {csar : Csar} {inst : Inst} {grantReq : GrantReq} {fields : Fields}
    (eq : StandardUserData.scaleRollback csar inst grantReq = .ok fields) (stack : Stack)
    (key : Key) :
    resource (updateFields stack fields).template key =
      if ∃ name ∈ namesOf (addedBy csar inst grantReq), key = .str name then none
      else resource stack.template key := by
  obtain ⟨names, namesEq, eq⟩ := bind_ok.mp eq
  obtain rfl := pure_ok.mp eq
  have names := rolledBackNames_ok namesEq
  subst names
  show resource (stack.template.jsonMergePatch _) key = _
  rw [resource_deleting]
  rfl

end Tacker.UserData
