import Tacker.UserData.LinksApplied

/-!
# No references to what was taken out

The template that external managed virtual links leave, compared with the one they ought to leave:
the networks and their subnets are gone, every reference to a network became its identifier, and
nothing refers to a resource that is gone.
-/

namespace Tacker.UserData

open Tacker.Basis

variable {vls : List ExtManagedVl} {hot hot' : Value} {vlName : String} {name : Key} {res v : Value}

/-! ## What is expected -/

/-- The name of a resource that the links take out of the template. -/
def Removed (vls : List ExtManagedVl) (hot : Value) (name : String) : Prop :=
  ∃ res, resource hot (.str name) = some res ∧ Deletes vls (.str name) res

/-- The networks of the links and their subnets are gone, in all the rest the references to the
networks are replaced, so that what has none is as it was, and nothing refers to what is gone. -/
structure Replaced (vls : List ExtManagedVl) (hot hot' : Value) : Prop where
  others : ∀ key, key ≠ .str "resources" → Option.Rel Json.Same (hot'.get? key)
    ((hot.get? key).map fun v => replaceRef (networkOf vls) v (replaceAll (networkOf vls) v))
  gone : ∀ name res, resource hot name = some res → Deletes vls name res →
    resource hot' name = none
  kept : ∀ name res, resource hot name = some res → ¬ Deletes vls name res →
    Option.Rel Json.Same (resource hot' name) (some (replaceAll (networkOf vls) res))
  new : ∀ name, resource hot name = none → resource hot' name = none
  dangling : ∀ name, Removed vls hot name → ¬ RefersIn name hot'

/-- The links can be applied, in the resources that are kept no item of a list refers to one of
them and nothing refers to their subnets, and outside of the resources nothing refers to either. -/
structure Replaceable (vls : List ExtManagedVl) (hot : Value) : Prop where
  applicable : ∀ vl ∈ vls, ∀ name res, resource hot name = some res →
    Applicable vl.vnfVirtualLinkDescId name res
  lists : ∀ name res, resource hot name = some res → ¬ Deletes vls name res →
    ∀ vlName, Known (networkOf vls) vlName → ¬ RefersInList vlName res
  subnets : ∀ name res, resource hot name = some res → ¬ Deletes vls name res →
    ∀ subnet, Removed vls hot subnet → networkOf vls subnet = none → ¬ RefersIn subnet res
  outside : ∀ name, Known (networkOf vls) name ∨ Removed vls hot name →
    ¬ RefersIn name (hot.del "resources")

/-! ## References in a template -/

/-- A reference is outside of the resources or in one of them. -/
lemma refersIn_hot {name : String} (wf : Hot hot) : RefersIn name hot ↔
    RefersIn name (hot.del "resources") ∨
      ∃ other res, resource hot other = some res ∧ RefersIn name res := by
  have dict : (hot.del "resources").isDict = true := by rw [Json.isDict_del, wf.isDict]
  rw [refersIn_dict wf.isDict, refersIn_dict dict]
  constructor
  · rintro ⟨key, v, found, refers⟩
    by_cases isResources : key = .str "resources"
    · subst isResources
      right
      have resDict := wf.resources v found
      have none : refName v = none := by
        cases ref : refName v with
        | none => rfl
        | some other =>
          obtain ⟨keys, arg⟩ := refName_eq_some ref
          have defined := wf.each (.str "get_resource") (text other) (by rw [resource, found]; exact arg)
          exact absurd defined.isDict Bool.false_ne_true
      rw [none] at refers
      obtain ⟨other, res, got, refers⟩ := (refersIn_dict resDict).mp (refers.resolve_left (by simp))
      have there : resource hot other = some res := by rw [resource, found]; exact got
      refine ⟨other, res, there, ?_⟩
      rw [(wf.each other res there).refName_eq] at refers
      exact refers.resolve_left (by simp)
    · exact .inl ⟨key, v, by rw [Json.get?_del, if_neg isResources, found], refers⟩
  · rintro (⟨key, v, found, refers⟩ | ⟨other, res, got, refers⟩)
    · rw [Json.get?_del] at found
      by_cases isResources : key = .str "resources"
      · rw [if_pos isResources] at found
        cases found
      · rw [if_neg isResources] at found
        exact ⟨key, v, found, refers⟩
    · unfold resource at got
      obtain ⟨resources, found, got⟩ := Option.bind_eq_some_iff.mp got
      exact ⟨"resources", resources, found, .inr (refersIn_of_get? got (.inr refers))⟩

/-- Outside of the resources a template stays as it is. -/
lemma Treated.refersIn_outside {name : String} (treated : Treated vls hot hot') (wf : Hot hot) :
    RefersIn name (hot'.del "resources") ↔ RefersIn name (hot.del "resources") := by
  have dict : (hot.del "resources").isDict = true := by rw [Json.isDict_del, wf.isDict]
  have dict' : (hot'.del "resources").isDict = true := by
    rw [Json.isDict_del, treated.isDict, wf.isDict]
  have same : ∀ key, (hot'.del "resources").get? key = (hot.del "resources").get? key := by
    intro key
    rw [Json.get?_del, Json.get?_del]
    by_cases isResources : key = .str "resources"
    · rw [if_pos isResources, if_pos isResources]
    · rw [if_neg isResources, if_neg isResources, treated.others key isResources]
  rw [refersIn_dict dict, refersIn_dict dict']
  simp only [same]

/-- What links leave of a resource that they keep. -/
lemma Treated.left (treated : Treated vls hot hot') (wf : Hot hot)
    (found : resource hot name = some res) (keeps : ¬ Deletes vls name res) :
    ∃ v, resource hot' name = some v ∧ v.Same (rewrite (networkOf vls) res) :=
  (treatRes_ok (wf.each name res found).hotRes (treated.treated name res found)).2 keeps

/-- Links take out what they delete. -/
lemma Treated.gone (treated : Treated vls hot hot') (wf : Hot hot)
    (found : resource hot name = some res) (deletes : Deletes vls name res) :
    resource hot' name = none :=
  (treatRes_ok (wf.each name res found).hotRes (treated.treated name res found)).1 deletes

/-- The references that links leave in the resources. -/
lemma Treated.refersIn_resource {name : String} (treated : Treated vls hot hot') (wf : Hot hot) :
    (∃ other v, resource hot' other = some v ∧ RefersIn name v) ↔
      ∃ other res, resource hot other = some res ∧ ¬ Deletes vls other res ∧
        ((RefersTo name res ∧ networkOf vls name = none) ∨ RefersInList name res) := by
  constructor
  · rintro ⟨other, v, there, refers⟩
    cases found : resource hot other with
    | none =>
      rw [treated.absent other found] at there
      cases there
    | some res =>
      by_cases deletes : Deletes vls other res
      · rw [treated.gone wf found deletes] at there
        cases there
      · obtain ⟨w, left, same⟩ := treated.left wf found deletes
        rw [there] at left
        obtain rfl := Option.some.inj left
        have refers := refersIn_of_same same refers
        exact ⟨other, res, found, deletes, (refersIn_rewrite (wf.each other res found).plain).mp refers⟩
  · rintro ⟨other, res, found, keeps, refers⟩
    obtain ⟨v, left, same⟩ := treated.left wf found keeps
    have refers := (refersIn_rewrite (wf.each other res found).plain).mpr refers
    exact ⟨other, v, left, refersIn_of_same same.symm refers⟩

/-! ## When a template is as expected -/

/-- Outside of the resources nothing had to be replaced exactly if nothing refers to a link. -/
lemma others_iff (treated : Treated vls hot hot') (wf : Hot hot) :
    (∀ key, key ≠ .str "resources" → Option.Rel Json.Same (hot'.get? key)
      ((hot.get? key).map fun v => replaceRef (networkOf vls) v (replaceAll (networkOf vls) v))) ↔
      ∀ vlName, Known (networkOf vls) vlName → ¬ RefersIn vlName (hot.del "resources") := by
  have dict : (hot.del "resources").isDict = true := by rw [Json.isDict_del, wf.isDict]
  constructor
  · intro others vlName known refers
    obtain ⟨key, v, found, refers⟩ := (refersIn_dict dict).mp refers
    rw [Json.get?_del] at found
    by_cases isResources : key = .str "resources"
    · rw [if_pos isResources] at found
      cases found
    · rw [if_neg isResources] at found
      have rel := others key isResources
      rw [treated.others key isResources, found] at rel
      cases rel with
      | some same => exact (same_replaceRef same_replaceAll_iff).mp same vlName known refers
  · intro none key ne
    rw [treated.others key ne]
    cases found : hot.get? key with
    | none => exact .none
    | some v =>
      apply Option.Rel.some
      apply (same_replaceRef same_replaceAll_iff).mpr
      intro vlName known refers
      have there : (hot.del "resources").get? key = some v := by rw [Json.get?_del, if_neg ne, found]
      exact none vlName known (refersIn_of_get? there refers)

/-- In a resource all was replaced exactly if no item of a list refers to a link. -/
lemma kept_iff (treated : Treated vls hot hot') (wf : Hot hot)
    (found : resource hot name = some res) (keeps : ¬ Deletes vls name res) :
    Option.Rel Json.Same (resource hot' name) (some (replaceAll (networkOf vls) res)) ↔
      ∀ vlName, Known (networkOf vls) vlName → ¬ RefersInList vlName res := by
  obtain ⟨v, left, same⟩ := treated.left wf found keeps
  rw [left, Option.rel_some_some, ← same_rewrite_replaceAll]
  exact ⟨fun rel => same.symm.trans rel, fun rel => same.trans rel⟩

/-- What links make of a template is as expected exactly if it is replaceable. -/
lemma replaced_iff (wf : Hot hot) (eq : applyExtManagedVls hot vls = .ok hot') :
    Replaced vls hot hot' ↔ Replaceable vls hot := by
  have treated := applyExtManagedVls_ok eq
  have applicable := (applyExtManagedVls_total wf).mp ⟨hot', eq⟩
  have refers : ∀ name, RefersIn name hot' ↔ RefersIn name (hot.del "resources") ∨
      ∃ other res, resource hot other = some res ∧ ¬ Deletes vls other res ∧
        ((RefersTo name res ∧ networkOf vls name = none) ∨ RefersInList name res) := by
    intro name
    rw [refersIn_hot (wf.applied eq), treated.refersIn_outside wf, treated.refersIn_resource wf]
  constructor
  · intro replaced
    refine ⟨applicable, ?_, ?_, ?_⟩
    · intro name res found keeps
      exact (kept_iff treated wf found keeps).mp (replaced.kept name res found keeps)
    · intro name res found keeps subnet removed none there
      apply replaced.dangling subnet removed
      apply (refers subnet).mpr
      refine .inr ⟨name, res, found, keeps, ?_⟩
      exact (refersIn_iff.mp there).imp_left fun there => ⟨there, none⟩
    · rintro name (known | removed)
      · exact (others_iff treated wf).mp replaced.others name known
      · exact fun there => replaced.dangling name removed ((refers name).mpr (.inl there))
  · intro replaceable
    refine ⟨?_, ?_, ?_, treated.absent, ?_⟩
    · exact (others_iff treated wf).mpr fun vlName known => replaceable.outside vlName (.inl known)
    · intro name res found deletes
      exact treated.gone wf found deletes
    · intro name res found keeps
      exact (kept_iff treated wf found keeps).mpr (replaceable.lists name res found keeps)
    · intro name removed there
      rcases (refers name).mp there with outside | ⟨other, res, found, keeps, inRes⟩
      · exact replaceable.outside name (.inr removed) outside
      · cases none : networkOf vls name with
        | none =>
          apply replaceable.subnets other res found keeps name removed none
          exact refersIn_iff.mpr (inRes.imp_left And.left)
        | some networkId =>
          rcases inRes with ⟨-, eq⟩ | inList
          · rw [none] at eq
            cases eq
          · apply replaceable.lists other res found keeps name _ inList
            rw [Known, none]
            exact Option.some_ne_none networkId

/-! ## Main results -/

/-- Links that are applied to a template leave what is expected exactly if it is replaceable. -/
lemma applied_iff (wf : Hot hot) :
    (∃ hot', applyExtManagedVls hot vls = .ok hot' ∧ Replaced vls hot hot') ↔
      Replaceable vls hot := by
  constructor
  · rintro ⟨hot', eq, replaced⟩
    exact (replaced_iff wf eq).mp replaced
  · intro replaceable
    obtain ⟨hot', eq⟩ := (applyExtManagedVls_total wf).mpr replaceable.applicable
    exact ⟨hot', eq, (replaced_iff wf eq).mpr replaceable⟩

/-- The links of an instance are applied alike. -/
theorem applied_from_inst_iff (wf : Hot hot) (inst : Inst) :
    (∃ hot', applyExtManagedVlsFromInst hot inst = .ok hot' ∧
      Replaced inst.extManagedVirtualLinkInfo hot hot') ↔
      Replaceable inst.extManagedVirtualLinkInfo hot :=
  applied_iff wf

/-- The links of a grant and a request leave the template that is expected exactly if it is
replaceable. -/
theorem links_replaced_iff (hot : Value) (wf : Hot hot) (req : Req) (grant : Grant) :
    (∃ hot', applyExtManagedVlsFromReq hot req grant = .ok hot' ∧
      Replaced (mgdVlsOfReq req grant) hot hot') ↔ Replaceable (mgdVlsOfReq req grant) hot :=
  applied_iff wf

/-- A reference to a resource. -/
def referenceTo (name : String) : Value :=
  .dict [("get_resource", text name)]

/-- A network. -/
def netRes : Value :=
  .dict [("type", text "OS::Neutron::Net")]

/-- A server in the network. -/
def serverRes : Value :=
  .dict [("type", text "OS::Nova::Server"),
    ("properties", .dict [("networks", .list [.dict [("network", referenceTo "VL1")]])])]

/-- A template with a network and a server in it. -/
def serverHot : Value :=
  .dict [("resources", .dict [("VL1", netRes), ("VDU1", serverRes)])]

/-- The link in place of the network. -/
def mgdVl : ExtManagedVl where
  vnfVirtualLinkDescId := "VL1"
  resourceId := "net-id"

lemma netRes_wellFormed : ResDef netRes := by
  refine ⟨⟨"OS::Neutron::Net", rfl⟩, ?_, fun properties found => by cases found⟩
  intro key mem
  obtain rfl := List.mem_singleton.mp mem
  exact ⟨fun eq => absurd eq (by decide), trivial⟩

lemma serverRes_wellFormed : ResDef serverRes := by
  refine ⟨⟨"OS::Nova::Server", rfl⟩, ?_, fun properties found => ?_⟩
  · intro key mem
    rcases List.mem_cons.mp mem with rfl | mem
    · exact ⟨fun eq => absurd eq (by decide), trivial⟩
    · obtain rfl := List.mem_singleton.mp mem
      refine ⟨fun eq => absurd eq (by decide), ?_⟩
      intro key mem
      obtain rfl := List.mem_singleton.mp mem
      exact ⟨fun eq => absurd eq (by decide), trivial⟩
  · obtain rfl := Option.some.inj found
    rfl

lemma serverHot_wellFormed : Hot serverHot := by
  refine ⟨rfl, fun resources found => ?_, fun name res found => ?_⟩
  · obtain rfl := Option.some.inj found
    rfl
  · have eq : resource serverHot name = if name = .str "VDU1" then some serverRes
        else if name = .str "VL1" then some netRes else none := Json.get?_double
    rw [eq] at found
    split at found
    · obtain rfl := Option.some.inj found
      exact serverRes_wellFormed
    · split at found
      · obtain rfl := Option.some.inj found
        exact netRes_wellFormed
      · cases found

/-- Heat accepts the template. -/
theorem links_replaced_in_server :
    (∃ hot', applyExtManagedVlsFromReq serverHot { extManagedVirtualLinks := [mgdVl] } {} = .ok hot' ∧
      Replaced [mgdVl] serverHot hot') ↔ Replaceable [mgdVl] serverHot :=
  links_replaced_iff serverHot serverHot_wellFormed { extManagedVirtualLinks := [mgdVl] } {}

/-- The reference in the list of networks is left. -/
theorem reference_left_in_list : ¬ ∀ (hot : Value) (req : Req) (grant : Grant), Hot hot →
    ∃ hot', applyExtManagedVlsFromReq hot req grant = .ok hot' ∧
      Replaced (mgdVlsOfReq req grant) hot hot' := by
  intro all
  obtain ⟨hot', eq, replaced⟩ :=
    all serverHot { extManagedVirtualLinks := [mgdVl] } {} serverHot_wellFormed
  have replaceable := (replaced_iff serverHot_wellFormed eq).mp replaced
  have keeps : ¬ Deletes [mgdVl] "VDU1" serverRes := by
    rintro ⟨vl, mem, isNet | isSubnet⟩
    · obtain rfl := List.mem_singleton.mp mem
      exact absurd isNet (by decide)
    · have none : subnetNet serverRes = none := by decide
      rw [none] at isSubnet
      cases isSubnet
  have refers : RefersInList "VL1" serverRes :=
    ⟨"properties", by decide, "networks", by decide, ⟨0, Nat.zero_lt_one⟩, .inr
      ⟨"network", by decide, .inl rfl⟩⟩
  exact replaceable.lists "VDU1" serverRes rfl keeps "VL1" (Option.some_ne_none "net-id") refers

end Tacker.UserData
