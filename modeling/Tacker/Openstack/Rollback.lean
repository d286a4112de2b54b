import Tacker.Openstack.InstInfo
import Tacker.Lcm.ScaleLevels

/-!
# The instance after a rollback

After the rollback of CHANGE_EXT_CONN or CHANGE_VNFPKG the driver makes the instance information
anew from the stack, which has its resources back, some of them re-created, and the conductor
stores it. The rollback does not take over what only `_make_inst_info_common` records, and it takes
a port of an external virtual link for one of the stack unless a connection point refers to it.
-/

namespace Tacker.Openstack
open Tacker.Objects

/-! ## Re-created resources -/

variable {env : Env} {ρ : String → String} {time : HeatRes → Nat} {stack ports : List HeatRes}
  {res server : HeatRes} {info after : InstantiatedVnfInfo} {flavourId : String}

/-- The resource after the rollback: it may have been re-created. -/
def HeatRes.recreate (ρ : String → String) (time : HeatRes → Nat) (res : HeatRes) : HeatRes :=
  { res with physicalResourceId := ρ res.physicalResourceId, creationTime := time res }

/-- The port of an external virtual link after the rollback. -/
def recreateExtPort (ρ : String → String) (port : ExtLinkPortInfo) : ExtLinkPortInfo :=
  if ρ port.id = port.id then port
  else
    { id := ρ port.id
      resourceHandle := { port.resourceHandle with resourceId := ρ port.id }
      cpInstanceId := some (makeCpInfoId (ρ port.id)) }

/-- The external virtual link with its ports re-created. -/
def recreateExtVl (ρ : String → String) (vl : ExtVirtualLinkInfo) : ExtVirtualLinkInfo :=
  { vl with extLinkPorts := vl.extLinkPorts.map (List.map (recreateExtPort ρ)) }

/-- The port of an externally managed virtual link after the rollback. -/
def recreateVnfPort (ρ : String → String) (port : VnfLinkPortInfo) : VnfLinkPortInfo :=
  if ρ port.id = port.id then port
  else
    { port with
      id := ρ port.id
      resourceHandle := { port.resourceHandle with resourceId := ρ port.id } }

/-- The externally managed virtual link with its ports re-created. -/
def recreateVl (ρ : String → String) (vl : VnfVirtualLinkResourceInfo) :
    VnfVirtualLinkResourceInfo :=
  { vl with vnfLinkPorts := vl.vnfLinkPorts.map (List.map (recreateVnfPort ρ)) }

/-- The information is the same up to re-created ports. -/
structure SameUpTo (ρ : String → String) (before after : InstantiatedVnfInfo) : Prop where
  flavourId : after.flavourId = before.flavourId
  scaleStatus : after.scaleStatus = before.scaleStatus
  maxScaleLevels : after.maxScaleLevels = before.maxScaleLevels
  localizationLanguage : after.localizationLanguage = before.localizationLanguage
  extVirtualLinkInfo :
    after.extVirtualLinkInfo = before.extVirtualLinkInfo.map (List.map (recreateExtVl ρ))
  extManagedVirtualLinkInfo :
    after.extManagedVirtualLinkInfo = before.extManagedVirtualLinkInfo.map (List.map (recreateVl ρ))

@[simp] lemma HeatRes.recreate_resourceName :
    (res.recreate ρ time).resourceName = res.resourceName := rfl

@[simp] lemma HeatRes.recreate_physicalResourceId :
    (res.recreate ρ time).physicalResourceId = ρ res.physicalResourceId := rfl

@[simp] lemma getCheckedReses_recreate {resourceType : String} {names : List String} :
    getCheckedReses resourceType names (stack.map (HeatRes.recreate ρ time)) =
      (getCheckedReses resourceType names stack).map (HeatRes.recreate ρ time) := by
  unfold getCheckedReses
  rw [List.filter_map]
  rfl

@[simp] lemma Env.findVlName_recreate :
    env.findVlName (res.recreate ρ time) = env.findVlName res := rfl

lemma Env.resToHandle_recreate :
    env.resToHandle (res.recreate ρ time) =
      { env.resToHandle res with resourceId := ρ res.physicalResourceId } := rfl

lemma Env.extPort_recreate :
    env.extPort (res.recreate ρ time) = recreateExtPort ρ (env.extPort res) := by
  rw [extPort, extPort, resToHandle_recreate, HeatRes.recreate_physicalResourceId]
  by_cases same : ρ res.physicalResourceId = res.physicalResourceId
  · rw [recreateExtPort, if_pos same, same]
    rfl
  · rw [recreateExtPort, if_neg same]

/-! ## External virtual links -/

section ext

variable {vl : ExtVirtualLinkInfo} {vls : List ExtVirtualLinkInfo} {cpName : String}

/-- The link with more ports. -/
def addExtPorts (vl : ExtVirtualLinkInfo) (new : List ExtLinkPortInfo) : ExtVirtualLinkInfo :=
  { vl with
    extLinkPorts := if new.isEmpty then vl.extLinkPorts else some (vl.extLinkPorts.getD [] ++ new) }

lemma addExtPorts_cons {port : ExtLinkPortInfo} {new : List ExtLinkPortInfo} :
    addExtPorts vl (port :: new) = addExtPorts (addExtPort vl port) new := by
  cases new <;> simp [addExtPorts, addExtPort]

/-- The first link gets the ports of its connection points, the others get the rest. -/
lemma Env.linkExtPortInfo_cons :
    env.linkExtPortInfo ports (vl :: vls) =
      addExtPorts vl ((ports.filter fun res => hasCp vl res.resourceName).map env.extPort) ::
        env.linkExtPortInfo (ports.filter fun res => !hasCp vl res.resourceName) vls := by
  induction ports generalizing vl vls with
  | nil => rfl
  | cons res ports ih =>
    rw [linkExtPortInfo, List.foldl_cons]
    change env.linkExtPortInfo ports (linkExtPort res.resourceName (env.extPort res) (vl :: vls)) = _
    unfold linkExtPort
    cases own : hasCp vl res.resourceName with
    | true =>
      have same (name) : hasCp (addExtPort vl (env.extPort res)) name = hasCp vl name := rfl
      rw [if_pos rfl, ih]
      simp only [same]
      rw [List.filter_cons_of_pos (by simpa using own), List.filter_cons_of_neg (by simp [own]),
        List.map_cons, addExtPorts_cons]
    | false =>
      rw [if_neg (by simp), ih, List.filter_cons_of_neg (by simp [own]),
        List.filter_cons_of_pos (by simp [own])]
      rfl

lemma Env.linkExtPortInfo_nil : env.linkExtPortInfo ports [] = [] := by
  induction ports with
  | nil => rfl
  | cons res ports ih => exact ih

/-- The link as `_make_ext_vl_info_from_inst` leaves it. -/
def keepPorts (vl : ExtVirtualLinkInfo) : ExtVirtualLinkInfo :=
  { vl with extLinkPorts := vl.extLinkPorts.map fun _ => keptPorts vl }

/-- The ports that the link refers to are exactly those that are not in `ids`. -/
def RefersTo (ids : List String) (vl : ExtVirtualLinkInfo) : Prop :=
  ∀ port ∈ vl.extLinkPorts.getD [],
    isExtVlLinkPort port.id vl.currentVnfExtCpData = true ↔ port.id ∉ ids

lemma filter_append_filter_eq {α : Type} {p : α → Bool} {l m : List α} :
    l.filter p ++ m.filter p = l ↔ (∀ a ∈ l, p a = true) ∧ ∀ a ∈ m, p a = false := by
  constructor
  · intro eq
    have all : ∀ a ∈ l, p a = true := by
      intro a mem
      rw [← eq, ← List.filter_append] at mem
      exact (List.mem_filter.mp mem).2
    refine ⟨all, fun a mem => ?_⟩
    rw [List.filter_eq_self.mpr all, List.append_right_eq_self, List.filter_eq_nil_iff] at eq
    simpa using eq a mem
  · rintro ⟨all, none⟩
    rw [List.filter_eq_self.mpr all, List.append_right_eq_self, List.filter_eq_nil_iff]
    intro a mem
    simp [none a mem]

/-- The ports of a link after the rollback: those kept, and those of the stack. -/
lemma filter_append_map_eq_iff (refers : ExtLinkPortInfo → Bool) {ids : List String}
    {old mine : List ExtLinkPortInfo} (supplied : ∀ port ∈ old, port.id ∉ ids)
    (own : ∀ port ∈ mine, port.id ∈ ids) (fixed : ∀ id, id ∉ ids → ρ id = id) :
    (old ++ mine).filter refers ++ mine.map (recreateExtPort ρ) =
        (old ++ mine).map (recreateExtPort ρ) ↔
      ∀ port ∈ old ++ mine, refers port = true ↔ port.id ∉ ids := by
  have same : old.map (recreateExtPort ρ) = old := by
    have eq : ∀ port ∈ old, recreateExtPort ρ port = port := fun port mem =>
      if_pos (fixed port.id (supplied port mem))
    rw [List.map_congr_left eq, List.map_id']
  rw [List.map_append, same, List.append_left_inj, List.filter_append, filter_append_filter_eq,
    List.forall_mem_append]
  refine and_congr (forall₂_congr fun port mem => ?_) (forall₂_congr fun port mem => ?_)
  · simp [supplied port mem]
  · simp [own port mem]

/-- One link after the rollback. -/
lemma keepPorts_eq_iff {mine : List HeatRes} {ids : List String}
    (supplied : ∀ port ∈ vl.extLinkPorts.getD [], port.id ∉ ids)
    (own : ∀ res ∈ mine, res.physicalResourceId ∈ ids) (fixed : ∀ id, id ∉ ids → ρ id = id) :
    addExtPorts (keepPorts (addExtPorts vl (mine.map env.extPort)))
        ((mine.map (HeatRes.recreate ρ time)).map env.extPort) =
      recreateExtVl ρ (addExtPorts vl (mine.map env.extPort)) ↔
    RefersTo ids (addExtPorts vl (mine.map env.extPort)) := by
  have again : (mine.map (HeatRes.recreate ρ time)).map env.extPort =
      (mine.map env.extPort).map (recreateExtPort ρ) := by
    rw [List.map_map, List.map_map]
    exact List.map_congr_left fun res _ => env.extPort_recreate
  have own : ∀ port ∈ mine.map env.extPort, port.id ∈ ids := by
    intro port mem
    obtain ⟨res, memMine, rfl⟩ := List.mem_map.mp mem
    exact own res memMine
  rw [again]
  generalize mine.map env.extPort = new at own
  have iff := filter_append_map_eq_iff
    (fun port => isExtVlLinkPort port.id vl.currentVnfExtCpData) supplied own fixed
  obtain ⟨id, handle, ports, cpData⟩ := vl
  cases new with
  | nil =>
    cases ports with
    | none => simp [addExtPorts, keepPorts, recreateExtVl, RefersTo]
    | some ports =>
      simpa [addExtPorts, keepPorts, keptPorts, recreateExtVl, RefersTo] using iff
  | cons port new =>
    simpa [addExtPorts, keepPorts, keptPorts, recreateExtVl, RefersTo] using iff

/-- All external virtual links after the rollback. -/
lemma linkExtPortInfo_eq_iff {ids : List String}
    (supplied : ∀ vl ∈ vls, ∀ port ∈ vl.extLinkPorts.getD [], port.id ∉ ids)
    (own : ∀ res ∈ ports, res.physicalResourceId ∈ ids) (fixed : ∀ id, id ∉ ids → ρ id = id) :
    env.linkExtPortInfo (ports.map (HeatRes.recreate ρ time))
        ((env.linkExtPortInfo ports vls).map keepPorts) =
      (env.linkExtPortInfo ports vls).map (recreateExtVl ρ) ↔
    ∀ vl ∈ env.linkExtPortInfo ports vls, RefersTo ids vl := by
  induction vls generalizing ports with
  | nil => simp [Env.linkExtPortInfo_nil]
  | cons vl vls ih =>
    obtain ⟨suppliedHead, supplied⟩ := List.forall_mem_cons.mp supplied
    rw [env.linkExtPortInfo_cons]
    generalize mineEq : ports.filter (fun res => hasCp vl res.resourceName) = mine
    generalize restEq : ports.filter (fun res => !hasCp vl res.resourceName) = rest
    have ownMine : ∀ res ∈ mine, res.physicalResourceId ∈ ids := fun res mem =>
      own res (List.mem_of_mem_filter (mineEq ▸ mem))
    have ownRest : ∀ res ∈ rest, res.physicalResourceId ∈ ids := fun res mem =>
      own res (List.mem_of_mem_filter (restEq ▸ mem))
    have has (name) : hasCp (keepPorts (addExtPorts vl (mine.map env.extPort))) name =
        hasCp vl name := rfl
    have mine' : (ports.map (HeatRes.recreate ρ time)).filter
        (fun res => hasCp vl res.resourceName) = mine.map (HeatRes.recreate ρ time) := by
      rw [← mineEq, List.filter_map]
      rfl
    have rest' : (ports.map (HeatRes.recreate ρ time)).filter
        (fun res => !hasCp vl res.resourceName) = rest.map (HeatRes.recreate ρ time) := by
      rw [← restEq, List.filter_map]
      rfl
    rw [List.map_cons, env.linkExtPortInfo_cons]
    simp only [has, mine', rest', List.map_cons, List.cons.injEq, List.forall_mem_cons]
    exact and_congr (keepPorts_eq_iff suppliedHead ownMine fixed) (ih supplied ownRest)

end ext

/-! ## Externally managed virtual links -/

section mgd

variable {vl : VnfVirtualLinkResourceInfo} {vls : List VnfVirtualLinkResourceInfo}
  {servers : List HeatRes}

/-- The link with more ports. -/
def addVnfPorts (vl : VnfVirtualLinkResourceInfo) (new : List VnfLinkPortInfo) :
    VnfVirtualLinkResourceInfo :=
  { vl with
    vnfLinkPorts := if new.isEmpty then vl.vnfLinkPorts else some (vl.vnfLinkPorts.getD [] ++ new) }

lemma addVnfPorts_cons {port : VnfLinkPortInfo} {new : List VnfLinkPortInfo} :
    addVnfPorts vl (port :: new) = addVnfPorts (addVnfPort vl port) new := by
  cases new <;> simp [addVnfPorts, addVnfPort]

/-- Whether the port goes to a link of this name that is followed by the others. -/
def Env.goesTo (env : Env) (vlName : String) (vls : List VnfVirtualLinkResourceInfo)
    (res : HeatRes) : Bool :=
  env.findVlName res = some vlName ∧ vlName ∉ vls.map (·.vnfVirtualLinkDescId)

lemma linkVnfPort_names {name : String} {port : VnfLinkPortInfo} :
    (linkVnfPort name port vls).map (·.vnfVirtualLinkDescId) =
      vls.map (·.vnfVirtualLinkDescId) := by
  induction vls with
  | nil => rfl
  | cons vl vls ih =>
    unfold linkVnfPort
    split
    · rfl
    · rw [List.map_cons, ih, List.map_cons]

/-- A port that goes to no link changes nothing. -/
lemma linkVnfPort_of_notMem {name : String} {port : VnfLinkPortInfo}
    (notMem : name ∉ vls.map (·.vnfVirtualLinkDescId)) : linkVnfPort name port vls = vls := by
  induction vls with
  | nil => rfl
  | cons vl vls ih =>
    rw [List.map_cons, List.mem_cons, not_or] at notMem
    unfold linkVnfPort
    rw [if_neg, ih notMem.2]
    rintro ⟨eq, -⟩
    exact notMem.1 eq.symm

lemma Env.linkVnfPortInfo_nil : env.linkVnfPortInfo servers ports [] = [] := by
  induction ports with
  | nil => rfl
  | cons res ports ih =>
    rw [linkVnfPortInfo, List.foldl_cons]
    cases env.findVlName res <;> exact ih

lemma Env.linkVnfPortInfo_names :
    (env.linkVnfPortInfo servers ports vls).map (·.vnfVirtualLinkDescId) =
      vls.map (·.vnfVirtualLinkDescId) := by
  induction ports generalizing vls with
  | nil => rfl
  | cons res ports ih =>
    rw [linkVnfPortInfo, List.foldl_cons]
    cases env.findVlName res with
    | none => exact ih
    | some vlName => exact ih.trans linkVnfPort_names

/-- Each link gets the ports of its name, unless a later link has that name too. -/
lemma Env.linkVnfPortInfo_cons :
    env.linkVnfPortInfo servers ports (vl :: vls) =
      addVnfPorts vl
          ((ports.filter (env.goesTo vl.vnfVirtualLinkDescId vls)).map (env.vnfPort servers)) ::
        env.linkVnfPortInfo servers ports vls := by
  induction ports generalizing vl vls with
  | nil => rfl
  | cons res ports ih =>
    rw [linkVnfPortInfo, List.foldl_cons, linkVnfPortInfo, List.foldl_cons]
    cases name : env.findVlName res with
    | none =>
      have not : env.goesTo vl.vnfVirtualLinkDescId vls res = false := by simp [goesTo, name]
      rw [List.filter_cons_of_neg (by simp [not])]
      exact ih
    | some vlName =>
      have names : (linkVnfPort vlName (env.vnfPort servers res) vls).map
          (·.vnfVirtualLinkDescId) = vls.map (·.vnfVirtualLinkDescId) := linkVnfPort_names
      by_cases here : vl.vnfVirtualLinkDescId = vlName ∧ vlName ∉ vls.map (·.vnfVirtualLinkDescId)
      · obtain ⟨rfl, last⟩ := here
        have own : env.goesTo vl.vnfVirtualLinkDescId vls res = true := by
          simpa [goesTo, name] using last
        dsimp only
        rw [linkVnfPort, if_pos ⟨rfl, last⟩, linkVnfPort_of_notMem last,
          List.filter_cons_of_pos own, List.map_cons, addVnfPorts_cons]
        exact ih
      · have not : env.goesTo vl.vnfVirtualLinkDescId vls res = false := by
          by_contra own
          have own : vlName = vl.vnfVirtualLinkDescId ∧
              vl.vnfVirtualLinkDescId ∉ vls.map (·.vnfVirtualLinkDescId) := by
            simpa [goesTo, name] using own
          exact here ⟨own.1.symm, own.1 ▸ own.2⟩
        have same : env.goesTo vl.vnfVirtualLinkDescId
            (linkVnfPort vlName (env.vnfPort servers res) vls) =
              env.goesTo vl.vnfVirtualLinkDescId vls := by
          funext res'
          rw [goesTo, goesTo, names]
        dsimp only
        rw [linkVnfPort, if_neg here, List.filter_cons_of_neg (by simp [not]), ← same]
        exact ih

/-- The link as `_make_ext_mgd_vl_info_from_inst` leaves it. -/
def keepVl (vl : VnfVirtualLinkResourceInfo) : VnfVirtualLinkResourceInfo :=
  { vl with vnfLinkPorts := vl.vnfLinkPorts.map (List.filter fun p => isLinkPort p.id) }

lemma keepVl_names :
    (vls.map keepVl).map (·.vnfVirtualLinkDescId) = vls.map (·.vnfVirtualLinkDescId) := by
  rw [List.map_map]
  rfl

/-- The server that the port is connected to was not re-created. -/
def ServerKept (ρ : String → String) (env : Env) (servers : List HeatRes) (res : HeatRes) : Prop :=
  ∀ server, env.findServer servers res = some server →
    ρ server.physicalResourceId = server.physicalResourceId

lemma makeCombinationId_inj {a b b' : String} :
    makeCombinationId a b = makeCombinationId a b' ↔ b = b' :=
  String.append_right_inj _

lemma Env.findServer_recreate :
    env.findServer (servers.map (HeatRes.recreate ρ time)) (res.recreate ρ time) =
      (env.findServer servers res).map (HeatRes.recreate ρ time) := by
  unfold findServer
  rw [List.find?_map]
  rfl

/-- The port that the driver makes after the rollback is the old one re-created if its server was
kept. -/
lemma Env.vnfPort_recreate :
    env.vnfPort (servers.map (HeatRes.recreate ρ time)) (res.recreate ρ time) =
        recreateVnfPort ρ (env.vnfPort servers res) ↔ ServerKept ρ env servers res := by
  have cpId : env.vnfcCpId (servers.map (HeatRes.recreate ρ time)) (res.recreate ρ time) =
        env.vnfcCpId servers res ↔ ServerKept ρ env servers res := by
    rw [vnfcCpId, vnfcCpId, findServer_recreate, ServerKept]
    cases env.findServer servers res with
    | none => simp
    | some server => simp [makeCombinationId_inj]
  rw [← cpId]
  constructor
  · intro eq
    have eq := congrArg VnfLinkPortInfo.cpInstanceId eq
    unfold recreateVnfPort at eq
    split at eq <;> exact eq
  · intro eq
    rw [vnfPort, vnfPort, eq, resToHandle_recreate, HeatRes.recreate_physicalResourceId]
    by_cases same : ρ res.physicalResourceId = res.physicalResourceId
    · rw [recreateVnfPort, if_pos same, same]
      rfl
    · rw [recreateVnfPort, if_neg same]

/-- One link after the rollback, when the ports of the stack were `mine` and are `again`. -/
lemma keepVl_addVnfPorts {mine again : List VnfLinkPortInfo}
    (supplied : ∀ port ∈ vl.vnfLinkPorts.getD [], isLinkPort port.id = true)
    (own : ∀ port ∈ mine, isLinkPort port.id = false) (len : again.length = mine.length)
    (fixed : ∀ id, isLinkPort id = true → ρ id = id) :
    addVnfPorts (keepVl (addVnfPorts vl mine)) again = recreateVl ρ (addVnfPorts vl mine) ↔
      again = mine.map (recreateVnfPort ρ) := by
  have none : mine.filter (fun p => isLinkPort p.id) = [] := by
    rw [List.filter_eq_nil_iff]
    intro port mem
    simp [own port mem]
  obtain ⟨id, descId, handle, ports⟩ := vl
  have kept : (ports.getD []).filter (fun p => isLinkPort p.id) = ports.getD [] :=
    List.filter_eq_self.mpr supplied
  have same : (ports.getD []).map (recreateVnfPort ρ) = ports.getD [] := by
    have eq : ∀ port ∈ ports.getD [], recreateVnfPort ρ port = port := fun port mem =>
      if_pos (fixed port.id (supplied port mem))
    rw [List.map_congr_left eq, List.map_id']
  cases mine with
  | nil =>
    obtain rfl := List.length_eq_zero_iff.mp len
    cases ports with
    | none => simp [addVnfPorts, keepVl, recreateVl]
    | some ports =>
      rw [Option.getD_some] at kept same
      simp [addVnfPorts, keepVl, recreateVl, kept, same]
  | cons port mine =>
    obtain ⟨port', again, rfl⟩ : ∃ port' again', again = port' :: again' :=
      List.exists_cons_of_length_eq_add_one len
    have new : addVnfPorts ⟨id, descId, handle, ports⟩ (port :: mine) =
        ⟨id, descId, handle, some (ports.getD [] ++ port :: mine)⟩ := rfl
    have back : keepVl ⟨id, descId, handle, some (ports.getD [] ++ port :: mine)⟩ =
        ⟨id, descId, handle, some (ports.getD [])⟩ := by
      simp only [keepVl, Option.map_some, List.filter_append, kept, none, List.append_nil]
    have moved : recreateVl ρ ⟨id, descId, handle, some (ports.getD [] ++ port :: mine)⟩ =
        ⟨id, descId, handle,
          some (ports.getD [] ++ (port :: mine).map (recreateVnfPort ρ))⟩ := by
      simp only [recreateVl, Option.map_some, List.map_append, same]
    rw [new, back, moved]
    simp [addVnfPorts]

/-- One link after the rollback. -/
lemma keepVl_eq_iff {mine : List HeatRes}
    (supplied : ∀ port ∈ vl.vnfLinkPorts.getD [], isLinkPort port.id = true)
    (own : ∀ res ∈ mine, isLinkPort res.physicalResourceId = false)
    (fixed : ∀ id, isLinkPort id = true → ρ id = id) :
    addVnfPorts (keepVl (addVnfPorts vl (mine.map (env.vnfPort servers))))
        ((mine.map (HeatRes.recreate ρ time)).map
          (env.vnfPort (servers.map (HeatRes.recreate ρ time)))) =
      recreateVl ρ (addVnfPorts vl (mine.map (env.vnfPort servers))) ↔
    ∀ res ∈ mine, ServerKept ρ env servers res := by
  have own : ∀ port ∈ mine.map (env.vnfPort servers), isLinkPort port.id = false := by
    intro port mem
    obtain ⟨res, memMine, rfl⟩ := List.mem_map.mp mem
    exact own res memMine
  rw [keepVl_addVnfPorts supplied own (by simp) fixed, List.map_map, List.map_map,
    List.map_inj_left]
  exact forall₂_congr fun res _ => env.vnfPort_recreate

/-- All externally managed virtual links after the rollback. -/
lemma linkVnfPortInfo_eq_iff
    (supplied : ∀ vl ∈ vls, ∀ port ∈ vl.vnfLinkPorts.getD [], isLinkPort port.id = true)
    (own : ∀ res ∈ ports, isLinkPort res.physicalResourceId = false)
    (fixed : ∀ id, isLinkPort id = true → ρ id = id) :
    env.linkVnfPortInfo (servers.map (HeatRes.recreate ρ time))
        (ports.map (HeatRes.recreate ρ time))
        ((env.linkVnfPortInfo servers ports vls).map keepVl) =
      (env.linkVnfPortInfo servers ports vls).map (recreateVl ρ) ↔
    ∀ res ∈ ports, ∀ vlName ∈ vls.map (·.vnfVirtualLinkDescId),
      env.findVlName res = some vlName → ServerKept ρ env servers res := by
  induction vls with
  | nil => simp [Env.linkVnfPortInfo_nil]
  | cons vl vls ih =>
    obtain ⟨suppliedHead, supplied⟩ := List.forall_mem_cons.mp supplied
    have goes : env.goesTo vl.vnfVirtualLinkDescId
        ((env.linkVnfPortInfo servers ports vls).map keepVl) =
          env.goesTo vl.vnfVirtualLinkDescId vls := by
      funext res
      rw [Env.goesTo, Env.goesTo, keepVl_names, Env.linkVnfPortInfo_names]
    have mine' : (ports.map (HeatRes.recreate ρ time)).filter
        (env.goesTo vl.vnfVirtualLinkDescId vls) =
          (ports.filter (env.goesTo vl.vnfVirtualLinkDescId vls)).map
            (HeatRes.recreate ρ time) := by
      rw [List.filter_map]
      rfl
    rw [env.linkVnfPortInfo_cons, List.map_cons, env.linkVnfPortInfo_cons]
    change addVnfPorts _ (((ports.map (HeatRes.recreate ρ time)).filter
      (env.goesTo vl.vnfVirtualLinkDescId _)).map _) :: _ = _ ↔ _
    rw [goes, mine', List.map_cons, List.cons.injEq]
    refine (and_congr (keepVl_eq_iff suppliedHead (fun res mem => own res
      (List.mem_of_mem_filter mem)) fixed) (ih supplied)).trans ?_
    constructor
    · rintro ⟨head, tail⟩ res mem vlName name found
      rcases List.mem_cons.mp name with rfl | name
      · by_cases later : vl.vnfVirtualLinkDescId ∈ vls.map (·.vnfVirtualLinkDescId)
        · exact tail res mem _ later found
        · exact head res (List.mem_filter.mpr ⟨mem, by simpa [Env.goesTo, found] using later⟩)
      · exact tail res mem vlName name found
    · intro all
      refine ⟨fun res mem => ?_, fun res mem vlName name =>
        all res mem vlName (List.mem_cons_of_mem _ name)⟩
      obtain ⟨mem, goes⟩ := List.mem_filter.mp mem
      have found : env.findVlName res = some vl.vnfVirtualLinkDescId := by
        have both : env.findVlName res = some vl.vnfVirtualLinkDescId ∧ _ := of_decide_eq_true goes
        exact both.1
      exact all res mem _ List.mem_cons_self found

end mgd

/-! ## The whole information -/

lemma Env.linkVnfPortInfo_drop {servers : List HeatRes}
    {vls mgdVls : List VnfVirtualLinkResourceInfo} :
    (env.linkVnfPortInfo servers ports (vls ++ mgdVls)).drop vls.length =
      env.linkVnfPortInfo servers ports mgdVls := by
  induction vls with
  | nil => rfl
  | cons vl vls ih =>
    rw [List.cons_append, linkVnfPortInfo_cons, List.length_cons, List.drop_succ_cons]
    exact ih

/-- What `makeInfoFrom` records of the links and of the rest. -/
lemma makeInfoFrom_inv {ext : ExtLinks} {mgdVls : List ExtManagedVirtualLinkInfo}
    (eq : makeInfoFrom env flavourId stack ext mgdVls = some after) :
    after.flavourId = flavourId ∧ after.scaleStatus = none ∧ after.maxScaleLevels = none ∧
      after.localizationLanguage = none ∧
      after.extVirtualLinkInfo = setIfAny (env.linkExtPortInfo
        ((env.portReses stack).filter fun res => env.findVlName res = none) ext.1) ∧
      after.extManagedVirtualLinkInfo = setIfAny (env.linkVnfPortInfo (env.serverReses stack)
        (env.portReses stack) mgdVls) := by
  simp only [makeInfoFrom, Option.bind_eq_bind, Option.pure_def, Option.bind_eq_some_iff,
    Option.some.injEq] at eq
  obtain ⟨cps, -, rfl⟩ := eq
  exact ⟨rfl, rfl, rfl, rfl, rfl, by rw [Env.linkVnfPortInfo_drop]⟩

lemma setIfAny_eq_map_iff {α : Type} {l l' : List α} {f : α → α} :
    setIfAny l' = (setIfAny l).map (List.map f) ↔ l' = l.map f := by
  cases l <;> cases l' <;> simp [setIfAny]

lemma getD_setIfAny {α : Type} {l : List α} : (setIfAny l).getD [] = l := by
  cases l <;> rfl

/-- The driver made the links of the information from the resources of this stack; the ports that
the links had before are not those of the stack. -/
structure Recorded (d : Driver) (stack : List HeatRes) (info : InstantiatedVnfInfo) : Prop where
  made : ∃ ext mgdVls made,
    makeInfoFrom (d.env info.flavourId) info.flavourId stack ext mgdVls = some made ∧
    info.extVirtualLinkInfo = made.extVirtualLinkInfo ∧
    info.extManagedVirtualLinkInfo = made.extManagedVirtualLinkInfo ∧
    (∀ vl ∈ ext.1, ∀ port ∈ vl.extLinkPorts.getD [],
      port.id ∉ stack.map HeatRes.physicalResourceId) ∧
    ∀ vl ∈ mgdVls, ∀ port ∈ vl.vnfLinkPorts.getD [], isLinkPort port.id = true
  /-- OpenStack draws UUIDs. -/
  uuids : ∀ res ∈ stack, isLinkPort res.physicalResourceId = false

/-- Heat has brought the resources of the stack back; some of them are re-created. -/
structure Restored (ρ : String → String) (time : HeatRes → Nat) (stack stack' : List HeatRes) :
    Prop where
  resources : stack' = stack.map (HeatRes.recreate ρ time)
  others : ∀ id, id ∉ stack.map HeatRes.physicalResourceId → ρ id = id

/-- What a rollback preserves: nothing of what only `_make_inst_info_common` records, the links if
they refer to exactly the ports that are not of the stack, and the connection of the ports of
externally managed links to servers that are not re-created. -/
structure Survives (d : Driver) (ρ : String → String) (stack : List HeatRes)
    (info : InstantiatedVnfInfo) : Prop where
  scaleStatus : info.scaleStatus = none
  maxScaleLevels : info.maxScaleLevels = none
  localizationLanguage : info.localizationLanguage = none
  refers : ∀ vl ∈ info.extVirtualLinkInfo.getD [],
    RefersTo (stack.map HeatRes.physicalResourceId) vl
  servers : ∀ res ∈ (d.env info.flavourId).portReses stack,
    ∀ vlName ∈ (info.extManagedVirtualLinkInfo.getD []).map (·.vnfVirtualLinkDescId),
      (d.env info.flavourId).findVlName res = some vlName →
        ServerKept ρ (d.env info.flavourId) ((d.env info.flavourId).serverReses stack) res

lemma mem_portReses (mem : res ∈ env.portReses stack) : res ∈ stack :=
  List.mem_of_mem_filter mem

/-- The external virtual links after the rollback. -/
lemma extVirtualLinkInfo_iff {extVls : List ExtVirtualLinkInfo}
    (before : info.extVirtualLinkInfo = setIfAny (env.linkExtPortInfo
      ((env.portReses stack).filter fun res => env.findVlName res = none) extVls))
    (supplied : ∀ vl ∈ extVls, ∀ port ∈ vl.extLinkPorts.getD [],
      port.id ∉ stack.map HeatRes.physicalResourceId)
    (others : ∀ id, id ∉ stack.map HeatRes.physicalResourceId → ρ id = id)
    (eq : after.extVirtualLinkInfo = setIfAny (env.linkExtPortInfo
      ((env.portReses (stack.map (HeatRes.recreate ρ time))).filter
        fun res => env.findVlName res = none) (makeExtVlInfoFromInst info).1)) :
    after.extVirtualLinkInfo = info.extVirtualLinkInfo.map (List.map (recreateExtVl ρ)) ↔
      ∀ vl ∈ info.extVirtualLinkInfo.getD [],
        RefersTo (stack.map HeatRes.physicalResourceId) vl := by
  have ports : (env.portReses (stack.map (HeatRes.recreate ρ time))).filter
      (fun res => env.findVlName res = none) =
        ((env.portReses stack).filter fun res => env.findVlName res = none).map
          (HeatRes.recreate ρ time) := by
    rw [Env.portReses, getCheckedReses_recreate, List.filter_map]
    rfl
  have kept : (makeExtVlInfoFromInst info).1 = (env.linkExtPortInfo
      ((env.portReses stack).filter fun res => env.findVlName res = none) extVls).map
        keepPorts := by
    rw [makeExtVlInfoFromInst, before, getD_setIfAny]
    rfl
  rw [eq, before, setIfAny_eq_map_iff, getD_setIfAny, ports, kept]
  refine linkExtPortInfo_eq_iff supplied (fun res mem => ?_) others
  exact List.mem_map_of_mem (mem_portReses (List.mem_of_mem_filter mem))

/-- The externally managed virtual links after the rollback. -/
lemma extManagedVirtualLinkInfo_iff {mgdVls : List ExtManagedVirtualLinkInfo}
    (before : info.extManagedVirtualLinkInfo = setIfAny (env.linkVnfPortInfo
      (env.serverReses stack) (env.portReses stack) mgdVls))
    (supplied : ∀ vl ∈ mgdVls, ∀ port ∈ vl.vnfLinkPorts.getD [], isLinkPort port.id = true)
    (uuids : ∀ res ∈ stack, isLinkPort res.physicalResourceId = false)
    (others : ∀ id, id ∉ stack.map HeatRes.physicalResourceId → ρ id = id)
    (eq : after.extManagedVirtualLinkInfo = setIfAny (env.linkVnfPortInfo
      (env.serverReses (stack.map (HeatRes.recreate ρ time)))
      (env.portReses (stack.map (HeatRes.recreate ρ time))) (makeExtMgdVlInfoFromInst info))) :
    after.extManagedVirtualLinkInfo =
        info.extManagedVirtualLinkInfo.map (List.map (recreateVl ρ)) ↔
      ∀ res ∈ env.portReses stack,
        ∀ vlName ∈ (info.extManagedVirtualLinkInfo.getD []).map (·.vnfVirtualLinkDescId),
          env.findVlName res = some vlName →
            ServerKept ρ env (env.serverReses stack) res := by
  have kept : makeExtMgdVlInfoFromInst info = (env.linkVnfPortInfo
      (env.serverReses stack) (env.portReses stack) mgdVls).map keepVl := by
    rw [makeExtMgdVlInfoFromInst, before, getD_setIfAny]
    rfl
  have fixed (id) (link : isLinkPort id = true) : ρ id = id := by
    refine others id fun mem => ?_
    obtain ⟨res, memStack, rfl⟩ := List.mem_map.mp mem
    rw [uuids res memStack] at link
    cases link
  rw [eq, before, setIfAny_eq_map_iff, getD_setIfAny, kept, Env.linkVnfPortInfo_names,
    Env.serverReses, Env.portReses, getCheckedReses_recreate, getCheckedReses_recreate]
  exact linkVnfPortInfo_eq_iff supplied (fun res mem => uuids res (List.mem_of_mem_filter mem))
    fixed

lemma Driver.makeInfoOfInst_rollback {d : Driver} {op : LcmOperationType} {req : Links}
    (eq : d.makeInfoOfInst stack op true req info = some after) :
    makeInfoFrom (d.env info.flavourId) info.flavourId stack (makeExtVlInfoFromInst info)
      (makeExtMgdVlInfoFromInst info) = some after := by
  simpa [makeInfoOfInst] using eq

/-- The information that a rollback makes is that of before exactly if it survives. -/
theorem sameUpTo_iff {d : Driver} {stack' : List HeatRes} {op : LcmOperationType} {req : Links}
    (recorded : Recorded d stack info) (restored : Restored ρ time stack stack')
    (eq : d.makeInfoOfInst stack' op true req info = some after) :
    SameUpTo ρ info after ↔ Survives d ρ stack info := by
  obtain ⟨⟨ext, mgdVls, made, makes, extEq, mgdEq, supplied, supplied'⟩, uuids⟩ := recorded
  obtain ⟨rfl, others⟩ := restored
  obtain ⟨-, -, -, -, extMade, mgdMade⟩ := makeInfoFrom_inv makes
  obtain ⟨flavourId, scaleStatus, maxScaleLevels, language, extAfter, mgdAfter⟩ :=
    makeInfoFrom_inv (Driver.makeInfoOfInst_rollback eq)
  have extIff := extVirtualLinkInfo_iff (extEq.trans extMade) supplied others extAfter
  have mgdIff :=
    extManagedVirtualLinkInfo_iff (mgdEq.trans mgdMade) supplied' uuids others mgdAfter
  constructor
  · rintro ⟨-, scale, max, lang, extSame, mgdSame⟩
    exact ⟨scale.symm.trans scaleStatus, max.symm.trans maxScaleLevels, lang.symm.trans language,
      extIff.mp extSame, mgdIff.mp mgdSame⟩
  · rintro ⟨scale, max, lang, refers, servers⟩
    exact ⟨flavourId, scaleStatus.trans scale.symm, maxScaleLevels.trans max.symm,
      language.trans lang.symm, extIff.mpr refers, mgdIff.mpr servers⟩

/-! ## Runs -/

open Tacker.Basis Tacker.Lcm

variable {vnfd : String → Vnfd} {s s' : State} {tr : List (State × Event)} {t : ThreadId}
  {occ : LcmOpOcc} {inst inst₀ inst' : VnfInstance} {grants : Option (GrantRequest × Grant)}

/-- What a driver that makes a new object leaves is stored as it is. -/
lemma rollback_stored {answer : VimAnswer} (keeps : answer.keeps = false)
    (none : answer.info.scaleStatus = none ∧ answer.info.maxScaleLevels = none ∧
      answer.info.localizationLanguage = none) :
    ((answer.applyTo inst').mergeInto inst).instantiatedVnfInfo = some answer.info := by
  obtain ⟨info, keep⟩ := answer
  obtain rfl : keep = false := keeps
  obtain ⟨scale, max, lang⟩ := none
  cases info
  simp_all [VimAnswer.applyTo, VimAnswer.infoFrom, VnfInstance.mergeInto]

/-- The instance that the handler of a rollback works on is the one that the occurrence was created
from. -/
lemma createdFrom_of_work (run : Run (Step vnfd) (State.init inst) tr s)
    (settled : Guarded Settled tr)
    (get : s.threads[t]? = some (.work .rollbackLcmOp occ inst' grants)) :
    s.db.lcmoccs.get occ.id ≠ none ∧ ∀ inst₀, CreatedFrom tr occ.id inst₀ ↔ inst₀ = inst' := by
  obtain ⟨⟨⟨row, getRow, copy, current⟩, -, state, rfl⟩, -⟩ :=
    (Calm.run run settled).ok.threads _ (List.mem_of_getElem? get)
  have active : isActive row.operationState = true := by
    rw [current trivial, state]
    rfl
  have unchanged := Unchanged.run run settled
  have stored : s.db.lcmoccs.get occ.id ≠ none := by simp [getRow]
  obtain ⟨inst₁, created, unique⟩ := unchanged.created occ.id stored
  obtain rfl := unchanged.active occ.id row inst₁ getRow active created
  exact ⟨stored, fun inst₀ => ⟨unique inst₀, fun eq => eq ▸ created⟩⟩

/-- The occurrence and the instance that the handler of a rollback works on. -/
def rollsBack : Thread → Option (LcmOpOcc × VnfInstance)
  | .work .rollbackLcmOp occ inst _ => some (occ, inst)
  | _ => none

lemma rollsBack_inv {th : Thread} (eq : rollsBack th = some (occ, inst)) :
    ∃ grants, th = .work .rollbackLcmOp occ inst grants := by
  unfold rollsBack at eq
  split at eq
  · cases eq
    exact ⟨_, rfl⟩
  · cases eq

/-- A change of the external connectivity that fails, is retried and fails again, and is rolled
back. -/
def rolledBackChange : List Event :=
  instantiation ++ lockedRequest .changeExtConn 2 2 ++ (startHandler 3 2).take 7 ++
  [.act 3 (.failed conductorProcessingError), .act 3 .go,
    .task .retry 2, .act 4 .go, .act 4 .acquire, .act 4 .go, .act 4 .go, .act 4 .go,
    .deliver ⟨.retryLcmOp, 2⟩, .act 5 .go, .act 5 .acquire, .act 5 .go, .act 5 .go, .act 5 .go,
    .act 5 .go, .act 5 (.failed conductorProcessingError), .act 5 .go,
    .task .rollback 2, .act 6 .go, .act 6 .acquire, .act 6 .go, .act 6 .go, .act 6 .go,
    .deliver ⟨.rollbackLcmOp, 2⟩, .act 7 .go, .act 7 .acquire, .act 7 .go, .act 7 .go, .act 7 .go,
    .act 7 .go]

/-- A driver for a VNFD without node templates. -/
def plainDriver : Driver where
  flavours _ := {}
  vimKey := "vim1"
  protoDataToInfo := id

/-- From an empty stack and no links the driver makes empty information. -/
lemma plainDriver_makes {flavourId : String} :
    makeInfoFrom (plainDriver.env flavourId) flavourId [] ([], []) [] =
      some { flavourId := flavourId, vnfState := .started } := by
  simp [makeInfoFrom, setIfAny, Env.storageInfos, Env.vnfcResInfos, Env.vnfVlResInfos,
    Env.storageReses, Env.serverReses, Env.networkReses, Env.portReses, getCheckedReses,
    Env.linkExtPortInfo_nil, Env.linkVnfPortInfo_nil]

lemma plainDriver_recorded (ext : info.extVirtualLinkInfo = none)
    (mgd : info.extManagedVirtualLinkInfo = none) : Recorded plainDriver [] info where
  made := ⟨([], []), [], _, plainDriver_makes, ext, mgd, nofun, nofun⟩
  uuids := nofun

lemma plainDriver_rollback {op : LcmOperationType} (ext : info.extVirtualLinkInfo = none)
    (mgd : info.extManagedVirtualLinkInfo = none) :
    plainDriver.makeInfoOfInst [] op true {} info =
      some { flavourId := info.flavourId, vnfState := .started } := by
  simp [Driver.makeInfoOfInst, makeExtVlInfoFromInst, makeExtMgdVlInfoFromInst, ext, mgd,
    plainDriver_makes]

/-- What is seen of the rollback that is about to be stored by thread 7. -/
def aboutToRollBack (s : State) : Option (Uuid × LcmOperationType × Option InstantiatedVnfInfo) :=
  (s.threads[7]?.bind rollsBack).map fun p => (p.1.id, p.1.operation, p.2.instantiatedVnfInfo)

lemma aboutToRollBack_inv {id : Uuid} {op : LcmOperationType} {info : Option InstantiatedVnfInfo}
    (eq : aboutToRollBack s = some (id, op, info)) : ∃ occ inst grants,
      s.threads[7]? = some (.work .rollbackLcmOp occ inst grants) ∧ occ.id = id ∧
        occ.operation = op ∧ inst.instantiatedVnfInfo = info := by
  obtain ⟨⟨occ, inst⟩, th, eq⟩ := Option.map_eq_some_iff.mp eq
  obtain ⟨th', get, back⟩ := Option.bind_eq_some_iff.mp th
  obtain ⟨grants, rfl⟩ := rollsBack_inv back
  simp only [Prod.mk.injEq] at eq
  exact ⟨occ, inst, grants, get, eq⟩

/-- The information of an instance with a scaling aspect. -/
def scaledInfo : InstantiatedVnfInfo where
  flavourId := "simple"
  vnfState := .started
  scaleStatus := some [⟨"VDU1", 0⟩]
  maxScaleLevels := some [⟨"VDU1", 2⟩]

/-- What is stored of occurrence 2 and of the instance. -/
def storedInfo (s : State) : Option LcmOperationState × Option InstantiatedVnfInfo :=
  (s.db.stateOf 2, s.db.inst.instantiatedVnfInfo)

/-- The rollback of a scaled instance is about to be stored, and what is stored then has no levels. -/
def LosesLevels (s : State) : Prop :=
  aboutToRollBack s = some (2, .changeExtConn, some scaledInfo) ∧
    (next (fun _ => scalableVnfd) s (.act 7 (.done plainAnswer))).map storedInfo =
      some (some .rolledBack, some plainAnswer.info)

instance : DecidablePred LosesLevels := fun _ => inferInstanceAs (Decidable (_ ∧ _))

end Tacker.Openstack
