import Tacker.Vnfc.HeatReses

/-!
# The order of the VNFCs

The VNFCs are sorted by an index that the name of their group in the stack ends in, and by the time
of their creation. The name may end in something else, and a group without an index is not compared
with one that has it.
-/

namespace Tacker.Vnfc

open Tacker.Basis
open Tacker.UserData (rpartition)

variable {flavour : Flavour} {heatReses : List HeatRes} {serverRes : HeatRes}
  {metadata : VnfcMetadata} {vnfc vnfc' : VnfcResourceInfo} {vnfcs : List VnfcResourceInfo}

/-! ## Groups -/

/-- The name of the group of a server, other than one of an AutoScalingGroup. -/
def groupOf (heatReses : List HeatRes) (serverRes : HeatRes) : Option String :=
  match getParentResource serverRes heatReses with
  | none => none
  | some parentRes =>
    if (getParentResource parentRes heatReses).any
        fun res => res.resourceType = "OS::Heat::AutoScalingGroup" then none
    else some parentRes.resourceName

/-- The name of the server's group has an index, or nothing that is taken for one. -/
def Readable (heatReses : List HeatRes) (serverRes : HeatRes) : Prop :=
  ∀ name ∈ groupOf heatReses serverRes, ∀ part ∈ rpartition name, (pyInt part.2).isSome = true

/-- The name of the server's group has nothing that is taken for an index. -/
def Unindexed (heatReses : List HeatRes) (serverRes : HeatRes) : Prop :=
  ∃ name ∈ groupOf heatReses serverRes, rpartition name = none

/-- The names of the groups can be read, and if one of them has no index then none has, and no server
is outside of a group. -/
def Sortable (flavour : Flavour) (heatReses : List HeatRes) : Prop :=
  (∀ res ∈ (flavour.serverReses heatReses).rows, Readable heatReses res) ∧
  ∀ res ∈ (flavour.serverReses heatReses).rows, ∀ res' ∈ (flavour.serverReses heatReses).rows,
    Unindexed heatReses res → Unindexed heatReses res'

/-! ## What is expected -/

/-- The VNFC has no index. -/
def VnfcResourceInfo.noIndex (vnfc : VnfcResourceInfo) : Prop :=
  vnfc.metadata.vduIdx.join = none

/-- Every server of a VDU is there once, and the VNFCs of a VDU are in descending order of their
index, or else of the time of their creation. -/
structure InOrder (flavour : Flavour) (heatReses : List HeatRes) (vnfcs : List VnfcResourceInfo) :
    Prop where
  once : (vnfcs.map VnfcResourceInfo.id).Nodup
  all : ∀ id, id ∈ vnfcs.map VnfcResourceInfo.id ↔
    ∃ res ∈ heatReses, res.resourceType = "OS::Nova::Server" ∧
      res.resourceName ∈ flavour.vduNodes.map Prod.fst ∧ res.physicalResourceId = id
  server : ∀ vnfc ∈ vnfcs, ∃ res ∈ heatReses, res.resourceType = "OS::Nova::Server" ∧
    res.physicalResourceId = vnfc.id ∧ res.resourceName = vnfc.vduId ∧
    res.creationTime = vnfc.metadata.creationTime
  by_index : vnfcs.Pairwise fun vnfc vnfc' => vnfc.vduId = vnfc'.vduId → ∀ idx idx',
    vnfc.metadata.vduIdx = some (some idx) → vnfc'.metadata.vduIdx = some (some idx') → idx' ≤ idx
  by_time : vnfcs.Pairwise fun vnfc vnfc' => vnfc.vduId = vnfc'.vduId →
    vnfc.noIndex → vnfc'.noIndex → vnfc'.metadata.creationTime ≤ vnfc.metadata.creationTime

/-! ## Metadata -/

/-- The index in the metadata of a server. -/
def idxOf (heatReses : List HeatRes) (serverRes : HeatRes) : Except Raised (Option (Option Int)) :=
  match groupOf heatReses serverRes with
  | none => .ok none
  | some name => some <$> getVduIdx name

lemma vduIdx_makeVnfcMetadata : (makeVnfcMetadata serverRes heatReses).map VnfcMetadata.vduIdx =
    idxOf heatReses serverRes := by
  unfold makeVnfcMetadata idxOf groupOf
  cases getParentResource serverRes heatReses with
  | none => rfl
  | some parentRes =>
    simp only
    split
    · rfl
    · show Except.map VnfcMetadata.vduIdx (getVduIdx parentRes.resourceName >>= _) =
        some <$> getVduIdx parentRes.resourceName
      cases getVduIdx parentRes.resourceName with
      | error e => rfl
      | ok idx => rfl

lemma creationTime_makeVnfcMetadata (made : makeVnfcMetadata serverRes heatReses = .ok metadata) :
    metadata.creationTime = serverRes.creationTime := by
  unfold makeVnfcMetadata at made
  cases parent : getParentResource serverRes heatReses with
  | none =>
    rw [parent] at made
    obtain rfl := Except.ok.inj made
    rfl
  | some parentRes =>
    rw [parent] at made
    simp only at made
    split at made
    · obtain rfl := Except.ok.inj made
      rfl
    · obtain ⟨idx, -, made⟩ := bind_ok.mp made
      obtain rfl := pure_ok.mp made
      rfl

lemma getVduIdx_ok {name : String} {idx : Option Int} : getVduIdx name = .ok idx ↔
    (rpartition name = none ∧ idx = none) ∨
      ∃ part n, rpartition name = some part ∧ pyInt part.2 = some n ∧ idx = some n := by
  unfold getVduIdx
  cases rpartition name with
  | none => simp [eq_comm]
  | some part =>
    cases read : pyInt part.2 with
    | none => simp [read]
    | some n => simp [read, eq_comm]

/-- The metadata can be made exactly if the name of the group can be read. -/
lemma makeVnfcMetadata_total :
    (∃ metadata, makeVnfcMetadata serverRes heatReses = .ok metadata) ↔
      Readable heatReses serverRes := by
  have same : (∃ metadata, makeVnfcMetadata serverRes heatReses = .ok metadata) ↔
      ∃ idx, idxOf heatReses serverRes = .ok idx := by
    rw [← vduIdx_makeVnfcMetadata]
    cases makeVnfcMetadata serverRes heatReses with
    | error e => simp [Except.map]
    | ok metadata => simp [Except.map]
  rw [same]
  unfold idxOf Readable
  cases groupOf heatReses serverRes with
  | none => simp
  | some name =>
    show (∃ idx, some <$> getVduIdx name = .ok idx) ↔ _
    constructor
    · rintro ⟨_, eq⟩ other mem part eq'
      obtain rfl := Option.some.inj mem
      obtain ⟨idx, read, -⟩ := map_ok.mp eq
      rcases getVduIdx_ok.mp read with ⟨none, -⟩ | ⟨part', n, there, some, -⟩
      · cases none.symm.trans eq'
      · obtain rfl := Option.some.inj (there.symm.trans eq')
        rw [some]
        rfl
    · intro readable
      cases eq : rpartition name with
      | none => exact ⟨_, map_ok.mpr ⟨none, getVduIdx_ok.mpr (.inl ⟨eq, rfl⟩), rfl⟩⟩
      | some part =>
        obtain ⟨n, read⟩ := Option.isSome_iff_exists.mp (readable name rfl part eq)
        exact ⟨_, map_ok.mpr ⟨some n, getVduIdx_ok.mpr (.inr ⟨part, n, eq, read, rfl⟩), rfl⟩⟩

/-- The key of a VNFC has no index exactly if its group has none. -/
lemma getKey_eq_none (made : makeVnfcMetadata serverRes heatReses = .ok metadata) :
    metadata.vduIdx.getD (some 0) = none ↔ Unindexed heatReses serverRes := by
  have idx : idxOf heatReses serverRes = .ok metadata.vduIdx := by
    rw [← vduIdx_makeVnfcMetadata, made]
    rfl
  unfold idxOf at idx
  unfold Unindexed
  cases group : groupOf heatReses serverRes with
  | none =>
    rw [group] at idx
    rw [← Except.ok.inj idx]
    simp
  | some name =>
    rw [group] at idx
    obtain ⟨n, read, eq⟩ := map_ok.mp idx
    rw [← eq]
    rcases getVduIdx_ok.mp read with ⟨none, rfl⟩ | ⟨part, n, some, -, rfl⟩
    · simp [none]
    · simp [some]

/-! ## Keys -/

/-- Comparing works within the keys with an index and within those without. -/
lemma keyLt_total (vnfc vnfc' : VnfcResourceInfo) : (∃ less, keyLt vnfc vnfc' = .ok less) ↔
    (getKey vnfc).1.isNone = (getKey vnfc').1.isNone := by
  unfold keyLt
  cases (getKey vnfc).1 with
  | none =>
    cases (getKey vnfc').1 with
    | none => simp
    | some idx' => simp
  | some idx =>
    cases (getKey vnfc').1 with
    | none => simp
    | some idx' =>
      split
      · simp
      · simp

/-- The first key is not less than the second. -/
def KeyGe (vnfc vnfc' : VnfcResourceInfo) : Prop :=
  ((getKey vnfc).1 = (getKey vnfc').1 ∧ (getKey vnfc').2 ≤ (getKey vnfc).2) ∨
    ∃ idx idx', (getKey vnfc).1 = some idx ∧ (getKey vnfc').1 = some idx' ∧ idx' < idx

lemma KeyGe.trans {a b c : VnfcResourceInfo} (ge : KeyGe a b) (ge' : KeyGe b c) : KeyGe a c := by
  rcases ge with ⟨same, time⟩ | ⟨i, j, eq, eq', less⟩
  · rcases ge' with ⟨same', time'⟩ | ⟨j, k, eq, eq', less⟩
    · exact .inl ⟨same.trans same', Nat.le_trans time' time⟩
    · exact .inr ⟨j, k, same.trans eq, eq', less⟩
  · rcases ge' with ⟨same', time'⟩ | ⟨j', k, eq'', eq''', less'⟩
    · exact .inr ⟨i, j, eq, same' ▸ eq', less⟩
    · obtain rfl := Option.some.inj (eq'.symm.trans eq'')
      exact .inr ⟨i, k, eq, eq''', Int.lt_trans less' less⟩

lemma keyGe_of_less (less : keyLt vnfc vnfc' = .ok true) : KeyGe vnfc' vnfc := by
  unfold keyLt at less
  split at less
  · case isTrue same =>
    have time : (getKey vnfc).2 < (getKey vnfc').2 := by simpa using less
    exact .inl ⟨same.symm, Nat.le_of_lt time⟩
  · split at less
    · case h_1 idx idx' eq eq' =>
      exact .inr ⟨idx', idx, eq', eq, by simpa using less⟩
    · cases less

lemma keyGe_of_not (not : keyLt vnfc vnfc' = .ok false) : KeyGe vnfc vnfc' := by
  unfold keyLt at not
  split at not
  · case isTrue same =>
    have time : ¬ (getKey vnfc).2 < (getKey vnfc').2 := by simpa using not
    exact .inl ⟨same, Nat.le_of_not_lt time⟩
  · case isFalse differ =>
    split at not
    · case h_1 idx idx' eq eq' =>
      have le : idx' ≤ idx := by simpa using not
      have ne : idx' ≠ idx := by
        rintro rfl
        exact differ (eq.trans eq'.symm)
      exact .inr ⟨idx, idx', eq, eq', by omega⟩
    · cases not

/-- Without an index the key has a zero in its place, if anything. -/
lemma key_of_noIndex {idx : Int} (no : vnfc.noIndex) (eq : (getKey vnfc).1 = some idx) :
    idx = 0 := by
  unfold VnfcResourceInfo.noIndex at no
  unfold getKey at eq
  cases vduIdx : vnfc.metadata.vduIdx with
  | none =>
    rw [vduIdx] at eq
    exact (Option.some.inj eq).symm
  | some inner =>
    rw [vduIdx] at eq no
    have none : inner = none := no
    rw [none] at eq
    cases eq

/-! ## The VNFCs of a stack -/

/-- The VNFC of a server, if it is made. -/
structure MadeOf (heatReses : List HeatRes) (serverRes : HeatRes) (vnfc : VnfcResourceInfo) :
    Prop where
  id : vnfc.id = serverRes.physicalResourceId
  vduId : vnfc.vduId = serverRes.resourceName
  metadata : makeVnfcMetadata serverRes heatReses = .ok vnfc.metadata

lemma madeOf {storageReses : Table HeatRes.physicalResourceId}
    (made : makeVnfcResInfo heatReses storageReses serverRes = .ok vnfc) :
    MadeOf heatReses serverRes vnfc := by
  obtain ⟨metadata, eq, made⟩ := bind_ok.mp made
  obtain rfl := pure_ok.mp made
  exact ⟨rfl, rfl, eq⟩

/-- The VNFCs can be made exactly if the names of all groups can be read. -/
lemma makeVnfcResInfos_total : (∃ vnfcs, makeVnfcResInfos flavour heatReses = .ok vnfcs) ↔
    ∀ res ∈ (flavour.serverReses heatReses).rows, Readable heatReses res := by
  unfold makeVnfcResInfos
  rw [mapM_ok_total]
  apply forall₂_congr
  intro res mem
  rw [← makeVnfcMetadata_total]
  constructor
  · rintro ⟨vnfc, made⟩
    exact ⟨vnfc.metadata, (madeOf made).metadata⟩
  · rintro ⟨metadata, eq⟩
    exact ⟨_, bind_ok.mpr ⟨metadata, eq, rfl⟩⟩

/-- The VNFCs that were made can be sorted exactly if with one group all servers are without an
index. -/
lemma sort_total (made : makeVnfcResInfos flavour heatReses = .ok vnfcs) :
    (∃ sorted, sortDesc keyLt vnfcs = .ok sorted) ↔
      ∀ res ∈ (flavour.serverReses heatReses).rows,
        ∀ res' ∈ (flavour.serverReses heatReses).rows,
          Unindexed heatReses res → Unindexed heatReses res' := by
  have unindexed : ∀ {res vnfc}, makeVnfcResInfo heatReses (flavour.storageReses heatReses) res =
      .ok vnfc → ((getKey vnfc).1.isNone = true ↔ Unindexed heatReses res) := by
    intro res vnfc made
    rw [Option.isNone_iff_eq_none]
    exact getKey_eq_none (madeOf made).metadata
  rw [sortDesc_total_iff keyLt_total]
  constructor
  · intro pairs res mem res' mem' no
    obtain ⟨vnfc, eq⟩ := mapM_ok_of_mem made mem
    obtain ⟨vnfc', eq'⟩ := mapM_ok_of_mem made mem'
    have same := List.Pairwise.forall_of_forall_of_flip
      (R := fun a b => (getKey a).1.isNone = (getKey b).1.isNone) (fun _ _ => rfl) pairs
      (pairs.imp fun eq => Eq.symm eq)
      ((mem_of_mapM_ok made).mpr ⟨res, mem, eq⟩) ((mem_of_mapM_ok made).mpr ⟨res', mem', eq'⟩)
    exact (unindexed eq').mp (same ▸ (unindexed eq).mpr no)
  · intro all
    have same : ∀ vnfc ∈ vnfcs, ∀ vnfc' ∈ vnfcs,
        (getKey vnfc).1.isNone = (getKey vnfc').1.isNone := by
      intro vnfc mem vnfc' mem'
      obtain ⟨res, there, eq⟩ := (mem_of_mapM_ok made).mp mem
      obtain ⟨res', there', eq'⟩ := (mem_of_mapM_ok made).mp mem'
      apply Bool.eq_iff_iff.mpr
      rw [unindexed eq, unindexed eq']
      exact ⟨all res there res' there', all res' there' res there⟩
    exact List.pairwise_iff_forall_sublist.mpr fun {a b} sub =>
      same a (sub.subset List.mem_cons_self) b
        (sub.subset (List.mem_cons_of_mem a List.mem_cons_self))

/-- The VNFCs that come out of the sorting are in order. -/
lemma inOrder_of_sorted {sorted : List VnfcResourceInfo}
    (made : makeVnfcResInfos flavour heatReses = .ok vnfcs)
    (ok : sortDesc keyLt vnfcs = .ok sorted) : InOrder flavour heatReses sorted := by
  have perm := sortDesc_perm ok
  have ids : vnfcs.map VnfcResourceInfo.id =
      (flavour.serverReses heatReses).rows.map HeatRes.physicalResourceId :=
    map_of_mapM_ok made fun res _ vnfc eq => (madeOf eq).id
  have ge : sorted.Pairwise KeyGe := sortDesc_pairwise
    (fun _ _ _ => KeyGe.trans) (fun _ _ => keyGe_of_less) (fun _ _ => keyGe_of_not) ok
  have cls : sorted.Pairwise fun vnfc vnfc' =>
      (getKey vnfc).1.isNone = (getKey vnfc').1.isNone :=
    ((sortDesc_total_iff keyLt_total).mp ⟨sorted, ok⟩).perm perm.symm fun eq => eq.symm
  refine ⟨?_, ?_, ?_, ?_, ?_⟩
  · apply (perm.map _).nodup_iff.mpr
    rw [ids]
    exact (flavour.serverReses heatReses).nodup
  · intro id
    rw [(perm.map VnfcResourceInfo.id).mem_iff, ids]
    unfold Flavour.serverReses getCheckedReses
    rw [Table.key_mem_ofList]
    simp only [List.mem_map, List.mem_filter, decide_eq_true_eq, and_assoc]
  · intro vnfc mem
    obtain ⟨res, there, eq⟩ := (mem_of_mapM_ok made).mp (perm.mem_iff.mp mem)
    obtain ⟨within, server⟩ := List.mem_filter.mp (Table.mem_of_mem_ofList there)
    obtain ⟨id, vduId, metadata⟩ := madeOf eq
    exact ⟨res, within, (of_decide_eq_true server).1, id.symm, vduId.symm,
      (creationTime_makeVnfcMetadata metadata).symm⟩
  · apply ge.imp
    intro vnfc vnfc' ge _ idx idx' eq eq'
    have key : (getKey vnfc).1 = some idx := by rw [getKey, eq]; rfl
    have key' : (getKey vnfc').1 = some idx' := by rw [getKey, eq']; rfl
    rcases ge with ⟨same, -⟩ | ⟨i, j, eqi, eqj, less⟩
    · rw [key, key'] at same
      exact Int.le_of_eq (Option.some.inj same).symm
    · rw [key] at eqi
      rw [key'] at eqj
      obtain rfl := Option.some.inj eqi
      obtain rfl := Option.some.inj eqj
      exact Int.le_of_lt less
  · apply (ge.and cls).imp
    rintro vnfc vnfc' ⟨ge, cls⟩ - no no'
    rcases ge with ⟨-, time⟩ | ⟨i, j, eqi, eqj, less⟩
    · exact time
    · -- two keys without an index are the same
      have zero := key_of_noIndex no eqi
      have zero' := key_of_noIndex no' eqj
      omega

/-! ## Main results -/

/-- The servers of a stack become VNFCs in order exactly if the names of their groups can be read,
and if with one group whose name has no index all are in such groups. -/
theorem sorted_iff (flavour : Flavour) (heatReses : List HeatRes) :
    (∃ vnfcs, sortedVnfcResInfos flavour heatReses = .ok vnfcs ∧
      InOrder flavour heatReses vnfcs) ↔ Sortable flavour heatReses := by
  unfold sortedVnfcResInfos Sortable
  rw [← makeVnfcResInfos_total]
  constructor
  · rintro ⟨sorted, ok, -⟩
    obtain ⟨vnfcs, made, ok⟩ := bind_ok.mp ok
    exact ⟨⟨vnfcs, made⟩, (sort_total made).mp ⟨sorted, ok⟩⟩
  · rintro ⟨⟨vnfcs, made⟩, all⟩
    obtain ⟨sorted, ok⟩ := (sort_total made).mpr all
    exact ⟨sorted, bind_ok.mpr ⟨vnfcs, made, ok⟩, inOrder_of_sorted made ok⟩

/-- A server of its own and one in a group without an index. -/
def mixedReses : List HeatRes :=
  [ { resourceName := "VDU1", resourceType := "OS::Nova::Server", physicalResourceId := "server-1" },
    { resourceName := "VDU2", resourceType := "OS::Nova::Server", physicalResourceId := "server-2"
      parentResource := some "group" },
    { resourceName := "group", resourceType := "VDU2.yaml", physicalResourceId := "stack-2" } ]

/-- Their indices cannot be compared. -/
theorem not_sorted_mixed : ¬ ∀ (flavour : Flavour) (heatReses : List HeatRes),
    ∃ vnfcs, sortedVnfcResInfos flavour heatReses = .ok vnfcs ∧
      InOrder flavour heatReses vnfcs := by
  intro all
  obtain ⟨vnfcs, ok, -⟩ := all ⟨[("VDU1", []), ("VDU2", [])], []⟩ mixedReses
  have raised : sortedVnfcResInfos ⟨[("VDU1", []), ("VDU2", [])], []⟩ mixedReses =
      .error .typeError := by decide
  cases raised.symm.trans ok

end Tacker.Vnfc
