import Tacker.UserData.VduResources
import Tacker.UserData.History
import Mathlib.Data.List.TakeDrop

/-!
# Indices of VNFCs

The name of a VNFC resource determines the VDU and the index, and the driver reads the index back
from it. The record of an instance lists the VNFCs of a VDU from the highest index down.
-/

namespace Tacker.UserData

open Tacker.Basis

/-! ## Names -/

lemma toList_addIdx (name : String) (index : Nat) :
    (addIdx name index).toList = name.toList ++ '-' :: Nat.toDigits 10 index := by
  simp [addIdx, String.toList_append, Nat.toList_repr]

/-- The part after the last separator is the index. -/
lemma rpartition_addIdx (name : String) (index : Nat) :
    rpartition (addIdx name index) =
      some (name, String.ofList (Nat.toDigits 10 index)) := by
  have digits : ∀ c ∈ (Nat.toDigits 10 index).reverse, decide (c ≠ '-') = true := by
    intro c mem
    have isDigit := Nat.isDigit_of_mem_toDigits (by decide) (by decide) (List.mem_reverse.mp mem)
    rw [decide_eq_true_iff]
    rintro rfl
    cases isDigit
  have reversed : (addIdx name index).toList.reverse =
      (Nat.toDigits 10 index).reverse ++ '-' :: name.toList.reverse := by
    rw [toList_addIdx]
    simp
  have span : (addIdx name index).toList.reverse.span (· ≠ '-') =
      ((Nat.toDigits 10 index).reverse, '-' :: name.toList.reverse) := by
    rw [reversed, List.span_eq_takeWhile_dropWhile, List.takeWhile_append_of_pos digits,
      List.dropWhile_append_of_pos digits]
    simp
  rw [rpartition, span]
  simp

lemma getVduIdx_addIdx (name : String) (index : Nat) :
    getVduIdx (addIdx name index) = .ok (some index) := by
  have ne : Nat.toDigits 10 index ≠ [] := Nat.toDigits_ne_nil
  have digits : (Nat.toDigits 10 index).all Char.isDigit = true := by
    rw [List.all_eq_true]
    intro c mem
    exact Nat.isDigit_of_mem_toDigits (by decide) (by decide) mem
  rw [getVduIdx, rpartition_addIdx]
  show some <$> parseInt _ = _
  rw [parseInt, String.toList_ofList, if_pos ⟨ne, digits⟩, Nat.ofDigitChars_ten_toDigits]
  rfl

lemma addIdx_inj {name name' : String} {index index' : Nat}
    (eq : addIdx name index = addIdx name' index') : name = name' ∧ index = index' := by
  have parts := rpartition_addIdx name index
  rw [eq, rpartition_addIdx] at parts
  obtain ⟨rfl, -⟩ := Prod.mk.inj (Option.some.inj parts)
  have idx := getVduIdx_addIdx name' index
  rw [eq, getVduIdx_addIdx] at idx
  exact ⟨rfl, (Option.some.inj (Except.ok.inj idx)).symm⟩

/-! ## The record -/

/-- The indices that an instance records for a VDU. -/
def indicesOf (vduName : String) (inst : Inst) : List (Option Nat) :=
  (inst.vnfcResourceInfo.filter fun instVnfc => instVnfc.vduId = vduName).map (·.vduIdx)

/-- The indices from the highest one down to zero. -/
def downFrom (n : Nat) : List (Option Nat) :=
  (List.range n).reverse.map some

lemma length_indicesOf {vduName : String} {inst : Inst} :
    (indicesOf vduName inst).length = getCurrentCapacity vduName inst := by
  rw [indicesOf, List.length_map, getCurrentCapacity, List.countP_eq_length_filter]

/-- What Heat lists of a stack: the resource of a VNFC is a nested stack at the top level with one
server, which has the name of the VDU. -/
structure HeatReports (vduNodes : List String) (template : Value) (listed : List HeatRes) : Prop where
  server : ∀ res ∈ serverReses vduNodes listed, ∃ vduIdx parent,
    res.parentResource = some (addIdx res.resourceName vduIdx) ∧
    (resource template (addIdx res.resourceName vduIdx)).isSome = true ∧
    getParentResource res listed = some parent ∧ parent.parentResource = none
  every : ∀ vduName ∈ vduNodes, ∀ vduIdx, (resource template (addIdx vduName vduIdx)).isSome = true →
    ∃ res ∈ serverReses vduNodes listed, res.resourceName = vduName ∧
      res.parentResource = some (addIdx vduName vduIdx)
  one : ((serverReses vduNodes listed).map (·.parentResource)).Nodup
  ids : ((serverReses vduNodes listed).map (·.physicalResourceId)).Nodup

variable {vduNodes : List String} {template : Value} {listed : List HeatRes}
  {vnfcs : List VnfcResourceInfo}

lemma name_of_getParentResource {res parent : HeatRes} {name : String}
    (found : getParentResource res listed = some parent) (eq : res.parentResource = some name) :
    parent.resourceName = name := by
  rw [getParentResource, eq, Option.bind_some] at found
  simpa using List.find?_some found

/-- What is recorded of a server. -/
lemma makeVnfc_ok (reports : HeatReports vduNodes template listed) {res : HeatRes}
    {vnfc : VnfcResourceInfo × Nat} (mem : res ∈ serverReses vduNodes listed)
    (eq : makeVnfc listed res = .ok vnfc) :
    vnfc.1.vduId = res.resourceName ∧ vnfc.1.resourceId = res.physicalResourceId ∧
      ∃ vduIdx, vnfc.1.vduIdx = some vduIdx ∧
        res.parentResource = some (addIdx res.resourceName vduIdx) ∧
        (resource template (addIdx res.resourceName vduIdx)).isSome = true := by
  obtain ⟨vduIdx, parent, parentEq, there, found, top⟩ := reports.server res mem
  obtain ⟨vduIdx', idxEq, eq⟩ := bind_ok.mp eq
  obtain rfl := pure_ok.mp eq
  have noGrand : getParentResource parent listed = none := by
    rw [getParentResource, top]
    rfl
  rw [makeVduIdx, found] at idxEq
  simp only [noGrand] at idxEq
  rw [name_of_getParentResource found parentEq, getVduIdx_addIdx] at idxEq
  cases idxEq
  exact ⟨rfl, rfl, vduIdx, rfl, parentEq, there⟩

instance : Std.Total newer where
  total a b := by
    unfold newer
    omega

instance : IsTrans (VnfcResourceInfo × Nat) newer where
  trans a b c first second := by
    unfold newer at *
    omega

/-- The record is made of the servers, sorted by their indices. -/
structure Recorded (vduNodes : List String) (template : Value) (vnfcs : List VnfcResourceInfo) :
    Prop where
  nodes : ∀ vnfc ∈ vnfcs, vnfc.vduId ∈ vduNodes ∧ ∃ vduIdx, vnfc.vduIdx = some vduIdx ∧
    (resource template (addIdx vnfc.vduId vduIdx)).isSome = true
  every : ∀ vduName ∈ vduNodes, ∀ vduIdx, (resource template (addIdx vduName vduIdx)).isSome = true →
    ∃ vnfc ∈ vnfcs, vnfc.vduId = vduName ∧ vnfc.vduIdx = some vduIdx
  one : (vnfcs.map fun vnfc => addIdx vnfc.vduId (vnfc.vduIdx.getD 0)).Nodup
  ids : (vnfcs.map (·.resourceId)).Nodup
  sorted : vnfcs.Pairwise fun vnfc vnfc' => vnfc'.vduIdx.getD 0 ≤ vnfc.vduIdx.getD 0

theorem recorded_ok (reports : HeatReports vduNodes template listed)
    (eq : makeVnfcResourceInfo vduNodes listed = .ok vnfcs) : Recorded vduNodes template vnfcs := by
  obtain ⟨made, madeEq, eq⟩ := bind_ok.mp eq
  obtain rfl := pure_ok.mp eq
  have perm := List.perm_insertionSort newer made
  have mem : ∀ vnfc, vnfc ∈ (made.insertionSort newer).map Prod.fst ↔
      ∃ res ∈ serverReses vduNodes listed, ∃ time, makeVnfc listed res = .ok (vnfc, time) := by
    intro vnfc
    rw [List.mem_map]
    constructor
    · rintro ⟨⟨vnfc, time⟩, inMade, rfl⟩
      obtain ⟨res, inServers, eq⟩ := (mem_of_mapM_ok madeEq).mp (perm.mem_iff.mp inMade)
      exact ⟨res, inServers, time, eq⟩
    · rintro ⟨res, inServers, time, eq⟩
      exact ⟨(vnfc, time), perm.mem_iff.mpr ((mem_of_mapM_ok madeEq).mpr ⟨res, inServers, eq⟩), rfl⟩
  constructor
  · intro vnfc inRecord
    obtain ⟨res, inServers, time, eq⟩ := (mem vnfc).mp inRecord
    obtain ⟨name, -, vduIdx, idx, -, there⟩ := makeVnfc_ok reports inServers eq
    have isNode : res.resourceName ∈ vduNodes := (of_decide_eq_true (List.mem_filter.mp inServers).2).2
    rw [name]
    exact ⟨isNode, vduIdx, idx, there⟩
  · intro vduName isNode vduIdx there
    obtain ⟨res, inServers, name, parent⟩ := reports.every vduName isNode vduIdx there
    obtain ⟨⟨vnfc, time⟩, eq⟩ := mapM_ok_of_mem madeEq inServers
    obtain ⟨name', -, vduIdx', idx, parent', -⟩ := makeVnfc_ok reports inServers eq
    rw [parent] at parent'
    have same := (addIdx_inj (Option.some.inj parent')).2
    exact ⟨vnfc, (mem vnfc).mpr ⟨res, inServers, time, eq⟩, by rw [name', name], by rw [idx, same]⟩
  · have parents : (made.map fun vnfc => some (addIdx vnfc.1.vduId (vnfc.1.vduIdx.getD 0))) =
        (serverReses vduNodes listed).map (·.parentResource) := by
      apply map_of_mapM_ok madeEq
      intro res inServers vnfc eq
      obtain ⟨name, -, vduIdx, idx, parent, -⟩ := makeVnfc_ok reports inServers eq
      rw [parent, name, idx, Option.getD_some]
    have unique := reports.one
    rw [← parents] at unique
    rw [List.map_map]
    apply List.Nodup.of_map some
    rw [List.map_map]
    exact (perm.map _).nodup_iff.mpr unique
  · have phys : (made.map fun vnfc => vnfc.1.resourceId) =
        (serverReses vduNodes listed).map (·.physicalResourceId) := by
      apply map_of_mapM_ok madeEq
      intro res inServers vnfc eq
      exact (makeVnfc_ok reports inServers eq).2.1
    have unique := reports.ids
    rw [← phys] at unique
    rw [List.map_map]
    exact (perm.map _).nodup_iff.mpr unique
  · rw [List.pairwise_map]
    apply (List.pairwise_insertionSort newer made).imp
    intro a b newer
    rcases newer with lt | ⟨eq, -⟩
    · exact Nat.le_of_lt lt
    · exact Nat.le_of_eq eq

/-- If the template has the first `n` indices of a VDU, the record lists them from the highest one
down. -/
theorem indicesOf_recorded {inst : Inst} {vduName : String} {n : Nat}
    (recorded : Recorded vduNodes template inst.vnfcResourceInfo) (isNode : vduName ∈ vduNodes)
    (first : ∀ vduIdx, (resource template (addIdx vduName vduIdx)).isSome = true ↔ vduIdx < n) :
    indicesOf vduName inst = downFrom n := by
  have idx : ∀ vnfc ∈ inst.vnfcResourceInfo.filter fun vnfc => vnfc.vduId = vduName,
      vnfc.vduId = vduName ∧ vnfc.vduIdx = some (vnfc.vduIdx.getD 0) ∧ vnfc.vduIdx.getD 0 < n := by
    intro vnfc mem
    obtain ⟨mem, ofVdu⟩ := List.mem_filter.mp mem
    have ofVdu := of_decide_eq_true ofVdu
    obtain ⟨-, vduIdx, eq, there⟩ := recorded.nodes vnfc mem
    rw [ofVdu, first] at there
    rw [eq]
    exact ⟨ofVdu, rfl, there⟩
  have values : (inst.vnfcResourceInfo.filter fun vnfc => vnfc.vduId = vduName).map
      (fun vnfc => vnfc.vduIdx.getD 0) = (List.range n).reverse := by
    have sorted : ((inst.vnfcResourceInfo.filter fun vnfc => vnfc.vduId = vduName).map
        fun vnfc => vnfc.vduIdx.getD 0).Pairwise fun a b => b ≤ a := by
      rw [List.pairwise_map]
      exact recorded.sorted.sublist List.filter_sublist
    have sortedRange : (List.range n).reverse.Pairwise fun a b => b ≤ a := by
      rw [List.pairwise_reverse]
      exact List.pairwise_le_range
    have unique : ((inst.vnfcResourceInfo.filter fun vnfc => vnfc.vduId = vduName).map
        fun vnfc => vnfc.vduIdx.getD 0).Nodup := by
      apply List.Nodup.of_map (addIdx vduName)
      rw [List.map_map]
      have names : (inst.vnfcResourceInfo.filter fun vnfc => vnfc.vduId = vduName).map
          (addIdx vduName ∘ fun vnfc => vnfc.vduIdx.getD 0) =
          (inst.vnfcResourceInfo.filter fun vnfc => vnfc.vduId = vduName).map
          fun vnfc => addIdx vnfc.vduId (vnfc.vduIdx.getD 0) := by
        apply List.map_congr_left
        intro vnfc mem
        rw [(idx vnfc mem).1]
        rfl
      rw [names]
      exact recorded.one.sublist (List.filter_sublist.map _)
    apply List.Perm.eq_of_pairwise _ sorted sortedRange
    · apply (List.perm_ext_iff_of_nodup unique (List.nodup_reverse.mpr List.nodup_range)).mpr
      intro i
      rw [List.mem_reverse, List.mem_range, List.mem_map]
      constructor
      · rintro ⟨vnfc, mem, rfl⟩
        exact (idx vnfc mem).2.2
      · intro lt
        obtain ⟨vnfc, mem, ofVdu, eq⟩ := recorded.every vduName isNode i ((first i).mpr lt)
        exact ⟨vnfc, List.mem_filter.mpr ⟨mem, decide_eq_true ofVdu⟩, by rw [eq, Option.getD_some]⟩
    · intro a b _ _ le ge
      exact Nat.le_antisymm ge le
  rw [indicesOf, downFrom, ← values, List.map_map]
  apply List.map_congr_left
  intro vnfc mem
  exact (idx vnfc mem).2.1

end Tacker.UserData
