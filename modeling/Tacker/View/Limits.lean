import Mathlib.Data.List.TakeWhile
import Tacker.View.Pages

/-!
# Pages under a limit

Where the query has a limit and the policy forbids rows, a page on which a fetched row is not permitted
has no next link. Exactly the rows that are fetched up to then are listed.
-/

namespace Tacker.View

open Tacker.Basis

variable {ρ ι : Type} [LinearOrder ι] {res : Resources ρ ι} {req : ListRequest}
  {tables : List (Table res.key)} {pages : List (List ρ)} {table : Table res.key} {rows : List ρ}
  {marker : Option ι} {size : ℕ}

/-! ## One page -/

/-- The request is one for which the query has a limit. -/
def ListRequest.Limited (req : ListRequest) : Prop :=
  ∃ extraAttrs, req.extraAttrs = some extraAttrs ∧ req.limit extraAttrs = some (req.pageSize + 1)

/-- The rows that the query selects beyond the marker. -/
def Resources.selected (res : Resources ρ ι) (req : ListRequest) (marker : Option ι)
    (table : Table res.key) : List ρ :=
  res.order (table.select (res.isSelected req marker))

/-- A page under a limit: the rows that are fetched and permitted, cut to the size. -/
lemma listDicts_limited (limited : req.Limited) : res.listDicts req marker table =
    cut res.key req.pageSize
      (((res.selected req marker table).take (req.pageSize + 1)).filter res.permits) := by
  obtain ⟨extraAttrs, known, limit⟩ := limited
  have positive : req.pageSize ≠ 0 := by
    rintro zero
    rw [ListRequest.limit, zero] at limit
    cases limit
  rcases limit_cases req extraAttrs with none | ⟨-, rest⟩
  · cases none.symm.trans limit
  · rw [Resources.listDicts, Resources.handlePager, if_neg positive, Resources.getDictAll, known]
    dsimp only
    rw [limit, rest]
    exact congrArg _ (List.filter_eq_self.mpr fun _ _ => rfl)

/-- The selected rows are listed in their order. -/
lemma lists_selected (inOrder : res.InOrder) (marker : Option ι) (table : Table res.key) :
    Lists res.key (fun (table : Table res.key) row => row ∈ table.rows ∧
      res.isSelected req none row = true) marker table (res.selected req marker table) := by
  obtain ⟨sorted, mem⟩ := ordered_select inOrder table (res.isSelected req marker)
  refine ⟨sorted, fun row => ?_⟩
  rw [Resources.selected, mem, isSelected_iff, and_assoc]

/-! ## The first rows that are permitted -/

/-- The rows before the first that is not permitted. -/
def Resources.permitted (res : Resources ρ ι) (rows : List ρ) : ℕ :=
  (rows.takeWhile res.permits).length

/-- The number of pages: as many as the rows before the first that is not permitted fill, and at least
one. -/
def pageCount (size before : ℕ) : ℕ :=
  max 1 ((before + size - 1) / size)

omit [LinearOrder ι] in
lemma permitted_append {front : List ρ} (back : List ρ) (all : ∀ row ∈ front, res.permits row = true) :
    res.permitted (front ++ back) = front.length + res.permitted back := by
  rw [Resources.permitted, List.takeWhile_append_of_pos all, List.length_append, Resources.permitted]

omit [LinearOrder ι] in
/-- Enough rows before the first that is not permitted: all rows up to there are permitted. -/
lemma le_permitted {n : ℕ} : n ≤ res.permitted rows ↔
    n ≤ rows.length ∧ ∀ row ∈ rows.take n, res.permits row = true := by
  constructor
  · intro enough
    refine ⟨enough.trans (List.takeWhile_sublist _).length_le, fun row mem => ?_⟩
    have same : rows.take n = (rows.takeWhile res.permits).take n := by
      conv_lhs => rw [← List.takeWhile_append_dropWhile (p := res.permits) (l := rows)]
      exact List.take_append_of_le_length enough
    rw [same] at mem
    exact List.mem_takeWhile_imp (List.mem_of_mem_take mem)
  · rintro ⟨long, all⟩
    rw [← List.take_append_drop n rows, permitted_append _ all, List.length_take_of_le long]
    exact Nat.le_add_right _ _

omit [LinearOrder ι] in
/-- More fetched rows are permitted than a page has exactly if all of them are. -/
lemma lt_length_filter : size < ((rows.take (size + 1)).filter res.permits).length ↔
    size + 1 ≤ res.permitted rows := by
  have short : ((rows.take (size + 1)).filter res.permits).length ≤ (rows.take (size + 1)).length :=
    List.length_filter_le ..
  have fetched : (rows.take (size + 1)).length ≤ size + 1 := List.length_take_le ..
  rw [le_permitted]
  constructor
  · intro more
    have long : size + 1 ≤ rows.length := by
      rw [List.length_take] at short
      omega
    refine ⟨long, List.length_filter_eq_length_iff.mp ?_⟩
    omega
  · rintro ⟨long, all⟩
    rw [List.length_filter_eq_length_iff.mpr all, List.length_take_of_le long]
    exact Nat.lt_succ_self size

lemma pageCount_of_le {before : ℕ} (le : before ≤ size) : pageCount size before = 1 := by
  refine max_eq_left (Nat.le_of_lt_succ ?_)
  rcases Nat.eq_zero_or_pos size with rfl | positive
  · rw [Nat.div_zero]
    exact Nat.succ_pos _
  · rw [Nat.div_lt_iff_lt_mul positive]
    omega

lemma pageCount_add {before : ℕ} (positive : 0 < size) (some : 0 < before) :
    pageCount size (size + before) = pageCount size before + 1 := by
  have least : 1 ≤ (before + size - 1) / size := (Nat.le_div_iff_mul_le positive).mpr (by omega)
  have next : (size + before + size - 1) / size = (before + size - 1) / size + 1 := by
    rw [← Nat.add_div_right _ positive]
    congr 1
    omega
  rw [pageCount, pageCount, next, max_eq_right least, max_eq_right (Nat.le_succ_of_le least)]

/-! ## All pages -/

/-- The pages of a table that stays, from a marker on. -/
lemma limited_run (inOrder : res.InOrder) (positive : 0 < req.pageSize) (limited : req.Limited)
    (run : Pages (fun marker table => some (res.listDicts req marker table)) marker tables pages)
    (stays : ∀ table' ∈ tables, table' = table) :
    pages.length = pageCount req.pageSize (res.permitted (res.selected req marker table)) ∧
    pages.flatten =
      ((res.selected req marker table).take (pages.length * req.pageSize + 1)).filter res.permits := by
  induction run with
  | @last marker table' page eq =>
    obtain rfl := stays table' (List.mem_singleton.mpr rfl)
    rw [Option.some_inj, listDicts_limited limited] at eq
    obtain ⟨rfl, short⟩ := cut_none positive eq.symm
    have few : res.permitted (res.selected req marker table') ≤ req.pageSize := by
      by_contra more
      exact absurd (lt_length_filter.mpr (Nat.lt_of_not_le more)) (not_lt.mpr short)
    rw [pageCount_of_le few, List.length_singleton, Nat.one_mul, List.flatten_cons, List.flatten_nil,
      List.append_nil]
    exact ⟨rfl, rfl⟩
  | @more marker table' page next tables pages eq rest ih =>
    obtain rfl := stays table' List.mem_cons_self
    obtain ⟨count, flat⟩ := ih fun table mem => stays table (List.mem_cons_of_mem _ mem)
    rw [Option.some_inj, listDicts_limited limited] at eq
    have more : req.pageSize + 1 ≤ res.permitted (res.selected req marker table') := by
      rw [← lt_length_filter]
      by_contra less
      rw [cut, if_neg less] at eq
      cases eq
    obtain ⟨long, all⟩ := le_permitted.mp more
    rw [List.filter_eq_self.mpr all, cut_take] at eq
    -- the next request selects what this page has left
    have lists := (lists_selected inOrder marker table').drop eq.symm
    have left := eq_of_sorted (lists_selected inOrder (some next) table').sorted lists.sorted fun row => by
      rw [(lists_selected inOrder (some next) table').mem, lists.mem]
    obtain ⟨rfl, -⟩ := cut_some (lists_selected inOrder marker table').sorted eq.symm
    rw [left] at count flat
    have first : ∀ row ∈ (res.selected req marker table').take req.pageSize, res.permits row = true :=
      fun row mem => all row (List.take_subset_take_left _ (Nat.le_succ _) mem)
    have size : ((res.selected req marker table').take req.pageSize).length = req.pageSize :=
      List.length_take_of_le (Nat.le_of_succ_le long)
    have before := permitted_append ((res.selected req marker table').drop req.pageSize) first
    rw [List.take_append_drop, size] at before
    constructor
    · rw [List.length_cons, count, before, pageCount_add positive (by omega)]
    · rw [List.length_cons, Nat.succ_mul, Nat.add_comm _ req.pageSize, Nat.add_assoc, List.take_add,
        List.filter_append, List.filter_eq_self.mpr first, List.flatten_cons, flat]

/-- Under a limit, the rows that are to be listed are the selected ones that are permitted. -/
lemma isListed_limited (inOrder : res.InOrder) (limited : req.Limited) {row : ρ} :
    row ∈ table.rows ∧ res.isListed req row = true ↔
      row ∈ res.selected req none table ∧ res.permits row = true := by
  obtain ⟨extraAttrs, known, limit⟩ := limited
  have rest : req.rest = [] := by
    rcases limit_cases req extraAttrs with none | ⟨-, rest⟩
    · cases none.symm.trans limit
    · exact rest
  rw [isListed_iff known, rest, (lists_selected inOrder none table).mem]
  simp only [List.all_nil, and_true, beyond_none, and_assoc]

/-- Under a limit, the pages of a table that stays are as many as the rows before the first that is
not permitted fill, and have what is permitted of the rows up to one after these. All rows that are to
be listed are on them exactly if none of the rows after that is permitted. -/
theorem limited_pages (inOrder : res.InOrder) (positive : 0 < req.pageSize) (limited : req.Limited)
    (run : DictPages res req tables pages) (stays : ∀ table' ∈ tables, table' = table) :
    pages.length = pageCount req.pageSize (res.permitted (res.selected req none table)) ∧
    pages.flatten =
      ((res.selected req none table).take (pages.length * req.pageSize + 1)).filter res.permits ∧
    ((∀ row ∈ table.rows, res.isListed req row = true → row ∈ pages.flatten) ↔
      ∀ row ∈ (res.selected req none table).drop (pages.length * req.pageSize + 1),
        res.permits row = false) := by
  obtain ⟨count, flat⟩ := limited_run inOrder positive limited run stays
  refine ⟨count, flat, ?_⟩
  have nodup : (res.selected req none table).Nodup :=
    (lists_selected inOrder none table).sorted.imp fun less eq => absurd (eq ▸ less) (lt_irrefl _)
  constructor
  · intro all row mem
    by_contra permitted
    have permits := Bool.of_not_eq_false permitted
    obtain ⟨there, listed⟩ := (isListed_limited inOrder limited).mpr ⟨List.mem_of_mem_drop mem, permits⟩
    have onPage := all row there listed
    rw [flat] at onPage
    exact List.disjoint_take_drop nodup le_rfl (List.mem_filter.mp onPage).1 mem
  · intro none row there listed
    obtain ⟨selected, permits⟩ := (isListed_limited inOrder limited).mp ⟨there, listed⟩
    rw [flat, List.mem_filter]
    refine ⟨?_, permits⟩
    rw [← List.take_append_drop (pages.length * req.pageSize + 1) (res.selected req Option.none table),
      List.mem_append] at selected
    refine selected.resolve_right fun after => ?_
    cases permits.symm.trans (none row after)

/-- The first row is forbidden: a page of it and of the row after it is the last one. -/
theorem limited_pages_forbidden :
    pageCount 1 ((numbered (2 ≤ ·)).permitted [1, 2, 3]) = 1 ∧
    ([[2]] : List (List ℕ)).flatten = [2] ∧
    ¬ ∀ row ∈ [3], (numbered (2 ≤ ·)).permits row = false := by
  have run : DictPages (numbered (2 ≤ ·)) (allRows 1) [.ofList [3, 1, 2]] [[2]] := .last rfl
  have result := limited_pages (numbered_inOrder _) Nat.one_pos ⟨[], rfl, rfl⟩ run
    fun table mem => List.mem_singleton.mp mem
  refine ⟨result.1.symm, result.2.1, ?_⟩
  decide

end Tacker.View
