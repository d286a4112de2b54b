import Tacker.View.Lists

/-!
# Following the next links

Where the database returns rows in the order of their ids, the pages of a list have every row that is
listed all the time exactly once, whatever happens to the table between two requests. The limit of
the query spoils this where the policy forbids rows: the first page with a row that was fetched and
not permitted is the last one.
-/

namespace Tacker.View

open Tacker.Basis

variable {ρ ι : Type} [LinearOrder ι] {res : Resources ρ ι} {req : ListRequest}
  {tables : List (Table res.key)} {pages : List (List ρ)} {table : Table res.key} {rows : List ρ}
  {marker : Option ι} {size : ℕ}

/-! ## Rows in the order of their ids -/

/-- The rows of a table, in the order of their ids, are strictly ordered. -/
lemma strictly_sorted {rows' : List ρ} (nodup : (rows.map res.key).Nodup) (perm : rows'.Perm rows)
    (sorted : rows'.Pairwise fun row row' => res.key row ≤ res.key row') :
    rows'.Pairwise fun row row' => res.key row < res.key row' := by
  have distinct : rows'.Pairwise fun row row' => res.key row ≠ res.key row' :=
    List.pairwise_map.mp ((perm.map res.key).nodup_iff.mpr nodup)
  exact (sorted.and distinct).imp fun both => lt_of_le_of_ne both.1 both.2

omit [LinearOrder ι] in
lemma nodup_select (p : ρ → Bool) : ((table.select p).map res.key).Nodup :=
  table.nodup.sublist (List.filter_sublist.map res.key)

/-- The selected rows as the database returns them. -/
lemma ordered_select (inOrder : res.InOrder) (table : Table res.key) (p : ρ → Bool) :
    (res.order (table.select p)).Pairwise (fun row row' => res.key row < res.key row') ∧
      ∀ row, row ∈ res.order (table.select p) ↔ row ∈ table.rows ∧ p row = true := by
  obtain ⟨perm, sorted⟩ := inOrder (table.select p)
  refine ⟨strictly_sorted (nodup_select p) perm sorted, fun row => ?_⟩
  rw [perm.mem_iff, Table.select, List.mem_filter]

/-- Rows that are sorted by their ids. -/
lemma sorted_by_key (rows : List ρ) :
    (rows.mergeSort fun row row' => res.key row ≤ res.key row').Pairwise
      fun row row' => res.key row ≤ res.key row' := by
  have trans : ∀ row row' row'' : ρ, decide (res.key row ≤ res.key row') = true →
      decide (res.key row' ≤ res.key row'') = true → decide (res.key row ≤ res.key row'') = true :=
    fun _ _ _ less less' => decide_eq_true ((of_decide_eq_true less).trans (of_decide_eq_true less'))
  have total : ∀ row row' : ρ,
      (decide (res.key row ≤ res.key row') || decide (res.key row' ≤ res.key row)) = true :=
    fun row row' => by simpa using le_total (res.key row) (res.key row')
  have sorted := List.pairwise_mergeSort trans total rows
  exact sorted.imp of_decide_eq_true

omit [LinearOrder ι] in
/-- One row more than fit on a page are enough to cut it. -/
lemma cut_take (rows : List ρ) : cut res.key size (rows.take (size + 1)) = cut res.key size rows := by
  rw [cut, cut, List.length_take]
  by_cases more : size < rows.length
  · rw [if_pos (lt_min (Nat.lt_succ_self size) more), if_pos more, List.take_take,
      Nat.min_eq_left (Nat.le_succ size)]
  · rw [if_neg (fun less => more (lt_of_lt_of_le less (min_le_right _ _))), if_neg more,
      List.take_of_length_le (Nat.le_succ_of_le (Nat.le_of_not_lt more))]

lemma beyond_iff {row : ρ} :
    marker.all (fun m => decide (m < res.key row)) = true ↔ Beyond marker (res.key row) := by
  cases marker with
  | none => exact iff_of_true rfl (beyond_none _)
  | some m =>
    rw [Option.all_some, decide_eq_true_iff]
    exact beyond_some.symm

/-! ## Lists of dictionaries -/

/-- The row is one that the list is to have. -/
def Resources.isListed (res : Resources ρ ι) (req : ListRequest) (row : ρ) : Bool :=
  req.extraAttrs.isSome && (req.filters.filter FilterExpr.isForDb).all (res.selects · row) &&
    res.permits row && req.rest.all (res.fits · row)

/-- The row matches all filters. -/
def Resources.isMatched (res : Resources ρ ι) (req : ListRequest) (row : ρ) : Bool :=
  req.filters.all (res.fits · row)

/-- The limit does not get in the way of the policy: there is none, or all rows are permitted that the
query selects. -/
def Resources.Unhampered (res : Resources ρ ι) (req : ListRequest) : Prop :=
  (∀ extraAttrs, req.extraAttrs = some extraAttrs → req.limit extraAttrs = none) ∨
    ∀ row, res.isSelected req none row = true → res.permits row = true

lemma isSelected_iff {row : ρ} : res.isSelected req marker row = true ↔
    res.isSelected req none row = true ∧ Beyond marker (res.key row) := by
  rw [Resources.isSelected, Resources.isSelected, Bool.and_eq_true, Bool.and_eq_true, beyond_iff]
  simp only [Option.all_none, and_true]

/-- The rows that the list is to have are among the selected ones. -/
lemma isListed_iff {extraAttrs : List String} (known : req.extraAttrs = some extraAttrs) {row : ρ} :
    res.isListed req row = true ↔ res.isSelected req none row = true ∧
      res.permits row = true ∧ req.rest.all (res.fits · row) = true := by
  rw [Resources.isListed, Resources.isSelected, known]
  simp only [Option.isSome_some, Bool.true_and, Option.all_none, Bool.and_true, Bool.and_eq_true,
    and_assoc]

/-- Where the limit is used there are no filters left. -/
lemma limit_cases (req : ListRequest) (extraAttrs : List String) : req.limit extraAttrs = none ∨
    req.limit extraAttrs = some (req.pageSize + 1) ∧ req.rest = [] := by
  rw [ListRequest.limit]
  split
  · case isTrue short =>
    obtain ⟨short, -⟩ := Bool.and_eq_true_iff.mp short
    exact .inr ⟨rfl, List.isEmpty_iff.mp (Bool.and_eq_true_iff.mp short).2⟩
  · exact .inl rfl

/-- A page of dictionaries is cut from the listed rows. -/
lemma listDicts_cuts (inOrder : res.InOrder) (positive : 0 < req.pageSize)
    (unhampered : res.Unhampered req) :
    CutsPages res.key req.pageSize
      (fun (table : Table res.key) row => row ∈ table.rows ∧ res.isListed req row = true)
      (fun marker table => some (res.listDicts req marker table)) := by
  intro marker table answer eq
  cases eq
  rw [Resources.listDicts, Resources.handlePager, if_neg (Nat.pos_iff_ne_zero.mp positive),
    Resources.getDictAll]
  cases known : req.extraAttrs with
  | none =>
    refine ⟨[], ⟨List.Pairwise.nil, fun row => ?_⟩, rfl⟩
    refine iff_of_false List.not_mem_nil ?_
    rintro ⟨⟨-, isListed⟩, -⟩
    rw [Resources.isListed, known] at isListed
    cases isListed
  | some extraAttrs =>
    obtain ⟨sorted, mem⟩ := ordered_select inOrder table (res.isSelected req marker)
    have lists : Lists res.key
        (fun (table : Table res.key) row => row ∈ table.rows ∧ res.isListed req row = true) marker table
        (((res.order (table.select (res.isSelected req marker))).filter res.permits).filter
          fun row => req.rest.all (res.fits · row)) := by
      refine ⟨(sorted.sublist List.filter_sublist).sublist List.filter_sublist, fun row => ?_⟩
      rw [List.mem_filter, List.mem_filter, mem, isSelected_iff, isListed_iff known]
      tauto
    refine ⟨_, lists, ?_⟩
    dsimp only
    rcases limit_cases req extraAttrs with none | ⟨some, rest⟩
    · rw [none]
    · rw [some]
      have allowed : ∀ row, res.isSelected req Option.none row = true → res.permits row = true := by
        refine unhampered.resolve_left fun unlimited => ?_
        cases some.symm.trans (unlimited extraAttrs known)
      have kept : ∀ rows : List ρ, (∀ row ∈ rows, res.permits row = true) →
          (rows.filter res.permits).filter (fun row => req.rest.all (res.fits · row)) = rows := by
        intro rows all
        rw [List.filter_eq_self.mpr all, rest]
        exact List.filter_eq_self.mpr fun _ _ => rfl
      have permitted : ∀ row ∈ res.order (table.select (res.isSelected req marker)),
          res.permits row = true := fun row there =>
        allowed row (isSelected_iff.mp ((mem row).mp there).2).1
      dsimp only
      rw [kept _ permitted, kept _ fun row there => permitted row (List.mem_of_mem_take there), cut_take]


/-! ## Lists of objects -/

/-- A page of objects is cut from the rows that match. -/
lemma listObjects_cuts (req : ListRequest) (inOrder : res.InOrder) (positive : 0 < req.pageSize) :
    CutsPages res.key req.pageSize
      (fun (table : Table res.key) row => row ∈ table.rows ∧ res.isMatched req row = true)
      (fun marker table => res.listObjects req marker table) := by
  intro marker table answer eq
  obtain ⟨rows, all, rfl⟩ := Option.map_eq_some_iff.mp eq
  have sorted : rows.Pairwise (fun row row' => res.key row < res.key row') ∧
      ∀ row, row ∈ rows ↔ row ∈ table.rows ∧ Beyond marker (res.key row) := by
    cases marker with
    | none =>
      cases all
      obtain ⟨perm, sorted⟩ := inOrder table.rows
      refine ⟨strictly_sorted table.nodup perm sorted, fun row => ?_⟩
      rw [perm.mem_iff]
      exact ⟨fun mem => ⟨mem, beyond_none _⟩, And.left⟩
    | some m =>
      rw [Resources.getAll] at all
      obtain ⟨-, ⟨⟩⟩ := Option.ite_none_right_eq_some.mp all
      have perm := List.mergeSort_perm (table.select fun row => m < res.key row)
        fun row row' => res.key row ≤ res.key row'
      refine ⟨strictly_sorted (nodup_select _) perm (sorted_by_key _), fun row => ?_⟩
      rw [perm.mem_iff, Table.select, List.mem_filter, decide_eq_true_iff, beyond_some]
  refine ⟨rows.filter (res.isMatched req), ⟨sorted.1.sublist List.filter_sublist, fun row => ?_⟩, ?_⟩
  · rw [List.mem_filter, sorted.2 row]
    tauto
  · rw [Resources.handlePager, if_neg (Nat.pos_iff_ne_zero.mp positive)]
    rfl

/-- A page is refused exactly if the row of the marker is gone. -/
lemma listObjects_isSome {m : ι} :
    (res.listObjects req (some m) table).isSome = true ↔ m ∈ table.rows.map res.key := by
  rw [Resources.listObjects, Resources.getAll, Option.isSome_map]
  constructor
  · intro answered
    by_contra gone
    rw [Table.get_eq_none.mpr gone] at answered
    cases answered
  · intro there
    have found : table.get m ≠ none := fun none => Table.get_eq_none.mp none there
    rw [if_pos (Option.isSome_iff_ne_none.mpr found), Option.isSome_some]

/-! ## The pages -/

/-- What holds of the pages of the tables. -/
structure Paged (res : Resources ρ ι) (pageSize : ℕ) (listed : ρ → Bool)
    (tables : List (Table res.key)) (pages : List (List ρ)) : Prop where
  /-- No row is returned twice. -/
  sorted : pages.flatten.Pairwise fun row row' => res.key row < res.key row'
  /-- Every row of a page is there, and is to be listed, when the page is requested. -/
  sound : List.Forall₂ (fun (table : Table res.key) page => page.length ≤ pageSize ∧
    ∀ row ∈ page, row ∈ table.rows ∧ listed row = true) tables pages
  /-- What is there all the time, and always to be listed, is returned. -/
  complete : ∀ k, (∀ table ∈ tables, ∃ row ∈ table.rows, res.key row = k ∧ listed row = true) →
    ∃ row ∈ pages.flatten, res.key row = k
  /-- The pages of a table that stays are its listing. -/
  listing : ∀ table : Table res.key, (∀ table' ∈ tables, table' = table) →
    pages.flatten = (res.order table.rows).filter listed

variable {listed : ρ → Bool} {request : Option ι → Table res.key → Option (List ρ × Option ι)}

/-- The listing of a table. -/
lemma lists_table (inOrder : res.InOrder) (listed : ρ → Bool) (table : Table res.key) :
    Lists res.key (fun (table : Table res.key) row => row ∈ table.rows ∧ listed row = true) none table
      ((res.order table.rows).filter listed) where
  sorted := by
    obtain ⟨perm, sorted⟩ := inOrder table.rows
    exact (strictly_sorted table.nodup perm sorted).sublist List.filter_sublist
  mem row := by
    rw [List.mem_filter, (inOrder table.rows).1.mem_iff]
    exact ⟨fun both => ⟨both, beyond_none _⟩, And.left⟩

/-- What is cut from the rows that are to be listed is paged. -/
lemma paged_of_cuts (inOrder : res.InOrder) (positive : 0 < size)
    (cuts : CutsPages res.key size
      (fun (table : Table res.key) row => row ∈ table.rows ∧ listed row = true) request)
    (run : Pages request none tables pages) : Paged res size listed tables pages where
  sorted := (pages_sorted positive cuts run).1
  sound := pages_listed positive cuts run
  complete k always := by
    refine pages_complete positive cuts run (beyond_none k) fun table mem => ?_
    obtain ⟨row, there, same, isListed⟩ := always table mem
    exact ⟨row, same, there, isListed⟩
  listing table stays := pages_eq positive cuts run (lists_table inOrder listed table) stays

/-- The pages of a list of dictionaries, from the first on. -/
def DictPages (res : Resources ρ ι) (req : ListRequest) : List (Table res.key) → List (List ρ) → Prop :=
  Pages (fun marker table => some (res.listDicts req marker table)) none

/-- The pages of a list of objects, from the first on. -/
def ObjectPages (res : Resources ρ ι) (req : ListRequest) :
    List (Table res.key) → List (List ρ) → Prop :=
  Pages (fun marker table => res.listObjects req marker table) none

/-- Following the next links of a list of dictionaries comes to an end, and has every row that is to
be listed once, however the table changes between two requests. -/
theorem dicts_paged (inOrder : res.InOrder) (positive : 0 < req.pageSize)
    (unhampered : res.Unhampered req) :
    (∀ tables pages, DictPages res req tables pages →
      Paged res req.pageSize (res.isListed req) tables pages) ∧
    ∀ table : Table res.key, ∃ tables pages, (∀ table' ∈ tables, table' = table) ∧
      DictPages res req tables pages := by
  have cuts := listDicts_cuts inOrder positive unhampered
  refine ⟨fun tables pages run => paged_of_cuts inOrder positive cuts run, fun table => ?_⟩
  exact pages_exist positive cuts (lists_table inOrder _ table) (fun _ _ => rfl) rfl

/-- Rows that are their ids. -/
def numbered (permits : ℕ → Bool) : Resources ℕ ℕ where
  key := id
  order := List.insertionSort (· ≤ ·)
  selects _ _ := true
  fits _ _ := true
  permits := permits

/-- A request for all rows. -/
def allRows (pageSize : ℕ) : ListRequest where
  allAttrs := ["id"]
  filters := []
  selector := .ofAttrs ["id"]
  pageSize := pageSize

lemma numbered_inOrder (permits : ℕ → Bool) : (numbered permits).InOrder := by
  intro rows
  exact ⟨List.perm_insertionSort _ rows, List.pairwise_insertionSort _ rows⟩

/-- The first row is deleted, one before the marker is added, and then one after it. -/
theorem dicts_paged_changed : Paged (numbered fun _ => true) 1 (fun _ => true)
    [.ofList [3, 1, 2], .ofList [3, 0, 2], .ofList [3, 0, 5], .ofList [5, 3]] [[1], [2], [3], [5]] := by
  have run : DictPages (numbered fun _ => true) (allRows 1)
      [.ofList [3, 1, 2], .ofList [3, 0, 2], .ofList [3, 0, 5], .ofList [5, 3]]
      [[1], [2], [3], [5]] :=
    .more rfl (.more rfl (.more rfl (.last rfl)))
  have unhampered : (numbered fun _ => true).Unhampered (allRows 1) := .inr fun _ _ => rfl
  exact (dicts_paged (numbered_inOrder _) Nat.one_pos unhampered).1 _ _ run

/-- The same holds of a list of objects; there a next link is refused exactly if the row that it was
made for is gone. -/
theorem objects_paged (inOrder : res.InOrder) (positive : 0 < req.pageSize) :
    (∀ tables pages, ObjectPages res req tables pages →
      Paged res req.pageSize (res.isMatched req) tables pages) ∧
    (∀ table : Table res.key, ∃ tables pages, (∀ table' ∈ tables, table' = table) ∧
      ObjectPages res req tables pages) ∧
    ∀ (m : ι) (table : Table res.key),
      res.listObjects req (some m) table = none ↔ m ∉ table.rows.map res.key := by
  have cuts := listObjects_cuts req inOrder positive
  refine ⟨fun tables pages run => paged_of_cuts inOrder positive cuts run, fun table => ?_,
    fun m table => ?_⟩
  · refine pages_exist positive cuts (lists_table inOrder _ table) (fun {m row} there same => ?_) rfl
    exact listObjects_isSome.mpr (same ▸ List.mem_map_of_mem there.1)
  · rw [← Option.not_isSome_iff_eq_none, listObjects_isSome]

/-- The first row is kept, and one after the marker is added. -/
theorem objects_paged_changed : Paged (numbered fun _ => true) 1 (fun _ => true)
    [.ofList [3, 1], .ofList [1, 2]] [[1], [2]] := by
  have run : ObjectPages (numbered fun _ => true) (allRows 1) [.ofList [3, 1], .ofList [1, 2]]
      [[1], [2]] :=
    .more rfl (.last (by decide +kernel))
  exact (objects_paged (numbered_inOrder _) Nat.one_pos).1 _ _ run

end Tacker.View
