import Mathlib.Data.List.Nodup
import Mathlib.Data.List.Perm.Basic
import Mathlib.Data.List.Sort
import Mathlib.Tactic.Lemma
import Mathlib.Tactic.TypeStar

/-!
# Pages of a table that changes

A listing is read page by page. Each request names the key that the page before ended with, finds the
rows beyond it in the order of their keys, and is answered with the first of them. Between two
requests the table may change in any way.
-/

namespace Tacker.Basis

variable {ρ ι τ : Type*} [LinearOrder ι] {key : ρ → ι} {size : ℕ}

/-- The first rows, and the key of the last of them if there are more. -/
def cut (key : ρ → ι) (size : ℕ) (rows : List ρ) : List ρ × Option ι :=
  if size < rows.length then (rows.take size, (rows.take size).getLast?.map key) else (rows, none)

/-- The key is beyond the marker, if there is one. -/
def Beyond (marker : Option ι) (k : ι) : Prop :=
  ∀ m, marker = some m → m < k

/-- The pages of requests that follow each other, with the table of each request. -/
inductive Pages (request : Option ι → τ → Option (List ρ × Option ι)) :
    Option ι → List τ → List (List ρ) → Prop where
  | last {marker table page} (eq : request marker table = some (page, none)) :
      Pages request marker [table] [page]
  | more {marker table page next tables pages} (eq : request marker table = some (page, some next))
      (rest : Pages request (some next) tables pages) :
      Pages request marker (table :: tables) (page :: pages)

/-- The rows that are listed beyond the marker, in the order of their keys. -/
structure Lists (key : ρ → ι) (listed : τ → ρ → Prop) (marker : Option ι) (table : τ) (rows : List ρ) :
    Prop where
  sorted : rows.Pairwise fun r r' => key r < key r'
  mem : ∀ r, r ∈ rows ↔ listed table r ∧ Beyond marker (key r)

/-- A page is cut from the rows that are listed beyond the marker. -/
def CutsPages (key : ρ → ι) (size : ℕ) (listed : τ → ρ → Prop)
    (request : Option ι → τ → Option (List ρ × Option ι)) : Prop :=
  ∀ marker table answer, request marker table = some answer →
    ∃ rows, Lists key listed marker table rows ∧ answer = cut key size rows

variable {listed : τ → ρ → Prop} {request : Option ι → τ → Option (List ρ × Option ι)}
  {marker : Option ι} {table : τ} {tables : List τ} {pages : List (List ρ)} {rows rows' : List ρ}

/-! ## One page -/

lemma beyond_none (k : ι) : Beyond (none : Option ι) k := by
  intro m eq
  cases eq

lemma beyond_some {m k : ι} : Beyond (some m) k ↔ m < k := by
  constructor
  · intro beyond
    exact beyond m rfl
  · rintro less m' ⟨⟩
    exact less

/-- Two lists of the same rows in the order of their keys are the same. -/
lemma eq_of_sorted (sorted : rows.Pairwise fun r r' => key r < key r')
    (sorted' : rows'.Pairwise fun r r' => key r < key r') (same : ∀ r, r ∈ rows ↔ r ∈ rows') :
    rows = rows' := by
  have nodup : rows.Nodup := sorted.imp fun less eq => absurd (eq ▸ less) (lt_irrefl _)
  have nodup' : rows'.Nodup := sorted'.imp fun less eq => absurd (eq ▸ less) (lt_irrefl _)
  have perm : rows.Perm rows' := (List.perm_ext_iff_of_nodup nodup nodup').mpr same
  exact perm.eq_of_pairwise (fun r r' _ _ less less' => absurd less (lt_asymm less')) sorted sorted'

/-- Rows in the order of their keys have different ones. -/
lemma eq_of_key {r r' : ρ} (sorted : rows.Pairwise fun r r' => key r < key r') (mem : r ∈ rows)
    (mem' : r' ∈ rows) (same : key r = key r') : r = r' := by
  have nodup : (rows.map key).Nodup := List.pairwise_map.mpr (sorted.imp fun less => less.ne)
  exact List.inj_on_of_nodup_map nodup mem mem' same

/-- A page that is cut ends with the key that the rows left out are beyond. -/
lemma cut_some {next : ι} {page : List ρ}
    (sorted : rows.Pairwise fun r r' => key r < key r') (eq : (page, some next) = cut key size rows) :
    page = rows.take size ∧ page.length = size ∧ (∃ r ∈ page, key r = next) ∧
      (∀ r ∈ page, key r ≤ next) ∧ ∀ r ∈ rows.drop size, next < key r := by
  rw [cut] at eq
  split at eq
  · case isTrue more =>
    obtain ⟨rfl, last⟩ := Prod.mk.injEq .. ▸ eq
    obtain ⟨r, isLast, rfl⟩ := Option.map_eq_some_iff.mp last.symm
    obtain ⟨front, same⟩ := List.getLast?_eq_some_iff.mp isLast
    have split := List.take_append_drop size rows
    have parts := sorted
    rw [← split, List.pairwise_append] at parts
    obtain ⟨earlier, -, across⟩ := parts
    have isLast : r ∈ rows.take size := same ▸ List.mem_append_right _ (List.mem_singleton.mpr rfl)
    refine ⟨rfl, List.length_take_of_le (Nat.le_of_lt more), ⟨r, isLast, rfl⟩, ?_, ?_⟩
    · intro r' mem
      rw [same] at mem earlier
      rcases List.mem_append.mp mem with mem | mem
      · exact ((List.pairwise_append.mp earlier).2.2 r' mem r (List.mem_singleton.mpr rfl)).le
      · rw [List.mem_singleton.mp mem]
    · intro r' mem
      exact across r isLast r' mem
  · cases eq

omit [LinearOrder ι] in
/-- A page after which there is none has all rows. -/
lemma cut_none {page : List ρ} (positive : 0 < size) (eq : (page, none) = cut key size rows) :
    page = rows ∧ page.length ≤ size := by
  rw [cut] at eq
  split at eq
  · case isTrue more =>
    obtain ⟨-, last⟩ := Prod.mk.injEq .. ▸ eq
    have empty := List.getLast?_eq_none_iff.mp (Option.map_eq_none_iff.mp last.symm)
    rcases List.take_eq_nil_iff.mp empty with zero | nil
    · omega
    · rw [nil] at more
      cases more
  · case isFalse less =>
    cases eq
    exact ⟨rfl, Nat.le_of_not_lt less⟩

/-! ## Runs of pages -/

/-- No row is on two pages, whatever happens to the table. -/
theorem pages_sorted (positive : 0 < size) (cuts : CutsPages key size listed request)
    (run : Pages request marker tables pages) :
    pages.flatten.Pairwise (fun r r' => key r < key r') ∧
      ∀ r ∈ pages.flatten, Beyond marker (key r) := by
  induction run with
  | @last marker table page eq =>
    obtain ⟨rows, lists, eq⟩ := cuts _ _ _ eq
    obtain ⟨rfl, -⟩ := cut_none positive eq
    rw [List.flatten_cons, List.flatten_nil, List.append_nil]
    exact ⟨lists.sorted, fun r mem => ((lists.mem r).mp mem).2⟩
  | @more marker table page next tables pages eq rest ih =>
    obtain ⟨rows, lists, eq⟩ := cuts _ _ _ eq
    obtain ⟨rfl, -, ⟨last, isLast, atLast⟩, upTo, -⟩ := cut_some lists.sorted eq
    obtain ⟨sorted, beyond⟩ := ih
    have here : ∀ r ∈ rows.take size, Beyond marker (key r) := fun r mem =>
      ((lists.mem r).mp (List.mem_of_mem_take mem)).2
    have there : ∀ r ∈ pages.flatten, next < key r := fun r mem => beyond_some.mp (beyond r mem)
    rw [List.flatten_cons]
    refine ⟨List.pairwise_append.mpr ⟨lists.sorted.sublist (List.take_sublist _ _), sorted, ?_⟩, ?_⟩
    · intro r mem r' mem'
      exact (upTo r mem).trans_lt (there r' mem')
    · intro r mem
      rcases List.mem_append.mp mem with mem | mem
      · exact here r mem
      · intro m eq
        have less := here last isLast m eq
        rw [atLast] at less
        exact less.trans (there r mem)

/-- A page has no more rows than it may, and all of them are listed when it is requested. -/
theorem pages_listed (positive : 0 < size) (cuts : CutsPages key size listed request)
    (run : Pages request marker tables pages) :
    List.Forall₂ (fun table page => page.length ≤ size ∧ ∀ r ∈ page, listed table r) tables pages := by
  induction run with
  | @last marker table page eq =>
    obtain ⟨rows, lists, eq⟩ := cuts _ _ _ eq
    obtain ⟨rfl, short⟩ := cut_none positive eq
    exact .cons ⟨short, fun r mem => ((lists.mem r).mp mem).1⟩ .nil
  | @more marker table page next tables pages eq rest ih =>
    obtain ⟨rows, lists, eq⟩ := cuts _ _ _ eq
    obtain ⟨rfl, full, -⟩ := cut_some lists.sorted eq
    exact .cons ⟨Nat.le_of_eq full, fun r mem => ((lists.mem r).mp (List.mem_of_mem_take mem)).1⟩ ih

/-- What is listed under a key all the time, be it ever so changed, is on a page. -/
theorem pages_complete (positive : 0 < size) (cuts : CutsPages key size listed request)
    (run : Pages request marker tables pages) {k : ι} (beyond : Beyond marker k)
    (always : ∀ table ∈ tables, ∃ r, key r = k ∧ listed table r) :
    ∃ r ∈ pages.flatten, key r = k := by
  induction run with
  | @last marker table page eq =>
    obtain ⟨rows, lists, eq⟩ := cuts _ _ _ eq
    obtain ⟨rfl, -⟩ := cut_none positive eq
    obtain ⟨r, rfl, here⟩ := always table (List.mem_singleton.mpr rfl)
    rw [List.flatten_cons]
    exact ⟨r, List.mem_append_left _ ((lists.mem r).mpr ⟨here, beyond⟩), rfl⟩
  | @more marker table page next tables pages eq rest ih =>
    obtain ⟨rows, lists, eq⟩ := cuts _ _ _ eq
    obtain ⟨rfl, -, -, -, after⟩ := cut_some lists.sorted eq
    obtain ⟨r, rfl, here⟩ := always table List.mem_cons_self
    have mem := (lists.mem r).mpr ⟨here, beyond⟩
    rw [← List.take_append_drop size rows] at mem
    rw [List.flatten_cons]
    rcases List.mem_append.mp mem with mem | mem
    · exact ⟨r, List.mem_append_left _ mem, rfl⟩
    · obtain ⟨r', mem', same⟩ := ih (beyond_some.mpr (after r mem)) fun table mem =>
        always table (List.mem_cons_of_mem _ mem)
      exact ⟨r', List.mem_append_right _ mem', same⟩

/-- Each row of a page is listed at some time. -/
lemma listed_of_mem (positive : 0 < size) (cuts : CutsPages key size listed request)
    (run : Pages request marker tables pages) {r : ρ} (mem : r ∈ pages.flatten) :
    ∃ table ∈ tables, listed table r := by
  have paired := pages_listed positive cuts run
  clear run
  induction paired with
  | nil => cases mem
  | @cons table page tables pages here _ ih =>
    rw [List.flatten_cons] at mem
    rcases List.mem_append.mp mem with mem | mem
    · exact ⟨table, List.mem_cons_self, here.2 r mem⟩
    · obtain ⟨table', mem', listed'⟩ := ih mem
      exact ⟨table', List.mem_cons_of_mem _ mem', listed'⟩

/-- Where the table stays, the pages are the listing. -/
theorem pages_eq (positive : 0 < size) (cuts : CutsPages key size listed request)
    (run : Pages request marker tables pages) (lists : Lists key listed marker table rows)
    (stays : ∀ table' ∈ tables, table' = table) : pages.flatten = rows := by
  obtain ⟨sorted, beyond⟩ := pages_sorted positive cuts run
  refine eq_of_sorted sorted lists.sorted fun r => ?_
  rw [lists.mem]
  constructor
  · intro mem
    obtain ⟨table', there, here⟩ := listed_of_mem positive cuts run mem
    exact ⟨stays table' there ▸ here, beyond r mem⟩
  · rintro ⟨here, beyond'⟩
    obtain ⟨r', mem', same⟩ := pages_complete positive cuts run beyond' fun table' mem =>
      ⟨r, rfl, stays table' mem ▸ here⟩
    obtain ⟨table', there, here'⟩ := listed_of_mem positive cuts run mem'
    have inRows' := (lists.mem r').mpr ⟨stays table' there ▸ here', beyond r' mem'⟩
    have inRows := (lists.mem r).mpr ⟨here, beyond'⟩
    rw [eq_of_key lists.sorted inRows inRows' same.symm]
    exact mem'

/-- The rows after a page that was cut. -/
lemma Lists.drop {next : ι} {page : List ρ} (lists : Lists key listed marker table rows)
    (eq : (page, some next) = cut key size rows) :
    Lists key listed (some next) table (rows.drop size) where
  sorted := lists.sorted.sublist (List.drop_sublist _ _)
  mem := by
    obtain ⟨rfl, -, ⟨last, isLast, atLast⟩, upTo, after⟩ := cut_some lists.sorted eq
    intro r
    rw [beyond_some]
    constructor
    · intro mem
      exact ⟨((lists.mem r).mp (List.mem_of_mem_drop mem)).1, after r mem⟩
    · rintro ⟨here, less⟩
      have beyond : Beyond marker (key r) := by
        intro m eq
        have first := ((lists.mem last).mp (List.mem_of_mem_take isLast)).2 m eq
        rw [atLast] at first
        exact first.trans less
      have mem := (lists.mem r).mpr ⟨here, beyond⟩
      rw [← List.take_append_drop size rows] at mem
      exact (List.mem_append.mp mem).resolve_left fun mem => absurd less (not_lt.mpr (upTo r mem))

/-- Where the table stays and every request is answered, the pages come to an end. -/
theorem pages_exist (positive : 0 < size) (cuts : CutsPages key size listed request)
    (lists : Lists key listed marker table rows)
    (answered : ∀ {m r}, listed table r → m = key r → (request (some m) table).isSome = true)
    (first : (request marker table).isSome = true) :
    ∃ tables pages, (∀ table' ∈ tables, table' = table) ∧ Pages request marker tables pages := by
  induction n : rows.length using Nat.strongRecOn generalizing marker rows with
  | ind n ih =>
    obtain ⟨⟨page, next⟩, eq⟩ := Option.isSome_iff_exists.mp first
    obtain ⟨rows', lists', made⟩ := cuts _ _ _ eq
    have same : rows' = rows := eq_of_sorted lists'.sorted lists.sorted fun r => by
      rw [lists'.mem, lists.mem]
    subst same
    cases next with
    | none => exact ⟨[table], [page], fun table' mem => List.mem_singleton.mp mem, .last eq⟩
    | some next =>
      obtain ⟨rfl, full, ⟨last, isLast, atLast⟩, -⟩ := cut_some lists.sorted made
      have shorter : (rows'.drop size).length < rows'.length := by
        rw [List.length_take] at full
        rw [List.length_drop]
        omega
      have listedLast := ((lists.mem last).mp (List.mem_of_mem_take isLast)).1
      obtain ⟨tables, pages, stays, run⟩ := ih _ (n ▸ shorter) (lists.drop made)
        (answered listedLast atLast.symm) rfl
      refine ⟨table :: tables, rows'.take size :: pages, fun table' mem => ?_, .more eq run⟩
      rcases List.mem_cons.mp mem with rfl | mem
      · rfl
      · exact stays table' mem

end Tacker.Basis
