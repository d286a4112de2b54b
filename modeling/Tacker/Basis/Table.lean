import Mathlib.Tactic.Lemma
import Mathlib.Tactic.TypeStar
import Mathlib.Data.List.Induction
import Mathlib.Data.List.Nodup

/-!
# Keyed tables

A table of a relational database: rows that carry their primary key, no two of them the same one.
The order of the rows is the order of insertion and is what a query without an order returns.
Every operation is characterised by what it does to `Table.get`.
-/

namespace Tacker.Basis

/-- Rows with pairwise different keys. -/
structure Table {κ ρ : Type*} (key : ρ → κ) where
  rows : List ρ
  nodup : (rows.map key).Nodup

namespace Table

variable {κ ρ : Type*} {key : ρ → κ}

/-- The table without rows. -/
def empty : Table key where
  rows := []
  nodup := List.nodup_nil

instance : EmptyCollection (Table key) := ⟨empty⟩

/-- The rows that meet the condition. -/
def select (t : Table key) (p : ρ → Bool) : List ρ :=
  t.rows.filter p

variable [DecidableEq κ]

/-- The row with the given key. -/
def get (t : Table key) (k : κ) : Option ρ :=
  t.rows.find? (fun r => key r = k)

/-- A new row; there is none if its key is taken. -/
def insert (t : Table key) (r : ρ) : Option (Table key) :=
  if h : key r ∈ t.rows.map key then
    none
  else
    some {
      rows := t.rows ++ [r]
      nodup := by
        rw [List.map_append, List.map_cons, List.map_nil, List.nodup_append]
        refine ⟨t.nodup, List.nodup_singleton _, fun a mem b mem' => ?_⟩
        obtain rfl := List.mem_singleton.mp mem'
        exact fun eq => h (eq ▸ mem) }

lemma map_replace (rows : List ρ) (r : ρ) :
    (rows.map (fun x => if key x = key r then r else x)).map key = rows.map key := by
  rw [List.map_map]
  refine List.map_congr_left (fun x _ => ?_)
  simp only [Function.comp]
  split
  · case isTrue eq => exact eq.symm
  · rfl

/-- The row replaces the one with its key, or is added if there is none. -/
def put (t : Table key) (r : ρ) : Table key :=
  match t.insert r with
  | some t' => t'
  | none => {
      rows := t.rows.map (fun x => if key x = key r then r else x)
      nodup := by rw [map_replace]; exact t.nodup }

/-- The table without the row of the given key. -/
def erase (t : Table key) (k : κ) : Table key where
  rows := t.rows.filter (fun r => key r ≠ k)
  nodup := t.nodup.sublist (List.Sublist.map key List.filter_sublist)

/-- The table with every row changed by a function that leaves the keys. -/
def mapRows (t : Table key) (f : ρ → ρ) (same : ∀ r, key (f r) = key r) : Table key where
  rows := t.rows.map f
  nodup := by
    rw [List.map_map, show key ∘ f = key from funext same]
    exact t.nodup

/-- The table with the rows that meet the condition only. -/
def keep (t : Table key) (p : ρ → Bool) : Table key where
  rows := t.rows.filter p
  nodup := t.nodup.sublist (List.Sublist.map key List.filter_sublist)

/-! ## Reading -/

variable {t t' : Table key} {r r' : ρ} {k : κ} {p : ρ → Bool}

@[simp] lemma get_empty : (∅ : Table key).get k = none := rfl

lemma get_eq_some : t.get k = some r ↔ r ∈ t.rows ∧ key r = k := by
  constructor
  · intro eq
    exact ⟨List.mem_of_find?_eq_some eq, by simpa using List.find?_some eq⟩
  · rintro ⟨mem, rfl⟩
    cases eq : t.get (key r) with
    | none => simpa using List.find?_eq_none.mp eq r mem
    | some r' =>
      have same : key r' = key r := by simpa using List.find?_some eq
      have mem' : r' ∈ t.rows := List.mem_of_find?_eq_some eq
      rw [List.inj_on_of_nodup_map t.nodup mem' mem same]

lemma key_of_get (eq : t.get k = some r) : key r = k :=
  (get_eq_some.mp eq).2

lemma get_eq_none : t.get k = none ↔ k ∉ t.rows.map key := by
  simp only [get, List.find?_eq_none, decide_eq_true_eq, List.mem_map, not_exists, not_and]

lemma mem_select : r ∈ t.select p ↔ t.get (key r) = some r ∧ p r = true := by
  simp only [select, List.mem_filter, get_eq_some, and_true]

/-- No row is stored: the table is empty. -/
lemma select_eq_nil : t.select p = [] ↔ ∀ k r, t.get k = some r → p r = false := by
  rw [List.eq_nil_iff_forall_not_mem]
  constructor
  · intro none k r eq
    obtain rfl := key_of_get eq
    simpa [mem_select, eq] using none r
  · intro none r mem
    obtain ⟨eq, ok⟩ := mem_select.mp mem
    simp [none _ _ eq] at ok

/-! ## Writing -/

lemma insert_eq_none : t.insert r = none ↔ t.get (key r) ≠ none := by
  rw [insert, Ne, get_eq_none, not_not]
  split <;> simp_all

lemma fresh_of_insert (eq : t.insert r = some t') : t.get (key r) = none := by
  by_contra some
  simp [insert_eq_none.mpr some] at eq

lemma get_insert (eq : t.insert r = some t') :
    t'.get k = if key r = k then some r else t.get k := by
  have fresh := fresh_of_insert eq
  unfold insert at eq
  split at eq
  · cases eq
  · obtain rfl := Option.some.inj eq
    simp only [get, List.find?_append, List.find?_singleton, decide_eq_true_eq]
    by_cases same : key r = k
    · subst same
      have none : t.rows.find? (fun x => decide (key x = key r)) = none := fresh
      simp [none]
    · simp [same]

lemma get_put : (t.put r).get k = if key r = k then some r else t.get k := by
  unfold put
  split
  · case h_1 t' eq => exact get_insert eq
  · case h_2 eq =>
    have taken := insert_eq_none.mp eq
    obtain ⟨r₀, eq₀⟩ := Option.ne_none_iff_exists'.mp taken
    obtain ⟨mem₀, key₀⟩ := get_eq_some.mp eq₀
    apply Option.ext
    intro r'
    rw [get_eq_some, List.mem_map]
    split
    · case isTrue same =>
      subst same
      constructor
      · rintro ⟨⟨x, mem, rfl⟩, kx⟩
        split
        · rfl
        · case isFalse diff => simp [diff] at kx
      · rintro ⟨⟩
        exact ⟨⟨r₀, mem₀, by simp [key₀]⟩, rfl⟩
    · case isFalse diff =>
      rw [get_eq_some]
      constructor
      · rintro ⟨⟨x, mem, rfl⟩, kx⟩
        split at kx
        · exact absurd kx diff
        · case isFalse ne => simpa [ne] using ⟨mem, kx⟩
      · rintro ⟨mem, rfl⟩
        exact ⟨⟨r', mem, by simp [Ne.symm diff]⟩, rfl⟩

lemma get_erase {k' : κ} : (t.erase k).get k' = if k = k' then none else t.get k' := by
  apply Option.ext
  intro r
  simp only [get_eq_some, erase, List.mem_filter, ne_eq, decide_not,
    Bool.not_eq_eq_eq_not, Bool.not_true, decide_eq_false_iff_not]
  split
  · case isTrue same =>
    subst same
    simp
  · case isFalse diff =>
    rw [get_eq_some]
    constructor
    · rintro ⟨⟨mem, _⟩, kr⟩
      exact ⟨mem, kr⟩
    · rintro ⟨mem, rfl⟩
      exact ⟨⟨mem, Ne.symm diff⟩, rfl⟩

lemma get_keep {p : ρ → Bool} : (t.keep p).get k = some r ↔ t.get k = some r ∧ p r = true := by
  simp only [get_eq_some, keep, List.mem_filter]
  exact ⟨fun ⟨⟨mem, ok⟩, eq⟩ => ⟨⟨mem, eq⟩, ok⟩, fun ⟨⟨mem, eq⟩, ok⟩ => ⟨⟨mem, ok⟩, eq⟩⟩

lemma get_mapRows {f : ρ → ρ} (same : ∀ r, key (f r) = key r) :
    (t.mapRows f same).get k = (t.get k).map f := by
  rw [get, get, mapRows, List.find?_map]
  apply congrArg (Option.map f)
  apply congrArg (fun p => List.find? p t.rows)
  funext r
  rw [Function.comp, same]

/-! ## Tables of a list -/

/-- The rows of a list; of two rows with one key the later takes the place of the earlier. -/
def ofList (rs : List ρ) : Table key :=
  rs.foldl put ∅

lemma ofList_snoc {rs : List ρ} : (ofList (rs ++ [r]) : Table key) = (ofList rs).put r := by
  rw [ofList, List.foldl_append]
  rfl

/-- A row of the table is one of the list. -/
lemma mem_of_mem_ofList {rs : List ρ} (mem : r ∈ (ofList rs : Table key).rows) : r ∈ rs := by
  induction rs using List.reverseRecOn generalizing r with
  | nil => cases mem
  | append_singleton rs r' ih =>
    rw [ofList_snoc] at mem
    have found : ((ofList rs : Table key).put r').get (key r) = some r :=
      get_eq_some.mpr ⟨mem, rfl⟩
    rw [get_put] at found
    split at found
    · obtain rfl := Option.some.inj found
      exact List.mem_append_right rs (List.mem_singleton.mpr rfl)
    · exact List.mem_append_left _ (ih (get_eq_some.mp found).1)

/-- There is a row for the key of each row of the list. -/
lemma key_mem_ofList {rs : List ρ} : k ∈ (ofList rs : Table key).rows.map key ↔ k ∈ rs.map key := by
  constructor
  · intro mem
    obtain ⟨r, there, rfl⟩ := List.mem_map.mp mem
    exact List.mem_map_of_mem (mem_of_mem_ofList there)
  · intro mem
    rw [← not_not (a := _ ∈ _), ← get_eq_none]
    induction rs using List.reverseRecOn with
    | nil => cases mem
    | append_singleton rs r' ih =>
      rw [ofList_snoc, get_put]
      split
      · exact Option.some_ne_none r'
      · case isFalse other =>
        rw [List.map_append, List.mem_append] at mem
        rcases mem with mem | mem
        · exact ih mem
        · exact absurd (List.mem_singleton.mp mem).symm other

end Table

end Tacker.Basis
