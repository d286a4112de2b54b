import Tacker.Basis.Table
import Tacker.Basis.Edit

/-!
# Writing over tables and dictionaries

A table is laid over another one, row by row, and the first row of a table is edited. For both, and
for several members that are written to a dictionary one after the other, it is told exactly when
nothing changes.
-/

namespace Tacker.Basis

/-! ## Tables -/

namespace Table

variable {κ ρ : Type*} {key : ρ → κ} {t t' u : Table key} {r : ρ} {k : κ}

lemma eq_of_rows (same : t.rows = t'.rows) : t = t' := by
  cases t
  cases t'
  cases same
  rfl

instance [DecidableEq ρ] : DecidableEq (Table key) := fun t t' =>
  decidable_of_iff (t.rows = t'.rows) ⟨eq_of_rows, congrArg rows⟩

lemma map_modifyHead {f : ρ → ρ} (same : ∀ r, key (f r) = key r) (rows : List ρ) :
    (rows.modifyHead f).map key = rows.map key := by
  cases rows with
  | nil => rfl
  | cons r rows => rw [List.modifyHead_cons, List.map_cons, List.map_cons, same]

/-- The first row is edited; its key stays. -/
def editFirst (f : ρ → ρ) (same : ∀ r, key (f r) = key r) (t : Table key) : Table key where
  rows := t.rows.modifyHead f
  nodup := by rw [map_modifyHead same]; exact t.nodup

variable {f : ρ → ρ} {same : ∀ r, key (f r) = key r}

lemma rows_editFirst : (t.editFirst f same).rows = t.rows.modifyHead f := rfl

lemma keys_editFirst : (t.editFirst f same).rows.map key = t.rows.map key :=
  map_modifyHead same t.rows

/-- The edit of the first row changes nothing exactly if it changes that row in nothing. -/
lemma editFirst_eq_self : t.editFirst f same = t ↔ ∀ r ∈ t.rows.head?, f r = r := by
  have ofRows : t.editFirst f same = t ↔ t.rows.modifyHead f = t.rows :=
    ⟨fun eq => congrArg rows eq, fun eq => eq_of_rows eq⟩
  rw [ofRows]
  cases t.rows with
  | nil => simp
  | cons r rows => simp

variable [DecidableEq κ]

/-- Tables that hold the same rows under the same keys, in the same order. -/
lemma eq_of_get (keys : t.rows.map key = t'.rows.map key) (get : ∀ k, t.get k = t'.get k) :
    t = t' := by
  apply eq_of_rows
  apply List.ext_getElem?
  intro i
  have keyAt : (t.rows[i]?).map key = (t'.rows[i]?).map key := by
    rw [← List.getElem?_map, ← List.getElem?_map, keys]
  cases here : t.rows[i]? with
  | none =>
    rw [here, Option.map_none, eq_comm, Option.map_eq_none_iff] at keyAt
    exact keyAt.symm
  | some r =>
    rw [here, Option.map_some, eq_comm, Option.map_eq_some_iff] at keyAt
    obtain ⟨r', here', same⟩ := keyAt
    have found : t.get (key r) = some r := get_eq_some.mpr ⟨List.mem_of_getElem? here, rfl⟩
    have found' : t'.get (key r) = some r' :=
      get_eq_some.mpr ⟨List.mem_of_getElem? here', same⟩
    rw [get, found'] at found
    rw [here', found]

lemma keys_put_of_mem (mem : key r ∈ t.rows.map key) :
    (t.put r).rows.map key = t.rows.map key := by
  have taken : t.insert r = none := by
    rw [insert_eq_none, Ne, get_eq_none, not_not]
    exact mem
  rw [put, taken]
  exact map_replace t.rows r

/-! ### One table over another -/

/-- The rows of the second table are put into the first. -/
def overlay (t u : Table key) : Table key :=
  u.rows.foldl put t

@[simp] lemma overlay_empty : t.overlay ∅ = t := rfl

private lemma get_foldl_put {rs : List ρ} (nodup : (rs.map key).Nodup) :
    (rs.foldl put t).get k = (rs.find? fun r => key r = k).or (t.get k) := by
  induction rs generalizing t with
  | nil => rfl
  | cons r rs ih =>
    obtain ⟨fresh, nodup⟩ := List.nodup_cons.mp nodup
    rw [List.foldl_cons, ih nodup, get_put]
    by_cases same : key r = k
    · have others : rs.find? (fun r => decide (key r = k)) = none := by
        apply List.find?_eq_none.mpr
        intro r' mem eq
        exact fresh (same ▸ of_decide_eq_true eq ▸ List.mem_map_of_mem mem)
      rw [others, if_pos same, List.find?_cons, decide_eq_true same]
      rfl
    · rw [if_neg same, List.find?_cons, decide_eq_false same]

/-- What is found in a table that is laid over another one. -/
lemma get_overlay : (t.overlay u).get k = (u.get k).or (t.get k) :=
  get_foldl_put u.nodup

private lemma keys_foldl_put {rs : List ρ} (mem : ∀ r ∈ rs, key r ∈ t.rows.map key) :
    (rs.foldl put t).rows.map key = t.rows.map key := by
  induction rs generalizing t with
  | nil => rfl
  | cons r rs ih =>
    have here := keys_put_of_mem (mem r List.mem_cons_self)
    rw [List.foldl_cons, ih, here]
    intro r' mem'
    rw [here]
    exact mem r' (List.mem_cons_of_mem r mem')

/-- Nothing is added where each key is taken. -/
lemma keys_overlay (mem : ∀ r ∈ u.rows, key r ∈ t.rows.map key) :
    (t.overlay u).rows.map key = t.rows.map key :=
  keys_foldl_put mem

lemma overlay_eq_empty : (t.overlay u).rows = [] ↔ t.rows = [] ∧ u.rows = [] := by
  constructor
  · intro nil
    have none (k : κ) : (u.get k).or (t.get k) = none := by
      rw [← get_overlay, get_eq_none, nil]
      exact List.not_mem_nil
    have absent (r : ρ) : r ∉ u.rows ∧ r ∉ t.rows := by
      obtain ⟨noneU, noneT⟩ := Option.or_eq_none_iff.mp (none (key r))
      exact ⟨fun mem => get_eq_none.mp noneU (List.mem_map_of_mem mem),
        fun mem => get_eq_none.mp noneT (List.mem_map_of_mem mem)⟩
    exact ⟨List.eq_nil_iff_forall_not_mem.mpr fun r => (absent r).2,
      List.eq_nil_iff_forall_not_mem.mpr fun r => (absent r).1⟩
  · rintro ⟨nilT, nilU⟩
    rw [overlay, nilU]
    exact nilT

/-- What is found in a table whose first row is edited. -/
lemma get_editFirst :
    (t.editFirst f same).get k =
      if t.rows.head?.map key = some k then (t.get k).map f else t.get k := by
  cases eq : t.rows with
  | nil => simp [get, editFirst, eq]
  | cons r rows =>
    simp only [get, editFirst, eq, List.modifyHead_cons, List.head?_cons, Option.map_some,
      Option.some.injEq, List.find?_cons, same]
    by_cases first : key r = k
    · simp [first]
    · simp [first]

end Table

/-! ## Dictionaries -/

namespace Json

variable {κ α : Type} [DecidableEq κ] {t : Json κ α} {k : κ}

/-- Members are written one after the other. -/
def writeAll (t : Json κ α) (ws : List (κ × Json κ α)) : Json κ α :=
  ws.foldl (fun t w => t.set w.1 w.2) t

/-- The value that is written last under a key. -/
def lastWrite (ws : List (κ × Json κ α)) (k : κ) : Option (Json κ α) :=
  ws.reverse.lookup k

lemma writeAll_snoc {ws : List (κ × Json κ α)} {w : κ × Json κ α} :
    t.writeAll (ws ++ [w]) = (t.writeAll ws).set w.1 w.2 := by
  rw [writeAll, List.foldl_append]
  rfl

lemma lastWrite_snoc {ws : List (κ × Json κ α)} {w : κ × Json κ α} :
    lastWrite (ws ++ [w]) k = if k = w.1 then some w.2 else lastWrite ws k := by
  rw [lastWrite, List.reverse_append, List.reverse_singleton, List.singleton_append,
    List.lookup_cons]
  by_cases same : k = w.1
  · simp [same]
  · simp [same, lastWrite, beq_false_of_ne same]

lemma isDict_writeAll {ws : List (κ × Json κ α)} (dict : t.isDict = true) :
    (t.writeAll ws).isDict = true := by
  induction ws using List.reverseRecOn with
  | nil => exact dict
  | append_singleton ws w ih =>
    rw [writeAll_snoc, isDict_set]
    exact ih

lemma get?_writeAll {ws : List (κ × Json κ α)} (dict : t.isDict = true) :
    (t.writeAll ws).get? k = (lastWrite ws k).or (t.get? k) := by
  induction ws using List.reverseRecOn with
  | nil => rfl
  | append_singleton ws w ih =>
    rw [writeAll_snoc, get?_set (isDict_writeAll dict), lastWrite_snoc, ih]
    by_cases same : k = w.1
    · rw [if_pos same, if_pos same, Option.some_or]
    · rw [if_neg same, if_neg same]

/-- Members that are all there already: their values are replaced. -/
private lemma writeAll_obj {ks : List κ} {unique : ks.Nodup} {value : κ → Json κ α}
    {ws : List (κ × Json κ α)} (mem : ∀ w ∈ ws, w.1 ∈ ks) :
    (obj ks unique value).writeAll ws =
      obj ks unique fun k => (lastWrite ws k).getD (value k) := by
  induction ws using List.reverseRecOn with
  | nil => rfl
  | append_singleton ws w ih =>
    rw [writeAll_snoc, ih fun w mem' => mem w (List.mem_append_left _ mem')]
    apply obj_congr
    · exact if_pos (mem w (List.mem_append_right ws (List.mem_singleton.mpr rfl)))
    · funext k
      rw [lastWrite_snoc]
      by_cases same : k = w.1
      · subst same
        rw [Function.update_self, if_pos rfl, Option.getD_some]
      · rw [Function.update_of_ne same, if_neg same]

/-- Writing members changes nothing exactly if each holds the value that is written last. -/
lemma writeAll_eq_self {ws : List (κ × Json κ α)} (dict : t.isDict = true) :
    t.writeAll ws = t ↔ ∀ k v, lastWrite ws k = some v → t.get? k = some v := by
  constructor
  · intro same k v last
    have found : (t.writeAll ws).get? k = (lastWrite ws k).or (t.get? k) := get?_writeAll dict
    rw [same, last, Option.some_or] at found
    exact found
  · intro held
    cases t with
    | obj ks unique value =>
      have written (w : κ × Json κ α) (mem : w ∈ ws) : ∃ v, lastWrite ws w.1 = some v := by
        cases last : lastWrite ws w.1 with
        | some v => exact ⟨v, rfl⟩
        | none =>
          have absent := List.lookup_eq_none_iff.mp last w (List.mem_reverse.mpr mem)
          simp at absent
      have inKeys (w : κ × Json κ α) (mem : w ∈ ws) : w.1 ∈ ks := by
        obtain ⟨v, last⟩ := written w mem
        have found := held w.1 v last
        rw [get?] at found
        exact (Option.ite_none_right_eq_some.mp found).1
      rw [writeAll_obj inKeys]
      apply obj_congr rfl
      funext k
      cases last : lastWrite ws k with
      | none => rfl
      | some v =>
        have found := held k v last
        rw [get?] at found
        exact (Option.some.inj (Option.ite_none_right_eq_some.mp found).2).symm
    | _ => cases dict

end Json

end Tacker.Basis
