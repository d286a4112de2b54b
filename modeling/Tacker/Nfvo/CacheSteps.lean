import Tacker.Nfvo.CacheInvariant

/-!
# Steps of the calls that work with the cache

A careful step of a call keeps the invariant, by what it does to the directory of its VNFD.
-/

namespace Tacker.Nfvo

open Tacker.Basis

variable {pkg : String → Package} {s s' : State} {e : Event} {i j : Nat} {v w : String}
  {c : Call} {pc pc' : Pc} {tr : List (State × Event)}

/-! ## One step of a call -/

/-- What a program counter is taken up for, the call was there for already or the others allow. -/
structure Enters (s : State) (pc pc' : Pc) : Prop where
  deletes : ∀ v, pc'.deletes = some v →
    pc.deletes = some v ∨ s.NoCall Pc.makes v ∧ s.NoCall Pc.inits v ∧ s.NoCall Pc.uses v
  kinds : ∀ v, pc'.makes = some v ∨ pc'.inits = some v ∨ pc'.uses = some v →
    (pc.makes = some v ∨ pc.inits = some v ∨ pc.uses = some v) ∨ s.NoCall Pc.deletes v
  makes : ∀ v, pc'.makes = some v → pc.makes = some v ∨ s.NoCall Pc.uses v
  uses : ∀ v, pc'.uses = some v → pc.uses = some v ∨ s.NoCall Pc.makes v

/-- A program counter at which a call has nothing to do with the directory. -/
def Pc.Aside (pc : Pc) : Prop :=
  pc.deletes = none ∧ pc.makes = none ∧ pc.inits = none ∧ pc.uses = none

lemma Enters.aside (aside : pc'.Aside) : Enters s pc pc' where
  deletes v eq := by cases aside.1.symm.trans eq
  kinds v eq := by
    rcases eq with eq | eq | eq
    · cases aside.2.1.symm.trans eq
    · cases aside.2.2.1.symm.trans eq
    · cases aside.2.2.2.symm.trans eq
  makes v eq := by cases aside.2.1.symm.trans eq
  uses v eq := by cases aside.2.2.2.symm.trans eq

/-- The call goes on in the way that it went before. -/
lemma Enters.same (deletes : pc'.deletes = none ∨ pc'.deletes = pc.deletes)
    (makes : pc'.makes = none ∨ pc'.makes = pc.makes)
    (inits : pc'.inits = none ∨ pc'.inits = pc.inits)
    (uses : pc'.uses = none ∨ pc'.uses = pc.uses) : Enters s pc pc' := by
  have keep : ∀ {o o' : Option String} {v}, (o' = none ∨ o' = o) → o' = some v → o = some v := by
    intro o o' v same eq
    rcases same with none | same
    · cases none.symm.trans eq
    · exact same.symm.trans eq
  constructor
  · exact fun v eq => .inl (keep deletes eq)
  · exact fun v eq => .inl (eq.imp (keep makes) (.imp (keep inits) (keep uses)))
  · exact fun v eq => .inl (keep makes eq)
  · exact fun v eq => .inl (keep uses eq)

/-- A step of a call keeps the invariant if it does so for the call itself and for the directory
that it changes. -/
lemma Inv.goOn {t : State} (inv : Inv pkg s) (mover : s.pcOf c.id = some pc)
    (calls : t.calls = s.calls) (insts : t.insts = s.insts)
    (locks : ∀ j ≠ c.id, ∀ w, s.locks w = some j → t.locks w = some j)
    (spares : Spares s t pc)
    (files : ∀ v present, t.dirs v = some present → present.Nodup)
    (own : PcOk pkg t c.id pc') (enters : Enters s pc pc')
    (dirs : ∀ v, t.dirs v ≠ s.dirs v ∨ pc.Leads s v → DirOk pkg (t.goOn c pc') v) :
    Inv pkg (t.goOn c pc') := by
  have pcs : ∀ k ≠ c.id, (t.goOn c pc').pcOf k = s.pcOf k := by
    intro k ne
    rw [State.pcOf_goOn_of_ne ne]
    unfold State.pcOf
    rw [calls]
  have own' : (t.goOn c pc').pcOf c.id = some pc' := State.pcOf_goOn_self
  constructor
  · intro k pck stands
    by_cases same : k = c.id
    · subst same
      obtain rfl := Option.some.inj (own'.symm.trans stands)
      exact own
    · rw [pcs k same] at stands
      show PcOk pkg t k pck
      exact PcOk.other inv mover stands same (locks k same) insts spares
  · intro v
    by_cases involved : t.dirs v ≠ s.dirs v ∨ pc.Leads s v
    · exact dirs v involved
    · rw [not_or, not_not] at involved
      exact (inv.dirs v).other mover pcs involved.1 involved.2
  · exact files
  · intro k l pck pcl v standsK standsL deletes
    by_cases sameK : k = c.id
    · subst sameK
      obtain rfl := Option.some.inj (own'.symm.trans standsK)
      by_cases sameL : l = c.id
      · subst sameL
        obtain rfl := Option.some.inj (own'.symm.trans standsL)
        exact Pc.makes_of_deletes deletes
      · rw [pcs l sameL] at standsL
        rcases enters.deletes v deletes with before | ⟨noMakes, noInits, noUses⟩
        · exact inv.deletes c.id l pc pcl v mover standsL before
        · exact ⟨State.mem_rows_iff.mp noMakes l pcl standsL,
            State.mem_rows_iff.mp noInits l pcl standsL,
            State.mem_rows_iff.mp noUses l pcl standsL⟩
    · rw [pcs k sameK] at standsK
      by_cases sameL : l = c.id
      · subst sameL
        obtain rfl := Option.some.inj (own'.symm.trans standsL)
        have never : ¬ (pc'.makes = some v ∨ pc'.inits = some v ∨ pc'.uses = some v) := by
          intro kind
          rcases enters.kinds v kind with before | noDeletes
          · obtain ⟨notMakes, notInits, notUses⟩ :=
              inv.deletes k c.id pck pc v standsK mover deletes
            rcases before with eq | eq | eq
            · exact notMakes eq
            · exact notInits eq
            · exact notUses eq
          · exact State.mem_rows_iff.mp noDeletes k pck standsK deletes
        exact ⟨fun eq => never (.inl eq), fun eq => never (.inr (.inl eq)),
          fun eq => never (.inr (.inr eq))⟩
      · rw [pcs l sameL] at standsL
        exact inv.deletes k l pck pcl v standsK standsL deletes
  · intro k l pck pcl v standsK standsL makes
    by_cases sameK : k = c.id
    · subst sameK
      obtain rfl := Option.some.inj (own'.symm.trans standsK)
      by_cases sameL : l = c.id
      · subst sameL
        obtain rfl := Option.some.inj (own'.symm.trans standsL)
        exact Pc.uses_of_makes makes
      · rw [pcs l sameL] at standsL
        rcases enters.makes v makes with before | noUses
        · exact inv.makes c.id l pc pcl v mover standsL before
        · exact State.mem_rows_iff.mp noUses l pcl standsL
    · rw [pcs k sameK] at standsK
      by_cases sameL : l = c.id
      · subst sameL
        obtain rfl := Option.some.inj (own'.symm.trans standsL)
        intro uses
        rcases enters.uses v uses with before | noMakes
        · exact inv.makes k c.id pck pc v standsK mover makes before
        · exact State.mem_rows_iff.mp noMakes k pck standsK makes
      · rw [pcs l sameL] at standsL
        exact inv.makes k l pck pcl v standsK standsL makes

/-- A step that only moves the program counter. -/
lemma Inv.turn (inv : Inv pkg s) (mover : s.pcOf c.id = some pc) (own : PcOk pkg s c.id pc')
    (enters : Enters s pc pc') (dirs : ∀ v, pc.Leads s v → DirOk pkg (s.goOn c pc') v) :
    Inv pkg (s.goOn c pc') := by
  apply inv.goOn mover rfl rfl (fun _ _ _ lock => lock) (Spares.rfl' rfl) inv.files own enters
  intro v involved
  rcases involved with changed | leads
  · exact absurd rfl changed
  · exact dirs v leads

/-! ## The steps -/

/-- A call that holds the lock of a VNFD excludes another one that does. -/
lemma Inv.lock_unique (inv : Inv pkg s) (lock : s.locks v = some i) (stands : s.pcOf j = some pc)
    (makes : pc.makes = some v) : j = i :=
  Option.some.inj (((inv.pcs j pc stands).lock_of_makes makes).symm.trans lock)

/-- Who leads at a directory is making it or deleting it. -/
lemma Pc.Leads.kind (leads : pc.Leads s v) : pc.makes = some v ∨ pc.deletes = some v := by
  cases pc with
  | extract w todo =>
    obtain rfl : w = v := leads
    exact .inl rfl
  | list w remover =>
    cases remover with
    | cleanup =>
      obtain rfl : w = v := leads
      exact .inl rfl
    | deletion => exact leads.elim
  | remove w todo remover =>
    obtain rfl : w = v := leads.1
    cases remover with
    | cleanup => exact .inl rfl
    | deletion => exact .inr rfl
  | _ => exact leads.elim

/-- A call with the lock that is not making the directory finds it whole unless it is deleted. -/
lemma Inv.whole (inv : Inv pkg s) (stands : s.pcOf i = some pc) (lock : s.locks v = some i)
    (notMakes : pc.makes ≠ some v) (noDeletes : s.NoCall Pc.deletes v) : s.Whole pkg v := by
  rcases (inv.dirs v).cases with whole | ⟨k, pck, standsK, leads⟩
  · exact whole
  · rcases leads.kind with makes | deletes
    · obtain rfl := inv.lock_unique lock standsK makes
      obtain rfl := Option.some.inj (stands.symm.trans standsK)
      exact absurd makes notMakes
    · exact absurd deletes (State.mem_rows_iff.mp noDeletes k pck standsK)

/-- The call makes the directory: nobody else does, and nobody uses it. -/
lemma Inv.alone (inv : Inv pkg s) (stands : s.pcOf i = some pc) (lock : s.locks v = some i)
    (notMakes : pc.makes ≠ some v) : s.NoCall Pc.makes v :=
  State.mem_rows_iff.mpr fun k pck standsK makes => by
    obtain rfl := inv.lock_unique lock standsK makes
    obtain rfl := Option.some.inj (stands.symm.trans standsK)
    exact notMakes makes

lemma Inv.unused (inv : Inv pkg s) (none : s.dirs v = none) : s.NoCall Pc.uses v :=
  State.mem_rows_iff.mpr fun k pck standsK uses => by
    cases none.symm.trans ((inv.pcs k pck standsK).dir_of_uses uses)

lemma Inv.isdir {all : Bool} (inv : Inv pkg s) (stands : s.pcOf c.id = some (.isdir v all))
    (careful : (Pc.isdir v all).CarefulIn s) : Inv pkg (s.goOn c (s.isdir v all)) := by
  have lock : s.locks v = some c.id := inv.pcs _ _ stands
  have noLead : ∀ w, (Pc.isdir v all).Leads s w → DirOk pkg (s.goOn c (s.isdir v all)) w :=
    fun w leads => leads.elim
  unfold State.isdir at noLead ⊢
  cases dir : s.dirs v with
  | some files =>
    simp only [dir] at noLead ⊢
    have noDeletes := careful (.inl (by rw [dir]; exact fun eq => by cases eq))
    have whole : s.dirs v = some (pkg v).files :=
      (inv.whole stands lock (fun eq => by cases eq) noDeletes).resolve_left
        (by rw [dir]; exact fun eq => by cases eq)
    refine inv.turn stands ⟨lock, whole⟩ ?_ noLead
    exact {
      deletes := fun w eq => by cases eq
      kinds := fun w eq => by
        rcases eq with eq | eq | eq
        · cases eq
        · cases eq
          exact .inr noDeletes
        · cases eq
      makes := fun w eq => by cases eq
      uses := fun w eq => by cases eq }
  | none =>
    simp only [dir] at noLead ⊢
    cases all with
    | true =>
      have noDeletes := careful (.inr rfl)
      refine inv.turn stands ⟨lock, dir⟩ ?_ noLead
      exact {
        deletes := fun w eq => by cases eq
        kinds := fun w eq => by
          rcases eq with eq | eq | eq
          · cases eq
            exact .inr noDeletes
          · cases eq
          · cases eq
        makes := fun w eq => by
          cases eq
          exact .inr (inv.unused dir)
        uses := fun w eq => by cases eq }
    | false => exact inv.turn stands lock (.aside ⟨rfl, rfl, rfl, rfl⟩) noLead

lemma locks_setLock {holder : Option Nat} (other : w ≠ v) :
    (s.setLock v holder).locks w = s.locks w := by
  show Function.update s.locks v holder w = _
  rw [Function.update_of_ne other]

lemma dirs_setDir {dir : Option (List File)} :
    (s.setDir v dir).dirs w = if w = v then dir else s.dirs w := by
  show Function.update s.dirs v dir w = _
  rw [Function.update_apply]

/-- A step that changes the directory of the VNFD that the call makes or deletes, and leads there
afterwards or leaves it whole. -/
lemma Inv.change {dir : Option (List File)} (inv : Inv pkg s) (mover : s.pcOf c.id = some pc)
    (only : ∀ w, pc.Leads s w → w = v)
    (writes : pc.makes = some v ∨ pc.deletes = some v ∧ ∀ present', dir = some present' →
      ∃ present, s.dirs v = some present ∧ present' <:+ present)
    (nodup : ∀ present, dir = some present → present.Nodup)
    (own : PcOk pkg (s.setDir v dir) c.id pc') (enters : Enters s pc pc')
    (after : pc'.Leads (s.setDir v dir) v ∨ dir = none) :
    Inv pkg ((s.setDir v dir).goOn c pc') := by
  apply Inv.goOn (t := s.setDir v dir) inv mover rfl rfl (fun _ _ _ lock => lock) _ _ own enters
  · intro w involved
    by_cases same : w = v
    · subst same
      rcases after with leads | none
      · exact .of_leads State.pcOf_goOn_self leads
      · apply DirOk.whole
        left
        show (s.setDir w dir).dirs w = Option.none
        rw [dirs_setDir, if_pos rfl, none]
    · rcases involved with changed | leads
      · rw [dirs_setDir, if_neg same] at changed
        exact absurd rfl changed
      · exact absurd (only w leads) same
  · intro w
    by_cases same : w = v
    · subst same
      rw [dirs_setDir, if_pos rfl]
      exact .inr writes
    · rw [dirs_setDir, if_neg same]
      exact .inl rfl
  · intro w present eq
    by_cases same : w = v
    · rw [dirs_setDir, if_pos same] at eq
      exact nodup present eq
    · rw [dirs_setDir, if_neg same] at eq
      exact inv.files w present eq

lemma Inv.mkdir (inv : Inv pkg s) (stands : s.pcOf c.id = some (.mkdir v)) :
    Inv pkg ((s.setDir v (some [])).goOn c (.extract v (pkg v).files)) := by
  have ok : PcOk pkg s c.id (.mkdir v) := inv.pcs _ _ stands
  apply inv.change stands (fun w leads => leads.elim) (.inl rfl)
  · rintro present ⟨⟩
    exact List.nodup_nil
  · exact ⟨ok.1, [], by rw [dirs_setDir, if_pos rfl], List.nil_append _⟩
  · exact .same (.inl rfl) (.inr rfl) (.inl rfl) (.inl rfl)
  · exact .inl rfl

lemma Inv.extract {file : File} {todo : List File} (inv : Inv pkg s)
    (stands : s.pcOf c.id = some (.extract v (file :: todo))) :
    Inv pkg ((s.setDir v (some ((s.dirs v).getD [] ++ [file]))).goOn c (.extract v todo)) := by
  obtain ⟨lock, extracted, dir, eq⟩ : PcOk pkg s c.id (.extract v (file :: todo)) :=
    inv.pcs _ _ stands
  rw [List.append_cons] at eq
  have eq' : (s.dirs v).getD [] ++ [file] = extracted ++ [file] := by rw [dir, Option.getD_some]
  rw [eq']
  apply inv.change stands (fun w leads => leads.symm) (.inl rfl)
  · rintro present ⟨⟩
    exact (List.prefix_append _ todo).sublist.nodup (eq ▸ (pkg v).nodup)
  · exact ⟨lock, extracted ++ [file], by rw [dirs_setDir, if_pos rfl], eq⟩
  · exact .same (.inl rfl) (.inr rfl) (.inl rfl) (.inl rfl)
  · exact .inl rfl

lemma Inv.extracted (inv : Inv pkg s) (stands : s.pcOf c.id = some (.extract v [])) :
    Inv pkg (s.goOn c (.init v)) := by
  obtain ⟨lock, extracted, dir, eq⟩ : PcOk pkg s c.id (.extract v []) := inv.pcs _ _ stands
  rw [List.append_nil] at eq
  subst eq
  have noDeletes : s.NoCall Pc.deletes v := State.mem_rows_iff.mpr fun k pck standsK deletes =>
    (inv.deletes k c.id pck _ v standsK stands deletes).1 rfl
  have own : PcOk pkg s c.id (.init v) := ⟨lock, dir⟩
  apply inv.turn stands own
  · exact {
      deletes := fun w eq => by cases eq
      kinds := fun w eq => by
        rcases eq with eq | eq | eq
        · cases eq
        · cases eq
          exact .inr noDeletes
        · cases eq
      makes := fun w eq => by cases eq
      uses := fun w eq => by cases eq }
  · rintro w rfl
    exact .whole (.inr dir)

lemma Inv.init (inv : Inv pkg s) (stands : s.pcOf c.id = some (.init v)) :
    Inv pkg (s.goOn c (s.init v)) := by
  obtain ⟨lock, dir⟩ : PcOk pkg s c.id (.init v) := inv.pcs _ _ stands
  have noMakes := inv.alone stands lock (fun eq => by cases eq)
  have noDeletes : s.NoCall Pc.deletes v := State.mem_rows_iff.mpr fun k pck standsK deletes =>
    (inv.deletes k c.id pck _ v standsK stands deletes).2.1 rfl
  have own : PcOk pkg s c.id (s.init v) := ⟨lock, fun _ => dir⟩
  apply inv.turn stands own _ (fun w leads => leads.elim)
  unfold State.init
  cases (s.dirs v).any readable with
  | false => exact .aside ⟨rfl, rfl, rfl, rfl⟩
  | true =>
    exact {
      deletes := fun w eq => by cases eq
      kinds := fun w eq => by
        rcases eq with eq | eq | eq
        · cases eq
        · cases eq
        · cases eq
          exact .inr noDeletes
      makes := fun w eq => by cases eq
      uses := fun w eq => by
        cases eq
        exact .inr noMakes }

lemma Inv.unlock {returns : Bool} (inv : Inv pkg s)
    (stands : s.pcOf c.id = some (.unlock v returns)) :
    Inv pkg ((s.setLock v none).goOn c (if returns then .inUse v else .done)) := by
  obtain ⟨lock, dir⟩ : PcOk pkg s c.id (.unlock v returns) := inv.pcs _ _ stands
  have locks : ∀ j ≠ c.id, ∀ w, s.locks w = some j → (s.setLock v none).locks w = some j := by
    intro j ne w held
    have other : w ≠ v := by
      rintro rfl
      exact ne (Option.some.inj (held.symm.trans lock))
    rw [locks_setLock other]
    exact held
  cases returns with
  | true =>
    have own : PcOk pkg (s.setLock v none) c.id (.inUse v) := dir rfl
    apply Inv.goOn (t := s.setLock v none) inv stands rfl rfl locks (Spares.rfl' rfl) inv.files own
    · exact .same (.inl rfl) (.inl rfl) (.inl rfl) (.inr rfl)
    · intro w involved
      rcases involved with changed | leads
      · exact absurd rfl changed
      · exact leads.elim
  | false =>
    have own : PcOk pkg (s.setLock v none) c.id .done := trivial
    apply Inv.goOn (t := s.setLock v none) inv stands rfl rfl locks (Spares.rfl' rfl) inv.files own
      (.aside ⟨rfl, rfl, rfl, rfl⟩)
    intro w involved
    rcases involved with changed | leads
    · exact absurd rfl changed
    · exact leads.elim

lemma Inv.acquire {all : Bool} (inv : Inv pkg s) (stands : s.pcOf c.id = some (.lock v all))
    (free : s.locks v = none) :
    Inv pkg ((s.setLock v (some c.id)).goOn c (.isdir v all)) := by
  apply Inv.goOn (t := s.setLock v (some c.id)) inv stands rfl rfl _ (Spares.rfl' rfl) inv.files _
    (.aside ⟨rfl, rfl, rfl, rfl⟩)
  · intro w involved
    rcases involved with changed | leads
    · exact absurd rfl changed
    · exact leads.elim
  · intro j ne w held
    have other : w ≠ v := by
      rintro rfl
      cases free.symm.trans held
    rw [locks_setLock other]
    exact held
  · show (s.setLock v (some c.id)).locks v = some c.id
    show Function.update s.locks v (some c.id) v = _
    rw [Function.update_self]

lemma removed_aside {remover : Remover} : (State.removed v remover).Aside := by
  cases remover with
  | deletion => exact ⟨rfl, rfl, rfl, rfl⟩
  | cleanup => exact ⟨rfl, rfl, rfl, rfl⟩

lemma removed_ok {remover : Remover} (lock : remover = .cleanup → s.locks v = some i) :
    PcOk pkg s i (State.removed v remover) := by
  cases remover with
  | deletion => exact trivial
  | cleanup => exact ⟨lock rfl, fun eq => by cases eq⟩

lemma Inv.pathExists (inv : Inv pkg s) (stands : s.pcOf c.id = some (.pathExists v))
    (careful : (Pc.pathExists v).CarefulIn s) (there : s.dirs v ≠ none) :
    Inv pkg (s.goOn c (.list v .deletion)) := by
  obtain ⟨noInst, noMakes, noInits, noUses⟩ := careful there
  have own : PcOk pkg s c.id (.list v .deletion) := ⟨fun eq => (by cases eq), fun _ => noInst⟩
  apply inv.turn stands own _ (fun w leads => leads.elim)
  exact {
    deletes := fun w eq => by
      cases eq
      exact .inr ⟨noMakes, noInits, noUses⟩
    kinds := fun w eq => by
      rcases eq with eq | eq | eq
      · cases eq
      · cases eq
      · cases eq
    makes := fun w eq => by cases eq
    uses := fun w eq => by cases eq }

lemma Inv.list {remover : Remover} {files : List File} (inv : Inv pkg s)
    (stands : s.pcOf c.id = some (.list v remover)) (dir : s.dirs v = some files) :
    Inv pkg (s.goOn c (.remove v files remover)) := by
  obtain ⟨lock, noInst⟩ : PcOk pkg s c.id (.list v remover) := inv.pcs _ _ stands
  have own : PcOk pkg s c.id (.remove v files remover) := by
    refine ⟨lock, noInst, inv.files v files dir, fun present eq => ?_⟩
    obtain rfl := Option.some.inj (dir.symm.trans eq)
    exact List.suffix_rfl
  apply inv.turn stands own
  · cases remover with
    | deletion => exact .same (.inr rfl) (.inl rfl) (.inl rfl) (.inl rfl)
    | cleanup => exact .same (.inl rfl) (.inr rfl) (.inl rfl) (.inl rfl)
  · intro w leads
    cases remover with
    | deletion => exact leads.elim
    | cleanup =>
      obtain rfl : v = w := leads
      exact .of_leads State.pcOf_goOn_self ⟨rfl, dir⟩

/-- A call that ends its removal was not leading. -/
lemma Inv.endRemoval {remover : Remover} {todo : List File} (inv : Inv pkg s)
    (stands : s.pcOf c.id = some (.remove v todo remover)) (behind : s.dirs v ≠ some todo) :
    Inv pkg (s.goOn c (State.removed v remover)) := by
  obtain ⟨lock, _⟩ : PcOk pkg s c.id (.remove v todo remover) := inv.pcs _ _ stands
  apply inv.turn stands (removed_ok lock) (.aside removed_aside)
  rintro w ⟨rfl, dir⟩
  exact absurd dir behind

/-- The files that are there are the last ones that the call has to remove, so that a call that
finds its next file leads. -/
lemma suffix_cons {file : File} {todo present : List File} (suffix : present <:+ file :: todo)
    (nodup : (file :: todo).Nodup) (mem : file ∈ present) : present = file :: todo := by
  rcases List.suffix_cons_iff.mp suffix with eq | rest
  · exact eq
  · exact absurd (rest.subset mem) (List.nodup_cons.mp nodup).1

lemma writes_of_remove {remover : Remover} {todo : List File} {dir : Option (List File)}
    (shrinks : ∀ present', dir = some present' →
      ∃ present, s.dirs v = some present ∧ present' <:+ present) :
    (Pc.remove v todo remover).makes = some v ∨ (Pc.remove v todo remover).deletes = some v ∧
      ∀ present', dir = some present' → ∃ present, s.dirs v = some present ∧ present' <:+ present := by
  cases remover with
  | deletion => exact .inr ⟨rfl, shrinks⟩
  | cleanup => exact .inl rfl

lemma Inv.removeFile {remover : Remover} {file : File} {todo : List File} (inv : Inv pkg s)
    (stands : s.pcOf c.id = some (.remove v (file :: todo) remover)) :
    Inv pkg (s.removeFile c v file todo remover) := by
  obtain ⟨lock, noInst, nodup, suffix⟩ : PcOk pkg s c.id (.remove v (file :: todo) remover) :=
    inv.pcs _ _ stands
  unfold State.removeFile
  cases dir : s.dirs v with
  | none =>
    apply inv.endRemoval stands
    rw [dir]
    exact fun eq => by cases eq
  | some present =>
    by_cases mem : file ∈ present
    · obtain rfl := suffix_cons (suffix present dir) nodup mem
      have eq : (file :: todo).erase file = todo := List.erase_cons_head file todo
      simp only [mem, if_true]
      rw [eq]
      have todoNodup := (List.nodup_cons.mp nodup).2
      apply inv.change stands (fun w leads => leads.1.symm)
      · apply writes_of_remove
        rintro present' ⟨⟩
        exact ⟨_, dir, List.suffix_cons file todo⟩
      · rintro present' ⟨⟩
        exact todoNodup
      · refine ⟨lock, noInst, todoNodup, fun present' eq => ?_⟩
        rw [dirs_setDir, if_pos rfl] at eq
        obtain rfl := Option.some.inj eq
        exact List.suffix_rfl
      · cases remover with
        | deletion => exact .same (.inr rfl) (.inl rfl) (.inl rfl) (.inl rfl)
        | cleanup => exact .same (.inl rfl) (.inr rfl) (.inl rfl) (.inl rfl)
      · exact .inl ⟨rfl, by rw [dirs_setDir, if_pos rfl]⟩
    · simp only [mem, if_false]
      apply inv.endRemoval stands
      rw [dir]
      exact fun eq => mem (Option.some.inj eq ▸ List.mem_cons_self)

lemma Inv.removeDir {remover : Remover} (inv : Inv pkg s)
    (stands : s.pcOf c.id = some (.remove v [] remover)) :
    Inv pkg (s.removeDir c v remover) := by
  obtain ⟨lock, noInst, _⟩ : PcOk pkg s c.id (.remove v [] remover) := inv.pcs _ _ stands
  unfold State.removeDir
  split
  · apply inv.change stands (fun w leads => leads.1.symm)
    · apply writes_of_remove
      intro present' eq
      cases eq
    · intro present' eq
      cases eq
    · exact removed_ok lock
    · exact .aside removed_aside
    · exact .inr rfl
  · case h_2 other => exact inv.endRemoval stands other

/-- A call that goes on carefully keeps the invariant. -/
lemma Inv.next (inv : Inv pkg s) (stands : s.pcOf c.id = some pc) (careful : pc.CarefulIn s)
    (goes : s.next pkg c pc = some s') : Inv pkg s' := by
  cases pc with
  | lock v all =>
    cases free : s.locks v with
    | none =>
      simp only [State.next, free] at goes
      obtain rfl := Option.some.inj goes
      exact inv.acquire stands free
    | some holder =>
      simp only [State.next, free] at goes
      cases goes
  | isdir v all =>
    obtain rfl := Option.some.inj goes
    exact inv.isdir stands careful
  | showVnfd v =>
    obtain rfl := Option.some.inj goes
    have lock : PcOk pkg s c.id (.showVnfd v) := inv.pcs _ _ stands
    have own : PcOk pkg s c.id (.unlock v false) := ⟨lock, fun eq => by cases eq⟩
    exact inv.turn stands own (.aside ⟨rfl, rfl, rfl, rfl⟩) (fun w leads => leads.elim)
  | content v =>
    obtain rfl := Option.some.inj goes
    have own : PcOk pkg s c.id (.content v) := inv.pcs _ _ stands
    have own' : PcOk pkg s c.id (.mkdir v) := own
    exact inv.turn stands own' (.same (.inl rfl) (.inr rfl) (.inl rfl) (.inl rfl))
      (fun w leads => leads.elim)
  | mkdir v =>
    have own : PcOk pkg s c.id (.mkdir v) := inv.pcs _ _ stands
    simp only [State.next, own.2] at goes
    obtain rfl := Option.some.inj goes
    exact inv.mkdir stands
  | extract v todo =>
    cases todo with
    | nil =>
      obtain rfl := Option.some.inj goes
      exact inv.extracted stands
    | cons file todo =>
      obtain rfl := Option.some.inj goes
      exact inv.extract stands
  | init v =>
    obtain rfl := Option.some.inj goes
    exact inv.init stands
  | unlock v returns =>
    obtain rfl := Option.some.inj goes
    exact inv.unlock stands
  | inUse v =>
    obtain rfl := Option.some.inj goes
    exact inv.turn stands trivial (.aside ⟨rfl, rfl, rfl, rfl⟩) (fun w leads => leads.elim)
  | query v =>
    simp only [State.next] at goes
    split at goes
    · obtain rfl := Option.some.inj goes
      exact inv.turn stands trivial (.aside ⟨rfl, rfl, rfl, rfl⟩) (fun w leads => leads.elim)
    · obtain rfl := Option.some.inj goes
      exact inv.turn stands trivial (.aside ⟨rfl, rfl, rfl, rfl⟩) (fun w leads => leads.elim)
  | pathExists v =>
    cases dir : s.dirs v with
    | none =>
      simp only [State.next, dir] at goes
      obtain rfl := Option.some.inj goes
      exact inv.turn stands trivial (.aside ⟨rfl, rfl, rfl, rfl⟩) (fun w leads => leads.elim)
    | some files =>
      simp only [State.next, dir] at goes
      obtain rfl := Option.some.inj goes
      exact inv.pathExists stands careful (by rw [dir]; exact fun eq => by cases eq)
  | list v remover =>
    have own : PcOk pkg s c.id (.list v remover) := inv.pcs _ _ stands
    cases dir : s.dirs v with
    | none =>
      simp only [State.next, dir] at goes
      obtain rfl := Option.some.inj goes
      apply inv.turn stands (removed_ok own.1) (.aside removed_aside)
      intro w leads
      cases remover with
      | cleanup =>
        obtain rfl : v = w := leads
        exact .whole (.inl dir)
      | deletion => exact leads.elim
    | some files =>
      simp only [State.next, dir] at goes
      obtain rfl := Option.some.inj goes
      exact inv.list stands dir
  | remove v todo remover =>
    cases todo with
    | nil =>
      obtain rfl := Option.some.inj goes
      exact inv.removeDir stands
    | cons file todo =>
      obtain rfl := Option.some.inj goes
      exact inv.removeFile stands
  | done => cases goes

lemma Inv.raise (inv : Inv pkg s) (stands : s.pcOf c.id = some pc)
    (raises : s.raise c pc = some s') : Inv pkg s' := by
  cases pc with
  | showVnfd v =>
    obtain rfl := Option.some.inj raises
    have lock : PcOk pkg s c.id (.showVnfd v) := inv.pcs _ _ stands
    have own : PcOk pkg s c.id (.unlock v false) := ⟨lock, fun eq => by cases eq⟩
    exact inv.turn stands own (.aside ⟨rfl, rfl, rfl, rfl⟩) (fun w leads => leads.elim)
  | content v =>
    obtain rfl := Option.some.inj raises
    have lock : PcOk pkg s c.id (.content v) := inv.pcs _ _ stands
    have own : PcOk pkg s c.id (.unlock v false) := ⟨lock.1, fun eq => by cases eq⟩
    exact inv.turn stands own (.aside ⟨rfl, rfl, rfl, rfl⟩) (fun w leads => leads.elim)
  | extract v todo =>
    obtain rfl := Option.some.inj raises
    have lock : PcOk pkg s c.id (.extract v todo) := inv.pcs _ _ stands
    have own : PcOk pkg s c.id (.list v .cleanup) := ⟨fun _ => lock.1, fun eq => by cases eq⟩
    apply inv.turn stands own (.same (.inl rfl) (.inr rfl) (.inl rfl) (.inl rfl))
    intro w leads
    obtain rfl : v = w := leads
    exact .failed State.pcOf_goOn_self
  | _ => cases raises

/-- A new call has nothing to do with any directory yet. -/
lemma Inv.start (inv : Inv pkg s) (aside : c.pc.Aside) (own : PcOk pkg s c.id c.pc)
    (starts : s.start c = some s') : Inv pkg s' := by
  obtain ⟨calls, insert, rfl⟩ := Option.map_eq_some_iff.mp starts
  have pcs : ∀ k, State.pcOf { s with calls := calls } k =
      if c.id = k then some c.pc else s.pcOf k := by
    intro k
    unfold State.pcOf
    rw [Table.get_insert insert]
    split
    · rfl
    · rfl
  have old : ∀ {k pck kind}, State.pcOf { s with calls := calls } k = some pck →
      (kind : Pc → Option String) c.pc = none → ∀ {v}, kind pck = some v → s.pcOf k = some pck := by
    intro k pck kind stands none v eq
    rw [pcs] at stands
    split at stands
    · obtain rfl := Option.some.inj stands
      cases none.symm.trans eq
    · exact stands
  have fresh : s.pcOf c.id = none := by
    unfold State.pcOf
    rw [Table.fresh_of_insert insert]
    rfl
  constructor
  · intro k pck stands
    rw [pcs] at stands
    split at stands
    · case isTrue same =>
      obtain rfl := Option.some.inj stands
      exact same ▸ own
    · exact inv.pcs k pck stands
  · intro v
    rcases (inv.dirs v).cases with whole | ⟨k, pck, stands, leads⟩
    · exact .whole whole
    · have ne : c.id ≠ k := by
        rintro rfl
        cases fresh.symm.trans stands
      exact .of_leads ((pcs k).trans ((if_neg ne).trans stands)) (leads.congr rfl)
  · exact inv.files
  · intro k l pck pcl v standsK standsL deletes
    have standsK' := old standsK aside.1 deletes
    refine ⟨fun eq => ?_, fun eq => ?_, fun eq => ?_⟩
    · exact (inv.deletes k l pck pcl v standsK' (old standsL aside.2.1 eq) deletes).1 eq
    · exact (inv.deletes k l pck pcl v standsK' (old standsL aside.2.2.1 eq) deletes).2.1 eq
    · exact (inv.deletes k l pck pcl v standsK' (old standsL aside.2.2.2 eq) deletes).2.2 eq
  · intro k l pck pcl v standsK standsL makes eq
    exact inv.makes k l pck pcl v (old standsK aside.2.1 makes) (old standsL aside.2.2.2 eq)
      makes eq

end Tacker.Nfvo
