import Tacker.Nfvo.CsarCache

/-!
# When the cache of a VNFD is safe to use

The lock keeps the calls of `get_vnfd` apart. That the deletion of instances and the death of a
process keep away from them is the condition on a run under which its steps are sound.
-/

namespace Tacker.Nfvo

open Tacker.Basis

section

variable {pkg : String → Package} {s s' : State} {e : Event} {i j : Nat} {v w : String}
  {c : Call} {pc pc' : Pc} {tr : List (State × Event)}

/-! ## Kinds of program counters -/

namespace Pc

/-- The VNFD whose directory the deletion of an instance is removing. -/
def deletes : Pc → Option String
  | list v .deletion | remove v _ .deletion => some v
  | _ => none

/-- The VNFD whose directory a call of `get_vnfd` has not found, and makes or cleans up. -/
def makes : Pc → Option String
  | content v | mkdir v | extract v _ | list v .cleanup | remove v _ .cleanup => some v
  | _ => none

/-- The VNFD whose cached directory is about to be read. -/
def inits : Pc → Option String
  | init v => some v
  | _ => none

/-- The VNFD of a `Vnfd` that is based on the cached directory. -/
def uses : Pc → Option String
  | unlock v true | inUse v => some v
  | _ => none

/-- The VNFD whose directory is being changed. -/
def writes : Pc → Option String
  | extract v _ | list v .cleanup | remove v _ _ => some v
  | _ => none

end Pc

namespace State

/-- The program counter of a call. -/
def pcOf (s : State) (i : Nat) : Option Pc :=
  (s.calls.get i).map Call.pc

/-- No call has such a program counter. -/
def NoCall (s : State) (kind : Pc → Option String) (v : String) : Prop :=
  ∀ c ∈ s.calls.rows, kind c.pc ≠ some v

instance {kind : Pc → Option String} : Decidable (s.NoCall kind v) :=
  inferInstanceAs (Decidable (∀ c ∈ s.calls.rows, kind c.pc ≠ some v))

/-- No instance uses the VNFD. -/
def NoInst (s : State) (v : String) : Prop :=
  ∀ inst ∈ s.insts.rows, inst.vnfdId ≠ v

instance : Decidable (s.NoInst v) :=
  inferInstanceAs (Decidable (∀ inst ∈ s.insts.rows, inst.vnfdId ≠ v))

/-- The directory is not there, or has all files of the package. -/
def Whole (pkg : String → Package) (s : State) (v : String) : Prop :=
  s.dirs v = none ∨ s.dirs v = some (pkg v).files

instance : Decidable (s.Whole pkg v) :=
  inferInstanceAs (Decidable (s.dirs v = none ∨ s.dirs v = some (pkg v).files))

end State

/-! ## The condition -/

/-- `get_vnfd` only looks for a directory that it uses or makes while no deletion is removing it; and
the deletion of an instance only begins to remove a directory that no instance, no caller and no
other call uses. -/
def Pc.CarefulIn (s : State) : Pc → Prop
  | .isdir v all => s.dirs v ≠ none ∨ all = true → s.NoCall Pc.deletes v
  | .pathExists v => s.dirs v ≠ none →
      s.NoInst v ∧ s.NoCall Pc.makes v ∧ s.NoCall Pc.inits v ∧ s.NoCall Pc.uses v
  | _ => True

/-- No instance is created while the directory of its VNFD is being removed, and no process is
killed while it works on an incomplete directory. -/
def Careful (pkg : String → Package) (p : State × Event) : Prop :=
  match p.2 with
  | .createInst inst => p.1.NoCall Pc.deletes inst.vnfdId
  | .go i => ∀ c ∈ p.1.calls.get i, c.pc.CarefulIn p.1
  | .kill process => ∀ c ∈ p.1.calls.rows, c.process = process →
      ∀ v ∈ c.pc.writes, p.1.Whole pkg v
  | _ => True

instance : (pc : Pc) → Decidable (pc.CarefulIn s)
  | .isdir v all =>
    inferInstanceAs (Decidable (s.dirs v ≠ none ∨ all = true → s.NoCall Pc.deletes v))
  | .pathExists v =>
    inferInstanceAs (Decidable (s.dirs v ≠ none →
      s.NoInst v ∧ s.NoCall Pc.makes v ∧ s.NoCall Pc.inits v ∧ s.NoCall Pc.uses v))
  | .lock _ _ | .showVnfd _ | .content _ | .mkdir _ | .extract _ _ | .init _ | .unlock _ _
  | .inUse _ | .query _ | .list _ _ | .remove _ _ _ | .done => inferInstanceAs (Decidable True)

instance : DecidablePred (Careful pkg)
  | (s, .createInst inst) => inferInstanceAs (Decidable (s.NoCall Pc.deletes inst.vnfdId))
  | (s, .go i) => inferInstanceAs (Decidable (∀ c ∈ s.calls.get i, c.pc.CarefulIn s))
  | (s, .kill process) =>
    inferInstanceAs (Decidable (∀ c ∈ s.calls.rows, c.process = process →
      ∀ v ∈ c.pc.writes, s.Whole pkg v))
  | (_, .getVnfd _ _ _ _) | (_, .deleteInst _ _ _) | (_, .fail _) =>
    inferInstanceAs (Decidable True)

/-! ## The property -/

/-- A directory that a `Vnfd` is initialised from is complete; one that is changed by `rmtree` is
used by no caller, and by no instance if it is removed with an instance. -/
def Pc.SoundIn (pkg : String → Package) (s : State) : Pc → Prop
  | .init v => s.init v = .unlock v true → s.dirs v = some (pkg v).files
  | .remove v _ remover => s.NoCall Pc.uses v ∧ (remover = .deletion → s.NoInst v)
  | _ => True

/-- The step of a run is sound. -/
def Sound (pkg : String → Package) : State × Event → Prop
  | (s, .go i) => ∀ c ∈ s.calls.get i, c.pc.SoundIn pkg s
  | _ => True

instance : (pc : Pc) → Decidable (pc.SoundIn pkg s)
  | .init v =>
    inferInstanceAs (Decidable (s.init v = .unlock v true → s.dirs v = some (pkg v).files))
  | .remove v _ remover =>
    inferInstanceAs (Decidable (s.NoCall Pc.uses v ∧ (remover = .deletion → s.NoInst v)))
  | .lock _ _ | .isdir _ _ | .showVnfd _ | .content _ | .mkdir _ | .extract _ _ | .unlock _ _
  | .inUse _ | .query _ | .pathExists _ | .list _ _ | .done => inferInstanceAs (Decidable True)

instance : DecidablePred (Sound pkg)
  | (s, .go i) => inferInstanceAs (Decidable (∀ c ∈ s.calls.get i, c.pc.SoundIn pkg s))
  | (_, .createInst _) | (_, .kill _) | (_, .getVnfd _ _ _ _) | (_, .deleteInst _ _ _)
  | (_, .fail _) => inferInstanceAs (Decidable True)

/-- All steps of a run are sound, and what callers use at its end is complete. -/
structure RunSound (pkg : String → Package) (tr : List (State × Event)) (s : State) : Prop where
  steps : ∀ p ∈ tr, Sound pkg p
  used : ∀ c ∈ s.calls.rows, ∀ v, c.pc.uses = some v → s.dirs v = some (pkg v).files

end

/-!
## Who changes the cache of a VNFD

The directory of a VNFD is either whole, or there is one call that is next to change it. What holds
of a call at its program counter is kept by the steps of the others.
-/

variable {pkg : String → Package} {s s' : State} {e : Event} {i j : Nat} {v w : String}
  {c : Call} {pc pc' : Pc} {tr : List (State × Event)}

/-! ## Program counters of all calls -/

namespace State

lemma mem_rows_iff {kind : Pc → Option String} :
    s.NoCall kind v ↔ ∀ i pc, s.pcOf i = some pc → kind pc ≠ some v := by
  constructor
  · intro no i pc eq
    obtain ⟨c, get, rfl⟩ := Option.map_eq_some_iff.mp eq
    exact no c (Table.get_eq_some.mp get).1
  · intro no c mem
    apply no c.id c.pc
    have get : s.calls.get c.id = some c := Table.get_eq_some.mpr ⟨mem, rfl⟩
    simp [pcOf, get]

lemma pcOf_goOn {k : Nat} :
    (s.goOn c pc).pcOf k = if c.id = k then some pc else s.pcOf k := by
  unfold pcOf goOn
  rw [Table.get_put]
  split
  · rfl
  · rfl

@[simp] lemma pcOf_goOn_self : (s.goOn c pc).pcOf c.id = some pc := by
  rw [pcOf_goOn, if_pos rfl]

lemma pcOf_goOn_of_ne {k : Nat} (ne : k ≠ c.id) : (s.goOn c pc).pcOf k = s.pcOf k := by
  rw [pcOf_goOn, if_neg (Ne.symm ne)]

end State

/-! ## The invariant -/

/-- What holds of a call at the program counter. -/
def PcOk (pkg : String → Package) (s : State) (i : Nat) : Pc → Prop
  | .lock _ _ | .query _ | .pathExists _ | .done => True
  | .isdir v _ | .showVnfd v => s.locks v = some i
  | .content v | .mkdir v => s.locks v = some i ∧ s.dirs v = none
  | .extract v todo =>
    s.locks v = some i ∧ ∃ extracted, s.dirs v = some extracted ∧
      extracted ++ todo = (pkg v).files
  | .init v => s.locks v = some i ∧ s.dirs v = some (pkg v).files
  | .unlock v returns => s.locks v = some i ∧ (returns = true → s.dirs v = some (pkg v).files)
  | .inUse v => s.dirs v = some (pkg v).files
  | .list v remover => (remover = .cleanup → s.locks v = some i) ∧ (remover = .deletion → s.NoInst v)
  | .remove v todo remover =>
    (remover = .cleanup → s.locks v = some i) ∧ (remover = .deletion → s.NoInst v) ∧ todo.Nodup ∧
      ∀ present, s.dirs v = some present → present <:+ todo

/-- The directory is whole, or one call is next to change it. -/
inductive DirOk (pkg : String → Package) (s : State) (v : String) : Prop where
  | whole (whole : s.Whole pkg v)
  | extracting {k todo} (stands : s.pcOf k = some (.extract v todo))
  | failed {k} (stands : s.pcOf k = some (.list v .cleanup))
  | removing {k todo remover} (stands : s.pcOf k = some (.remove v todo remover))
    (dir : s.dirs v = some todo)

/-- The invariant of careful runs. -/
structure Inv (pkg : String → Package) (s : State) : Prop where
  pcs : ∀ i pc, s.pcOf i = some pc → PcOk pkg s i pc
  dirs : ∀ v, DirOk pkg s v
  files : ∀ v present, s.dirs v = some present → present.Nodup
  deletes : ∀ i j pc pc' v, s.pcOf i = some pc → s.pcOf j = some pc' → pc.deletes = some v →
    pc'.makes ≠ some v ∧ pc'.inits ≠ some v ∧ pc'.uses ≠ some v
  makes : ∀ i j pc pc' v, s.pcOf i = some pc → s.pcOf j = some pc' → pc.makes = some v →
    pc'.uses ≠ some v

/-! ## What a call leaves to the others -/

lemma Pc.makes_of_deletes (deletes : pc.deletes = some v) :
    pc.makes ≠ some w ∧ pc.inits ≠ some w ∧ pc.uses ≠ some w := by
  cases pc with
  | list v' remover =>
    cases remover with
    | deletion => exact ⟨fun eq => (by cases eq), fun eq => (by cases eq), fun eq => (by cases eq)⟩
    | cleanup => cases deletes
  | remove v' todo remover =>
    cases remover with
    | deletion => exact ⟨fun eq => (by cases eq), fun eq => (by cases eq), fun eq => (by cases eq)⟩
    | cleanup => cases deletes
  | _ => cases deletes

lemma Pc.uses_of_makes (makes : pc.makes = some v) : pc.uses ≠ some w := by
  cases pc with
  | list v' remover => exact fun eq => by cases eq
  | remove v' todo remover => exact fun eq => by cases eq
  | content => exact fun eq => by cases eq
  | mkdir => exact fun eq => by cases eq
  | extract => exact fun eq => by cases eq
  | _ => cases makes

/-- A call that makes a directory holds the lock. -/
lemma PcOk.lock_of_makes (ok : PcOk pkg s i pc) (makes : pc.makes = some v) :
    s.locks v = some i := by
  cases pc with
  | content => cases makes; exact ok.1
  | mkdir => cases makes; exact ok.1
  | extract => cases makes; exact ok.1
  | list v' remover =>
    cases remover with
    | cleanup => cases makes; exact ok.1 rfl
    | deletion => cases makes
  | remove v' todo remover =>
    cases remover with
    | cleanup => cases makes; exact ok.1 rfl
    | deletion => cases makes
  | _ => cases makes

lemma PcOk.dir_of_uses (ok : PcOk pkg s i pc) (uses : pc.uses = some v) :
    s.dirs v = some (pkg v).files := by
  cases pc with
  | unlock v' returns =>
    cases returns with
    | true => cases uses; exact ok.2 rfl
    | false => cases uses
  | inUse => cases uses; exact ok
  | _ => cases uses

/-- What a step of one call may do to the directories that others work with. -/
def Spares (s s' : State) (pc : Pc) : Prop :=
  ∀ w, s'.dirs w = s.dirs w ∨ pc.makes = some w ∨
    pc.deletes = some w ∧ ∀ present', s'.dirs w = some present' →
      ∃ present, s.dirs w = some present ∧ present' <:+ present

lemma Spares.rfl' (same : s'.dirs = s.dirs) : Spares s s' pc :=
  fun w => .inl (congrFun same w)

/-- A step of one call keeps what holds of the others. -/
lemma PcOk.other (inv : Inv pkg s) (mover : s.pcOf i = some pc) (stands : s.pcOf j = some pc')
    (ne : j ≠ i) (locks : ∀ w, s.locks w = some j → s'.locks w = some j)
    (insts : s'.insts = s.insts) (spares : Spares s s' pc) : PcOk pkg s' j pc' := by
  have ok := inv.pcs j pc' stands
  have notMake : ∀ {w}, pc.makes = some w → s.locks w ≠ some j := fun makes lock =>
    ne (Option.some.inj (lock.symm.trans ((inv.pcs i pc mover).lock_of_makes makes)))
  have noInst : ∀ {w}, s.NoInst w → s'.NoInst w := fun no => by
    unfold State.NoInst
    rw [insts]
    exact no
  -- the directory of a call that holds the lock, and is not deleting, stays
  have keeps : ∀ {w}, s.locks w = some j →
      (pc'.makes = some w ∨ pc'.inits = some w ∨ pc'.uses = some w) → s'.dirs w = s.dirs w := by
    intro w lock kind
    rcases spares w with same | makes | ⟨deletes, _⟩
    · exact same
    · exact absurd lock (notMake makes)
    · obtain ⟨notMakes, notInits, notUses⟩ := inv.deletes i j pc pc' w mover stands deletes
      rcases kind with kind | kind | kind
      · exact absurd kind notMakes
      · exact absurd kind notInits
      · exact absurd kind notUses
  cases pc' with
  | lock => trivial
  | query => trivial
  | pathExists => trivial
  | done => trivial
  | isdir v => exact locks v ok
  | showVnfd v => exact locks v ok
  | content v => exact ⟨locks v ok.1, (keeps ok.1 (.inl rfl)).trans ok.2⟩
  | mkdir v => exact ⟨locks v ok.1, (keeps ok.1 (.inl rfl)).trans ok.2⟩
  | extract v todo =>
    obtain ⟨lock, extracted, dir, eq⟩ := ok
    exact ⟨locks v lock, extracted, (keeps lock (.inl rfl)).trans dir, eq⟩
  | init v => exact ⟨locks v ok.1, (keeps ok.1 (.inr (.inl rfl))).trans ok.2⟩
  | unlock v returns =>
    refine ⟨locks v ok.1, fun yes => ?_⟩
    subst yes
    exact (keeps ok.1 (.inr (.inr rfl))).trans (ok.2 rfl)
  | inUse v =>
    rcases spares v with same | makes | ⟨deletes, _⟩
    · exact same.trans ok
    · exact absurd rfl (inv.makes i j pc _ v mover stands makes)
    · exact absurd rfl (inv.deletes i j pc _ v mover stands deletes).2.2
  | list v remover => exact ⟨fun eq => locks v (ok.1 eq), fun eq => noInst (ok.2 eq)⟩
  | remove v todo remover =>
    obtain ⟨lock, none, nodup, suffix⟩ := ok
    refine ⟨fun eq => locks v (lock eq), fun eq => noInst (none eq), nodup, ?_⟩
    intro present' dir'
    rcases spares v with same | makes | ⟨deletes, shrinks⟩
    · exact suffix present' (same.symm.trans dir')
    · cases remover with
      | cleanup => exact absurd (lock rfl) (notMake makes)
      | deletion => exact absurd makes (inv.deletes j i _ pc v stands mover rfl).1
    · obtain ⟨present, dir, sub⟩ := shrinks present' dir'
      exact sub.trans (suffix present dir)

/-- Whether the call is next to change an incomplete directory. -/
def Pc.Leads (s : State) (v : String) : Pc → Prop
  | .extract w _ => w = v
  | .list w .cleanup => w = v
  | .remove w todo _ => w = v ∧ s.dirs v = some todo
  | _ => False

lemma DirOk.of_leads (stands : s.pcOf i = some pc) (leads : pc.Leads s v) : DirOk pkg s v := by
  cases pc with
  | extract w todo =>
    obtain rfl : w = v := leads
    exact .extracting stands
  | list w remover =>
    cases remover with
    | cleanup =>
      obtain rfl : w = v := leads
      exact .failed stands
    | deletion => exact leads.elim
  | remove w todo remover =>
    obtain ⟨rfl, dir⟩ : w = v ∧ s.dirs v = some todo := leads
    exact .removing stands dir
  | _ => exact leads.elim

/-- The directory is whole, or some call leads. -/
lemma DirOk.cases (ok : DirOk pkg s v) :
    s.Whole pkg v ∨ ∃ i pc, s.pcOf i = some pc ∧ pc.Leads s v := by
  cases ok with
  | whole whole => exact .inl whole
  | @extracting k todo stands => exact .inr ⟨k, _, stands, rfl⟩
  | @failed k stands => exact .inr ⟨k, _, stands, rfl⟩
  | @removing k todo remover stands dir => exact .inr ⟨k, _, stands, rfl, dir⟩

lemma Pc.Leads.congr (leads : pc.Leads s v) (dir : s'.dirs v = s.dirs v) : pc.Leads s' v := by
  cases pc with
  | remove w todo remover => exact ⟨leads.1, dir.trans leads.2⟩
  | list w remover =>
    cases remover with
    | cleanup => exact leads
    | deletion => exact leads
  | extract w todo => exact leads
  | _ => exact leads

/-- A directory that the step leaves alone is as before if the call was not leading there. -/
lemma DirOk.other (ok : DirOk pkg s v) (mover : s.pcOf i = some pc)
    (pcs : ∀ k ≠ i, s'.pcOf k = s.pcOf k) (dir : s'.dirs v = s.dirs v)
    (notLeads : ¬ pc.Leads s v) : DirOk pkg s' v := by
  rcases ok.cases with whole | ⟨k, pck, stands, leads⟩
  · apply DirOk.whole
    unfold State.Whole
    rw [dir]
    exact whole
  · have ne : k ≠ i := by
      rintro rfl
      obtain rfl := Option.some.inj (mover.symm.trans stands)
      exact notLeads leads
    exact .of_leads ((pcs k ne).trans stands) (leads.congr dir)

end Tacker.Nfvo
