import Tacker.Nfvo.CacheSteps

/-!
# Careful runs

Instances come and go and processes are killed between the steps of the calls; in a careful run,
every step is sound.
-/

namespace Tacker.Nfvo

open Tacker.Basis

variable {pkg : String → Package} {s s' : State} {e : Event} {i j : Nat} {v w : String}
  {c : Call} {pc pc' : Pc} {tr : List (State × Event)}

/-- Instances may go, and may be added to a VNFD whose directory is not being deleted. -/
lemma Inv.insts {insts : Table Inst.id} (inv : Inv pkg s)
    (rows : ∀ inst ∈ insts.rows, inst ∈ s.insts.rows ∨ s.NoCall Pc.deletes inst.vnfdId) :
    Inv pkg { s with insts := insts } := by
  have noInst : ∀ {k pck v}, s.pcOf k = some pck → pck.deletes = some v → s.NoInst v →
      State.NoInst { s with insts := insts } v := by
    intro k pck v stands deletes none inst mem eq
    rcases rows inst mem with old | noDeletes
    · exact none inst old eq
    · exact State.mem_rows_iff.mp noDeletes k pck stands (deletes.trans (congrArg some eq.symm))
  constructor
  · intro k pck stands
    have stands' : s.pcOf k = some pck := stands
    have ok := inv.pcs k pck stands'
    cases pck with
    | list v remover =>
      refine ⟨ok.1, ?_⟩
      rintro rfl
      exact noInst stands' rfl (ok.2 rfl)
    | remove v todo remover =>
      refine ⟨ok.1, ?_, ok.2.2⟩
      rintro rfl
      exact noInst stands' rfl (ok.2.1 rfl)
    | _ => exact ok
  · intro v
    rcases (inv.dirs v).cases with whole | ⟨k, pck, stands, leads⟩
    · exact .whole whole
    · exact .of_leads stands (leads.congr rfl)
  · exact inv.files
  · exact inv.deletes
  · exact inv.makes

lemma rows_insert_inst {insts insts' : Table Inst.id} {inst : Inst}
    (insert : insts.insert inst = some insts') : insts'.rows = insts.rows ++ [inst] := by
  unfold Table.insert at insert
  split at insert
  · cases insert
  · exact congrArg Table.rows (Option.some.inj insert).symm

lemma Inv.createInst {inst : Inst} (inv : Inv pkg s) (careful : s.NoCall Pc.deletes inst.vnfdId)
    (creates : s.step pkg (.createInst inst) = some s') : Inv pkg s' := by
  obtain ⟨insts, insert, rfl⟩ := Option.map_eq_some_iff.mp creates
  apply inv.insts
  intro other mem
  rw [rows_insert_inst insert] at mem
  rcases List.mem_append.mp mem with old | new
  · exact .inl old
  · obtain rfl := List.mem_singleton.mp new
    exact .inr careful

lemma Inv.deleteInst {process : Nat} {instId : String} (inv : Inv pkg s)
    (deletes : s.deleteInst i process instId = some s') : Inv pkg s' := by
  obtain ⟨inst, get, starts⟩ := Option.bind_eq_some_iff.mp deletes
  have inv' : Inv pkg { s with insts := s.insts.erase instId } :=
    inv.insts fun other mem => .inl (List.mem_filter.mp mem).1
  exact Inv.start (c := { id := i, process := process, pc := .query inst.vnfdId }) inv'
    ⟨rfl, rfl, rfl, rfl⟩ trivial starts

lemma pcOf_kill {process : Nat} (stands : (s.kill process).pcOf i = some pc) :
    s.pcOf i = some pc ∧ s.runsIn process i = false := by
  obtain ⟨c, get, rfl⟩ := Option.map_eq_some_iff.mp stands
  obtain ⟨get, other⟩ := Table.get_keep.mp get
  exact ⟨by rw [State.pcOf, get]; rfl, by simpa [State.runsIn, get] using other⟩

lemma Inv.kill {process : Nat} (inv : Inv pkg s)
    (careful : Careful pkg (s, .kill process)) : Inv pkg (s.kill process) := by
  constructor
  · intro k pck stands
    obtain ⟨before, survives⟩ := pcOf_kill stands
    have lock : ∀ {w}, s.locks w = some k → (s.kill process).locks w = some k := by
      intro w held
      show (s.locks w).filter _ = some k
      rw [held, Option.filter_some, survives]
      rfl
    have ok := inv.pcs k pck before
    cases pck with
    | isdir => exact lock ok
    | showVnfd => exact lock ok
    | content => exact ⟨lock ok.1, ok.2⟩
    | mkdir => exact ⟨lock ok.1, ok.2⟩
    | extract => exact ⟨lock ok.1, ok.2⟩
    | init => exact ⟨lock ok.1, ok.2⟩
    | unlock => exact ⟨lock ok.1, ok.2⟩
    | list => exact ⟨fun eq => lock (ok.1 eq), ok.2⟩
    | remove => exact ⟨fun eq => lock (ok.1 eq), ok.2⟩
    | _ => exact ok
  · intro v
    rcases (inv.dirs v).cases with whole | ⟨k, pck, stands, leads⟩
    · exact .whole whole
    · obtain ⟨c, get, rfl⟩ := Option.map_eq_some_iff.mp stands
      by_cases killed : c.process = process
      · apply DirOk.whole
        apply careful c (Table.get_eq_some.mp get).1 killed
        cases stands' : c.pc with
        | extract w todo =>
          rw [stands'] at leads
          obtain rfl : w = v := leads
          rfl
        | list w remover =>
          rw [stands'] at leads
          cases remover with
          | cleanup =>
            obtain rfl : w = v := leads
            rfl
          | deletion => exact leads.elim
        | remove w todo remover =>
          rw [stands'] at leads
          obtain rfl : w = v := leads.1
          rfl
        | _ =>
          rw [stands'] at leads
          exact leads.elim
      · have leads' : c.pc.Leads (s.kill process) v := leads.congr rfl
        apply DirOk.of_leads (i := k) _ leads'
        have get' : (s.kill process).calls.get k = some c :=
          Table.get_keep.mpr ⟨get, by simpa using killed⟩
        unfold State.pcOf
        rw [get']
        rfl
  · exact inv.files
  · intro k l pck pcl v standsK standsL
    exact inv.deletes k l pck pcl v (pcOf_kill standsK).1 (pcOf_kill standsL).1
  · intro k l pck pcl v standsK standsL
    exact inv.makes k l pck pcl v (pcOf_kill standsK).1 (pcOf_kill standsL).1

/-- Every careful step keeps the invariant. -/
lemma Inv.step (inv : Inv pkg s) (careful : Careful pkg (s, e))
    (st : StepOf (State.step pkg) s e s') : Inv pkg s' := by
  have eq : s.step pkg e = some s' := st
  cases e with
  | getVnfd id process v all =>
    exact Inv.start (c := { id := id, process := process, pc := .lock v all }) inv
      ⟨rfl, rfl, rfl, rfl⟩ trivial eq
  | createInst inst => exact inv.createInst careful eq
  | deleteInst id process instId => exact inv.deleteInst eq
  | go id =>
    obtain ⟨c, get, goes⟩ := Option.bind_eq_some_iff.mp eq
    obtain rfl := Table.key_of_get get
    exact inv.next (by rw [State.pcOf, get]; rfl) (careful c get) goes
  | fail id =>
    obtain ⟨c, get, raises⟩ := Option.bind_eq_some_iff.mp eq
    obtain rfl := Table.key_of_get get
    exact inv.raise (by rw [State.pcOf, get]; rfl) raises
  | kill process =>
    obtain rfl := Option.some.inj eq
    exact inv.kill careful

/-- Where the invariant holds, the next step is sound. -/
lemma Inv.sound (inv : Inv pkg s) (get : s.calls.get i = some c) : c.pc.SoundIn pkg s := by
  obtain rfl := Table.key_of_get get
  have stands : s.pcOf c.id = some c.pc := by
    rw [State.pcOf, get]
    rfl
  have ok := inv.pcs c.id c.pc stands
  cases stands' : c.pc with
  | init v =>
    rw [stands'] at ok
    exact fun _ => ok.2
  | remove v todo remover =>
    rw [stands'] at ok stands
    refine ⟨State.mem_rows_iff.mpr fun k pck standsK => ?_, ok.2.1⟩
    cases remover with
    | deletion => exact (inv.deletes _ k _ pck v stands standsK rfl).2.2
    | cleanup => exact inv.makes _ k _ pck v stands standsK rfl
  | _ => exact trivial

lemma Inv.empty : Inv pkg {} where
  pcs i pc eq := by cases eq
  dirs v := .whole (.inl rfl)
  files v present eq := by cases eq
  deletes i j pc pc' v eq := by cases eq
  makes i j pc pc' v eq := by cases eq

/-- The package of the runs below. -/
def smallPackage : Package where
  files := [["TOSCA-Metadata", "TOSCA.meta"], ["Definitions", "vnfd.yaml"], ["Files", "chart.tgz"]]
  nodup := by decide

/-- The steps of a call that goes on so many times. -/
def goes (id n : Nat) : List Event :=
  List.replicate n (.go id)

/-- The package is cached for an instance, used and deleted with the instance. -/
def cachedUsedDeleted : List Event :=
  [.createInst ⟨"inst", "vnfd"⟩, .getVnfd 0 0 "vnfd" true] ++ goes 0 10 ++ [.kill 0] ++
    [.getVnfd 1 1 "vnfd" false] ++ goes 1 5 ++ [.deleteInst 2 1 "inst"] ++ goes 2 7

/-- The process is killed after two of three files, and another one calls `get_vnfd`. -/
def killedDuringExtraction : List Event :=
  [.getVnfd 0 0 "vnfd" true] ++ goes 0 6 ++ [.kill 0, .getVnfd 1 1 "vnfd" true] ++ goes 1 3

end Tacker.Nfvo
