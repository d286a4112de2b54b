import Mathlib.Logic.Function.Basic
import Tacker.Basis.Run
import Tacker.Basis.Table

/-!
# The cache of VNF packages of an external NFVO

`get_vnfd` with `_make_csar_cache`, and `_delete_csar_cache`, which the deletion of an instance
ends with, of `nfvo/nfvo_client.py`. The cached directory of a VNFD is a list of files; extraction
and `rmtree` change it one file at a time, and a process can be killed at any point. The lock of
`get_vnfd` is released when it returns, when it raises and when its process is killed.
-/

namespace Tacker.Nfvo

open Tacker.Basis

/-! ## Packages and instances -/

/-- The path of a file in a package. -/
abbrev File := List String

/-- The content of a package, in the order of the archive. -/
structure Package where
  files : List File
  nodup : files.Nodup

/-- `VnfInstanceV2`, by what the cache depends on. -/
structure Inst where
  id : String
  vnfdId : String
deriving DecidableEq

/-- `_init_vnfd` finds `TOSCA-Metadata/TOSCA.meta` and the directory `Definitions`. -/
def readable (files : List File) : Bool :=
  files.contains ["TOSCA-Metadata", "TOSCA.meta"] &&
    files.any fun file => file.head? = some "Definitions"

/-! ## Calls -/

/-- Who removes a directory: the deletion of an instance, or `_make_csar_cache` after a failure. -/
inductive Remover where
  | deletion
  | cleanup
deriving DecidableEq

/-- The program counter of a call. -/
inductive Pc where
  /-- `get_vnfd`, before the lock of the VNFD. -/
  | lock (v : String) (allContents : Bool)
  /-- Before `os.path.isdir`. -/
  | isdir (v : String) (allContents : Bool)
  /-- Before the VNFD is loaded into a directory of its own. -/
  | showVnfd (v : String)
  /-- Before the content of the package is loaded. -/
  | content (v : String)
  /-- Before `os.mkdir`. -/
  | mkdir (v : String)
  /-- These files are extracted next. -/
  | extract (v : String) (todo : List File)
  /-- Before `init_from_csar_dir`. -/
  | init (v : String)
  /-- Before the lock is released; whether the call returns a `Vnfd` of the cached directory. -/
  | unlock (v : String) (returns : Bool)
  /-- The caller uses the `Vnfd`. -/
  | inUse (v : String)
  /-- The instance is deleted; before the other instances of the VNFD are looked for. -/
  | query (v : String)
  /-- Before `os.path.exists`. -/
  | pathExists (v : String)
  /-- Before `rmtree` lists the directory. -/
  | list (v : String) (remover : Remover)
  /-- These files are removed next, and the directory after them. -/
  | remove (v : String) (todo : List File) (remover : Remover)
  | done
deriving DecidableEq

/-- A call of `get_vnfd` with the use of its result, or the deletion of an instance. -/
structure Call where
  id : Nat
  process : Nat
  pc : Pc
deriving DecidableEq

/-- What happens. -/
inductive Event where
  | getVnfd (id process : Nat) (v : String) (allContents : Bool)
  | createInst (inst : Inst)
  | deleteInst (id process : Nat) (instId : String)
  /-- The call goes on. -/
  | go (id : Nat)
  /-- A request to the NFVO, or the extraction, raises. -/
  | fail (id : Nat)
  | kill (process : Nat)
deriving DecidableEq

/-- The cached directories, the stored instances, the locks with the calls that hold them, and the
calls. -/
structure State where
  dirs : String → Option (List File) := fun _ => none
  insts : Table Inst.id := ∅
  locks : String → Option Nat := fun _ => none
  calls : Table Call.id := ∅

namespace State

/-- The call goes on at the program counter. -/
def goOn (s : State) (c : Call) (pc : Pc) : State :=
  { s with calls := s.calls.put { c with pc := pc } }

def setDir (s : State) (v : String) (dir : Option (List File)) : State :=
  { s with dirs := Function.update s.dirs v dir }

def setLock (s : State) (v : String) (holder : Option Nat) : State :=
  { s with locks := Function.update s.locks v holder }

/-- Where a call goes on after `rmtree`. -/
def removed (v : String) : Remover → Pc
  | .deletion => .done
  | .cleanup => .unlock v false

/-- `os.path.isdir` and what follows. -/
def isdir (s : State) (v : String) (allContents : Bool) : Pc :=
  match s.dirs v with
  | some _ => .init v
  | none => if allContents then .content v else .showVnfd v

/-- `init_from_csar_dir`; without the metadata or definitions, it raises. -/
def init (s : State) (v : String) : Pc :=
  .unlock v ((s.dirs v).any readable)

/-- A file is removed; `rmtree` ends if it is not there. -/
def removeFile (s : State) (c : Call) (v : String) (file : File) (todo : List File)
    (remover : Remover) : State :=
  match s.dirs v with
  | some files =>
    if file ∈ files then
      (s.setDir v (some (files.erase file))).goOn c (.remove v todo remover)
    else
      s.goOn c (removed v remover)
  | none => s.goOn c (removed v remover)

/-- The directory is removed if it is empty. -/
def removeDir (s : State) (c : Call) (v : String) (remover : Remover) : State :=
  match s.dirs v with
  | some [] => (s.setDir v none).goOn c (removed v remover)
  | _ => s.goOn c (removed v remover)

/-- The next step of a call. -/
def next (pkg : String → Package) (s : State) (c : Call) : Pc → Option State
  | .lock v all =>
    match s.locks v with
    | none => some ((s.setLock v (some c.id)).goOn c (.isdir v all))
    | some _ => none
  | .isdir v all => some (s.goOn c (s.isdir v all))
  | .showVnfd v => some (s.goOn c (.unlock v false))
  | .content v => some (s.goOn c (.mkdir v))
  | .mkdir v =>
    match s.dirs v with
    | none => some ((s.setDir v (some [])).goOn c (.extract v (pkg v).files))
    | some _ => some (s.goOn c (.unlock v false))
  | .extract v (file :: todo) =>
    some ((s.setDir v (some ((s.dirs v).getD [] ++ [file]))).goOn c (.extract v todo))
  | .extract v [] => some (s.goOn c (.init v))
  | .init v => some (s.goOn c (s.init v))
  | .unlock v returns =>
    some ((s.setLock v none).goOn c (if returns then .inUse v else .done))
  | .inUse _ => some (s.goOn c .done)
  | .query v =>
    if s.insts.select (fun inst => inst.vnfdId = v) = [] then
      some (s.goOn c (.pathExists v))
    else
      some (s.goOn c .done)
  | .pathExists v =>
    match s.dirs v with
    | some _ => some (s.goOn c (.list v .deletion))
    | none => some (s.goOn c .done)
  | .list v remover =>
    match s.dirs v with
    | some files => some (s.goOn c (.remove v files remover))
    | none => some (s.goOn c (removed v remover))
  | .remove v (file :: todo) remover => some (s.removeFile c v file todo remover)
  | .remove v [] remover => some (s.removeDir c v remover)
  | .done => none

/-- An exception in `get_vnfd`. -/
def raise (s : State) (c : Call) : Pc → Option State
  | .showVnfd v | .content v => some (s.goOn c (.unlock v false))
  | .extract v _ => some (s.goOn c (.list v .cleanup))
  | _ => none

/-- A new call. -/
def start (s : State) (c : Call) : Option State :=
  (s.calls.insert c).map fun calls => { s with calls := calls }

/-- The row of the instance is deleted. -/
def deleteInst (s : State) (id process : Nat) (instId : String) : Option State :=
  (s.insts.get instId).bind fun inst =>
    ({ s with insts := s.insts.erase instId }).start
      { id := id, process := process, pc := .query inst.vnfdId }

/-- Whether the call runs in the process. -/
def runsIn (s : State) (process id : Nat) : Bool :=
  (s.calls.get id).any fun c => c.process = process

/-- The calls of the process end, and release their locks. -/
def kill (s : State) (process : Nat) : State :=
  { s with
    locks := fun v => (s.locks v).filter fun id => !s.runsIn process id
    calls := s.calls.keep fun c => c.process ≠ process }

def step (pkg : String → Package) (s : State) : Event → Option State
  | .getVnfd id process v all => s.start { id := id, process := process, pc := .lock v all }
  | .createInst inst => (s.insts.insert inst).map fun insts => { s with insts := insts }
  | .deleteInst id process instId => s.deleteInst id process instId
  | .go id => (s.calls.get id).bind fun c => s.next pkg c c.pc
  | .fail id => (s.calls.get id).bind fun c => s.raise c c.pc
  | .kill process => some (s.kill process)

end State

end Tacker.Nfvo
