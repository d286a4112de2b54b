import Tacker.Basis.Places
import Tacker.Fm.Alarms

/-!
# When the alarms agree with the alerts

An alert is looked up in the database, where an alarm that was raised for the same fingerprint may
not have arrived yet; and the VNFCs of an alarm are those whose resource a pattern matches. The
condition on a step says that neither makes a difference there.
-/

namespace Tacker.Fm

open Tacker.Basis

section

variable {alarm : Alarm} {alert : Alert} {inst : Inst} {s : State}
  {vnfInstanceId fingerprint fingerprint' pod : String}

/-! ## Uncleared alarms -/

/-- The alarm is an uncleared one of the instance and the fingerprint. -/
def Alarm.openFor (vnfInstanceId fingerprint : String) (alarm : Alarm) : Bool :=
  decide (alarm.managedObjectId = vnfInstanceId) && alarm.notCleared fingerprint

lemma Alarm.openFor_iff : alarm.openFor vnfInstanceId fingerprint = true ↔
    alarm.managedObjectId = vnfInstanceId ∧ alarm.alarmClearedTime = none ∧
      fpstr fingerprint ∈ alarm.faultDetails := by
  simp only [openFor, notCleared, Bool.and_eq_true, decide_eq_true_eq, Option.isNone_iff_eq_none]

lemma State.getNotClearedAlarms_eq : s.getNotClearedAlarms vnfInstanceId fingerprint =
    s.alarms.rows.filter (Alarm.openFor vnfInstanceId fingerprint) := by
  simp only [getNotClearedAlarms, Table.select, List.filter_filter]
  apply List.filter_congr
  intro alarm _
  exact Bool.and_comm _ _

lemma State.mem_getNotClearedAlarms :
    alarm ∈ s.getNotClearedAlarms vnfInstanceId fingerprint ↔
      alarm ∈ s.alarms.rows ∧ alarm.openFor vnfInstanceId fingerprint = true := by
  rw [getNotClearedAlarms_eq, List.mem_filter]

lemma fpstr_injective (eq : fpstr fingerprint = fpstr fingerprint') :
    fingerprint = fingerprint' := by
  have texts := congrArg String.toList eq
  simp only [fpstr, String.toList_append] at texts
  exact String.toList_inj.mp (List.append_cancel_left texts)

lemma fpstr_ne_detail {text : String} : fpstr fingerprint ≠ "detail: " ++ text := by
  intro eq
  have texts := congrArg (fun s => s.toList.head?) eq
  simp [fpstr, String.toList_append] at texts

/-- The details of an alarm tell the fingerprint of its alert. -/
lemma fpstr_mem : fpstr fingerprint ∈ faultDetailsOf alert ↔ alert.fingerprint = fingerprint := by
  simp only [faultDetailsOf, List.mem_cons, List.not_mem_nil, or_false, fpstr_ne_detail]
  constructor
  · intro eq
    exact (fpstr_injective eq).symm
  · rintro rfl
    rfl

/-! ## The VNFCs of an alert -/

namespace Inst

/-- The compute resource of the VNFC is the pod. -/
def RunsIn (inst : Inst) (pod : String) (info : VnfcInfo) : Prop :=
  ∃ r ∈ inst.vnfcResourceInfo, info.vnfcResourceInfoId = some r.id ∧ r.resourceId = some pod

/-- The compute resource of the VNFC is one that the pattern finds. -/
def FoundBy (inst : Inst) (matched : String → Bool) (info : VnfcInfo) : Prop :=
  ∃ r ∈ inst.vnfcResourceInfo, info.vnfcResourceInfoId = some r.id ∧ r.named = true ∧
    r.resourceId.any matched = true

instance : DecidablePred (inst.RunsIn pod) := fun info =>
  inferInstanceAs (Decidable (∃ r ∈ inst.vnfcResourceInfo,
    info.vnfcResourceInfoId = some r.id ∧ r.resourceId = some pod))

instance {matched : String → Bool} : DecidablePred (inst.FoundBy matched) := fun info =>
  inferInstanceAs (Decidable (∃ r ∈ inst.vnfcResourceInfo,
    info.vnfcResourceInfoId = some r.id ∧ r.named = true ∧ r.resourceId.any matched = true))

/-- The VNFCs whose compute resource is the pod. -/
def vnfcsOf (inst : Inst) (pod : String) : List String :=
  (inst.vnfcInfo.filter fun info => inst.RunsIn pod info).map VnfcInfo.id

/-- The pattern finds the pod and nothing else, or no VNFC at all. -/
def TellsApart (inst : Inst) (pod : String) (matched : String → Bool) : Prop :=
  (∀ info ∈ inst.vnfcInfo, ¬ inst.FoundBy matched info) ∨
    ∀ info ∈ inst.vnfcInfo, inst.FoundBy matched info ↔ inst.RunsIn pod info

instance {matched : String → Bool} : Decidable (inst.TellsApart pod matched) :=
  inferInstanceAs (Decidable ((∀ info ∈ inst.vnfcInfo, ¬ inst.FoundBy matched info) ∨
    ∀ info ∈ inst.vnfcInfo, (inst.FoundBy matched info ↔ inst.RunsIn pod info)))

variable {reMatch : String → Option (String → Bool)} {ids : List String} {id : String}

/-- The VNFCs that are returned, unless there are none. -/
lemma vnfcInstanceIds_some (made : inst.vnfcInstanceIds reMatch alert = some (id :: ids)) :
    ∃ pod matched, alert.pod = some pod ∧ reMatch pod = some matched ∧
      id :: ids = (inst.vnfcInfo.filter fun info => inst.FoundBy matched info).map VnfcInfo.id := by
  unfold vnfcInstanceIds at made
  cases label : alert.pod with
  | none =>
    rw [label] at made
    cases made
  | some pod =>
    rw [label] at made
    obtain ⟨resources, found, eq⟩ := Option.map_eq_some_iff.mp made
    unfold Inst.deployments at found
    split at found
    · obtain rfl := Option.some.inj found
      simp at eq
    · obtain ⟨matched, compiled, eq'⟩ := Option.map_eq_some_iff.mp found
      refine ⟨pod, matched, rfl, compiled, ?_⟩
      rw [← eq]
      congr 1
      apply List.filter_congr
      intro info _
      rw [← eq']
      apply Bool.eq_iff_iff.mpr
      simp only [Option.any_eq_true, decide_eq_true_eq, List.mem_map, List.mem_filter, FoundBy]
      constructor
      · rintro ⟨id, ref, r, ⟨⟨mem, named⟩, hit⟩, rfl⟩
        exact ⟨r, mem, ref, named, hit⟩
      · rintro ⟨r, mem, ref, named, hit⟩
        exact ⟨r.id, ref, r, ⟨⟨mem, named⟩, hit⟩, rfl⟩

/-- The VNFCs that are returned are those of the pod where the pattern tells it apart. -/
lemma vnfcInstanceIds_exact (made : inst.vnfcInstanceIds reMatch alert = some (id :: ids))
    (apart : ∀ pod ∈ alert.pod, ∀ matched ∈ reMatch pod, inst.TellsApart pod matched) :
    ∃ pod, alert.pod = some pod ∧ id :: ids = inst.vnfcsOf pod := by
  obtain ⟨pod, matched, label, compiled, eq⟩ := vnfcInstanceIds_some made
  refine ⟨pod, label, ?_⟩
  rw [eq, vnfcsOf]
  apply congrArg (List.map VnfcInfo.id)
  apply List.filter_congr
  intro info mem
  apply decide_eq_decide.mpr
  cases apart pod label matched compiled with
  | inr exact => exact exact info mem
  | inl none =>
    have empty : (inst.vnfcInfo.filter fun info => inst.FoundBy matched info) = [] := by
      apply List.filter_eq_nil_iff.mpr
      intro info mem
      simpa using none info mem
    rw [empty] at eq
    cases eq

end Inst

/-! ## The condition -/

/-- The thread is raising an alarm of the instance and the fingerprint. -/
def Handler.raises (vnfInstanceId fingerprint : String) : Handler → Bool
  | .create _ id alert _ | .raise _ id _ _ alert _ =>
    decide (id = vnfInstanceId) && decide (alert.fingerprint = fingerprint)
  | _ => false

/-- The database tells whether there is an uncleared alarm of the alert: none has been cast that is
not stored yet, and where a new one is raised no other thread is raising one. A resolved alert tells
when it ended. -/
def State.Sees (s : State) (vnfInstanceId : String) (alert : Alert) : Prop :=
  match alert.status with
  | .firing => s.getNotClearedAlarms vnfInstanceId alert.fingerprint = [] →
    (∀ alarm ∈ s.sent, alarm.openFor vnfInstanceId alert.fingerprint = false) ∧
      ∀ h ∈ s.handlers, h.raises vnfInstanceId alert.fingerprint = false
  | .resolved => (∀ alarm ∈ s.sent, alarm.openFor vnfInstanceId alert.fingerprint = false) ∧
    (s.getNotClearedAlarms vnfInstanceId alert.fingerprint = [] ∨ alert.endsAt.isSome = true)

/-- What the next statement of a thread reads is enough. -/
def Handler.Careful (reMatch : String → Option (String → Bool)) (s : State) : Handler → Prop
  | .batch _ (alert :: _) =>
    alert.functionType = "vnffm" → ∀ id ∈ alert.vnfInstanceId, s.Sees id alert
  | .create _ id alert _ => ∀ inst ∈ s.insts id, ∀ pod ∈ alert.pod, ∀ matched ∈ reMatch pod,
    inst.TellsApart pod matched
  | _ => True

/-- A step of a thread reads enough. -/
def Careful (reMatch : String → Option (String → Bool)) (p : State × Event) : Prop :=
  match p.2 with
  | .go i => ∀ h ∈ p.1.handlers[i]?, h.Careful reMatch p.1
  | _ => True

instance : Decidable (s.Sees vnfInstanceId alert) :=
  match eq : alert.status with
  | .firing => decidable_of_iff
    (s.getNotClearedAlarms vnfInstanceId alert.fingerprint = [] →
      (∀ alarm ∈ s.sent, alarm.openFor vnfInstanceId alert.fingerprint = false) ∧
        ∀ h ∈ s.handlers, h.raises vnfInstanceId alert.fingerprint = false)
    (by simp only [State.Sees, eq])
  | .resolved => decidable_of_iff
    ((∀ alarm ∈ s.sent, alarm.openFor vnfInstanceId alert.fingerprint = false) ∧
      (s.getNotClearedAlarms vnfInstanceId alert.fingerprint = [] ∨ alert.endsAt.isSome = true))
    (by simp only [State.Sees, eq])

instance {reMatch : String → Option (String → Bool)} :
    (h : Handler) → Decidable (h.Careful reMatch s)
  | .batch _ (alert :: _) => inferInstanceAs (Decidable (alert.functionType = "vnffm" →
      ∀ id ∈ alert.vnfInstanceId, s.Sees id alert))
  | .create _ id alert _ => inferInstanceAs (Decidable (∀ inst ∈ s.insts id, ∀ pod ∈ alert.pod,
      ∀ matched ∈ reMatch pod, inst.TellsApart pod matched))
  | .idle | .batch _ [] | .raise _ _ _ _ _ _ | .update _ _ _ _ => inferInstanceAs (Decidable True)

instance {reMatch : String → Option (String → Bool)} : DecidablePred (Careful reMatch)
  | (s, .go i) => inferInstanceAs (Decidable (∀ h ∈ s.handlers[i]?, h.Careful reMatch s))
  | (_, .alert _ _ _) | (_, .cast _ _) | (_, .store _) | (_, .operate _) =>
    inferInstanceAs (Decidable True)

/-! ## Alarms that agree with the alerts -/

/-- The step handles a resolved alert of the instance and the fingerprint. -/
def Resolves (vnfInstanceId fingerprint : String) (endsAt : Option Nat) (p : State × Event) : Prop :=
  ∃ (thread now : Nat) (alert : Alert) (todo : List Alert), p.2 = .go thread ∧
    p.1.handlers[thread]? = some (.batch now (alert :: todo)) ∧ alert.functionType = "vnffm" ∧
    alert.status = .resolved ∧ alert.vnfInstanceId = some vnfInstanceId ∧
    alert.fingerprint = fingerprint ∧ alert.endsAt = endsAt

/-- The step reads the instance for a new alarm of the alert. -/
def ReadsInst (vnfInstanceId : String) (alert : Alert) (inst : Inst) (p : State × Event) : Prop :=
  ∃ (thread now : Nat) (todo : List Alert), p.2 = .go thread ∧
    p.1.handlers[thread]? = some (.create now vnfInstanceId alert todo) ∧
    p.1.insts vnfInstanceId = some inst

/-- The alarms that a thread has read and is going to clear. -/
def Handler.loaded : Handler → List Alarm
  | .update _ _ alarms _ => alarms
  | _ => []

/-- The alarm is cleared, or a thread or the conductor is going to clear it. -/
def State.ClearDue (s : State) (id : String) : Prop :=
  (∃ alarm ∈ s.alarms.rows, alarm.id = id ∧ alarm.alarmClearedTime ≠ none) ∨
  (∃ alarm ∈ s.sent, alarm.id = id ∧ alarm.alarmClearedTime ≠ none) ∨
  ∃ h ∈ s.handlers, ∃ alarm ∈ h.loaded, alarm.id = id

/-- A resolved alert of the alarm's fingerprint found the alarm uncleared. -/
def ClearedBy (tr : List (State × Event)) (endsAt : Nat) (alarm : Alarm) : Prop :=
  ∃ p ∈ tr, ∃ fingerprint, Resolves alarm.managedObjectId fingerprint (some endsAt) p ∧
    fpstr fingerprint ∈ alarm.faultDetails ∧ ∃ row ∈ p.1.alarms.rows, row.id = alarm.id ∧
      row.openFor alarm.managedObjectId fingerprint = true

/-- The alarm was raised for an alert, with the VNFCs whose compute resource is the alert's pod. -/
def RaisedFor (tr : List (State × Event)) (alarm : Alarm) : Prop :=
  ∃ p ∈ tr, ∃ (alert : Alert) (inst : Inst) (pod : String),
    ReadsInst alarm.managedObjectId alert inst p ∧ alarm.faultDetails = faultDetailsOf alert ∧
      alert.pod = some pod ∧ alarm.vnfcInstanceIds = inst.vnfcsOf pod

/-- The alarms after a run: at most one is uncleared for an instance and a fingerprint, the resolved
alerts have cleared the uncleared alarms of their fingerprint and no others, and the VNFCs are those
of the pods. -/
structure AlarmsAgree (tr : List (State × Event)) (s : State) : Prop where
  single : ∀ vnfInstanceId fingerprint,
    (s.getNotClearedAlarms vnfInstanceId fingerprint).length ≤ 1
  cleared : ∀ p ∈ tr, ∀ vnfInstanceId fingerprint endsAt,
    Resolves vnfInstanceId fingerprint endsAt p →
      ∀ alarm, alarm ∈ p.1.alarms.rows ∨ alarm ∈ p.1.sent →
        alarm.openFor vnfInstanceId fingerprint = true → s.ClearDue alarm.id
  by_alert : ∀ alarm ∈ s.alarms.rows, ∀ endsAt, alarm.alarmClearedTime = some endsAt →
    ClearedBy tr endsAt alarm
  vnfcs : ∀ alarm ∈ s.alarms.rows, RaisedFor tr alarm

end

/-!
## What a step does to the alarms

The steps of the system by what they do to the stored alarms, to those that were cast and to the
threads.
-/

variable {reMatch : String → Option (String → Bool)} {s t : State} {e : Event} {i : Nat}
  {h h' : Handler}

/-- The thread is serving no alert. -/
def Handler.atRest : Handler → Bool
  | .idle | .batch _ _ => true
  | _ => false

lemma Handler.raises_of_atRest {vnfInstanceId fingerprint : String} (rest : h.atRest = true) :
    h.raises vnfInstanceId fingerprint = false := by
  cases h with
  | idle | batch => rfl
  | create | raise | update => cases rest

lemma Handler.loaded_of_atRest (rest : h.atRest = true) : h.loaded = [] := by
  cases h with
  | idle | batch => rfl
  | create | raise | update => cases rest

/-- The steps, by what they do to the alarms. -/
inductive Move (reMatch : String → Option (String → Bool)) (s : State) : Event → State → Prop where
  /-- A thread turns to the next alert or ends; it has cast what it read. -/
  | turned {e : Event} {i : Nat} {h h' : Handler} (here : s.handlers[i]? = some h) (done : h.loaded = [])
      (rest : h'.atRest = true) : Move reMatch s e (s.goOn i h')
  /-- Uncleared alarms are read for a resolved alert. -/
  | found {i now endsAt : Nat} {alert : Alert} {todo : List Alert} {vnfInstanceId : String}
      (here : s.handlers[i]? = some (.batch now (alert :: todo)))
      (kind : alert.functionType = "vnffm") (status : alert.status = .resolved)
      (label : alert.vnfInstanceId = some vnfInstanceId) (ends : alert.endsAt = some endsAt) :
      Move reMatch s (.go i) (s.goOn i
        (.update now endsAt (s.getNotClearedAlarms vnfInstanceId alert.fingerprint) todo))
  /-- No uncleared alarm is found for a firing alert. -/
  | begun {i now : Nat} {alert : Alert} {todo : List Alert} {vnfInstanceId : String}
      (here : s.handlers[i]? = some (.batch now (alert :: todo)))
      (kind : alert.functionType = "vnffm") (status : alert.status = .firing)
      (label : alert.vnfInstanceId = some vnfInstanceId)
      (none : s.getNotClearedAlarms vnfInstanceId alert.fingerprint = []) :
      Move reMatch s (.go i) (s.goOn i (.create now vnfInstanceId alert todo))
  /-- The VNFCs of a new alarm are found in the instance. -/
  | located {i now : Nat} {alert : Alert} {todo : List Alert} {vnfInstanceId id : String}
      {inst : Inst} {ids : List String} {severity : PerceivedSeverity}
      (here : s.handlers[i]? = some (.create now vnfInstanceId alert todo))
      (read : s.insts vnfInstanceId = some inst)
      (made : inst.vnfcInstanceIds reMatch alert = some (id :: ids)) :
      Move reMatch s (.go i)
        (s.goOn i (.raise now vnfInstanceId (id :: ids) severity alert todo))
  /-- A new alarm is cast. -/
  | raised {i now : Nat} {alert : Alert} {todo : List Alert} {vnfInstanceId id : String}
      {ids : List String} {severity : PerceivedSeverity} {alarm : Alarm}
      (here : s.handlers[i]? = some (.raise now vnfInstanceId ids severity alert todo))
      (fresh : s.Fresh id)
      (made : Alarm.ofAlert id vnfInstanceId ids now severity alert = some alarm) :
      Move reMatch s (.cast i id) ((s.send alarm).goOn i (.batch now todo))
  /-- A cleared alarm is cast. -/
  | cleared {i now endsAt : Nat} {alarm : Alarm} {alarms : List Alarm} {todo : List Alert}
      (here : s.handlers[i]? = some (.update now endsAt (alarm :: alarms) todo)) :
      Move reMatch s (.go i)
        ((s.send (alarm.clear endsAt now)).goOn i (.update now endsAt alarms todo))
  /-- An alarm that was cast is stored. -/
  | stored {n : Nat} {alarm : Alarm} (here : s.sent[n]? = some alarm) :
      Move reMatch s (.store n) ({ s with sent := s.sent.eraseIdx n }.storeAlarmInfo alarm)
  /-- The instances change. -/
  | operated {insts : String → Option Inst} : Move reMatch s (.operate insts) { s with insts := insts }

lemma move_createOrUpdateAlarm {now : Nat} {alert : Alert} {todo : List Alert}
    (here : s.handlers[i]? = some (.batch now (alert :: todo)))
    (kind : alert.functionType = "vnffm") :
    Move reMatch s (.go i) (s.createOrUpdateAlarm i now alert todo) := by
  cases label : alert.vnfInstanceId with
  | none =>
    simp only [State.createOrUpdateAlarm, label]
    exact .turned here rfl rfl
  | some vnfInstanceId =>
    cases status : alert.status with
    | resolved =>
      cases read : s.getNotClearedAlarms vnfInstanceId alert.fingerprint with
      | nil =>
        simp only [State.createOrUpdateAlarm, label, status, read]
        exact .turned here rfl rfl
      | cons alarm alarms =>
        cases ends : alert.endsAt with
        | none =>
          simp only [State.createOrUpdateAlarm, label, status, read, ends]
          exact .turned here rfl rfl
        | some endsAt =>
          simp only [State.createOrUpdateAlarm, label, status, read, ends]
          rw [← read]
          exact .found here kind status label ends
    | firing =>
      cases read : s.getNotClearedAlarms vnfInstanceId alert.fingerprint with
      | nil =>
        simp only [State.createOrUpdateAlarm, label, status, read]
        exact .begun here kind status label read
      | cons alarm alarms =>
        simp only [State.createOrUpdateAlarm, label, status, read]
        exact .turned here rfl rfl

lemma move_createNewAlarm {now : Nat} {vnfInstanceId : String} {alert : Alert} {todo : List Alert}
    (here : s.handlers[i]? = some (.create now vnfInstanceId alert todo)) :
    Move reMatch s (.go i) (s.createNewAlarm reMatch i now vnfInstanceId alert todo) := by
  unfold State.createNewAlarm
  split
  · case h_1 severity inst _ read =>
    split
    · exact .turned here rfl rfl
    · exact .turned here rfl rfl
    · case h_3 id ids made => exact .located here read made
  · exact .turned here rfl rfl

lemma move_go (here : s.handlers[i]? = some h) (st : s.go reMatch i h = some t) :
    Move reMatch s (.go i) t := by
  cases h with
  | idle => cases st
  | batch now alerts =>
    cases alerts with
    | nil =>
      obtain rfl := Option.some.inj st
      exact .turned here rfl rfl
    | cons alert todo =>
      by_cases kind : alert.functionType = "vnffm"
      · obtain rfl := Option.some.inj ((if_pos kind).symm.trans st)
        exact move_createOrUpdateAlarm here kind
      · obtain rfl := Option.some.inj ((if_neg kind).symm.trans st)
        exact .turned here rfl rfl
  | create now vnfInstanceId alert todo =>
    obtain rfl := Option.some.inj st
    exact move_createNewAlarm here
  | raise => cases st
  | update now endsAt alarms todo =>
    cases alarms with
    | nil =>
      obtain rfl := Option.some.inj st
      exact .turned here rfl rfl
    | cons alarm alarms =>
      obtain rfl := Option.some.inj st
      exact .cleared here

lemma move_cast {id : String} (here : s.handlers[i]? = some h) (st : s.cast i id h = some t) :
    Move reMatch s (.cast i id) t := by
  cases h with
  | raise now vnfInstanceId ids severity alert todo =>
    by_cases fresh : s.Fresh id
    · replace st := (if_pos fresh).symm.trans st
      cases made : Alarm.ofAlert id vnfInstanceId ids now severity alert with
      | some alarm =>
        rw [made] at st
        obtain rfl := Option.some.inj st
        exact .raised here fresh made
      | none =>
        rw [made] at st
        obtain rfl := Option.some.inj st
        exact .turned here rfl rfl
    · cases (if_neg fresh).symm.trans st
  | idle | batch | create | update => cases st

/-- Every step is one of the moves. -/
lemma step_cases (st : StepOf (State.step reMatch) s e t) : Move reMatch s e t := by
  have eq : s.step reMatch e = some t := st
  cases e with
  | alert i now alerts =>
    obtain ⟨h, here, started⟩ := Option.bind_eq_some_iff.mp eq
    cases h with
    | idle =>
      obtain rfl := Option.some.inj started
      exact .turned here rfl rfl
    | batch | create | raise | update => cases started
  | go i =>
    obtain ⟨h, here, went⟩ := Option.bind_eq_some_iff.mp eq
    exact move_go here went
  | cast i id =>
    obtain ⟨h, here, was⟩ := Option.bind_eq_some_iff.mp eq
    exact move_cast here was
  | store n =>
    obtain ⟨alarm, here, rfl⟩ := Option.map_eq_some_iff.mp eq
    exact .stored here
  | operate insts =>
    obtain rfl := Option.some.inj eq
    exact .operated

/-! ## Storing an alarm -/

namespace State

variable {alarm : Alarm} {n : Nat}

/-- An alarm is stored over its row, or as a new row. -/
lemma storeAlarmInfo_eq (s : State) (alarm : Alarm) :
    ∃ row, s.storeAlarmInfo alarm = { s with alarms := s.alarms.put row } ∧
      (s.alarms.get alarm.id = none ∧ row = alarm ∨
      ∃ old, s.alarms.get alarm.id = some old ∧ row = alarm.mergeInto old) := by
  unfold storeAlarmInfo
  cases found : s.alarms.get alarm.id with
  | some old => exact ⟨alarm.mergeInto old, rfl, .inr ⟨old, rfl, rfl⟩⟩
  | none => exact ⟨alarm, rfl, .inl ⟨rfl, rfl⟩⟩

end State

end Tacker.Fm
