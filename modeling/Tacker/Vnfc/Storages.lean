import Tacker.Vnfc.Order

/-!
# The storages of the VNFCs

A VNFC gets the volumes whose parent resource has the same name as that of its server. Outside of
groups no resource has a parent, and the volumes there go to all the servers.
-/

namespace Tacker.Vnfc

open Tacker.Basis

variable {flavour : Flavour} {heatReses : List HeatRes} {serverRes storageRes : HeatRes}
  {vnfc vnfc' : VnfcResourceInfo} {vnfcs : List VnfcResourceInfo}

/-- The storages that a VNFC refers to. -/
def VnfcResourceInfo.storageIds (vnfc : VnfcResourceInfo) : List String :=
  vnfc.storageResourceIds.getD []

/-- The server is in the same copy of a VDU as the volume, and its VDU requires the volume. -/
def Requires (flavour : Flavour) (serverRes storageRes : HeatRes) : Prop :=
  serverRes.parentResource = storageRes.parentResource ∧
    storageRes.resourceName ∈ flavour.getVduStorages serverRes.resourceName

/-! ## What is expected -/

/-- Every storage is referred to by one VNFC, and that is the one of the server that requires it. -/
def StoragesOwned (flavour : Flavour) (heatReses : List HeatRes)
    (vnfcs : List VnfcResourceInfo) : Prop :=
  ∀ storageRes ∈ (flavour.storageReses heatReses).rows,
    ∃ vnfc ∈ vnfcs, ∃ serverRes ∈ (flavour.serverReses heatReses).rows,
      vnfc.id = serverRes.physicalResourceId ∧ Requires flavour serverRes storageRes ∧
      ∀ vnfc' ∈ vnfcs, storageRes.physicalResourceId ∈ vnfc'.storageIds ↔ vnfc' = vnfc

/-- Every volume is in a copy of a VDU that has one server, and the VDU of that server requires it. -/
def OneServerEach (flavour : Flavour) (heatReses : List HeatRes) : Prop :=
  ∀ storageRes ∈ (flavour.storageReses heatReses).rows,
    ∃ serverRes ∈ (flavour.serverReses heatReses).rows, Requires flavour serverRes storageRes ∧
      ∀ serverRes' ∈ (flavour.serverReses heatReses).rows,
        serverRes'.parentResource = storageRes.parentResource → serverRes' = serverRes

/-! ## The storages of one server -/

lemma mem_storageIdsOf {storageReses : Table HeatRes.physicalResourceId}
    (mem : storageRes ∈ storageReses.rows) :
    storageRes.physicalResourceId ∈ storageIdsOf storageReses serverRes ↔
      serverRes.parentResource = storageRes.parentResource := by
  unfold storageIdsOf
  rw [List.mem_map]
  constructor
  · rintro ⟨other, there, id⟩
    obtain ⟨there, same⟩ := List.mem_filter.mp there
    have eq : other = storageRes := List.inj_on_of_nodup_map storageReses.nodup there mem id
    rw [← eq]
    exact of_decide_eq_true same
  · intro same
    exact ⟨storageRes, List.mem_filter.mpr ⟨mem, decide_eq_true same⟩, rfl⟩

lemma storageIds_makeVnfcResInfo {storageReses : Table HeatRes.physicalResourceId}
    (made : makeVnfcResInfo heatReses storageReses serverRes = .ok vnfc) :
    vnfc.storageIds = storageIdsOf storageReses serverRes := by
  obtain ⟨metadata, -, made⟩ := bind_ok.mp made
  obtain rfl := pure_ok.mp made
  unfold VnfcResourceInfo.storageIds
  by_cases none : storageIdsOf storageReses serverRes = []
  · simp only [none]
    rfl
  · simp only [if_neg none]
    rfl

/-! ## The storages of all servers -/

/-- The VNFC refers to a storage if its server has the same parent resource. -/
structure Refers (flavour : Flavour) (heatReses : List HeatRes) (serverRes : HeatRes)
    (vnfc : VnfcResourceInfo) : Prop where
  id : vnfc.id = serverRes.physicalResourceId
  refers : ∀ storageRes ∈ (flavour.storageReses heatReses).rows,
    storageRes.physicalResourceId ∈ vnfc.storageIds ↔
      serverRes.parentResource = storageRes.parentResource

lemma refers (made : makeVnfcResInfo heatReses (flavour.storageReses heatReses) serverRes =
    .ok vnfc) : Refers flavour heatReses serverRes vnfc := by
  refine ⟨(madeOf made).id, fun storageRes mem => ?_⟩
  rw [storageIds_makeVnfcResInfo made]
  exact mem_storageIdsOf mem

/-- The VNFCs and the servers, one for one. -/
lemma vnfcs_and_servers (ok : sortedVnfcResInfos flavour heatReses = .ok vnfcs) :
    (∀ vnfc ∈ vnfcs, ∃ serverRes ∈ (flavour.serverReses heatReses).rows,
      Refers flavour heatReses serverRes vnfc) ∧
    ∀ serverRes ∈ (flavour.serverReses heatReses).rows, ∃ vnfc ∈ vnfcs,
      Refers flavour heatReses serverRes vnfc := by
  obtain ⟨made, eq, sorted⟩ := bind_ok.mp ok
  have perm := sortDesc_perm sorted
  constructor
  · intro vnfc mem
    obtain ⟨serverRes, there, eq'⟩ := (mem_of_mapM_ok eq).mp (perm.mem_iff.mp mem)
    exact ⟨serverRes, there, refers eq'⟩
  · intro serverRes mem
    obtain ⟨vnfc, eq'⟩ := mapM_ok_of_mem eq mem
    exact ⟨vnfc, perm.mem_iff.mpr ((mem_of_mapM_ok eq).mpr ⟨serverRes, mem, eq'⟩), refers eq'⟩

/-- Servers are told apart by their identifiers. -/
lemma server_eq {serverRes' : HeatRes} (mem : serverRes ∈ (flavour.serverReses heatReses).rows)
    (mem' : serverRes' ∈ (flavour.serverReses heatReses).rows)
    (id : serverRes.physicalResourceId = serverRes'.physicalResourceId) :
    serverRes = serverRes' :=
  List.inj_on_of_nodup_map (flavour.serverReses heatReses).nodup mem mem' id

/-- So are VNFCs. -/
lemma vnfc_eq (ok : sortedVnfcResInfos flavour heatReses = .ok vnfcs) (mem : vnfc ∈ vnfcs)
    (mem' : vnfc' ∈ vnfcs) (id : vnfc.id = vnfc'.id) : vnfc = vnfc' := by
  obtain ⟨made, eq, sorted⟩ := bind_ok.mp ok
  exact List.inj_on_of_nodup_map (inOrder_of_sorted eq sorted).once mem mem' id

/-! ## Main results -/

/-- The storages are attributed to the VNFCs that require them exactly if every volume shares its
parent resource with one server, whose VDU requires it. -/
theorem storages_owned_iff (flavour : Flavour) (heatReses : List HeatRes)
    (vnfcs : List VnfcResourceInfo) (ok : sortedVnfcResInfos flavour heatReses = .ok vnfcs) :
    StoragesOwned flavour heatReses vnfcs ↔ OneServerEach flavour heatReses := by
  obtain ⟨server, vnfcOf⟩ := vnfcs_and_servers ok
  constructor
  · intro owned storageRes mem
    obtain ⟨vnfc, here, serverRes, there, id, required, only⟩ := owned storageRes mem
    refine ⟨serverRes, there, required, ?_⟩
    intro serverRes' there' same
    obtain ⟨vnfc', here', made⟩ := vnfcOf serverRes' there'
    have eq : vnfc' = vnfc := (only vnfc' here').mp ((made.refers storageRes mem).mpr same)
    apply server_eq there' there
    rw [← made.id, eq, id]
  · intro one storageRes mem
    obtain ⟨serverRes, there, required, only⟩ := one storageRes mem
    obtain ⟨vnfc, here, made⟩ := vnfcOf serverRes there
    refine ⟨vnfc, here, serverRes, there, made.id, required, ?_⟩
    intro vnfc' here'
    obtain ⟨serverRes', there', made'⟩ := server vnfc' here'
    constructor
    · intro refers
      have eq := only serverRes' there' ((made'.refers storageRes mem).mp refers)
      apply vnfc_eq ok here' here
      rw [made'.id, made.id, eq]
    · rintro rfl
      exact (made.refers storageRes mem).mpr required.1

/-- A group with a server and its volume. -/
def groupReses : List HeatRes :=
  [ { resourceName := "VDU1", resourceType := "OS::Nova::Server", physicalResourceId := "server-1"
      parentResource := some "VDU1-0" },
    { resourceName := "volume-1", resourceType := "OS::Cinder::Volume"
      physicalResourceId := "volume-id", parentResource := some "VDU1-0" },
    { resourceName := "VDU1-0", resourceType := "VDU1.yaml", physicalResourceId := "stack-1" } ]

/-- Two servers outside of groups with a volume each. -/
def topReses : List HeatRes :=
  [ { resourceName := "VDU1", resourceType := "OS::Nova::Server", physicalResourceId := "server-1" },
    { resourceName := "VDU2", resourceType := "OS::Nova::Server", physicalResourceId := "server-2" },
    { resourceName := "volume-1", resourceType := "OS::Cinder::Volume"
      physicalResourceId := "volume-id-1" },
    { resourceName := "volume-2", resourceType := "OS::Cinder::Volume"
      physicalResourceId := "volume-id-2" } ]

/-- Two VDUs with a volume each. -/
def twoVdus : Flavour where
  vduNodes := [("VDU1", ["volume-1"]), ("VDU2", ["volume-2"])]
  storageNodes := ["volume-1", "volume-2"]

/-- What the servers outside of groups become. -/
def topVnfcs : List VnfcResourceInfo :=
  [ { id := "server-1", vduId := "VDU1"
      storageResourceIds := some ["volume-id-1", "volume-id-2"]
      metadata := { creationTime := 0, stackId := none } },
    { id := "server-2", vduId := "VDU2"
      storageResourceIds := some ["volume-id-1", "volume-id-2"]
      metadata := { creationTime := 0, stackId := none } } ]

/-- What the group becomes. -/
def groupVnfcs : List VnfcResourceInfo :=
  [ { id := "server-1", vduId := "VDU1", storageResourceIds := some ["volume-id"]
      metadata := { creationTime := 0, stackId := none, vduIdx := some (some 0) } } ]

/-- With one server the condition is met. -/
theorem storages_owned_of_group :
    StoragesOwned twoVdus groupReses groupVnfcs ↔ OneServerEach twoVdus groupReses :=
  storages_owned_iff twoVdus groupReses groupVnfcs (by decide)

/-- Both VNFCs get both volumes. -/
theorem storages_shared : ¬ ∀ (flavour : Flavour) (heatReses : List HeatRes)
    (vnfcs : List VnfcResourceInfo), sortedVnfcResInfos flavour heatReses = .ok vnfcs →
      StoragesOwned flavour heatReses vnfcs := by
  intro all
  have owned := all twoVdus topReses topVnfcs (by decide)
  obtain ⟨vnfc, -, -, -, -, -, only⟩ := owned
    { resourceName := "volume-1", resourceType := "OS::Cinder::Volume"
      physicalResourceId := "volume-id-1" } (by decide)
  have first := (only _ (List.mem_cons_self)).mp (by decide)
  have second := (only _ (List.mem_cons_of_mem _ List.mem_cons_self)).mp (by decide)
  exact absurd (first.trans second.symm) (by decide)

end Tacker.Vnfc
