import Tacker.Fields.Kinds
import Tacker.Objects.LcmOpOcc

/-!
# Declared classes

The classes of `objects` that instances, occurrences, subscriptions, PM jobs and thresholds are made
of, with their fields in the order in which they are declared.
-/

namespace Tacker.Fields

open Tacker.Objects Kind

/-- The names of the classes. -/
inductive ClassName where
  | vnfInstance
  | vimConnectionInfo
  | vnfInstanceInstantiatedVnfInfo
  | scaleInfo
  | vnfExtCpInfo
  | cpProtocolInfo
  | ipOverEthernetAddressInfo
  | ipOverEthernetAddressInfoIpAddresses
  | ipOverEthernetAddressInfoIpAddressesAddressRange
  | extVirtualLinkInfo
  | resourceHandle
  | extLinkPortInfo
  | vnfExtCpData
  | vnfExtCpConfig
  | cpProtocolData
  | ipOverEthernetAddressData
  | ipOverEthernetAddressDataIpAddresses
  | ipOverEthernetAddressDataIpAddressesAddressRange
  | extManagedVirtualLinkInfo
  | vnfLinkPortInfo
  | monitoringParameter
  | vnfcResourceInfo
  | vnfcResourceInfoVnfcCpInfo
  | vnfVirtualLinkResourceInfo
  | virtualStorageResourceInfo
  | vnfcInfo
  | vnfInstanceLinks
  | link
  | vnfLcmOpOcc
  | problemDetails
  | vnfLcmOpOccResourceChanges
  | affectedVnfc
  | affectedVirtualLink
  | affectedExtLinkPort
  | affectedVirtualStorage
  | vnfInfoModifications
  | vnfcInfoModifications
  | modificationsTriggeredByVnfPkgChange
  | vnfLcmOpOccLinks
  | instantiateVnfRequest
  | extVirtualLinkData
  | extLinkPortData
  | extManagedVirtualLinkData
  | vnfLinkPortData
  | scaleVnfRequest
  | healVnfRequest
  | changeExtVnfConnectivityRequest
  | terminateVnfRequest
  | vnfInfoModificationRequest
  | changeCurrentVnfPkgRequest
  | lccnSubscription
  | lifecycleChangeNotificationsFilter
  | vnfInstanceSubscriptionFilter
  | vnfProductsFromProviders
  | vnfProductsFromProvidersVnfProducts
  | vnfProductsFromProvidersVnfProductsVersions
  | subscriptionAuthentication
  | subscriptionAuthenticationParamsBasic
  | subscriptionAuthenticationParamsOauth2
  | subscriptionAuthenticationParamsOauth2ClientCert
  | paramsOauth2ClientCertCertificateRef
  | lccnSubscriptionLinks
  | fmSubscription
  | fmNotificationsFilter
  | fmSubscriptionLinks
  | pmJob
  | vnfPmJobCriteria
  | vnfPmJobReports
  | vnfPmJobLinks
  | threshold
  | thresholdCriteria
  | simpleThresholdDetails
  | thresholdLinks
deriving DecidableEq

/-! ## Scalar fields -/

/-- `IntegerField`. -/
def integer : Kind ClassName := .scalar (.integer fun _ => true)

/-- `FloatField`. -/
def float : Kind ClassName := .scalar (.float fun _ => true)

/-- `NonNegativeFloatField`. -/
def nonNegativeFloat : Kind ClassName := .scalar (.float fun value => decide (0 ≤ value))

/-- `MACAddressField`: six pairs of hexadecimal digits, in lower case. -/
def macAddress : Kind ClassName :=
  .scalar (.text fun value => ((value.splitOn ":").length = 6 : Bool) &&
    (value.splitOn ":").all fun pair => (pair.length = 2 : Bool) &&
      pair.toList.all fun c => c.isDigit || ('a' ≤ c && c ≤ 'f'))

/-- `VnfOperationalStateType`. -/
def vnfOperationalStates : List String :=
  ["STARTED", "STOPPED"]

/-- `LcmOperationStateType`. -/
def operationStates : List String :=
  ["STARTING", "PROCESSING", "COMPLETED", "FAILED_TEMP", "FAILED", "ROLLING_BACK", "ROLLED_BACK"]

/-- `LcmOperationType`. -/
def operationTypes : List String :=
  ["INSTANTIATE", "SCALE", "SCALE_TO_LEVEL", "CHANGE_FLAVOUR", "TERMINATE", "HEAL", "OPERATE",
   "CHANGE_EXT_CONN", "MODIFY_INFO", "CREATE_SNAPSHOT", "REVERT_TO_SNAPSHOT", "CHANGE_VNFPKG"]

/-- `CancelModeType`. -/
def cancelModes : List String :=
  ["GRACEFUL", "FORCEFUL"]

/-- `LcmOpOccNotificationVerbosityType`. -/
def verbosities : List String :=
  ["FULL", "SHORT"]

/-- `FaultyResourceType`. -/
def faultyResourceTypes : List String :=
  ["COMPUTE", "STORAGE", "NETWORK"]

/-- `PerceivedSeverityType`. -/
def perceivedSeverities : List String :=
  ["CRITICAL", "MAJOR", "MINOR", "WARNING", "INDETERMINATE", "CLEARED"]

/-- `EventType`. -/
def eventTypes : List String :=
  ["COMMUNICATIONS_ALARM", "PROCESSING_ERROR_ALARM", "ENVIRONMENTAL_ALARM", "QOS_ALARM",
   "EQUIPMENT_ALARM"]

/-- The values of `LcmOperationType` that the controller implements. -/
def operationName : LcmOperationType → String
  | .instantiate => "INSTANTIATE"
  | .scale => "SCALE"
  | .terminate => "TERMINATE"
  | .heal => "HEAL"
  | .changeExtConn => "CHANGE_EXT_CONN"
  | .modifyInfo => "MODIFY_INFO"
  | .changeVnfpkg => "CHANGE_VNFPKG"

/-- The class of the parameters of an operation: `OperationParam.coerce`. -/
def paramsClass : LcmOperationType → ClassName
  | .instantiate => .instantiateVnfRequest
  | .scale => .scaleVnfRequest
  | .terminate => .terminateVnfRequest
  | .heal => .healVnfRequest
  | .changeExtConn => .changeExtVnfConnectivityRequest
  | .modifyInfo => .vnfInfoModificationRequest
  | .changeVnfpkg => .changeCurrentVnfPkgRequest

/-! ## Classes -/

/-- The fields of the classes; those of an occurrence are told for its operation. -/
def fieldsOf (operation : LcmOperationType) : ClassName → List (Field ClassName)
  | .vnfInstance => [
    ⟨"id", string⟩, ⟨"vnfInstanceName", string⟩, ⟨"vnfInstanceDescription", string⟩,
    ⟨"vnfdId", string⟩, ⟨"vnfProvider", string⟩, ⟨"vnfProductName", string⟩,
    ⟨"vnfSoftwareVersion", string⟩, ⟨"vnfdVersion", string⟩,
    ⟨"vnfConfigurableProperties", .keyValuePairs⟩,
    ⟨"vimConnectionInfo", dictOfObjects .vimConnectionInfo⟩,
    ⟨"instantiationState", enum ["NOT_INSTANTIATED", "INSTANTIATED"]⟩,
    ⟨"instantiatedVnfInfo", objectField .vnfInstanceInstantiatedVnfInfo⟩,
    ⟨"metadata", .keyValuePairs⟩, ⟨"extensions", .keyValuePairs⟩,
    ⟨"_links", objectField .vnfInstanceLinks⟩]
  | .vimConnectionInfo => [
    ⟨"vimId", string⟩, ⟨"vimType", string⟩, ⟨"interfaceInfo", .keyValuePairs⟩,
    ⟨"accessInfo", .keyValuePairs⟩, ⟨"extra", .keyValuePairs⟩]
  | .vnfInstanceInstantiatedVnfInfo => [
    ⟨"flavourId", string⟩, ⟨"vnfState", enum vnfOperationalStates⟩,
    ⟨"scaleStatus", listOfObjects .scaleInfo⟩, ⟨"maxScaleLevels", listOfObjects .scaleInfo⟩,
    ⟨"extCpInfo", listOfObjects .vnfExtCpInfo⟩,
    ⟨"extVirtualLinkInfo", listOfObjects .extVirtualLinkInfo⟩,
    ⟨"extManagedVirtualLinkInfo", listOfObjects .extManagedVirtualLinkInfo⟩,
    ⟨"monitoringParameters", listOfObjects .monitoringParameter⟩, ⟨"localizationLanguage", string⟩,
    ⟨"vnfcResourceInfo", listOfObjects .vnfcResourceInfo⟩,
    ⟨"vnfVirtualLinkResourceInfo", listOfObjects .vnfVirtualLinkResourceInfo⟩,
    ⟨"virtualStorageResourceInfo", listOfObjects .virtualStorageResourceInfo⟩,
    ⟨"vnfcInfo", listOfObjects .vnfcInfo⟩, ⟨"metadata", .keyValuePairs⟩]
  | .scaleInfo => [
    ⟨"aspectId", string⟩, ⟨"vnfdId", string⟩, ⟨"scaleLevel", integer⟩]
  | .vnfExtCpInfo => [
    ⟨"id", string⟩, ⟨"cpdId", string⟩, ⟨"cpConfigId", string⟩, ⟨"vnfdId", string⟩,
    ⟨"cpProtocolInfo", listOfObjects .cpProtocolInfo⟩, ⟨"extLinkPortId", string⟩,
    ⟨"metadata", .keyValuePairs⟩, ⟨"associatedVnfcCpId", string⟩,
    ⟨"associatedVnfVirtualLinkId", string⟩]
  | .cpProtocolInfo => [
    ⟨"layerProtocol", enum ["IP_OVER_ETHERNET"]⟩,
    ⟨"ipOverEthernet", objectField .ipOverEthernetAddressInfo⟩]
  | .ipOverEthernetAddressInfo => [
    ⟨"macAddress", macAddress⟩, ⟨"segmentationId", string⟩,
    ⟨"ipAddresses", listOfObjects .ipOverEthernetAddressInfoIpAddresses⟩]
  | .ipOverEthernetAddressInfoIpAddresses => [
    ⟨"type", enum ["IPV4", "IPV6"]⟩, ⟨"addresses", .list (.scalar .ipAddress)⟩,
    ⟨"isDynamic", .scalar .boolean⟩,
    ⟨"addressRange", objectField .ipOverEthernetAddressInfoIpAddressesAddressRange⟩,
    ⟨"subnetId", string⟩]
  | .ipOverEthernetAddressInfoIpAddressesAddressRange => [
    ⟨"minAddress", .scalar .ipAddress⟩, ⟨"maxAddress", .scalar .ipAddress⟩]
  | .extVirtualLinkInfo => [
    ⟨"id", string⟩, ⟨"resourceHandle", objectField .resourceHandle⟩,
    ⟨"extLinkPorts", listOfObjects .extLinkPortInfo⟩,
    ⟨"currentVnfExtCpData", listOfObjects .vnfExtCpData⟩]
  | .resourceHandle => [
    ⟨"vimConnectionId", string⟩, ⟨"resourceProviderId", string⟩, ⟨"resourceId", string⟩,
    ⟨"vimLevelResourceType", string⟩]
  | .extLinkPortInfo => [
    ⟨"id", string⟩, ⟨"resourceHandle", objectField .resourceHandle⟩, ⟨"cpInstanceId", string⟩]
  | .vnfExtCpData => [
    ⟨"cpdId", string⟩, ⟨"cpConfig", dictOfObjects .vnfExtCpConfig⟩]
  | .vnfExtCpConfig => [
    ⟨"parentCpConfigId", string⟩, ⟨"linkPortId", string⟩,
    ⟨"cpProtocolData", listOfObjects .cpProtocolData⟩]
  | .cpProtocolData => [
    ⟨"layerProtocol", enum ["IP_OVER_ETHERNET"]⟩,
    ⟨"ipOverEthernet", objectField .ipOverEthernetAddressData⟩]
  | .ipOverEthernetAddressData => [
    ⟨"macAddress", macAddress⟩, ⟨"segmentationId", string⟩,
    ⟨"ipAddresses", listOfObjects .ipOverEthernetAddressDataIpAddresses⟩]
  | .ipOverEthernetAddressDataIpAddresses => [
    ⟨"type", enum ["IPV4", "IPV6"]⟩, ⟨"fixedAddresses", .list (.scalar .ipAddress)⟩,
    ⟨"numDynamicAddresses", integer⟩,
    ⟨"addressRange", objectField .ipOverEthernetAddressDataIpAddressesAddressRange⟩,
    ⟨"subnetId", string⟩]
  | .ipOverEthernetAddressDataIpAddressesAddressRange => [
    ⟨"minAddress", .scalar .ipAddress⟩, ⟨"maxAddress", .scalar .ipAddress⟩]
  | .extManagedVirtualLinkInfo => [
    ⟨"id", string⟩, ⟨"vnfVirtualLinkDescId", string⟩, ⟨"vnfdId", string⟩,
    ⟨"networkResource", objectField .resourceHandle⟩,
    ⟨"vnfLinkPorts", listOfObjects .vnfLinkPortInfo⟩, ⟨"extManagedMultisiteVirtualLinkId", string⟩]
  | .vnfLinkPortInfo => [
    ⟨"id", string⟩, ⟨"resourceHandle", objectField .resourceHandle⟩, ⟨"cpInstanceId", string⟩,
    ⟨"cpInstanceType", enum ["VNFC_CP", "EXT_CP"]⟩]
  | .monitoringParameter => [
    ⟨"id", string⟩, ⟨"vnfdId", string⟩, ⟨"name", string⟩, ⟨"performanceMetric", string⟩]
  | .vnfcResourceInfo => [
    ⟨"id", string⟩, ⟨"vduId", string⟩, ⟨"vnfdId", string⟩,
    ⟨"computeResource", objectField .resourceHandle⟩, ⟨"zoneId", string⟩,
    ⟨"storageResourceIds", .list string⟩, ⟨"reservationId", string⟩,
    ⟨"vnfcCpInfo", listOfObjects .vnfcResourceInfoVnfcCpInfo⟩, ⟨"metadata", .keyValuePairs⟩]
  | .vnfcResourceInfoVnfcCpInfo => [
    ⟨"id", string⟩, ⟨"cpdId", string⟩, ⟨"vnfExtCpId", string⟩,
    ⟨"cpProtocolInfo", listOfObjects .cpProtocolInfo⟩, ⟨"vnfLinkPortId", string⟩,
    ⟨"metadata", .keyValuePairs⟩]
  | .vnfVirtualLinkResourceInfo => [
    ⟨"id", string⟩, ⟨"vnfVirtualLinkDescId", string⟩, ⟨"vnfdId", string⟩,
    ⟨"networkResource", objectField .resourceHandle⟩, ⟨"zoneId", string⟩,
    ⟨"reservationId", string⟩, ⟨"vnfLinkPorts", listOfObjects .vnfLinkPortInfo⟩,
    ⟨"metadata", .keyValuePairs⟩]
  | .virtualStorageResourceInfo => [
    ⟨"id", string⟩, ⟨"virtualStorageDescId", string⟩, ⟨"vnfdId", string⟩,
    ⟨"storageResource", objectField .resourceHandle⟩, ⟨"zoneId", string⟩,
    ⟨"reservationId", string⟩, ⟨"metadata", .keyValuePairs⟩]
  | .vnfcInfo => [
    ⟨"id", string⟩, ⟨"vduId", string⟩, ⟨"vnfcResourceInfoId", string⟩,
    ⟨"vnfcState", enum ["STARTED", "STOPPED"]⟩, ⟨"vnfcConfigurableProperties", .keyValuePairs⟩]
  | .vnfInstanceLinks => [
    ⟨"self", objectField .link⟩, ⟨"indicators", objectField .link⟩,
    ⟨"instantiate", objectField .link⟩, ⟨"terminate", objectField .link⟩,
    ⟨"scale", objectField .link⟩, ⟨"scaleToLevel", objectField .link⟩,
    ⟨"changeFlavour", objectField .link⟩, ⟨"heal", objectField .link⟩,
    ⟨"operate", objectField .link⟩, ⟨"changeExtConn", objectField .link⟩,
    ⟨"createSnapshot", objectField .link⟩, ⟨"revertToSnapshot", objectField .link⟩]
  | .link => [
    ⟨"href", string⟩]
  | .vnfLcmOpOcc => [
    ⟨"id", string⟩, ⟨"operationState", enum operationStates⟩,
    ⟨"stateEnteredTime", .scalar .dateTime⟩, ⟨"startTime", .scalar .dateTime⟩,
    ⟨"vnfInstanceId", string⟩, ⟨"grantId", string⟩, ⟨"operation", enum [operationName operation]⟩,
    ⟨"isAutomaticInvocation", .scalar .boolean⟩,
    ⟨"operationParams", operationParams (paramsClass operation)⟩,
    ⟨"isCancelPending", .scalar .boolean⟩, ⟨"cancelMode", enum cancelModes⟩,
    ⟨"error", objectField .problemDetails⟩,
    ⟨"resourceChanges", objectField .vnfLcmOpOccResourceChanges⟩,
    ⟨"changedInfo", objectField .vnfInfoModifications⟩,
    ⟨"changedExtConnectivity", listOfObjects .extVirtualLinkInfo⟩,
    ⟨"modificationsTriggeredByVnfPkgChange", objectField .modificationsTriggeredByVnfPkgChange⟩,
    ⟨"vnfSnapshotInfoId", string⟩, ⟨"_links", objectField .vnfLcmOpOccLinks⟩]
  | .problemDetails => [
    ⟨"type", string⟩, ⟨"title", string⟩, ⟨"status", integer⟩, ⟨"detail", string⟩,
    ⟨"instance", string⟩, ⟨"userScriptErrHandlingData", .keyValuePairs⟩]
  | .vnfLcmOpOccResourceChanges => [
    ⟨"affectedVnfcs", listOfObjects .affectedVnfc⟩,
    ⟨"affectedVirtualLinks", listOfObjects .affectedVirtualLink⟩,
    ⟨"affectedExtLinkPorts", listOfObjects .affectedExtLinkPort⟩,
    ⟨"affectedVirtualStorages", listOfObjects .affectedVirtualStorage⟩]
  | .affectedVnfc => [
    ⟨"id", string⟩, ⟨"vduId", string⟩, ⟨"vnfdId", string⟩,
    ⟨"changeType", enum ["ADDED", "REMOVED", "MODIFIED", "TEMPORARY"]⟩,
    ⟨"computeResource", objectField .resourceHandle⟩, ⟨"resourceDefinitionId", string⟩,
    ⟨"zoneId", string⟩, ⟨"metadata", .keyValuePairs⟩, ⟨"affectedVnfcCpIds", .list string⟩,
    ⟨"addedStorageResourceIds", .list string⟩, ⟨"removedStorageResourceIds", .list string⟩]
  | .affectedVirtualLink => [
    ⟨"id", string⟩, ⟨"vnfVirtualLinkDescId", string⟩, ⟨"vnfdId", string⟩,
    ⟨"changeType", enum ["ADDED", "REMOVED", "MODIFIED", "TEMPORARY", "LINK_PORT_ADDED", "LINK_PORT_REMOVED"]⟩,
    ⟨"networkResource", objectField .resourceHandle⟩, ⟨"vnfLinkPortIds", .list string⟩,
    ⟨"resourceDefinitionId", string⟩, ⟨"zoneId", string⟩, ⟨"metadata", .keyValuePairs⟩]
  | .affectedExtLinkPort => [
    ⟨"id", string⟩, ⟨"changeType", enum ["ADDED", "REMOVED"]⟩, ⟨"extCpInstanceId", string⟩,
    ⟨"resourceHandle", objectField .resourceHandle⟩, ⟨"resourceDefinitionId", string⟩]
  | .affectedVirtualStorage => [
    ⟨"id", string⟩, ⟨"virtualStorageDescId", string⟩, ⟨"vnfdId", string⟩,
    ⟨"changeType", enum ["ADDED", "REMOVED", "MODIFIED", "TEMPORARY"]⟩,
    ⟨"storageResource", objectField .resourceHandle⟩, ⟨"resourceDefinitionId", string⟩,
    ⟨"zoneId", string⟩, ⟨"metadata", .keyValuePairs⟩]
  | .vnfInfoModifications => [
    ⟨"vnfInstanceName", string⟩, ⟨"vnfInstanceDescription", string⟩,
    ⟨"vnfConfigurableProperties", .keyValuePairs⟩, ⟨"metadata", .keyValuePairs⟩,
    ⟨"extensions", .keyValuePairs⟩, ⟨"vimConnectionInfo", dictOfObjects .vimConnectionInfo⟩,
    ⟨"vnfdId", string⟩, ⟨"vnfProvider", string⟩, ⟨"vnfProductName", string⟩,
    ⟨"vnfSoftwareVersion", string⟩, ⟨"vnfdVersion", string⟩,
    ⟨"vnfcInfoModifications", listOfObjects .vnfcInfoModifications⟩]
  | .vnfcInfoModifications => [
    ⟨"id", string⟩, ⟨"vnfcConfigurableProperties", .keyValuePairs⟩]
  | .modificationsTriggeredByVnfPkgChange => [
    ⟨"vnfConfigurableProperties", .keyValuePairs⟩, ⟨"metadata", .keyValuePairs⟩,
    ⟨"extensions", .keyValuePairs⟩, ⟨"vnfdId", string⟩, ⟨"vnfProvider", string⟩,
    ⟨"vnfProductName", string⟩, ⟨"vnfSoftwareVersion", string⟩, ⟨"vnfdVersion", string⟩]
  | .vnfLcmOpOccLinks => [
    ⟨"self", objectField .link⟩, ⟨"vnfInstance", objectField .link⟩, ⟨"grant", objectField .link⟩,
    ⟨"cancel", objectField .link⟩, ⟨"retry", objectField .link⟩, ⟨"rollback", objectField .link⟩,
    ⟨"fail", objectField .link⟩, ⟨"vnfSnapshot", objectField .link⟩]
  | .instantiateVnfRequest => [
    ⟨"flavourId", string⟩, ⟨"instantiationLevelId", string⟩,
    ⟨"extVirtualLinks", listOfObjects .extVirtualLinkData⟩,
    ⟨"extManagedVirtualLinks", listOfObjects .extManagedVirtualLinkData⟩,
    ⟨"vimConnectionInfo", dictOfObjects .vimConnectionInfo⟩, ⟨"localizationLanguage", string⟩,
    ⟨"additionalParams", .keyValuePairs⟩, ⟨"extensions", .keyValuePairs⟩,
    ⟨"vnfConfigurableProperties", .keyValuePairs⟩]
  | .extVirtualLinkData => [
    ⟨"id", string⟩, ⟨"vimConnectionId", string⟩, ⟨"resourceProviderId", string⟩,
    ⟨"resourceId", string⟩, ⟨"extCps", listOfObjects .vnfExtCpData⟩,
    ⟨"extLinkPorts", listOfObjects .extLinkPortData⟩]
  | .extLinkPortData => [
    ⟨"id", string⟩, ⟨"resourceHandle", objectField .resourceHandle⟩]
  | .extManagedVirtualLinkData => [
    ⟨"id", string⟩, ⟨"vnfVirtualLinkDescId", string⟩, ⟨"vimConnectionId", string⟩,
    ⟨"resourceProviderId", string⟩, ⟨"resourceId", string⟩,
    ⟨"vnfLinkPort", listOfObjects .vnfLinkPortData⟩, ⟨"extManagedMultisiteVirtualLinkId", string⟩]
  | .vnfLinkPortData => [
    ⟨"vnfLinkPortId", string⟩, ⟨"resourceHandle", objectField .resourceHandle⟩]
  | .scaleVnfRequest => [
    ⟨"type", enum ["SCALE_OUT", "SCALE_IN"]⟩, ⟨"aspectId", string⟩, ⟨"numberOfSteps", integer⟩,
    ⟨"additionalParams", .keyValuePairs⟩]
  | .healVnfRequest => [
    ⟨"cause", string⟩, ⟨"additionalParams", .keyValuePairs⟩, ⟨"vnfcInstanceId", .list string⟩,
    ⟨"healScript", string⟩]
  | .changeExtVnfConnectivityRequest => [
    ⟨"extVirtualLinks", listOfObjects .extVirtualLinkData⟩,
    ⟨"vimConnectionInfo", dictOfObjects .vimConnectionInfo⟩, ⟨"additionalParams", .keyValuePairs⟩]
  | .terminateVnfRequest => [
    ⟨"terminationType", enum ["FORCEFUL", "GRACEFUL"]⟩, ⟨"gracefulTerminationTimeout", integer⟩,
    ⟨"additionalParams", .keyValuePairs⟩]
  | .vnfInfoModificationRequest => [
    ⟨"vnfInstanceName", string⟩, ⟨"vnfInstanceDescription", string⟩, ⟨"vnfdId", string⟩,
    ⟨"vnfConfigurableProperties", .keyValuePairs⟩, ⟨"metadata", .keyValuePairs⟩,
    ⟨"extensions", .keyValuePairs⟩, ⟨"vimConnectionInfo", dictOfObjects .vimConnectionInfo⟩,
    ⟨"vnfcInfoModifications", listOfObjects .vnfcInfoModifications⟩]
  | .changeCurrentVnfPkgRequest => [
    ⟨"vnfdId", string⟩, ⟨"extVirtualLinks", listOfObjects .extVirtualLinkData⟩,
    ⟨"extManagedVirtualLinks", listOfObjects .extManagedVirtualLinkData⟩,
    ⟨"vimConnectionInfo", dictOfObjects .vimConnectionInfo⟩, ⟨"additionalParams", .keyValuePairs⟩,
    ⟨"extensions", .keyValuePairs⟩, ⟨"vnfConfigurableProperties", .keyValuePairs⟩]
  | .lccnSubscription => [
    ⟨"id", string⟩, ⟨"filter", objectField .lifecycleChangeNotificationsFilter⟩,
    ⟨"callbackUri", string⟩, ⟨"authentication", objectField .subscriptionAuthentication⟩,
    ⟨"verbosity", enum verbosities⟩, ⟨"_links", objectField .lccnSubscriptionLinks⟩]
  | .lifecycleChangeNotificationsFilter => [
    ⟨"vnfInstanceSubscriptionFilter", objectField .vnfInstanceSubscriptionFilter⟩,
    ⟨"notificationTypes", .list (enum ["VnfLcmOperationOccurrenceNotification", "VnfIdentifierCreationNotification", "VnfIdentifierDeletionNotification"])⟩,
    ⟨"operationTypes", .list (enum operationTypes)⟩,
    ⟨"operationStates", .list (enum operationStates)⟩]
  | .vnfInstanceSubscriptionFilter => [
    ⟨"vnfdIds", .list string⟩,
    ⟨"vnfProductsFromProviders", listOfObjects .vnfProductsFromProviders⟩,
    ⟨"vnfInstanceIds", .list string⟩, ⟨"vnfInstanceNames", .list string⟩]
  | .vnfProductsFromProviders => [
    ⟨"vnfProvider", string⟩, ⟨"vnfProducts", listOfObjects .vnfProductsFromProvidersVnfProducts⟩]
  | .vnfProductsFromProvidersVnfProducts => [
    ⟨"vnfProductName", string⟩,
    ⟨"versions", listOfObjects .vnfProductsFromProvidersVnfProductsVersions⟩]
  | .vnfProductsFromProvidersVnfProductsVersions => [
    ⟨"vnfSoftwareVersion", string⟩, ⟨"vnfdVersions", .list string⟩]
  | .subscriptionAuthentication => [

    ⟨"authType", .list (enum ["BASIC", "OAUTH2_CLIENT_CREDENTIALS", "OAUTH2_CLIENT_CERT", "TLS_CERT"])⟩,
    ⟨"paramsBasic", objectField .subscriptionAuthenticationParamsBasic⟩,
    ⟨"paramsOauth2ClientCredentials", objectField .subscriptionAuthenticationParamsOauth2⟩,
    ⟨"paramsOauth2ClientCert", objectField .subscriptionAuthenticationParamsOauth2ClientCert⟩]
  | .subscriptionAuthenticationParamsBasic => [
    ⟨"userName", string⟩, ⟨"password", string⟩]
  | .subscriptionAuthenticationParamsOauth2 => [
    ⟨"clientId", string⟩, ⟨"clientPassword", string⟩, ⟨"tokenEndpoint", string⟩]
  | .subscriptionAuthenticationParamsOauth2ClientCert => [
    ⟨"clientId", string⟩, ⟨"certificateRef", objectField .paramsOauth2ClientCertCertificateRef⟩,
    ⟨"tokenEndpoint", string⟩]
  | .paramsOauth2ClientCertCertificateRef => [
    ⟨"type", string⟩, ⟨"value", string⟩]
  | .lccnSubscriptionLinks => [
    ⟨"self", objectField .link⟩]
  | .fmSubscription => [
    ⟨"id", string⟩, ⟨"filter", objectField .fmNotificationsFilter⟩, ⟨"callbackUri", string⟩,
    ⟨"authentication", objectField .subscriptionAuthentication⟩,
    ⟨"_links", objectField .fmSubscriptionLinks⟩]
  | .fmNotificationsFilter => [
    ⟨"vnfInstanceSubscriptionFilter", objectField .vnfInstanceSubscriptionFilter⟩,
    ⟨"notificationTypes", .list (enum ["AlarmNotification", "AlarmClearedNotification", "AlarmListRebuiltNotification"])⟩,
    ⟨"faultyResourceTypes", .list (enum faultyResourceTypes)⟩,
    ⟨"perceivedSeverities", .list (enum perceivedSeverities)⟩,
    ⟨"eventTypes", .list (enum eventTypes)⟩, ⟨"probableCauses", .list string⟩]
  | .fmSubscriptionLinks => [
    ⟨"self", objectField .link⟩]
  | .pmJob => [
    ⟨"id", string⟩, ⟨"objectType", string⟩, ⟨"objectInstanceIds", .list string⟩,
    ⟨"subObjectInstanceIds", .list string⟩, ⟨"criteria", objectField .vnfPmJobCriteria⟩,
    ⟨"callbackUri", string⟩, ⟨"reports", listOfObjects .vnfPmJobReports⟩,
    ⟨"_links", objectField .vnfPmJobLinks⟩,
    ⟨"authentication", objectField .subscriptionAuthentication⟩, ⟨"metadata", .keyValuePairs⟩]
  | .vnfPmJobCriteria => [
    ⟨"performanceMetric", .list string⟩, ⟨"performanceMetricGroup", .list string⟩,
    ⟨"collectionPeriod", integer⟩, ⟨"reportingPeriod", integer⟩,
    ⟨"reportingBoundary", .scalar .dateTime⟩]
  | .vnfPmJobReports => [
    ⟨"href", string⟩, ⟨"readyTime", .scalar .dateTime⟩, ⟨"expiryTime", .scalar .dateTime⟩,
    ⟨"fileSize", integer⟩]
  | .vnfPmJobLinks => [
    ⟨"self", objectField .link⟩, ⟨"objects", listOfObjects .link⟩]
  | .threshold => [
    ⟨"id", string⟩, ⟨"objectType", string⟩, ⟨"objectInstanceId", string⟩,
    ⟨"subObjectInstanceIds", .list string⟩, ⟨"criteria", objectField .thresholdCriteria⟩,
    ⟨"callbackUri", string⟩, ⟨"_links", objectField .thresholdLinks⟩,
    ⟨"authentication", objectField .subscriptionAuthentication⟩, ⟨"metadata", .keyValuePairs⟩]
  | .thresholdCriteria => [
    ⟨"performanceMetric", string⟩, ⟨"thresholdType", string⟩,
    ⟨"simpleThresholdDetails", objectField .simpleThresholdDetails⟩]
  | .simpleThresholdDetails => [
    ⟨"thresholdValue", float⟩, ⟨"hysteresis", nonNegativeFloat⟩]
  | .thresholdLinks => [
    ⟨"self", objectField .link⟩, ⟨"object", objectField .link⟩]

lemma columns_nodup (operation : LcmOperationType) (cls : ClassName) :
    ((fieldsOf operation cls).map fun field => getModelField field.name).Nodup := by
  cases cls <;> simp only [fieldsOf, List.map_cons, List.map_nil] <;> decide

/-- The declared classes. -/
def registry (operation : LcmOperationType) : Registry ClassName := fun cls =>
  ⟨fieldsOf operation cls, columns_nodup operation cls⟩

end Tacker.Fields
