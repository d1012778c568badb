import Mathlib.Init

/-!
# What a peer may send

Before `SendRequest` and `SendRequestAsync` of a charge point, a charging
station, a central system or a CSMS queue anything, they look for a profile with
the request's feature, and the asynchronous ones also compare the feature with a
list of their own. The four differ in the list and in how they name themselves.
-/

namespace OcppGo

/-- What tells the four kinds of peer apart. -/
structure PeerConfig where
  /-- How error texts name the peer. -/
  noun : String
  /-- `GetProfileForFeature` finds a profile. -/
  supported : String → Bool
  /-- What `SendRequestAsync` lets through. -/
  asyncFeatures : List String

def chargePointConfig (supported : String → Bool) : PeerConfig where
  noun := "charge point"
  supported := supported
  asyncFeatures :=
    ["Authorize", "BootNotification", "DataTransfer", "Heartbeat", "MeterValues",
      "StartTransaction", "StopTransaction", "StatusNotification",
      "DiagnosticsStatusNotification", "FirmwareStatusNotification"]

def chargingStationConfig (supported : String → Bool) : PeerConfig where
  noun := "charging station"
  supported := supported
  asyncFeatures :=
    ["Authorize", "BootNotification", "ClearedChargingLimit", "DataTransfer",
      "FirmwareStatusNotification", "Get15118EVCertificate", "GetCertificateStatus",
      "Heartbeat", "LogStatusNotification", "MeterValues", "NotifyChargingLimit",
      "NotifyCustomerInformation", "NotifyDisplayMessages", "NotifyEVChargingNeeds",
      "NotifyEVChargingSchedule", "NotifyEvent", "NotifyMonitoringReport", "NotifyReport",
      "PublishFirmwareStatusNotification", "ReportChargingProfiles",
      "ReservationStatusUpdate", "SecurityEventNotification", "SignCertificate",
      "StatusNotification", "TransactionEvent"]

def centralSystemConfig (supported : String → Bool) : PeerConfig where
  noun := "central system"
  supported := supported
  asyncFeatures :=
    ["ChangeAvailability", "ChangeConfiguration", "ClearCache", "DataTransfer",
      "GetConfiguration", "RemoteStartTransaction", "RemoteStopTransaction", "Reset",
      "UnlockConnector", "GetLocalListVersion", "SendLocalList", "GetDiagnostics",
      "UpdateFirmware", "ReserveNow", "CancelReservation", "TriggerMessage",
      "SetChargingProfile", "ClearChargingProfile", "GetCompositeSchedule"]

def csmsConfig (supported : String → Bool) : PeerConfig where
  noun := "CSMS"
  supported := supported
  asyncFeatures :=
    ["CancelReservation", "CertificateSigned", "ChangeAvailability", "ClearCache",
      "ClearChargingProfile", "ClearDisplayMessage", "ClearVariableMonitoring", "CostUpdated",
      "CustomerInformation", "DataTransfer", "DeleteCertificate", "GetBaseReport",
      "GetChargingProfiles", "GetCompositeSchedule", "GetDisplayMessages",
      "GetInstalledCertificateIds", "GetLocalListVersion", "GetLog", "GetMonitoringReport",
      "GetReport", "GetTransactionStatus", "GetVariables", "InstallCertificate",
      "PublishFirmware", "RequestStartTransaction", "RequestStopTransaction", "ReserveNow",
      "Reset", "SendLocalList", "SetChargingProfile", "SetDisplayMessage",
      "SetMonitoringBase", "SetMonitoringLevel", "SetNetworkProfile",
      "SetVariableMonitoring", "SetVariables", "TriggerMessage", "UnlockConnector",
      "UnpublishFirmware", "UpdateFirmware"]

/-- The checks of `SendRequest` before it queues anything. -/
def sendRequestError (cfg : PeerConfig) (featureName : String) : Option String :=
  if cfg.supported featureName then none
  else some ("feature " ++ featureName ++ " is unsupported on " ++ cfg.noun
    ++ " (missing profile), cannot send request")

/-- The checks of `SendRequestAsync`. -/
def sendRequestAsyncError (cfg : PeerConfig) (featureName : String) : Option String :=
  match sendRequestError cfg featureName with
  | some err => some err
  | none =>
      if featureName ∈ cfg.asyncFeatures then none
      else some ("unsupported action " ++ featureName ++ " on " ++ cfg.noun
        ++ ", cannot send request")

end OcppGo
