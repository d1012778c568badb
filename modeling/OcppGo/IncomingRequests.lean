import OcppGo.Ocppj.Responses

/-!
# Incoming requests

`handleIncomingRequest` and `sendResponse` of the four roles: `chargePoint` and
`centralSystem` of OCPP 1.6, `chargingStation` and `csms` of OCPP 2.0.1. The four share
their code up to tables and texts, which are fields of `Role`.

An incoming call is looked up twice. Its profile decides which handler must have been
registered, and its action decides which handler is called, with the request asserted to
be of a given type. Nothing in the code ties the two tables to each other, or to the
types the profiles decode requests into; a gap between them is a panic.

The two server roles call the handler in a goroutine of its own, with the same code. What
a role tells its own application through `Errors` comes after the replies and is left out.
-/

namespace OcppGo

open Ocppj

/-- The fields of the four roles that hold a handler. -/
inductive Handler where
  | core
  | localAuthList
  | firmware
  | reservation
  | remoteTrigger
  | smartCharging
  | authorization
  | availability
  | data
  | diagnostics
  | display
  | iso15118
  | meter
  | provisioning
  | remoteControl
  | security
  | tariffCost
  | transactions
deriving Repr, DecidableEq

/-- What a handler is called with, and the confirmation and error it returns. -/
abbrev HandlerFunc := String → Payload → Option Payload × Option GoError

/-- A case of `switch action`: the handler that is called, and the type its request must have. -/
structure ActionCase where
  action : String
  handler : Handler
  requestType : GoType
deriving Repr, DecidableEq

structure Role where
  endpoint : Endpoint
  /-- `switch profile.Name`: the handler that must not be nil. -/
  required : List (String × Handler)
  /-- `switch action`. -/
  cases : List ActionCase
  /-- Where an action is not supported, in the text of that error. -/
  place : String
  /-- What is said about an empty confirmation, given the peer and the request. -/
  emptyText : String → String → String

namespace Role

/-- How the role sends its replies; validation is enabled. -/
def sender (role : Role) (lib : Library) (network : Nat → Option String) : Sender :=
  { endpoint := role.endpoint, lib := lib, validationEnabled := true, network := network }

variable (role : Role) (lib : Library) (network : Nat → Option String)

/-- `sendResponse`. -/
def sendResponse (peer : String) (confirmation : Option Payload) (err : Option GoError)
    (requestId : String) : List Attempt :=
  let sender := role.sender lib network
  match err with
  | some err =>
      sender.reportFailure requestId ""
        (match err with
        | .ocpp ocppError => sender.sendError [] requestId ocppError.code ocppError.description none
        -- any other error is sent with its own text
        | .plain text => sender.sendError [] requestId InternalError text none
        | .validation errors =>
            sender.sendError [] requestId InternalError (lib.validationErrorText errors) none)
  | none =>
      match confirmation with
      | none => (sender.sendError [] requestId GenericError (role.emptyText peer requestId) none).1
      | some confirmation =>
          sender.reportFailure requestId confirmation.featureName
            (sender.sendResponse [] requestId confirmation)

def notImplementedError (requestId action : String) : List Attempt :=
  ((role.sender lib network).sendError [] requestId NotImplemented
    ("no handler for action " ++ action ++ " implemented") none).1

def notSupportedError (requestId action : String) : List Attempt :=
  ((role.sender lib network).sendError [] requestId NotSupported
    ("unsupported action " ++ action ++ " on " ++ role.place) none).1

/-- `switch action`; `none` is a panic. -/
def callHandler (handlers : Handler → Option HandlerFunc) (peer : String) (request : Payload)
    (requestId action : String) : Option (List Attempt) :=
  match role.cases.find? (fun c => c.action = action) with
  | none => some (role.notSupportedError lib network requestId action)
  | some c =>
      -- the type assertion, and the method call on an interface that may be nil
      if request.goType ≠ c.requestType then none
      else
        match handlers c.handler with
        | none => none
        | some handler =>
            let result := handler action request
            some (role.sendResponse lib network peer result.1 result.2 requestId)

/-- `handleIncomingRequest`: the attempts to reply, or `none` when it panics. -/
def handleIncomingRequest (handlers : Handler → Option HandlerFunc) (peer : String)
    (request : Payload) (requestId action : String) : Option (List Attempt) :=
  match role.endpoint.getProfileForFeature action with
  | none => some (role.notImplementedError lib network requestId action)
  | some profile =>
      match role.required.lookup profile.name with
      | none => role.callHandler lib network handlers peer request requestId action
      | some handler =>
          if (handlers handler).isNone then
            some (role.notSupportedError lib network requestId action)
          else role.callHandler lib network handlers peer request requestId action

/-! ## OCPP 1.6 -/

namespace V16

/-- A profile whose features are called after their types, in the package given. -/
def profile (name package : String) (features : List String) : Profile :=
  .new name (features.map fun feature =>
    { name := feature
      requestType := package ++ "." ++ feature ++ "Request"
      responseType := package ++ "." ++ feature ++ "Confirmation" })

/-- The profiles of both roles. -/
def profiles : List Profile :=
  [profile "Core" "core"
      ["BootNotification", "Authorize", "ChangeAvailability", "ChangeConfiguration", "ClearCache",
        "DataTransfer", "GetConfiguration", "Heartbeat", "MeterValues", "RemoteStartTransaction",
        "RemoteStopTransaction", "StartTransaction", "StopTransaction", "StatusNotification",
        "Reset", "UnlockConnector"],
    profile "LocalAuthListManagement" "localauth" ["GetLocalListVersion", "SendLocalList"],
    profile "FirmwareManagement" "firmware"
      ["GetDiagnostics", "DiagnosticsStatusNotification", "FirmwareStatusNotification",
        "UpdateFirmware"],
    profile "Reservation" "reservation" ["ReserveNow", "CancelReservation"],
    profile "RemoteTrigger" "remotetrigger" ["TriggerMessage"],
    profile "SmartCharging" "smartcharging"
      ["SetChargingProfile", "ClearChargingProfile", "GetCompositeSchedule"]]

/-- Both roles ask for the same handlers. -/
def required : List (String × Handler) :=
  [("Core", .core), ("LocalAuthListManagement", .localAuthList),
    ("FirmwareManagement", .firmware), ("Reservation", .reservation),
    ("RemoteTrigger", .remoteTrigger), ("SmartCharging", .smartCharging)]

end V16

/-- The cases of one handler, with the package its request types are in. -/
def casesOf (handler : Handler) (package : String) (actions : List String) : List ActionCase :=
  actions.map fun action =>
    { action := action, handler := handler, requestType := package ++ "." ++ action ++ "Request" }

def chargePoint : Role where
  endpoint := { dialect := .V16, profiles := V16.profiles }
  required := V16.required
  cases :=
    casesOf .core "core"
        ["ChangeAvailability", "ChangeConfiguration", "ClearCache", "DataTransfer",
          "GetConfiguration", "RemoteStartTransaction", "RemoteStopTransaction", "Reset",
          "UnlockConnector"]
      ++ casesOf .localAuthList "localauth" ["GetLocalListVersion", "SendLocalList"]
      ++ casesOf .firmware "firmware" ["GetDiagnostics", "UpdateFirmware"]
      ++ casesOf .reservation "reservation" ["ReserveNow", "CancelReservation"]
      ++ casesOf .remoteTrigger "remotetrigger" ["TriggerMessage"]
      ++ casesOf .smartCharging "smartcharging"
        ["SetChargingProfile", "ClearChargingProfile", "GetCompositeSchedule"]
  place := "charge point"
  emptyText := fun _ requestId => "empty confirmation to request " ++ requestId

def centralSystem : Role where
  endpoint := { dialect := .V16, profiles := V16.profiles }
  required := V16.required
  cases :=
    casesOf .core "core"
        ["BootNotification", "Authorize", "DataTransfer", "Heartbeat", "MeterValues",
          "StartTransaction", "StopTransaction", "StatusNotification"]
      ++ casesOf .firmware "firmware"
        ["DiagnosticsStatusNotification", "FirmwareStatusNotification"]
  place := "central system"
  emptyText := fun peer requestId =>
    "empty confirmation to " ++ peer ++ " for request " ++ requestId

/-! ## OCPP 2.0.1 -/

namespace V201

/-- The same with the words of OCPP 2.0.1. -/
def feature (package name : String) : Feature :=
  { name := name
    requestType := package ++ "." ++ name ++ "Request"
    responseType := package ++ "." ++ name ++ "Response" }

def profile (name package : String) (features : List String) : Profile :=
  .new name (features.map (feature package))

/-- The one feature that is not called after its types. -/
def clearDisplay : Feature :=
  { name := "ClearDisplayMessage", requestType := "display.ClearDisplayRequest",
    responseType := "display.ClearDisplayResponse" }

/-- The profiles of both roles. -/
def profiles : List Profile :=
  [profile "authorization" "authorization" ["Authorize", "ClearCache"],
    profile "availability" "availability"
      ["ChangeAvailability", "Heartbeat", "StatusNotification"],
    profile "data" "data" ["DataTransfer"],
    profile "diagnostics" "diagnostics"
      ["ClearVariableMonitoring", "CustomerInformation", "GetLog", "GetMonitoringReport",
        "LogStatusNotification", "NotifyCustomerInformation", "NotifyEvent",
        "NotifyMonitoringReport", "SetMonitoringBase", "SetMonitoringLevel",
        "SetVariableMonitoring"],
    .new "display"
      (clearDisplay :: ["GetDisplayMessages", "NotifyDisplayMessages", "SetDisplayMessage"].map
        (feature "display")),
    profile "firmware" "firmware"
      ["FirmwareStatusNotification", "PublishFirmware", "PublishFirmwareStatusNotification",
        "UnpublishFirmware", "UpdateFirmware"],
    profile "iso15118" "iso15118"
      ["DeleteCertificate", "Get15118EVCertificate", "GetCertificateStatus",
        "GetInstalledCertificateIds", "InstallCertificate"],
    profile "localAuthList" "localauth" ["GetLocalListVersion", "SendLocalList"],
    profile "meter" "meter" ["MeterValues"],
    profile "provisioning" "provisioning"
      ["BootNotification", "GetBaseReport", "GetReport", "GetVariables", "NotifyReport", "Reset",
        "SetNetworkProfile", "SetVariables"],
    profile "remoteControl" "remotecontrol"
      ["RequestStartTransaction", "RequestStopTransaction", "TriggerMessage", "UnlockConnector"],
    profile "reservation" "reservation"
      ["CancelReservation", "ReservationStatusUpdate", "ReserveNow"],
    profile "security" "security"
      ["CertificateSigned", "SecurityEventNotification", "SignCertificate"],
    profile "smartCharging" "smartcharging"
      ["ClearChargingProfile", "ClearedChargingLimit", "GetChargingProfiles",
        "GetCompositeSchedule", "NotifyChargingLimit", "NotifyEVChargingNeeds",
        "NotifyEVChargingSchedule", "ReportChargingProfiles", "SetChargingProfile"],
    profile "tariffCost" "tariffcost" ["CostUpdated"],
    profile "transactions" "transactions" ["GetTransactionStatus", "TransactionEvent"]]

/-- Both roles ask for the same handlers. -/
def required : List (String × Handler) :=
  [("authorization", .authorization), ("availability", .availability), ("data", .data),
    ("diagnostics", .diagnostics), ("display", .display), ("firmware", .firmware),
    ("iso15118", .iso15118), ("localAuthList", .localAuthList), ("meter", .meter),
    ("provisioning", .provisioning), ("remoteControl", .remoteControl),
    ("reservation", .reservation), ("security", .security), ("smartCharging", .smartCharging),
    ("tariffCost", .tariffCost), ("transactions", .transactions)]

end V201

def chargingStation : Role where
  endpoint := { dialect := .V2, profiles := V201.profiles }
  required := V201.required
  cases :=
    casesOf .reservation "reservation" ["CancelReservation", "ReserveNow"]
      ++ casesOf .security "security" ["CertificateSigned"]
      ++ casesOf .availability "availability" ["ChangeAvailability"]
      ++ casesOf .authorization "authorization" ["ClearCache"]
      ++ casesOf .smartCharging "smartcharging"
        ["ClearChargingProfile", "GetChargingProfiles", "GetCompositeSchedule",
          "SetChargingProfile"]
      ++ [{ action := "ClearDisplayMessage", handler := .display,
            requestType := "display.ClearDisplayRequest" }]
      ++ casesOf .display "display" ["GetDisplayMessages", "SetDisplayMessage"]
      ++ casesOf .diagnostics "diagnostics"
        ["ClearVariableMonitoring", "CustomerInformation", "GetLog", "GetMonitoringReport",
          "SetMonitoringBase", "SetMonitoringLevel", "SetVariableMonitoring"]
      ++ casesOf .tariffCost "tariffcost" ["CostUpdated"]
      ++ casesOf .data "data" ["DataTransfer"]
      ++ casesOf .iso15118 "iso15118"
        ["DeleteCertificate", "GetInstalledCertificateIds", "InstallCertificate"]
      ++ casesOf .provisioning "provisioning"
        ["GetBaseReport", "GetReport", "GetVariables", "Reset", "SetNetworkProfile", "SetVariables"]
      ++ casesOf .localAuthList "localauth" ["GetLocalListVersion", "SendLocalList"]
      ++ casesOf .transactions "transactions" ["GetTransactionStatus"]
      ++ casesOf .firmware "firmware" ["PublishFirmware", "UnpublishFirmware", "UpdateFirmware"]
      ++ casesOf .remoteControl "remotecontrol"
        ["RequestStartTransaction", "RequestStopTransaction", "TriggerMessage", "UnlockConnector"]
  place := "charging station"
  emptyText := fun _ requestId => "empty response to request " ++ requestId

def csms : Role where
  endpoint := { dialect := .V2, profiles := V201.profiles }
  required := V201.required
  cases :=
    casesOf .provisioning "provisioning" ["BootNotification", "NotifyReport"]
      ++ casesOf .authorization "authorization" ["Authorize"]
      ++ casesOf .smartCharging "smartcharging"
        ["ClearedChargingLimit", "NotifyChargingLimit", "NotifyEVChargingNeeds",
          "NotifyEVChargingSchedule", "ReportChargingProfiles"]
      ++ casesOf .data "data" ["DataTransfer"]
      ++ casesOf .firmware "firmware"
        ["FirmwareStatusNotification", "PublishFirmwareStatusNotification"]
      ++ casesOf .iso15118 "iso15118" ["Get15118EVCertificate", "GetCertificateStatus"]
      ++ casesOf .availability "availability" ["Heartbeat", "StatusNotification"]
      ++ casesOf .diagnostics "diagnostics"
        ["LogStatusNotification", "NotifyCustomerInformation", "NotifyEvent",
          "NotifyMonitoringReport"]
      ++ casesOf .meter "meter" ["MeterValues"]
      ++ casesOf .display "display" ["NotifyDisplayMessages"]
      ++ casesOf .reservation "reservation" ["ReservationStatusUpdate"]
      ++ casesOf .security "security" ["SecurityEventNotification", "SignCertificate"]
      ++ casesOf .transactions "transactions" ["TransactionEvent"]
  place := "CSMS"
  emptyText := fun peer requestId => "empty response to " ++ peer ++ " for request " ++ requestId

/-- The four roles. -/
def all : List Role := [chargePoint, centralSystem, chargingStation, csms]

end Role

end OcppGo
