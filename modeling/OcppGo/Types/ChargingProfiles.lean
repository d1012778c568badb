import OcppGo.Lib.Validator

/-!
# Charging profiles

The structs that make up a charging profile in `ocpp1.6/types/types.go` and in
`ocpp2.0.1/types/types.go`, with their `validate` tags, and the request that carries
one. A struct's `value` is what the validator sees of it.
-/

namespace OcppGo.Types

open Lib.Validator

/-- `DateTime`, a struct around a time, which has no tags. -/
structure DateTime where
  unixNano : Int

def DateTime.value (_ : DateTime) : Value := .struct []

namespace V16

def chargingProfilePurpose16 : Tag :=
  oneOf ["ChargePointMaxProfile", "TxDefaultProfile", "TxProfile"]

def chargingProfileKind16 : Tag := oneOf ["Absolute", "Recurring", "Relative"]

def recurrencyKind16 : Tag := oneOf ["Daily", "Weekly"]

def chargingRateUnit16 : Tag := oneOf ["W", "A"]

structure ChargingSchedulePeriod where
  startPeriod : Int
  limit : ℚ
  numberPhases : Option Int

def ChargingSchedulePeriod.value (p : ChargingSchedulePeriod) : Value :=
  .struct
    [([.gte 0], .int p.startPeriod),
      ([.gte 0], .float p.limit),
      ([.omitempty, .gte 0], pointer .int p.numberPhases)]

structure ChargingSchedule where
  duration : Option Int
  startSchedule : Option DateTime
  chargingRateUnit : String
  chargingSchedulePeriod : Option (List ChargingSchedulePeriod)
  minChargingRate : Option ℚ

def ChargingSchedule.value (s : ChargingSchedule) : Value :=
  .struct
    [([.omitempty, .gte 0], pointer .int s.duration),
      ([], pointer DateTime.value s.startSchedule),
      ([.required, chargingRateUnit16], .string s.chargingRateUnit),
      ([.required, .min 1], sliceOf ChargingSchedulePeriod.value s.chargingSchedulePeriod),
      ([.omitempty, .gte 0], pointer .float s.minChargingRate)]

structure ChargingProfile where
  chargingProfileId : Int
  transactionId : Int
  stackLevel : Int
  chargingProfilePurpose : String
  chargingProfileKind : String
  recurrencyKind : String
  validFrom : Option DateTime
  validTo : Option DateTime
  chargingSchedule : Option ChargingSchedule

def ChargingProfile.value (p : ChargingProfile) : Value :=
  .struct
    [([], .int p.chargingProfileId),
      ([], .int p.transactionId),
      ([.gte 0], .int p.stackLevel),
      ([.required, chargingProfilePurpose16], .string p.chargingProfilePurpose),
      ([.required, chargingProfileKind16], .string p.chargingProfileKind),
      ([.omitempty, recurrencyKind16], .string p.recurrencyKind),
      ([], pointer DateTime.value p.validFrom),
      ([], pointer DateTime.value p.validTo),
      ([.required], pointer ChargingSchedule.value p.chargingSchedule)]

/-- `smartcharging.SetChargingProfileRequest` -/
structure SetChargingProfileRequest where
  connectorId : Int
  chargingProfile : Option ChargingProfile

def SetChargingProfileRequest.value (r : SetChargingProfileRequest) : Value :=
  .struct
    [([.gte 0], .int r.connectorId),
      ([.required], pointer ChargingProfile.value r.chargingProfile)]

end V16

namespace V201

def chargingProfilePurpose201 : Tag :=
  oneOf ["ChargingStationExternalConstraints", "ChargingStationMaxProfile", "TxDefaultProfile",
    "TxProfile"]

def chargingProfileKind201 : Tag := oneOf ["Absolute", "Recurring", "Relative"]

def recurrencyKind201 : Tag := oneOf ["Daily", "Weekly"]

def chargingRateUnit201 : Tag := oneOf ["W", "A"]

def costKind : Tag :=
  oneOf ["CarbonDioxideEmission", "RelativePricePercentage", "RenewableGenerationPercentage"]

structure RelativeTimeInterval where
  start : Int
  duration : Option Int

def RelativeTimeInterval.value (i : RelativeTimeInterval) : Value :=
  .struct [([], .int i.start), ([.omitempty, .gte 0], pointer .int i.duration)]

structure CostType where
  costKind : String
  amount : Int
  amountMultiplier : Option Int

def CostType.value (c : CostType) : Value :=
  .struct
    [([.required, V201.costKind], .string c.costKind),
      ([.gte 0], .int c.amount),
      ([.omitempty, .min (-3), .max 3], pointer .int c.amountMultiplier)]

structure ConsumptionCost where
  startValue : ℚ
  cost : Option (List CostType)

def ConsumptionCost.value (c : ConsumptionCost) : Value :=
  .struct
    [([], .float c.startValue),
      ([.required, .max 3, .dive], sliceOf CostType.value c.cost)]

structure SalesTariffEntry where
  ePriceLevel : Option Int
  relativeTimeInterval : RelativeTimeInterval
  consumptionCost : Option (List ConsumptionCost)

def SalesTariffEntry.value (e : SalesTariffEntry) : Value :=
  .struct
    [([.omitempty, .gte 0], pointer .int e.ePriceLevel),
      ([.required], e.relativeTimeInterval.value),
      ([.omitempty, .max 3, .dive], sliceOf ConsumptionCost.value e.consumptionCost)]

structure SalesTariff where
  id : Int
  salesTariffDescription : String
  numEPriceLevels : Option Int
  salesTariffEntry : Option (List SalesTariffEntry)

def SalesTariff.value (t : SalesTariff) : Value :=
  .struct
    [([], .int t.id),
      ([.omitempty, .max 32], .string t.salesTariffDescription),
      ([.omitempty], pointer .int t.numEPriceLevels),
      ([.required, .min 1, .max 1024, .dive],
        sliceOf SalesTariffEntry.value t.salesTariffEntry)]

structure ChargingSchedulePeriod where
  startPeriod : Int
  limit : ℚ
  numberPhases : Option Int

def ChargingSchedulePeriod.value (p : ChargingSchedulePeriod) : Value :=
  .struct
    [([.gte 0], .int p.startPeriod),
      ([.gte 0], .float p.limit),
      ([.omitempty, .gte 0], pointer .int p.numberPhases)]

structure ChargingSchedule where
  id : Int
  startSchedule : Option DateTime
  duration : Option Int
  chargingRateUnit : String
  minChargingRate : Option ℚ
  chargingSchedulePeriod : Option (List ChargingSchedulePeriod)
  salesTariff : Option SalesTariff

def ChargingSchedule.value (s : ChargingSchedule) : Value :=
  .struct
    [([.gte 0], .int s.id),
      ([.omitempty], pointer DateTime.value s.startSchedule),
      ([.omitempty, .gte 0], pointer .int s.duration),
      ([.required, chargingRateUnit201], .string s.chargingRateUnit),
      ([.omitempty, .gte 0], pointer .float s.minChargingRate),
      ([.required, .min 1, .max 1024],
        sliceOf ChargingSchedulePeriod.value s.chargingSchedulePeriod),
      ([.omitempty], pointer SalesTariff.value s.salesTariff)]

structure ChargingProfile where
  id : Int
  stackLevel : Int
  chargingProfilePurpose : String
  chargingProfileKind : String
  recurrencyKind : String
  validFrom : Option DateTime
  validTo : Option DateTime
  transactionID : String
  chargingSchedule : Option (List ChargingSchedule)

def ChargingProfile.value (p : ChargingProfile) : Value :=
  .struct
    [([.gte 0], .int p.id),
      ([.gte 0], .int p.stackLevel),
      ([.required, chargingProfilePurpose201], .string p.chargingProfilePurpose),
      ([.required, chargingProfileKind201], .string p.chargingProfileKind),
      ([.omitempty, recurrencyKind201], .string p.recurrencyKind),
      ([], pointer DateTime.value p.validFrom),
      ([], pointer DateTime.value p.validTo),
      ([.omitempty, .max 36], .string p.transactionID),
      ([.required, .min 1, .max 3, .dive], sliceOf ChargingSchedule.value p.chargingSchedule)]

/-- `smartcharging.SetChargingProfileRequest` -/
structure SetChargingProfileRequest where
  evseID : Int
  chargingProfile : Option ChargingProfile

def SetChargingProfileRequest.value (r : SetChargingProfileRequest) : Value :=
  .struct
    [([.gte 0], .int r.evseID),
      ([.required], pointer ChargingProfile.value r.chargingProfile)]

end V201

end OcppGo.Types
