import Holonight.Base.CppLib

/-!
# Observation events (`ObservationEvent.h`, `ObservationEvent.cpp`)

The normalised event every collector emits, the store keeps and the rule engine
reads. The enumeration order of `Severity` is the order the code compares by.
-/

namespace Holonight

/-- `enum class Severity : std::uint8_t`. -/
inductive Severity where
  | debug
  | info
  | warning
  | error
  | critical
  deriving DecidableEq, Repr

/-- `static_cast<std::uint8_t>(severity)`. -/
def Severity.rank : Severity → ℕ
  | .debug => 0
  | .info => 1
  | .warning => 2
  | .error => 3
  | .critical => 4

/-- `severityToString` (ObservationEvent.cpp:15–29). -/
def severityToString : Severity → Bytes
  | .debug => "debug"
  | .info => "info"
  | .warning => "warning"
  | .error => "error"
  | .critical => "critical"

/-- `severityFromString` (ObservationEvent.cpp:31–48). -/
def severityFromString (str : Bytes) : Except Bytes Severity :=
  if str = "debug" then .ok .debug
  else if str = "info" then .ok .info
  else if str = "warning" then .ok .warning
  else if str = "error" then .ok .error
  else if str = "critical" then .ok .critical
  else .error (Bytes.ofString "Unknown severity level: " ++ str)

/-- `std::variant<std::monostate, bool, int64_t, double, std::string>`. -/
inductive EventValue where
  | none
  | bool (b : Bool)
  | int (n : ℤ)
  | double (d : Double)
  | string (s : Bytes)
  deriving DecidableEq

/-- `struct ObservationEvent`. -/
structure ObservationEvent where
  id : ℤ := 0
  timestamp : TimePoint
  source : Bytes
  category : Bytes
  subject : Bytes
  signal : Bytes
  value : EventValue := .none
  severity : Severity := .info
  attributesJson : Bytes := "\x7b\x7d"
  deriving DecidableEq

/-- `struct EventQuery`: every criterion is optional. -/
structure EventQuery where
  startTime : Option TimePoint := none
  endTime : Option TimePoint := none
  source : Option Bytes := none
  category : Option Bytes := none
  subject : Option Bytes := none
  minSeverity : Option Severity := none
  limit : Option ℕ := none

end Holonight
