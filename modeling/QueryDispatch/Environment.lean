import QueryDispatch.Settings
import QueryDispatch.Text.Basic
import QueryDispatch.Wire.Bytes

/-!
# Configuration from the environment

An environment gives variables raw bytes. A variable that is not set and one whose bytes are not
text are the same to a reader: it has no value, and what it configures keeps its default.

Each setting is read from a variable of its own. A value that cannot be used falls back to the
default without complaint, so reading never fails; `Settings.violation?` judges the result.
-/

namespace QueryDispatch

/-- The variables that are set, by name. -/
structure Environment where
  values : List (String × Bytes)

namespace Environment

/-- The text of a variable. -/
def text? (e : Environment) (name : String) : Option String :=
  (e.values.lookup name).bind Wire.ofUtf8?

/-- Whether a text switches something on. -/
def isOn (s : String) : Bool := s == "1" || Text.sameIgnoringCase s "true"

/-- Whether a variable is set to switch something on. -/
def flag (e : Environment) (name : String) : Bool := (e.text? name).any isOn

/-- The number a text writes, if it fits a machine word. -/
def parseMark? (s : String) : Option UInt64 :=
  (Text.Number.parse? (UInt64.size - 1) s).map .ofNat

/-- The number a variable holds. -/
def mark? (e : Environment) (name : String) : Option UInt64 := (e.text? name).bind parseMark?

end Environment

namespace Settings

/-- The settings an environment asks for. -/
def ofEnvironment (e : Environment) : Settings :=
  let defaults : Settings := {}
  { secureEndpoint := (e.text? "QC_QUERY_SECURE_ENDPOINT").getD defaults.secureEndpoint
    publicEndpoint := (e.text? "QC_QUERY_PUBLIC_ENDPOINT").getD defaults.publicEndpoint
    verbose := e.flag "QC_QUERY_VERBOSE"
    redactRoutes := e.flag "QC_QUERY_REDACT_ROUTES"
    highWaterMark := (e.mark? "QC_QUERY_HIGH_WATER_MARK").getD defaults.highWaterMark }

end Settings

/-- How a process logs. -/
structure LogSettings where
  /-- The filter, as text. -/
  level : String := "info"
  /-- Whether lines are JSON objects. -/
  json : Bool := false
  deriving DecidableEq

namespace LogSettings

/-- The log settings an environment asks for. The filter has a second variable, which counts where
the first has no value. -/
def ofEnvironment (e : Environment) : LogSettings :=
  let defaults : LogSettings := {}
  { level := ((e.text? "QC_LOG_LEVEL").or (e.text? "RUST_LOG")).getD defaults.level
    json := e.flag "QC_JSON_LOGS" }

end LogSettings

end QueryDispatch
