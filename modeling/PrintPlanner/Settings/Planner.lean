import PrintPlanner.Text.Blank
import PrintPlanner.Text.Utf8

/-!
# Planner settings

The planner has one setting, whether reachability answers are shared between sinks.
A switch value given from outside overrides it if it is one of the recognised words;
any other value is ignored.
-/

set_option autoImplicit false

namespace PrintPlanner

/-- The settings of a planner. -/
structure PlannerConfig where
  /-- Whether sinks with equal signatures share their reachability answer. -/
  sinkSignatureCache : Bool
deriving DecidableEq, Repr

namespace PlannerConfig

/-- The settings of a planner that was told nothing. -/
def default : PlannerConfig := ⟨false⟩

instance : Inhabited PlannerConfig := ⟨default⟩

/-- The key under which a store holds planner settings. -/
def key : String := "planner"

/-- The environment variable whose value overrides the setting. -/
def environmentVariable : String := "SPOOL_SINK_SIGNATURE_CACHE"

/-- The words that switch on, in lower case. -/
def onWords : List String := ["1", "true", "yes", "on"]

/-- The words that switch off, in lower case. -/
def offWords : List String := ["0", "false", "no", "off"]

/-- What a switch value asks for, apart from blanks around it and the case of its letters. -/
def switch? (value : String) : Option Bool :=
  let word := Text.foldCase (Text.trim value)
  if word ∈ onWords then some true
  else if word ∈ offWords then some false
  else none

/-- The settings with an optional switch value applied. -/
def withOverride (config : PlannerConfig) (value : Option String) : PlannerConfig :=
  match value.bind switch? with
  | some enabled => ⟨enabled⟩
  | none => config

/-- The settings with the bytes of the environment variable applied.  Bytes that are not
a text count as an unset variable. -/
def withEnvironment (config : PlannerConfig) (value : Option (List UInt8)) : PlannerConfig :=
  config.withOverride (value.bind Text.ofUtf8?)

end PlannerConfig

end PrintPlanner
