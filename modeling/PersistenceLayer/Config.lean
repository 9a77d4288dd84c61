import PersistenceLayer.Options
import PersistenceLayer.Path
import PersistenceLayer.Text.Blank

/-!
# Configuration

A run takes its options and its output directory from the environment. What is
not set there, or set to something that cannot be read, keeps its default.
-/

namespace PersistenceLayer

/-- What a run is configured with. -/
structure Config where
  options : Options := {}
  outputDirectory : Path := ⟨"build/codegen/generated"⟩
  deriving DecidableEq, Repr

namespace Config

/-- The variable that names the output directory. -/
def outputKey : String := "CODEGEN_OUTPUT_DIR"

/-- The variable of the switch for composable data. -/
def composableKey : String := "CODEGEN_COMPOSABLE_DATA"

/-- The variable of the switch for constrained data. -/
def constrainedKey : String := "CODEGEN_CONSTRAINED_DATA"

/-- The variable of the reserved switch. -/
def jsonAwareKey : String := "CODEGEN_JSON_AWARE_DATA"

/-- The variable of the switch for data-only runs. -/
def onlyDataKey : String := "CODEGEN_ONLY_DATA"

/-- All variables that a configuration is read from. -/
def keys : List String :=
  [outputKey, composableKey, constrainedKey, jsonAwareKey, onlyDataKey]

/-- A switch as the environment writes it, in any mixture of ASCII cases. -/
def readSwitch? (value : String) : Option Bool :=
  let word := String.ofList ((Text.trim value).toList.map Char.toLower)
  if word ∈ ["true", "1", "yes"] then some true
  else if word ∈ ["false", "0", "no"] then some false
  else none

/-- The configuration that an environment gives. -/
def ofEnvironment (lookup : String → Option String) : Config :=
  let switch (key : String) (default : Bool) : Bool :=
    ((lookup key).bind readSwitch?).getD default
  let options : Options := {}
  { options :=
      { composableData := switch composableKey options.composableData
        constrainedData := switch constrainedKey options.constrainedData
        jsonAwareData := switch jsonAwareKey options.jsonAwareData
        onlyData := switch onlyDataKey options.onlyData }
    outputDirectory :=
      ((Text.nonBlank? (lookup outputKey)).map Path.mk).getD
        ({} : Config).outputDirectory }

end Config

end PersistenceLayer
