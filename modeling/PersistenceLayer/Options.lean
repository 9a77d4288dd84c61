import PersistenceLayer.Json.Record

/-!
# Generation options

The switches that shape a run, with their defaults and the way they are written
in JSON.
-/

namespace PersistenceLayer

/-- The switches of a run. -/
structure Options where
  /-- Data holders keep their properties in observable state cells. -/
  composableData : Bool := false
  /-- Contracts carry the markers of validation constraints. -/
  constrainedData : Bool := true
  /-- Reserved: no artifact depends on it. -/
  jsonAwareData : Bool := false
  /-- Only contracts and data holders are generated. -/
  onlyData : Bool := false
  deriving DecidableEq, Repr

namespace Options

open Json

/-- A switch that is written as a truth value and may be left out. -/
def switchField (name : String) (default : Bool) : Field Node Bool :=
  ⟨name, Node.readBoolean, some default⟩

/-- The switch of composable data. -/
def composableField : Field Node Bool := switchField "generate_composable_data" false

/-- The switch of constrained data. -/
def constrainedField : Field Node Bool := switchField "generate_constrained_data" true

/-- The reserved switch. -/
def jsonAwareField : Field Node Bool := switchField "generate_json_aware_data" false

/-- The switch of data-only runs. -/
def onlyDataField : Field Node Bool := switchField "generate_only_data" false

/-- The shape of options. -/
def shape : Shape Node :=
  ⟨"struct GenerationOptions",
    [composableField.rule, constrainedField.rule, jsonAwareField.rule, onlyDataField.rule]⟩

/-- Reads options. -/
def read (node : Node) : Except Fault Options := do
  let fields ← shape.fields node
  return {
    composableData := ← composableField.get fields
    constrainedData := ← constrainedField.get fields
    jsonAwareData := ← jsonAwareField.get fields
    onlyData := ← onlyDataField.get fields }

/-- The options in a JSON text. -/
def ofJson (text : String) : Except Fault Options :=
  (Document.ofText text).read read

end Options

end PersistenceLayer
