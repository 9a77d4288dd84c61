import PersistenceLayer.Artifact.SourceFile
import PersistenceLayer.Options

/-!
# Contracts

The contract of an entity is an interface with one property per attribute.
Relationships collapse to the key of their target, and with constrained data
each property carries the markers of its attribute's constraints.
-/

namespace PersistenceLayer

/-- A property of a contract with the markers in front of it. -/
structure ContractProperty where
  markers : List Constraint
  property : FlatProperty
  deriving DecidableEq, Repr

/-- The property that an attribute contributes to a contract. -/
def MappedAttribute.contractProperty (options : Options) (mapped : MappedAttribute) :
    ContractProperty :=
  { markers := if options.constrainedData then mapped.source.constraints else []
    property := mapped.flat }

namespace ContractProperty

/-- The line of a marker. -/
def markerLine (constraint : Constraint) : String :=
  "    @get:" ++ constraint.name

/-- The line that declares a property. -/
def declarationLine (property : FlatProperty) : String :=
  "    var " ++ property.name ++ ": " ++ property.scalar.kotlinName ++ "?"

/-- The lines of a property. -/
def lines (property : ContractProperty) : List String :=
  property.markers.map markerLine ++ [declarationLine property.property, ""]

end ContractProperty

namespace Contract

/-- The imports of a contract apart from those of its types. -/
def fixedImports (options : Options) : List String :=
  if options.constrainedData then ["jakarta.validation.constraints.*"] else []

/-- The properties of a contract. -/
def properties (options : Options) (attrs : List MappedAttribute) : List ContractProperty :=
  attrs.map (MappedAttribute.contractProperty options)

/-- The body of a contract. -/
def body (entity : String) (properties : List ContractProperty) : List String :=
  ["interface " ++ Naming.contractType entity ++ " \x7b", ""] ++
    properties.flatMap ContractProperty.lines ++ ["\x7d"]

end Contract

end PersistenceLayer
