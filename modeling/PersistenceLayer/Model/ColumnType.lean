/-!
# Column types

The closed set of column types an attribute can be declared with. Every
generated artifact decides for each of them what it writes.
-/

namespace PersistenceLayer

/-- The types of identifiers. -/
inductive IdKind where
  | integer
  | long
  | uuid
  deriving DecidableEq, Repr

/-- The types of optimistic locking counters. -/
inductive VersionKind where
  | integer
  | long
  deriving DecidableEq, Repr

/-- The types of plain columns. A length, precision or scale that is not given is left to the
database. -/
inductive BasicType where
  | integer
  | long
  | boolean
  | string (length : Option UInt32)
  | bigDecimal (precision scale : Option UInt32)
  | byteArray
  | uuid
  | localDateTime
  | zonedDateTime
  deriving DecidableEq, Repr

/-- The column type of an attribute. -/
inductive ColumnType where
  /-- The key of the entity, which the database may generate. -/
  | identifier (kind : IdKind) (generated : Bool)
  /-- The optimistic locking counter. -/
  | version (kind : VersionKind)
  | basic (type : BasicType)
  /-- The owning side of a relationship to the entity of the given name. -/
  | manyToOne (target : String)
  deriving DecidableEq, Repr

/-- The scalars that columns hold in the generated sources. -/
inductive Scalar where
  | int
  | long
  | boolean
  | string
  | bigDecimal
  | byteArray
  | uuid
  | localDateTime
  | zonedDateTime
  deriving DecidableEq, Repr

namespace Scalar

/-- The name of a scalar in Kotlin sources. -/
def kotlinName : Scalar → String
  | int => "Int"
  | long => "Long"
  | boolean => "Boolean"
  | string => "String"
  | bigDecimal => "BigDecimal"
  | byteArray => "ByteArray"
  | uuid => "UUID"
  | localDateTime => "LocalDateTime"
  | zonedDateTime => "ZonedDateTime"

/-- The name of a scalar in Java sources, where it has to be an object type. -/
def javaName : Scalar → String
  | int => "Integer"
  | byteArray => "byte[]"
  | scalar => scalar.kotlinName

/-- The qualified name a scalar has to be imported by, if it has to be imported. -/
def qualifiedName? : Scalar → Option String
  | uuid => some "java.util.UUID"
  | bigDecimal => some "java.math.BigDecimal"
  | localDateTime => some "java.time.LocalDateTime"
  | zonedDateTime => some "java.time.ZonedDateTime"
  | int | long | boolean | string | byteArray => none

end Scalar

/-- The scalar of an identifier. -/
def IdKind.scalar : IdKind → Scalar
  | integer => .int
  | long => .long
  | uuid => .uuid

/-- The scalar of a counter. -/
def VersionKind.scalar : VersionKind → Scalar
  | integer => .int
  | long => .long

/-- The scalar of a plain column. -/
def BasicType.scalar : BasicType → Scalar
  | integer => .int
  | long => .long
  | boolean => .boolean
  | string _ => .string
  | bigDecimal _ _ => .bigDecimal
  | byteArray => .byteArray
  | uuid => .uuid
  | localDateTime => .localDateTime
  | zonedDateTime => .zonedDateTime

namespace ColumnType

/-- The scalar of a column type. A relationship has none of its own; it borrows the scalar of its
target's identifier. -/
def scalar? : ColumnType → Option Scalar
  | identifier kind _ => some kind.scalar
  | version kind => some kind.scalar
  | basic type => some type.scalar
  | manyToOne _ => none

/-- The type of identifier that a column type declares, if it does. -/
def idKind? : ColumnType → Option IdKind
  | identifier kind _ => some kind
  | _ => none

/-- Whether a column holds text, so that patterns can be matched against it. -/
def isText : ColumnType → Bool
  | basic (.string _) => true
  | _ => false

/-- Whether the persistence runtime manages a column, so that client data never sets it. -/
def isManaged : ColumnType → Bool
  | identifier _ _ | version _ => true
  | basic _ | manyToOne _ => false

end ColumnType

end PersistenceLayer
