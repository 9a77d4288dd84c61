import PersistenceLayer.Json.Value

/-!
# Reading values in the order of the text

Readers walk a document and report the first problem they meet. A record is
written as an object with its fields in any order, or as a list with its fields
in the order of their declaration; fields with a default may be left out. The
walk checks every field where it stands; only then are the fields looked up by
name, so that what is read does not depend on where a field stood.
-/

namespace PersistenceLayer.Json

namespace Node

/-- The fault of a value that stands where something else is expected. A scalar is read before it
is refused, a container is not. -/
def mismatch {α : Type} (node : Node) (expected : String) : Except Fault α := do
  let refuse (found : Found) (place : Position) : Except Fault α :=
    .error (.placed (.mismatch (.invalidType found expected)) place)
  match node with
  | null _ stop => refuse .null stop
  | boolean _ stop value => refuse (.boolean value) stop
  | number _ stop literal => refuse (← literal.read stop).found stop
  | text _ literal => refuse (.text (← literal.value)) literal.stop
  | list start _ _ => refuse .sequence start
  | object start _ _ => refuse .map start
  | unreadable _ _ reading _ => .error reading

/-- Reads a text. -/
def readText : Node → Except Fault String
  | text _ literal => literal.value
  | node => node.mismatch "a string"

/-- Reads a truth value. -/
def readBoolean : Node → Except Fault Bool
  | boolean _ _ value => .ok value
  | node => node.mismatch "a boolean"

/-- Reads a value that may be absent, which is written as null. -/
def readOptional {α : Type} (read : Node → Except Fault α) : Node → Except Fault (Option α)
  | null _ _ => .ok none
  | node => some <$> read node

/-- Reads items in order. -/
def readItems {α : Type} (read : Node → Except Fault α) :
    List (Item Node) → Except Fault (List α)
  | [] => .ok []
  | ⟨node, resume⟩ :: items => do
    let value ← settled resume (read node)
    return value :: (← readItems read items)

/-- Reads a list of values of one kind. -/
def readList {α : Type} (read : Node → Except Fault α) : Node → Except Fault (List α)
  | list _ items ending => do
    let values ← readItems read items
    ending.check
    return values
  | node => node.mismatch "a sequence"

/-- Reads the name of a choice from the literal that holds it. -/
def readVariantName {α : Type} (choices : List (String × α)) (name : TextLiteral) :
    Except Fault α := do
  settled name.stop (Value.choose choices (← name.value))

/-- Reads the name of a choice, called a variant identifier in messages. -/
def readVariant {α : Type} (choices : List (String × α)) : Node → Except Fault α
  | text _ literal => readVariantName choices literal
  | node => node.mismatch "variant identifier"

/-- Reads what stands for a choice that carries nothing. -/
def readNothing : Node → Except Fault Unit
  | null _ _ => .ok ()
  | node => node.mismatch "unit"

/-- Reads one of several choices: its name, or an object with its name as the only key and null as
the value. -/
def readChoice {α : Type} (choices : List (String × α)) (node : Node) : Except Fault α := do
  let refuse (place : Position) : Except Fault α := .error (.placed .valueExpected place)
  match node with
  | text _ literal => readVariantName choices literal
  | object _ [] ending =>
    match ending with
    | .closed stop => refuse stop
    | .cutOff place => .error (.placed .endInValue place)
    | .colonless key _ place isEnd =>
      let _ ← readVariantName choices key
      .error (if isEnd then .placed .endInObject place else .placed .colonExpected (place.plus 1))
    | ending => do
      ending.check
      refuse node.start
  | object _ (⟨key, _, value, resume⟩ :: others) ending =>
    let choice ← readVariantName choices key
    value.readNothing
    match others, ending with
    | [], .closed _ => return choice
    | [], .cutOff place => .error (.placed .endInObject place)
    | _, _ => refuse resume
  | unreadable _ .other _ _ => refuse (node.start.plus 1)
  | unreadable _ _ reading _ => .error reading
  | node => refuse (node.start.plus 1)

end Node

/-! ## Records -/

/-- A field as the walk over a record sees it. A record holds nodes of a document, or values apart
from their text. -/
structure Rule (ν : Type) where
  name : String
  isRequired : Bool
  check : ν → Except Fault Unit

/-- A kind of record: what messages call it, and its fields in the order of declaration. -/
structure Shape (ν : Type) where
  title : String
  rules : List (Rule ν)

/-- A field with its type: its name, how it is read, and what it is when it is left out, unless it
is required. -/
structure Field (ν α : Type) where
  name : String
  read : ν → Except Fault α
  default? : Option α

/-- The rule that a field imposes on a record. -/
def Field.rule {ν α : Type} (field : Field ν α) : Rule ν :=
  { name := field.name
    isRequired := field.default?.isNone
    check := fun content => do
      let _ ← field.read content }

/-- The fields that were found in a record, by name. -/
abbrev FoundFields (ν : Type) := List (String × ν)

/-- The value of a field among those found. -/
def Field.get {ν α : Type} (field : Field ν α) (fields : FoundFields ν) : Except Fault α :=
  match fields.lookup field.name with
  | some content => field.read content
  | none =>
    match field.default? with
    | some value => .ok value
    | none => .error (.unplaced (.missingField field.name))

/-- Counts elements in a message. -/
def countElements (count : Nat) : String :=
  if count == 1 then "1 element" else toString count ++ " elements"

namespace Shape

/-- The rule of a field. -/
def rule? {ν : Type} (shape : Shape ν) (name : String) : Option (Rule ν) :=
  shape.rules.find? fun rule => rule.name == name

/-- The first required field that is not among those found. -/
def missing? {ν : Type} (shape : Shape ν) (found : FoundFields ν) : Option String :=
  (shape.rules.find? fun rule => rule.isRequired && (found.lookup rule.name).isNone).map Rule.name

/-- Why a list with the given number of items is too short for a record, if it is. -/
def shortfall? {ν : Type} (shape : Shape ν) (count : Nat) : Option Mismatch :=
  (shape.rules.zipIdx.find? fun (rule, index) => count ≤ index && rule.isRequired).map
    fun (_, index) =>
      .invalidLength index (shape.title ++ " with " ++ countElements shape.rules.length)

/-- The fields of a list that stands for a record. -/
def named {ν : Type} (shape : Shape ν) (items : List ν) : FoundFields ν :=
  (shape.rules.map Rule.name).zip items

/-- Checks the members of an object in order and keeps those that are fields. The first argument
holds the fields already found. A field may come once; a member that is no field is skipped. -/
def checkMembers (shape : Shape Node) (found : FoundFields Node) :
    List (Member Node) → Except Fault (FoundFields Node)
  | [] => .ok found
  | ⟨key, keyResume, node, resume⟩ :: members => do
    let name ← key.value
    match shape.rule? name with
    | none =>
      node.skip
      shape.checkMembers found members
    | some rule =>
      if (found.lookup name).isSome then
        .error (.placed (.mismatch (.duplicateField name)) keyResume)
      else
        settled resume (rule.check node)
        shape.checkMembers (found ++ [(name, node)]) members

/-- Checks the way an object ends. A key without a colon may still be found to repeat a field, and
an object that is closed must not lack a required one. -/
def checkEnding (shape : Shape Node) (found : FoundFields Node) :
    ObjectEnding → Except Fault Unit
  | .closed stop =>
    match shape.missing? found with
    | some name => .error (.placed (.mismatch (.missingField name)) stop)
    | none => .ok ()
  | .colonless key resume place isEnd => do
    let name ← key.value
    if (shape.rule? name).isSome && (found.lookup name).isSome then
      .error (.placed (.mismatch (.duplicateField name)) resume)
    else
      ObjectEnding.check (.colonless key resume place isEnd)
  | ending => ending.check

/-- Checks the items of a list against the fields in their order. -/
def checkItems : List (Rule Node) → List (Item Node) → Except Fault Unit
  | rule :: rules, ⟨node, resume⟩ :: items => do
    settled resume (rule.check node)
    checkItems rules items
  | _, _ => .ok ()

/-- Checks the end of a list that stands for a record. A list with fewer items than fields has to
leave out fields with defaults only; one with more is refused at the first item too many. -/
def checkListEnding (shape : Shape Node) (items : List (Item Node)) (ending : ListEnding) :
    Except Fault Unit :=
  match items.drop shape.rules.length, ending with
  | item :: _, _ => .error (.placed .trailingCharacters (item.value.start.plus 1))
  | [], .closed stop =>
    match shape.shortfall? items.length with
    | some cause => .error (.placed (.mismatch cause) stop)
    | none => .ok ()
  | [], .misplaced place =>
    if items.length < shape.rules.length then ending.check
    else .error (.placed .trailingCharacters (place.plus 1))
  | [], .cutOffAfterComma place =>
    if items.length < shape.rules.length then ending.check
    else .error (.placed .trailingCharacters place)
  | [], ending => ending.check

/-- Reads a record up to its fields: all of them are known, checked, and found once. -/
def fields (shape : Shape Node) : Node → Except Fault (FoundFields Node)
  | .object _ members ending => do
    let found ← shape.checkMembers [] members
    shape.checkEnding found ending
    return found
  | .list _ items ending => do
    checkItems shape.rules items
    shape.checkListEnding items ending
    return shape.named (items.map Item.value)
  | node => node.mismatch shape.title

end Shape

/-- Reads the value of a document and looks at what follows it afterwards. -/
def Document.read {α : Type} (document : Document) (read : Node → Except Fault α) :
    Except Fault α := do
  let value ← read document.root
  match document.trailing with
  | none => return value
  | some place => .error (.placed .trailingCharacters (place.plus 1))

end PersistenceLayer.Json
