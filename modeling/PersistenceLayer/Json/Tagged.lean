import PersistenceLayer.Json.Record

/-!
# Tagged choices

A choice with fields is written as an object in which one member, the tag,
names the choice, or as a list that starts with the tag. The tag may stand
anywhere in an object, so the rest is taken out of the text before the choice is
known and read afterwards.
-/

namespace PersistenceLayer.Json

/-- What a tagged choice holds apart from its tag. -/
inductive Content where
  | members (members : List (String × Value))
  | items (items : List Value)

/-- How a kind of tagged choice is written. -/
structure Tagging (α : Type) where
  title : String
  tag : String
  choices : List (String × α)

namespace Tagging

/-- What messages call the kind of choice. -/
def expected {α : Type} (tagging : Tagging α) : String :=
  "internally tagged enum " ++ tagging.title

/-- Takes the members of an object out of their text in order, except for the tag, which is read.
The second argument is the tag if it was found already. -/
def splitMembers {α : Type} (tagging : Tagging α) (room : Nat) (found : Option α) :
    List (Member Node) → Except Fault (Option α × List (String × Value))
  | [] => .ok (found, [])
  | ⟨key, keyResume, node, _⟩ :: members => do
    let name ← key.value
    if name = tagging.tag then
      if found.isSome then
        .error (.placed (.mismatch (.duplicateField name)) keyResume)
      else
        let choice ← node.readVariant tagging.choices
        tagging.splitMembers room (some choice) members
    else
      let value ← node.toValue room
      let (choice, values) ← tagging.splitMembers room found members
      return (choice, (name, value) :: values)

/-- Checks the way an object ends. A key without a colon may still be found to repeat the tag. -/
def checkEnding {α : Type} (tagging : Tagging α) (found : Option α) :
    ObjectEnding → Except Fault α
  | .closed stop =>
    match found with
    | some choice => .ok choice
    | none => .error (.placed (.mismatch (.missingField tagging.tag)) stop)
  | .colonless key resume place isEnd => do
    let name ← key.value
    if name = tagging.tag && found.isSome then
      .error (.placed (.mismatch (.duplicateField name)) resume)
    else
      ObjectEnding.check (.colonless key resume place isEnd)
      .error (.placed (.mismatch (.missingField tagging.tag)) place)
  | ending => do
    ending.check
    .error (.unplaced (.missingField tagging.tag))

/-- Reads the tag of a choice in a document and takes the rest out of its text. The first argument
is the number of containers that may still be opened. -/
def split {α : Type} (tagging : Tagging α) (room : Nat) : Node → Except Fault (α × Content)
  | .object start members ending =>
    match room with
    | 0 => .error (.placed .tooDeep (start.plus 1))
    | room + 1 => do
      let (found, values) ← tagging.splitMembers room none members
      let choice ← tagging.checkEnding found ending
      return (choice, .members values)
  | .list start items ending =>
    match room, items, ending with
    | 0, _, _ => .error (.placed .tooDeep (start.plus 1))
    | _ + 1, [], .closed stop => .error (.placed (.mismatch (.missingField tagging.tag)) stop)
    | _ + 1, [], ending => do
      ending.check
      .error (.unplaced (.missingField tagging.tag))
    | room + 1, ⟨first, _⟩ :: others, ending => do
      let choice ← first.readVariant tagging.choices
      let values ← itemValues room others
      ending.check
      return (choice, .items values)
  | node => node.mismatch tagging.expected

/-- Reads a tag apart from its text: the name of a choice, or its number. -/
def readTag {α : Type} (tagging : Tagging α) : Value → Except Fault α
  | .text name => Value.choose tagging.choices name
  | .integer index =>
    if index < 0 then Value.mismatch (.integer index) "variant identifier"
    else
      match tagging.choices[index.toNat]? with
      | some (_, choice) => .ok choice
      | none =>
        let count := toString tagging.choices.length
        .error (.unplaced (.invalidValue (.integer index) ("variant index 0 <= i < " ++ count)))
  | value => value.mismatch "variant identifier"

/-- Splits the content of a choice whose own content is tagged again. -/
def splitContent {α : Type} (tagging : Tagging α) : Content → Except Fault (α × Content)
  | .members members =>
    match members.filter fun member => member.1 == tagging.tag with
    | [] => .error (.unplaced (.missingField tagging.tag))
    | (_, first) :: others => do
      let choice ← tagging.readTag first
      if others.isEmpty then
        return (choice, .members (members.filter fun member => member.1 != tagging.tag))
      else .error (.unplaced (.duplicateField tagging.tag))
  | .items [] => .error (.unplaced (.missingField tagging.tag))
  | .items (first :: others) => do
    let choice ← tagging.readTag first
    return (choice, .items others)

end Tagging

namespace Shape

/-- Checks members apart from their text, in order; those that are no fields are ignored. -/
def checkValues (shape : Shape Value) (found : FoundFields Value) :
    List (String × Value) → Except Fault (FoundFields Value)
  | [] => .ok found
  | (name, value) :: members =>
    match shape.rule? name with
    | none => shape.checkValues found members
    | some rule =>
      if (found.lookup name).isSome then .error (.unplaced (.duplicateField name))
      else do
        rule.check value
        shape.checkValues (found ++ [(name, value)]) members

/-- Checks items apart from their text against the fields in their order. -/
def checkValueItems : List (Rule Value) → List Value → Except Fault Unit
  | rule :: rules, value :: values => do
    rule.check value
    checkValueItems rules values
  | _, _ => .ok ()

/-- Reads the content of a choice up to its fields. -/
def contentFields (shape : Shape Value) : Content → Except Fault (FoundFields Value)
  | .members members => do
    let found ← shape.checkValues [] members
    match shape.missing? found with
    | some name => .error (.unplaced (.missingField name))
    | none => return found
  | .items values => do
    checkValueItems shape.rules values
    match shape.shortfall? values.length with
    | some cause => .error (.unplaced cause)
    | none =>
      if values.length ≤ shape.rules.length then return shape.named values
      else
        let expected := countElements shape.rules.length ++ " in sequence"
        .error (.unplaced (.invalidLength values.length expected))

end Shape

/-- Checks the content of a choice without fields: members are ignored, items are not. -/
def Content.checkEmpty : Content → Except Fault Unit
  | .members _ => .ok ()
  | .items [] => .ok ()
  | .items values => .error (.unplaced (.invalidLength values.length "0 elements in sequence"))

end PersistenceLayer.Json
