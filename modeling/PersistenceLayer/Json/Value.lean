import PersistenceLayer.Json.Document

/-!
# Values apart from their text

A value that is read in no fixed order is first taken out of its text as a
whole: every number in it is evaluated, every text in it decoded, and its
nesting counts against a limit. What such a value lacks is a place, so the
readers of values raise faults without one.
-/

namespace PersistenceLayer.Json

/-- A value apart from its text. Objects keep their members in order, equal keys included. -/
inductive Value where
  | null
  | boolean (value : Bool)
  | integer (value : Int)
  | decimal (value : Float)
  | text (value : String)
  | list (items : List Value)
  | object (members : List (String × Value))

/-- The value of a number. -/
def Number.toValue : Number → Value
  | .integer value => .integer value
  | .decimal value => .decimal value

/-- The number of containers that may be open at once while values are taken out of a text. -/
def nestingLimit : Nat := 127

/-! ## Endings -/

/-- What reading objects to in the way a list ends. -/
def ListEnding.check : ListEnding → Except Fault Unit
  | .closed _ => .ok ()
  | .cutOff place => .error (.placed .endInList place)
  | .misplaced place => .error (.placed .listSeparatorExpected (place.plus 1))
  | .closedAfterComma place => .error (.placed .trailingComma (place.plus 1))
  | .cutOffAfterComma place => .error (.placed .endInValue place)

/-- What reading objects to in the way an object ends. -/
def ObjectEnding.check : ObjectEnding → Except Fault Unit
  | .closed _ => .ok ()
  | .cutOff place => .error (.placed .endInObject place)
  | .misplaced place => .error (.placed .objectSeparatorExpected (place.plus 1))
  | .keyless place => .error (.placed .keyNotText (place.plus 1))
  | .brokenKey reading _ => .error reading
  | .colonless key _ place isEnd => do
    let _ ← key.value
    .error (if isEnd then .placed .endInObject place else .placed .colonExpected (place.plus 1))
  | .closedAfterComma place => .error (.placed .trailingComma (place.plus 1))
  | .cutOffAfterComma place => .error (.placed .endInValue place)

/-- What skipping objects to in the way a list ends. A comma there makes it look for a value. -/
def ListEnding.skip : ListEnding → Except Fault Unit
  | .closedAfterComma place => .error (.placed .valueExpected (place.plus 1))
  | ending => ending.check

/-- What skipping objects to in the way an object ends. A comma there makes it look for a key. -/
def ObjectEnding.skip : ObjectEnding → Except Fault Unit
  | .brokenKey _ skipping => .error skipping
  | .colonless _ _ place isEnd =>
    .error (if isEnd then .placed .endInObject place else .placed .colonExpected (place.plus 1))
  | .closedAfterComma place => .error (.placed .keyNotText (place.plus 1))
  | .cutOffAfterComma place => .error (.placed .endInObject place)
  | ending => ending.check

/-! ## Skipping and taking out -/

mutual

/-- Skips a value: its form is checked, but nothing in it is evaluated. -/
def Node.skip : Node → Except Fault Unit
  | .unreadable _ _ _ skipping => .error skipping
  | .list _ items ending => do
    skipItems items
    ending.skip
  | .object _ members ending => do
    skipMembers members
    ending.skip
  | _ => .ok ()

/-- Skips items in order. -/
def skipItems : List (Item Node) → Except Fault Unit
  | [] => .ok ()
  | ⟨value, _⟩ :: items => do
    value.skip
    skipItems items

/-- Skips members in order. -/
def skipMembers : List (Member Node) → Except Fault Unit
  | [] => .ok ()
  | ⟨_, _, value, _⟩ :: members => do
    value.skip
    skipMembers members

end

/-- What a number literal stands for; a number that is out of range is reported where that shows. -/
def NumberLiteral.read (literal : NumberLiteral) (stop : Position) : Except Fault Number :=
  match literal.evaluate with
  | .ok number => .ok number
  | .error problem => .error (.placed problem (stop.minus literal.unread))

mutual

/-- Takes a value out of its text. The first argument is the number of containers that may still
be opened. -/
def Node.toValue (room : Nat) : Node → Except Fault Value
  | .null _ _ => .ok .null
  | .boolean _ _ value => .ok (.boolean value)
  | .number _ stop literal => do return (← literal.read stop).toValue
  | .text _ literal => do return .text (← literal.value)
  | .list start items ending =>
    match room with
    | 0 => .error (.placed .tooDeep (start.plus 1))
    | room + 1 => do
      let values ← itemValues room items
      ending.check
      return .list values
  | .object start members ending =>
    match room with
    | 0 => .error (.placed .tooDeep (start.plus 1))
    | room + 1 => do
      let values ← memberValues room members
      ending.check
      return .object values
  | .unreadable _ _ reading _ => .error reading

/-- Takes items out of their text, in order. -/
def itemValues (room : Nat) : List (Item Node) → Except Fault (List Value)
  | [] => .ok []
  | ⟨node, _⟩ :: items => do
    let value ← node.toValue room
    return value :: (← itemValues room items)

/-- Takes members out of their text, in order. -/
def memberValues (room : Nat) : List (Member Node) → Except Fault (List (String × Value))
  | [] => .ok []
  | ⟨key, _, node, _⟩ :: members => do
    let name ← key.value
    let value ← node.toValue room
    return (name, value) :: (← memberValues room members)

end

/-! ## Readers of values -/

namespace Value

/-- What a message calls a value. -/
def found : Value → Found
  | null => .null
  | boolean value => .boolean value
  | integer value => .integer value
  | decimal value => .decimal value
  | text value => .text value
  | list _ => .sequence
  | object _ => .map

/-- The fault of a value that stands where something else is expected. -/
def mismatch {α : Type} (value : Value) (expected : String) : Except Fault α :=
  .error (.unplaced (.invalidType value.found expected))

/-- Reads a truth value. -/
def readBoolean : Value → Except Fault Bool
  | boolean value => .ok value
  | value => value.mismatch "a boolean"

/-- Reads a text. -/
def readText : Value → Except Fault String
  | text value => .ok value
  | value => value.mismatch "a string"

/-- Reads a natural number that fits 32 bits. -/
def readWord : Value → Except Fault UInt32
  | integer value =>
    if 0 ≤ value ∧ value.toNat < UInt32.size then .ok (UInt32.ofNat value.toNat)
    else .error (.unplaced (.invalidValue (.integer value) "u32"))
  | value => value.mismatch "u32"

/-- Reads a value that may be absent, which is written as null. -/
def readOptional {α : Type} (read : Value → Except Fault α) : Value → Except Fault (Option α)
  | null => .ok none
  | value => some <$> read value

/-- Looks a name up among choices. -/
def choose {α : Type} (choices : List (String × α)) (name : String) : Except Fault α :=
  match choices.lookup name with
  | some choice => .ok choice
  | none => .error (.unplaced (.unknownVariant name (choices.map Prod.fst)))

/-- Reads one of several choices: its name, or an object with its name as the only key and
nothing as the value. -/
def readChoice {α : Type} (choices : List (String × α)) : Value → Except Fault α
  | text name => choose choices name
  | object [(name, content)] => do
    let choice ← choose choices name
    match content with
    | null | object [] => return choice
    | content => content.mismatch "unit"
  | object _ => .error (.unplaced (.invalidValue .map "map with a single key"))
  | value => value.mismatch "string or map"

end Value

end PersistenceLayer.Json
