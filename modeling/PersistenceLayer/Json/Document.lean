import PersistenceLayer.Json.Token

/-!
# Documents as trees

The tokens of a text form a tree even when the text breaks off: the tree then
ends, along its last branch, with the situation in which no further token fits.
Readers walk a tree in the order of the text, so that the first problem of the
text is the one they report, whatever it is.
-/

namespace PersistenceLayer.Json

/-- A text value or a key: the characters it stands for, and the place after it. -/
structure TextLiteral where
  value : Except Fault String
  stop : Position

/-- A list item. A fault of the item that has no place of its own is reported at `resume`. -/
structure Item (α : Type) where
  value : α
  resume : Position

/-- A member of an object. A fault of the key that has no place of its own is reported at
`keyResume`, one of the value at `resume`. -/
structure Member (α : Type) where
  key : TextLiteral
  keyResume : Position
  value : α
  resume : Position

/-- How a list ends. Each way but the first carries the place of the token that does not fit. -/
inductive ListEnding where
  /-- By its bracket, which stops at the given place. -/
  | closed (stop : Position)
  /-- The text ends where the first item, a comma or the bracket could stand. -/
  | cutOff (place : Position)
  /-- Another token stands where a comma or the bracket should. -/
  | misplaced (place : Position)
  /-- By its bracket, but right after a comma. -/
  | closedAfterComma (place : Position)
  /-- The text ends right after a comma. -/
  | cutOffAfterComma (place : Position)

/-- How an object ends. Each way but the first carries the place of the token that does not fit. -/
inductive ObjectEnding where
  /-- By its brace, which stops at the given place. -/
  | closed (stop : Position)
  /-- The text ends where the first key, a comma or the brace could stand. -/
  | cutOff (place : Position)
  /-- Another token stands where a comma or the brace should. -/
  | misplaced (place : Position)
  /-- No text stands where a key should. -/
  | keyless (place : Position)
  /-- A key breaks off. -/
  | brokenKey (reading skipping : Fault)
  /-- No colon follows a key. -/
  | colonless (key : TextLiteral) (resume place : Position) (isEnd : Bool)
  /-- By its brace, but right after a comma. -/
  | closedAfterComma (place : Position)
  /-- The text ends right after a comma. -/
  | cutOffAfterComma (place : Position)

/-- What stands where a value cannot be read. -/
inductive Obstacle where
  | brokenText
  | endOfText
  | other
  deriving DecidableEq

/-- A value of a document, with the place where it starts. -/
inductive Node where
  | null (start stop : Position)
  | boolean (start stop : Position) (value : Bool)
  | number (start stop : Position) (literal : NumberLiteral)
  | text (start : Position) (literal : TextLiteral)
  | list (start : Position) (items : List (Item Node)) (ending : ListEnding)
  | object (start : Position) (members : List (Member Node)) (ending : ObjectEnding)
  | unreadable (start : Position) (obstacle : Obstacle) (reading skipping : Fault)

/-- The place where a value starts. -/
def Node.start : Node → Position
  | null start _ | boolean start _ _ | number start _ _ | text start _ | list start _ _
  | object start _ _ | unreadable start _ _ _ => start

/-- A document: its value, and where the token after the value stands if that is not the end of
the text. -/
structure Document where
  root : Node
  trailing : Option Position

/-! ## Building a tree -/

/-- A container around the value that is being built, its latest entry first. An object also holds
the key of that value. -/
inductive Frame where
  | list (start : Position) (items : List (Item Node))
  | object (start : Position) (members : List (Member Node)) (key : TextLiteral)
      (keyResume : Position)

/-- What may come next inside the frames. -/
inductive Expectation where
  | value
  /-- A list was opened. -/
  | itemOrEnd (start : Position)
  /-- An object was opened. -/
  | keyOrEnd (start : Position)
  /-- A comma has followed a member of an object. -/
  | key (start : Position) (members : List (Member Node))
  /-- A key was read. -/
  | colon (start : Position) (members : List (Member Node)) (key : TextLiteral)
  /-- A value is complete; a separator or the end of its container follows. -/
  | separator (value : Node)
  /-- A comma has followed the item; the next token tells where reading goes on. -/
  | item (start : Position) (items : List (Item Node)) (previous : Node)

/-- The state of building a tree. -/
inductive Builder where
  | building (frames : List Frame) (next : Expectation)
  | done (document : Document)

/-- The tree whose last branch is the given value and in which nothing is closed after it. -/
def abandon (place : Position) : List Frame → Node → Node
  | [], node => node
  | .list start items :: frames, node =>
    abandon place frames (.list start (⟨node, place⟩ :: items).reverse (.cutOff place))
  | .object start members key keyResume :: frames, node =>
    abandon place frames
      (.object start (⟨key, keyResume, node, place⟩ :: members).reverse (.cutOff place))

/-- The scalar that a token is. -/
def Token.scalar? (token : Token) : Option Node :=
  match token.lexeme with
  | .null => some (.null token.start token.stop)
  | .boolean value => some (.boolean token.start token.stop value)
  | .number literal => some (.number token.start token.stop literal)
  | .text value => some (.text token.start ⟨value, token.stop⟩)
  | _ => none

/-- What stands for the value where a token starts none. -/
def Token.obstacle (token : Token) : Node :=
  match token.lexeme with
  | .broken isText reading skipping =>
    .unreadable token.start (if isText then .brokenText else .other) reading skipping
  | .endOfText =>
    let fault := Fault.placed .endInValue token.start
    .unreadable token.start .endOfText fault fault
  | _ =>
    let fault := Fault.placed .valueExpected (token.start.plus 1)
    .unreadable token.start .other fault fault

namespace Builder

/-- The builder that stops at a value and the token after it. -/
def stopAt (place : Position) (frames : List Frame) (node : Node) : Builder :=
  done ⟨abandon place frames node, none⟩

/-- The builder that has completed a value. -/
def complete (frames : List Frame) (node : Node) : Builder :=
  building frames (.separator node)

/-- Takes a token where a value is expected. -/
def takeValue (frames : List Frame) (token : Token) : Builder :=
  match token.lexeme with
  | .openBracket => building frames (.itemOrEnd token.start)
  | .openBrace => building frames (.keyOrEnd token.start)
  | _ =>
    match token.scalar? with
    | some node => complete frames node
    | none => stopAt token.start frames token.obstacle

/-- Takes a token after an opening bracket. -/
def takeItemOrEnd (frames : List Frame) (start : Position) (token : Token) : Builder :=
  match token.lexeme with
  | .closeBracket => complete frames (.list start [] (.closed token.stop))
  | .endOfText => stopAt token.start frames (.list start [] (.cutOff token.start))
  | _ => takeValue (.list start [] :: frames) token

/-- Takes a token after an opening brace. -/
def takeKeyOrEnd (frames : List Frame) (start : Position) (token : Token) : Builder :=
  let stop (ending : ObjectEnding) : Builder :=
    stopAt token.start frames (.object start [] ending)
  match token.lexeme with
  | .closeBrace => complete frames (.object start [] (.closed token.stop))
  | .text value => building frames (.colon start [] ⟨value, token.stop⟩)
  | .endOfText => stop (.cutOff token.start)
  | .broken true reading skipping => stop (.brokenKey reading skipping)
  | _ => stop (.keyless token.start)

/-- Takes a token after a comma in an object. -/
def takeKey (frames : List Frame) (start : Position) (members : List (Member Node))
    (token : Token) : Builder :=
  let stop (ending : ObjectEnding) : Builder :=
    stopAt token.start frames (.object start members.reverse ending)
  match token.lexeme with
  | .closeBrace => stop (.closedAfterComma token.start)
  | .text value => building frames (.colon start members ⟨value, token.stop⟩)
  | .endOfText => stop (.cutOffAfterComma token.start)
  | .broken true reading skipping => stop (.brokenKey reading skipping)
  | _ => stop (.keyless token.start)

/-- Takes a token after a key. -/
def takeColon (frames : List Frame) (start : Position) (members : List (Member Node))
    (key : TextLiteral) (token : Token) : Builder :=
  let stop (resume : Position) (isEnd : Bool) : Builder :=
    stopAt token.start frames
      (.object start members.reverse (.colonless key resume token.start isEnd))
  match token.lexeme with
  | .colon => building (.object start members key token.start :: frames) .value
  | .closeBrace => stop token.stop false
  | .endOfText => stop token.start true
  | _ => stop token.start false

/-- Takes a token after a complete value. -/
def takeSeparator (frames : List Frame) (value : Node) (token : Token) : Builder :=
  match frames with
  | [] =>
    match token.lexeme with
    | .endOfText => done ⟨value, none⟩
    | _ => done ⟨value, some token.start⟩
  | .list start items :: frames =>
    let list (resume : Position) (ending : ListEnding) : Node :=
      .list start (⟨value, resume⟩ :: items).reverse ending
    match token.lexeme with
    | .closeBracket => complete frames (list token.stop (.closed token.stop))
    | .comma => building frames (.item start items value)
    | .endOfText => stopAt token.start frames (list token.start (.cutOff token.start))
    | _ => stopAt token.start frames (list token.start (.misplaced token.start))
  | .object start members key keyResume :: frames =>
    let object (resume : Position) (ending : ObjectEnding) : Node :=
      .object start (⟨key, keyResume, value, resume⟩ :: members).reverse ending
    match token.lexeme with
    | .closeBrace => complete frames (object token.stop (.closed token.stop))
    | .comma => building frames (.key start (⟨key, keyResume, value, token.start⟩ :: members))
    | .endOfText => stopAt token.start frames (object token.start (.cutOff token.start))
    | _ => stopAt token.start frames (object token.start (.misplaced token.start))

/-- Takes a token after a comma in a list. -/
def takeItem (frames : List Frame) (start : Position) (items : List (Item Node))
    (previous : Node) (token : Token) : Builder :=
  let items := ⟨previous, token.start⟩ :: items
  match token.lexeme with
  | .closeBracket =>
    stopAt token.start frames (.list start items.reverse (.closedAfterComma token.start))
  | .endOfText =>
    stopAt token.start frames (.list start items.reverse (.cutOffAfterComma token.start))
  | _ => takeValue (.list start items :: frames) token

/-- Takes the next token. -/
def take (builder : Builder) (token : Token) : Builder :=
  match builder with
  | done document => done document
  | building frames next =>
    match next with
    | .value => takeValue frames token
    | .itemOrEnd start => takeItemOrEnd frames start token
    | .keyOrEnd start => takeKeyOrEnd frames start token
    | .key start members => takeKey frames start members token
    | .colon start members key => takeColon frames start members key token
    | .separator value => takeSeparator frames value token
    | .item start items previous => takeItem frames start items previous token

/-- The document built so far; one that still waits for tokens breaks off at its start. -/
def document : Builder → Document
  | done document => document
  | building frames _ =>
    let fault := Fault.placed .endInValue .start
    ⟨abandon .start frames (.unreadable .start .endOfText fault fault), none⟩

end Builder

/-- The document that some tokens form. -/
def Document.ofTokens (tokens : List Token) : Document :=
  (tokens.foldl Builder.take (.building [] .value)).document

/-- The document in a text. -/
def Document.ofText (text : String) : Document :=
  ofTokens (scan text)

end PersistenceLayer.Json
