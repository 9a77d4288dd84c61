import PersistenceLayer.Proofs.ScannedTokens
import PersistenceLayer.Proofs.JsonFields

/-!
# Whole documents

Building stops at the first token that does not fit, and what it has built up to
there cannot be skipped. A document that can be skipped, with nothing behind it, has
thus taken every token where the grammar has it: its text writes a tree.
-/

namespace PersistenceLayer.Json

/-! ## White space -/

/-- White space behind white space is white space. -/
theorem Blanks.trans {chars behind rest : List Char} (h : Blanks chars behind)
    (hrest : Blanks behind rest) : Blanks chars rest := by
  induction h with
  | nil => exact hrest
  | cons hc _ ih => exact .cons hc (ih hrest)

/-- More white space may stand behind a tree. -/
theorem SpellsSpaced.trans_blanks {tree : Tree} {chars behind rest : List Char}
    (h : SpellsSpaced tree chars behind) (hrest : Blanks behind rest) :
    SpellsSpaced tree chars rest := by
  obtain ⟨hbefore, h, hafter⟩ := h
  exact .mk hbefore h (hafter.trans hrest)

/-! ## What cannot be skipped -/

/-- Whether skipping a value fails. -/
def Node.Blocks (node : Node) : Prop :=
  node.skip ≠ .ok ()

/-- Only a closed list is skipped. -/
theorem Node.blocks_list {start : Position} {items : List (Item Node)} {ending : ListEnding}
    (h : ending.skip ≠ .ok ()) : Node.Blocks (.list start items ending) := by
  intro hskip
  rw [Node.skip] at hskip
  obtain ⟨_, -, hending⟩ := bind_eq_ok_iff.mp hskip
  exact h hending

/-- Only a closed object is skipped. -/
theorem Node.blocks_object {start : Position} {members : List (Member Node)}
    {ending : ObjectEnding} (h : ending.skip ≠ .ok ()) :
    Node.Blocks (.object start members ending) := by
  intro hskip
  rw [Node.skip] at hskip
  obtain ⟨_, -, hending⟩ := bind_eq_ok_iff.mp hskip
  exact h hending

/-- What stands for the value where a token starts none is not skipped. -/
theorem Token.blocks_obstacle (token : Token) : token.obstacle.Blocks := by
  unfold Token.obstacle
  split <;> (intro h; simp [Node.skip] at h)

/-- Nothing is skipped that holds something unclosed. -/
theorem Node.Blocks.abandon {place : Position} {frames : List Frame} {node : Node}
    (h : node.Blocks) : (abandon place frames node).Blocks := by
  induction frames generalizing node with
  | nil => exact h
  | cons frame frames ih =>
    cases frame with
    | list => exact ih (blocks_list nofun)
    | object => exact ih (blocks_object nofun)

/-! ## Building a whole document -/

/-- Whether a document is skipped up to its end, and there is nothing behind it. -/
def Document.IsWhole (document : Document) : Prop :=
  document.root.skip = .ok () ∧ document.trailing = none

namespace Builder

/-- Whether some tokens complete a whole document. -/
def Completes (builder : Builder) (tokens : List Token) : Prop :=
  (tokens.foldl take builder).document.IsWhole

/-- No token changes a document that is done. -/
theorem foldl_take_done (document : Document) (tokens : List Token) :
    tokens.foldl take (.done document) = .done document := by
  induction tokens with
  | nil => rfl
  | cons token tokens ih => exact ih

theorem completes_done_iff {document : Document} {tokens : List Token} :
    (done document).Completes tokens ↔ document.IsWhole := by
  rw [Completes, foldl_take_done, Builder.document]

/-- Building does not stop at what cannot be skipped. -/
theorem not_completes_stopAt {place : Position} {frames : List Frame} {node : Node}
    {tokens : List Token} (h : node.Blocks) : ¬ (stopAt place frames node).Completes tokens := by
  rw [stopAt, completes_done_iff]
  exact fun hwhole => h.abandon hwhole.1

/-- Whether the tokens of some characters complete a whole document from where something may come
next. -/
def Reaches (frames : List Frame) (next : Expectation) (chars : List Char) : Prop :=
  ∃ position, (building frames next).Completes (scanFrom position chars)

/-- Whether the tokens of some characters complete a whole document behind a value. -/
def GoesOn (frames : List Frame) (chars : List Char) : Prop :=
  ∃ node, Reaches frames (.separator node) chars

/-- Whether some characters start with a token, behind white space, and what follows it. -/
structure StartsWith (chars : List Char) (token : Token) (rest : List Char) : Prop where
  scan : ∃ position, scanFrom position chars = token :: scanFrom token.stop rest
  spelled : ∃ start, Blanks chars start ∧ SpellsLexeme token.lexeme start rest
  shorter : rest.length < chars.length

section

variable {frames : List Frame} {next : Expectation} {chars : List Char} {start : Position}

/-- The last token completes a document only behind the outermost value. -/
theorem not_completes_last {token : Token} (hlast : token.isLast = true)
    (hopen : frames = [] → ∀ value, next ≠ .separator value) :
    ¬ (building frames next).Completes [token] := by
  obtain ⟨lexeme, start, stop⟩ := token
  cases next with
  | value =>
    cases lexeme <;> cases hlast <;> exact not_completes_stopAt (Token.blocks_obstacle _)
  | itemOrEnd =>
    cases lexeme <;> cases hlast
    · exact not_completes_stopAt (Token.blocks_obstacle _)
    · exact not_completes_stopAt (Token.blocks_obstacle _)
    · exact not_completes_stopAt (Node.blocks_list nofun)
  | keyOrEnd =>
    cases lexeme with
    | broken isText => cases isText <;> exact not_completes_stopAt (Node.blocks_object nofun)
    | stray | endOfText => exact not_completes_stopAt (Node.blocks_object nofun)
    | _ => cases hlast
  | key =>
    cases lexeme with
    | broken isText => cases isText <;> exact not_completes_stopAt (Node.blocks_object nofun)
    | stray | endOfText => exact not_completes_stopAt (Node.blocks_object nofun)
    | _ => cases hlast
  | colon =>
    cases lexeme <;> cases hlast <;> exact not_completes_stopAt (Node.blocks_object nofun)
  | separator value =>
    obtain - | ⟨frame, frames⟩ := frames
    · exact absurd rfl (hopen rfl value)
    · cases frame with
      | list =>
        cases lexeme <;> cases hlast <;> exact not_completes_stopAt (Node.blocks_list nofun)
      | object =>
        cases lexeme <;> cases hlast <;> exact not_completes_stopAt (Node.blocks_object nofun)
  | item =>
    cases lexeme <;> cases hlast
    · exact not_completes_stopAt (Token.blocks_obstacle _)
    · exact not_completes_stopAt (Token.blocks_obstacle _)
    · exact not_completes_stopAt (Node.blocks_list nofun)

/-- Inside of a document there is a next token. -/
theorem Reaches.exists_token (h : Reaches frames next chars)
    (hopen : frames = [] → ∀ value, next ≠ .separator value) :
    ∃ token rest, StartsWith chars token rest ∧
      (take (building frames next) token).Completes (scanFrom token.stop rest) := by
  obtain ⟨position, h⟩ := h
  have hscans := scans_scanFrom position chars
  cases htokens : scanFrom position chars with
  | nil =>
    rw [htokens] at hscans
    cases hscans
  | cons token tokens =>
    rw [htokens] at h hscans
    cases hscans with
    | last hlast => exact absurd h (not_completes_last hlast hopen)
    | cons hblanks hspells hlength =>
      exact ⟨token, _, ⟨⟨position, htokens⟩, ⟨_, hblanks, hspells⟩, hlength⟩, h⟩

/-- A document is completed if it is behind the next token. -/
theorem StartsWith.reaches {token : Token} {rest : List Char}
    (hstarts : StartsWith chars token rest)
    (h : (take (building frames next) token).Completes (scanFrom token.stop rest)) :
    Reaches frames next chars := by
  obtain ⟨position, hscan⟩ := hstarts.scan
  exact ⟨position, by rw [hscan]; exact h⟩

/-- The text ends behind the outermost value. -/
theorem GoesOn.blanks (h : GoesOn [] chars) : Blanks chars [] := by
  obtain ⟨node, position, h⟩ := h
  have hscans := scans_scanFrom position chars
  generalize scanFrom position chars = tokens at h hscans
  have htrailing {place : Position} {tokens : List Token} :
      ¬ (done ⟨node, some place⟩).Completes tokens := by
    rw [completes_done_iff]
    exact fun hwhole => nomatch hwhole.2
  cases hscans with
  | @last token hlast hend =>
    obtain ⟨lexeme, start, stop⟩ := token
    cases lexeme <;> cases hlast
    · exact absurd h htrailing
    · exact absurd h htrailing
    · exact hend rfl
  | @cons token _ rest hblanks hspells hlength =>
    obtain ⟨lexeme, start, stop⟩ := token
    cases hspells <;> exact absurd h htrailing

/-! ## Where tokens fit -/

/-- A value is a scalar, or it is opened. -/
theorem Reaches.value (h : Reaches frames .value chars) :
    (∃ tree start rest, Blanks chars start ∧ Spells tree start rest ∧ rest.length < chars.length ∧
      GoesOn frames rest) ∨
    (∃ start rest, Blanks chars ('[' :: rest) ∧ rest.length < chars.length ∧
      Reaches frames (.itemOrEnd start) rest) ∨
    ∃ start rest, Blanks chars ('\x7b' :: rest) ∧ rest.length < chars.length ∧
      Reaches frames (.keyOrEnd start) rest := by
  obtain ⟨⟨lexeme, start, stop⟩, rest, hstarts, h⟩ := h.exists_token nofun
  obtain ⟨spelled, hblanks, hspells⟩ := hstarts.spelled
  have hshorter := hstarts.shorter
  cases hspells with
  | openBracket => exact .inr (.inl ⟨start, rest, hblanks, hshorter, stop, h⟩)
  | openBrace => exact .inr (.inr ⟨start, rest, hblanks, hshorter, stop, h⟩)
  | closeBracket | closeBrace | comma | colon =>
    exact absurd h (not_completes_stopAt (Token.blocks_obstacle _))
  | null => exact .inl ⟨_, _, rest, hblanks, .null, hshorter, _, stop, h⟩
  | true => exact .inl ⟨_, _, rest, hblanks, .true, hshorter, _, stop, h⟩
  | false => exact .inl ⟨_, _, rest, hblanks, .false, hshorter, _, stop, h⟩
  | number hliteral => exact .inl ⟨_, _, rest, hblanks, .number hliteral, hshorter, _, stop, h⟩
  | text hcontent => exact .inl ⟨_, _, rest, hblanks, .text hcontent, hshorter, _, stop, h⟩

/-- After an opening bracket stands the closing one, or an item. -/
theorem Reaches.itemOrEnd (h : Reaches frames (.itemOrEnd start) chars) :
    (∃ rest, Blanks chars (']' :: rest) ∧ rest.length < chars.length ∧ GoesOn frames rest) ∨
      Reaches (.list start [] :: frames) .value chars := by
  obtain ⟨token, rest, hstarts, h⟩ := h.exists_token nofun
  by_cases hitem : token.StartsItem
  · rw [take_itemOrEnd hitem] at h
    exact .inr (hstarts.reaches h)
  · obtain ⟨lexeme, place, stop⟩ := token
    obtain ⟨spelled, hblanks, hspells⟩ := hstarts.spelled
    cases hspells with
    | closeBracket => exact .inl ⟨rest, hblanks, hstarts.shorter, _, stop, h⟩
    | _ => exact absurd ⟨nofun, nofun⟩ hitem

/-- After a comma in a list stands an item. -/
theorem Reaches.item {items : List (Item Node)} {previous : Node}
    (h : Reaches frames (.item start items previous) chars) :
    ∃ items, Reaches (.list start items :: frames) .value chars := by
  obtain ⟨token, rest, hstarts, h⟩ := h.exists_token nofun
  by_cases hitem : token.StartsItem
  · rw [take_item hitem] at h
    exact ⟨_, hstarts.reaches h⟩
  · obtain ⟨lexeme, place, stop⟩ := token
    obtain ⟨spelled, hblanks, hspells⟩ := hstarts.spelled
    cases hspells with
    | closeBracket => exact absurd h (not_completes_stopAt (Node.blocks_list nofun))
    | _ => exact absurd ⟨nofun, nofun⟩ hitem

/-- After an item stands the closing bracket, or a comma and another item. -/
theorem GoesOn.list {items : List (Item Node)} (h : GoesOn (.list start items :: frames) chars) :
    (∃ rest, Blanks chars (']' :: rest) ∧ rest.length < chars.length ∧ GoesOn frames rest) ∨
      ∃ rest items, Blanks chars (',' :: rest) ∧ rest.length < chars.length ∧
        Reaches (.list start items :: frames) .value rest := by
  obtain ⟨node, h⟩ := h
  obtain ⟨⟨lexeme, place, stop⟩, rest, hstarts, h⟩ := h.exists_token nofun
  obtain ⟨spelled, hblanks, hspells⟩ := hstarts.spelled
  cases hspells with
  | closeBracket => exact .inl ⟨rest, hblanks, hstarts.shorter, _, stop, h⟩
  | comma =>
    have hitem : Reaches frames (.item start items node) rest := ⟨stop, h⟩
    obtain ⟨items, hvalue⟩ := hitem.item
    exact .inr ⟨rest, items, hblanks, hstarts.shorter, hvalue⟩
  | _ => exact absurd h (not_completes_stopAt (Node.blocks_list nofun))

/-- After a key stands a colon. -/
theorem Reaches.colon {members : List (Member Node)} {key : TextLiteral}
    (h : Reaches frames (.colon start members key) chars) :
    ∃ rest resume, Blanks chars (':' :: rest) ∧ rest.length < chars.length ∧
      Reaches (.object start members key resume :: frames) .value rest := by
  obtain ⟨⟨lexeme, place, stop⟩, rest, hstarts, h⟩ := h.exists_token nofun
  obtain ⟨spelled, hblanks, hspells⟩ := hstarts.spelled
  cases hspells with
  | colon => exact ⟨rest, place, hblanks, hstarts.shorter, stop, h⟩
  | _ => exact absurd h (not_completes_stopAt (Node.blocks_object nofun))

/-- A member starts with a key and a colon. -/
theorem Reaches.key {members : List (Member Node)} (h : Reaches frames (.key start members) chars) :
    ∃ content rest key resume, SpellsKey content chars (':' :: rest) ∧
      rest.length < chars.length ∧
      Reaches (.object start members key resume :: frames) .value rest := by
  obtain ⟨⟨lexeme, place, stop⟩, behind, hstarts, h⟩ := h.exists_token nofun
  obtain ⟨spelled, hblanks, hspells⟩ := hstarts.spelled
  cases hspells with
  | @text value _ _ hcontent =>
    have hcolon : Reaches frames (.colon start members ⟨value, stop⟩) behind := ⟨stop, h⟩
    obtain ⟨rest, resume, hafter, hlength, hvalue⟩ := hcolon.colon
    exact ⟨_, rest, _, resume, .mk hblanks hcontent hafter,
      Nat.lt_trans hlength hstarts.shorter, hvalue⟩
  | _ => exact absurd h (not_completes_stopAt (Node.blocks_object nofun))

/-- After an opening brace stands the closing one, or a member. -/
theorem Reaches.keyOrEnd (h : Reaches frames (.keyOrEnd start) chars) :
    (∃ rest, Blanks chars ('\x7d' :: rest) ∧ rest.length < chars.length ∧ GoesOn frames rest) ∨
      Reaches frames (.key start []) chars := by
  obtain ⟨⟨lexeme, place, stop⟩, rest, hstarts, h⟩ := h.exists_token nofun
  obtain ⟨spelled, hblanks, hspells⟩ := hstarts.spelled
  cases hspells with
  | closeBrace => exact .inl ⟨rest, hblanks, hstarts.shorter, _, stop, h⟩
  | text => exact .inr (hstarts.reaches h)
  | _ => exact absurd h (not_completes_stopAt (Node.blocks_object nofun))

/-- After a member stands the closing brace, or a comma and another member. -/
theorem GoesOn.object {members : List (Member Node)} {key : TextLiteral} {resume : Position}
    (h : GoesOn (.object start members key resume :: frames) chars) :
    (∃ rest, Blanks chars ('\x7d' :: rest) ∧ rest.length < chars.length ∧ GoesOn frames rest) ∨
      ∃ rest members, Blanks chars (',' :: rest) ∧ rest.length < chars.length ∧
        Reaches frames (.key start members) rest := by
  obtain ⟨node, h⟩ := h
  obtain ⟨⟨lexeme, place, stop⟩, rest, hstarts, h⟩ := h.exists_token nofun
  obtain ⟨spelled, hblanks, hspells⟩ := hstarts.spelled
  cases hspells with
  | closeBrace => exact .inl ⟨rest, hblanks, hstarts.shorter, _, stop, h⟩
  | comma => exact .inr ⟨rest, _, hblanks, hstarts.shorter, stop, h⟩
  | _ => exact absurd h (not_completes_stopAt (Node.blocks_object nofun))

/-! ## Trees -/

/-- Whether a value that building gets past is spelled. -/
def ValueIsSpelled (chars : List Char) : Prop :=
  ∀ frames, Reaches frames .value chars →
    ∃ tree rest, SpellsSpaced tree chars rest ∧ rest.length < chars.length ∧ GoesOn frames rest

variable {length : Nat}

/-- Items that building gets past are spelled, if all values of their length are. -/
theorem exists_spellsItems (hvalues : ∀ chars, chars.length < length → ValueIsSpelled chars)
    {items : List (Item Node)} (hlength : chars.length < length)
    (h : Reaches (.list start items :: frames) .value chars) :
    ∃ trees rest, SpellsItems trees chars rest ∧ rest.length < chars.length ∧
      GoesOn frames rest := by
  induction hchars : chars.length using Nat.strongRecOn generalizing chars items with
  | ind count ih =>
    subst hchars
    obtain ⟨tree, behind, hspells, hbehind, hgoesOn⟩ := hvalues chars hlength _ h
    obtain ⟨rest, hblanks, hrest, hgoesOn⟩ | ⟨rest, items, hblanks, hrest, hnext⟩ := hgoesOn.list
    · exact ⟨[tree], rest, .last (hspells.trans_blanks hblanks), Nat.lt_trans hrest hbehind,
        hgoesOn⟩
    · have hshorter := Nat.lt_trans hrest hbehind
      obtain ⟨trees, last, hothers, hlast, hgoesOn⟩ :=
        ih rest.length hshorter (Nat.lt_trans hshorter hlength) hnext rfl
      exact ⟨tree :: trees, last, .cons (hspells.trans_blanks hblanks) hothers,
        Nat.lt_trans hlast hshorter, hgoesOn⟩

/-- Members that building gets past are spelled, if all values of their length are. -/
theorem exists_spellsMembers (hvalues : ∀ chars, chars.length < length → ValueIsSpelled chars)
    {members : List (Member Node)} (hlength : chars.length < length)
    (h : Reaches frames (.key start members) chars) :
    ∃ trees rest, SpellsMembers trees chars rest ∧ rest.length < chars.length ∧
      GoesOn frames rest := by
  induction hchars : chars.length using Nat.strongRecOn generalizing chars members with
  | ind count ih =>
    subst hchars
    obtain ⟨content, afterColon, key, resume, hkey, hcolon, hvalue⟩ := h.key
    obtain ⟨tree, behind, hspells, hbehind, hgoesOn⟩ :=
      hvalues afterColon (Nat.lt_trans hcolon hlength) _ hvalue
    obtain ⟨rest, hblanks, hrest, hgoesOn⟩ | ⟨rest, members, hblanks, hrest, hnext⟩ :=
      hgoesOn.object
    · exact ⟨[(content, tree)], rest, .last hkey (hspells.trans_blanks hblanks),
        Nat.lt_trans (Nat.lt_trans hrest hbehind) hcolon, hgoesOn⟩
    · have hshorter := Nat.lt_trans (Nat.lt_trans hrest hbehind) hcolon
      obtain ⟨trees, last, hothers, hlast, hgoesOn⟩ :=
        ih rest.length hshorter (Nat.lt_trans hshorter hlength) hnext rfl
      exact ⟨(content, tree) :: trees, last, .cons hkey (hspells.trans_blanks hblanks) hothers,
        Nat.lt_trans hlast hshorter, hgoesOn⟩

/-- A value that building gets past is spelled. -/
theorem valueIsSpelled (chars : List Char) : ValueIsSpelled chars := by
  induction hchars : chars.length using Nat.strongRecOn generalizing chars with
  | ind length ih =>
    subst hchars
    have hvalues : ∀ others, others.length < chars.length → ValueIsSpelled others :=
      fun others hlength => ih others.length hlength others rfl
    intro frames h
    obtain ⟨tree, start, rest, hblanks, hspells, hrest, hgoesOn⟩ |
      ⟨start, inner, hblanks, hinner, h⟩ | ⟨start, inner, hblanks, hinner, h⟩ := h.value
    · exact ⟨tree, rest, .mk hblanks hspells .nil, hrest, hgoesOn⟩
    · obtain ⟨rest, hempty, hrest, hgoesOn⟩ | hitems := h.itemOrEnd
      · exact ⟨.list [], rest, .mk hblanks (.emptyList hempty) .nil, Nat.lt_trans hrest hinner,
          hgoesOn⟩
      · obtain ⟨trees, rest, hspells, hrest, hgoesOn⟩ := exists_spellsItems hvalues hinner hitems
        exact ⟨.list trees, rest, .mk hblanks (.list hspells) .nil, Nat.lt_trans hrest hinner,
          hgoesOn⟩
    · obtain ⟨rest, hempty, hrest, hgoesOn⟩ | hmembers := h.keyOrEnd
      · exact ⟨.object [], rest, .mk hblanks (.emptyObject hempty) .nil,
          Nat.lt_trans hrest hinner, hgoesOn⟩
      · obtain ⟨trees, rest, hspells, hrest, hgoesOn⟩ :=
          exists_spellsMembers hvalues hinner hmembers
        exact ⟨.object trees, rest, .mk hblanks (.object hspells) .nil,
          Nat.lt_trans hrest hinner, hgoesOn⟩

end

end Builder

/-- A text whose document is whole writes a tree. -/
theorem Document.IsWhole.exists_writes {text : String} (h : (Document.ofText text).IsWhole) :
    ∃ tree, Writes text tree := by
  have hreaches : Builder.Reaches [] .value text.toList := ⟨.start, h⟩
  obtain ⟨tree, rest, hspells, -, hgoesOn⟩ := Builder.valueIsSpelled _ [] hreaches
  exact ⟨tree, hspells.trans_blanks hgoesOn.blanks⟩

end PersistenceLayer.Json
