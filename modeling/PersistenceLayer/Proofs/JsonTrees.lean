import PersistenceLayer.Proofs.JsonLiterals

/-!
# Trees of written values

The text of a tree is scanned and built into a node that shows the tree, wherever
white space stands and however the literals are spelled. What the node has on top
of the tree are places. The compact text of a value without fractions is one such
text; the node then holds the value, as every literal in it can be read.
-/

namespace PersistenceLayer.Json

/-! ## Readings that succeed -/

section Reading

variable {ε α β : Type}

/-- A reading in two parts succeeds if both of them do. -/
theorem bind_eq_ok_iff {reading : Except ε α} {next : α → Except ε β} {result : β} :
    (reading >>= next) = .ok result ↔ ∃ value, reading = .ok value ∧ next value = .ok result := by
  cases reading <;> simp [bind, Except.bind]

/-- Returning a value succeeds with this value. -/
theorem pure_eq_ok_iff {value result : α} :
    (pure value : Except ε α) = .ok result ↔ value = result := by
  simp [pure, Except.pure]

/-- A reading whose result is changed succeeds if the reading does. -/
theorem map_eq_ok_iff {reading : Except ε α} {change : α → β} {result : β} :
    change <$> reading = .ok result ↔ ∃ value, reading = .ok value ∧ change value = result := by
  cases reading <;> simp [Functor.map, Except.map]

/-- Settling the place of a fault makes no reading succeed. -/
theorem settled_eq_ok_iff {place : Position} {reading : Except Fault α} {result : α} :
    settled place reading = .ok result ↔ reading = .ok result := by
  cases reading <;> simp [settled]

/-- A reading that succeeds is known by its result. -/
theorem toOption_eq_some_iff {reading : Except ε α} {value : α} :
    reading.toOption = some value ↔ reading = .ok value := by
  cases reading <;> simp [Except.toOption]

end Reading

/-! ## Nodes and trees -/

mutual

/-- Whether a node shows a tree: it is closed, and its literals are those of the tree. -/
inductive Node.Shows : Node → Tree → Prop
  | null {start stop : Position} : Node.Shows (.null start stop) .null
  | boolean {start stop : Position} {value : Bool} :
      Node.Shows (.boolean start stop value) (.boolean value)
  | number {start stop : Position} {literal : NumberLiteral} :
      Node.Shows (.number start stop literal) (.number literal)
  | text {start : Position} {literal : TextLiteral} {content : Option String}
      (h : literal.value.toOption = content) : Node.Shows (.text start literal) (.text content)
  | list {start stop : Position} {items : List (Item Node)} {trees : List Tree}
      (h : ItemsShow items trees) : Node.Shows (.list start items (.closed stop)) (.list trees)
  | object {start stop : Position} {members : List (Member Node)}
      {trees : List (Option String × Tree)} (h : MembersShow members trees) :
      Node.Shows (.object start members (.closed stop)) (.object trees)

/-- Whether items show trees, in the same order. -/
inductive ItemsShow : List (Item Node) → List Tree → Prop
  | nil : ItemsShow [] []
  | cons {item : Item Node} {items : List (Item Node)} {tree : Tree} {trees : List Tree}
      (h : item.value.Shows tree) (hitems : ItemsShow items trees) :
      ItemsShow (item :: items) (tree :: trees)

/-- Whether members show trees under the same keys, in the same order. -/
inductive MembersShow : List (Member Node) → List (Option String × Tree) → Prop
  | nil : MembersShow [] []
  | cons {member : Member Node} {members : List (Member Node)} {key : Option String} {tree : Tree}
      {trees : List (Option String × Tree)} (hkey : member.key.value.toOption = key)
      (h : member.value.Shows tree) (hmembers : MembersShow members trees) :
      MembersShow (member :: members) ((key, tree) :: trees)

end

/-! ## Single tokens -/

/-- A token is scanned where its first character stands. -/
theorem scanFrom_cons {position : Position} {c : Char} {chars rest : List Char} {token : Token}
    (hspace : isSpace c = false) (h : lexToken position c chars = (token, rest))
    (hlast : token.isLast = false) :
    scanFrom position (c :: chars) = token :: scanFrom token.stop rest := by
  rw [scanFrom]
  simp [hspace, h, hlast]

/-- Whether a token can start an item: it neither closes the list nor ends the text. -/
def Token.StartsItem (token : Token) : Prop :=
  token.lexeme ≠ .closeBracket ∧ token.lexeme ≠ .endOfText

/-- A token that is a scalar completes a value where one is expected. -/
theorem Token.startsItem_of_scalar? {token : Token} {node : Node} (h : token.scalar? = some node) :
    token.isLast = false ∧ token.StartsItem ∧
      ∀ frames, Builder.takeValue frames token = .complete frames node := by
  obtain ⟨lexeme, start, stop⟩ := token
  cases lexeme with
  | null | boolean | number | text =>
    cases h
    exact ⟨rfl, ⟨nofun, nofun⟩, fun _ => rfl⟩
  | _ => cases h

/-- White space is scanned without a token. -/
theorem scanFrom_blanks {chars rest : List Char} (h : Blanks chars rest) (position : Position) :
    ∃ next, scanFrom position chars = scanFrom next rest := by
  induction h generalizing position with
  | nil => exact ⟨position, rfl⟩
  | @cons c _ _ hc _ ih =>
    have hspace : ∀ c ∈ [' ', '\t', '\n', '\r'], isSpace c = true := by simp [isSpace]
    obtain ⟨next, hnext⟩ := ih (position.after c)
    refine ⟨next, ?_⟩
    rw [scanFrom, if_pos (hspace c hc), hnext]

/-- White space can follow a value. -/
theorem Blanks.endsValue {chars rest : List Char} (h : Blanks chars rest) (hrest : EndsValue rest) :
    EndsValue chars := by
  cases h with
  | nil => exact hrest
  | cons hc =>
    rintro _ ⟨⟩
    exact List.mem_append_right [',', ']', '\x7d'] hc

/-- A digit starts a number. -/
theorem lexToken_digit (start : Position) {c : Char} (hc : c.isDigit = true) (chars : List Char) :
    lexToken start c chars = numberToken start (lexMagnitude false start (c :: chars)) := by
  fun_cases lexToken start c chars with
  | case12 => rfl
  | case13 => exact absurd hc ‹_›
  | _ => exact absurd hc (by decide)

/-- A digit is no white space. -/
theorem isSpace_digit {c : Char} (hc : c.isDigit = true) : isSpace c = false := by
  cases hspace : isSpace c with
  | false => rfl
  | true =>
    have hblank : c = ' ' ∨ c = '\t' ∨ c = '\n' ∨ c = '\r' := by
      simpa [isSpace, or_assoc] using hspace
    rcases hblank with rfl | rfl | rfl | rfl <;> exact absurd hc (by decide)

/-! ## Scalars -/

/-- Whether some characters, wherever they stand, are scanned as tokens that build a node which
shows a tree, with the given characters left. -/
def ReadsAs (tree : Tree) (chars rest : List Char) : Prop :=
  ∀ position, ∃ first tokens stop node,
    scanFrom position chars = first :: (tokens ++ scanFrom stop rest) ∧
    first.StartsItem ∧
    (∀ frames, (first :: tokens).foldl Builder.take (.building frames .value) =
      .complete frames node) ∧
    node.Shows tree

section

variable {tree : Tree} {content : Option String} {chars start rest : List Char}

/-- A tree that is spelled as a single token is read if the token is. -/
theorem readsAs_of_scalar {c : Char} (hspace : isSpace c = false)
    (htoken : ∀ position, ∃ token node,
      lexToken position c chars = (token, rest) ∧ token.scalar? = some node ∧ node.Shows tree) :
    ReadsAs tree (c :: chars) rest := by
  intro position
  obtain ⟨token, node, hlex, hscalar, hnode⟩ := htoken position
  obtain ⟨hlast, hstarts, htake⟩ := Token.startsItem_of_scalar? hscalar
  exact ⟨token, [], token.stop, node, scanFrom_cons hspace hlex hlast, hstarts, htake, hnode⟩

/-- A text is scanned as one token, behind its opening quote. -/
theorem lexToken_of_spellsText (h : SpellsText content chars rest) (position : Position) :
    ∃ literal : TextLiteral, literal.value.toOption = content ∧
      lexToken position '"' chars = (⟨.text literal.value, position, literal.stop⟩, rest) := by
  obtain ⟨value, stop, hscan, hvalue⟩ := lexText_of_spellsText h (position.plus 1)
  exact ⟨⟨value, stop⟩, hvalue, by simp only [lexToken, hscan, textToken]⟩

theorem readsAs_text (h : SpellsText content chars rest) :
    ReadsAs (.text content) ('"' :: chars) rest := by
  refine readsAs_of_scalar (by decide) fun position => ?_
  obtain ⟨literal, hliteral, hlex⟩ := lexToken_of_spellsText h position
  exact ⟨_, _, hlex, rfl, .text hliteral⟩

theorem readsAs_number {literal : NumberLiteral} (h : SpellsNumber literal chars rest)
    (hrest : EndsValue rest) : ReadsAs (.number literal) chars rest := by
  cases h with
  | positive hsign h =>
    obtain ⟨c, digits, hc, rfl⟩ : ∃ c digits, c.isDigit = true ∧ chars = c :: digits := by
      obtain ⟨hwhole, -, -, -⟩ := h
      cases hwhole with
      | last hc | cons hc => exact ⟨_, _, hc, rfl⟩
    refine readsAs_of_scalar (isSpace_digit hc) fun position => ?_
    obtain ⟨stop, hstop⟩ := lexMagnitude_of_spells h hrest position
    rw [hsign] at hstop
    exact ⟨_, _, by rw [lexToken_digit position hc, hstop, numberToken], rfl, .number⟩
  | negative hsign h =>
    refine readsAs_of_scalar (by decide) fun position => ?_
    obtain ⟨stop, hstop⟩ := lexMagnitude_of_spells h hrest (position.plus 1)
    rw [hsign] at hstop
    exact ⟨⟨.number literal, position, stop⟩, _, by simp only [lexToken, hstop, numberToken], rfl,
      .number⟩

/-- White space around a tree does not matter. -/
theorem ReadsAs.spaced {behind : List Char} (hbefore : Blanks chars start)
    (h : ReadsAs tree start behind) (hafter : Blanks behind rest) : ReadsAs tree chars rest := by
  intro position
  obtain ⟨next, hnext⟩ := scanFrom_blanks hbefore position
  obtain ⟨first, tokens, stop, node, hscan, hrest⟩ := h next
  obtain ⟨last, hlast⟩ := scanFrom_blanks hafter stop
  exact ⟨first, tokens, last, node, by rw [hnext, hscan, hlast], hrest⟩

end

/-! ## Lists -/

/-- A token that can start an item is taken as a value where the first item is expected. -/
theorem take_itemOrEnd {token : Token} (h : token.StartsItem) (frames : List Frame)
    (start : Position) :
    Builder.take (.building frames (.itemOrEnd start)) token =
      Builder.take (.building (.list start [] :: frames) .value) token := by
  simp only [Builder.take, Builder.takeItemOrEnd]
  split
  · next hlexeme => exact absurd hlexeme h.1
  · next hlexeme => exact absurd hlexeme h.2
  · rfl

/-- A token that can start an item is taken as a value after a comma. -/
theorem take_item {token : Token} (h : token.StartsItem) (frames : List Frame) (start : Position)
    (items : List (Item Node)) (previous : Node) :
    Builder.take (.building frames (.item start items previous)) token =
      Builder.take (.building (.list start (⟨previous, token.start⟩ :: items) :: frames) .value)
        token := by
  simp only [Builder.take, Builder.takeItem]
  split
  · next hlexeme => exact absurd hlexeme h.1
  · next hlexeme => exact absurd hlexeme h.2
  · rfl

/-- Whether some characters, wherever they stand, are scanned as tokens that build a list which
shows some items behind those that it has before, with the given characters left. -/
def ItemsReadAs (items : List Tree) (chars rest : List Char) : Prop :=
  ∀ position, ∃ first tokens stop nodes,
    scanFrom position chars = first :: (tokens ++ scanFrom stop rest) ∧
    first.StartsItem ∧
    (∀ frames start before,
      (first :: tokens).foldl Builder.take (.building (.list start before :: frames) .value) =
        .complete frames (.list start (before.reverse ++ nodes) (.closed stop))) ∧
    ItemsShow nodes items

section

variable {item : Tree} {items : List Tree} {chars others rest : List Char}

/-- The last item is read if its tree is, up to the bracket. -/
theorem itemsReadAs_singleton (h : ReadsAs item chars (']' :: rest)) :
    ItemsReadAs [item] chars rest := by
  intro position
  obtain ⟨first, tokens, stop, node, hscan, hstarts, htake, hnode⟩ := h position
  let closing : Token := ⟨.closeBracket, stop, stop.plus 1⟩
  have hclosing : scanFrom stop (']' :: rest) = closing :: scanFrom closing.stop rest :=
    scanFrom_cons (by decide) rfl rfl
  refine ⟨first, tokens ++ [closing], closing.stop, [⟨node, closing.stop⟩], ?_, hstarts, ?_,
    .cons hnode .nil⟩
  · rw [hscan, hclosing, List.append_assoc, List.singleton_append]
  · intro frames start before
    rw [← List.cons_append, List.foldl_append, htake, ← List.reverse_cons]
    rfl

/-- An item is read if its tree is, up to the comma, and so are the items behind it. -/
theorem itemsReadAs_cons (h : ReadsAs item chars (',' :: others))
    (hitems : ItemsReadAs items others rest) : ItemsReadAs (item :: items) chars rest := by
  intro position
  obtain ⟨first, tokens, stop, node, hscan, hstarts, htake, hnode⟩ := h position
  let comma : Token := ⟨.comma, stop, stop.plus 1⟩
  obtain ⟨second, later, closing, nodes, hlater, hsecond, htakeLater, hnodes⟩ := hitems comma.stop
  have hcomma : scanFrom stop (',' :: others) = comma :: scanFrom comma.stop others :=
    scanFrom_cons (by decide) rfl rfl
  refine ⟨first, tokens ++ comma :: second :: later, closing, ⟨node, second.start⟩ :: nodes,
    ?_, hstarts, ?_, .cons hnode hnodes⟩
  · rw [hscan, hcomma, hlater, List.append_assoc, List.cons_append, List.cons_append]
  · intro frames start before
    -- The comma keeps the item until the next token tells where reading goes on.
    have hkept : Builder.take (.complete (.list start before :: frames) node) comma =
        .building frames (.item start before node) := rfl
    rw [← List.cons_append, List.foldl_append, htake, List.foldl_cons, hkept, List.foldl_cons,
      take_item hsecond, ← List.foldl_cons, htakeLater, List.reverse_cons, List.append_assoc,
      List.singleton_append]

/-- The empty list is read. -/
theorem readsAs_emptyList (h : Blanks chars (']' :: rest)) :
    ReadsAs (.list []) ('[' :: chars) rest := by
  intro position
  let opening : Token := ⟨.openBracket, position, position.plus 1⟩
  obtain ⟨place, hplace⟩ := scanFrom_blanks h opening.stop
  let closing : Token := ⟨.closeBracket, place, place.plus 1⟩
  have hopening : scanFrom position ('[' :: chars) = opening :: scanFrom opening.stop chars :=
    scanFrom_cons (by decide) rfl rfl
  have hclosing : scanFrom place (']' :: rest) = closing :: scanFrom closing.stop rest :=
    scanFrom_cons (by decide) rfl rfl
  refine ⟨opening, [closing], closing.stop, .list position [] (.closed closing.stop), ?_,
    ⟨nofun, nofun⟩, fun _ => rfl, .list .nil⟩
  rw [hopening, hplace, hclosing, List.singleton_append]

/-- A list is read if its items are. -/
theorem readsAs_list (h : ItemsReadAs items chars rest) :
    ReadsAs (.list items) ('[' :: chars) rest := by
  intro position
  let opening : Token := ⟨.openBracket, position, position.plus 1⟩
  obtain ⟨first, tokens, stop, nodes, hscan, hstarts, htake, hnodes⟩ := h opening.stop
  have hopening : scanFrom position ('[' :: chars) = opening :: scanFrom opening.stop chars :=
    scanFrom_cons (by decide) rfl rfl
  refine ⟨opening, first :: tokens, stop, .list position nodes (.closed stop), ?_,
    ⟨nofun, nofun⟩, fun frames => ?_, .list hnodes⟩
  · rw [hopening, hscan, List.cons_append]
  · have hopened : Builder.take (.building frames .value) opening =
        .building frames (.itemOrEnd position) := rfl
    rw [List.foldl_cons, hopened, List.foldl_cons, take_itemOrEnd hstarts, ← List.foldl_cons,
      htake]
    rfl

end

/-! ## Objects -/

/-- Whether some characters, wherever they stand, are scanned as a key and tokens that build an
object which shows some members behind those that it has before, with the given characters left. -/
def MembersReadAs (members : List (Option String × Tree)) (chars rest : List Char) : Prop :=
  ∀ position, ∃ (place : Position) (key : TextLiteral) (tokens : List Token) (stop : Position)
    (nodes : List (Member Node)),
    scanFrom position chars =
      ⟨.text key.value, place, key.stop⟩ :: (tokens ++ scanFrom stop rest) ∧
    (∀ frames start before,
      tokens.foldl Builder.take (.building frames (.colon start before key)) =
        .complete frames (.object start (before.reverse ++ nodes) (.closed stop))) ∧
    MembersShow nodes members

section

variable {key : Option String} {value : Tree} {members : List (Option String × Tree)}
  {chars start others rest : List Char}

/-- A key is scanned as one token, wherever white space stands around it. -/
theorem scanFrom_of_spellsKey (h : SpellsKey key chars rest) (position : Position) :
    ∃ (place : Position) (literal : TextLiteral) (next : Position),
      literal.value.toOption = key ∧
      scanFrom position chars =
        ⟨.text literal.value, place, literal.stop⟩ :: scanFrom next rest := by
  obtain ⟨hbefore, h, hafter⟩ := h
  obtain ⟨place, hplace⟩ := scanFrom_blanks hbefore position
  obtain ⟨literal, hliteral, hlex⟩ := lexToken_of_spellsText h place
  obtain ⟨next, hnext⟩ := scanFrom_blanks hafter literal.stop
  refine ⟨place, literal, next, hliteral, ?_⟩
  rw [hplace, scanFrom_cons (by decide) hlex rfl, hnext]

/-- A member is scanned as its key, a colon and tokens that build its value inside the object. -/
theorem ReadsAs.member (hkey : SpellsKey key chars (':' :: start)) (h : ReadsAs value start rest)
    (position : Position) :
    ∃ (place : Position) (literal : TextLiteral) (resume : Position) (tokens : List Token)
      (stop : Position) (node : Node),
      literal.value.toOption = key ∧
      scanFrom position chars =
        ⟨.text literal.value, place, literal.stop⟩ :: (tokens ++ scanFrom stop rest) ∧
      (∀ frames start before,
        tokens.foldl Builder.take (.building frames (.colon start before literal)) =
          .complete (.object start before literal resume :: frames) node) ∧
      node.Shows value := by
  obtain ⟨place, literal, next, hliteral, hscanKey⟩ := scanFrom_of_spellsKey hkey position
  let colon : Token := ⟨.colon, next, next.plus 1⟩
  obtain ⟨first, tokens, stop, node, hscan, -, htake, hnode⟩ := h colon.stop
  have hcolon : scanFrom next (':' :: start) = colon :: scanFrom colon.stop start :=
    scanFrom_cons (by decide) rfl rfl
  refine ⟨place, literal, colon.start, colon :: first :: tokens, stop, node, hliteral, ?_, ?_,
    hnode⟩
  · rw [hscanKey, hcolon, hscan, List.cons_append, List.cons_append]
  · intro frames start before
    rw [List.foldl_cons]
    exact htake _

/-- The last member is read if its value is, up to the brace. -/
theorem membersReadAs_singleton (hkey : SpellsKey key chars (':' :: start))
    (h : ReadsAs value start ('\x7d' :: rest)) : MembersReadAs [(key, value)] chars rest := by
  intro position
  obtain ⟨place, literal, resume, tokens, stop, node, hliteral, hscan, htake, hnode⟩ :=
    h.member hkey position
  let closing : Token := ⟨.closeBrace, stop, stop.plus 1⟩
  have hclosing : scanFrom stop ('\x7d' :: rest) = closing :: scanFrom closing.stop rest :=
    scanFrom_cons (by decide) rfl rfl
  refine ⟨place, literal, tokens ++ [closing], closing.stop,
    [⟨literal, resume, node, closing.stop⟩], ?_, ?_,
    .cons hliteral hnode .nil⟩
  · rw [hscan, hclosing, List.append_assoc, List.singleton_append]
  · intro frames start before
    rw [List.foldl_append, htake, ← List.reverse_cons]
    rfl

/-- A member is read if its value is, up to the comma, and so are the members behind it. -/
theorem membersReadAs_cons (hkey : SpellsKey key chars (':' :: start))
    (h : ReadsAs value start (',' :: others)) (hmembers : MembersReadAs members others rest) :
    MembersReadAs ((key, value) :: members) chars rest := by
  intro position
  obtain ⟨place, literal, resume, tokens, stop, node, hliteral, hscan, htake, hnode⟩ :=
    h.member hkey position
  let comma : Token := ⟨.comma, stop, stop.plus 1⟩
  obtain ⟨after, second, later, closing, nodes, hlater, htakeLater, hnodes⟩ := hmembers comma.stop
  have hcomma : scanFrom stop (',' :: others) = comma :: scanFrom comma.stop others :=
    scanFrom_cons (by decide) rfl rfl
  refine ⟨place, literal, tokens ++ comma :: ⟨.text second.value, after, second.stop⟩ :: later,
    closing, ⟨literal, resume, node, comma.start⟩ :: nodes, ?_, ?_, .cons hliteral hnode hnodes⟩
  · rw [hscan, hcomma, hlater, List.append_assoc, List.cons_append, List.cons_append]
  · intro frames start before
    have htaken : Builder.take (Builder.take (.complete
          (.object start before literal resume :: frames) node) comma)
        ⟨.text second.value, after, second.stop⟩ =
        .building frames (.colon start (⟨literal, resume, node, comma.start⟩ :: before) second) :=
      rfl
    rw [List.foldl_append, htake, List.foldl_cons, List.foldl_cons, htaken, htakeLater,
      List.reverse_cons, List.append_assoc, List.singleton_append]

/-- The empty object is read. -/
theorem readsAs_emptyObject (h : Blanks chars ('\x7d' :: rest)) :
    ReadsAs (.object []) ('\x7b' :: chars) rest := by
  intro position
  let opening : Token := ⟨.openBrace, position, position.plus 1⟩
  obtain ⟨place, hplace⟩ := scanFrom_blanks h opening.stop
  let closing : Token := ⟨.closeBrace, place, place.plus 1⟩
  have hopening : scanFrom position ('\x7b' :: chars) = opening :: scanFrom opening.stop chars :=
    scanFrom_cons (by decide) rfl rfl
  have hclosing : scanFrom place ('\x7d' :: rest) = closing :: scanFrom closing.stop rest :=
    scanFrom_cons (by decide) rfl rfl
  refine ⟨opening, [closing], closing.stop, .object position [] (.closed closing.stop), ?_,
    ⟨nofun, nofun⟩, fun _ => rfl, .object .nil⟩
  rw [hopening, hplace, hclosing, List.singleton_append]

/-- An object is read if its members are. -/
theorem readsAs_object (h : MembersReadAs members chars rest) :
    ReadsAs (.object members) ('\x7b' :: chars) rest := by
  intro position
  let opening : Token := ⟨.openBrace, position, position.plus 1⟩
  obtain ⟨place, key, tokens, stop, nodes, hscan, htake, hnodes⟩ := h opening.stop
  have hopening : scanFrom position ('\x7b' :: chars) = opening :: scanFrom opening.stop chars :=
    scanFrom_cons (by decide) rfl rfl
  refine ⟨opening, ⟨.text key.value, place, key.stop⟩ :: tokens, stop,
    .object position nodes (.closed stop), ?_, ⟨nofun, nofun⟩, fun frames => ?_, .object hnodes⟩
  · rw [hopening, hscan, List.cons_append]
  · have hopened : Builder.take (Builder.take (.building frames .value) opening)
        ⟨.text key.value, place, key.stop⟩ = .building frames (.colon position [] key) := rfl
    rw [List.foldl_cons, List.foldl_cons, hopened, htake]
    rfl

end

/-! ## Whole texts -/

/-- A bracket, a brace or a comma ends a value. -/
theorem endsValue_cons {c : Char} (hc : c ∈ [',', ']', '\x7d']) (rest : List Char) :
    EndsValue (c :: rest) := by
  rintro _ ⟨⟩
  exact List.mem_append_left [' ', '\t', '\n', '\r'] hc

mutual

/-- A tree is read from how it is spelled. -/
theorem Spells.readsAs {tree : Tree} {chars rest : List Char} (h : Spells tree chars rest)
    (hrest : EndsValue rest) : ReadsAs tree chars rest :=
  match h with
  | .null => readsAs_of_scalar (by decide) fun _ => ⟨_, _, rfl, rfl, .null⟩
  | .true => readsAs_of_scalar (by decide) fun _ => ⟨_, _, rfl, rfl, .boolean⟩
  | .false => readsAs_of_scalar (by decide) fun _ => ⟨_, _, rfl, rfl, .boolean⟩
  | .number h => readsAs_number h hrest
  | .text h => readsAs_text h
  | .emptyList h => readsAs_emptyList h
  | .list h => readsAs_list h.readAs
  | .emptyObject h => readsAs_emptyObject h
  | .object h => readsAs_object h.readAs

/-- White space may stand around the tree. -/
theorem SpellsSpaced.readsAs {tree : Tree} {chars rest : List Char}
    (h : SpellsSpaced tree chars rest) (hrest : EndsValue rest) : ReadsAs tree chars rest :=
  match h with
  | .mk hbefore h hafter => (h.readsAs (hafter.endsValue hrest)).spaced hbefore hafter

/-- Items are read from how they are spelled. -/
theorem SpellsItems.readAs {items : List Tree} {chars rest : List Char}
    (h : SpellsItems items chars rest) : ItemsReadAs items chars rest :=
  match h with
  | .last h => itemsReadAs_singleton (h.readsAs (endsValue_cons (by decide) _))
  | .cons h hitems =>
    itemsReadAs_cons (h.readsAs (endsValue_cons (by decide) _)) hitems.readAs

/-- Members are read from how they are spelled. -/
theorem SpellsMembers.readAs {members : List (Option String × Tree)} {chars rest : List Char}
    (h : SpellsMembers members chars rest) : MembersReadAs members chars rest :=
  match h with
  | .last hkey h => membersReadAs_singleton hkey (h.readsAs (endsValue_cons (by decide) _))
  | .cons hkey h hmembers =>
    membersReadAs_cons hkey (h.readsAs (endsValue_cons (by decide) _)) hmembers.readAs

end

/-- A text that writes a tree is a document that shows the tree, with nothing behind it. -/
theorem exists_ofText_of_writes {text : String} {tree : Tree} (h : Writes text tree) :
    ∃ node, Document.ofText text = ⟨node, none⟩ ∧ node.Shows tree := by
  obtain ⟨first, tokens, stop, node, hscan, -, htake, hnode⟩ :=
    h.readsAs (fun _ hc => by cases hc) .start
  refine ⟨node, ?_, hnode⟩
  rw [Document.ofText, Document.ofTokens, scan, hscan, ← List.cons_append, List.foldl_append, htake,
    scanFrom]
  rfl

/-! ## Plain values -/

mutual

/-- Whether a value is written without fractions, and with numbers that fit 64 bits. -/
inductive Value.IsPlain : Value → Prop
  | null : Value.IsPlain .null
  | boolean (value : Bool) : Value.IsPlain (.boolean value)
  | integer {value : Nat} (h : value < UInt64.size) : Value.IsPlain (.integer value)
  | text (value : String) : Value.IsPlain (.text value)
  | list {items : List Value} (h : ItemsArePlain items) : Value.IsPlain (.list items)
  | object {members : List (String × Value)} (h : MembersArePlain members) :
      Value.IsPlain (.object members)

/-- Whether all items are plain. -/
inductive ItemsArePlain : List Value → Prop
  | nil : ItemsArePlain []
  | cons {value : Value} {items : List Value} (h : value.IsPlain) (hitems : ItemsArePlain items) :
      ItemsArePlain (value :: items)

/-- Whether the values of all members are plain. -/
inductive MembersArePlain : List (String × Value) → Prop
  | nil : MembersArePlain []
  | cons {name : String} {value : Value} {members : List (String × Value)} (h : value.IsPlain)
      (hmembers : MembersArePlain members) : MembersArePlain ((name, value) :: members)

end

/-- Items are plain if each of them is. -/
theorem itemsArePlain_of_forall {items : List Value} (h : ∀ item ∈ items, item.IsPlain) :
    ItemsArePlain items := by
  induction items with
  | nil => exact .nil
  | cons item items ih =>
    exact .cons (h item List.mem_cons_self) (ih fun other hother =>
      h other (List.mem_cons_of_mem _ hother))

/-- Members are plain if the value of each of them is. -/
theorem membersArePlain_of_forall {members : List (String × Value)}
    (h : ∀ member ∈ members, member.2.IsPlain) : MembersArePlain members := by
  induction members with
  | nil => exact .nil
  | cons member members ih =>
    exact .cons (h member List.mem_cons_self) (ih fun other hother =>
      h other (List.mem_cons_of_mem _ hother))

/-- A list is plain if each of its items is written as a plain value. -/
theorem Value.isPlain_list_map {α : Type} {encode : α → Value}
    (h : ∀ content, (encode content).IsPlain) (contents : List α) :
    (Value.list (contents.map encode)).IsPlain := by
  refine .list (itemsArePlain_of_forall fun item hitem => ?_)
  obtain ⟨content, -, rfl⟩ := List.mem_map.mp hitem
  exact h content

mutual

/-- Whether a node holds a value: it is closed, and its literals stand for those of the value. -/
inductive Node.Holds : Node → Value → Prop
  | null {start stop : Position} : Node.Holds (.null start stop) .null
  | boolean {start stop : Position} {value : Bool} :
      Node.Holds (.boolean start stop value) (.boolean value)
  | integer {start stop : Position} {literal : NumberLiteral} {value : Int}
      (h : literal.evaluate = .ok (.integer value)) :
      Node.Holds (.number start stop literal) (.integer value)
  | text {start : Position} {literal : TextLiteral} {value : String}
      (h : literal.value = .ok value) : Node.Holds (.text start literal) (.text value)
  | list {start stop : Position} {items : List (Item Node)} {values : List Value}
      (h : ItemsHold items values) : Node.Holds (.list start items (.closed stop)) (.list values)
  | object {start stop : Position} {members : List (Member Node)} {values : List (String × Value)}
      (h : MembersHold members values) :
      Node.Holds (.object start members (.closed stop)) (.object values)

/-- Whether items hold values, in the same order. -/
inductive ItemsHold : List (Item Node) → List Value → Prop
  | nil : ItemsHold [] []
  | cons {item : Item Node} {items : List (Item Node)} {value : Value} {values : List Value}
      (h : item.value.Holds value) (hitems : ItemsHold items values) :
      ItemsHold (item :: items) (value :: values)

/-- Whether members hold values under the same names, in the same order. -/
inductive MembersHold : List (Member Node) → List (String × Value) → Prop
  | nil : MembersHold [] []
  | cons {member : Member Node} {members : List (Member Node)} {name : String} {value : Value}
      {values : List (String × Value)} (hkey : member.key.value = .ok name)
      (h : member.value.Holds value) (hmembers : MembersHold members values) :
      MembersHold (member :: members) ((name, value) :: values)

end

/-- What is printed for a text spells it. -/
theorem spells_textChars (value : String) (rest : List Char) :
    Spells (.text (some value)) (textChars value ++ rest) rest := by
  rw [textChars, List.cons_append, List.append_assoc]
  exact .text (spellsText_escaped value rest)

/-- What is printed for a text spells it as a key. -/
theorem spellsKey_textChars (key : String) (rest : List Char) :
    SpellsKey (some key) (textChars key ++ rest) rest := by
  rw [textChars, List.cons_append, List.append_assoc]
  exact .mk .nil (spellsText_escaped key rest) .nil

mutual

/-- What is printed for a plain value spells a tree, and what shows the tree holds the value. -/
theorem Value.IsPlain.exists_tree {value : Value} (h : value.IsPlain) :
    ∃ tree, (∀ rest, Spells tree (value.chars ++ rest) rest) ∧
      ∀ node : Node, node.Shows tree → node.Holds value := by
  cases h with
  | null => exact ⟨.null, fun _ => .null, fun node h => by cases h; exact .null⟩
  | boolean value =>
    refine ⟨.boolean value, fun rest => ?_, fun node h => by cases h; exact .boolean⟩
    cases value with
    | false => exact .false
    | true => exact .true
  | @integer value hvalue =>
    refine ⟨.number (literalOf value), fun rest => ?_, fun node h => ?_⟩
    · have hchars : (Value.integer value).chars = Nat.toDigits 10 value := by
        simp [Value.chars, integerChars]
      rw [hchars]
      exact .number (spellsNumber_toDigits value rest)
    · cases h
      exact .integer (evaluate_literalOf hvalue)
  | text value =>
    refine ⟨.text (some value), fun rest => spells_textChars value rest, fun node h => ?_⟩
    cases h with
    | text h => exact .text (toOption_eq_some_iff.mp h)
  | @list items h =>
    obtain ⟨trees, hspells, hempty, hhold⟩ := h.exists_trees
    refine ⟨.list trees, fun rest => ?_, fun node h => ?_⟩
    · by_cases hne : items = []
      · rw [hempty hne, hne]
        exact .emptyList .nil
      · exact .list (hspells hne rest)
    · cases h with
      | list h => exact .list (hhold _ h)
  | @object members h =>
    obtain ⟨trees, hspells, hempty, hhold⟩ := h.exists_trees
    refine ⟨.object trees, fun rest => ?_, fun node h => ?_⟩
    · by_cases hne : members = []
      · rw [hempty hne, hne]
        exact .emptyObject .nil
      · exact .object (hspells hne rest)
    · cases h with
      | object h => exact .object (hhold _ h)

/-- What is printed for plain items spells trees, and what shows the trees holds the items. -/
theorem ItemsArePlain.exists_trees {values : List Value} (h : ItemsArePlain values) :
    ∃ trees, (values ≠ [] → ∀ rest, SpellsItems trees (Value.itemChars values ++ rest) rest) ∧
      (values = [] → trees = []) ∧ ∀ nodes, ItemsShow nodes trees → ItemsHold nodes values := by
  cases h with
  | nil =>
    refine ⟨[], fun hne => absurd rfl hne, fun _ => rfl, fun nodes h => ?_⟩
    cases h
    exact .nil
  | @cons value values h hvalues =>
    obtain ⟨tree, hspells, hhold⟩ := h.exists_tree
    obtain ⟨trees, hothers, hempty, hholdOthers⟩ := hvalues.exists_trees
    refine ⟨tree :: trees, fun _ rest => ?_, nofun, fun nodes h => ?_⟩
    · by_cases hne : values = []
      · rw [hempty hne, hne, Value.itemChars, List.append_assoc, List.singleton_append]
        exact .last (.mk .nil (hspells _) .nil)
      · rw [Value.itemChars, List.append_assoc, List.cons_append]
        exact .cons (.mk .nil (hspells _) .nil) (hothers hne rest)
        exact hne
    · cases h with
      | cons h hitems => exact .cons (hhold _ h) (hholdOthers _ hitems)

/-- What is printed for plain members spells trees, and what shows the trees holds the members. -/
theorem MembersArePlain.exists_trees {values : List (String × Value)} (h : MembersArePlain values) :
    ∃ trees, (values ≠ [] → ∀ rest, SpellsMembers trees (Value.memberChars values ++ rest) rest) ∧
      (values = [] → trees = []) ∧ ∀ nodes, MembersShow nodes trees → MembersHold nodes values := by
  cases h with
  | nil =>
    refine ⟨[], fun hne => absurd rfl hne, fun _ => rfl, fun nodes h => ?_⟩
    cases h
    exact .nil
  | @cons name value values h hvalues =>
    obtain ⟨tree, hspells, hhold⟩ := h.exists_tree
    obtain ⟨trees, hothers, hempty, hholdOthers⟩ := hvalues.exists_trees
    have hkey := spellsKey_textChars name
    refine ⟨(some name, tree) :: trees, fun _ rest => ?_, nofun, fun nodes h => ?_⟩
    · by_cases hne : values = []
      · rw [hempty hne, hne, Value.memberChars, List.append_assoc, List.cons_append,
          List.append_assoc, List.singleton_append]
        exact .last (hkey _) (.mk .nil (hspells _) .nil)
      · rw [Value.memberChars, List.append_assoc, List.cons_append, List.append_assoc,
          List.cons_append]
        exact .cons (hkey _) (.mk .nil (hspells _) .nil) (hothers hne rest)
        exact hne
    · cases h with
      | cons hname h hmembers =>
        exact .cons (toOption_eq_some_iff.mp hname) (hhold _ h) (hholdOthers _ hmembers)

end

/-- The text of a plain value is a document that holds the value, with nothing behind it. -/
theorem exists_ofText_render {value : Value} (h : value.IsPlain) :
    ∃ node, Document.ofText value.render = ⟨node, none⟩ ∧ node.Holds value := by
  obtain ⟨tree, hspells, hhold⟩ := h.exists_tree
  have hwrites : Writes value.render tree := by
    rw [Value.render, writes_ofList_iff, ← List.append_nil value.chars]
    exact .mk .nil (hspells []) .nil
  obtain ⟨node, hdocument, hnode⟩ := exists_ofText_of_writes hwrites
  exact ⟨node, hdocument, hhold node hnode⟩

end PersistenceLayer.Json
