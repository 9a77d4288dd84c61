import PersistenceLayer.Proofs.SourceLines

/-!
# Brackets of generated sources

A generated source is scanned from its first character to its last. Outside of
literals, a bracket that closes has to be the one that closes what was opened
last. A line that is not indented begins a declaration, or closes one; it begins
one exactly if nothing is open. A literal ends on the line it begins on, at the
quote at which the compiler takes it to end. How a line is scanned is put together
from its literal parts and from the words between them, which no scan stops at.
-/

namespace PersistenceLayer.Brackets

open Text (isIdentifierStart isWord)
open SourceFile (unlines)
open StringLiteral (isLineBreak isOrdinary readBody?)

/-! ## Scanning -/

/-- Where a scan is: in front of a line, further on in the code of a line, or in a literal. -/
inductive Mode where
  | lineStart
  | code
  | literal
  deriving DecidableEq

/-- How far a scan has come. -/
structure Standing where
  /-- The brackets that close what is open, the one to come next in front. -/
  expected : List Char
  mode : Mode
  deriving DecidableEq

/-- The bracket that closes what a character opens, if it is an opening bracket. -/
def closing? (c : Char) : Option Char :=
  if c = '(' then some ')'
  else if c = '[' then some ']'
  else if c = '\x7b' then some '\x7d'
  else none

/-- Whether a character is a closing bracket. -/
def isClosing (c : Char) : Bool :=
  c == ')' || c == ']' || c == '\x7d'

/-- What is expected behind a character of the code. Only a bracket that is expected may close. -/
def match? (expected : List Char) (c : Char) : Option (List Char) :=
  match closing? c with
  | some closing => some (closing :: expected)
  | none =>
    if isClosing c then (if expected.head? = some c then some expected.tail else none)
    else some expected

/-- Whether a character begins a declaration, or an annotation of one, if it stands in front of a
line. -/
def beginsDeclaration (c : Char) : Bool :=
  isIdentifierStart c || c == '@'

/-- The scan of one more character. In front of a line that is not empty, a declaration has to begin
if nothing is open, and must not begin otherwise. A literal ends at the next double quote; every
other character in it has to be an ordinary one, so that the line does not end before. -/
def step (standing : Standing) (c : Char) : Option Standing :=
  match standing.mode with
  | .literal =>
    if c = '"' then some ⟨standing.expected, .code⟩
    else if isOrdinary c then some standing
    else none
  | mode =>
    if isLineBreak c then some ⟨standing.expected, .lineStart⟩
    else if mode = .lineStart ∧ beginsDeclaration c ≠ standing.expected.isEmpty then none
    else if c = '"' then some ⟨standing.expected, .literal⟩
    else (match? standing.expected c).map (⟨·, .code⟩)

/-- The scan of some characters. -/
def scan (standing : Standing) (chars : List Char) : Option Standing :=
  chars.foldlM step standing

/-- Where every scan begins, and where it ends if all brackets are closed and the last line is
ended: in front of a line, with nothing open. -/
def atRest : Standing := ⟨[], .lineStart⟩

/-- A text is scanned part by part. -/
theorem scan_append (standing : Standing) (front back : List Char) :
    scan standing (front ++ back) = (scan standing front).bind (scan · back) :=
  List.foldlM_append ..

/-- A scan goes over characters that leave it where it stands. -/
theorem scan_of_forall_step {standing : Standing} {chars : List Char}
    (h : ∀ c ∈ chars, step standing c = some standing) : scan standing chars = some standing := by
  induction chars with
  | nil => rfl
  | cons c chars ih =>
    obtain ⟨hc, hchars⟩ := List.forall_mem_cons.mp h
    exact (congrArg (Option.bind · (scan · chars)) hc).trans (ih hchars)

/-- A scan that succeeds has come past each character, and where a line begins there, it has found a
declaration exactly if nothing was open. -/
theorem exists_scan_of_append {standing last : Standing} {front back : List Char} {c : Char}
    (h : scan standing (front ++ c :: back) = some last) :
    ∃ reached, scan standing front = some reached ∧
      (reached.mode = .lineStart → isLineBreak c = false →
        (beginsDeclaration c = true ↔ reached.expected = [])) := by
  rw [scan_append] at h
  obtain ⟨reached, hreached, hrest⟩ := Option.bind_eq_some_iff.mp h
  refine ⟨reached, hreached, fun hmode hc => ?_⟩
  obtain ⟨next, hnext, -⟩ := Option.bind_eq_some_iff.mp
    (hrest : (step reached c).bind (scan · back) = some last)
  rw [← List.isEmpty_iff, ← Bool.eq_iff_iff]
  by_contra hdiffers
  rw [step, hmode] at hnext
  simp [hc, hdiffers] at hnext

/-- A literal that a scan gets out of is the one that is read there: the scan goes on in the code
behind it. -/
theorem exists_readBody?_of_scan (isLetter : Char → Bool) {expected : List Char}
    {chars : List Char} {last : Standing} (h : scan ⟨expected, .literal⟩ chars = some last)
    (hmode : last.mode ≠ .literal) :
    ∃ value after, readBody? isLetter chars = some (value, after) ∧
      scan ⟨expected, .code⟩ after = some last := by
  induction chars with
  | nil =>
    obtain rfl := Option.some.inj h
    exact absurd rfl hmode
  | cons c chars ih =>
    obtain ⟨next, hnext, hrest⟩ := Option.bind_eq_some_iff.mp
      (h : (step ⟨expected, .literal⟩ c).bind (scan · chars) = some last)
    rw [step] at hnext
    by_cases hquote : c = '"'
    · subst hquote
      obtain rfl := Option.some.inj hnext
      exact ⟨[], chars, rfl, hrest⟩
    · have hordinary : isOrdinary c = true := by
        by_contra hother
        simp [hquote, hother] at hnext
      obtain rfl : ⟨expected, .literal⟩ = next := by simpa [hquote, hordinary] using hnext
      obtain ⟨value, after, hread, hscan⟩ := ih hrest
      refine ⟨StringLiteral.units c ++ value, after, ?_, hscan⟩
      rw [StringLiteral.readBody?_cons_of_isOrdinary hordinary, hread]
      rfl

/-- A declaration cannot begin in front of a line before the one above it is closed. -/
example : scan atRest "fun f() \x7b\nfun g() \x7b\n\x7d\n\x7d\n".toList = none := by decide

/-! ## Texts -/

/-- Whether a text is scanned from one standing to another. -/
def Scans (text : String) (start finish : Standing) : Prop :=
  scan start text.toList = some finish

variable {text other : String} {start between finish : Standing} {expected : List Char}

/-- Texts that follow each other are scanned from where the first one starts to where the last one
ends. -/
theorem Scans.append (h : Scans text start between) (hother : Scans other between finish) :
    Scans (text ++ other) start finish := by
  rw [Scans, String.toList_append, scan_append, h]
  exact hother

/-- A literal of this text is scanned by its characters, without going back to its encoding. -/
theorem scans_ofList {chars : List Char} (h : scan start chars = some finish) :
    Scans (String.ofList chars) start finish := by
  rwa [Scans, String.toList_ofList]

/-- A text goes on with characters as their scan does. -/
theorem Scans.literal {chars : List Char} (h : Scans text start between)
    (hchars : scan between chars = some finish) :
    Scans (text ++ String.ofList chars) start finish :=
  h.append (scans_ofList hchars)

/-- Whether a text within a line closes what it opens, and nothing else. -/
def Balances (text : String) : Prop :=
  ∀ expected, Scans text ⟨expected, .code⟩ ⟨expected, .code⟩

/-- A text with matching brackets leaves the brackets that are open as they are. -/
theorem Scans.balanced (h : Scans text start ⟨expected, .code⟩) (hother : Balances other) :
    Scans (text ++ other) start ⟨expected, .code⟩ :=
  h.append (hother expected)

/-- Texts with matching brackets are joined to one. -/
theorem balances_join {texts : List String} (h : ∀ text ∈ texts, Balances text) :
    Balances (String.join texts) := by
  induction texts with
  | nil => exact fun _ => rfl
  | cons text texts ih =>
    obtain ⟨htext, htexts⟩ := List.forall_mem_cons.mp h
    rw [String.join_cons]
    exact fun expected => (htext expected).balanced (ih htexts)

/-- The characters at which a scan of code changes. -/
def signs : List Char :=
  ['(', ')', '[', ']', '\x7b', '\x7d', '"', '\n', '\r']

/-- A scan of code goes over characters of a kind that no sign belongs to. -/
theorem balances_of_forall {kind : Char → Bool} (hkind : signs.any kind = false)
    (h : ∀ c ∈ text.toList, kind c = true) : Balances text := by
  refine fun expected => scan_of_forall_step fun c hc => ?_
  have hquiet : c ∉ signs := fun hsign => List.any_eq_false.mp hkind c hsign (h c hc)
  simp only [signs, List.mem_cons, List.not_mem_nil, or_false, not_or] at hquiet
  simp [step, match?, closing?, isClosing, isLineBreak, hquiet]

/-- A word has no brackets. -/
theorem balances_of_isWord (h : isWord text = true) : Balances text :=
  balances_of_forall (by decide) (Text.isWord_iff.mp h).2

/-- A word leaves the brackets that are open as they are. -/
theorem Scans.word (h : Scans text start ⟨expected, .code⟩) (hword : isWord other = true) :
    Scans (text ++ other) start ⟨expected, .code⟩ :=
  h.balanced (balances_of_isWord hword)

/-- Whether a text can stand between quotes as it is. -/
def IsQuotable (text : String) : Prop :=
  ∀ c ∈ text.toList, isOrdinary c = true

/-- A scan of a literal goes over a text that can stand in it. -/
theorem scans_of_isQuotable (h : IsQuotable text) :
    Scans text ⟨expected, .literal⟩ ⟨expected, .literal⟩ := by
  refine scan_of_forall_step fun c hc => ?_
  have hquote : c ≠ '"' := by
    rintro rfl
    exact absurd (h _ hc) (by decide)
  simp [step, hquote, h c hc]

/-! ## Lines -/

/-- Whether what some lines leave open, of what was open before them, is as given. -/
def Leads (lines : List String) (before after : List Char) : Prop :=
  Scans (unlines lines) ⟨before, .lineStart⟩ ⟨after, .lineStart⟩

variable {line : String} {lines others : List String} {before opened after : List Char}

/-- No lines leave the brackets that are open as they are. -/
theorem leads_nil : Leads [] expected expected := rfl

/-- Lines that follow each other lead from what is open before the first to what is open after the
last. -/
theorem Leads.append (h : Leads lines before opened) (hothers : Leads others opened after) :
    Leads (lines ++ others) before after := by
  rw [Leads, SourceFile.unlines_append]
  exact Scans.append h hothers

/-- A line that is scanned up to its end leads on to the next one. -/
theorem Scans.leads (h : Scans line ⟨before, .lineStart⟩ ⟨after, .code⟩) :
    Leads [line] before after := by
  have hline : unlines [line] = line ++ "\n" := by simp [unlines]
  rw [Leads, hline]
  exact h.append rfl

/-- An empty line leaves the brackets that are open as they are. -/
theorem leads_empty : Leads [""] expected expected := rfl

/-- The line behind everything that a declaration of its own encloses. -/
theorem leads_closing : Leads ["\x7d"] ['\x7d'] [] := rfl

/-- The line behind everything that a block within a declaration encloses. -/
theorem leads_blockClosing : Leads ["    \x7d"] ['\x7d', '\x7d'] ['\x7d'] := rfl

/-- A line leads on to the lines below it. -/
theorem Leads.cons (h : Leads [line] before opened) (hlines : Leads lines opened after) :
    Leads (line :: lines) before after :=
  h.append hlines

/-- Lines without a word in them are scanned by their characters. -/
theorem leads_map_ofList (texts : List (List Char))
    (h : scan ⟨before, .lineStart⟩ (texts.flatMap (· ++ ['\n'])) = some ⟨after, .lineStart⟩) :
    Leads (texts.map String.ofList) before after := by
  have hunlines : ∀ texts : List (List Char),
      (unlines (texts.map String.ofList)).toList = texts.flatMap (· ++ ['\n']) := by
    intro texts
    induction texts with
    | nil => rfl
    | cons chars texts ih =>
      have hcons : unlines ((chars :: texts).map String.ofList) =
          String.ofList chars ++ "\n" ++ unlines (texts.map String.ofList) := by
        simp [unlines]
      rw [hcons, String.toList_append, String.toList_append, ih, String.toList_ofList]
      rfl
  rwa [Leads, Scans, hunlines]

/-- Blocks of lines leave the brackets that are open as they are if each of them does. -/
theorem leads_flatMap {α : Type} {items : List α} {f : α → List String}
    (h : ∀ item ∈ items, Leads (f item) expected expected) :
    Leads (items.flatMap f) expected expected := by
  induction items with
  | nil => exact leads_nil
  | cons item items ih =>
    obtain ⟨hitem, hitems⟩ := List.forall_mem_cons.mp h
    rw [List.flatMap_cons]
    exact hitem.append (ih hitems)

/-- Lines leave the brackets that are open as they are if each of them does. -/
theorem leads_map {α : Type} {items : List α} {f : α → String}
    (h : ∀ item ∈ items, Leads [f item] expected expected) :
    Leads (items.map f) expected expected := by
  rw [← List.flatMap_pure_eq_map]
  exact leads_flatMap h

end PersistenceLayer.Brackets
