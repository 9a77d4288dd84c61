import PersistenceLayer.Proofs.GeneratedAnnotations

/-!
# Annotations that are told apart

How a property of a persisted class is written tells where each part of it ends:
quoted text at the next double quote, and everything else at the next sign. So
two properties that are written alike are the same, as long as no quoted text
holds a double quote itself.
-/

namespace PersistenceLayer

open Text (isIdentifierPart isWord isWord_iff)

namespace Text

/-! ## What is written, and what follows it -/

/-- Whether values that are written alike are the same, and end at the same place, if the values fit
and what follows them does so as well. -/
def ToldApart {α : Type} (print : α → String) (fits : α → Prop) (follows : List Char → Prop) :
    Prop :=
  ∀ ⦃first second : α⦄ ⦃rest others : List Char⦄, fits first → fits second → follows rest →
    follows others → (print first).toList ++ rest = (print second).toList ++ others →
      first = second ∧ rest = others

/-- Whether there is a character, and the first one is of the given kind. -/
def Opens (kind : Char → Bool) (rest : List Char) : Prop :=
  ∃ c tail, rest = c :: tail ∧ kind c = true

/-- Characters of one kind end in front of the first one of another kind. -/
theorem span_inj {kind : Char → Bool} {first second rest others : List Char}
    (hfirst : ∀ c ∈ first, kind c = true) (hsecond : ∀ c ∈ second, kind c = true)
    (hrest : Opens (fun c => !kind c) rest) (hothers : Opens (fun c => !kind c) others)
    (h : first ++ rest = second ++ others) : first = second ∧ rest = others := by
  have htakeWhile : ∀ front back : List Char, (∀ c ∈ front, kind c = true) →
      Opens (fun c => !kind c) back → (front ++ back).takeWhile kind = front := by
    rintro front _ hfront ⟨c, tail, rfl, hc⟩
    rw [List.takeWhile_append_of_pos hfront, List.takeWhile_cons_of_neg (by simpa using hc),
      List.append_nil]
  obtain rfl : first = second := by
    rw [← htakeWhile first rest hfirst hrest, h, htakeWhile second others hsecond hothers]
  exact ⟨rfl, List.append_cancel_left h⟩

/-- What stands in front of the first character of a kind is told from the rest. -/
theorem delimited_inj {c : Char} {first second rest others : List Char} (hfirst : c ∉ first)
    (hsecond : c ∉ second) (h : first ++ c :: rest = second ++ c :: others) :
    first = second ∧ rest = others := by
  have hother : ∀ chars : List Char, c ∉ chars → ∀ next ∈ chars, (next != c) = true :=
    fun chars hc next hnext => bne_iff_ne.mpr fun heq => hc (heq ▸ hnext)
  obtain ⟨hsame, hrest⟩ := span_inj (hother first hfirst) (hother second hsecond)
    ⟨c, rest, rfl, by simp⟩ ⟨c, others, rfl, by simp⟩ h
  exact ⟨hsame, (List.cons.inj hrest).2⟩

/-- Values one after the other are told apart if each of them is, and if none of them can be taken
for what closes the sequence. -/
theorem ToldApart.join {α : Type} {print : α → String} {fits : α → Prop}
    {follows closes : List Char → Prop} (h : ToldApart print fits follows)
    (hfollows : ∀ item rest, follows ((print item).toList ++ rest))
    (hcloses : ∀ rest, closes rest → follows rest)
    (hdiffers : ∀ item rest, ¬ closes ((print item).toList ++ rest)) :
    ToldApart (fun items : List α => String.join (items.map print))
      (fun items => ∀ item ∈ items, fits item) closes := by
  have hcons : ∀ (item : α) (items : List α) (rest : List Char),
      (String.join ((item :: items).map print)).toList ++ rest =
        (print item).toList ++ ((String.join (items.map print)).toList ++ rest) := by
    simp [String.toList_append]
  have hnext : ∀ (items : List α) (rest : List Char), closes rest →
      follows ((String.join (items.map print)).toList ++ rest) := by
    rintro (_ | ⟨item, items⟩) rest hrest
    · exact hcloses rest hrest
    · rw [hcons]
      exact hfollows _ _
  intro first second rest others hfirst hsecond hrest hothers heq
  dsimp only at heq
  induction first generalizing second with
  | nil =>
    cases second with
    | nil => exact ⟨rfl, heq⟩
    | cons other second =>
      rw [hcons, List.map_nil, String.join_nil, String.toList_empty, List.nil_append] at heq
      exact absurd (heq ▸ hrest) (hdiffers _ _)
  | cons item first ih =>
    rw [hcons] at heq
    cases second with
    | nil =>
      rw [List.map_nil, String.join_nil, String.toList_empty, List.nil_append] at heq
      exact absurd (heq ▸ hothers) (hdiffers _ _)
    | cons other second =>
      rw [hcons] at heq
      rw [List.forall_mem_cons] at hfirst hsecond
      obtain ⟨rfl, htail⟩ := h hfirst.1 hsecond.1 (hnext _ _ hrest) (hnext _ _ hothers) heq
      obtain ⟨rfl, hrest⟩ := ih hfirst.2 hsecond.2 htail
      exact ⟨rfl, hrest⟩

end Text

open Text (ToldApart Opens)

/-- Whether a text that is put between double quotes ends at the second one. -/
def IsUnquoted (text : String) : Prop :=
  '"' ∉ text.toList

/-! ## Arguments -/

namespace Argument

/-- The argument that is written with some characters. -/
def ofChars (chars : List Char) : Argument :=
  if chars.head? = some '"' then .text (String.ofList chars.tail.dropLast)
  else if '.' ∈ chars then .constant (String.ofList chars)
  else if chars = ['t', 'r', 'u', 'e'] then .flag true
  else if chars = ['f', 'a', 'l', 's', 'e'] then .flag false
  else .number (UInt32.ofNat (Nat.ofDigitChars 10 chars 0))

/-- Arguments are read back. -/
theorem ofChars_render {argument : Argument} (h : argument.IsMadeOf IsUnquoted) :
    ofChars argument.render.toList = argument := by
  cases argument with
  | text value => simp [ofChars, render, String.toList_append]
  | flag value => cases value <;> rfl
  | number value =>
    have hdigit {c : Char} (hc : c ∈ (number value).render.toList) := isDigit_of_mem_number hc
    have hquote : (number value).render.toList.head? ≠ some '"' := fun hhead =>
      absurd (hdigit (List.mem_of_head? hhead)) (by decide)
    have hdot : '.' ∉ (number value).render.toList := fun hmem => absurd (hdigit hmem) (by decide)
    have htrue : (number value).render.toList ≠ ['t', 'r', 'u', 'e'] := fun heq =>
      absurd (hdigit (heq.symm ▸ List.mem_cons_self)) (by decide)
    have hfalse : (number value).render.toList ≠ ['f', 'a', 'l', 's', 'e'] := fun heq =>
      absurd (hdigit (heq.symm ▸ List.mem_cons_self)) (by decide)
    rw [ofChars, if_neg hquote, if_neg hdot, if_neg htrue, if_neg hfalse, render,
      Nat.toString_eq_repr, Nat.toList_repr, Nat.ofDigitChars_ten_toDigits, UInt32.ofNat_toNat]
  | constant name =>
    have hquote : name.toList.head? ≠ some '"' := fun hhead =>
      absurd (h.2 _ (List.mem_of_head? hhead)) (by decide)
    rw [render, ofChars, if_neg hquote, if_pos h.1, String.ofList_toList]

/-- An argument that is not quoted does not open with a quote. -/
theorem ne_quoted {chars rest others : List Char} (hne : chars ≠ [])
    (hchars : ∀ c ∈ chars, isBarePart c = true) : chars ++ rest ≠ '"' :: others := by
  obtain ⟨c, tail, rfl⟩ := List.exists_cons_of_ne_nil hne
  intro h
  obtain rfl : c = '"' := (List.cons.inj h).1
  exact absurd (hchars _ List.mem_cons_self) (by decide)

/-- Arguments are told apart by a character that cannot belong to one. -/
theorem toldApart :
    ToldApart render (IsMadeOf IsUnquoted) (Opens fun c => !isBarePart c) := by
  intro first second rest others hfirst hsecond hrest hothers h
  have htext : ∀ value (tail : List Char),
      (text value).render.toList ++ tail = '"' :: (value.toList ++ '"' :: tail) := by
    simp [render, String.toList_append]
  rcases exists_text_or_isBarePart hfirst with ⟨value, rfl⟩ | ⟨hne, hchars⟩
  · rw [htext] at h
    rcases exists_text_or_isBarePart hsecond with ⟨other, rfl⟩ | ⟨hne, hchars⟩
    · rw [htext, List.cons_inj_right] at h
      obtain ⟨hvalue, hrest⟩ := Text.delimited_inj hfirst hsecond h
      exact ⟨congrArg text (String.toList_inj.mp hvalue), hrest⟩
    · exact absurd h.symm (ne_quoted hne hchars)
  · rcases exists_text_or_isBarePart hsecond with ⟨other, rfl⟩ | ⟨-, hbare⟩
    · rw [htext] at h
      exact absurd h (ne_quoted hne hchars)
    · obtain ⟨hprinted, hrest⟩ := Text.span_inj hchars hbare hrest hothers h
      rw [← ofChars_render hfirst, ← ofChars_render hsecond, hprinted]
      exact ⟨rfl, hrest⟩

end Argument

/-! ## Parameters -/

namespace Parameter

/-- A parameter ends where its argument does. -/
theorem toldApart :
    ToldApart render (IsMadeOf IsUnquoted) (Opens fun c => !Argument.isBarePart c) := by
  intro first second rest others hfirst hsecond hrest hothers h
  have hrender : ∀ (parameter : Parameter) (tail : List Char),
      parameter.render.toList ++ tail =
        parameter.name.toList ++
          ' ' :: '=' :: ' ' :: (parameter.argument.render.toList ++ tail) := by
    simp [render, String.toList_append]
  have hblank : ∀ parameter : Parameter, parameter.IsMadeOf IsUnquoted →
      ' ' ∉ parameter.name.toList :=
    fun parameter h => Text.notMem_toList_of_isWord h.name (by decide)
  rw [hrender, hrender] at h
  obtain ⟨hname, h⟩ := Text.delimited_inj (hblank first hfirst) (hblank second hsecond) h
  obtain ⟨hargument, hrest⟩ := Argument.toldApart hfirst.argument hsecond.argument hrest hothers
    (List.cons.inj (List.cons.inj h).2).2
  obtain ⟨name, argument⟩ := first
  obtain rfl : argument = second.argument := hargument
  obtain rfl : name = second.name := String.toList_inj.mp hname
  exact ⟨rfl, hrest⟩

end Parameter

namespace Annotation

/-- The parameters behind the first one end at a parenthesis. -/
theorem toldApart_others :
    ToldApart (fun others : List Parameter =>
        String.join (others.map fun other => ", " ++ other.render))
      (fun others => ∀ other ∈ others, other.IsMadeOf IsUnquoted) (Opens (· == ')')) := by
  have hcomma : ∀ (parameter : Parameter) (rest : List Char),
      (", " ++ parameter.render).toList ++ rest =
        ',' :: ' ' :: (parameter.render.toList ++ rest) := by
    simp [String.toList_append]
  have hother : ToldApart (fun other : Parameter => ", " ++ other.render)
      (Parameter.IsMadeOf IsUnquoted) (Opens fun c => !Argument.isBarePart c) := by
    intro first second rest others hfirst hsecond hrest hothers h
    rw [hcomma, hcomma, List.cons_inj_right, List.cons_inj_right] at h
    exact Parameter.toldApart hfirst hsecond hrest hothers h
  refine hother.join ?_ ?_ ?_
  · exact fun parameter rest => ⟨',', _, hcomma parameter rest, by decide⟩
  · rintro _ ⟨c, rest, rfl, hc⟩
    exact ⟨c, rest, rfl, beq_iff_eq.mp hc ▸ by decide⟩
  · rintro parameter rest ⟨c, tail, h, hc⟩
    rw [hcomma] at h
    exact absurd ((List.cons.inj h).1.trans (beq_iff_eq.mp hc)) (by decide)

/-- Behind the first parameter a sign follows. -/
theorem opens_others (others : List Parameter) (rest : List Char) :
    Opens (fun c => !Argument.isBarePart c)
      ((String.join (others.map fun other => ", " ++ other.render)).toList ++ ')' :: rest) := by
  cases others with
  | nil => exact ⟨')', rest, rfl, by decide⟩
  | cons other others =>
    exact ⟨',', _, by simp [String.toList_append]; rfl, by decide⟩

/-- A parameter list ends at the end of the line. -/
theorem toldApart_parameterList :
    ToldApart parameterList
      (fun parameters => ∀ parameter ∈ parameters, parameter.IsMadeOf IsUnquoted)
      (Opens (· == '\n')) := by
  have hcons : ∀ (parameter : Parameter) (parameters : List Parameter) (rest : List Char),
      (parameterList (parameter :: parameters)).toList ++ rest =
        '(' :: (parameter.render.toList ++
          ((String.join (parameters.map fun other => ", " ++ other.render)).toList ++
            ')' :: rest)) := by
    simp [parameterList_cons, String.toList_append]
  have hnil : ∀ rest : List Char, (parameterList []).toList ++ rest = rest := fun _ => rfl
  have hopen : ∀ rest tail : List Char, Opens (· == '\n') rest → rest ≠ '(' :: tail := by
    rintro _ tail ⟨c, rest, rfl, hc⟩ h
    exact absurd ((List.cons.inj h).1.symm.trans (beq_iff_eq.mp hc)) (by decide)
  intro first second rest others hfirst hsecond hrest hothers h
  cases first with
  | nil =>
    rw [hnil] at h
    cases second with
    | nil => exact ⟨rfl, h⟩
    | cons other second =>
      rw [hcons] at h
      exact absurd h (hopen _ _ hrest)
  | cons parameter first =>
    rw [hcons] at h
    cases second with
    | nil => exact absurd h.symm (hopen _ _ hothers)
    | cons other second =>
      rw [hcons, List.cons_inj_right] at h
      rw [List.forall_mem_cons] at hfirst hsecond
      obtain ⟨rfl, htail⟩ := Parameter.toldApart hfirst.1 hsecond.1 (opens_others _ _)
        (opens_others _ _) h
      obtain ⟨rfl, hclosed⟩ := toldApart_others hfirst.2 hsecond.2 ⟨')', rest, rfl, rfl⟩
        ⟨')', others, rfl, rfl⟩ htail
      exact ⟨rfl, (List.cons.inj hclosed).2⟩

/-- An annotation ends at the end of the line. -/
theorem toldApart : ToldApart render (IsMadeOf IsUnquoted) (Opens (· == '\n')) := by
  have hname : ∀ (parameters : List Parameter) (rest : List Char), Opens (· == '\n') rest →
      Opens (fun c => !isNamePart c) ((parameterList parameters).toList ++ rest) := by
    rintro (_ | ⟨parameter, parameters⟩) _ ⟨c, rest, rfl, hc⟩
    · exact ⟨c, rest, rfl, beq_iff_eq.mp hc ▸ by decide⟩
    · exact ⟨'(', _, by rw [parameterList_cons]; simp [String.toList_append]; rfl, by decide⟩
  have hrender : ∀ (mark : Annotation) (rest : List Char), mark.render.toList ++ rest =
      '@' :: (mark.name.toList ++ ((parameterList mark.parameters).toList ++ rest)) := by
    simp [render, String.toList_append]
  intro first second rest others hfirst hsecond hrest hothers h
  rw [hrender, hrender, List.cons_inj_right] at h
  obtain ⟨hsame, h⟩ := Text.span_inj hfirst.name hsecond.name (hname _ _ hrest)
    (hname _ _ hothers) h
  obtain ⟨hparameters, hrest⟩ := toldApart_parameterList hfirst.parameters hsecond.parameters
    hrest hothers h
  obtain ⟨name, parameters⟩ := first
  obtain rfl : parameters = second.parameters := hparameters
  obtain rfl : name = second.name := String.toList_inj.mp hsame
  exact ⟨rfl, hrest⟩

end Annotation

/-! ## Properties -/

namespace PersistedProperty

/-- Whether a property can be told from every other one, up to what its type stands for. -/
structure IsReadable (property : PersistedProperty) : Prop where
  annotations : ∀ mark ∈ property.annotations, mark.IsMadeOf IsUnquoted
  name : isWord property.name = true
  type : isWord property.type.kotlinName = true

/-- The text of a property as it stands in a persisted class. -/
def text (property : PersistedProperty) : String :=
  SourceFile.unlines property.lines

/-- The annotations of a property come first, each on a line. -/
theorem toList_text (property : PersistedProperty) :
    property.text.toList =
      (String.join (property.annotations.map fun mark => "    " ++ mark.render ++ "\n")).toList ++
        ("    open var ".toList ++ (property.name.toList ++
          ':' :: ' ' :: (property.type.kotlinName.toList ++ "? = null\n".toList))) := by
  have hdeclaration : property.declarationLine =
      "    open var " ++ property.name ++ ": " ++ property.type.kotlinName ++ "? = null" := rfl
  simp only [text, SourceFile.unlines, lines, hdeclaration, Function.comp_def, List.map_append,
    List.map_map, List.map_cons, List.map_nil, String.join_append, String.join_cons,
    String.join_nil, String.append_empty, String.toList_append, List.append_assoc]
  rfl

/-- Annotations end in front of a declaration. -/
theorem toldApart_annotations :
    ToldApart (fun marks : List Annotation =>
        String.join (marks.map fun mark => "    " ++ mark.render ++ "\n"))
      (fun marks => ∀ mark ∈ marks, mark.IsMadeOf IsUnquoted)
      (fun rest => ∃ tail, rest = "    open var ".toList ++ tail) := by
  have hline : ∀ (mark : Annotation) (rest : List Char),
      ("    " ++ mark.render ++ "\n").toList ++ rest =
        "    ".toList ++ (mark.render.toList ++ '\n' :: rest) := by
    simp [String.toList_append]
  have hmark : ToldApart (fun mark : Annotation => "    " ++ mark.render ++ "\n")
      (fun mark => mark.IsMadeOf IsUnquoted) (fun _ => True) := by
    intro first second rest others hfirst hsecond _ _ h
    rw [hline, hline, List.append_cancel_left_eq] at h
    obtain ⟨hmark, hrest⟩ := Annotation.toldApart hfirst hsecond ⟨'\n', rest, rfl, rfl⟩
      ⟨'\n', others, rfl, rfl⟩ h
    exact ⟨hmark, (List.cons.inj hrest).2⟩
  refine hmark.join (fun _ _ => trivial) (fun _ _ => trivial) ?_
  rintro mark rest ⟨tail, h⟩
  have hopen : "    open var ".toList = "    ".toList ++ 'o' :: "pen var ".toList := rfl
  rw [hline, hopen, List.append_assoc, List.append_cancel_left_eq, Annotation.render,
    String.append_assoc, String.toList_append] at h
  exact absurd (List.cons.inj h).1 (by decide)

/-- Properties that are written alike have the same annotations, names, and names of types. -/
theorem text_eq_iff {first second : PersistedProperty} (hfirst : first.IsReadable)
    (hsecond : second.IsReadable) :
    first.text = second.text ↔ first.annotations = second.annotations ∧
      first.name = second.name ∧ first.type.kotlinName = second.type.kotlinName := by
  constructor
  · intro h
    have hchars := congrArg String.toList h
    rw [toList_text, toList_text] at hchars
    obtain ⟨hannotations, hdeclaration⟩ := toldApart_annotations hfirst.annotations
      hsecond.annotations ⟨_, rfl⟩ ⟨_, rfl⟩ hchars
    obtain ⟨hname, htype⟩ := Text.delimited_inj
      (Text.notMem_toList_of_isWord hfirst.name (by decide))
      (Text.notMem_toList_of_isWord hsecond.name (by decide))
      (List.append_cancel_left hdeclaration)
    rw [List.cons_inj_right, List.append_cancel_right_eq] at htype
    exact ⟨hannotations, String.toList_inj.mp hname, String.toList_inj.mp htype⟩
  · rintro ⟨hannotations, hname, htype⟩
    rw [← String.toList_inj, toList_text, toList_text, hannotations, hname, htype]

end PersistedProperty

end PersistenceLayer
