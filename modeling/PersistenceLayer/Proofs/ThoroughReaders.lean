import PersistenceLayer.Model.Decode
import PersistenceLayer.Proofs.WholeDocuments

/-!
# Readers that look at everything

What a reader accepts could be skipped as well: a list or an object is read up to
its end, and what is of no use is skipped. A text that is read, with nothing behind
its value, is therefore JSON.
-/

namespace PersistenceLayer

open Json

namespace Json

/-- Whether everything that a reader accepts can be skipped. -/
def IsThorough {α : Type} (read : Node → Except Fault α) : Prop :=
  ∀ node result, read node = .ok result → node.skip = .ok ()

/-! ## Containers -/

/-- Items can be skipped if each of them can. -/
theorem skipItems_eq_ok_iff {items : List (Item Node)} :
    skipItems items = .ok () ↔ ∀ item ∈ items, item.value.skip = .ok () := by
  induction items with
  | nil => simp [skipItems]
  | cons item items ih =>
    rw [skipItems, bind_eq_ok_iff, List.forall_mem_cons, ← ih]
    exact ⟨fun ⟨_, h⟩ => h, fun h => ⟨(), h⟩⟩

/-- Members can be skipped if the value of each of them can. -/
theorem skipMembers_eq_ok_iff {members : List (Member Node)} :
    skipMembers members = .ok () ↔ ∀ member ∈ members, member.value.skip = .ok () := by
  induction members with
  | nil => simp [skipMembers]
  | cons member members ih =>
    rw [skipMembers, bind_eq_ok_iff, List.forall_mem_cons, ← ih]
    exact ⟨fun ⟨_, h⟩ => h, fun h => ⟨(), h⟩⟩

section

variable {start : Position}

/-- A list that is read up to its end can be skipped if its items can. -/
theorem skip_list {items : List (Item Node)} {ending : ListEnding}
    (hitems : ∀ item ∈ items, item.value.skip = .ok ()) (hending : ending.check = .ok ()) :
    Node.skip (.list start items ending) = .ok () := by
  obtain ⟨stop, rfl⟩ := ListEnding.check_eq_ok_iff.mp hending
  rw [Node.skip, skipItems_eq_ok_iff.mpr hitems]
  rfl

/-- An object that is read up to its end can be skipped if its members can. -/
theorem skip_object {members : List (Member Node)} {ending : ObjectEnding}
    (hmembers : ∀ member ∈ members, member.value.skip = .ok ())
    (hending : ∃ stop, ending = .closed stop) :
    Node.skip (.object start members ending) = .ok () := by
  obtain ⟨stop, rfl⟩ := hending
  rw [Node.skip, skipMembers_eq_ok_iff.mpr hmembers]
  rfl

end

/-! ## Values -/

mutual

/-- A value that is taken out of its text can be skipped. -/
theorem Node.skip_of_toValue {node : Node} {room : Nat} {value : Value}
    (h : node.toValue room = .ok value) : node.skip = .ok () := by
  cases node with
  | list start items ending =>
    cases room with
    | zero => cases h
    | succ room =>
      obtain ⟨values, hvalues, h⟩ := bind_eq_ok_iff.mp h
      obtain ⟨_, hending, -⟩ := bind_eq_ok_iff.mp h
      exact skip_list (forall_skip_of_itemValues hvalues) hending
  | object start members ending =>
    cases room with
    | zero => cases h
    | succ room =>
      obtain ⟨values, hvalues, h⟩ := bind_eq_ok_iff.mp h
      obtain ⟨_, hending, -⟩ := bind_eq_ok_iff.mp h
      exact skip_object (forall_skip_of_memberValues hvalues)
        (ObjectEnding.check_eq_ok_iff.mp hending)
  | unreadable => cases h
  | _ => rfl

/-- Items that are taken out of their text can be skipped. -/
theorem forall_skip_of_itemValues {items : List (Item Node)} {room : Nat} {values : List Value}
    (h : itemValues room items = .ok values) : ∀ item ∈ items, item.value.skip = .ok () := by
  cases items with
  | nil => nofun
  | cons item items =>
    obtain ⟨node, resume⟩ := item
    obtain ⟨value, hvalue, h⟩ := bind_eq_ok_iff.mp h
    obtain ⟨others, hothers, -⟩ := bind_eq_ok_iff.mp h
    exact List.forall_mem_cons.mpr
      ⟨Node.skip_of_toValue hvalue, forall_skip_of_itemValues hothers⟩

/-- Members that are taken out of their text can be skipped. -/
theorem forall_skip_of_memberValues {members : List (Member Node)} {room : Nat}
    {values : List (String × Value)} (h : memberValues room members = .ok values) :
    ∀ member ∈ members, member.value.skip = .ok () := by
  cases members with
  | nil => nofun
  | cons member members =>
    obtain ⟨key, keyResume, node, resume⟩ := member
    obtain ⟨name, -, h⟩ := bind_eq_ok_iff.mp h
    obtain ⟨value, hvalue, h⟩ := bind_eq_ok_iff.mp h
    obtain ⟨others, hothers, -⟩ := bind_eq_ok_iff.mp h
    exact List.forall_mem_cons.mpr
      ⟨Node.skip_of_toValue hvalue, forall_skip_of_memberValues hothers⟩

end

section

variable {α : Type} {read : Node → Except Fault α}

/-- What is read as a text can be skipped. -/
theorem isThorough_readText : IsThorough Node.readText := by
  intro node result h
  cases node with
  | text => rfl
  | _ =>
    simp only [Node.readText] at h
    exact absurd h Node.mismatch_ne_ok

/-- What is read as a truth value can be skipped. -/
theorem isThorough_readBoolean : IsThorough Node.readBoolean := by
  intro node result h
  cases node with
  | boolean => rfl
  | _ =>
    simp only [Node.readBoolean] at h
    exact absurd h Node.mismatch_ne_ok

/-- What is read as one of some variants can be skipped. -/
theorem isThorough_readVariant (choices : List (String × α)) :
    IsThorough (Node.readVariant choices) := by
  intro node result h
  cases node with
  | text => rfl
  | _ =>
    simp only [Node.readVariant] at h
    exact absurd h Node.mismatch_ne_ok

/-- What is read as nothing can be skipped. -/
theorem isThorough_readNothing : IsThorough Node.readNothing := by
  intro node result h
  cases node with
  | null => rfl
  | _ =>
    simp only [Node.readNothing] at h
    exact absurd h Node.mismatch_ne_ok

/-- What is read as an optional value can be skipped if the value can. -/
theorem isThorough_readOptional (hread : IsThorough read) :
    IsThorough (Node.readOptional read) := by
  intro node result h
  cases node with
  | null => rfl
  | _ =>
    obtain ⟨value, hvalue, -⟩ := map_eq_ok_iff.mp h
    exact hread _ value hvalue

/-- Items that are read can be skipped. -/
theorem forall_skip_of_readItems (hread : IsThorough read) {items : List (Item Node)}
    {results : List α} (h : Node.readItems read items = .ok results) :
    ∀ item ∈ items, item.value.skip = .ok () := by
  induction items generalizing results with
  | nil => nofun
  | cons item items ih =>
    obtain ⟨node, resume⟩ := item
    obtain ⟨value, hvalue, h⟩ := bind_eq_ok_iff.mp h
    obtain ⟨others, hothers, -⟩ := bind_eq_ok_iff.mp h
    exact List.forall_mem_cons.mpr
      ⟨hread node value (settled_eq_ok_iff.mp hvalue), ih hothers⟩

/-- What is read as a list can be skipped if its items can. -/
theorem isThorough_readList (hread : IsThorough read) : IsThorough (Node.readList read) := by
  intro node results h
  cases node with
  | list start items ending =>
    obtain ⟨values, hvalues, h⟩ := bind_eq_ok_iff.mp h
    obtain ⟨_, hending, -⟩ := bind_eq_ok_iff.mp h
    exact skip_list (forall_skip_of_readItems hread hvalues) hending
  | _ =>
    simp only [Node.readList] at h
    exact absurd h Node.mismatch_ne_ok

/-- What is read as a choice can be skipped. -/
theorem isThorough_readChoice (choices : List (String × α)) :
    IsThorough (Node.readChoice choices) := by
  intro node result h
  cases node with
  | text => rfl
  | object start members ending =>
    cases members with
    | nil =>
      cases ending with
      | colonless key resume place isEnd =>
        obtain ⟨_, -, h⟩ := bind_eq_ok_iff.mp h
        cases h
      | closed | cutOff => cases h
      | _ =>
        obtain ⟨_, -, h⟩ := bind_eq_ok_iff.mp h
        cases h
    | cons member others =>
      obtain ⟨key, keyResume, value, resume⟩ := member
      obtain ⟨choice, -, h⟩ := bind_eq_ok_iff.mp h
      obtain ⟨_, hnothing, h⟩ := bind_eq_ok_iff.mp h
      have hvalue := isThorough_readNothing value _ hnothing
      split at h
      · exact skip_object (List.forall_mem_singleton.mpr hvalue) ⟨_, rfl⟩
      · cases h
      · cases h
  | unreadable start obstacle => cases obstacle <;> cases h
  | _ => cases h

end

/-! ## Records -/

section

variable {shape : Shape Node} {found result : FoundFields Node}

/-- A field checks what its reader is thorough about. -/
theorem Field.isThorough_check {α : Type} {field : Field Node α} (h : IsThorough field.read) :
    IsThorough field.rule.check := by
  intro node _ hcheck
  obtain ⟨value, hvalue, -⟩ := bind_eq_ok_iff.mp hcheck
  exact h node value hvalue

/-- Members that are checked can be skipped, those that are fields as well as the others. -/
theorem forall_skip_of_checkMembers (hrules : ∀ rule ∈ shape.rules, IsThorough rule.check)
    {members : List (Member Node)} (h : shape.checkMembers found members = .ok result) :
    ∀ member ∈ members, member.value.skip = .ok () := by
  induction members generalizing found with
  | nil => nofun
  | cons member members ih =>
    obtain ⟨key, keyResume, node, resume⟩ := member
    obtain ⟨name, -, h⟩ := bind_eq_ok_iff.mp h
    split at h
    · obtain ⟨_, hskip, h⟩ := bind_eq_ok_iff.mp h
      exact List.forall_mem_cons.mpr ⟨hskip, ih h⟩
    · next rule hrule =>
      split at h
      · cases h
      · obtain ⟨_, hcheck, h⟩ := bind_eq_ok_iff.mp h
        have hskip := hrules rule (List.mem_of_find?_eq_some hrule) node _
          (settled_eq_ok_iff.mp hcheck)
        exact List.forall_mem_cons.mpr ⟨hskip, ih h⟩

/-- Items that are checked against fields can be skipped if there are no more items than fields. -/
theorem forall_skip_of_checkItems (hrules : ∀ rule ∈ shape.rules, IsThorough rule.check)
    {items : List (Item Node)} (hlength : items.length ≤ shape.rules.length)
    (h : Shape.checkItems shape.rules items = .ok ()) :
    ∀ item ∈ items, item.value.skip = .ok () := by
  intro item hitem
  obtain ⟨index, hindex, rfl⟩ := List.mem_iff_getElem.mp hitem
  have hrule : index < shape.rules.length := Nat.lt_of_lt_of_le hindex hlength
  have hcheck := Shape.checkItems_eq_ok_iff.mp h index shape.rules[index] items[index]
    (List.getElem?_eq_getElem hrule) (List.getElem?_eq_getElem hindex)
  exact hrules _ (List.getElem_mem hrule) _ _ hcheck

/-- A record that is read up to its fields can be skipped. -/
theorem isThorough_fields (hrules : ∀ rule ∈ shape.rules, IsThorough rule.check) :
    IsThorough shape.fields := by
  intro node found h
  cases node with
  | list start items ending =>
    obtain ⟨_, hchecks, h⟩ := bind_eq_ok_iff.mp h
    obtain ⟨_, hending, -⟩ := bind_eq_ok_iff.mp h
    obtain ⟨hlength, hclosed, -⟩ := Shape.checkListEnding_eq_ok_iff.mp hending
    exact skip_list (forall_skip_of_checkItems hrules hlength hchecks)
      (ListEnding.check_eq_ok_iff.mpr hclosed)
  | object start members ending =>
    obtain ⟨found, hmembers, h⟩ := bind_eq_ok_iff.mp h
    obtain ⟨_, hending, -⟩ := bind_eq_ok_iff.mp h
    exact skip_object (forall_skip_of_checkMembers hrules hmembers)
      (Shape.checkEnding_eq_ok_iff.mp hending).1
  | _ =>
    simp only [Shape.fields] at h
    exact absurd h Node.mismatch_ne_ok

end

/-! ## Tagged choices -/

section

variable {α : Type} {tagging : Tagging α} {room : Nat}

/-- Members whose tag is taken out can be skipped. -/
theorem forall_skip_of_splitMembers {members : List (Member Node)} {found : Option α}
    {result : Option α × List (String × Value)}
    (h : tagging.splitMembers room found members = .ok result) :
    ∀ member ∈ members, member.value.skip = .ok () := by
  induction members generalizing found result with
  | nil => nofun
  | cons member members ih =>
    obtain ⟨key, keyResume, node, resume⟩ := member
    obtain ⟨name, -, h⟩ := bind_eq_ok_iff.mp h
    split at h
    · split at h
      · cases h
      · obtain ⟨choice, hchoice, h⟩ := bind_eq_ok_iff.mp h
        exact List.forall_mem_cons.mpr ⟨isThorough_readVariant _ node choice hchoice, ih h⟩
    · obtain ⟨value, hvalue, h⟩ := bind_eq_ok_iff.mp h
      obtain ⟨others, hothers, -⟩ := bind_eq_ok_iff.mp h
      exact List.forall_mem_cons.mpr ⟨Node.skip_of_toValue hvalue, ih hothers⟩

/-- Only a closed object ends as a tagged choice. -/
theorem Tagging.closed_of_checkEnding {found : Option α} {ending : ObjectEnding} {choice : α}
    (h : tagging.checkEnding found ending = .ok choice) : ∃ stop, ending = .closed stop := by
  cases ending with
  | closed stop => exact ⟨stop, rfl⟩
  | colonless =>
    obtain ⟨name, -, h⟩ := bind_eq_ok_iff.mp h
    split at h
    · cases h
    · obtain ⟨_, -, h⟩ := bind_eq_ok_iff.mp h
      cases h
  | _ =>
    obtain ⟨_, -, h⟩ := bind_eq_ok_iff.mp h
    cases h

/-- What is split into a tag and its members can be skipped. -/
theorem isThorough_split : IsThorough (tagging.split room) := by
  intro node result h
  cases node with
  | object start members ending =>
    cases room with
    | zero => cases h
    | succ room =>
      obtain ⟨⟨found, values⟩, hmembers, h⟩ := bind_eq_ok_iff.mp h
      obtain ⟨choice, hending, -⟩ := bind_eq_ok_iff.mp h
      exact skip_object (forall_skip_of_splitMembers hmembers)
        (Tagging.closed_of_checkEnding hending)
  | list start items ending =>
    cases room with
    | zero => cases h
    | succ room =>
      cases items with
      | nil =>
        cases ending with
        | closed => cases h
        | _ =>
          obtain ⟨_, -, h⟩ := bind_eq_ok_iff.mp h
          cases h
      | cons item others =>
        obtain ⟨choice, hchoice, h⟩ := bind_eq_ok_iff.mp h
        obtain ⟨values, hvalues, h⟩ := bind_eq_ok_iff.mp h
        obtain ⟨_, hending, -⟩ := bind_eq_ok_iff.mp h
        exact skip_list (List.forall_mem_cons.mpr ⟨isThorough_readVariant _ _ choice hchoice,
          forall_skip_of_itemValues hvalues⟩) hending
  | _ =>
    simp only [Tagging.split] at h
    exact absurd h Node.mismatch_ne_ok

end

/-- A document that is read by a thorough reader is whole. -/
theorem IsThorough.isWhole {α : Type} {read : Node → Except Fault α} (hread : IsThorough read)
    {document : Document} {result : α} (h : document.read read = .ok result) :
    document.IsWhole := by
  obtain ⟨value, hvalue, h⟩ := bind_eq_ok_iff.mp h
  refine ⟨hread _ value hvalue, ?_⟩
  split at h
  · next htrailing => exact htrailing
  · cases h

end Json

/-! ## Models -/

/-- What is read as a column type can be skipped. -/
theorem ColumnType.isThorough_read (room : Nat) : IsThorough (ColumnType.read room) := by
  intro node type h
  obtain ⟨result, hsplit, -⟩ := bind_eq_ok_iff.mp h
  exact isThorough_split node result hsplit

/-- What is read as an attribute can be skipped. -/
theorem Attribute.isThorough_read (room : Nat) : IsThorough (Attribute.read room) := by
  intro node attr h
  obtain ⟨found, hfields, -⟩ := bind_eq_ok_iff.mp h
  refine isThorough_fields ?_ node found hfields
  have hflag (name : String) : IsThorough (Attribute.flagField name).rule.check :=
    Field.isThorough_check (isThorough_readOptional isThorough_readBoolean)
  simp only [Attribute.shape, List.forall_mem_cons]
  exact ⟨Field.isThorough_check isThorough_readText,
    Field.isThorough_check (isThorough_readOptional (ColumnType.isThorough_read _)),
    Field.isThorough_check (isThorough_readOptional isThorough_readText), hflag _, hflag _, hflag _,
    hflag _, Field.isThorough_check (isThorough_readList (isThorough_readChoice _)), nofun⟩

/-- What is read as an entity can be skipped. -/
theorem Entity.isThorough_read (room : Nat) : IsThorough (Entity.read room) := by
  intro node entity h
  obtain ⟨found, hfields, -⟩ := bind_eq_ok_iff.mp h
  refine isThorough_fields ?_ node found hfields
  have hname (name : String) : IsThorough (Entity.optionalNameField name).rule.check :=
    Field.isThorough_check (isThorough_readOptional isThorough_readText)
  simp only [Entity.shape, List.forall_mem_cons]
  exact ⟨Field.isThorough_check isThorough_readText, Field.isThorough_check isThorough_readText,
    hname _, hname _, hname _,
    Field.isThorough_check (isThorough_readList (Attribute.isThorough_read _)), nofun⟩

/-- What is read as a set of entities can be skipped. -/
theorem EntitySet.isThorough_read : IsThorough EntitySet.read := by
  intro node set h
  obtain ⟨entities, hentities, -⟩ := bind_eq_ok_iff.mp h
  exact isThorough_readList (Entity.isThorough_read _) node entities hentities

/-- A text that is read as a set of entities is JSON: it writes a tree. -/
theorem EntitySet.exists_writes_of_ofJson {text : String} {set : EntitySet}
    (h : ofJson text = .ok set) : ∃ tree, Writes text tree :=
  (isThorough_read.isWhole h).exists_writes

end PersistenceLayer
