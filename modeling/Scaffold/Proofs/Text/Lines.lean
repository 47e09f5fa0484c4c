import Mathlib.Data.List.Forall2
import Scaffold.Proofs.Path.Text

/-! Lines of a text, and where those stand that begin in some way. -/
namespace Scaffold.Text

variable {α : Type} {start first line : String} {rest more : List String}

/-- The lines of a text: what stands between its line feeds. -/
def lines (text : String) : List String := (text.toList.splitOn '\n').map String.ofList

/-- A text without line feeds. -/
def IsLine (text : String) : Prop := '\n' ∉ text.toList

instance (text : String) : Decidable (IsLine text) := inferInstanceAs (Decidable (¬_))

/-- Lines, with a line feed in front of each. -/
def below (lines : List String) : String := String.join (lines.map ("\n" ++ ·))

@[simp] theorem below_nil : below [] = "" := rfl

@[simp] theorem below_cons (line : String) (rest : List String) :
    below (line :: rest) = "\n" ++ line ++ below rest := by
  simp [below]

@[simp] theorem below_append (above rest : List String) :
    below (above ++ rest) = below above ++ below rest := by
  simp [below]

theorem below_flatMap (f : α → List String) (items : List α) :
    below (items.flatMap f) = String.join (items.map fun item => below (f item)) := by
  induction items with
  | nil => rfl
  | cons item items ih => simp [ih]

@[simp] theorem isLine_append {a b : String} : IsLine (a ++ b) ↔ IsLine a ∧ IsLine b := by
  simp [IsLine]

theorem isLine_intercalate {separator : String} {texts : List String} (hs : IsLine separator)
    (h : ∀ text ∈ texts, IsLine text) : IsLine (separator.intercalate texts) := by
  induction texts with
  | nil => exact List.not_mem_nil
  | cons text texts ih =>
    obtain ⟨ht, hts⟩ := List.forall_mem_cons.mp h
    cases texts with
    | nil => simpa using ht
    | cons next texts =>
      rw [String.intercalate_cons_cons, isLine_append, isLine_append]
      exact ⟨⟨ht, hs⟩, ih hts⟩

theorem isLine_toString (n : Nat) : IsLine (toString n) := by
  intro hm
  rw [Nat.toString_eq_repr, Nat.toList_repr] at hm
  have hdigit : '\n'.isDigit = true :=
    Nat.isDigit_of_mem_toDigits (Nat.succ_pos 9) (Nat.le_refl 10) hm
  cases hdigit

theorem lines_of_isLine (h : IsLine line) : lines line = [line] := by
  rw [lines, List.splitOn_eq_singleton h]
  simp

theorem lines_append (a b : String) : lines (a ++ "\n" ++ b) = lines a ++ lines b := by
  simp only [lines, String.toList_append, List.append_assoc]
  exact (congrArg _ (List.splitOn_append_cons_self _ _)).trans List.map_append

theorem lines_append_below (h : ∀ line ∈ first :: rest, IsLine line) :
    lines (first ++ below rest) = first :: rest := by
  induction rest generalizing first with
  | nil => simpa using lines_of_isLine (h first List.mem_cons_self)
  | cons next rest ih =>
    obtain ⟨hfirst, hrest⟩ := List.forall_mem_cons.mp h
    rw [below_cons, ← String.append_assoc, ← String.append_assoc, String.append_assoc,
      lines_append, lines_of_isLine hfirst, ih hrest]
    rfl

theorem lines_eq_of_below {text : String} {found : List String}
    (h : "\n" ++ text = below found) (hl : ∀ line ∈ found, IsLine line) : lines text = found := by
  cases found with
  | nil =>
    have hlength := congrArg String.length h
    rw [String.length_append] at hlength
    exact absurd hlength (by rw [below_nil, Nat.add_comm]; exact Nat.succ_ne_zero _)
  | cons first rest =>
    rw [below_cons, String.append_assoc] at h
    rw [(String.append_right_inj _).mp h]
    exact lines_append_below hl

theorem lines_ended (h : ∀ line ∈ rest, IsLine line) :
    lines (String.join (rest.map (· ++ "\n"))) = rest ++ [""] := by
  induction rest with
  | nil => rfl
  | cons line rest ih =>
    obtain ⟨hline, hrest⟩ := List.forall_mem_cons.mp h
    rw [List.map_cons, String.join_cons, lines_append, lines_of_isLine hline, ih hrest]
    rfl

/-- Blocks with an empty line between them: each but the first has one in front. -/
theorem intercalate_cons (block : List String) (blocks : List (List String)) :
    [""].intercalate (block :: blocks) = block ++ blocks.flatMap ("" :: ·) := by
  induction blocks generalizing block with
  | nil => simp
  | cons next blocks ih =>
    rw [List.intercalate_cons_cons, ih, List.flatMap_cons, List.append_assoc]
    rfl

theorem mem_of_mem_intercalate {blocks : List (List String)} {line : String}
    (h : line ∈ [""].intercalate blocks) : line = "" ∨ ∃ block ∈ blocks, line ∈ block := by
  cases blocks with
  | nil => cases h
  | cons block blocks =>
    rw [intercalate_cons, List.mem_append, List.mem_flatMap] at h
    rcases h with h | ⟨other, ho, h⟩
    · exact .inr ⟨block, List.mem_cons_self, h⟩
    · rcases List.mem_cons.mp h with h | h
      · exact .inl h
      · exact .inr ⟨other, .tail _ ho, h⟩

/-- A line begins with a text. -/
def Begins (start line : String) : Prop := start.toList <+: line.toList

instance : Decidable (Begins start line) := inferInstanceAs (Decidable (_ <+: _))

/-- A line ends in a text. -/
def Ends (ending line : String) : Prop := ending.toList <:+ line.toList

instance {ending : String} : Decidable (Ends ending line) := inferInstanceAs (Decidable (_ <:+ _))

/-- Each line that begins with a text, with all lines behind it. -/
def runsFrom (start : String) : List String → List (List String)
  | [] => []
  | line :: rest =>
    if Begins start line then (line :: rest) :: runsFrom start rest else runsFrom start rest

theorem ends_append (front ending : String) : Ends ending (front ++ ending) := by
  rw [Ends, String.toList_append]
  exact List.suffix_append _ _

theorem begins_append (start back : String) : Begins start (start ++ back) := by
  rw [Begins, String.toList_append]
  exact List.prefix_append _ _

/-- A line begins with a text only if what the line begins with does, or is the beginning of it. -/
theorem not_begins_append {front : String} (back : String)
    (h : ¬Begins start front ∧ ¬Begins front start) : ¬Begins start (front ++ back) := by
  intro hb
  rcases List.prefix_or_prefix_of_prefix hb (begins_append front back) with hp | hp
  · exact h.1 hp
  · exact h.2 hp

theorem runsFrom_append (h : ∀ line ∈ more, ¬Begins start line) (rest : List String) :
    runsFrom start (more ++ rest) = runsFrom start rest := by
  induction more with
  | nil => rfl
  | cons line more ih =>
    obtain ⟨hline, hmore⟩ := List.forall_mem_cons.mp h
    rw [List.cons_append, runsFrom, if_neg hline, ih hmore]

/-- Empty lines between blocks are as good as empty lines in front of them. -/
theorem runsFrom_intercalate (hempty : ¬Begins start "") (blocks : List (List String)) :
    runsFrom start ([""].intercalate blocks ++ rest) =
      runsFrom start (blocks.flatMap ("" :: ·) ++ rest) := by
  cases blocks with
  | nil => rfl
  | cons block blocks =>
    rw [intercalate_cons, List.flatMap_cons, List.cons_append, List.cons_append, runsFrom,
      if_neg hempty]

/-- Where only the first line of each block begins so, a run is a block with what stands behind. -/
theorem forall₂_runsFrom {blocks : List α} {block : α → List String}
    (hb : ∀ b ∈ blocks, ∃ first more, block b = first :: more ∧ Begins start first ∧
      ∀ line ∈ more, ¬Begins start line)
    (hrest : ∀ line ∈ rest, ¬Begins start line) (hempty : ¬Begins start "") :
    List.Forall₂ (fun b run => block b <+: run) blocks
      (runsFrom start (blocks.flatMap (fun b => "" :: block b) ++ rest)) := by
  induction blocks with
  | nil =>
    have hnone := runsFrom_append hrest []
    rw [List.append_nil] at hnone
    rw [List.flatMap_nil, List.nil_append, hnone]
    exact .nil
  | cons b blocks ih =>
    obtain ⟨⟨first, more, hblock, hfirst, hmore⟩, hblocks⟩ := List.forall_mem_cons.mp hb
    rw [List.flatMap_cons, List.cons_append, List.cons_append, runsFrom, if_neg hempty,
      List.append_assoc, hblock, List.cons_append, runsFrom, if_pos hfirst, runsFrom_append hmore]
    refine .cons ?_ (ih hblocks)
    rw [hblock]
    exact List.prefix_append (first :: more) _

end Scaffold.Text
