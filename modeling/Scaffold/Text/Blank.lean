/-! Blank characters, and texts without the blanks at their end. -/
namespace Scaffold.Text

/-- The white space characters: the blanks of ASCII, and the spaces and line separators beyond. -/
def isBlank (c : Char) : Bool :=
  let n := c.toNat
  (0x09 ≤ n && n ≤ 0x0D) || n == 0x20 || n == 0x85 || n == 0xA0 || n == 0x1680 ||
    (0x2000 ≤ n && n ≤ 0x200A) || n == 0x2028 || n == 0x2029 || n == 0x202F || n == 0x205F ||
    n == 0x3000

def trimEnd (cs : List Char) : List Char :=
  cs.foldr (fun c rest => if rest.isEmpty && isBlank c then [] else c :: rest) []

def trimStart (cs : List Char) : List Char := cs.dropWhile isBlank

@[simp] theorem trimEnd_nil : trimEnd [] = [] := rfl

/-- A text that ends in a character that is not blank stays as it is. -/
theorem trimEnd_append_singleton (cs : List Char) {c : Char} (h : isBlank c = false) :
    trimEnd (cs ++ [c]) = cs ++ [c] := by
  induction cs with
  | nil => simp [trimEnd, h]
  | cons d cs ih =>
    simp only [trimEnd, List.cons_append, List.foldr_cons] at ih ⊢
    rw [ih]
    simp

theorem trimEnd_append_blank (cs : List Char) {c : Char} (h : isBlank c = true) :
    trimEnd (cs ++ [c]) = trimEnd cs := by
  simp [trimEnd, h]

end Scaffold.Text
