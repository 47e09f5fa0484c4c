/-! Texts between separators. -/
namespace Scaffold.Text

/-- The parts of a text between its spaces and line feeds, without the empty ones. -/
def words (cs : List Char) : List (List Char) :=
  ((cs.splitOn '\n').flatMap (·.splitOn ' ')).filter (!·.isEmpty)

theorem splitOn_cons_self (sep : Char) (cs : List Char) :
    (sep :: cs).splitOn sep = [] :: cs.splitOn sep :=
  List.splitOn_append_cons_self [] cs

theorem not_mem_of_mem_splitOn {sep : Char} {cs part : List Char}
    (h : part ∈ cs.splitOn sep) : sep ∉ part := by
  induction cs generalizing part with
  | nil => simp_all [List.splitOn_nil]
  | cons c rest ih =>
    rw [List.splitOn_cons_eq_if_modifyHead] at h
    split at h
    · rcases List.mem_cons.mp h with rfl | h
      · simp
      · exact ih h
    · next hc =>
      cases hs : rest.splitOn sep with
      | nil => exact absurd hs (List.splitOn_ne_nil sep rest)
      | cons first parts =>
        rw [hs, List.modifyHead_cons] at h
        rcases List.mem_cons.mp h with rfl | h
        · simp only [List.mem_cons, not_or]
          exact ⟨fun e => hc (beq_iff_eq.mpr e.symm), ih (by simp [hs])⟩
        · exact ih (by simp [hs, h])

theorem mem_iff_exists_splitOn {sep c : Char} {cs : List Char} (h : c ≠ sep) :
    c ∈ cs ↔ ∃ part ∈ cs.splitOn sep, c ∈ part := by
  induction cs with
  | nil => simp [List.splitOn_nil]
  | cons d rest ih =>
    rw [List.splitOn_cons_eq_if_modifyHead, List.mem_cons, ih]
    split
    · next hd =>
      have hne : c ≠ d := by rwa [beq_iff_eq.mp hd]
      simp [hne]
    · cases hs : rest.splitOn sep with
      | nil => exact absurd hs (List.splitOn_ne_nil sep rest)
      | cons first parts => simp [or_assoc]

end Scaffold.Text
