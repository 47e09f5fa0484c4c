import Scaffold.Proofs.Except
import Scaffold.Source.Renderer

/-! Artifacts put together from two. Whatever gives the texts of single declarations, be it
templates or not, what stands in front of a declaration decides only how it is separated, and the
first declaration without a text is the one that is reported. -/
namespace Scaffold.Source.Renderer

variable {text : Declaration → Except RenderFault String} {previous : Option Declaration}
  {xs ys : List Declaration} {e : RenderFault} {content : String}

theorem joinFrom_some (p d : Declaration) (rest : List Declaration) :
    joinFrom text (some p) (d :: rest) =
      (joinFrom text none (d :: rest)).map (separator p d ++ ·) := by
  rw [joinFrom, joinFrom]
  cases text d with
  | error e => rfl
  | ok fragment =>
    cases joinFrom text (some d) rest with
    | error e => rfl
    | ok more =>
      change Except.ok _ = Except.ok _
      simp [String.append_assoc]

theorem joinFrom_append (hx : xs ≠ []) : joinFrom text previous (xs ++ ys) = do
    let before ← joinFrom text previous xs
    let behind ← joinFrom text (some (xs.getLast hx)) ys
    return before ++ behind := by
  induction xs generalizing previous with
  | nil => exact absurd rfl hx
  | cons d rest ih =>
    rw [List.cons_append, joinFrom, joinFrom]
    cases text d with
    | error e => rfl
    | ok fragment =>
      cases rest with
      | nil =>
        cases hys : joinFrom text (some d) ys with
        | error e => simp [bind, Except.bind, pure, Except.pure, joinFrom, hys]
        | ok behind => simp [bind, Except.bind, pure, Except.pure, joinFrom, hys]
      | cons next others =>
        have hlast : (d :: next :: others).getLast hx =
            (next :: others).getLast (List.cons_ne_nil _ _) := List.getLast_cons _
        rw [ih (List.cons_ne_nil _ _), hlast]
        cases joinFrom text (some d) (next :: others) with
        | error e => rfl
        | ok more =>
          cases joinFrom text (some ((next :: others).getLast (List.cons_ne_nil _ _))) ys with
          | error e => rfl
          | ok behind => simp [bind, Except.bind, pure, Except.pure, String.append_assoc]

theorem joinFrom_eq_error_iff : joinFrom text previous xs = .error e ↔
    ∃ above d below, xs = above ++ d :: below ∧
      (∀ b ∈ above, ∃ fragment, text b = .ok fragment) ∧ text d = .error e := by
  induction xs generalizing previous with
  | nil =>
    constructor
    · intro h
      cases h
    · rintro ⟨above, d, below, hsplit, -⟩
      cases above <;> cases hsplit
  | cons first rest ih =>
    rw [joinFrom]
    constructor
    · intro h
      rcases Except.exists_of_bind_eq_error h with hfirst | ⟨fragment, hfirst, h⟩
      · exact ⟨[], first, rest, rfl, nofun, hfirst⟩
      · rcases Except.exists_of_bind_eq_error h with hrest | ⟨more, -, h⟩
        · obtain ⟨above, d, below, rfl, habove, hd⟩ := ih.mp hrest
          refine ⟨first :: above, d, below, rfl, ?_, hd⟩
          exact List.forall_mem_cons.mpr ⟨⟨fragment, hfirst⟩, habove⟩
        · cases h
    · rintro ⟨above, d, below, hsplit, habove, hd⟩
      cases above with
      | nil =>
        obtain ⟨rfl, rfl⟩ := List.cons.inj hsplit
        rw [hd]
        rfl
      | cons head tail =>
        rw [List.cons_append] at hsplit
        obtain ⟨rfl, rfl⟩ := List.cons.inj hsplit
        obtain ⟨⟨fragment, hfirst⟩, htail⟩ := List.forall_mem_cons.mp habove
        have hrest : joinFrom text (some first) (tail ++ d :: below) = .error e :=
          ih.mpr ⟨tail, d, below, rfl, htail, hd⟩
        rw [hfirst, hrest]
        rfl

theorem compose_eq_ok_iff {a : Artifact} : compose text a = .ok content ↔
    ∃ body, joinFrom text none a.declarations = .ok body ∧ content = body ++ "\n" := by
  unfold compose
  cases joinFrom text none a.declarations with
  | error e => simp [bind, Except.bind]
  | ok body => simp [bind, Except.bind, pure, Except.pure, eq_comm]

theorem compose_eq_error_iff {a : Artifact} :
    compose text a = .error e ↔ joinFrom text none a.declarations = .error e := by
  unfold compose
  cases joinFrom text none a.declarations with
  | error e' => simp [bind, Except.bind]
  | ok body => simp [bind, Except.bind, pure, Except.pure]

/-- The text of two lists of declarations, one behind the other, is the texts of both with a
separator in place of the first one's last line feed. Where one of them has no text, the two
together fail as the first such list does; and a list fails as the first declaration in it without a
text. With `text` the `renderDeclaration` of a renderer, this is what its `render` does. -/
theorem compose_append (text : Declaration → Except RenderFault String) (path : Path)
    (hx : xs ≠ []) (hy : ys ≠ []) :
    (∀ before behind, compose text ⟨path, xs⟩ = .ok before → compose text ⟨path, ys⟩ = .ok behind →
      ∃ body, before = body ++ "\n" ∧ compose text ⟨path, xs ++ ys⟩ =
        .ok (body ++ (if (xs.getLast hx).isImport && (ys.head hy).isImport then "\n" else "\n\n") ++
          behind)) ∧
    (∀ e, compose text ⟨path, xs⟩ = .error e → compose text ⟨path, xs ++ ys⟩ = .error e) ∧
    (∀ before e, compose text ⟨path, xs⟩ = .ok before → compose text ⟨path, ys⟩ = .error e →
      compose text ⟨path, xs ++ ys⟩ = .error e) ∧
    ∀ ds e, compose text ⟨path, ds⟩ = .error e ↔ ∃ above d below, ds = above ++ d :: below ∧
      (∀ b ∈ above, ∃ fragment, text b = .ok fragment) ∧ text d = .error e := by
  have hjoin : joinFrom text none (xs ++ ys) = _ := joinFrom_append hx
  have hbehind : joinFrom text (some (xs.getLast hx)) ys =
      (joinFrom text none ys).map (separator (xs.getLast hx) (ys.head hy) ++ ·) := by
    obtain ⟨d, rest, rfl⟩ := List.exists_cons_of_ne_nil hy
    exact joinFrom_some _ d rest
  rw [hbehind] at hjoin
  refine ⟨?_, ?_, ?_, ?_⟩
  · intro before behind hbefore hys
    obtain ⟨body, hbody, rfl⟩ := compose_eq_ok_iff.mp hbefore
    obtain ⟨rest, hrest, rfl⟩ := compose_eq_ok_iff.mp hys
    refine ⟨body, rfl,
      compose_eq_ok_iff.mpr ⟨body ++ (separator (xs.getLast hx) (ys.head hy) ++ rest),
      ?_, ?_⟩⟩
    · simp only [hbody, hrest] at hjoin
      exact hjoin
    · simp only [separator, String.append_assoc]
  · intro e hxs
    rw [compose_eq_error_iff] at hxs ⊢
    simp only [hxs] at hjoin
    exact hjoin
  · intro before e hbefore hys
    obtain ⟨body, hbody, -⟩ := compose_eq_ok_iff.mp hbefore
    rw [compose_eq_error_iff] at hys ⊢
    simp only [hbody, hys] at hjoin
    exact hjoin
  · intro ds e
    exact compose_eq_error_iff.trans joinFrom_eq_error_iff

/-- A renderer of imports and of empty shapes, and of nothing else. -/
def plainRenderer : Renderer where
  extension := "ts"
  templates :=
    [("import.ts", [.text "import '", .value (.path ["decl", "module"]), .text "';\n"]),
      ("type_alias.ts", [.text "type ", .value (.path ["decl", "name"]), .text " = \x7b\x7d;\n\n"])]

theorem compose_plainRenderer :
    (∃ body, "import 'a';\n" = body ++ "\n" ∧
      plainRenderer.render ⟨⟨"x.ts"⟩, [.imports ⟨"a", none, []⟩] ++
        [.imports ⟨"b", none, []⟩, .typeAlias ⟨"T", false, [], []⟩]⟩ =
          .ok (body ++ "\n" ++ "import 'b';\n\ntype T = \x7b\x7d;\n")) ∧
    plainRenderer.render ⟨⟨"x.ts"⟩, [.imports ⟨"a", none, []⟩] ++
      [.typeAlias ⟨"T", false, [], []⟩, .classDecl ⟨"C", true, []⟩,
        .interface ⟨"I", true, [], []⟩]⟩ =
        .error (.missingTemplate "class.ts") := by
  have hfirst : [Declaration.imports ⟨"a", none, []⟩] ≠ [] := nofun
  constructor
  · have hsecond : [Declaration.imports ⟨"b", none, []⟩, .typeAlias ⟨"T", false, [], []⟩] ≠ [] :=
      nofun
    obtain ⟨hsuccess, -⟩ := compose_append plainRenderer.renderDeclaration ⟨"x.ts"⟩ hfirst hsecond
    exact hsuccess _ _ (by decide +kernel) (by decide +kernel)
  · have hsecond : [Declaration.typeAlias ⟨"T", false, [], []⟩, .classDecl ⟨"C", true, []⟩,
        .interface ⟨"I", true, [], []⟩] ≠ [] := nofun
    obtain ⟨-, -, hfailure, -⟩ :=
      compose_append plainRenderer.renderDeclaration ⟨"x.ts"⟩ hfirst hsecond
    exact hfailure "import 'a';\n" _ (by decide +kernel) (by decide +kernel)

end Scaffold.Source.Renderer
