import Scaffold.Proofs.Except
import Scaffold.Source.Renderer

/-! What templates come to. When every value that a piece names is there, the piece has a text, and
the texts of pieces, of loops and of declarations are put together as they stand. -/
namespace Scaffold.Source

variable {scope : Scope} {piece : Piece} {pieces rest yes no body : List Piece} {operand : Operand}
  {text more : String} {α : Type}

theorem renderPieces_cons (h : piece.render scope = .ok text) :
    renderPieces scope (piece :: rest) = (renderPieces scope rest).map (text ++ ·) := by
  rw [renderPieces, h]
  rfl

theorem renderPieces_text (text : String) :
    renderPieces scope (.text text :: rest) = (renderPieces scope rest).map (text ++ ·) :=
  renderPieces_cons rfl

theorem renderPieces_nil : renderPieces scope [] = .ok "" := rfl

theorem map_append_ok : (Except.ok more : Except TemplateFault String).map (text ++ ·) =
    .ok (text ++ more) := rfl

theorem renderPieces_append (h : renderPieces scope pieces = .ok text) :
    renderPieces scope (pieces ++ rest) = (renderPieces scope rest).map (text ++ ·) := by
  induction pieces generalizing text with
  | nil =>
    obtain rfl : "" = text := Except.ok.inj h
    rw [List.nil_append]
    cases renderPieces scope rest <;> simp [Except.map]
  | cons piece pieces ih =>
    rw [renderPieces] at h
    obtain ⟨first, hfirst, h⟩ := Except.exists_of_bind_eq_ok h
    obtain ⟨others, hothers, h⟩ := Except.exists_of_bind_eq_ok h
    obtain rfl : first ++ others = text := Except.ok.inj h
    rw [List.cons_append, renderPieces_cons hfirst, ih hothers]
    cases renderPieces scope rest <;> simp [Except.map, String.append_assoc]

theorem render_value (h : scope.find? operand = some (.string text)) :
    (Piece.value operand).render scope = .ok text := by
  rw [Piece.render, lookUp, h]
  rfl

theorem displayItems_texts (texts : List String) : displayItems (texts.map .string) = texts := by
  induction texts with
  | nil => rfl
  | cons text texts ih => rw [List.map_cons, displayItems, ih, display]

theorem render_joined {texts : List String} (separator : String)
    (h : scope.find? operand = some (textArray texts)) :
    (Piece.joined operand separator).render scope = .ok (separator.intercalate texts) := by
  have hitems : lookUpItems scope operand = .ok (texts.map .string) := by
    rw [lookUpItems, lookUp, h]
    rfl
  rw [Piece.render, hitems]
  change Except.ok (separator.intercalate (displayItems (texts.map .string))) = _
  rw [displayItems_texts]

theorem render_choice_true {test : Test} (h : test.holds scope = true) :
    (Piece.choice test yes no).render scope = renderPieces scope yes := by
  rw [Piece.render, h]
  rfl

theorem render_choice_false {test : Test} (h : test.holds scope = false) :
    (Piece.choice test yes no).render scope = renderPieces scope no := by
  rw [Piece.render, h]
  rfl

theorem render_choice {test : Test} (holds : Bool) (ht : test.holds scope = holds)
    (hy : holds = true → renderPieces scope yes = .ok text)
    (hn : holds = false → renderPieces scope no = .ok more) :
    (Piece.choice test yes no).render scope = .ok (if holds then text else more) := by
  cases holds with
  | true => exact (render_choice_true ht).trans (hy rfl)
  | false => exact (render_choice_false ht).trans (hn rfl)

/-- The texts for the items of a list, one after the other; the flags tell the first and the last
item. -/
def flagged (text : α → Bool → Bool → String) (isFirst : Bool) : List α → String
  | [] => ""
  | item :: rest => text item isFirst rest.isEmpty ++ flagged text false rest

theorem render_each {toJson : α → Json} {items : List α} (name : String)
    (text : α → Bool → Bool → String)
    (h : scope.find? operand = some (.array (items.map toJson)))
    (hb : ∀ item isFirst isLast, renderPieces (scope.within name (toJson item) isFirst isLast)
      body = .ok (text item isFirst isLast)) :
    (Piece.each name operand body).render scope = .ok (flagged text true items) := by
  have hconcat : ∀ isFirst, concatItems (fun item isFirst isLast =>
      renderPieces (scope.within name item isFirst isLast) body) isFirst (items.map toJson) =
        .ok (flagged text isFirst items) := by
    clear h
    induction items with
    | nil => exact fun _ => rfl
    | cons item items ih =>
      intro isFirst
      rw [List.map_cons, concatItems, hb, ih, List.isEmpty_map]
      rfl
  have hitems : lookUpItems scope operand = .ok (items.map toJson) := by
    rw [lookUpItems, lookUp, h]
    rfl
  rw [Piece.render, hitems]
  exact hconcat true

theorem flagged_plain (text : α → String) (isFirst : Bool) (items : List α) :
    flagged (fun item _ _ => text item) isFirst items = String.join (items.map text) := by
  induction items generalizing isFirst with
  | nil => rfl
  | cons item items ih => simp [flagged, ih]

theorem flagged_separator_behind (text : α → String) (separator : String) (isFirst : Bool)
    (items : List α) :
    flagged (fun item _ isLast => text item ++ if isLast then "" else separator) isFirst items =
      separator.intercalate (items.map text) := by
  induction items generalizing isFirst with
  | nil => rfl
  | cons item items ih =>
    cases items with
    | nil => simp [flagged]
    | cons next items =>
      rw [flagged, ih]
      simp only [List.map_cons]
      rw [String.intercalate_cons_cons]
      rfl

theorem flagged_separator_before (text : α → String) (separator : String) (items : List α) :
    flagged (fun item isFirst _ => (if isFirst then "" else separator) ++ text item) true items =
      separator.intercalate (items.map text) := by
  cases items with
  | nil => rfl
  | cons item items =>
    have hrest : ∀ before : String, before ++
        flagged (fun item isFirst _ => (if isFirst then "" else separator) ++ text item) false
          items =
          separator.intercalate (before :: items.map text) := by
      induction items with
      | nil => simp [flagged]
      | cons next items ih =>
        intro before
        rw [flagged, List.map_cons, String.intercalate_cons_cons, ← ih]
        simp [String.append_assoc]
    rw [flagged, hrest, if_pos rfl, String.empty_append, List.map_cons]

/-- Texts of declarations without the blanks at their ends, with their separators. -/
def layOut (text : Declaration → String) (previous : Option Declaration) :
    List Declaration → String
  | [] => ""
  | d :: rest =>
    (previous.map (Renderer.separator · d)).getD "" ++
      String.ofList (Text.trimEnd (text d).toList) ++
      layOut text (some d) rest

theorem render_of_renderDeclaration {r : Renderer} {text : Declaration → String}
    (h : ∀ d, r.renderDeclaration d = .ok (text d)) (a : Artifact) :
    r.render a = .ok (layOut text none a.declarations ++ "\n") := by
  have hfrom : ∀ previous, Renderer.joinFrom r.renderDeclaration previous a.declarations =
      .ok (layOut text previous a.declarations) := by
    induction a.declarations with
    | nil => exact fun _ => rfl
    | cons d rest ih =>
      intro previous
      rw [Renderer.joinFrom, h, ih]
      rfl
  rw [Renderer.render, Renderer.compose, hfrom]
  rfl

end Scaffold.Source
