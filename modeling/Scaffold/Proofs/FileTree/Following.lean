import Mathlib.Data.List.Induction
import Mathlib.Data.List.TakeWhile
import Scaffold.Proofs.FileTree.Extension
import Scaffold.Proofs.FileTree.Spelling

/-! Following a path: it goes from directory to directory, so that its end does not change as long
as these are there. A path without two dots goes down only. -/
namespace Scaffold.FileTree

variable {t t' : FileTree} {l r : Location} {p : Path} {name : String} {slash : Bool}

theorem step_cases {part : List Char} (h : t.step l part = .ok r) :
    t.isDirectoryAt l ∧ ((Path.isIdle part ∧ r = l) ∨ (part = ['.', '.'] ∧ r = l.tail) ∨
      (Path.isIdle part = false ∧ part ≠ ['.', '.'] ∧
        (String.ofList part).utf8ByteSize ≤ nameLimit ∧ r = String.ofList part :: l ∧
        (t.find? r).isSome)) := by
  unfold step at h
  split at h
  · cases h
  next hd =>
  refine ⟨by simpa using hd, ?_⟩
  split at h
  · next hi => exact .inl ⟨hi, (Except.ok.inj h).symm⟩
  next hi =>
  split at h
  · next hp => exact .inr (.inl ⟨hp, (Except.ok.inj h).symm⟩)
  next hp =>
  dsimp only at h
  split at h
  · cases h
  next hn =>
  split at h
  · next hs =>
    obtain rfl := Except.ok.inj h
    exact .inr (.inr ⟨by simpa using hi, hp, by omega, rfl, hs⟩)
  · cases h

theorem step_of_idle {part : List Char} (hi : Path.isIdle part) (hd : t.isDirectoryAt l) :
    t.step l part = .ok l := by
  simp [step, hi, hd]

theorem step_of_isName (hn : IsName name) (hd : t.isDirectoryAt l)
    (hs : (t.find? (name :: l)).isSome) : t.step l name.toList = .ok (name :: l) := by
  have hfits := hn.fits
  simp [step, hd, hn.not_idle, hn.ne_parent, hs, Nat.not_lt.mpr hfits]

/-- A name that is missing from a directory is found in a tree in which something lies under it. -/
theorem step_of_notFound {part : List Char} (h : t.step l part = .error .notFound) :
    t.find? (String.ofList part :: l) = none ∧ ∀ t' : FileTree, t'.isDirectoryAt l →
      t'.step l part = if (t'.find? (String.ofList part :: l)).isSome
        then .ok (String.ofList part :: l) else .error .notFound := by
  unfold step at h
  split at h
  · cases h
  split at h
  · cases h
  next hi =>
  split at h
  · cases h
  next hp =>
  dsimp only at h
  split at h
  · cases h
  next hn =>
  split at h
  · cases h
  next hs =>
  refine ⟨by simpa using hs, fun t' hd => ?_⟩
  simp [step, hd, hi, hp, hn]

theorem walk_cons_eq_ok {part : List Char} {rest : List (List Char)} :
    t.walk l (part :: rest) = .ok r ↔
      ∃ next, t.step l part = .ok next ∧ t.walk next rest = .ok r := by
  rw [walk]
  cases t.step l part with
  | error e => simp
  | ok next => simp

theorem walk_append_eq_ok {xs ys : List (List Char)} :
    t.walk l (xs ++ ys) = .ok r ↔ ∃ m, t.walk l xs = .ok m ∧ t.walk m ys = .ok r := by
  induction xs generalizing l with
  | nil => simp [walk]
  | cons part rest ih =>
    simp only [List.cons_append, walk_cons_eq_ok, ih]
    constructor
    · rintro ⟨next, hs, m, hm, hr⟩
      exact ⟨m, ⟨next, hs, hm⟩, hr⟩
    · rintro ⟨m, ⟨next, hs, hm⟩, hr⟩
      exact ⟨next, hs, m, hm, hr⟩

theorem walk_append_of_ok {xs ys : List (List Char)} {m : Location} (h : t.walk l xs = .ok m) :
    t.walk l (xs ++ ys) = t.walk m ys := by
  induction xs generalizing l with
  | nil => rw [List.nil_append, ← Except.ok.inj h]
  | cons part rest ih =>
    obtain ⟨next, hs, hw⟩ := walk_cons_eq_ok.mp h
    rw [List.cons_append, walk, hs]
    exact ih hw

theorem walk_of_idle {parts : List (List Char)} (hi : ∀ part ∈ parts, Path.isIdle part)
    (hd : parts ≠ [] → t.isDirectoryAt l) : t.walk l parts = .ok l := by
  induction parts with
  | nil => rfl
  | cons part rest ih =>
    obtain ⟨hp, hr⟩ := List.forall_mem_cons.mp hi
    have hl := hd (List.cons_ne_nil _ _)
    exact walk_cons_eq_ok.mpr ⟨l, step_of_idle hp hl, ih hr fun _ => hl⟩

theorem walk_of_filter {parts : List (List Char)}
    (h : t.walk l (parts.filter (!Path.isIdle ·)) = .ok r) (hr : t.isDirectoryAt r) :
    t.walk l parts = .ok r := by
  induction parts generalizing l with
  | nil => exact h
  | cons part rest ih =>
    by_cases hi : Path.isIdle part
    · simp only [List.filter_cons, hi, Bool.not_true, Bool.false_eq_true, if_false] at h
      have hl : t.isDirectoryAt l := by
        cases hf : rest.filter (!Path.isIdle ·) with
        | nil =>
          rw [hf] at h
          exact Except.ok.inj h ▸ hr
        | cons next others =>
          rw [hf] at h
          obtain ⟨_, hs, _⟩ := walk_cons_eq_ok.mp h
          exact (step_cases hs).1
      exact walk_cons_eq_ok.mpr ⟨l, step_of_idle hi hl, ih h⟩
    · simp only [List.filter_cons, hi, Bool.not_false, if_true] at h
      obtain ⟨next, hs, hw⟩ := walk_cons_eq_ok.mp h
      exact walk_cons_eq_ok.mpr ⟨next, hs, ih hw⟩

/-- The directories of one tree are directories of another, and relative paths start at the same
place. -/
structure DirectoriesIn (t t' : FileTree) : Prop where
  current : t'.current = t.current
  isDirectoryAt : ∀ l, t.isDirectoryAt l → t'.isDirectoryAt l

namespace DirectoriesIn

theorem refl (t : FileTree) : t.DirectoriesIn t := ⟨rfl, fun _ h => h⟩

theorem trans {t'' : FileTree} (h : t.DirectoriesIn t') (h' : t'.DirectoriesIn t'') :
    t.DirectoriesIn t'' :=
  ⟨h'.current.trans h.current, fun l hl => h'.isDirectoryAt l (h.isDirectoryAt l hl)⟩

theorem extend (t : FileTree) (more : List (Location × Entry)) :
    t.DirectoriesIn (t.extend more) :=
  ⟨rfl, fun _ h => isDirectoryAt_iff.mpr (find?_extend_of_some (isDirectoryAt_iff.mp h) more)⟩

variable (h : t.DirectoriesIn t')
include h

theorem startOf (p : Path) : t'.startOf p = t.startOf p := by
  unfold FileTree.startOf
  rw [h.current]

theorem walk {parts : List (List Char)} (hw : t.walk l parts = .ok r)
    (hr : (t'.find? r).isSome) : t'.walk l parts = .ok r := by
  induction parts generalizing l with
  | nil => exact hw
  | cons part rest ih =>
    obtain ⟨next, hs, hw⟩ := walk_cons_eq_ok.mp hw
    have hnext : (t'.find? next).isSome := by
      cases rest with
      | nil => exact Except.ok.inj hw ▸ hr
      | cons other rest =>
        obtain ⟨_, hn, _⟩ := walk_cons_eq_ok.mp hw
        have hd := h.isDirectoryAt next (step_cases hn).1
        rw [isDirectoryAt_iff.mp hd]
        rfl
    refine walk_cons_eq_ok.mpr ⟨next, ?_, ih hw⟩
    obtain ⟨hd, ⟨hi, rfl⟩ | ⟨rfl, rfl⟩ | ⟨hi, hp, hn, rfl, -⟩⟩ := step_cases hs
    · exact step_of_idle hi (h.isDirectoryAt _ hd)
    · simp [step, h.isDirectoryAt _ hd, Path.isIdle]
    · simp [step, h.isDirectoryAt _ hd, hi, hp, Nat.not_lt.mpr hn, hnext]

theorem resolve (hp : t.resolve p = .ok l) (hl : (t'.find? l).isSome) : t'.resolve p = .ok l := by
  unfold FileTree.resolve at hp ⊢
  rw [h.startOf]
  cases hc : checkText p with
  | error e => rw [hc] at hp; cases hp
  | ok _ =>
    rw [hc] at hp
    exact h.walk hp hl

theorem isDirectory (hp : t.isDirectory p) : t'.isDirectory p := by
  unfold FileTree.isDirectory at hp ⊢
  cases hr : t.resolve p with
  | error e => rw [hr] at hp; cases hp
  | ok l =>
    rw [hr] at hp
    have hd := h.isDirectoryAt l hp
    rw [h.resolve hr (by rw [isDirectoryAt_iff.mp hd]; rfl)]
    exact hd

theorem slot {s : Slot} (hs : t.slot p = .ok s) : t'.slot p = .ok s := by
  unfold FileTree.slot at hs ⊢
  rw [h.startOf]
  cases hc : checkText p with
  | error e => rw [hc] at hs; cases hs
  | ok _ =>
    rw [hc] at hs
    dsimp only at hs ⊢
    split at hs
    · exact hs
    next last before _ =>
    cases hw : t.walk (t.startOf p) before.reverse with
    | error e => rw [hw] at hs; cases hs
    | ok l =>
      rw [hw] at hs
      dsimp only at hs
      cases hd : t.isDirectoryAt l with
      | false => simp [hd] at hs
      | true =>
        have hl := h.isDirectoryAt l hd
        rw [h.walk hw (by rw [isDirectoryAt_iff.mp hl]; rfl)]
        simpa only [hd, hl] using hs

end DirectoriesIn

theorem checkText_of_resolve (h : t.resolve p = .ok l) : checkText p = .ok () := by
  unfold resolve at h
  split at h
  · cases h
  · next hc => exact hc

theorem checkText_of_isEmpty (hn : '\x00' ∉ p.text.toList) (h : p.isEmpty = false) :
    checkText p = if pathLimit < p.text.utf8ByteSize then .error .nameTooLong else .ok () := by
  rw [checkText, if_neg hn, if_neg (by simp [h])]

/-- The text of a path is accepted just when there is one, without a NUL, and it is not too long. -/
theorem checkText_eq_ok_iff : checkText p = .ok () ↔
    '\x00' ∉ p.text.toList ∧ p.isEmpty = false ∧ p.text.utf8ByteSize ≤ pathLimit := by
  constructor
  · intro h
    unfold checkText at h
    split at h
    · cases h
    next hn =>
    split at h
    · cases h
    next he =>
    split at h
    · cases h
    next hfits => exact ⟨hn, by simpa using he, Nat.not_lt.mp hfits⟩
  · rintro ⟨hn, he, hfits⟩
    rw [checkText_of_isEmpty hn he, if_neg (Nat.not_lt.mpr hfits)]

theorem isEmpty_of_checkText (h : checkText p = .ok ()) : p.isEmpty = false :=
  (checkText_eq_ok_iff.mp h).2.1

theorem checkText_of_sublist {q : Path} (hq : q.text.toList.Sublist p.text.toList)
    (he : q.isEmpty = false) (hp : checkText p = .ok ()) : checkText q = .ok () := by
  obtain ⟨hn, -, hfits⟩ := checkText_eq_ok_iff.mp hp
  have hl := String.utf8Len_le_of_sublist hq
  rw [String.utf8Len_toList, String.utf8Len_toList] at hl
  exact checkText_eq_ok_iff.mpr ⟨fun hm => hn (hq.subset hm), he, hl.trans hfits⟩

theorem walk_of_resolve (h : t.resolve p = .ok l) :
    t.walk (t.startOf p) (p.text.toList.splitOn '/') = .ok l := by
  unfold resolve at h
  split at h
  · cases h
  · exact h

theorem resolve_of_walk (hc : checkText p = .ok ())
    (h : t.walk (t.startOf p) (p.text.toList.splitOn '/') = .ok l) : t.resolve p = .ok l := by
  unfold resolve
  rw [hc]
  exact h

/-- What a walk from a place in the tree leads to lies in the tree. -/
theorem WellFormed.find?_isSome_of_walk (ht : t.WellFormed) {parts : List (List Char)}
    (hl : (t.find? l).isSome) (h : t.walk l parts = .ok r) : (t.find? r).isSome := by
  have isSome_of_isDirectoryAt {l : Location} (hd : t.isDirectoryAt l) : (t.find? l).isSome := by
    rw [isDirectoryAt_iff.mp hd]
    rfl
  induction parts generalizing l with
  | nil => exact Except.ok.inj h ▸ hl
  | cons part rest ih =>
    obtain ⟨next, hs, hw⟩ := walk_cons_eq_ok.mp h
    refine ih ?_ hw
    obtain ⟨hd, ⟨-, rfl⟩ | ⟨-, rfl⟩ | ⟨-, -, -, -, hsome⟩⟩ := step_cases hs
    · exact hl
    · exact isSome_of_isDirectoryAt (ht.isDirectoryAt_tail hl)
    · exact hsome

theorem WellFormed.find?_isSome_of_startOf (ht : t.WellFormed) (p : Path) :
    (t.find? (t.startOf p)).isSome := by
  unfold startOf
  split
  · rfl
  · rw [ht.current]
    rfl

theorem WellFormed.find?_isSome_of_resolve (ht : t.WellFormed) (h : t.resolve p = .ok l) :
    (t.find? l).isSome :=
  ht.find?_isSome_of_walk (ht.find?_isSome_of_startOf p) (walk_of_resolve h)

theorem readText_of_resolve_error {e : FileError} (h : t.resolve p = .error e) :
    t.readText p = .error e := by
  rw [readText, read, h]

theorem exists_resolve_of_readText {text : String} (h : t.readText p = .ok text) :
    ∃ l, t.resolve p = .ok l := by
  obtain ⟨l, -, hr, -⟩ := readText_eq_ok_iff.mp h
  exact ⟨l, hr⟩

theorem readText_of_resolve {text : String} (h : t.resolve p = .ok l)
    (hf : t.find? l = some (.file text.toUTF8)) : t.readText p = .ok text := by
  have htext : String.fromUTF8? text.toUTF8 = some text := dif_pos text.isValidUTF8
  exact readText_eq_ok_iff.mpr ⟨l, _, h, hf, htext⟩

theorem WellFormed.resolve_of_readText (ht : t.WellFormed)
    (h : t.readText p = .error .notFound) : t.resolve p = .error .notFound := by
  cases hr : t.resolve p with
  | error e =>
    rw [readText_of_resolve_error hr] at h
    rw [Except.error.inj h]
  | ok l =>
    obtain ⟨e, he⟩ := Option.isSome_iff_exists.mp (ht.find?_isSome_of_resolve hr)
    simp only [readText, read, hr, he] at h
    cases e with
    | directory => cases h
    | file content => cases hc : String.fromUTF8? content <;> simp [hc] at h

theorem place?_eq_some : t.place? p = some l ↔ t.walk (t.startOf p) p.steps = .ok l := by
  unfold place?
  cases t.walk (t.startOf p) p.steps <;> simp [Except.toOption]

/-- The names in a tree have no NUL, nor do the parts of a walk in it. -/
theorem WellFormed.nul_not_mem_of_walk (ht : t.WellFormed) {parts : List (List Char)}
    (h : t.walk l parts = .ok r) : ∀ part ∈ parts, '\x00' ∉ part := by
  induction parts generalizing l with
  | nil => exact List.forall_mem_nil _
  | cons part rest ih =>
    obtain ⟨next, hs, hw⟩ := walk_cons_eq_ok.mp h
    refine List.forall_mem_cons.mpr ⟨?_, ih hw⟩
    obtain ⟨-, ⟨hi, -⟩ | ⟨rfl, -⟩ | ⟨-, -, -, rfl, hsome⟩⟩ := step_cases hs
    · rcases Path.isIdle_iff.mp hi with rfl | rfl <;> decide
    · decide
    · obtain ⟨e, he⟩ := Option.isSome_iff_exists.mp hsome
      have hm := mem_of_find? he (List.cons_ne_nil _ _)
      simpa using (ht.names _ (List.mem_map_of_mem hm) _ List.mem_cons_self).no_nul

theorem WellFormed.nul_not_mem_of_place? (ht : t.WellFormed) (h : t.place? p = some l) :
    '\x00' ∉ p.text.toList :=
  Path.nul_not_mem_iff.mpr (ht.nul_not_mem_of_walk (place?_eq_some.mp h))

theorem resolve_of_place? (hc : checkText p = .ok ()) (h : t.place? p = some l)
    (hd : t.isDirectoryAt l) : t.resolve p = .ok l := by
  refine resolve_of_walk hc (walk_of_filter ?_ hd)
  rw [p.filter_splitOn]
  exact place?_eq_some.mp h

theorem resolve_of_last {front : List (List Char)} {last : List Char} (hc : checkText p = .ok ())
    (hs : p.text.toList.splitOn '/' = front ++ [last]) (hi : Path.isIdle last = false)
    (h : t.place? p = some l) : t.resolve p = .ok l := by
  have hw := place?_eq_some.mp h
  rw [← p.filter_splitOn, hs, List.filter_append, walk_append_eq_ok] at hw
  obtain ⟨m, hm, hlast⟩ := hw
  rw [List.filter_singleton, hi] at hlast
  obtain ⟨next, hstep, -⟩ := walk_cons_eq_ok.mp hlast
  have hfront := walk_of_filter hm (step_cases hstep).1
  exact resolve_of_walk hc (hs ▸ walk_append_eq_ok.mpr ⟨m, hfront, hlast⟩)

theorem isDirectoryAt_startOf (h : t.resolve p = .ok l) : t.isDirectoryAt (t.startOf p) := by
  have hw := walk_of_resolve h
  cases hs : p.text.toList.splitOn '/' with
  | nil => exact absurd hs (List.splitOn_ne_nil _ _)
  | cons part rest =>
    rw [hs] at hw
    obtain ⟨next, hstep, -⟩ := walk_cons_eq_ok.mp hw
    exact (step_cases hstep).1

theorem readText_of_text? {text : String} (hr : t.resolve p = .ok l) (h : t.text? p = some text) :
    t.readText p = .ok text := by
  obtain ⟨-, place, content, hp, hf, hc⟩ := text?_eq_some_iff.mp h
  obtain rfl := Option.some.inj ((place?_of_resolve hr).symm.trans hp)
  exact readText_eq_ok_iff.mpr ⟨l, content, hr, hf, hc⟩

/-- The last part of a path that is not empty, with what stands before and behind it. -/
private theorem splitOn_of_dropWhile {parts before : List (List Char)} {last : List Char}
    (h : parts.reverse.dropWhile (· = []) = last :: before) :
    ∃ blanks, parts = before.reverse ++ last :: blanks ∧ (∀ blank ∈ blanks, blank = []) ∧
      last ≠ [] ∧ (parts.reverse.head? = some [] ↔ blanks ≠ []) := by
  have hlast : last ≠ [] := by
    have hne : parts.reverse.dropWhile (fun part => decide (part = [])) ≠ [] := by simp [h]
    have hhead := List.head_dropWhile_not (fun part => decide (part = [])) hne
    simpa [h] using hhead
  have hsplit := List.takeWhile_append_dropWhile (p := fun part : List Char => decide (part = []))
    (l := parts.reverse)
  rw [h] at hsplit
  have hblank : ∀ blank ∈ parts.reverse.takeWhile (fun part => decide (part = [])), blank = [] :=
    fun blank hb => by simpa using List.mem_takeWhile_imp hb
  generalize parts.reverse.takeWhile (fun part => decide (part = [])) = blanks at hsplit hblank
  refine ⟨blanks.reverse, ?_, fun blank hb => hblank blank (List.mem_reverse.mp hb), hlast, ?_⟩
  · rw [← List.reverse_reverse parts, ← hsplit]
    simp
  · rw [← hsplit]
    cases blanks with
    | nil => simp [hlast]
    | cons blank rest => simp [hblank blank List.mem_cons_self]

/-- What a name at the end of a path says of the path: the parts before it lead to a directory. -/
structure EndsIn (t : FileTree) (p : Path) (l : Location) (name : String) (slash : Bool) :
    Prop where
  checked : checkText p = .ok ()
  isName : IsName name
  isDirectoryAt : t.isDirectoryAt l
  split : ∃ front blanks, p.text.toList.splitOn '/' = front ++ name.toList :: blanks ∧
    t.walk (t.startOf p) front = .ok l ∧ (∀ blank ∈ blanks, blank = []) ∧
    (slash = true ↔ blanks ≠ [])

theorem endsIn_of_slot (h : t.slot p = .ok (.named l name slash)) : t.EndsIn p l name slash := by
  unfold slot at h
  cases hc : checkText p with
  | error e => rw [hc] at h; cases h
  | ok _ =>
    rw [hc] at h
    dsimp only at h
    split at h
    · cases h
    next last before hdrop =>
    obtain ⟨blanks, hparts, hblank, hlast, hhead⟩ := splitOn_of_dropWhile hdrop
    split at h
    · cases h
    next found hw =>
    split at h
    · cases h
    next hd =>
    split at h
    · cases h
    next hdots =>
    split at h
    · cases h
    next hfits =>
    obtain ⟨rfl, rfl, rfl⟩ := Slot.named.inj (Except.ok.inj h)
    obtain ⟨hdot, hparent⟩ : last ≠ ['.'] ∧ last ≠ ['.', '.'] := by simpa using hdots
    have hmem : last ∈ p.text.toList.splitOn '/' := by
      rw [hparts]
      simp
    have hnul : '\x00' ∉ last := fun hm =>
      (checkText_eq_ok_iff.mp hc).1 ((Text.mem_iff_exists_splitOn (by decide)).mpr ⟨last, hmem, hm⟩)
    refine ⟨hc, ⟨?_, ?_, ?_, ?_, by omega⟩, by simpa using hd, before.reverse, blanks, ?_, hw,
      hblank, ?_⟩
    · simp [Path.isIdle, hlast, hdot]
    · simpa using hparent
    · simpa using Text.not_mem_of_mem_splitOn hmem
    · simpa using hnul
    · simpa using hparts
    · simpa using hhead

namespace EndsIn

variable (h : t.EndsIn p l name slash)
include h

theorem mem_splitOn : name.toList ∈ p.text.toList.splitOn '/' := by
  obtain ⟨front, blanks, hs, -⟩ := h.split
  rw [hs]
  simp

theorem mem_steps : name.toList ∈ p.steps := by
  rw [← p.filter_splitOn]
  exact List.mem_filter.mpr ⟨h.mem_splitOn, by simp [h.isName.not_idle]⟩

theorem resolve (hs : (t.find? (name :: l)).isSome)
    (hd : slash = true → t.isDirectoryAt (name :: l)) : t.resolve p = .ok (name :: l) := by
  obtain ⟨front, blanks, hp, hw, hb, hslash⟩ := h.split
  refine resolve_of_walk h.checked ?_
  rw [hp]
  refine walk_append_eq_ok.mpr ⟨l, hw, walk_cons_eq_ok.mpr ⟨name :: l, ?_, ?_⟩⟩
  · exact step_of_isName h.isName h.isDirectoryAt hs
  · exact walk_of_idle (fun part hm => by rw [hb part hm]; rfl) fun hne => hd (hslash.mpr hne)

theorem find?_isSome (hr : t.resolve p = .ok r) : r = name :: l ∧ (t.find? (name :: l)).isSome := by
  obtain ⟨front, blanks, hp, hw, hb, -⟩ := h.split
  have hwalk := walk_of_resolve hr
  rw [hp] at hwalk
  obtain ⟨m, hm, hrest⟩ := walk_append_eq_ok.mp hwalk
  obtain rfl := Except.ok.inj (hw.symm.trans hm)
  obtain ⟨next, hs, hblank⟩ := walk_cons_eq_ok.mp hrest
  obtain ⟨-, ⟨hi, -⟩ | ⟨hdots, -⟩ | ⟨-, -, -, rfl, hsome⟩⟩ := step_cases hs
  · rw [h.isName.not_idle] at hi
    cases hi
  · exact absurd hdots h.isName.ne_parent
  · rw [String.ofList_toList] at hsome hblank
    refine ⟨?_, hsome⟩
    clear hp hwalk hrest hs
    induction blanks with
    | nil => exact (Except.ok.inj hblank).symm
    | cons blank rest ih =>
      obtain ⟨hblank', hrest⟩ := List.forall_mem_cons.mp hb
      obtain ⟨next, hs, hw⟩ := walk_cons_eq_ok.mp hblank
      subst hblank'
      obtain ⟨-, ⟨-, rfl⟩ | ⟨hdots, -⟩ | ⟨hi, -⟩⟩ := step_cases hs
      · exact ih hrest hw
      · cases hdots
      · cases hi

end EndsIn

/-- What a path leads to is an end of the path that can be named, or a directory by way of dots. -/
theorem slot_of_resolve (h : t.resolve p = .ok l) :
    t.slot p = .ok .fixed ∨
      ∃ d name slash, t.slot p = .ok (.named d name slash) ∧ (t.find? (name :: d)).isSome := by
  have hwalk := walk_of_resolve h
  unfold slot
  rw [checkText_of_resolve h]
  dsimp only
  split
  · exact .inl rfl
  next last before hdrop =>
  obtain ⟨blanks, hparts, hblank, hlast, -⟩ := splitOn_of_dropWhile hdrop
  rw [hparts] at hwalk
  obtain ⟨d, hd, hrest⟩ := walk_append_eq_ok.mp hwalk
  obtain ⟨next, hs, -⟩ := walk_cons_eq_ok.mp hrest
  rw [hd]
  dsimp only
  obtain ⟨hdir, ⟨hi, -⟩ | ⟨rfl, -⟩ | ⟨hi, hp, hn, rfl, hsome⟩⟩ := step_cases hs
  · have hdot : last = ['.'] := by simpa [Path.isIdle, hlast] using hi
    simp [hdir, hdot]
  · simp [hdir]
  · have hdot : last ≠ ['.'] := by
      rintro rfl
      cases hi
    right
    refine ⟨d, String.ofList last,
      decide ((p.text.toList.splitOn '/').reverse.head? = some []), ?_, hsome⟩
    simp only [hdir, Bool.not_true, Bool.false_eq_true, if_false, hdot, hp, decide_false,
      Bool.or_false, Nat.not_lt.mpr hn]

theorem eq_of_walk {parts : List (List Char)} (hp : ['.', '.'] ∉ parts)
    (h : t.walk l parts = .ok r) :
    r = ((parts.filter (!Path.isIdle ·)).map String.ofList).reverse ++ l := by
  induction parts generalizing l with
  | nil => exact (Except.ok.inj h).symm
  | cons part rest ih =>
    obtain ⟨hpart, hrest⟩ := not_or.mp (List.mem_cons.not.mp hp)
    obtain ⟨next, hs, hw⟩ := walk_cons_eq_ok.mp h
    rw [ih hrest hw]
    obtain ⟨-, ⟨hi, rfl⟩ | ⟨hdots, -⟩ | ⟨hi, -, -, rfl, -⟩⟩ := step_cases hs
    · simp [hi]
    · exact absurd hdots.symm hpart
    · simp [hi]

/-- The names that a walk ends with, above a place that is no higher than its start, stand in its
parts in order. -/
theorem sublist_of_walk {parts : List (List Char)} {names : List String}
    (h : t.walk l parts = .ok (names ++ r)) (hl : l.length ≤ r.length) :
    (names.reverse.map String.toList).Sublist parts := by
  induction parts using List.reverseRecOn generalizing names with
  | nil =>
    have hlen := congrArg List.length (Except.ok.inj h)
    rw [List.length_append] at hlen
    obtain rfl : names = [] := List.length_eq_zero_iff.mp (by omega)
    exact List.nil_sublist _
  | append_singleton front part ih =>
    obtain ⟨m, hm, hlast⟩ := walk_append_eq_ok.mp h
    obtain ⟨next, hs, hnil⟩ := walk_cons_eq_ok.mp hlast
    obtain rfl := Except.ok.inj hnil
    obtain ⟨-, ⟨-, rfl⟩ | ⟨-, hup⟩ | ⟨-, -, -, hdown, -⟩⟩ := step_cases hs
    · exact (ih hm).trans (List.sublist_append_left _ _)
    · cases m with
      | nil =>
        obtain rfl := (List.append_eq_nil_iff.mp hup).1
        exact List.nil_sublist _
      | cons first rest =>
        obtain rfl : names ++ r = rest := hup
        have hfront := ih (show t.walk l front = .ok ((first :: names) ++ r) from hm)
        rw [List.reverse_cons, List.map_append] at hfront
        exact ((List.sublist_append_left _ _).trans hfront).trans (List.sublist_append_left _ _)
    · cases names with
      | nil => exact List.nil_sublist _
      | cons name rest =>
        obtain ⟨rfl, hrest⟩ := List.cons.inj hdown
        have hfront := ih (hrest ▸ hm)
        rw [List.reverse_cons, List.map_append]
        exact hfront.append (by simp)

/-- A path without two dots leads to the same place in a tree that has the same on the way. -/
theorem walk_of_agree {parts : List (List Char)} (hp : ['.', '.'] ∉ parts)
    (h : t.walk l parts = .ok r) (ha : ∀ m, m <:+ r → t'.find? m = t.find? m) :
    t'.walk l parts = .ok r := by
  induction parts generalizing l with
  | nil => exact h
  | cons part rest ih =>
    have hl : l <:+ r := ⟨_, (eq_of_walk hp h).symm⟩
    obtain ⟨hpart, hrest⟩ := not_or.mp (List.mem_cons.not.mp hp)
    obtain ⟨next, hs, hw⟩ := walk_cons_eq_ok.mp h
    have hnext : next <:+ r := ⟨_, (eq_of_walk hrest hw).symm⟩
    refine walk_cons_eq_ok.mpr ⟨next, ?_, ih hrest hw⟩
    obtain ⟨hd, ⟨hi, rfl⟩ | ⟨hdots, -⟩ | ⟨hi, hdots, hn, rfl, hsome⟩⟩ := step_cases hs
    · exact step_of_idle hi (by rwa [isDirectoryAt, ha _ hl])
    · exact absurd hdots.symm hpart
    · have hd' : t'.isDirectoryAt l := by rwa [isDirectoryAt, ha _ hl]
      have hsome' := ha _ hnext ▸ hsome
      simp [step, hd', hi, hdots, Nat.not_lt.mpr hn, hsome']

end Scaffold.FileTree
