import Mathlib.Data.List.TakeWhile
import Mathlib.Order.WellFounded
import Scaffold.Proofs.Except
import Scaffold.Proofs.OpenApi.Expands
import Scaffold.Proofs.Path.Text

/-! Expansion without a memory of what is under way: every reference is followed. Where each chain
of references ends, that is what expansion comes to, unless two nodes of a chain share a key. The
key of a node is a text, and only a hash in the path of the document can make two keys alike. -/
namespace Scaffold.OpenApi

open Relation Expansion

/-- How a reference is unfolded: the value at the node that it designates is, in turn. At most
`depth` of them lie inside each other. -/
def unfoldReference (tree : FileTree) : (depth : Nat) → Follow
  | 0 => fun _ _ _ _ => none
  | depth + 1 => fun _ reference path library =>
    match designated path reference with
    | .error e => some (.error (.badFragment reference e), library)
    | .ok node =>
      visit tree node reference library (expandValue (unfoldReference tree depth) node.path)

/-- Unfold all references of the document at a path. -/
def unfold (tree : FileTree) (depth : Nat) (path : Path) (library : Library) : Expansion Json :=
  visit tree ⟨path, ""⟩ "" library (expandValue (unfoldReference tree depth) path)

/-- Every chain of references from a node ends. -/
def ChainsEnd (docs : Documents) (start : Node) : Prop :=
  ¬∃ chain : Nat → Node, chain 0 = start ∧ ∀ i, (chain i).Leads docs (chain (i + 1))

/-- No node that is reached from a node by references has the key of one that follows it. -/
def KeysApart (docs : Documents) (start : Node) : Prop :=
  ∀ n m, TransGen (Node.Leads docs) start n → TransGen (Node.Leads docs) n m → n.key ≠ m.key

variable {tree : FileTree} {docs : Documents} {start : Node}

theorem ChainsEnd.of_successors (h : ∀ next ∈ start.successors docs, ChainsEnd docs next) :
    ChainsEnd docs start := by
  rintro ⟨chain, rfl, hl⟩
  exact h (chain 1) (hl 0) ⟨fun i => chain (i + 1), rfl, fun i => hl (i + 1)⟩

private theorem acc_of_chainsEnd (h : ChainsEnd docs start) :
    Acc (fun m n : Node => n.Leads docs m) start := by
  by_contra hc
  exact h (not_acc_iff_exists_descending_chain.mp hc)

/-- What holds from some depth on for each of some nodes holds from one depth on for all. -/
private theorem exists_common {nodes : List Node} {Q : Node → Nat → Prop}
    (hm : ∀ node a b, a ≤ b → Q node a → Q node b) (h : ∀ node ∈ nodes, ∃ a, Q node a) :
    ∃ a, ∀ node ∈ nodes, Q node a := by
  induction nodes with
  | nil => exact ⟨0, nofun⟩
  | cons node rest ih =>
    obtain ⟨hn, hr⟩ := List.forall_mem_cons.mp h
    obtain ⟨a, ha⟩ := hn
    obtain ⟨b, hb⟩ := ih hr
    refine ⟨max a b, List.forall_mem_cons.mpr ⟨hm _ _ _ (le_max_left a b) ha, ?_⟩⟩
    exact fun other ho => hm _ _ _ (le_max_right a b) (hb other ho)

/-- From this depth on, the value of a node unfolds to one outcome. -/
private def UnfoldsFrom (tree : FileTree) (docs : Documents) (node : Node) (enough : Nat) : Prop :=
  ∀ value, node.value? docs = some value → ∀ library, documents tree library = docs →
    Settles False (documents tree · = docs) fun more : Nat =>
      expandValue (unfoldReference tree (enough + more)) node.path value library

private theorem UnfoldsFrom.mono {node : Node} {a b : Nat} (h : a ≤ b)
    (ha : UnfoldsFrom tree docs node a) : UnfoldsFrom tree docs node b := by
  intro value hv library hd
  obtain ⟨outcome, hall, hrest⟩ := ha value hv library hd
  refine ⟨outcome, fun more => ?_, hrest⟩
  have hb : b + more = a + (b - a + more) := by omega
  have ho := hall (b - a + more)
  dsimp only at ho ⊢
  rwa [hb]

private theorem exists_unfoldsFrom {node : Node}
    (h : Acc (fun m n : Node => n.Leads docs m) node) : ∃ a, UnfoldsFrom tree docs node a := by
  induction h with
  | intro node _ ih =>
    obtain ⟨a, ha⟩ := exists_common (Q := UnfoldsFrom tree docs) (fun _ _ _ => UnfoldsFrom.mono) ih
    refine ⟨a + 1, fun value hv library hd => ?_⟩
    refine settles_expandValue (fun reference hr holder library hd => ?_) hd
    simp only [Nat.add_right_comm a 1, unfoldReference]
    cases hn : designated node.path reference with
    | error e => exact .of_some hd
    | ok next => exact settles_visit (ha next (Node.leads_of_mem hv hr hn)) hd

private def either (tree : FileTree) (depth : Nat) (active : List String) : Bool → Follow
  | true => unfoldReference tree depth
  | false => expandReference tree depth active

/-- Where no node that is entered is being expanded, a reference is followed either way. -/
private theorem either_succ {active : List String} {path : Path} {reference : String}
    (h : ∀ node, designated path reference = .ok node → node.key ∉ active) (depth : Nat)
    (holder : Json) (library : Library) (b : Bool) :
    either tree (depth + 1) active b holder reference path library =
      match designated path reference with
      | .error e => some (.error (.badFragment reference e), library)
      | .ok node =>
        visit tree node reference library
          (expandValue (either tree depth (node.key :: active) b) node.path) := by
  cases b with
  | true => rfl
  | false =>
    simp only [either, expandReference_succ]
    cases hn : designated path reference with
    | error e => rfl
    | ok node => simp only [if_neg (h node hn)]

/-- Each key belongs to a node on a way from the start to a node. -/
def OnTheWay (docs : Documents) (start node : Node) (active : List String) : Prop :=
  ∀ key ∈ active, ∃ n, TransGen (Node.Leads docs) start n ∧
    ReflTransGen (Node.Leads docs) n node ∧ n.key = key

theorem OnTheWay.cons {node next : Node} {active : List String}
    (h : OnTheWay docs start node active) (hs : ReflTransGen (Node.Leads docs) start node)
    (hl : node.Leads docs next) : OnTheWay docs start next (next.key :: active) := by
  refine List.forall_mem_cons.mpr ⟨⟨next, .tail' hs hl, .refl, rfl⟩, fun key hk => ?_⟩
  obtain ⟨n, hn, hr, rfl⟩ := h key hk
  exact ⟨n, hn, hr.tail hl, rfl⟩

private theorem settles_either (hk : KeysApart docs start) (depth : Nat) {node : Node}
    {active : List String} (hs : ReflTransGen (Node.Leads docs) start node)
    (ha : OnTheWay docs start node active) {value : Json} (hv : node.value? docs = some value)
    {library : Library} (hd : documents tree library = docs) :
    Settles True (documents tree · = docs) fun b =>
      expandValue (either tree depth active b) node.path value library := by
  -- The chain from the start to the node tells where each active key comes from
  induction depth generalizing node active value library with
  | zero =>
    refine settles_expandValue (fun reference hr holder library hd => ?_) hd
    exact ⟨none, fun b => by cases b <;> rfl, fun _ => trivial, nofun⟩
  | succ depth ih =>
    refine settles_expandValue (fun reference hr holder library hd => ?_) hd
    -- A key that is active belongs to a node that leads on to this one.
    have hfree : ∀ next, designated node.path reference = .ok next → next.key ∉ active := by
      intro next hn hmem
      obtain ⟨n, hs, hr', hkey⟩ := ha next.key hmem
      exact hk n next hs (.tail' hr' (Node.leads_of_mem hv hr hn)) hkey
    simp only [either_succ hfree]
    cases hn : designated node.path reference with
    | error e => exact .of_some hd
    | ok next =>
      have hl := Node.leads_of_mem hv hr hn
      exact settles_visit (fun value hv library hd => ih (hs.tail hl) (ha.cons hs hl) hv hd) hd

private theorem dereference_eq_unfold {path : Path} {library : Library}
    (hk : KeysApart (documents tree library) ⟨path, ""⟩) (depth : Nat) :
    dereference tree depth path library = unfold tree depth path library := by
  have hs : ∀ value, Node.value? (documents tree library) ⟨path, ""⟩ = some value → ∀ after,
      documents tree after = documents tree library →
        Settles True (documents tree · = documents tree library) fun b =>
          expandValue (either tree depth [] b) path value after :=
    fun value hv after hd => settles_either hk depth .refl (List.forall_mem_nil _) hv hd
  obtain ⟨outcome, hall, -⟩ := settles_visit hs rfl
  rw [dereference_eq_visit]
  exact (hall false).trans (hall true).symm

/-- While some keys are being expanded, a node expands to a value without references. -/
private def Clears (docs : Documents) (active : List String) (node : Node) : Prop :=
  ∃ value result, node.value? docs = some value ∧
    Expands docs active node.path value result ∧ referencesIn result = []

private theorem Clears.step {active : List String} {n m : Node} (h : Clears docs active n)
    (hl : n.Leads docs m) : m.key ∉ active ∧ Clears docs (m.key :: active) m := by
  obtain ⟨value, result, hv, he, hc⟩ := h
  obtain ⟨target, reference, ht, hr, hm⟩ := Node.exists_of_leads hl
  obtain rfl := Option.some.inj (hv.symm.trans ht)
  obtain ⟨node, target, expanded, hn, ha, hw, hx, hy⟩ := he.exists_of_referencesIn_eq_nil hc hr
  obtain rfl := Except.ok.inj (hn.symm.trans hm)
  exact ⟨ha, target, expanded, hw, hx, hy⟩

private theorem Clears.run {active : List String} {n m : Node} (h : Clears docs active n)
    (hr : ReflTransGen (Node.Leads docs) n m) :
    ∃ more, active ⊆ more ∧ Clears docs more m := by
  induction hr with
  | refl => exact ⟨active, List.Subset.refl _, h⟩
  | tail _ hl ih =>
    obtain ⟨more, hs, hm⟩ := ih
    exact ⟨_, List.subset_cons_of_subset _ hs, (hm.step hl).2⟩

private theorem keysApart_of_clears (h : Clears docs [] start) : KeysApart docs start := by
  intro n m hn hm hkey
  obtain ⟨before, hb, hl⟩ := TransGen.tail'_iff.mp hn
  obtain ⟨active, -, hc⟩ := h.run hb
  obtain ⟨last, hr, hm⟩ := TransGen.tail'_iff.mp hm
  obtain ⟨more, hs, hc⟩ := (hc.step hl).2.run hr
  exact (hc.step hm).1 (hkey ▸ hs List.mem_cons_self)

theorem keysApart_of_dereference {path : Path} {library after : Library} {depth : Nat}
    {result : Json} (h : dereference tree depth path library = some (.ok result, after))
    (hc : referencesIn result = []) : KeysApart (documents tree library) ⟨path, ""⟩ := by
  obtain ⟨value, hv, he⟩ := expands_of_dereference rfl h
  refine keysApart_of_clears ⟨value, result, ?_, he, hc⟩
  rw [Node.value?, hv, Option.bind_some, Json.pointer?_empty]

private theorem hash_not_mem_file (reference : String) :
    '#' ∉ (splitReference reference).1.toList := by
  intro h
  simp only [splitReference, String.toList_ofList] at h
  simpa using List.mem_takeWhile_imp h

private theorem hash_not_mem_targetPath {path : Path} {file : String}
    (hp : '#' ∉ path.text.toList) (hf : '#' ∉ file.toList) :
    '#' ∉ (targetPath path file).text.toList := by
  unfold targetPath
  split
  · exact hp
  · split
    · next directory hd =>
      intro h
      rcases Path.mem_text_join h with h | h | h
      · exact hp ((Path.parent?_text_isPrefix hd).subset h)
      · exact absurd h (by decide)
      · exact hf h
    · exact hf

private theorem hash_not_mem_of_leads {n m : Node} (hl : n.Leads docs m)
    (h : '#' ∉ n.path.text.toList) : '#' ∉ m.path.text.toList := by
  obtain ⟨value, reference, -, -, hm⟩ := Node.exists_of_leads hl
  rw [path_of_designated hm]
  exact hash_not_mem_targetPath h (hash_not_mem_file reference)

theorem hash_not_mem_of_reaches {n m : Node} (hr : ReflTransGen (Node.Leads docs) n m)
    (h : '#' ∉ n.path.text.toList) : '#' ∉ m.path.text.toList := by
  induction hr with
  | refl => exact h
  | tail _ hl ih => exact hash_not_mem_of_leads hl ih

theorem eq_of_key_eq {n m : Node} (hn : '#' ∉ n.path.text.toList)
    (hm : '#' ∉ m.path.text.toList) (h : n.key = m.key) : n = m := by
  have hc := congrArg String.toList h
  simp only [Node.key, expansionKey, String.toList_append, List.append_assoc] at hc
  obtain ⟨hp, hq⟩ := Text.append_sep_inj hn hm hc
  have hpath : n.path = m.path := congrArg Path.mk (String.toList_inj.mp hp)
  have hpointer : n.pointer = m.pointer := String.toList_inj.mp hq
  cases n
  cases m
  exact Node.mk.injEq .. ▸ ⟨hpath, hpointer⟩

private theorem not_transGen_self {n : Node} (h : Acc (fun m n : Node => n.Leads docs m) n) :
    ¬TransGen (Node.Leads docs) n n := by
  induction h with
  | intro n _ ih =>
    intro hc
    obtain ⟨m, hl, hr⟩ := TransGen.head'_iff.mp hc
    exact ih m hl (.tail' hr hl)

private theorem keysApart_of_hash_not_mem (h : ChainsEnd docs start)
    (hp : '#' ∉ start.path.text.toList) : KeysApart docs start := by
  intro n m hn hm hkey
  have hhash := hash_not_mem_of_reaches hn.to_reflTransGen hp
  obtain rfl := eq_of_key_eq hhash (hash_not_mem_of_reaches hm.to_reflTransGen hhash) hkey
  exact not_transGen_self ((acc_of_chainsEnd h).inv_of_transGen hn.swap) hm

/-- Where each chain of references from a document ends, unfolding it has an outcome, from some
depth on. Expansion has that outcome at every depth if keys are apart, which they are unless there
is a hash in the path of the document; and it comes to a value without references in no other
case. -/
theorem dereference_of_chainsEnd (tree : FileTree) (path : Path) (library : Library)
    (h : ChainsEnd (documents tree library) ⟨path, ""⟩) :
    (∃ outcome enough, ∀ depth ≥ enough, unfold tree depth path library = some outcome) ∧
      ('#' ∉ path.text.toList → KeysApart (documents tree library) ⟨path, ""⟩) ∧
      (KeysApart (documents tree library) ⟨path, ""⟩ →
        ∀ depth, dereference tree depth path library = unfold tree depth path library) ∧
      ∀ value after, (∃ depth, unfold tree depth path library = some (.ok value, after)) →
        referencesIn value = [] →
          ((∃ depth, dereference tree depth path library = some (.ok value, after)) ↔
            KeysApart (documents tree library) ⟨path, ""⟩) := by
  refine ⟨?_, keysApart_of_hash_not_mem h, dereference_eq_unfold, ?_⟩
  · obtain ⟨enough, hu⟩ : ∃ a, UnfoldsFrom tree (documents tree library) ⟨path, ""⟩ a :=
      exists_unfoldsFrom (acc_of_chainsEnd h)
    obtain ⟨outcome, hall, hn, -⟩ := settles_visit hu rfl
    cases outcome with
    | none => exact (hn rfl).elim
    | some outcome =>
      refine ⟨outcome, enough, fun depth hd => ?_⟩
      have ho := hall (depth - enough)
      dsimp only at ho
      rwa [Nat.add_sub_cancel' hd] at ho
  · rintro value after ⟨depth, hu⟩ hc
    constructor
    · rintro ⟨depth, hd⟩
      exact keysApart_of_dereference hd hc
    · intro hk
      exact ⟨depth, (dereference_eq_unfold hk depth).trans hu⟩

/-- Documents in two directories, each with a reference to the next. -/
def chainedTree : FileTree where
  current := []
  entries := [(["api"], .directory),
    (["main.yml", "api"], .file "todo:\n  $ref: parts/todo.yml#/all\n".toUTF8),
    (["parts", "api"], .directory),
    (["todo.yml", "parts", "api"], .file "all:\n  id:\n    $ref: id.yml\n".toUTF8),
    (["id.yml", "parts", "api"], .file "type: string\n".toUTF8)]

private theorem chainsEnd_chainedTree :
    ChainsEnd (documents chainedTree []) ⟨⟨"api/main.yml"⟩, ""⟩ := by
  have h₀ : Node.successors (documents chainedTree []) ⟨⟨"api/main.yml"⟩, ""⟩ =
      [⟨⟨"api/parts/todo.yml"⟩, "/all"⟩] := by decide +kernel
  have h₁ : Node.successors (documents chainedTree []) ⟨⟨"api/parts/todo.yml"⟩, "/all"⟩ =
      [⟨⟨"api/parts/id.yml"⟩, ""⟩] := by decide +kernel
  have h₂ : Node.successors (documents chainedTree []) ⟨⟨"api/parts/id.yml"⟩, ""⟩ = [] := by
    decide +kernel
  refine .of_successors (h₀ ▸ List.forall_mem_singleton.mpr ?_)
  refine .of_successors (h₁ ▸ List.forall_mem_singleton.mpr ?_)
  exact .of_successors (h₂ ▸ List.forall_mem_nil _)

theorem dereference_chainedTree :
    dereference chainedTree nestingLimit ⟨"api/main.yml"⟩ [] =
      unfold chainedTree nestingLimit ⟨"api/main.yml"⟩ [] :=
  have h := dereference_of_chainsEnd chainedTree ⟨"api/main.yml"⟩ [] chainsEnd_chainedTree
  h.2.2.1 (h.2.1 (by decide)) nestingLimit

/-- A document with a hash in its path, and what a reference in it takes for another one. -/
def hashedTree : FileTree where
  current := []
  entries := [(["r"], .file "\x7b\x7d".toUTF8)]

/-- The value of that document: it refers to its member, which refers to the other document. -/
def hashedDocument : Json :=
  .object [("$ref", .string "#/y"), ("y", .object [("$ref", .string "r#.json%23/y")])]

private theorem chainsEnd_hashedTree :
    ChainsEnd (documents hashedTree [(⟨"r#.json"⟩, hashedDocument)]) ⟨⟨"r#.json"⟩, ""⟩ := by
  have h₀ : Node.successors (documents hashedTree [(⟨"r#.json"⟩, hashedDocument)])
      ⟨⟨"r#.json"⟩, ""⟩ = [⟨⟨"r#.json"⟩, "/y"⟩] := by with_unfolding_all rfl
  have h₁ : Node.successors (documents hashedTree [(⟨"r#.json"⟩, hashedDocument)])
      ⟨⟨"r#.json"⟩, "/y"⟩ = [⟨⟨"r"⟩, ".json#/y"⟩] := by with_unfolding_all rfl
  have h₂ : Node.successors (documents hashedTree [(⟨"r#.json"⟩, hashedDocument)])
      ⟨⟨"r"⟩, ".json#/y"⟩ = [] := by with_unfolding_all rfl
  refine .of_successors (h₀ ▸ List.forall_mem_singleton.mpr ?_)
  refine .of_successors (h₁ ▸ List.forall_mem_singleton.mpr ?_)
  exact .of_successors (h₂ ▸ List.forall_mem_nil _)

/-- The chain of references from that document ends at a node that has the key of the one before
it: unfolding fails there, and expansion leaves the last reference alone. -/
theorem dereference_hashedTree :
    ChainsEnd (documents hashedTree [(⟨"r#.json"⟩, hashedDocument)]) ⟨⟨"r#.json"⟩, ""⟩ ∧
      (unfold hashedTree nestingLimit ⟨"r#.json"⟩ [(⟨"r#.json"⟩, hashedDocument)]).map Prod.fst =
        some (.error (.unresolved "r#.json%23/y")) ∧
      (dereference hashedTree nestingLimit ⟨"r#.json"⟩
          [(⟨"r#.json"⟩, hashedDocument)]).map Prod.fst =
        some (.ok (.object [("$ref", .string "r#.json%23/y")])) :=
  ⟨chainsEnd_hashedTree, by with_unfolding_all rfl, by with_unfolding_all rfl⟩

end Scaffold.OpenApi
