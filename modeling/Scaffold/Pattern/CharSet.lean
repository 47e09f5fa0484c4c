import Scaffold.Unicode.Category
import Scaffold.Unicode.Folding
import Scaffold.Unicode.Property
import Scaffold.Unicode.Script

/-! Sets of characters, as patterns write them: ranges, sets with a name, and what can be made of
them. -/
namespace Scaffold

inductive CharSet where
  /-- The characters between the ends of one of some ranges. -/
  | ranges (spans : List (Char × Char))
  /-- The characters among some code points. -/
  | codes (members : Unicode.CodeSet)
  | union (a b : CharSet)
  | intersection (a b : CharSet)
  | difference (a b : CharSet)
  /-- The characters that lie in just one of two sets. -/
  | symmetricDifference (a b : CharSet)
  | complement (a : CharSet)
  /-- The characters that differ in case only from one in a set. -/
  | anyCase (a : CharSet)
  deriving DecidableEq, Repr

namespace CharSet

def holds : CharSet → Char → Bool
  | .ranges spans, c => spans.any fun (first, last) => first ≤ c && c ≤ last
  | .codes members, c => members.holds c
  | .union a b, c => a.holds c || b.holds c
  | .intersection a b, c => a.holds c && b.holds c
  | .difference a b, c => a.holds c && !b.holds c
  | .symmetricDifference a b, c => a.holds c != b.holds c
  | .complement a, c => !a.holds c
  | .anyCase a, c => (Unicode.caseOrbit c).any a.holds

def empty : CharSet := .ranges []

def only (c : Char) : CharSet := .ranges [(c, c)]

/-- Two sets together, as one list of ranges where both are such lists. -/
def join : CharSet → CharSet → CharSet
  | .ranges [], b => b
  | .ranges spans, .ranges more => .ranges (spans ++ more)
  | a, b => .union a b

@[simp] theorem holds_join (a b : CharSet) (c : Char) :
    (a.join b).holds c = (a.holds c || b.holds c) := by
  unfold join
  split <;> simp [holds]

def unionOf : List CharSet → CharSet
  | [] => empty
  | [a] => a
  | a :: rest => a.join (unionOf rest)

def negated (isNegated : Bool) (a : CharSet) : CharSet := if isNegated then .complement a else a

def folded (ignoresCase : Bool) (a : CharSet) : CharSet := if ignoresCase then .anyCase a else a

def inLine : CharSet := .complement (only '\n')

def every : CharSet := .complement empty

def digit : CharSet := .codes Unicode.decimalNumber.codes

def space : CharSet := .codes Unicode.whiteSpace.codes

/-- Letters, marks, digits, connecting punctuation and joiners of all scripts. -/
def word : CharSet :=
  unionOf [.codes Unicode.alphabetic.codes, .codes Unicode.nonspacingMark.codes,
    .codes Unicode.spacingMark.codes, .codes Unicode.enclosingMark.codes, digit,
    .codes Unicode.connectorPunctuation.codes, .codes Unicode.joinControl.codes]

def hexDigit : CharSet := .ranges [('0', '9'), ('A', 'F'), ('a', 'f')]

/-- The sets of ASCII characters that have a name of their own. -/
def ofAsciiName? (name : String) : Option CharSet :=
  match name with
  | "alnum" => some (.ranges [('0', '9'), ('A', 'Z'), ('a', 'z')])
  | "alpha" => some (.ranges [('A', 'Z'), ('a', 'z')])
  | "ascii" => some (.ranges [('\x00', '\x7f')])
  | "blank" => some (.ranges [('\t', '\t'), (' ', ' ')])
  | "cntrl" => some (.ranges [('\x00', '\x1f'), ('\x7f', '\x7f')])
  | "digit" => some (.ranges [('0', '9')])
  | "graph" => some (.ranges [('!', '~')])
  | "lower" => some (.ranges [('a', 'z')])
  | "print" => some (.ranges [(' ', '~')])
  | "punct" => some (.ranges [('!', '/'), (':', '@'), ('[', '\x60'), ('\x7b', '~')])
  | "space" => some (.ranges [('\t', '\r'), (' ', ' ')])
  | "upper" => some (.ranges [('A', 'Z')])
  | "word" => some (.ranges [('0', '9'), ('A', 'Z'), ('_', '_'), ('a', 'z')])
  | "xdigit" => some hexDigit
  | _ => none

/-- A name as names are compared: in lowercase, without blanks, dashes, underscores and characters
beyond ASCII, and without `is` in front. -/
def normalName (name : String) : String :=
  let strip (cs : List Char) : List Char :=
    (cs.filter fun c => c ≠ ' ' && c ≠ '_' && c ≠ '-' && c.val < 0x80).map Char.toLower
  match name.toList with
  | i :: s :: rest =>
    if i.toLower = 'i' && s.toLower = 's' then
      if strip rest = ['c'] then "isc" else String.ofList (strip rest)
    else String.ofList (strip (i :: s :: rest))
  | cs => String.ofList (strip cs)

/-- The set of a general category, or one of the three sets beside them. -/
def ofCategory? (name : String) : Option CharSet :=
  match name with
  | "any" => some every
  | "ascii" => some (.ranges [('\x00', '\x7f')])
  | "assigned" => some (.complement (.codes Unicode.unassigned.codes))
  | name => (Unicode.categories? name).map fun parts => unionOf (parts.map (.codes ·.codes))

/-- The set that a name stands for: of a property, a category or a script. -/
def ofName? (name : String) : Option CharSet :=
  let name := normalName name
  (Unicode.property? name).map (.codes ·.codes)
    <|> ofCategory? name
    <|> (Unicode.script? name).map (.codes ·.codes)

/-- The set of the characters for which a property has a value. -/
def ofValue? (property value : String) : Option CharSet :=
  let value := normalName value
  match normalName property with
  | "gc" | "generalcategory" | "category" => ofCategory? value
  | "sc" | "script" => (Unicode.script? value).map (.codes ·.codes)
  | "scx" | "scriptextensions" => (Unicode.script? value).map (.codes ·.extended)
  | _ => none

end CharSet

end Scaffold
