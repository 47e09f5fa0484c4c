import Scaffold.Unicode.Category
import Scaffold.Unicode.Direction
import Scaffold.Unicode.Joining
import Scaffold.Url.Mapping
import Scaffold.Url.Punycode

/-! Names of hosts in any script: what they stand for, label by label, and the rules that their
labels keep. -/
namespace Scaffold.Url

def isForbidden (c : Char) : Bool :=
  c.toNat ≤ 32 || c.toNat = 127 ||
    ['%', '#', '/', ':', '<', '>', '?', '@', '[', '\\', ']', '^', '|'].contains c

def replaceAll? (name : List Char) : Option (List Char) :=
  (name.mapM replace?).map fun parts => Unicode.normalize parts.flatten

/-- The most characters that the written form of a label has behind its mark. -/
def longestCode : Nat := 2000

/-- The most characters of a label that has no written form yet. -/
def longestLabel : Nat := 1000

/-- What a label stands for. Behind the mark at its front a label of other scripts is written in
plain characters, and what it stands for has to need that: it is composed, in use and not plain. -/
def expand? (label : List Char) : Option (List Char) :=
  match label with
  | 'x' :: 'n' :: '-' :: '-' :: code =>
    if longestCode < code.length then none
    else
      (Punycode.decode? code).filter fun name =>
        name.any (128 ≤ ·.toNat) && name.all isInUse && Unicode.normalize name = name
  | _ =>
    if label.length ≤ longestLabel || label.all (·.toNat < 128) then some label else none

/-- A label does not begin with a mark that needs a base, and its joiners have their places. -/
def isLabel (label : List Char) : Bool :=
  !label.head?.any Unicode.isMark && Unicode.joinersInPlace [] label

/-- The labels of a name, if it is well formed. The rule of directions holds for all of them as soon
as one holds a character that runs from right to left. -/
def labels? (name : List Char) : Option (List (List Char)) := do
  let labels ← ((← replaceAll? name).splitOn '.').mapM expand?
  let hasRight := labels.any (·.any (Unicode.direction · |>.isRight))
  if labels.all (fun label => isLabel label && !label.any isForbidden &&
      (!hasRight || Unicode.keepsDirection label)) then some labels else none

end Scaffold.Url
