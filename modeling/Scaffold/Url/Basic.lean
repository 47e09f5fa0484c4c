import Scaffold.Text.Percent
import Scaffold.Url.Address
import Scaffold.Url.Domain

/-! Absolute URLs: a scheme, and for the schemes of the web a host that is a name or an address.
Behind any other scheme two slashes announce a host as well. -/
namespace Scaffold.Url

def webSchemes : List String := ["http", "https", "ws", "wss", "ftp"]

def scheme? : List Char → Option (String × List Char)
  | [] => none
  | c :: rest =>
    if !c.isAlpha then none
    else
      let isMark (d : Char) : Bool := d.isAlphanum || d = '+' || d = '-' || d = '.'
      match rest.dropWhile isMark with
      | ':' :: body => some (String.ofList ((c :: rest.takeWhile isMark).map Char.toLower), body)
      | _ => none

def isSlash (c : Char) : Bool := c = '/' || c = '\\'

def isBracketed (host : List Char) : Bool :=
  match host with
  | '[' :: rest => rest.getLast? = some ']' && isGroupAddress rest.dropLast
  | _ => false

/-- The name of a host: an address, if it ends in a number. The last dot may end the name. -/
def isName (name : List Char) : Bool :=
  match labels? name with
  | none => false
  | some labels =>
    let parts := if labels.getLast? = some [] then labels.dropLast else labels
    labels ≠ [[]] && (!parts.getLast?.any isNumber || isNumberAddress parts)

/-- The host of a URL for the web. Its name may be percent-encoded. -/
def isHost (host : List Char) : Bool :=
  if host.head? = some '[' then isBracketed host
  else
    match Text.percentDecode (String.ofList host) with
    | .ok name => isName name.toList
    | .error _ => false

/-- The host of a URL for something else, which is taken as it is. -/
def isOpaqueHost (host : List Char) : Bool :=
  isBracketed host || !host.any fun c =>
    ['\x00', '\t', '\n', '\r', ' ', '#', '/', ':', '<', '>', '?', '@', '[', '\\', ']', '^',
      '|'].contains c

/-- The part of a text before the first colon outside brackets. -/
def beforeColon (bracketed : Bool) : List Char → List Char
  | [] => []
  | c :: rest =>
    if c = ':' && !bracketed then []
    else c :: beforeColon (c = '[' || (bracketed && c ≠ ']')) rest

/-- What follows a host: nothing, or a colon and a number of two bytes, which may be left out. A
backslash ends the number. -/
def isSuffix : List Char → Bool
  | ':' :: rest =>
    Text.digitsValue (rest.takeWhile Char.isDigit) ≤ 65535 &&
      (rest.dropWhile Char.isDigit).head?.all (· = '\\')
  | rest => rest.isEmpty

/-- What follows two slashes: who asks, before the last at sign, then a host and what is behind it
from a colon on. -/
structure Authority where
  user : Option (List Char)
  host : List Char
  suffix : List Char
  deriving DecidableEq, Repr

namespace Authority

def ofText (text : List Char) : Authority :=
  let behind := (text.reverse.takeWhile (· ≠ '@')).reverse
  let host := beforeColon false behind
  ⟨if text.contains '@' then some (text.take (text.length - behind.length - 1)) else none,
    host, behind.drop host.length⟩

def hasUser (a : Authority) : Bool := a.user.any fun user => user ≠ [] && user ≠ [':']

def isWeb (a : Authority) : Bool := !a.host.isEmpty && isHost a.host && isSuffix a.suffix

/-- An authority for something else is well formed. It needs no host if nobody asks and nothing is
behind it, but a lone at sign before a path is refused. -/
def isOther (a : Authority) (hasPath : Bool) : Bool :=
  if a.host.isEmpty then a.suffix.isEmpty && !a.hasUser && !(hasPath && a.user = some [])
  else isOpaqueHost a.host && isSuffix a.suffix

end Authority

/-- The host of a file is well formed. A drive in its place is part of the path. -/
def isFileHost (host : List Char) : Bool :=
  match host with
  | [] => true
  | [c, d] => c.isAlpha && (d = ':' || d = '|') || isHost host
  | _ => isHost host

/-- What follows the scheme and its colon is well formed. -/
def isBody (scheme : String) (body : List Char) : Bool :=
  let isInner (c : Char) : Bool := c ≠ '/' && c ≠ '?' && c ≠ '#'
  let isWebInner (c : Char) : Bool := isInner c && c ≠ '\\'
  if webSchemes.contains scheme then
    (Authority.ofText ((body.dropWhile isSlash).takeWhile isWebInner)).isWeb
  else if scheme = "file" then
    match body with
    | a :: b :: rest => !(isSlash a && isSlash b) || isFileHost (rest.takeWhile isWebInner)
    | _ => true
  else
    match body with
    | '/' :: '/' :: rest =>
      (Authority.ofText (rest.takeWhile isInner)).isOther !(rest.dropWhile isInner).isEmpty
    | _ => true

/-- The text is an absolute URL. Blanks and controls around it do not count, nor do tabs and line
breaks in it. -/
def isAbsolute (text : String) : Bool :=
  let isEdge (c : Char) : Bool := c.toNat ≤ 32
  let trimmed := ((text.toList.dropWhile isEdge).reverse.dropWhile isEdge).reverse
  let cs := trimmed.filter fun c => c ≠ '\t' && c ≠ '\n' && c ≠ '\r'
  match scheme? cs with
  | none => false
  | some (scheme, body) => isBody scheme body

end Scaffold.Url
