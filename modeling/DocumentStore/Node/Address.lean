import DocumentStore.Failure
import DocumentStore.Node.Host

/-! The address of a node, taken apart: scheme, user, host, port and path. -/

namespace DocumentStore.Node

structure Address where
  scheme : String
  user : Option (String × String)
  host : String
  port : Nat
  path : String
  deriving DecidableEq, Repr

/-- How the address of a node is read. -/
abbrev AddressReader := String → Except AddressProblem Address

namespace Address

def isSchemeChar (c : Char) : Bool := c.isAlphanum || c = '+' || c = '-'

/-- Whether a text begins with a scheme or a slash; any other text is read as what follows two slashes. -/
def isAbsolute (cs : List Char) : Bool :=
  match cs with
  | [] => false
  | c :: rest => c = '/' || (c.isAlpha && (rest.dropWhile isSchemeChar).head? = some ':')

/-- The scheme that a text begins with, in lower case, and the rest behind its colon. -/
def cutScheme (cs : List Char) : Option (List Char) × List Char :=
  match cs with
  | c :: _ =>
    let (name, rest) := cut (fun x => !(isSchemeChar x || x = '.')) cs
    if c.isAlpha && rest.head? = some ':' then (some (name.map Char.toLower), rest.drop 1) else (none, cs)
  | [] => (none, [])

/-- The authority behind two slashes, if there is one, and the rest. -/
def cutAuthority : List Char → List Char × List Char
  | '/' :: '/' :: rest => cut (fun c => c = '/' || c = '\\' || c = '?' || c = '#') rest
  | cs => ([], cs)

def isSubDelimiter (c : Char) : Bool := "!$&'()*+,;=".toList.contains c

def isUserChar (c : Char) : Bool := Text.isUnreserved c || isSubDelimiter c || c = ':'

def isPathChar (c : Char) : Bool := isUserChar c || c = '@' || c = '/'

/-- The number behind the colon of a port, of which leading zeros do not count; no digits name no port. -/
def port? (cs : List Char) : Option (Option Nat) :=
  match cs with
  | [] => some none
  | ':' :: digits =>
    if !digits.all Char.isDigit then none
    else
      let significant := digits.dropWhile (· = '0')
      let port := significant.foldl (fun n c => 10 * n + (c.toNat - 48)) 0
      if digits.isEmpty then some none
      else if significant.length ≤ 5 && port ≤ 65535 then some (some port)
      else none
  | _ => none

/-- Host and port of an authority without its user. -/
def hostPort? (normal : Bool) (cs : List Char) : Option (List Char × Option Nat) :=
  match cs with
  | '[' :: rest =>
    let (inner, more) := cut (· = ']') rest
    if more.isEmpty then none
    else do
      let host ← bracketed? normal inner
      let port ← port? (more.drop 1)
      return (host, port)
  | cs => do
    let (name, more) := cut (· = ':') cs
    let host ← named? normal name
    let port ← port? more
    return (host, port)

/-- What stands before the last `@`, if anything does, and what stands behind it. -/
def cutUser (cs : List Char) : Option (List Char) × List Char :=
  let host := (cs.reverse.takeWhile (· ≠ '@')).reverse
  let user := cs.take (cs.length - host.length - 1)
  (if user.isEmpty then none else some user, host)

/-- User name and password, split at the first colon and unescaped. -/
def userOf (normal : Bool) (cs : List Char) : String × String :=
  let (name, rest) := cut (· = ':') (if normal then escapeInvalid isUserChar cs else cs)
  (String.ofList (unescape name), String.ofList (unescape (rest.drop 1)))

/-- The segments of a path without those that only move about in it. -/
def foldSegments : List (List Char) → List (List Char) → List (List Char)
  | done, [] => done
  | done, s :: rest =>
    if s = ['.'] then foldSegments done rest
    else if s = ['.', '.'] then foldSegments done.dropLast rest
    else foldSegments (done ++ [s]) rest

def removeDots (cs : List Char) : List Char :=
  let done := foldSegments [] (cs.splitOn '/')
  let rooted := cs.head? = some '/' && (done.head?.getD ['x'] ≠ [])
  let trailing := ['/', '.'].isSuffixOf cs || ['/', '.', '.'].isSuffixOf cs
  let segments := (if rooted then [[]] else []) ++ done ++ (if trailing then [[]] else [])
  ['/'].intercalate segments

def trimSlashes (cs : List Char) : List Char :=
  ((cs.dropWhile (· = '/')).reverse.dropWhile (· = '/')).reverse

/-- What precedes every path on the node: empty, or a slash and the path without slashes around it. -/
def pathPrefixOf (normal : Bool) (cs : List Char) : List Char :=
  let path := if normal && !cs.isEmpty then escapeInvalid isPathChar (removeDots cs) else cs
  if path.isEmpty || path = ['/'] then [] else '/' :: trimSlashes path

/-- Schemes whose addresses have one normal form. -/
def isNormal (scheme : Option (List Char)) : Bool :=
  scheme = none || scheme = some "http".toList || scheme = some "https".toList

def defaultPort? (scheme : List Char) : Option Nat :=
  if scheme = "http".toList then some 80 else if scheme = "https".toList then some 443 else none

def parse (url : String) : Except AddressProblem Address :=
  let cs := url.toList
  let (scheme, rest) := cutScheme (if isAbsolute cs then cs else '/' :: '/' :: cs)
  let (authority, rest) := cutAuthority rest
  let (path, _) := cut (fun c => c = '?' || c = '#') rest
  let normal := isNormal scheme
  if authority.isEmpty then .error .incomplete
  else
    let (user, hostPort) := cutUser authority
    match hostPort? normal hostPort with
    | none => .error .unparsable
    | some (host, port) =>
      match scheme, port.or (scheme.bind defaultPort?) with
      | some scheme, some port =>
        if host.isEmpty then .error .incomplete
        else .ok {
          scheme := String.ofList scheme
          user := user.map (userOf normal)
          host := String.ofList host
          port
          path := String.ofList (pathPrefixOf normal path) }
      | _, _ => .error .incomplete

end Address

end DocumentStore.Node
