/-
**Reading URLs.**

* `Url.read` — the URL of a text; it must have a path, to which segments can be added.
-/

import CatalogSearch.Url.Basic
import CatalogSearch.Url.Host

namespace CatalogSearch.Url

/-- The characters of a text that count: controls and spaces at its ends, tabulators and line ends do
not. -/
def relevant (text : String) : List Char :=
  let isEdge (c : Char) : Bool := c.toNat ≤ 0x20
  let cs := ((text.toList.dropWhile isEdge).reverse.dropWhile isEdge).reverse
  cs.filter fun c => c ≠ '\t' && c ≠ '\n' && c ≠ '\r'

/-- The scheme, in small letters, and what follows its colon. -/
def scheme? (cs : List Char) : Option (String × List Char) :=
  let isPart (c : Char) : Bool := c.isAlphanum || c = '+' || c = '-' || c = '.'
  let name := cs.takeWhile isPart
  match name, cs.dropWhile isPart with
  | c :: _, ':' :: rest =>
    if c.isAlpha then some (String.ofList (name.map Char.toLower), rest) else none
  | _, _ => none

/-- The number that a scheme has at its host without naming it. -/
def standardNumber? : String → Option Nat
  | "http" | "ws" => some 80
  | "https" | "wss" => some 443
  | "ftp" => some 21
  | _ => none

/-- Whether a character ends the authority of a URL. -/
def endsAuthority (special : Bool) (c : Char) : Bool :=
  c = '/' || c = '?' || c = '#' || (special && c = '\\')

/-- The characters before and behind the last at sign. -/
def lastAt? (cs : List Char) : Option (List Char × List Char) :=
  let host := (cs.reverse.takeWhile (· ≠ '@')).reverse
  if host.length = cs.length then none
  else some (cs.take (cs.length - host.length - 1), host)

/-- Name and password of a user as they are written, with the at sign behind them. -/
def userText (cs : List Char) : List Char :=
  let name := cs.takeWhile (· ≠ ':')
  let password := (cs.dropWhile (· ≠ ':')).drop 1
  let shown := Percent.encode Percent.inUser name ++
    (if password.isEmpty then [] else ':' :: Percent.encode Percent.inUser password)
  if shown.isEmpty then [] else shown ++ ['@']

/-- The host at the start, up to the first colon outside brackets, and what follows. -/
def hostPart : Bool → List Char → List Char × List Char
  | _, [] => ([], [])
  | inside, c :: rest =>
    if c = ':' ∧ !inside then ([], c :: rest)
    else
      let inside := if c = '[' then true else if c = ']' then false else inside
      let (host, rest) := hostPart inside rest
      (c :: host, rest)

/-- The colon and the number behind a host; no number, and the one of the scheme, are not written. -/
def numberText (scheme : String) (digits : List Char) : Except UrlFault (List Char) :=
  if digits.isEmpty then .ok []
  else match Host.number? 10 digits with
    | some number =>
      if 65535 < number then .error .invalidNumber
      else if standardNumber? scheme = some number then .ok []
      else .ok (':' :: Nat.toDigits 10 number)
    | none => .error .invalidNumber

/-- A host, and the number behind its colon, as they are written. -/
def hostText (scheme : String) (hasUser : Bool) (cs : List Char) : Except UrlFault (List Char) := do
  let special := isSpecial scheme
  let (host, rest) := hostPart false cs
  if host.isEmpty && (special || hasUser || !rest.isEmpty) then throw .emptyHost
  let host ← if special then Host.special host else Host.other host
  let number ← numberText scheme (rest.drop 1)
  return host ++ number

/-- User and host, with the number behind its colon, as they are written. An at sign alone is neither,
unless the URL ends with it. -/
def authorityText (scheme : String) (atEnd : Bool) (cs : List Char) : Except UrlFault String := do
  match lastAt? cs with
  | none => return String.ofList (← hostText scheme false cs)
  | some (user, host) =>
    if user.isEmpty && host.isEmpty && !atEnd then throw .emptyHost
    let user := userText user
    return String.ofList (user ++ (← hostText scheme (!user.isEmpty) host))

/-- The authority at the start, and what follows. In schemes that are not known a backslash ends the
number behind the host's colon, though nothing else. -/
def splitAuthority (special : Bool) (cs : List Char) : List Char × List Char :=
  let reach := cs.takeWhile (!endsAuthority special ·)
  let host := ((lastAt? reach).map (·.2)).getD reach
  let excess := ((hostPart false host).2.dropWhile (· ≠ '\\')).length
  (reach.take (reach.length - excess), cs.drop (reach.length - excess))

/-- The host of a file as it is written; the machine itself has none. -/
def fileHost (cs : List Char) : Except UrlFault String := do
  if cs.isEmpty then return ""
  let host ← Host.special cs
  return if host = "localhost".toList then "" else String.ofList host

/-- Whether a segment names the directory itself. -/
def isDot (segment : List Char) : Bool :=
  String.ofList (segment.map Char.toLower) ∈ [".", "%2e"]

/-- Whether a segment names the directory above. -/
def isDoubleDot (segment : List Char) : Bool :=
  String.ofList (segment.map Char.toLower) ∈ ["..", ".%2e", "%2e.", "%2e%2e"]

/-- The segments of a path whose parts are given, behind those read so far. -/
def segments (file : Bool) (done : List String) : List (List Char) → List String
  | [] => done
  | part :: rest =>
    if isDoubleDot part then
      segments file (above done ++ if rest.isEmpty then [""] else []) rest
    else if isDot part then segments file (done ++ if rest.isEmpty then [""] else []) rest
    else
      let written := driveText (file && done.isEmpty) (Percent.encode Percent.inPath part)
      segments file (done ++ [String.ofList written]) rest

/-- The segments of a path whose first slash is read. -/
def pathOf (scheme : String) (cs : List Char) : List String :=
  segments (scheme = "file") [] <| Host.splitAt '/' <|
    if isSpecial scheme then cs.map fun c => if c = '\\' then '/' else c else cs

/-- The path of a URL with an authority, of which only the known schemes always have one. -/
def pathAfterAuthority (scheme : String) (cs : List Char) : List String :=
  match cs with
  | [] => if isSpecial scheme then [""] else []
  | c :: rest =>
    if c = '/' || (isSpecial scheme && c = '\\') then pathOf scheme rest else pathOf scheme cs

/-- The path of a file: empty segments at its start are left out. -/
def filePath (segments : List String) : List String :=
  match segments.dropWhile (· = "") with
  | [] => [""]
  | path => path

/-- Path, query and fragment as they are given. -/
def parts (cs : List Char) : List Char × Option (List Char) × Option (List Char) :=
  let body := cs.takeWhile (· ≠ '#')
  let fragment := match cs.dropWhile (· ≠ '#') with
    | _ :: rest => some rest
    | [] => none
  let query := match body.dropWhile (· ≠ '?') with
    | _ :: rest => some rest
    | [] => none
  (body.takeWhile (· ≠ '?'), query, fragment)

/-- A URL of its parts, of which query and fragment are still to be written. -/
def ofParts (scheme : String) (authority : Option String) (path : List String)
    (query fragment : Option (List Char)) : Url where
  scheme := scheme
  authority := authority
  path := path
  dotted := authority.isNone && 1 < path.length && path.head? = some ""
  query := query.map fun cs => String.ofList (Percent.encode (Percent.inQuery (isSpecial scheme)) cs)
  fragment := fragment.map fun cs => String.ofList (Percent.encode Percent.inFragment cs)

/-- Whether a character is a slash, or a backslash in its place. -/
def isSlash (c : Char) : Bool := c = '/' || c = '\\'

/-- The URL of a file. What stands for a host may be a drive; a host before a drive is left out. -/
def ofFile (body : List Char) (query fragment : Option (List Char)) : Except UrlFault Url := do
  let onMachine (path : List Char) : Url :=
    ofParts "file" (some "") (filePath (pathAfterAuthority "file" path)) query fragment
  match body with
  | a :: b :: rest =>
    let host := rest.takeWhile (!isSlash ·)
    if !(isSlash a && isSlash b) then return onMachine body
    else if isDrive host then return onMachine rest
    else
      let authority ← fileHost host
      let path := pathAfterAuthority "file" (rest.drop host.length)
      let authority := if path.head?.any fun first => isDrive first.toList then "" else authority
      return ofParts "file" (some authority) (filePath path) query fragment
  | body => return onMachine body

/-- The URL of a scheme and what follows it. -/
def ofScheme (scheme : String) (cs : List Char) : Except UrlFault Url := do
  let special := isSpecial scheme
  let (body, query, fragment) := parts cs
  if scheme = "file" then ofFile body query fragment
  else if special then
    let (authority, behind) := splitAuthority true (body.dropWhile isSlash)
    return ofParts scheme (some (← authorityText scheme false authority))
      (pathAfterAuthority scheme behind) query fragment
  else match body with
    | '/' :: '/' :: rest =>
      let (authority, behind) := splitAuthority false rest
      let atEnd := behind.isEmpty && query.isNone && fragment.isNone
      return ofParts scheme (some (← authorityText scheme atEnd authority))
        (pathAfterAuthority scheme behind) query fragment
    | '/' :: rest => return ofParts scheme none (pathOf scheme rest) query fragment
    | _ => throw .noPath

/-- The URL of a text. -/
def read (text : String) : Except UrlFault Url :=
  match scheme? (relevant text) with
  | none => .error .noScheme
  | some (scheme, rest) => ofScheme scheme rest

end CatalogSearch.Url
