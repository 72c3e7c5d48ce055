/-
**URLs with paths.**

* `Url` — a URL whose path is a list of segments;
* `Url.text` — its written form; `Url.target` — the part of it that a request names;
* `Url.above` — the path without its last segment, unless that is a drive;
* `Url.push`, `Url.extend` — adds segments to the path, written so that each stays one;
* `Url.addQuery` — adds a name and a value to the query.
-/

import CatalogSearch.Url.Percent

namespace CatalogSearch

/-- A URL whose path is a list of segments. -/
structure Url where
  scheme : String
  /-- User and host, with the number behind the host's colon, as they are written, if there is a
  place for them. -/
  authority : Option String
  /-- The segments of the path as they are written. A path with a slash at its end has an empty
  segment there; no segments are no path. -/
  path : List String
  /-- Whether a dot keeps the path apart from the colon, since it would read as a host. -/
  dotted : Bool := false
  query : Option String
  fragment : Option String
deriving DecidableEq, Repr

namespace Url

/-- Whether a scheme is one of those with a syntax of their own. -/
def isSpecial (scheme : String) : Bool := scheme ∈ ["http", "https", "ws", "wss", "ftp", "file"]

/-- The path: each segment behind a slash. -/
def pathText (path : List String) : String := String.join (path.map ("/" ++ ·))

/-- The written form. -/
def text (url : Url) : String :=
  let authority := match url.authority with
    | some authority => "//" ++ authority
    | none => if url.dotted then "/." else ""
  url.scheme ++ ":" ++ authority ++ pathText url.path ++
    ((url.query.map ("?" ++ ·)).getD "") ++ ((url.fragment.map ("#" ++ ·)).getD "")

/-- What a request for a URL names: the path, and the query unless it is empty. -/
def target (url : Url) : String :=
  pathText url.path ++ ((url.query.filter (· ≠ "")).map ("?" ++ ·)).getD ""

/-- Whether a segment is a drive: a letter with a colon, or with a bar in its place. -/
def isDrive (segment : List Char) : Bool :=
  match segment with
  | [letter, mark] => letter.isAlpha && (mark = ':' || mark = '|')
  | _ => false

/-- The written form of a segment of a file's path. The first one, if it is a drive, has a colon. -/
def driveText (first : Bool) (segment : List Char) : List Char :=
  if first && isDrive segment then segment.take 1 ++ [':'] else segment

/-- The path without its last segment; a drive stays. -/
def above (path : List String) : List String :=
  if path.getLast?.any fun last => isDrive last.toList then path else path.dropLast

/-- The characters of a segment that count: tabulators and line ends do not. -/
def visible (segment : String) : List Char :=
  segment.toList.filter fun c => c ≠ '\t' && c ≠ '\n' && c ≠ '\r'

/-- Puts a segment behind a path; the root alone gives way to it. -/
def append (path : List String) (segment : String) : List String :=
  if path = [""] then [segment] else path ++ [segment]

/-- The path after a segment is added. The dots that name the directory itself or the one above it
are left out; where they only show once tabulators and line ends are taken away, they act. -/
def push (scheme : String) (path : List String) (segment : String) : List String :=
  if segment = "." ∨ segment = ".." then path
  else
    let shown := visible segment
    if shown = ['.'] then append path ""
    else if shown = ['.', '.'] then above path ++ [""]
    else
      let written := Percent.encode (Percent.inSegment (isSpecial scheme)) shown
      append path (String.ofList (driveText (scheme = "file" && path = [""]) written))

/-- The path without an empty segment at its end, behind which segments are added. -/
def opened (path : List String) : List String :=
  if 1 < path.length ∧ path.getLast? = some "" then path.dropLast else path

/-- The URL with segments added to its path. -/
def extend (url : Url) (segments : List String) : Url :=
  let path := segments.foldl (push url.scheme) (opened url.path)
  { url with path }

/-- The URL with a name and a value, both of plain letters, added to its query. -/
def addQuery (url : Url) (name value : String) : Url :=
  let pair := name ++ "=" ++ value
  { url with query := some (match url.query with
      | none | some "" => pair
      | some query => query ++ "&" ++ pair) }

end Url
end CatalogSearch
