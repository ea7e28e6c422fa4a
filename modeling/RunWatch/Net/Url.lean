import RunWatch.Net.Authority
import RunWatch.Text.Blank

/-!
# URLs

A URL is a scheme, an authority, a path of segments, a query and a fragment, each part already in
the form in which it is written. `Url.parse` reads one; blanks at the ends and line breaks inside do
not count.

A path that starts with an empty segment would read as an authority where there is none. A dot is
then written before it (`Url.isDotted`).
-/

namespace RunWatch

open Text

/-- Why a text is no URL with a path. -/
inductive UrlFault where
  | noScheme
  | authority (fault : AuthorityFault)
  | noPath
  deriving DecidableEq

/-- A URL. -/
structure Url where
  scheme : String
  authority : Option Authority
  /-- Whether a slash and a dot stand before the path. -/
  isDotted : Bool
  path : List String
  query : Option String
  fragment : Option String
  deriving DecidableEq

/-- How the URLs of a scheme are read. -/
def SchemeKind.ofScheme (scheme : String) : SchemeKind :=
  if scheme = "file" then .file
  else if (standardEndpoint? scheme).isSome then .service
  else .plain

namespace Url

/-! ### Reading -/

/-- A text as it is read: without blanks and controls at its ends, and without line breaks. -/
def cleaned (cs : List Char) : List Char :=
  let isEdge (c : Char) : Bool := c.toNat ≤ 0x20
  (dropEndWhile isEdge (cs.dropWhile isEdge)).filter fun c => !isLineBreak c

/-- The scheme in lower case, and what follows its colon. -/
def splitScheme? (cs : List Char) : Option (String × List Char) :=
  let isMark (c : Char) : Bool := c.isAlphanum || c == '+' || c == '-' || c == '.'
  match cs.head?.any Char.isAlpha, cs.dropWhile isMark with
  | true, ':' :: rest => some (String.ofList ((cs.takeWhile isMark).map Char.toLower), rest)
  | _, _ => none

/-- The part after a mark, if the text starts with it. -/
def partAfter (mark : Char) (marks : List Char) : List Char → Option String
  | c :: rest => if c = mark then some (encodeWith marks rest) else none
  | [] => none

/-- A URL with a given authority, and a text from its path on. -/
def withTail (scheme : String) (authority : Option Authority) (cs : List Char) : Url :=
  let k := SchemeKind.ofScheme scheme
  let beforeFragment := cs.takeWhile (· != '#')
  let path := Path.ofText k (beforeFragment.takeWhile (· != '?'))
  { scheme
    authority
    isDotted := authority.isNone && 1 < path.length && path.head? == some ""
    path
    query := partAfter '?' (queryMarks k) (beforeFragment.dropWhile (· != '?'))
    fragment := partAfter '#' fragmentMarks (cs.dropWhile (· != '#')) }

/-- A URL with an authority at the front of a text. -/
def withAuthority (scheme : String) (cs : List Char) : Except UrlFault Url := do
  let (a, rest) ←
    (Authority.read (.ofScheme scheme) (standardEndpoint? scheme) cs).mapError .authority
  return withTail scheme (some a) rest

/-- The URL of a file without a host, or on one, from its path on. A path that starts at a drive has
a colon there, and no host. -/
def fileAt (host : Host) (cs : List Char) : Url :=
  let onHost := withTail "file" (some { Authority.empty with host }) cs
  match onHost.path with
  | [] => onHost
  | s :: rest =>
    if Path.isDrive s.toList then
      { onHost with
        authority := some .empty
        path := String.ofList (s.toList.take 1 ++ [':']) :: rest }
    else onHost

/-- The URL of a file, from what follows its scheme. The local host is the same as none. -/
def ofFile : List Char → Except UrlFault Url
  | a :: b :: rest =>
    if SchemeKind.file.isSlash a && SchemeKind.file.isSlash b then
      let name := rest.takeWhile (!SchemeKind.file.startsPath ·)
      if name.isEmpty || Path.isDrive name then .ok (fileAt (.name "") rest)
      else match Host.parse true name with
        | .error fault => .error (.authority (.host fault))
        | .ok host =>
          .ok (fileAt (if host = .name "localhost" then .name "" else host)
            (rest.dropWhile (!SchemeKind.file.startsPath ·)))
    else .ok (fileAt (.name "") (a :: b :: rest))
  | cs => .ok (fileAt (.name "") cs)

/-- The URL that a text is. A plain scheme that is followed by no slash has no path of segments. -/
def parse (s : String) : Except UrlFault Url :=
  match splitScheme? (cleaned s.toList) with
  | none => .error .noScheme
  | some (scheme, rest) =>
    match SchemeKind.ofScheme scheme, rest with
    | .service, rest => withAuthority scheme (rest.dropWhile (SchemeKind.service.isSlash ·))
    | .file, rest => ofFile rest
    | .plain, '/' :: '/' :: rest => withAuthority scheme rest
    | .plain, '/' :: rest => .ok (withTail scheme none ('/' :: rest))
    | .plain, _ => .error .noPath

/-! ### Text -/

/-- How the URL is read. -/
def kind (u : Url) : SchemeKind := .ofScheme u.scheme

/-- The path as it is written. -/
def pathText (u : Url) : String := Path.text u.path

/-- The URL as it is written. -/
def text (u : Url) : String :=
  u.scheme ++ ":" ++ (u.authority.map ("//" ++ ·.text)).getD "" ++
    (if u.isDotted then "/." else "") ++ u.pathText ++
    (u.query.map ("?" ++ ·)).getD "" ++ (u.fragment.map ("#" ++ ·)).getD ""

end Url

end RunWatch
