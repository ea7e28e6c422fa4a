import RunWatch.Text.Percent
import RunWatch.Text.Split

/-!
# Paths of URLs

A path is a list of segments, each in the form in which it is written. Schemes fall into three kinds
(`SchemeKind`); in all but the plain ones a backslash counts as a slash.

* A segment that is one or two dots is resolved while a path is read, and never stands in one. Two
  dots take away the segment before them, unless that names a drive.
* `Path.push` adds one segment to a path: what would end a segment is percent encoded.
-/

namespace RunWatch

open Text

/-- How URLs of a scheme are read. -/
inductive SchemeKind where
  /-- They have a domain and a path, and a standard endpoint. -/
  | service
  /-- They name files: they may have a domain, and the path starts at a drive. -/
  | file
  /-- They may have any name for a host, or no path of segments at all. -/
  | plain
  deriving DecidableEq

namespace SchemeKind

/-- Whether a character is a slash, or counts as one. -/
def isSlash (k : SchemeKind) (c : Char) : Bool := c == '/' || (k != plain && c == '\\')

/-- Whether a character ends what stands before the path. -/
def startsPath (k : SchemeKind) (c : Char) : Bool := k.isSlash c || c == '?' || c == '#'

end SchemeKind

namespace Url

/-! ### Characters -/

/-- Whether a character is dropped wherever it stands. -/
def isLineBreak (c : Char) : Bool := c == '\t' || c == '\n' || c == '\r'

/-- The characters that are encoded in a fragment. -/
def fragmentMarks : List Char := [' ', '"', '<', '>', '\x60']

/-- The characters that are encoded in a query. -/
def queryMarks (k : SchemeKind) : List Char :=
  [' ', '"', '#', '<', '>'] ++ if k = .plain then [] else ['\x27']

/-- The characters that are encoded in a path. -/
def pathMarks : List Char := fragmentMarks ++ ['#', '?', '\x7b', '\x7d']

/-- The characters that are encoded in a segment that is pushed. -/
def segmentMarks (k : SchemeKind) : List Char :=
  pathMarks ++ ['/', '%'] ++ if k = .plain then [] else ['\\']

/-- A text in which some characters, controls and the characters that are none of ASCII are
encoded. -/
def encodeWith (marks cs : List Char) : String :=
  String.ofList (Percent.encode (fun c => Percent.isVisible c && !marks.contains c) cs)

end Url

namespace Path

/-! ### Segments -/

/-- Whether a segment is one dot. -/
def isDot (s : String) : Bool := [".", "%2e", "%2E"].contains s

/-- Whether a segment is two dots. -/
def isDoubleDot (s : String) : Bool :=
  ["..", ".%2e", ".%2E", "%2e.", "%2E.", "%2e%2e", "%2e%2E", "%2E%2e", "%2E%2E"].contains s

/-- Whether a text is a letter and a colon or a bar. -/
def isDrive : List Char → Bool
  | [a, b] => a.isAlpha && (b == ':' || b == '|')
  | _ => false

/-- Whether a segment names a drive, alone or in front of a backslash. -/
def namesDrive (s : String) : Bool :=
  isDrive (s.toList.take 2) && (s.toList.drop 2).head?.all (· == '\\')

/-- The segments that two dots leave, last first. -/
def shortened : List String → List String
  | [] => []
  | s :: rest => if namesDrive s then s :: rest else rest

/-- Resolves the dots of a path, `done` being the segments so far, last first. After dots at the end
stands an empty segment. -/
def resolveDots (done : List String) : List String → List String
  | [] => done.reverse
  | [s] =>
    (if isDoubleDot s then "" :: shortened done
      else if isDot s then "" :: done
      else s :: done).reverse
  | s :: rest =>
    resolveDots
      (if isDoubleDot s then shortened done else if isDot s then done else s :: done) rest

/-- The segments of a path after its first slash. -/
def segmentsOf (k : SchemeKind) (cs : List Char) : List String :=
  resolveDots [] ((splitOn k.isSlash cs).map (Url.encodeWith Url.pathMarks))

/-- A path whose first segment is not empty, unless it is the only one. -/
def withoutEmptyStart : List String → List String
  | "" :: s :: rest => withoutEmptyStart (s :: rest)
  | path => path

/-- The path of a text after what stands before it; the first slash may be missing. Only in a plain
scheme there may be no path, and only a path to a file loses the empty segments at its start. -/
def ofText (k : SchemeKind) (cs : List Char) : List String :=
  let segments := segmentsOf k (if cs.head?.any k.isSlash then cs.drop 1 else cs)
  match k with
  | .service => segments
  | .file => withoutEmptyStart segments
  | .plain => if cs.isEmpty then [] else segments

/-! ### Adding a segment -/

/-- A path without an empty segment at its end, unless it is the only one. -/
def withoutEmptyEnd (path : List String) : List String :=
  if 1 < path.length ∧ path.getLast? = some "" then path.dropLast else path

/-- A path with one more segment; an only segment that is empty gives way. -/
def append (path : List String) (segment : String) : List String :=
  if path = [""] then [segment] else path ++ [segment]

/-- Adds a segment to a path. One that is dots is left out. Line breaks are dropped from a segment;
one that becomes dots then takes effect as such. -/
def push (k : SchemeKind) (path : List String) (segment : String) : List String :=
  if segment = "." ∨ segment = ".." then path
  else
    let cs := segment.toList.filter fun c => !Url.isLineBreak c
    if cs = "..".toList then append (shortened path.reverse).reverse ""
    else if cs = ".".toList then append path ""
    else append path (Url.encodeWith (Url.segmentMarks k) cs)

/-- The path as it is written. -/
def text (path : List String) : String := String.join (path.map fun s => "/" ++ s)

end Path

end RunWatch
