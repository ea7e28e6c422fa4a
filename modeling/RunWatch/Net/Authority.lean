import RunWatch.Net.Host
import RunWatch.Net.Url.Path

/-!
# Authorities

The part of a URL between two slashes and the path: a name and a password before an at sign, a host,
and the number of an endpoint after a colon. `Authority.read` reads one from the front of a text and
gives what follows it.

The last at sign counts. What stands before it is percent encoded; a password is empty unless
something follows the first colon. The standard endpoint of a scheme is not kept.
-/

namespace RunWatch

open Text

/-- Who asks whom. -/
structure Authority where
  user : String
  password : String
  host : Host
  endpoint : Option Nat
  deriving DecidableEq

/-- Why a text has no authority. -/
inductive AuthorityFault where
  | host (fault : HostFault)
  | endpoint
  deriving DecidableEq

/-- The standard endpoint of a scheme. -/
def standardEndpoint? : String → Option Nat
  | "http" | "ws" => some 80
  | "https" | "wss" => some 443
  | "ftp" => some 21
  | _ => none

namespace Authority

/-- No authority but an empty one. -/
def empty : Authority := ⟨"", "", .name "", none⟩

/-! ### Reading -/

/-- The characters that are encoded in a name and a password. -/
def userMarks : List Char :=
  Url.pathMarks ++ ['/', ':', ';', '=', '@', '[', '\\', ']', '^', '|']

/-- The name and the password of what stands before an at sign. -/
def userOf (cs : List Char) : String × String :=
  (Url.encodeWith userMarks (cs.takeWhile (· != ':')),
    Url.encodeWith userMarks ((cs.dropWhile (· != ':')).drop 1))

/-- The host at the front of a text, up to a colon that is not between brackets, and what follows
it. -/
def splitHost (inBrackets : Bool) : List Char → List Char × List Char
  | [] => ([], [])
  | c :: rest =>
    if c = ':' ∧ inBrackets = false then ([], c :: rest)
    else
      let (host, after) := splitHost (c == '[' || (inBrackets && c != ']')) rest
      (c :: host, after)

/-- Reads the endpoint after a colon. It ends at a backslash, which is given back. -/
def readEndpoint (standard : Option Nat) :
    List Char → Except AuthorityFault (Option Nat × List Char)
  | [] => .ok (none, [])
  | _ :: rest =>
    let (ds, rest) := leadingDigits digit? rest
    if rest.head?.any (· != '\\') ∨ 65535 < ofDigits ds then .error .endpoint
    else if ds.isEmpty ∨ standard = some (ofDigits ds) then .ok (none, rest)
    else .ok (some (ofDigits ds), rest)

/-- Reads an authority of a scheme from the front of a text. An empty host is refused where a domain
is needed, and wherever something else stands in the authority. -/
def read (k : SchemeKind) (standard : Option Nat) (cs : List Char) :
    Except AuthorityFault (Authority × List Char) := do
  let whole := cs.takeWhile (!k.startsPath ·)
  let tail := cs.dropWhile (!k.startsPath ·)
  let (before, place) := match splitLast? '@' whole with
    | some (before, place) => (some before, place)
    | none => (none, whole)
  let (user, password) := userOf (before.getD [])
  let (name, after) := splitHost false place
  let isNamed := user != "" || password != "" || !after.isEmpty
  if name.isEmpty && (k == .service || isNamed || (before == some [] && !tail.isEmpty)) then
    throw (.host .empty)
  let host ← (Host.parse (k == .service) name).mapError .host
  let (endpoint, rest) ← readEndpoint standard after
  return (⟨user, password, host, endpoint⟩, rest ++ tail)

/-! ### Text -/

/-- What stands before the host. -/
def userText (a : Authority) : String :=
  if a.user = "" ∧ a.password = "" then ""
  else a.user ++ (if a.password = "" then "" else ":" ++ a.password) ++ "@"

/-- An authority as it is written. -/
def text (a : Authority) : String :=
  a.userText ++ a.host.text ++
    (a.endpoint.map fun n => String.ofList (':' :: digitsOf n)).getD ""

end Authority

end RunWatch
