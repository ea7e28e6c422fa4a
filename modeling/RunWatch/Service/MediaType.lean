/-!
# Media types

The content type of a request: a type, a subtype, a suffix after the last plus sign of the subtype,
and parameters, which are checked and not kept. Case does not count outside parameters.
-/

namespace RunWatch

/-- A media type in lower case. -/
structure MediaType where
  type : String
  subtype : String
  suffix : Option String
  deriving DecidableEq

namespace MediaType

/-- Whether a character may stand in a name. -/
def isToken (c : Char) : Bool := c.isAlphanum || "!#$%&*+-.^_|~\x60\x27".toList.contains c

/-- Whether a character may stand between quotes. -/
def isQuotable (c : Char) : Bool := 0x20 ≤ c.toNat && c.toNat < 0x7f

/-- How far the parameters have been read. -/
inductive Phase where
  | start
  | name
  | valueStart
  | value
  | quoteStart
  | quoted
  | afterQuote
  | broken

/-- The phase after one more character. -/
def Phase.step (p : Phase) (c : Char) : Phase :=
  match p with
  | start => if c = ' ' then start else if isToken c then name else broken
  | name => if isToken c then name else if c = '=' then valueStart else broken
  | valueStart => if c = '"' then quoteStart else if isToken c then value else broken
  | value => if isToken c then value else if c = ';' then start else broken
  | quoteStart => if isQuotable c then quoted else broken
  | quoted => if c = '"' then afterQuote else if isQuotable c then quoted else broken
  | afterQuote => if c = ' ' then afterQuote else if c = ';' then start else broken
  | broken => broken

/-- Whether parameters may end here. -/
def Phase.isEnd : Phase → Bool
  | start | valueStart | value | afterQuote => true
  | name | quoteStart | quoted | broken => false

/-- The name of some characters in lower case. -/
def lower (cs : List Char) : String := String.ofList (cs.map Char.toLower)

/-- The subtype and suffix of some characters. A plus sign at their start is none. -/
def splitSuffix (cs : List Char) : String × Option String :=
  let after := (cs.reverse.takeWhile (· != '+')).reverse
  let before := cs.take (cs.length - after.length - 1)
  if after.length = cs.length ∨ before.isEmpty then (lower cs, none)
  else (lower before, some (lower after))

/-- The media type that a text is. -/
def parse? (s : String) : Option MediaType :=
  match s.toList.takeWhile isToken, s.toList.dropWhile isToken with
  | t :: ts, '/' :: rest =>
    let (subtype, suffix) := splitSuffix (rest.takeWhile isToken)
    let type := lower (t :: ts)
    match rest.dropWhile isToken with
    | [] => some ⟨type, subtype, suffix⟩
    | ';' :: params =>
      if subtype ≠ "" ∧ (params.foldl Phase.step .start).isEnd = true then
        some ⟨type, subtype, suffix⟩
      else none
    | _ => none
  | _, _ => none

/-- Whether a type is one of JSON. -/
def isJson (m : MediaType) : Bool :=
  m.type == "application" && (m.subtype == "json" || m.suffix == some "json")

end MediaType

end RunWatch
