import RunWatch.Number.Binary64

/-!
# JSON values

A number is an integer of 64 bits, with or without sign, or a binary floating-point number
(`Json.Number`). The members of an object that was read or built by `Json.ofMembers` have strictly
ascending keys in the order of code points, so each key stands once; `Json.get?` finds the value of
a key and is `none` on everything that is not an object.
-/

namespace RunWatch

/-- An integer that fits 64 bits, with or without a sign. -/
structure WideInt where
  value : Int
  least : leastWord64 ≤ value
  most : value ≤ mostWord64
  deriving DecidableEq

/-- An integer, if it fits. -/
def WideInt.ofInt? (n : Int) : Option WideInt :=
  if h : leastWord64 ≤ n ∧ n ≤ mostWord64 then some ⟨n, h.1, h.2⟩ else none

/-- A number of JSON. -/
inductive Json.Number where
  | integer (n : WideInt)
  | float (x : Binary64)
  deriving DecidableEq

/-- The number as a floating-point number. -/
def Json.Number.toBinary64 : Json.Number → Binary64
  | .integer n => .ofInt n.value
  | .float x => x

/-- The number as a count, if it is an integer without a minus sign. -/
def Json.Number.toCount? : Json.Number → Option Nat
  | .integer n => if 0 ≤ n.value then some n.value.toNat else none
  | .float _ => none

/-- A value of JSON. -/
inductive Json where
  | null
  | bool (b : Bool)
  | number (n : Json.Number)
  | string (s : String)
  | array (items : List Json)
  | object (members : List (String × Json))

namespace Json

instance : Inhabited Json := ⟨null⟩

/-! ### Equality -/

mutual

/-- Whether two values are the same. -/
def same : Json → Json → Bool
  | null, null => true
  | bool a, bool b => decide (a = b)
  | number a, number b => decide (a = b)
  | string a, string b => decide (a = b)
  | array a, array b => sameItems a b
  | object a, object b => sameMembers a b
  | _, _ => false

/-- Whether two lists of values are the same. -/
def sameItems : List Json → List Json → Bool
  | [], [] => true
  | a :: as, b :: bs => same a b && sameItems as bs
  | _, _ => false

/-- Whether two lists of members are the same. -/
def sameMembers : List (String × Json) → List (String × Json) → Bool
  | [], [] => true
  | (k, a) :: as, (l, b) :: bs => decide (k = l) && same a b && sameMembers as bs
  | _, _ => false

end

mutual

theorem eq_of_same : (a b : Json) → same a b = true → a = b
  | null, b => by cases b <;> simp [same]
  | bool a, b => by cases b <;> simp [same]
  | number a, b => by cases b <;> simp [same]
  | string a, b => by cases b <;> simp [same]
  | array a, b => by
    cases b <;> simp only [same, Bool.false_eq_true, false_implies, array.injEq]
    exact eq_of_sameItems a _
  | object a, b => by
    cases b <;> simp only [same, Bool.false_eq_true, false_implies, object.injEq]
    exact eq_of_sameMembers a _

theorem eq_of_sameItems : (as bs : List Json) → sameItems as bs = true → as = bs
  | [], bs => by cases bs <;> simp [sameItems]
  | a :: as, bs => by
    cases bs with
    | nil => simp [sameItems]
    | cons b bs =>
      simp only [sameItems, Bool.and_eq_true, List.cons.injEq, and_imp]
      exact fun h h' => ⟨eq_of_same a b h, eq_of_sameItems as bs h'⟩

theorem eq_of_sameMembers : (as bs : List (String × Json)) → sameMembers as bs = true → as = bs
  | [], bs => by cases bs <;> simp [sameMembers]
  | (k, a) :: as, bs => by
    cases bs with
    | nil => simp [sameMembers]
    | cons e bs =>
      obtain ⟨l, b⟩ := e
      simp only [sameMembers, Bool.and_eq_true, decide_eq_true_eq, List.cons.injEq, Prod.mk.injEq,
        and_imp]
      exact fun h h' h'' => ⟨⟨h, eq_of_same a b h'⟩, eq_of_sameMembers as bs h''⟩

end

mutual

theorem same_self : (a : Json) → same a a = true
  | null => rfl
  | bool _ => by simp [same]
  | number _ => by simp [same]
  | string _ => by simp [same]
  | array items => by rw [same]; exact sameItems_self items
  | object members => by rw [same]; exact sameMembers_self members

theorem sameItems_self : (as : List Json) → sameItems as as = true
  | [] => rfl
  | a :: as => by rw [sameItems, same_self a, sameItems_self as]; rfl

theorem sameMembers_self : (as : List (String × Json)) → sameMembers as as = true
  | [] => rfl
  | (k, a) :: as => by simp [sameMembers, same_self a, sameMembers_self as]

end

instance : DecidableEq Json := fun a b =>
  if h : same a b = true then isTrue (eq_of_same a b h)
  else isFalse fun e => h (e ▸ same_self a)

/-! ### Zeros -/

mutual

/-- The value with positive zero for every negative zero. -/
def withoutSignedZeros : Json → Json
  | number (.float x) => number (.float x.withoutSignedZero)
  | array items => array (itemsWithoutSignedZeros items)
  | object members => object (membersWithoutSignedZeros members)
  | v => v

/-- A list of values with positive zero for every negative zero. -/
def itemsWithoutSignedZeros : List Json → List Json
  | [] => []
  | v :: vs => withoutSignedZeros v :: itemsWithoutSignedZeros vs

/-- A list of members with positive zero for every negative zero. -/
def membersWithoutSignedZeros : List (String × Json) → List (String × Json)
  | [] => []
  | (k, v) :: ms => (k, withoutSignedZeros v) :: membersWithoutSignedZeros ms

end

/-! ### Members -/

/-- The value of a key in a list of members: that of the first member with the key. -/
def member? (key : String) : List (String × Json) → Option Json
  | [] => none
  | (k, v) :: rest => if k = key then some v else member? key rest

/-- The value of a key of an object. -/
def get? (v : Json) (key : String) : Option Json :=
  match v with
  | object members => member? key members
  | _ => none

/-- The value at the end of a path of keys. -/
def at? (v : Json) : List String → Option Json
  | [] => some v
  | key :: path => (v.get? key).bind fun w => w.at? path

/-- Puts a member into a list with ascending keys, unless its key stands there. -/
def insertMember (key : String) (v : Json) : List (String × Json) → List (String × Json)
  | [] => [(key, v)]
  | (k, w) :: rest =>
    if key < k then (key, v) :: (k, w) :: rest
    else if key = k then (k, w) :: rest
    else (k, w) :: insertMember key v rest

/-- The members with ascending keys; of members with one key the last one stands. -/
def sortMembers (members : List (String × Json)) : List (String × Json) :=
  members.foldr (fun e rest => insertMember e.1 e.2 rest) []

/-- An object with given members, in any order. -/
def ofMembers (members : List (String × Json)) : Json := object (sortMembers members)

/-- An object of those members that are present. -/
def ofFields (fields : List (String × Option Json)) : Json :=
  ofMembers (fields.filterMap fun f => f.2.map fun v => (f.1, v))

/-! ### Kinds of values -/

/-- Whether a value is `null`. -/
def isNull : Json → Bool
  | null => true
  | _ => false

/-- The text of a string. -/
def toText? : Json → Option String
  | string s => some s
  | _ => none

/-- The text of a string that is not empty. -/
def toFullText? (v : Json) : Option String := v.toText?.filter (· ≠ "")

/-- The value of a boolean. -/
def toBool? : Json → Option Bool
  | bool b => some b
  | _ => none

/-- The members of an object. -/
def toMembers? : Json → Option (List (String × Json))
  | object members => some members
  | _ => none

/-- The items of an array. -/
def toItems? : Json → Option (List Json)
  | array items => some items
  | _ => none

/-- A number as a floating-point number. -/
def toBinary64? : Json → Option Binary64
  | number n => some n.toBinary64
  | _ => none

/-- A number as a count, if it is an integer without a minus sign. -/
def toCount? : Json → Option Nat
  | number n => n.toCount?
  | _ => none

/-! ### Building values -/

/-- An integer of 64 bits as a value, and a larger one as `null`. -/
def ofInt (n : Int) : Json :=
  match WideInt.ofInt? n with
  | some n => number (.integer n)
  | none => null

/-- A natural number as a value. -/
def ofNat (n : Nat) : Json := ofInt n

/-- A floating-point number as a value; infinity is written as `null`. -/
def ofBinary64 (x : Binary64) : Json := if x.isFinite then number (.float x) else null

/-- A value that may be missing, with `null` in its place. -/
def ofOption {α : Type} (f : α → Json) : Option α → Json
  | some a => f a
  | none => null

end Json

end RunWatch
