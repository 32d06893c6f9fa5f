import Casework.Double
import Casework.SortedMap

/-!
JSON values. Whole numbers and doubles are different values, and an object is the
list of its members in the order in which it is written.

Two relations compare values. Equality is written form for written form. `agrees`
is numeric on doubles, so that the two zeros agree, and equality elsewhere.
-/

namespace Casework

/-- A JSON value. -/
inductive Json where
  | null
  | bool (b : Bool)
  | int (n : Int)
  | double (x : Double)
  | text (s : String)
  | list (items : List Json)
  | object (members : List (String × Json))
  deriving Inhabited

namespace Json

/-! ### Equality -/

mutual

/-- Equality of values is decided along their structure. -/
def decEq : (a b : Json) → Decidable (a = b)
  | .null, .null => isTrue rfl
  | .bool a, .bool b =>
    if h : a = b then isTrue (by rw [h]) else isFalse fun e => h (by injection e)
  | .int a, .int b =>
    if h : a = b then isTrue (by rw [h]) else isFalse fun e => h (by injection e)
  | .double a, .double b =>
    if h : a = b then isTrue (by rw [h]) else isFalse fun e => h (by injection e)
  | .text a, .text b =>
    if h : a = b then isTrue (by rw [h]) else isFalse fun e => h (by injection e)
  | .list a, .list b =>
    match decEqItems a b with
    | isTrue h => isTrue (by rw [h])
    | isFalse h => isFalse fun e => h (by injection e)
  | .object a, .object b =>
    match decEqMembers a b with
    | isTrue h => isTrue (by rw [h])
    | isFalse h => isFalse fun e => h (by injection e)
  | .null, .bool _ | .null, .int _ | .null, .double _ | .null, .text _ | .null, .list _
  | .null, .object _ | .bool _, .null | .bool _, .int _ | .bool _, .double _ | .bool _, .text _
  | .bool _, .list _ | .bool _, .object _ | .int _, .null | .int _, .bool _ | .int _, .double _
  | .int _, .text _ | .int _, .list _ | .int _, .object _ | .double _, .null | .double _, .bool _
  | .double _, .int _ | .double _, .text _ | .double _, .list _ | .double _, .object _
  | .text _, .null | .text _, .bool _ | .text _, .int _ | .text _, .double _ | .text _, .list _
  | .text _, .object _ | .list _, .null | .list _, .bool _ | .list _, .int _ | .list _, .double _
  | .list _, .text _ | .list _, .object _ | .object _, .null | .object _, .bool _
  | .object _, .int _ | .object _, .double _ | .object _, .text _ | .object _, .list _ =>
    isFalse nofun

def decEqItems : (a b : List Json) → Decidable (a = b)
  | [], [] => isTrue rfl
  | x :: xs, y :: ys =>
    match decEq x y with
    | isFalse h => isFalse fun e => h (by injection e)
    | isTrue first =>
      match decEqItems xs ys with
      | isFalse h => isFalse fun e => h (by injection e)
      | isTrue rest => isTrue (by rw [first, rest])
  | [], _ :: _ | _ :: _, [] => isFalse nofun

def decEqMembers : (a b : List (String × Json)) → Decidable (a = b)
  | [], [] => isTrue rfl
  | (k, x) :: xs, (l, y) :: ys =>
    if key : k = l then
      match decEq x y with
      | isFalse h => isFalse fun e => h (by injection e with e; exact (Prod.mk.inj e).2)
      | isTrue first =>
        match decEqMembers xs ys with
        | isFalse h => isFalse fun e => h (by injection e)
        | isTrue rest => isTrue (by rw [key, first, rest])
    else isFalse fun e => key (by injection e with e; exact (Prod.mk.inj e).1)
  | [], _ :: _ | _ :: _, [] => isFalse nofun

end

instance : DecidableEq Json := decEq

/-! ### Agreement up to the sign of zero -/

mutual

/-- Equal values, doubles compared as numbers. -/
def agrees : Json → Json → Bool
  | .null, .null => true
  | .bool a, .bool b => a == b
  | .int a, .int b => a == b
  | .double a, .double b => a.agrees b
  | .text a, .text b => a == b
  | .list a, .list b => itemsAgree a b
  | .object a, .object b => membersAgree a b
  | _, _ => false

/-- Lists of one length whose items agree place by place. -/
def itemsAgree : List Json → List Json → Bool
  | [], [] => true
  | x :: xs, y :: ys => agrees x y && itemsAgree xs ys
  | _, _ => false

/-- Lists of members with the same names in the same places, and agreeing values. -/
def membersAgree : List (String × Json) → List (String × Json) → Bool
  | [], [] => true
  | (k, x) :: xs, (l, y) :: ys => k == l && agrees x y && membersAgree xs ys
  | _, _ => false

end

/-! ### Access -/

/-- The value of the first member with this name; other values than objects have none. -/
def member? (name : String) : Json → Option Json
  | .object members => members.lookup name
  | _ => none

end Json
end Casework
