import DevEnv.Binary64
import DevEnv.Text.Surrogate

/-!
JSON values. Integers are exact and of any size, all other numbers are binary floating-point
numbers; an object keeps its keys in order of first appearance, each key once.
-/

namespace DevEnv

set_option autoImplicit false

inductive Json
  | null
  | bool (b : Bool)
  | integer (n : Int)
  | real (x : Binary64)
  | text (s : String)
  /-- The code points of a text in which halves of surrogate pairs are left alone. -/
  | brokenText (points : List Nat)
  | list (items : List Json)
  | object (fields : List (String × Json))
deriving Repr, Inhabited

namespace Json

/-! ### Equality -/

mutual

/-- Whether two values are the same. -/
def same : Json → Json → Bool
  | .null, .null => true
  | .bool a, .bool b => a == b
  | .integer m, .integer n => m == n
  | .real x, .real y => x == y
  | .text s, .text t => s == t
  | .brokenText s, .brokenText t => s == t
  | .list vs, .list ws => sameItems vs ws
  | .object fs, .object gs => sameFields fs gs
  | _, _ => false

def sameItems : List Json → List Json → Bool
  | [], [] => true
  | v :: vs, w :: ws => same v w && sameItems vs ws
  | _, _ => false

def sameFields : List (String × Json) → List (String × Json) → Bool
  | [], [] => true
  | (k, v) :: fs, (l, w) :: gs => k == l && same v w && sameFields fs gs
  | _, _ => false

end

mutual

theorem eq_of_same : ∀ v w : Json, same v w = true → v = w
  | .null, w => by cases w <;> simp [same]
  | .bool _, w => by cases w <;> simp [same]
  | .integer _, w => by cases w <;> simp [same]
  | .real _, w => by cases w <;> simp [same]
  | .text _, w => by cases w <;> simp [same]
  | .brokenText _, w => by cases w <;> simp [same]
  | .list vs, w => by
    cases w <;> simp only [same, Bool.false_eq_true, false_implies]
    exact fun h => congrArg _ (eq_of_sameItems vs _ h)
  | .object fs, w => by
    cases w <;> simp only [same, Bool.false_eq_true, false_implies]
    exact fun h => congrArg _ (eq_of_sameFields fs _ h)

theorem eq_of_sameItems : ∀ vs ws : List Json, sameItems vs ws = true → vs = ws
  | [], [] => fun _ => rfl
  | [], _ :: _ => by simp [sameItems]
  | _ :: _, [] => by simp [sameItems]
  | v :: vs, w :: ws => by
    intro h
    simp only [sameItems, Bool.and_eq_true] at h
    rw [eq_of_same v w h.1, eq_of_sameItems vs ws h.2]

theorem eq_of_sameFields : ∀ fs gs : List (String × Json), sameFields fs gs = true → fs = gs
  | [], [] => fun _ => rfl
  | [], _ :: _ => by simp [sameFields]
  | _ :: _, [] => by simp [sameFields]
  | (k, v) :: fs, (l, w) :: gs => by
    intro h
    simp only [sameFields, Bool.and_eq_true, beq_iff_eq] at h
    rw [h.1.1, eq_of_same v w h.1.2, eq_of_sameFields fs gs h.2]

end

mutual

theorem same_self : ∀ v : Json, same v v = true
  | .null | .bool _ | .integer _ | .real _ | .text _ | .brokenText _ => by simp [same]
  | .list vs => by rw [same]; exact sameItems_self vs
  | .object fs => by rw [same]; exact sameFields_self fs

theorem sameItems_self : ∀ vs : List Json, sameItems vs vs = true
  | [] => rfl
  | v :: vs => by simp [sameItems, same_self v, sameItems_self vs]

theorem sameFields_self : ∀ fs : List (String × Json), sameFields fs fs = true
  | [] => rfl
  | (_, v) :: fs => by simp [sameFields, same_self v, sameFields_self fs]

end

instance : DecidableEq Json := fun v w =>
  if h : same v w = true then isTrue (eq_of_same v w h)
  else isFalse fun e => h (e ▸ same_self v)

/-! ### Parts and classes of values -/

/-- The value of a key of an object. -/
def get? (key : String) : Json → Option Json
  | .object fields => fields.lookup key
  | _ => none

/-- Binds a key: a new one goes to the end, a known one keeps its place. -/
def bind (key : String) (value : Json) : List (String × Json) → List (String × Json)
  | [] => [(key, value)]
  | (k, v) :: rest => if k = key then (k, value) :: rest else (k, v) :: bind key value rest

/-- Everything but null, false, zero and what is empty. -/
def isTruthy : Json → Bool
  | .null => false
  | .bool b => b
  | .integer n => n != 0
  | .real x => !x.isZero
  | .text s => !s.isEmpty
  | .brokenText ns => !ns.isEmpty
  | .list items => !items.isEmpty
  | .object fields => !fields.isEmpty

theorem isTruthy_text {s : String} (h : s ≠ "") : (text s).isTruthy = true := by
  simpa [isTruthy] using h

/-- The name of a value's type in messages. -/
def typeName : Json → String
  | .null => "NoneType"
  | .bool _ => "bool"
  | .integer _ => "int"
  | .real _ => "float"
  | .text _ | .brokenText _ => "str"
  | .list _ => "list"
  | .object _ => "dict"

/-- Lists and objects are never keys of a table. -/
def isKey : Json → Bool
  | .list _ | .object _ => false
  | _ => true

/-- A text, or null for none. -/
def ofText? : Option String → Json
  | some s => .text s
  | none => .null

/-- An integer, or null for none. -/
def ofInteger? : Option Int → Json
  | some n => .integer n
  | none => .null

def ofTexts (ss : List String) : Json := .list (ss.map .text)

/-! ### Broken texts -/

mutual

/-- The code points of all texts in the value. -/
def points : Json → List Nat
  | .text s => s.toList.map Char.toNat
  | .brokenText ns => ns
  | .list items => itemPoints items
  | .object fields => fieldPoints fields
  | _ => []

def itemPoints : List Json → List Nat
  | [] => []
  | v :: vs => points v ++ itemPoints vs

def fieldPoints : List (String × Json) → List Nat
  | [] => []
  | (_, v) :: fs => points v ++ fieldPoints fs

end

mutual

/-- The value with stand-ins in its broken texts, which makes them texts. -/
def withStandIns (d : Text.StandIns) : Json → Json
  | .brokenText ns => .text (d.text ns)
  | .list items => .list (itemsWithStandIns d items)
  | .object fields => .object (fieldsWithStandIns d fields)
  | v => v

def itemsWithStandIns (d : Text.StandIns) : List Json → List Json
  | [] => []
  | v :: vs => withStandIns d v :: itemsWithStandIns d vs

def fieldsWithStandIns (d : Text.StandIns) : List (String × Json) → List (String × Json)
  | [] => []
  | (k, v) :: fs => (k, withStandIns d v) :: fieldsWithStandIns d fs

end

mutual

/-- The value with halves in the place of stand-ins. -/
def withHalves (d : Text.StandIns) : Json → Json
  | .text s => if d.occurIn s then .brokenText (d.points s) else .text s
  | .list items => .list (itemsWithHalves d items)
  | .object fields => .object (fieldsWithHalves d fields)
  | v => v

def itemsWithHalves (d : Text.StandIns) : List Json → List Json
  | [] => []
  | v :: vs => withHalves d v :: itemsWithHalves d vs

def fieldsWithHalves (d : Text.StandIns) : List (String × Json) → List (String × Json)
  | [] => []
  | (k, v) :: fs => (k, withHalves d v) :: fieldsWithHalves d fs

end

end Json

end DevEnv
