import DevEnv.Binary64.Shortest
import DevEnv.Json.Basic
import DevEnv.Text.Blank
import DevEnv.Text.Quoted

/-!
Values as messages and build files show them. A text shows as it is; inside another value it is
quoted.
-/

namespace DevEnv

set_option autoImplicit false

namespace Binary64

/-- The digits with the point after so many of them, zeros where digits are wanting. -/
def positional (ds : List Char) (point : Int) : List Char :=
  if point ≤ 0 then '0' :: '.' :: List.replicate (-point).toNat '0' ++ ds
  else
    let front := ds.take point.toNat
    let back := ds.drop point.toNat
    front ++ List.replicate (point.toNat - ds.length) '0' ++
      '.' :: (if back.isEmpty then ['0'] else back)

/-- One digit before the point, and the power of ten with at least two digits. -/
def scientific (ds : List Char) (power : Int) : List Char :=
  let mark := if power < 0 then '-' else '+'
  let digits := Nat.toDigits 10 power.natAbs
  ds.take 1 ++ (if ds.length ≤ 1 then [] else '.' :: ds.tail) ++
    'e' :: mark :: (if digits.length < 2 then '0' :: digits else digits)

/-- A decimal from `10 ^ -4` up to `10 ^ 16` is written out, any other one with its power of ten. -/
def Decimal.display (d : Decimal) : String :=
  let all := Nat.toDigits 10 d.digits
  let ds := Text.dropTrailing (· == '0') all
  let point : Int := all.length + d.power
  String.ofList (if -4 < point ∧ point ≤ 16 then positional ds point else scientific ds (point - 1))

def display : Binary64 → String
  | .undefined => "nan"
  | .infinite negative => if negative then "-inf" else "inf"
  | .finite negative m e =>
    (if negative then "-" else "") ++ if m = 0 then "0.0" else (shortest m e).display

end Binary64

namespace Json

mutual

/-- A value inside another one. -/
def literal : Json → String
  | .null => "None"
  | .bool b => if b then "True" else "False"
  | .integer n => toString n
  | .real x => x.display
  | .text s => Text.quoted s
  | .brokenText ns => Text.quotedPoints ns
  | .list items => "[" ++ literalItems items ++ "]"
  | .object fields => "\x7b" ++ literalFields fields ++ "\x7d"

def literalItems : List Json → String
  | [] => ""
  | [v] => literal v
  | v :: vs => literal v ++ ", " ++ literalItems vs

def literalFields : List (String × Json) → String
  | [] => ""
  | [(k, v)] => Text.quoted k ++ ": " ++ literal v
  | (k, v) :: fs => Text.quoted k ++ ": " ++ literal v ++ ", " ++ literalFields fs

end

/-- A value on its own. -/
def display : Json → String
  | .text s => s
  | v => literal v

end Json

end DevEnv
