import DevEnv.Text.Digit
import DevEnv.Text.PrintableTable
import DevEnv.Text.Ranges
import DevEnv.Text.Surrogate

/-!
The quoted form in which messages show a text: in single quotes, or in double quotes when only
these spare an escape, with backslash escapes for whatever has no glyph.
-/

namespace DevEnv.Text

set_option autoImplicit false

def isPrintable (c : Char) : Bool := !inRanges unprintableRanges c.toNat

/-- One character between quotes of the given kind. -/
def quotedChar (quote : Char) (c : Char) : List Char :=
  let n := c.toNat
  if c = quote ∨ c = '\\' then ['\\', c]
  else if c = '\n' then ['\\', 'n']
  else if c = '\r' then ['\\', 'r']
  else if c = '\t' then ['\\', 't']
  else if isPrintable c then [c]
  else if n < 0x100 then '\\' :: 'x' :: hex 2 n
  else if n < 0x10000 then '\\' :: 'u' :: hex 4 n
  else '\\' :: 'U' :: hex 8 n

/-- One code point; half of a pair has no glyph. -/
def quotedPoint (quote : Char) (n : Nat) : List Char :=
  if isSurrogate n then '\\' :: 'u' :: hex 4 n else quotedChar quote (Char.ofNat n)

/-- The quotes that characters are put in. -/
def quoteFor (cs : List Char) : Char :=
  if cs.contains '\'' && !cs.contains '"' then '"' else '\''

def quoted (s : String) : String :=
  let quote := quoteFor s.toList
  String.ofList (quote :: s.toList.flatMap (quotedChar quote) ++ [quote])

/-- The quoted form of a text that is given by its code points. -/
def quotedPoints (ns : List Nat) : String :=
  let quote := quoteFor (ns.map Char.ofNat)
  String.ofList (quote :: ns.flatMap (quotedPoint quote) ++ [quote])

end DevEnv.Text
