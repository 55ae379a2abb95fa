/-!
Lines of a text. A line ends at a line feed, a carriage return or both together, and at the other
separators of Unicode.
-/

namespace DevEnv.Text

set_option autoImplicit false

/-- Characters that end a line. -/
def isLineBreak (c : Char) : Bool :=
  let n := c.toNat
  (0x0A ≤ n && n ≤ 0x0D) || (0x1C ≤ n && n ≤ 0x1E) || n == 0x85 || n == 0x2028 || n == 0x2029

/-- The lines of a text whose first line has begun with `line`, last character first. -/
def linesAfter (line : List Char) : List Char → List (List Char)
  | [] => if line.isEmpty then [] else [line.reverse]
  | '\r' :: '\n' :: rest => line.reverse :: linesAfter [] rest
  | c :: rest =>
    if isLineBreak c then line.reverse :: linesAfter [] rest else linesAfter (c :: line) rest

/-- The lines of a text without what ends them; a break at the end begins no further line. -/
def lines (cs : List Char) : List (List Char) := linesAfter [] cs

/-- A text in which each line feed with a carriage return before it is a bare line feed. -/
def plainBreaks : List Char → List Char
  | [] => []
  | '\r' :: '\n' :: rest => '\n' :: plainBreaks rest
  | c :: rest => c :: plainBreaks rest

end DevEnv.Text
