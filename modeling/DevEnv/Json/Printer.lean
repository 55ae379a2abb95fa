import DevEnv.Json.Basic
import DevEnv.Text.Surrogate

/-!
Writing JSON text, on one line or with every item on a line of its own. Quotes, backslashes and
control characters are always escaped; a form says whether all that is not plain ASCII is too.
-/

namespace DevEnv.Json

set_option autoImplicit false

-- Powers of core, whatever other instances are in scope.
attribute [local instance (2000)] instPowNat

/-- Which characters are escaped besides those that must be. -/
inductive Escaping
  | required
  /-- Also everything outside space to tilde. -/
  | nonAscii
deriving DecidableEq, Repr

/-- The escape of a code point below 2 ^ 16. -/
def unitEscape (n : Nat) : List Char := '\\' :: 'u' :: Text.hex 4 n

/-- One character of a string. -/
def escapedChar (e : Escaping) (c : Char) : List Char :=
  let n := c.toNat
  match c with
  | '"' => ['\\', '"']
  | '\\' => ['\\', '\\']
  | '\n' => ['\\', 'n']
  | '\r' => ['\\', 'r']
  | '\t' => ['\\', 't']
  | '\x08' => ['\\', 'b']
  | '\x0c' => ['\\', 'f']
  | c =>
    if n < 0x20 then unitEscape n
    else if n < 0x7F ∨ e = .required then [c]
    else if n < 0x10000 then unitEscape n
    else
      unitEscape (0xD800 + (n - 0x10000) / 0x400) ++ unitEscape (0xDC00 + (n - 0x10000) % 0x400)

/-- One code point of a broken text. -/
def escapedPoint (n : Nat) : List Char :=
  if Text.isSurrogate n then unitEscape n else escapedChar .nonAscii (Char.ofNat n)

/-- A broken text, which is written in ASCII only. -/
def quotePoints (ns : List Nat) : String :=
  String.ofList ('"' :: ns.flatMap escapedPoint ++ ['"'])

def quote (e : Escaping) (s : String) : String :=
  String.ofList ('"' :: s.toList.flatMap (escapedChar e) ++ ['"'])

/-- The exact decimal expansion of a number, always with a fraction. -/
def realText : Binary64 → String
  | .undefined => "NaN"
  | .infinite negative => if negative then "-Infinity" else "Infinity"
  | .finite negative m e =>
    let sign := if negative then "-" else ""
    if 0 ≤ e then sign ++ toString (m * 2 ^ e.toNat) ++ ".0"
    else
      let places := (-e).toNat
      let rest := toString (m % 2 ^ places * 5 ^ places)
      sign ++ toString (m / 2 ^ places) ++ "." ++
        "".pushn '0' (places - rest.length) ++ rest

/-- Values that have no parts. -/
def scalarText (e : Escaping) : Json → String
  | .null => "null"
  | .bool b => if b then "true" else "false"
  | .integer n => toString n
  | .real x => realText x
  | .text s => quote e s
  | .brokenText ns => quotePoints ns
  | .list _ => "[]"
  | .object _ => "\x7b\x7d"

mutual

/-- The value on one line. -/
def compact : Json → String
  | .list items => "[" ++ compactItems items ++ "]"
  | .object fields => "\x7b" ++ compactFields fields ++ "\x7d"
  | v => scalarText .nonAscii v

def compactItems : List Json → String
  | [] => ""
  | [v] => compact v
  | v :: vs => compact v ++ "," ++ compactItems vs

def compactFields : List (String × Json) → String
  | [] => ""
  | [(k, v)] => quote .nonAscii k ++ ":" ++ compact v
  | (k, v) :: rest => quote .nonAscii k ++ ":" ++ compact v ++ "," ++ compactFields rest

end

/-- A new line at a depth of nesting. -/
def newline (depth : Nat) : String := "\n" ++ "".pushn ' ' (2 * depth)

mutual

/-- The value with each item on its own line, two spaces further in than what holds it. -/
def indented (e : Escaping) (depth : Nat) : Json → String
  | .list (v :: vs) =>
    "[" ++ indentedItems e (depth + 1) (v :: vs) ++ newline depth ++ "]"
  | .object (f :: fs) =>
    "\x7b" ++ indentedFields e (depth + 1) (f :: fs) ++ newline depth ++ "\x7d"
  | v => scalarText e v

def indentedItems (e : Escaping) (depth : Nat) : List Json → String
  | [] => ""
  | [v] => newline depth ++ indented e depth v
  | v :: vs => newline depth ++ indented e depth v ++ "," ++ indentedItems e depth vs

def indentedFields (e : Escaping) (depth : Nat) : List (String × Json) → String
  | [] => ""
  | [(k, v)] => newline depth ++ quote e k ++ ": " ++ indented e depth v
  | (k, v) :: rest =>
    newline depth ++ quote e k ++ ": " ++ indented e depth v ++ "," ++ indentedFields e depth rest

end

/-- The text of a value with an item per line. -/
def pretty (e : Escaping) (v : Json) : String := indented e 0 v

end DevEnv.Json
