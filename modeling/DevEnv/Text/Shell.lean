/-!
Words of the POSIX shell: a text as one word that the shell reads back as that text.
-/

namespace DevEnv.Text

set_option autoImplicit false

/-- Characters that mean themselves outside quotes. -/
def isShellSafe (c : Char) : Bool :=
  c.isAlphanum || "_@%+=:,./-".toList.contains c

/-- Inside single quotes all is literal but the quote itself, which is closed off, written in double
quotes and opened again. -/
def shellLiteral (c : Char) : List Char :=
  if c = '\'' then ['\'', '"', '\'', '"', '\''] else [c]

/-- A text as one shell word; safe words stay as they are. -/
def shellWord (s : String) : String :=
  let cs := s.toList
  if cs.isEmpty then "''"
  else if cs.all isShellSafe then s
  else String.ofList ('\'' :: cs.flatMap shellLiteral ++ ['\''])

end DevEnv.Text
