/-!
Build files, as lines. A line may hold a line break of its own when a quoted secret does.
-/

namespace DevEnv

set_option autoImplicit false

structure Dockerfile where
  lines : List String
deriving DecidableEq, Repr

namespace Dockerfile

/-- The lines, each but the last followed by a line break, and one line break at the end. -/
def text (d : Dockerfile) : String := "\n".intercalate d.lines ++ "\n"

/-- The pieces of a text between its line breaks. -/
def splitLines : List Char → List (List Char)
  | [] => [[]]
  | c :: rest =>
    if c = '\n' then [] :: splitLines rest
    else match splitLines rest with
      | [] => [[c]]
      | line :: lines => (c :: line) :: lines

/-- The build file of a text; line breaks at its end do not count. -/
def ofText (s : String) : Dockerfile :=
  let body := (s.toList.reverse.dropWhile (· == '\n')).reverse
  ⟨(splitLines body).map String.ofList⟩

end Dockerfile

end DevEnv
