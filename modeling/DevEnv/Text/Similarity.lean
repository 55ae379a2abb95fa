/-!
Likeness of words, after Ratcliff and Obershelp: the longest run that two words share, and then the
same to the left and to the right of it. Words are alike to the degree to which such runs make them
up.
-/

namespace DevEnv.Text

set_option autoImplicit false

/-- How many characters two lists share at their beginning. -/
def sharedStart : List Char → List Char → Nat
  | a :: as, b :: bs => if a = b then sharedStart as bs + 1 else 0
  | _, _ => 0

/-- A run that two lists share: where it begins in each one, and its length. -/
structure SharedRun where
  left : Nat
  right : Nat
  length : Nat
deriving DecidableEq, Repr

/-- The longest of `best` and the runs that begin at the head of `as`, which is `left` characters
into the first list; the number after `best` counts the characters of the second list gone by. -/
def longestAt (left : Nat) (as : List Char) (best : SharedRun) : Nat → List Char → SharedRun
  | _, [] => best
  | right, b :: bs =>
    let n := sharedStart as (b :: bs)
    longestAt left as (if best.length < n then ⟨left, right, n⟩ else best) (right + 1) bs

/-- The longest of `best` and the runs that begin in what is left of the first list. -/
def longestFrom (bs : List Char) (best : SharedRun) : Nat → List Char → SharedRun
  | _, [] => best
  | left, a :: as => longestFrom bs (longestAt left (a :: as) best 0 bs) (left + 1) as

/-- The longest shared run; of several the one that comes first in the first list, and then in the
second. -/
def longestRun (as bs : List Char) : SharedRun := longestFrom bs ⟨0, 0, 0⟩ 0 as

/-- How many characters lie in the shared runs of two lists; every run takes one unit of `fuel`. -/
def sharedChars : Nat → List Char → List Char → Nat
  | 0, _, _ => 0
  | fuel + 1, as, bs =>
    let run := longestRun as bs
    if run.length = 0 then 0
    else
      sharedChars fuel (as.take run.left) (bs.take run.right) + run.length +
        sharedChars fuel (as.drop (run.left + run.length)) (bs.drop (run.right + run.length))

/-- How alike two words are: the characters in shared runs, counted in both words, out of all. -/
structure Likeness where
  shared : Nat
  total : Nat
deriving DecidableEq, Repr

def likeness (a b : String) : Likeness :=
  let as := a.toList
  let bs := b.toList
  ⟨2 * sharedChars as.length as bs, as.length + bs.length⟩

namespace Likeness

/-- Words are close when three characters out of five are shared. -/
def isClose (l : Likeness) : Bool := 3 * l.total ≤ 5 * l.shared

/-- Whether one degree is at least another. -/
def atLeast (a b : Likeness) : Bool := b.shared * a.total ≤ a.shared * b.total

end Likeness

/-- Whether one candidate comes before another: the more alike one, and of two that are equally
alike the later one in the alphabet. -/
def isBetter (word a b : String) : Bool :=
  let la := likeness a word
  let lb := likeness b word
  if la.atLeast lb && lb.atLeast la then decide (b ≤ a) else la.atLeast lb

/-- At most three candidates that are close to a word, in alphabetical order. -/
def suggestions (word : String) (candidates : List String) : List String :=
  let close := candidates.filter fun c => (likeness c word).isClose
  let best := (close.mergeSort (isBetter word)).take 3
  best.mergeSort fun a b => decide (a ≤ b)

end DevEnv.Text
