import SecureSockets.Regex.Basic

namespace SecureSockets.Regex

/-!
What the compiler of patterns decides by itself.  The syntax of a pattern says which
expression it stands for, but neither how large the program of the expression becomes nor
how a refusal is worded.  Both are left open here, so that nothing which is said of a
pattern depends on them.
-/

/-- A compiler of patterns, apart from the syntax that it reads.  Nothing is promised of
either part: a compiler may admit no expression at all. -/
structure Compiler where
  /-- Whether the program of an expression stays within the limit on its size. -/
  admits : Regex → Bool
  /-- What the compiler has to say about a pattern that it refuses. -/
  explain : List Char → String

/-!
## An estimate

Patterns can be run only with some compiler.  The one below guesses sizes, in bytes: a
state of the program for each character of an ASCII set and for each part of the
expression, many states for a class of all scripts, and a copy of the body for each
repetition that is counted.  The guess is good enough to tell expressions of ordinary
size from repetitions of repetitions of thousands, and is relied on for nothing else.
-/

def CharSet.weight : CharSet → Nat
  | empty => 32
  | range _ last => if last < 128 then 40 else 200
  | digit => 2000
  | blank => 400
  | word => 12000
  | property _ => 10000
  | union left right | intersection left right | difference left right
  | symmetricDifference left right => left.weight + right.weight
  | complement set => set.weight + 400
  | folded _ set => set.weight

def weight : Regex → Nat
  | empty => 32
  | chars set => set.weight
  | look _ => 32
  | seq first second => first.weight + second.weight
  | alt left right => left.weight + right.weight + 32
  | rep body least most => body.weight * (max 1 (most.getD (least + 1))) + 32

/-- A compiler with the usual limit of ten mebibytes, which it holds against the estimate.
The words it finds for a refusal are placeholders. -/
def Compiler.estimating : Compiler where
  admits regex := decide (regex.weight ≤ 10 * Nat.pow 2 20)
  explain _ := "the pattern is malformed or exceeds a limit"

end SecureSockets.Regex
