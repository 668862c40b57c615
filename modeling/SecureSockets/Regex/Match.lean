import SecureSockets.Regex.Basic

namespace SecureSockets.Regex

/-!
Matching by sets of places.  A place is the number of characters in front of it, and a
set of places is a number whose bits are its members.  From the set of places where an
expression may start follows the set of places where it may end, so that no choice is
ever taken back.
-/

def charPlaces (test : Char → Bool) : List Char → Nat
  | [] => 0
  | c :: rest => (if test c then 1 else 0) + 2 * charPlaces test rest

/-- The places where a condition holds; `before` is the character in front of the text. -/
def lookPlaces (look : Look) (before : Option Char) : List Char → Nat
  | [] => if look.holds before none then 1 else 0
  | c :: rest =>
    (if look.holds before (some c) then 1 else 0) + 2 * lookPlaces look (some c) rest

/-- What an expression does to places of one text.  Every question about characters is
answered when the plan is made, so that following it is arithmetic on sets of places. -/
inductive Plan where
  | stay
  /-- Moves on by one character from the given places. -/
  | advance (places : Nat)
  /-- Stays at the given places. -/
  | keep (places : Nat)
  | seq (first second : Plan)
  | alt (left right : Plan)
  | rep (body : Plan) (least : Nat) (most : Option Nat)

def plan (text : List Char) : Regex → Plan
  | .empty => .stay
  | .chars set => .advance (charPlaces set.contains text)
  | .look condition => .keep (lookPlaces condition none text)
  | .seq first second => .seq (plan text first) (plan text second)
  | .alt left right => .alt (plan text left) (plan text right)
  | .rep body least most => .rep (plan text body) least most

/-- Applies a step a number of times, or until it changes nothing. -/
def repeatStep (step : Nat → Nat) : Nat → Nat → Nat
  | 0, places => places
  | count + 1, places =>
    let next := step places
    if next = places then places else repeatStep step count next

/-- Collects the places reached by up to a number of steps.  A round that finds no new
place ends the search, because no later round could find one either. -/
def collectSteps (step : Nat → Nat) : Nat → Nat → Nat
  | 0, places => places
  | count + 1, places =>
    let next := places ||| step places
    if next = places then places else collectSteps step count next

/-- The places where a plan may end.  `size` is the number of places of the text, and
bounds how often a repetition can reach a new one. -/
def Plan.reach (size : Nat) : Plan → Nat → Nat
  | .stay, places => places
  | .advance from', places => (places &&& from') <<< 1
  | .keep at', places => places &&& at'
  | .seq first second, places => second.reach size (first.reach size places)
  | .alt left right, places => left.reach size places ||| right.reach size places
  | .rep body least most, places =>
    let started := repeatStep (body.reach size) least places
    match most with
    | some most => collectSteps (body.reach size) (most - least) started
    | none => collectSteps (body.reach size) size started

/-- Whether an expression matches some part of a text. -/
def isMatch (r : Regex) (text : List Char) : Bool :=
  let size := text.length + 1
  (plan text r).reach size (Nat.pow 2 size - 1) != 0

end SecureSockets.Regex
