import StubServer.Regex.Expr

/-!
# Searching with regular expressions

Places in a text are counted from zero, the place before its first character. An expression takes
each place to the places where a match that starts there may end; the search follows all of them
at once, so that its time is bounded by the sizes of expression and text.

A set of places is a strictly descending list.

## Main definitions

* `Regex.Expr.reach`: the places where matches may end that start at one of the given places.
* `Regex.Expr.isMatch`: whether an expression matches some part of a text.
-/

namespace StubServer.Regex

/-- A set of places, in strictly descending order. -/
abbrev Places := List Nat

namespace Places

/-- Inserts the place `x`, which heads the list `all`, and the others of `all` by `merge` into a
descending list. -/
def mergeWith (x : Nat) (merge : Places → Places) (all : Places) : Places → Places
  | [] => all
  | y :: ys =>
    if y < x then x :: merge (y :: ys)
    else if x < y then y :: mergeWith x merge all ys
    else x :: merge ys

/-- The places of either set. -/
def union : Places → Places → Places
  | [] => fun ys => ys
  | x :: xs => mergeWith x (union xs) (x :: xs)

/-- The places of the first set that are not in the second. -/
def minus : Places → Places → Places
  | [], _ => []
  | x :: xs, ys =>
    match ys.dropWhile (x < ·) with
    | [] => x :: minus xs []
    | y :: rest => if x = y then minus xs rest else x :: minus xs (y :: rest)

/-- All places of a text with `size` characters. -/
def upTo : Nat → Places
  | 0 => [0]
  | size + 1 => (size + 1) :: upTo size

end Places

/-- Applies a step on sets of places `count` times, as long as it makes a difference. -/
def rounds (step : Places → Places) : Nat → Places → Places
  | 0, places => places
  | count + 1, places =>
    if step places = places then places else rounds step count (step places)

/-- The places of `seen`, and those that at most `count` steps reach from the places of `latest`
without visiting a place twice. -/
def spread (step : Places → Places) : (count : Nat) → (seen latest : Places) → Places
  | 0, seen, _ => seen
  | count + 1, seen, latest =>
    match (step latest).minus seen with
    | [] => seen
    | fresh => spread step count (fresh.union seen) fresh

/-- How many rounds out of a number of them, or out of any number, can reach a new place of a
text. -/
def roundLimit (text : Array Char) : Option Nat → Nat
  | none => text.size + 1
  | some extra => min extra (text.size + 1)

namespace Expr

/-- The places where matches may end that start at one of the given places. -/
def reach (text : Array Char) : Expr → Places → Places
  | empty, places => places
  | chars set, places =>
    places.filterMap fun i => if text[i]?.any set.contains then some (i + 1) else none
  | look l, places =>
    places.filter fun i => l.holds (if i = 0 then none else text[i - 1]?) text[i]?
  | seq a b, places => b.reach text (a.reach text places)
  | alt a b, places => (a.reach text places).union (b.reach text places)
  | rep least extra a, places =>
    let start := rounds (a.reach text) least places
    spread (a.reach text) (roundLimit text extra) start start

/-- Whether an expression matches some part of a text. -/
def isMatch (e : Expr) (text : List Char) : Bool :=
  !(e.reach text.toArray (Places.upTo text.length)).isEmpty

end Expr

end StubServer.Regex
