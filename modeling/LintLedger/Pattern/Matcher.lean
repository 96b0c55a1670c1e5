import LintLedger.Pattern.Regex

/-!
# Matching by sets of places

Does a regular expression occur in a text? The matcher never tries one way after another: it keeps the
*set* of places that can be reached, as the bits of one natural number, bit `i` for the place with `i`
characters before it. For one text each leaf becomes such a set, the places where it holds, and then

* taking a character of a set is "keep the places where the next character is a member, and move all
  of them up by one",
* a condition keeps the places where it holds,
* a repetition adds the places that a further copy reaches, until none is new.

So the work for a text is bounded by the size of the expression and the number of places, however the
repetitions are nested.
-/

namespace LintLedger.Pattern

open LintLedger.Unicode (CodeSet)

/-- A set of places of a text, as the bits of a number. -/
abbrev Places := Nat

namespace Places

/-- The places of `ps` in front of a number of places, lowest first. -/
def push (present : Bool) (ps : Places) : Places := 2 * ps + present.toNat

/-- The places where the next character is a member of the set. -/
def ofSet (s : CodeSet) : List Char → Places
  | [] => 0
  | c :: cs => push (s.has c) (ofSet s cs)

/-- The places where the condition holds, `before` being the neighbour before the first place. -/
def ofGuard (g : Guard) (before : Option Char) : List Char → Places
  | [] => (g.holds before none).toNat
  | c :: cs => push (g.holds before (some c)) (ofGuard g (some c) cs)

/-- All places of a text of the given length. -/
def all (length : Nat) : Places := 1 <<< (length + 1) - 1

/-- The places reached by a number of steps; once a step changes nothing, further steps do not either. -/
def power (step : Places → Places) : Nat → Places → Places
  | 0, ps => ps
  | n + 1, ps =>
    let next := step ps
    if next = ps then ps else power step n next

/-- The places reached by up to a number of further steps: `reached` so far, `fresh` in the last
step. A step from a set reaches what steps from its members reach, so old places need not be tried
again. -/
def grow (step : Places → Places) : Nat → Places → Places → Places
  | 0, reached, _ => reached
  | n + 1, reached, fresh =>
    let next := step fresh ||| reached
    let new := next ^^^ reached
    if new = 0 then reached else grow step n next new

end Places

namespace Regex

/-- The places where a stretch can end that starts in one of the given places. The leaves hold the
places where they match; a repetition without a bound makes at most `rounds` rounds. -/
def ends (rounds : Nat) : Regex Places Places → Places → Places
  | .empty, ps => ps
  | .step here, ps => (ps &&& here) <<< 1
  | .guard here, ps => ps &&& here
  | .group _ a, ps => ends rounds a ps
  | .concat a b, ps => ends rounds b (ends rounds a ps)
  | .alternation a b, ps => ends rounds a ps ||| ends rounds b ps
  | .repetition a least most, ps =>
    let start := Places.power (ends rounds a) least ps
    let more := match most with
      | some most => most - least
      | none => rounds
    Places.grow (ends rounds a) more start start

/-- The expression with its leaves replaced by the places of the text where they hold. -/
def place (r : Regex CodeSet Guard) (text : List Char) : Regex Places Places :=
  r.mapLeaves (fun s => Places.ofSet s text) (fun g => Places.ofGuard g none text)

/-- Does the expression cover some stretch of the text? -/
def occursIn (r : Regex CodeSet Guard) (text : List Char) : Bool :=
  ends (text.length + 1) (r.place text) (Places.all text.length) ≠ 0

end Regex
end LintLedger.Pattern
