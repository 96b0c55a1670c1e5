import LintLedger.Pattern.Regex
import LintLedger.Text.Utf8
import LintLedger.Unicode.ByteRanges

/-!
# The plan of a machine

The form in which an expression is handed to the builder of the machine that matches it byte by byte.
It covers the same stretches of text, but is simpler: neighbouring characters are one text, groups that
remember nothing are gone, a choice between single characters is a set, a choice between sets is their
union, and what all branches of a choice start with stands in front of it once.
-/

namespace LintLedger.Pattern

open LintLedger.Unicode (CodeSet)

/-- What a machine is built from. -/
inductive Plan where
  /-- Covers the empty stretch. -/
  | nothing
  /-- Covers the characters, of which there is at least one. -/
  | text (chars : List Char)
  /-- Covers one character of a set that does not hold exactly one; `sequences` are the bytes of its
  members, see `LintLedger.Unicode.ByteRanges`. -/
  | member (set : CodeSet) (sequences : List (List (Nat × Nat)))
  /-- Covers the empty stretch where the condition holds. -/
  | guard (condition : Guard)
  /-- Covers what the body covers, and remembers it. -/
  | capture (body : Plan)
  /-- At least `least` copies, at most `most` if there is a bound. -/
  | repetition (body : Plan) (least : Nat) (most : Option Nat)
  /-- Two or more parts, one after the other. -/
  | sequence (parts : List Plan)
  /-- Two or more branches, of which one is taken. -/
  | choice (branches : List Plan)

namespace Plan

/-- The characters of a set: what lies past the last of them, and the surrogates, are none. -/
def characters (s : CodeSet) : CodeSet :=
  (s.inter (CodeSet.range 0 0x10FFFF)).diff (CodeSet.range 0xD800 0xDFFF)

/-- Takes one member of a set. -/
def ofSet (s : CodeSet) : Plan :=
  let s := characters s
  match s.ranges with
  | [(lo, hi)] =>
    if lo = hi then .text [Char.ofNat lo] else .member s (Unicode.ByteRanges.ofSet s)
  | _ => .member s (Unicode.ByteRanges.ofSet s)

/-- Can the plan cover the empty stretch only? A set without members covers nothing at all. -/
def isIdle : Plan → Bool
  | .nothing | .guard _ => true
  | .text _ | .member .. => false
  | .capture p => p.isIdle
  | .repetition p _ most => most = some 0 || (most.isSome && p.isIdle)
  | .sequence ps => allIdle ps
  | .choice ps => allIdle ps
where
  /-- Can each of the plans cover the empty stretch only? -/
  allIdle : List Plan → Bool
    | [] => true
    | p :: ps => p.isIdle && allIdle ps

/-- The least number of bytes that the plan covers, if it can cover anything. -/
def minBytes? : Plan → Option Nat
  | .nothing | .guard _ => some 0
  | .text cs => some (Text.Utf8.encode (String.ofList cs)).length
  | .member _ sequences => (sequences.map List.length).min?
  | .capture p => p.minBytes?
  | .repetition p least _ => p.minBytes?.map (least * ·)
  | .sequence ps => (each ps).map List.sum
  | .choice ps => (each ps).bind List.min?
where
  /-- The least numbers of bytes of all plans, if each can cover anything. -/
  each : List Plan → Option (List Nat)
    | [] => some []
    | p :: ps => do
      let n ← p.minBytes?
      let ns ← each ps
      pure (n :: ns)

/-- The parts of a plan, one after the other. -/
def parts : Plan → List Plan
  | .nothing => []
  | .sequence ps => ps
  | p => [p]

/-- The plan of parts that stand one after the other. -/
def ofParts : List Plan → Plan
  | [] => .nothing
  | [p] => p
  | ps => .sequence ps

/-- Parts in front of others; where two texts meet they become one. -/
def glue : List Plan → List Plan → List Plan
  | [], qs => qs
  | [.text a], .text b :: qs => .text (a ++ b) :: qs
  | p :: ps, qs => p :: glue ps qs

/-- One plan after the other. -/
def append (p q : Plan) : Plan := ofParts (glue p.parts q.parts)

/-- A number of copies. More than one copy of what covers the empty stretch only is one copy. -/
def copies (p : Plan) (least : Nat) (most : Option Nat) : Plan :=
  let least := if p.isIdle then min least 1 else least
  let most := if p.isIdle then some (min (most.getD 1) 1) else most
  if least = 0 ∧ most = some 0 then .nothing
  else if least = 1 ∧ most = some 1 then p
  else .repetition p least most

/-- Are the plans the same? What remembers is the same as nothing else. -/
def same : Plan → Plan → Bool
  | .nothing, .nothing => true
  | .text a, .text b => a = b
  | .member s _, .member t _ => s = t
  | .guard c, .guard d => c = d
  | .repetition p least most, .repetition q least' most' => least = least' && most = most' && same p q
  | .sequence ps, .sequence qs => sameAll ps qs
  | .choice ps, .choice qs => sameAll ps qs
  | _, _ => false
where
  /-- Are the plans the same one by one? -/
  sameAll : List Plan → List Plan → Bool
    | [], [] => true
    | p :: ps, q :: qs => same p q && sameAll ps qs
    | _, _ => false

/-- The single character that a plan covers. -/
def char? : Plan → Option Char
  | .text [c] => some c
  | _ => none

/-- The set of which a plan takes a member. -/
def set? : Plan → Option CodeSet
  | .member s _ => some s
  | _ => none

/-- The number of parts that two sequences start with. -/
def sharedParts (ps qs : List Plan) : Nat :=
  ((ps.zip qs).takeWhile fun (p, q) => same p q).length

/-- The number of parts that all plans start with; a plan that is no sequence starts with none. -/
def sharedByAll : List Plan → Nat
  | .sequence ps :: rest =>
    (rest.map fun
      | .sequence qs => sharedParts ps qs
      | _ => 0).foldl min ps.length
  | _ => 0

/-- One of several branches. With each of the `rounds` shared parts are moved in front. -/
def choose : Nat → List Plan → Plan
  | rounds, branches =>
    let branches := branches.flatMap fun
      | .choice ps => ps
      | p => [p]
    match branches with
    | [p] => p
    | branches =>
      match branches.mapM char?, branches.mapM set? with
      | some cs, _ => ofSet (CodeSet.unions (cs.map fun c => CodeSet.single c.toNat))
      | _, some ss => ofSet (CodeSet.unions ss)
      | none, none =>
        match rounds, sharedByAll branches with
        | rounds + 1, shared + 1 =>
          let front := (branches.head?.map parts).getD []
          let behind := choose rounds (branches.map fun p => ofParts (p.parts.drop (shared + 1)))
          append (ofParts (front.take (shared + 1))) behind
        | _, _ => .choice branches

/-- One of the branches of a group. -/
def ofBranches : List Plan → Plan
  | [p] => p
  | ps => choose (ps.length + 1) ps

end Plan

namespace Regex

/-- The plans of the branches of an expression, of which there is one unless it is an alternation. -/
def branchPlans : Regex CodeSet Guard → List Plan
  | .empty => [.nothing]
  | .step s => [.ofSet s]
  | .guard c => [.guard c]
  | .group captures a =>
    let p := Plan.ofBranches a.branchPlans
    [if captures then .capture p else p]
  | .concat a b => [(Plan.ofBranches a.branchPlans).append (Plan.ofBranches b.branchPlans)]
  | .alternation a b => Plan.ofBranches a.branchPlans :: b.branchPlans
  | .repetition a least most => [(Plan.ofBranches a.branchPlans).copies least most]

/-- The plan of an expression. -/
def plan (r : Regex CodeSet Guard) : Plan := Plan.ofBranches r.branchPlans

end Regex
end LintLedger.Pattern
