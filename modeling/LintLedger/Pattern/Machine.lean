import Std.Data.HashMap
import LintLedger.Pattern.Plan

/-!
# The size of a machine

How many states and edges the machine of a plan has that matches byte by byte, forwards or backwards.
The machine is not built, only counted: a state is known by the number of states before it, which is
all that is needed to tell whether two states for the bytes of a set can be one.

States for the bytes of a set are shared as far as a table of the latest states remembers: each state has
a slot in the table by a hash of what it does, and a new state takes the slot of an older one.
-/

namespace LintLedger.Pattern

/-- What has been counted. -/
structure Machine where
  /-- The number of states. -/
  states : Nat := 0
  /-- The room of the edges. -/
  edges : Nat := 0
deriving DecidableEq, Repr

namespace Machine

/-- The room of a state. -/
def stateRoom : Nat := 32

/-- The room of an edge of a state with any number of edges. -/
def edgeRoom : Nat := 4

/-- The room of an edge with a range of bytes. -/
def rangeRoom : Nat := 8

/-- The room of a machine. -/
def room (m : Machine) : Nat := m.states * stateRoom + m.edges

/-- One more state, with room for edges. -/
def add (m : Machine) (edges : Nat) : Machine := ⟨m.states + 1, m.edges + edges⟩

/-- One more state without edges of its own. -/
def addPlain (m : Machine) : Machine := m.add 0

/-- One more state with two edges. -/
def addFork (m : Machine) : Machine := m.add (2 * edgeRoom)

/-! ### States for the bytes of a set -/

/-- A step of the hash. -/
def mix (h : UInt64) (n : Nat) : UInt64 := (h ^^^ UInt64.ofNat n) * 1099511628211

/-- The hash of no number. -/
def mixStart : UInt64 := 14695981039346656037

/-- An edge from a state: a range of bytes, and the state behind it. -/
structure Edge where
  /-- The least byte. -/
  lo : Nat
  /-- The greatest byte. -/
  hi : Nat
  /-- The number of the state behind it. -/
  next : Nat
deriving DecidableEq, Repr

/-- A machine with the latest states by their slots, for the states that are told apart by `κ`. -/
structure Sharing (κ : Type) where
  /-- The machine. -/
  machine : Machine
  /-- What the latest state of a slot does, and its number. -/
  latest : Std.HashMap Nat (κ × Nat) := {}

/-- The state that does what the key says, which is a new one if the slot does not hold it. -/
def Sharing.state {κ : Type} [DecidableEq κ] (s : Sharing κ) (slot : Nat) (key : κ) (edges : Nat) :
    Nat × Sharing κ :=
  let fresh := (s.machine.states, ⟨s.machine.add edges, s.latest.insert slot (key, s.machine.states)⟩)
  match s.latest[slot]? with
  | some (held, number) => if held = key then (number, s) else fresh
  | none => fresh

/-- How many slots there are for states forwards. -/
def forwardSlots : Nat := 10000

/-- How many slots there are for states backwards. -/
def backwardSlots : Nat := 1000

/-- The slot of a state with edges. -/
def forwardSlot (edges : List Edge) : Nat :=
  (edges.foldl (fun h e => mix (mix (mix h e.lo) e.hi) e.next) mixStart).toNat % forwardSlots

/-- The slot of a state with one edge. -/
def backwardSlot (e : Edge) : Nat :=
  (mix (mix (mix mixStart e.next) e.lo) e.hi).toNat % backwardSlots

/-- A state whose edges are not all known yet. -/
structure Open where
  /-- The known edges, last one first. -/
  edges : List Edge := []
  /-- The bytes of the edge whose end is not known yet, if there is one. -/
  last : Option (Nat × Nat) := none

/-- The state with its last edge led to a state. -/
def Open.lead (o : Open) (next : Nat) : Open :=
  match o.last with
  | some (lo, hi) => { edges := ⟨lo, hi, next⟩ :: o.edges }
  | none => o

/-- Finishes a number of the open states, the deepest first, where the last edge of the deepest leads to
`next`. -/
def finish : Nat → Nat → List Open → Sharing (List Edge) → List Open × Sharing (List Edge)
  | n + 1, next, deepest :: above, s =>
    let edges := (deepest.lead next).edges.reverse
    let (number, s) := s.state (forwardSlot edges) edges (edges.length * rangeRoom)
    finish n number above s
  | _, next, deepest :: above, s => (deepest.lead next :: above, s)
  | _, _, [], s => ([], s)

/-- How many bytes of a sequence lie on the last edges of the open states, the uppermost first. -/
def onPath : List (Nat × Nat) → List Open → Nat
  | r :: rs, o :: os => if o.last = some r then onPath rs os + 1 else 0
  | _, _ => 0

/-- The open states for the bytes behind the first of a sequence, the deepest first. -/
def opened (bytes : List (Nat × Nat)) : List Open :=
  (bytes.map fun r => { last := some r }).reverse

/-- Adds the sequences of a set in ascending order; `target` is the state behind them all. -/
def addSequences (target : Nat) :
    List (List (Nat × Nat)) → List Open → Sharing (List Edge) → List Open × Sharing (List Edge)
  | [], open_, s => (open_, s)
  | bytes :: rest, open_, s =>
    let kept := onPath bytes open_.reverse
    let (open_, s) := finish (open_.length - (kept + 1)) target open_ s
    match bytes.drop kept, open_ with
    | r :: behind, top :: above =>
      addSequences target rest (opened behind ++ { top with last := some r } :: above) s
    | _, _ => addSequences target rest open_ s

/-- The states for the bytes of a set, read forwards. -/
def addForwards (m : Machine) (sequences : List (List (Nat × Nat))) : Machine :=
  let target := m.states
  let (open_, s) := addSequences target sequences [{}] { machine := m.addPlain }
  (finish open_.length target open_ s).2.machine

/-- The states for the bytes of one sequence, read backwards: each leads to the one before. -/
def addBackwards (s : Sharing Edge) : Nat → List (Nat × Nat) → Sharing Edge
  | _, [] => s
  | next, (lo, hi) :: rest =>
    let e : Edge := ⟨lo, hi, next⟩
    let (number, s) := s.state (backwardSlot e) e 0
    addBackwards s number rest

/-- The states for the bytes of a set, read backwards. -/
def addAllBackwards (m : Machine) (sequences : List (List (Nat × Nat))) : Machine :=
  let fork := m.add (sequences.length * edgeRoom)
  let target := fork.states
  (sequences.foldl (fun s bytes => addBackwards s target bytes)
    ({ machine := fork.addPlain } : Sharing Edge)).machine

/-! ### States for a choice between texts -/

/-- The texts without those that are at their end, cut wherever one is; of several ends before the first
character one counts. -/
def betweenEnds : List (List Nat) → List (List (List Nat))
  | [] => [[]]
  | [] :: [] :: rest => betweenEnds ([] :: rest)
  | [] :: rest => [] :: laterEnds rest
  | word :: rest => push word (laterEnds rest)
where
  /-- The texts cut wherever one is at its end. -/
  laterEnds : List (List Nat) → List (List (List Nat))
    | [] => [[]]
    | [] :: rest => [] :: laterEnds rest
    | word :: rest => push word (laterEnds rest)
  /-- Puts a text into the first part. -/
  push (word : List Nat) : List (List (List Nat)) → List (List (List Nat))
    | part :: parts => (word :: part) :: parts
    | [] => [[word]]

/-- The texts by their first byte, without it. -/
def byFirst (words : List (List Nat)) : List (List (List Nat)) :=
  (words.filterMap List.head?).eraseDups.map fun b =>
    words.filterMap fun
      | c :: rest => if c = b then some rest else none
      | [] => none

/-- The states for the rest of several texts, at most `depth` bytes of each. A state for a set of bytes
has an edge for each; where a text may end it has a fork in front. -/
def addWords : Nat → List (List Nat) → Machine → Machine
  | 0, _, m => m
  | depth + 1, words, m =>
    if words.all List.isEmpty then m
    else
      let cut := betweenEnds words
      let chunks := (cut.map byFirst).filter (!·.isEmpty)
      let m := chunks.foldl (fun m branches =>
        let m := branches.foldl (fun m rest => addWords depth rest m) m
        m.add (if branches.length = 1 then 0 else branches.length * rangeRoom)) m
      m.add ((chunks.length + (cut.length - 1)) * edgeRoom)

end Machine

namespace Plan

/-- The bytes of the characters of a text. -/
def bytesOf (cs : List Char) : List Nat := cs.flatMap fun c => Unicode.ByteRanges.bytes c.toNat

/-- The bytes of a plan that is a text. -/
def bytes? : Plan → Option (List Nat)
  | .text cs => some (bytesOf cs)
  | _ => none

/-- Does everything that the plan covers begin at the start of the text? -/
def beginsAtStart : Plan → Bool
  | .guard c => c = .textStart
  | .capture p => p.beginsAtStart
  | .repetition p least _ => least ≠ 0 && p.beginsAtStart
  | .sequence ps => first ps
  | .choice ps => every ps
  | _ => false
where
  /-- Does what the parts cover begin there? -/
  first : List Plan → Bool
    | [] => false
    | p :: ps => p.beginsAtStart || (p.isIdle && first ps)
  /-- Does what each branch covers begin there? -/
  every : List Plan → Bool
    | [] => true
    | p :: ps => p.beginsAtStart && every ps

/-- Does everything that the plan covers end at the end of the text? -/
def endsAtEnd : Plan → Bool
  | .guard c => c = .textEnd
  | .capture p => p.endsAtEnd
  | .repetition p least _ => least ≠ 0 && p.endsAtEnd
  | .sequence ps => last ps
  | .choice ps => every ps
  | _ => false
where
  /-- Does what the parts cover end there? -/
  last : List Plan → Bool
    | [] => false
    | p :: ps => last ps || (isIdle.allIdle ps && p.endsAtEnd)
  /-- Does what each branch covers end there? -/
  every : List Plan → Bool
    | [] => true
    | p :: ps => p.endsAtEnd && every ps

/-- Counts a number of times, and stops once there is too much. -/
def repeatedly (limit : Nat) (count : Machine → Machine) : Nat → Machine → Machine
  | 0, m => m
  | n + 1, m => if limit < m.room then m else repeatedly limit count n (count m)

/-- Counts the copies of a repetition. -/
def countCopies (limit : Nat) (one : Machine → Machine) (positive : Bool) (least : Nat)
    (most : Option Nat) (m : Machine) : Machine :=
  match least, most with
  | 0, none => if positive then one m.addFork else (one m).addFork.addFork.addPlain
  | 0, some 1 => (one m.addFork).addPlain
  | least, none => (repeatedly limit one least m).addFork
  | least, some most =>
    let m := if least = 0 then m.addPlain else repeatedly limit one least m
    if most ≤ least then m
    else repeatedly limit (fun m => one m.addFork) (most - least) m.addPlain

/-- Counts the machine of a plan, which is not worth going on with beyond the limit. Backwards nothing is
remembered. -/
def count (limit : Nat) (backwards : Bool) : Plan → Machine → Machine
  | .nothing, m | .guard _, m => m.addPlain
  | .text cs, m => { m with states := m.states + (bytesOf cs).length }
  | .member s sequences, m =>
    if s.isAscii then m.addPlain.add (s.ranges.length * Machine.rangeRoom)
    else if backwards then m.addAllBackwards sequences else m.addForwards sequences
  | .capture p, m =>
    if backwards then p.count limit backwards m else (p.count limit backwards m.addPlain).addPlain
  | .repetition p least most, m =>
    countCopies limit (fun m => p.count limit backwards m) (0 < p.minBytes?.getD 0) least most m
  | .sequence ps, m => inOrder ps m
  | .choice ps, m =>
    match ps.mapM bytes? with
    | some words =>
      let words := if backwards then words.map List.reverse else words
      Machine.addWords ((words.map List.length).foldl max 0 + 1) words m.addPlain
    | none => branches 0 ps { m with edges := m.edges + ps.length * Machine.edgeRoom }
where
  /-- Counts parts one after the other. -/
  inOrder : List Plan → Machine → Machine
    | [], m => m
    | p :: ps, m =>
      if backwards then p.count limit backwards (inOrder ps m)
      else inOrder ps (p.count limit backwards m)
  /-- Counts branches, of which so many came before; the fork and the end come behind the second. -/
  branches : Nat → List Plan → Machine → Machine
    | _, [], m => m
    | before, p :: ps, m =>
      let m := p.count limit backwards m
      branches (before + 1) ps (if before = 1 then m.addPlain.addPlain else m)

/-- The machine that finds what a plan covers, wherever it may begin. -/
def machine (limit : Nat) (backwards : Bool) (p : Plan) : Machine :=
  let fixed := if backwards then p.endsAtEnd else p.beginsAtStart
  let lead : Machine := {}
  let lead := if fixed then lead.addPlain else lead.addFork.addPlain.add Machine.rangeRoom
  if backwards then (p.count limit true lead).addPlain
  else ((Plan.capture p).count limit false lead).addPlain

end Plan
end LintLedger.Pattern
