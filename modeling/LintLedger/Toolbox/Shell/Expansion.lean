import LintLedger.Toolbox.Shell.Arithmetic
import LintLedger.Toolbox.Shell.State

/-!
# Expansion

How the words of a script become fields. The parts of a word are put together as *spans* first (`spansOf`);
spans that come from the values of parameters are cut where separators stand in them (`cutSpans`), and a
field that holds wildcards becomes the names of files (`fieldsOf`). Where a word is one field whatever it
holds, its spans are only joined (`joinedOf`).
-/

namespace LintLedger.Toolbox.Shell

/-! ### Spans -/

/-- How a span is cut into fields. -/
inductive Cutting where
  /-- Not at all. -/
  | never
  /-- At separators. -/
  | separators
  /-- At zero characters only, which stand between arguments. -/
  | arguments
deriving DecidableEq, Repr

/-- A part of a word once its value is known. -/
structure Span where
  /-- The characters. -/
  marks : List Mark
  /-- How it is cut. -/
  cutting : Cutting := .never
  /-- Does it make a field even if it holds no character? -/
  anchor : Bool := false

/-- Words that are being cut. -/
structure Cut where
  /-- The fields so far, the latest first. -/
  done : List (List Mark) := []
  /-- The characters of the current field, the latest first. -/
  field : List Mark := []
  /-- Has the current field begun? -/
  begun : Bool := false
  /-- Was the last field ended by a blank, behind which other separators do not count? -/
  blank : Bool := false
  /-- The characters of the current field to which it goes back if only separators follow. -/
  back : Option (List Mark) := none
  /-- The number of fields that are still to be made; without a number, as many as there are. -/
  left : Option Nat := none

namespace Cut

/-- Adds a character to the current field. -/
def add (c : Cut) (m : Mark) : Cut := { c with field := m :: c.field, begun := true }

/-- Ends the current field. -/
def finish (c : Cut) : Cut := { c with done := c.field.reverse :: c.done, field := [], begun := false }

/-- Is the character a blank, if it is a separator at all? The zero character stands between arguments
and always is. -/
def isBlank (c : Char) : Bool := c = ' ' || c = '\t' || c = '\n' || c = '\x00'

/-- Takes the next character of a span that is cut. `hard` says that a blank counts like any separator. -/
def take (isSeparator : Char → Bool) (hard : Bool) (c : Cut) (m : Mark) : Cut :=
  let separates := isSeparator m.char
  let blank := separates && isBlank m.char
  if c.left = some 0 then
    if blank then { c.add m with back := c.back <|> some c.field }
    else { c.add m with back := if separates && c.blank then c.back else none, blank := false }
  else if c.blank && separates then { c with blank := blank }
  else if separates then
    let blank := blank && !hard
    if !c.begun && blank then { c with blank := false }
    else match c.left with
      | some 1 => { c.add m with blank := blank, back := some c.field, left := some 0 }
      | left => { c.finish with blank := blank, left := left.map (· - 1) }
  else { c.add m with blank := false }

end Cut

/-- The fields of spans, at most so many if a number is given; what stands behind them is the end of the
last one. -/
def cutSpans (separators : List Char) (most : Option Nat) (spans : List Span) : List (List Mark) :=
  let start : Cut × Bool := ({ left := most }, false)
  let (c, between) := spans.foldl (fun (c, after) span =>
    let c := if span.anchor then { c with begun := true } else c
    match span.cutting with
    | .never => (span.marks.foldl Cut.add c, after)
    | .separators =>
      let isSeparator (c : Char) : Bool := c = '\x00' || separators.contains c
      (span.marks.foldl (Cut.take isSeparator after) { c with blank := false }, false)
    | .arguments =>
      (span.marks.foldl (Cut.take (· = '\x00') true) { c with blank := false }, true)) start
  let c := match c.back with
    | some field => { c with field := field, begun := !field.isEmpty }
    | none => c
  (if between || c.begun then c.finish else c).done.reverse

/-! ### Parameters -/

namespace State

/-- The value of a parameter that is one text. -/
def text? (s : State) (name : String) : Option String :=
  match name with
  | "?" => some (toString s.status)
  | "#" => some (toString s.args.length)
  | "$" => some (toString s.number)
  | "!" => s.jobs.head?.map fun j => toString j.number
  | "-" => some (String.ofList (s.options.filter fun c => 0x20 < c.toNat))
  | "0" => some s.name
  | _ =>
    if name.toList.all Char.isDigit then s.args[Text.digitsValue name.toList - 1]?
    else s.value? name

/-- What stands between the arguments if they are one text. -/
def joint (s : State) : List Char :=
  match s.value? "IFS" with
  | some cs => cs.toList.take 1
  | none => [' ']

end State

/-- How a word is put together. -/
structure Manner where
  /-- Does it become fields? -/
  fields : Bool
  /-- Does it stand in for the value of a parameter? Then its own characters are cut as well. -/
  standsIn : Bool := false
  /-- Does a tilde stand for a folder behind each colon too? -/
  colons : Bool := false

/-- The value of a parameter and how it is cut, if it has one. -/
def valueOf (s : State) (manner : Manner) (name : String) (quoted : Bool) : Option (List Char) :=
  if name = "@" || name = "*" then
    let between :=
      if manner.fields && (!quoted || name = "@") then
        if quoted || (s.value? "IFS").isSome then ['\x00'] else [' ']
      else s.joint
    if s.args.isEmpty then none
    else some (between.intercalate (s.args.map String.toList))
  else (s.text? name).map String.toList

/-- The folder that a tilde with a name behind it stands for. -/
def homeOf (s : State) (name : List Char) : Option (List Char) :=
  if name.isEmpty then (s.value? "HOME").map String.toList
  else if name = "root".toList then some "/root".toList else none

/-- The spans of unquoted characters in which tildes stand for folders. -/
def tildes (s : State) (manner : Manner) (ended atStart : Bool) (cs : List Char) :
    Nat → List Span
  | 0 => []
  | rounds + 1 =>
    let plain (cs : List Char) : Span :=
      { marks := marksOf false cs, cutting := if manner.standsIn then .separators else .never }
    let stops (c : Char) : Bool := c = '/' || (manner.colons && c = ':')
    let next (before : List Char) (rest : List Char) : List Span :=
      match rest with
      | ':' :: rest => plain (before ++ [':']) :: tildes s manner ended true rest rounds
      | rest => [plain (before ++ rest)]
    let named := (cs.drop 1).takeWhile (!stops ·)
    let rest := (cs.drop 1).drop named.length
    let folder := if atStart && cs.head? = some '~' && (ended || !rest.isEmpty) then homeOf s named
      else none
    let body := if folder.isSome then rest else cs
    let before := if manner.colons then body.takeWhile (· ≠ ':') else body
    (folder.map fun f => ({ marks := marksOf true f } : Span)).toList ++
      next before (body.drop before.length)

/-- Drops the mark of a quotation that holds nothing but the arguments. -/
def dropMarks : Word → Word
  | .literal [] true :: .parameter "@" .value true :: rest =>
    let alone := match rest with
      | [] | .literal [] true :: _ => true
      | .literal _ quoted :: _ | .parameter _ _ quoted :: _ | .output _ quoted :: _
      | .sum _ quoted :: _ => !quoted
    (if alone then [] else [.literal [] true]) ++ .parameter "@" .value true :: dropMarks rest
  | p :: rest => p :: dropMarks rest
  | [] => []

/-- The text of spans. -/
def textOfSpans (spans : List Span) : List Char := spans.flatMap fun span => textOf span.marks

/-- Puts the parts of a word together. `output` runs a script and gives what it prints. -/
def spansOf (output : Script → Run (List Char)) : Nat → Manner → Word → Run (List Span)
  | 0, _, _ => fail "Word too deep"
  | rounds + 1, manner, word => do
    let again := spansOf output rounds
    let value (quoted : Bool) (name : String) (cs : List Char) : Span :=
      let arguments := quoted && name = "@" && manner.fields
      { marks := marksOf quoted cs
        cutting := if arguments then .arguments
          else if quoted || !manner.fields then .never else .separators }
    let missing (name : String) : Run (List Span) := do
      let s ← get
      if s.has 'u' && name ≠ "@" && name ≠ "*" then fail s!"{name}: parameter not set"
      pure []
    let parameter (name : String) (use : Use) (quoted : Bool) : Run (List Span) := do
      let found := valueOf (← get) manner name quoted
      let present (orEmpty : Bool) : Bool := found.any fun cs => !orEmpty || !cs.isEmpty
      let whole : Run (List Span) :=
        match found with
        | some cs => pure [value quoted name cs]
        | none => missing name
      let instead (word : Word) : Run (List Span) :=
        again { manner with standsIn := manner.fields && !quoted, colons := false } word
      match use with
      | .value => whole
      | .length =>
        match found with
        | some cs => pure [value quoted "" (toString cs.length).toList]
        | none =>
          discard (missing name)
          pure [value quoted "" ['0']]
      | .orElse word orEmpty => if present orEmpty then whole else instead word
      | .instead word orEmpty => if present orEmpty then instead word else pure []
      | .orAssign word orEmpty =>
        if present orEmpty then whole
        else
          let cs := textOfSpans (← again { fields := false } word)
          assign name (some (String.ofList cs))
          pure [value quoted name cs]
      | .orFail word orEmpty =>
        if present orEmpty then whole
        else
          let cs := textOfSpans (← again { fields := false } word)
          let reason := if !word.isEmpty then String.ofList cs
            else if orEmpty then "parameter not set or null" else "parameter not set"
          fail s!"{name}: {reason}"
      | .withoutStart word longest | .withoutEnd word longest =>
        match found with
        | some cs =>
          let pattern := Pattern.ofMarks ((← again { fields := false } word).flatMap Span.marks)
          let cs := match use with
            | .withoutStart .. => pattern.cutStart longest cs
            | _ => pattern.cutEnd longest cs
          pure [value quoted name cs]
        | none => missing name
      | .bad => fail "Bad substitution"
    let part (first last : Bool) : Part → Run (List Span)
      | .literal cs true => pure [{ marks := marksOf true cs, anchor := true }]
      | .literal cs false => do
        pure (tildes (← get) manner last first cs (cs.length + 1))
      | .parameter name use quoted => parameter name use quoted
      | .output script quoted => do
        let cs ← output script
        let cs := ((cs.filter (· ≠ '\x00')).reverse.dropWhile (· = '\n')).reverse
        pure [value quoted "" cs]
      | .sum word quoted => do
        let cs := textOfSpans (← again { fields := false } word)
        let s ← get
        match Arithmetic.compute (fun name => (s.value? name).getD "") cs with
        | .ok (n, assigned) =>
          for (name, n) in assigned do
            assign name (some (toString n))
          pure [value quoted "" (toString n).toList]
        | .error fault => fail (fault.message cs)
    let parts := dropMarks word
    let mut spans : List Span := []
    for (p, i) in parts.zipIdx do
      spans := spans ++ (← part (i = 0) (i + 1 = parts.length) p)
    pure spans

/-! ### Words -/

/-- How words are put together, with the scripts in them. -/
structure Expander where
  /-- Runs a script and gives what it prints. -/
  output : Script → Run (List Char)
  /-- How deep words may lie in words. -/
  rounds : Nat

namespace Expander

/-- A word as one field, with its quoted characters marked. -/
def marks (e : Expander) (word : Word) : Run (List Mark) := do
  let spans ← spansOf e.output e.rounds { fields := false } word
  pure (spans.flatMap Span.marks)

/-- A word as one text. -/
def text (e : Expander) (word : Word) : Run String := do
  pure (String.ofList (textOf (← e.marks word)))

/-- The value that a parameter is given. -/
def assigned (e : Expander) (word : Word) : Run String := do
  let spans ← spansOf e.output e.rounds { fields := false, colons := true } word
  pure (String.ofList (textOfSpans spans))

/-- The fields of a word. -/
def fields (e : Expander) (word : Word) : Run (List String) := do
  let spans ← spansOf e.output e.rounds { fields := true } word
  let s ← get
  let fields := cutSpans s.separators none spans
  let named (field : List Mark) : List (List Char) :=
    if s.has 'f' then [textOf field] else filesOf s.files field
  pure ((fields.flatMap named).map String.ofList)

/-- The fields of words, one behind the other. -/
def allFields (e : Expander) : List Word → Run (List String)
  | [] => pure []
  | w :: ws => do
    let fields ← e.fields w
    pure (fields ++ (← e.allFields ws))

end Expander

/-- The texts that a line gives to so many parameters. Characters behind a backslash separate nothing
unless backslashes are `plain`. -/
def cutLine (separators : List Char) (plain : Bool) (most : Nat) (line : List Char) : List String :=
  let rec spans : List Char → List Char → List Span
    | '\\' :: c :: cs, held =>
      if plain then spans (c :: cs) ('\\' :: held)
      else
        let before : Span := { marks := marksOf false held.reverse, cutting := .separators }
        let quoted : Span := { marks := if c = '\n' then [] else marksOf true [c] }
        before :: quoted :: spans cs []
    | c :: cs, held => spans cs (c :: held)
    | [], held => [{ marks := marksOf false held.reverse, cutting := .separators }]
  (cutSpans separators (some most) (spans line [])).map fun field => String.ofList (textOf field)

end LintLedger.Toolbox.Shell
