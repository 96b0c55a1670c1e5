import LintLedger.Toolbox.Format
import LintLedger.Toolbox.Shell.Script

/-!
# Arithmetic

The value of an arithmetic expression of a script: whole numbers of one word with a sign, which wrap, the
operators by their precedences, and parameters, which an expression can read and give values to. An operand
that does not count, behind a condition that already holds, is read and not computed.
-/

namespace LintLedger.Toolbox.Shell.Arithmetic

/-- Why an expression has no value. -/
inductive Fault where
  /-- Something else has to stand there. -/
  | expecting (what : String)
  /-- A number is divided by zero. -/
  | divisionByZero
  /-- The value of a parameter is no number. -/
  | notANumber (value : String)
deriving DecidableEq, Repr

/-- The wording of a fault in an expression. -/
def Fault.message (expression : List Char) : Fault → String
  | .expecting what => s!"arithmetic expression: expecting {what}: \"{String.ofList expression}\""
  | .divisionByZero => s!"arithmetic expression: division by zero: \"{String.ofList expression}\""
  | .notANumber value => s!"Illegal number: {value}"

/-! ### Symbols -/

/-- A symbol of an expression. -/
inductive Symbol where
  /-- A number. -/
  | number (n : Int)
  /-- The name of a parameter. -/
  | name (s : String)
  /-- An operator or a parenthesis. -/
  | operator (s : String)
  /-- An operator that gives a parameter a value, with what is done to the old one, if anything is. -/
  | assign (operation : Option String)
  /-- A character that has no meaning. -/
  | unknown
deriving DecidableEq, Repr

/-- The operators, longer ones before those they start with. -/
def operators : List (String × Symbol) :=
  ["<<", ">>", "*", "/", "%", "+", "-", "&", "^", "|"].map (fun s => (s ++ "=", .assign (some s))) ++
    ["<<", ">>", "<=", ">=", "==", "!=", "&&", "||"].map (fun s => (s, .operator s)) ++
    [("=", .assign none)] ++
    ["*", "/", "%", "+", "-", "<", ">", "&", "^", "|", "!", "~", "?", ":", "(", ")"].map
      (fun s => (s, .operator s))

/-- The operators as characters. -/
def operatorMarks : List (List Char × Symbol) := operators.map fun (s, symbol) => (s.toList, symbol)

/-- The number of a whole number, which stays within a word. -/
def clamp (negative : Bool) (n : Nat) : Int :=
  if negative then -(min n signedEnd : Nat) else (min n (signedEnd - 1) : Nat)

/-- The symbols of an expression. -/
def symbols : Nat → List Char → List Symbol
  | 0, _ => []
  | _ + 1, [] => []
  | rounds + 1, c :: cs =>
    if c = ' ' || c = '\t' || c = '\n' then symbols rounds cs
    else if c.isDigit then
      match readWhole? (c :: cs) with
      | some (negative, n, rest) => .number (clamp negative n) :: symbols rounds rest
      | none => [.unknown]
    else if isNameStart c then
      .name (String.ofList ((c :: cs).takeWhile isNameChar)) ::
        symbols rounds ((c :: cs).dropWhile isNameChar)
    else match operatorMarks.find? fun (mark, _) => mark.isPrefixOf (c :: cs) with
      | some (mark, symbol) => symbol :: symbols rounds ((c :: cs).drop mark.length)
      | none => .unknown :: symbols rounds cs

/-! ### Words -/

/-- The word of a number. -/
def wrap (n : Int) : Int := Int.bmod n wordEnd

/-- The bits of a word, as a natural number. -/
def bitsOf (n : Int) : Nat := (n % (wordEnd : Int)).toNat

/-- An operation on the bits of two words. -/
def onBits (f : Nat → Nat → Nat) (a b : Int) : Int := wrap (f (bitsOf a) (bitsOf b))

/-- One if a condition holds, and zero if not. -/
def ofBool (b : Bool) : Int := if b then 1 else 0

/-- The number of places of a shift. -/
def places (n : Int) : Nat := (n % 64).toNat

/-- The operators between two operands with what they compute; those of the first list bind most. -/
def levels : List (List (String × (Int → Int → Except Fault Int))) :=
  let pure₂ (f : Int → Int → Int) : Int → Int → Except Fault Int := fun a b => .ok (wrap (f a b))
  let test (f : Int → Int → Bool) : Int → Int → Except Fault Int := fun a b => .ok (ofBool (f a b))
  let dividing (f : Int → Int → Int) : Int → Int → Except Fault Int := fun a b =>
    if b = 0 then .error .divisionByZero else .ok (wrap (f a b))
  [[("*", pure₂ (· * ·)), ("/", dividing Int.tdiv), ("%", dividing Int.tmod)],
    [("+", pure₂ (· + ·)), ("-", pure₂ (· - ·))],
    [("<<", pure₂ fun a b => a * (Nat.pow 2 (places b) : Nat)),
      (">>", pure₂ fun a b => Int.fdiv a (Nat.pow 2 (places b) : Nat))],
    [("<", test (· < ·)), ("<=", test (· ≤ ·)), (">", test (· > ·)), (">=", test (· ≥ ·))],
    [("==", test (· = ·)), ("!=", test (· ≠ ·))],
    [("&", pure₂ (onBits Nat.land))], [("^", pure₂ (onBits Nat.xor))], [("|", pure₂ (onBits Nat.lor))]]

/-- What an operator computes. -/
def operation? (s : String) : Option (Int → Int → Except Fault Int) :=
  levels.findSome? fun level => level.lookup s

/-! ### Values -/

/-- The computation of a value. -/
structure Computing where
  /-- The symbols that are left. -/
  symbols : List Symbol
  /-- The values that parameters were given, the latest first. -/
  assigned : List (String × Int) := []

/-- A step of a computation. -/
abbrev Compute := StateT Computing (Except Fault)

/-- The value of a parameter, read as a number. -/
def valueOf (value : String) : Except Fault Int :=
  match readWhole? value.toList with
  | some (negative, n, rest) =>
    let most := if negative then signedEnd else signedEnd - 1
    if most < n || !(rest.dropWhile isSpace).isEmpty then .error (.notANumber value)
    else .ok (clamp negative n)
  | none =>
    if (value.toList.dropWhile isSpace).isEmpty then .ok 0 else .error (.notANumber value)

/-- Takes the next symbol away if it is the operator. -/
def takes (s : String) : Compute Bool := do
  let c ← get
  match c.symbols with
  | .operator s' :: rest =>
    if s' = s then
      set { c with symbols := rest }
      pure true
    else pure false
  | _ => pure false

/-- The value of an operand, which only counts if it is `live`. Parameters have the values that `lookup`
gives, and `whole` computes what stands between parentheses. -/
def operand (lookup : String → String) (whole : Bool → Compute Int) : Nat → Bool → Compute Int
  | 0, _ => throw (.expecting "primary")
  | rounds + 1, live => do
    let c ← get
    let skip : Compute Unit := set { c with symbols := c.symbols.drop 1 }
    match c.symbols.head? with
    | some (.number n) =>
      skip
      pure n
    | some (.name s) =>
      skip
      if !live then pure 0
      else match c.assigned.lookup s with
        | some n => pure n
        | none => liftM (valueOf (lookup s))
    | some (.operator "(") =>
      skip
      let n ← whole live
      if ← takes ")" then pure n else throw (.expecting "')'")
    | some (.operator "+") =>
      skip
      operand lookup whole rounds live
    | some (.operator "-") =>
      skip
      return wrap (-(← operand lookup whole rounds live))
    | some (.operator "!") =>
      skip
      return ofBool ((← operand lookup whole rounds live) = 0)
    | some (.operator "~") =>
      skip
      return -(← operand lookup whole rounds live) - 1
    | _ => throw (.expecting "primary")

/-- The value of operands joined by the operators of one level; `below` gives those of the next. -/
def joined (below : Bool → Compute Int) (level : List (String × (Int → Int → Except Fault Int)))
    (live : Bool) : Nat → Int → Compute Int
  | 0, a => pure a
  | rounds + 1, a => do
    let c ← get
    match c.symbols.head? with
    | some (.operator s) =>
      match level.lookup s with
      | some f =>
        set { c with symbols := c.symbols.drop 1 }
        let b ← below live
        let n ← if live then liftM (f a b) else pure b
        joined below level live rounds n
      | none => pure a
    | _ => pure a

/-- The value of an expression without conditions; `rounds` bounds its length. -/
def binary (rounds : Nat) (operand : Bool → Compute Int) : Bool → Compute Int :=
  levels.foldl (fun below level live => do joined below level live rounds (← below live)) operand

/-- The value of an expression in which all operands that `operator` joins count for a condition; `stops`
says after which values the rest does not. -/
def condition (below : Bool → Compute Int) (operator : String) (stops : Int → Bool) :
    Nat → Bool → Compute Int
  | 0, live => below live
  | rounds + 1, live => do
    let a ← below live
    if ← takes operator then
      let b ← condition below operator stops rounds (live && !stops a)
      pure (ofBool (if stops a then a ≠ 0 else b ≠ 0))
    else pure a

/-- The value of an expression that may hold choices and give parameters values. -/
def whole (lookup : String → String) : Nat → Bool → Compute Int
  | 0, _ => throw (.expecting "primary")
  | rounds + 1, live => do
    let again := whole lookup rounds
    let c ← get
    match c.symbols with
    | .name s :: .assign operation :: rest =>
      set { c with symbols := rest }
      let b ← again live
      if !live then pure b
      else
        let n ← match operation.bind operation? with
          | some f =>
            let a ← match (← get).assigned.lookup s with
              | some n => pure n
              | none => liftM (valueOf (lookup s))
            liftM (f a b)
          | none => pure b
        modify fun c => { c with assigned := (s, n) :: c.assigned }
        pure n
    | _ =>
      let ands := condition (binary (rounds + 1) (operand lookup again (rounds + 1))) "&&" (· = 0)
        (rounds + 1)
      let ors := condition ands "||" (· ≠ 0) (rounds + 1)
      choice again ors (rounds + 1) live
where
  /-- The value of a condition and its choices, if there are any. -/
  choice (again ors : Bool → Compute Int) : Nat → Bool → Compute Int
    | 0, live => ors live
    | rounds + 1, live => do
      let a ← ors live
      if ← takes "?" then
        let b ← again (live && a ≠ 0)
        if !(← takes ":") then throw (.expecting "':'")
        let c ← choice again ors rounds (live && a = 0)
        pure (if a ≠ 0 then b else c)
      else pure a

/-- The value of an expression and the values that it gives to parameters, in order. -/
def compute (lookup : String → String) (expression : List Char) :
    Except Fault (Int × List (String × Int)) := do
  let symbols := symbols (expression.length + 1) expression
  let (n, c) ← (whole lookup (symbols.length + 1) true).run { symbols := symbols }
  if c.symbols.isEmpty then pure (n, c.assigned.reverse) else throw (.expecting "EOF")

end LintLedger.Toolbox.Shell.Arithmetic
