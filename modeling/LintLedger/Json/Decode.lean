import LintLedger.Json.Value
import LintLedger.Text.Quoted

/-!
# Decoding JSON

Turning a JSON value into a value of a type, or into the first fault on the way. Members of an object
are visited in the order of their names, items of an array in theirs; only then missing fields are
looked for, in the order in which the record declares them.

A record is decoded from an object, or from an array that gives its fields in the order of their
declaration; fields at the end of which the record knows a default may be left out. A choice among
names is decoded from a name, or from an object whose only member has the name and the value `null`.
-/

namespace LintLedger.Json

/-- What a value is, in a message. -/
def describe : Json → String
  | .null => "null"
  | .boolean b => if b then "boolean `true`" else "boolean `false`"
  | .number (.integer n) => s!"integer `{n}`"
  | .number (.real x) => s!"floating point `{x.text}`"
  | .text s => "string " ++ Text.quoted s
  | .array _ => "sequence"
  | .object _ => "map"

namespace Decode

/-- Why a value cannot be decoded. -/
inductive Fault where
  /-- The value is of another kind. -/
  | wrongKind (found : Json) (expected : String)
  /-- The value is of the kind, but out of range. -/
  | outOfRange (found : Json) (expected : String)
  /-- An object stands for a choice, but it has not exactly one member. -/
  | severalKeys
  /-- An array stands for a record, but it is too short. -/
  | tooShort (length : Nat) (expected : String)
  /-- An array stands for a record, but it is too long. -/
  | tooLong (length : Nat)
  /-- A record has no such field. -/
  | unknownField (name : String) (known : List String)
  /-- A choice has no such name. -/
  | unknownName (name : String) (known : List String)
  /-- A field is missing. -/
  | missingField (name : String)
deriving Repr

/-- Names to choose from, in a message. -/
def alternatives : List String → String
  | [a, b] => s!"`{a}` or `{b}`"
  | names => "one of " ++ ", ".intercalate (names.map fun n => s!"`{n}`")

/-- The wording of a fault. -/
def Fault.message : Fault → String
  | .wrongKind found expected => s!"invalid type: {found.describe}, expected {expected}"
  | .outOfRange found expected => s!"invalid value: {found.describe}, expected {expected}"
  | .severalKeys => "invalid value: map, expected map with a single key"
  | .tooShort length expected => s!"invalid length {length}, expected {expected}"
  | .tooLong length => s!"invalid length {length}, expected fewer elements in array"
  | .unknownField name known => s!"unknown field `{name}`, expected {alternatives known}"
  | .unknownName name known => s!"unknown variant `{name}`, expected {alternatives known}"
  | .missingField name => s!"missing field `{name}`"

/-! ### Simple values -/

/-- Decodes a text. -/
def text : Json → Except Fault String
  | .text s => pure s
  | j => throw (.wrongKind j "a string")

/-- Decodes a natural number of 32 bits. -/
def word : Json → Except Fault UInt32
  | .number (.integer n) =>
    if 0 ≤ n ∧ n < 0x100000000 then pure (UInt32.ofNat n.toNat)
    else throw (.outOfRange (.number (.integer n)) "u32")
  | j => throw (.wrongKind j "u32")

/-- Decodes a list from an array. -/
def list {α : Type} (item : Json → Except Fault α) : Json → Except Fault (List α)
  | .array items => items.mapM item
  | j => throw (.wrongKind j "a sequence")

/-- Decodes a finite map from an object. -/
def keyed {α : Type} (value : Json → Except Fault α) : Json → Except Fault (Keyed α)
  | .object members => do
    let entries ← members.mapM fun (k, j) => do pure (k, ← value j)
    pure (Keyed.ofList entries)
  | j => throw (.wrongKind j "a map")

/-! ### Choices -/

/-- The choice with a name. -/
def named {α : Type} (name : α → String) (all : List α) (s : String) : Except Fault α :=
  match all.find? fun a => name a = s with
  | some a => pure a
  | none => throw (.unknownName s (all.map name))

/-- Decodes a choice among named values. -/
def choice {α : Type} (name : α → String) (all : List α) : Json → Except Fault α
  | .text s => named name all s
  | .object [(s, j)] => do
    let a ← named name all s
    match j with
    | .null => pure a
    | j => throw (.wrongKind j "unit")
  | .object _ => throw .severalKeys
  | j => throw (.wrongKind j "string or map")

/-! ### Records -/

/-- A field of a record. -/
structure Field (σ : Type) where
  /-- The name of the field. -/
  name : String
  /-- May the field be left out? -/
  optional : Bool
  /-- Decodes a value and stores it in the field. -/
  store : Json → σ → Except Fault σ

/-- How a record is written. -/
structure Shape (σ : Type) where
  /-- What the record is called. -/
  name : String
  /-- The fields in the order of their declaration. -/
  fields : List (Field σ)
  /-- Has an object for the record these fields only? -/
  closed : Bool

namespace Shape

variable {σ : Type}

/-- Stores a member of an object. -/
def storeMember (s : Shape σ) (r : σ) (member : String × Json) : Except Fault σ :=
  match s.fields.find? fun f => f.name = member.1 with
  | some f => f.store member.2 r
  | none => if s.closed then throw (.unknownField member.1 (s.fields.map (·.name))) else pure r

/-- The first field that an object may not leave out, but does. -/
def missing? (s : Shape σ) (members : List (String × Json)) : Option (Field σ) :=
  s.fields.find? fun f => !f.optional && !members.any (·.1 = f.name)

/-- Stores the items of an array in fields, which start with the one of the given index. -/
def storeItems (s : Shape σ) (length : Nat) :
    Nat → List (Field σ) → List Json → σ → Except Fault σ
  | _, [], [], r => pure r
  | _, [], _ :: _, _ => throw (.tooLong length)
  | index, f :: fs, [], r =>
    if f.optional then storeItems s length (index + 1) fs [] r
    else throw (.tooShort index s!"{s.name} with {s.fields.length} elements")
  | index, f :: fs, j :: js, r => do
    let r ← f.store j r
    storeItems s length (index + 1) fs js r

/-- Decodes a record, starting from one with the defaults. -/
def decode (s : Shape σ) (start : σ) : Json → Except Fault σ
  | .object members => do
    let r ← members.foldlM s.storeMember start
    match s.missing? members with
    | some f => throw (.missingField f.name)
    | none => pure r
  | .array items => s.storeItems items.length 0 s.fields items start
  | j => throw (.wrongKind j s.name)

end Shape
end Decode
end LintLedger.Json
