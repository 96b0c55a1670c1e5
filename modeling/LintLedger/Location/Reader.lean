import LintLedger.Location
import LintLedger.Location.Host

/-!
# Reading locations

A location is read from what people write: with blanks around, line breaks within, the scheme in any
case, backslashes for slashes under the schemes that every client knows, and dots in the path. What is
read has one spelling, the one in which `Location.text` writes it.
-/

namespace LintLedger.Location

/-- The schemes that every client knows, each with its usual port. -/
def knownSchemes : List (String × Option Nat) :=
  [("file", none), ("http", some 80), ("https", some 443), ("ws", some 80), ("wss", some 443),
    ("ftp", some 21)]

/-- Does every client know the scheme? -/
def isKnown (scheme : String) : Bool := knownSchemes.any (·.1 = scheme)

/-- The text without controls and spaces around it, and without tabs and line breaks. -/
def clean (s : String) : List Char :=
  let isOuter (c : Char) : Bool := c.toNat ≤ 0x20
  let cs := ((s.toList.dropWhile isOuter).reverse.dropWhile isOuter).reverse
  cs.filter fun c => c ≠ '\t' && c ≠ '\n' && c ≠ '\r'

/-- May the character stand in a scheme behind its first letter? -/
def isSchemeChar (c : Char) : Bool := c.isAlphanum || c = '+' || c = '-' || c = '.'

/-- The scheme at the start of a text, in lower case, and what is behind its colon. -/
def readScheme? (cs : List Char) : Option (String × List Char) :=
  match cs with
  | c :: _ =>
    if c.isAlpha then
      match cs.dropWhile isSchemeChar with
      | ':' :: rest =>
        some (String.ofList ((cs.takeWhile isSchemeChar).map Char.toLower), rest)
      | _ => none
    else none
  | [] => none

/-! ### Paths -/

/-- Is the name a single dot, perhaps escaped? -/
def isDot (cs : List Char) : Bool :=
  [".", "%2e"].contains (String.ofList (cs.map Char.toLower))

/-- Is the name two dots, perhaps escaped? -/
def isDots (cs : List Char) : Bool :=
  ["..", "%2e.", ".%2e", "%2e%2e"].contains (String.ofList (cs.map Char.toLower))

/-- Is the name a letter with the mark of a drive? -/
def isDrive (cs : List Char) : Bool :=
  match cs with
  | [letter, mark] => letter.isAlpha && (mark = ':' || mark = '|')
  | _ => false

/-- The names without the last one; the name of a drive stays. -/
def shorten (ns : List (List Char)) : List (List Char) :=
  match ns.getLast? with
  | some n => if isDrive n then ns else ns.dropLast
  | none => ns

/-- Adds names to those before: a dot adds nothing, two dots take the last name away, and either leaves
an empty name behind at the end. Under the file scheme a drive at the start gets a colon. -/
def addNames (isFile : Bool) (before : List (List Char)) : List (List Char) → List (List Char)
  | [] => before
  | n :: rest =>
    let closing (ns : List (List Char)) := if rest.isEmpty then ns ++ [[]] else ns
    if isDots n then addNames isFile (closing (shorten before)) rest
    else if isDot n then addNames isFile (closing before) rest
    else
      let n := escape .name n
      let n := if isFile && before.isEmpty && isDrive n then n.take 1 ++ [':'] else n
      addNames isFile (before ++ [n]) rest

/-- Is the character a slash under the scheme? -/
def isSlash (known : Bool) (c : Char) : Bool := c = '/' || (known && c = '\\')

/-- Cuts the text of a path at its slashes. -/
def cutPath (known : Bool) (cs : List Char) : List (List Char) :=
  Text.split '/' (cs.map fun c => if isSlash known c then '/' else c)

/-- The names in the text of a path without its first slash. -/
def readNames (isFile known : Bool) (cs : List Char) : List (List Char) :=
  addNames isFile [] (cutPath known cs)

/-- The path of names. Under the file scheme empty names at the start count for nothing. -/
def pathOf (isFile : Bool) (names : List (List Char)) : Path :=
  let names := if isFile then names.dropWhile (· = []) else names
  .names ((if names.isEmpty then [[]] else names).map String.ofList)

/-- The text without the slash at its start. -/
def dropSlash (known : Bool) (cs : List Char) : List Char :=
  match cs with
  | c :: rest => if isSlash known c then rest else cs
  | [] => []

/-! ### Authorities -/

/-- The host and the text of the port behind its colon, if there is one; a colon in brackets is part of
the host. -/
def cutPort : Bool → List Char → List Char × Option (List Char)
  | _, [] => ([], none)
  | inBrackets, c :: cs =>
    if c = ':' ∧ inBrackets = false then ([], some cs)
    else
      let (host, port) := cutPort (if c = '[' then true else if c = ']' then false else inBrackets) cs
      (c :: host, port)

/-- The port of a text of digits, if it is not the usual one. -/
def readPort (scheme : String) (cs : List Char) : Except Fault (Option Nat) :=
  if cs.isEmpty then .ok none
  else match Text.natural? cs with
    | some n =>
      if 0x10000 ≤ n then .error .badPort
      else if knownSchemes.contains (scheme, some n) then .ok none
      else .ok (some n)
    | none => .error .badPort

/-- Who asks, from the text before the last at-sign: the name and, if it is not empty, the password. -/
def readUser (cs : List Char) : String :=
  let name := cs.takeWhile (· ≠ ':')
  let password := (cs.dropWhile (· ≠ ':')).drop 1
  let written := escape .user name ++ (if password.isEmpty then [] else ':' :: escape .user password)
  if written.isEmpty then "" else String.ofList (written ++ ['@'])

/-- Reads an authority. A backslash ends the port under any scheme; where it is no slash, it starts the
path, and the text from there on is given with the authority. -/
def readAuthority (scheme : String) (cs : List Char) : Except Fault (Authority × List Char) := do
  let known := isKnown scheme
  let reversed := cs.reverse
  let (user, rest) :=
    if cs.contains '@' then
      (some ((reversed.dropWhile (· ≠ '@')).drop 1).reverse, (reversed.takeWhile (· ≠ '@')).reverse)
    else (none, cs)
  let (host, port) := cutPort false rest
  if host.isEmpty && (known || port.isSome) then throw .emptyHost
  let host ← if known then Host.readKnown host else Host.readOther host
  let behindHost := port.getD []
  let port ← readPort scheme (behindHost.takeWhile (· ≠ '\\'))
  let user := readUser (user.getD [])
  if host.isEmpty && !user.isEmpty then throw .emptyHost
  pure ({ user := user, host := host, port := port }, behindHost.dropWhile (· ≠ '\\'))

/-- Reads the authority of a file: a host that is not this one. -/
def readFileHost (cs : List Char) : Except Fault String :=
  if cs.isEmpty then .ok ""
  else (Host.readKnown cs).map fun host => if host = "localhost" then "" else host

/-! ### Whole locations -/

/-- What is behind the path: the query and the fragment. -/
structure Tail where
  /-- The query. -/
  query : Option (List Char)
  /-- The fragment. -/
  fragment : Option (List Char)

/-- Cuts a text into what is before the query and the fragment, and those. -/
def cutTail (cs : List Char) : List Char × Tail :=
  let before := cs.takeWhile fun c => c ≠ '?' && c ≠ '#'
  let behind := cs.drop before.length
  let fragmentOf (cs : List Char) : Option (List Char) :=
    match cs.dropWhile (· ≠ '#') with
    | _ :: fragment => some fragment
    | [] => none
  match behind with
  | '?' :: rest => (before, ⟨some (rest.takeWhile (· ≠ '#')), fragmentOf rest⟩)
  | rest => (before, ⟨none, fragmentOf rest⟩)

/-- Reads the location of a file behind its scheme. A path behind a host is cut behind its first slash; one
without a host in front keeps it, so that a drive there is not at the start. A drive at the start takes
the host away. -/
def readFile (cs : List Char) : Except Fault (Option Authority × Path) :=
  let alone (names : List (List Char)) : Option Authority × Path := (some {}, pathOf true names)
  match cs with
  | a :: b :: rest =>
    if isSlash true a && isSlash true b then
      let host := rest.takeWhile fun c => !isSlash true c
      let path := rest.drop host.length
      if isDrive host then .ok (alone (readNames true true rest))
      else
        (readFileHost host).map fun host =>
          if host.isEmpty then alone (readNames true true path)
          else
            let names := readNames true true (dropSlash true path)
            if names.head?.any isDrive then alone names
            else (some { host := host }, pathOf true names)
    else .ok (alone (readNames true true (dropSlash true cs)))
  | cs => .ok (alone (readNames true true (dropSlash true cs)))

/-- Reads a location behind the two slashes before its authority; `atEnd` says that nothing stands behind
this text. A sign of who asks needs someone, or the end, behind it. -/
def readWithAuthority (scheme : String) (atEnd : Bool) (cs : List Char) :
    Except Fault (Option Authority × Path) := do
  let known := isKnown scheme
  let authority := cs.takeWhile fun c => !isSlash known c
  let path := cs.drop authority.length
  if authority = ['@'] && !(atEnd && path.isEmpty) then throw .emptyHost
  let (a, start) ← readAuthority scheme authority
  pure (some a,
    if start.isEmpty && path.isEmpty && !known then .names []
    else if start.isEmpty then pathOf false (readNames false known (dropSlash known path))
    else pathOf false (readNames false known (start ++ path)))

/-- Reads the authority and the path behind a scheme; `atEnd` says that neither query nor fragment follow. -/
def readRest (scheme : String) (atEnd : Bool) (cs : List Char) :
    Except Fault (Option Authority × Path) :=
  if scheme = "file" then readFile cs
  else if isKnown scheme then readWithAuthority scheme atEnd (cs.dropWhile (isSlash true))
  else match cs with
    | '/' :: '/' :: rest => readWithAuthority scheme atEnd rest
    | '/' :: rest => .ok (none, pathOf false (readNames false false rest))
    | cs => .ok (none, .plain (String.ofList (escape .plain cs)))

/-- Reads a location. -/
def read (s : String) : Except Fault Location :=
  match readScheme? (clean s) with
  | none => .error .noScheme
  | some (scheme, rest) =>
    let (before, tail) := cutTail rest
    let atEnd := tail.query.isNone && tail.fragment.isNone
    (readRest scheme atEnd before).map fun (authority, path) =>
      { scheme := scheme
        authority := authority
        path := path
        query := tail.query.map fun q =>
          String.ofList (escape (if isKnown scheme then .knownQuery else .query) q)
        fragment := tail.fragment.map fun f => String.ofList (escape .fragment f) }

end LintLedger.Location
