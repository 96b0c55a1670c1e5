import LintLedger.Json.Reader
import LintLedger.Session.Written
import LintLedger.Text.Digits

/-!
# Frames

How messages travel between an editor and the server: each is JSON behind a head that tells its length
in bytes. Requests carry a number or a text by which their answer is known; what carries none asks for
no answer.
-/

namespace LintLedger.Session

/-- A text with its head. -/
def frame (body : String) : String :=
  s!"Content-Length: {body.utf8ByteSize}\r\n\r\n" ++ body

/-- An answer as a frame. -/
def Response.frame (id : Json) (r : Response) : String :=
  Session.frame (Json.object [("jsonrpc", .text "2.0"), r.member, ("id", id)]).compact

/-- A notice as a frame. -/
def Notice.frame (n : Notice) : String :=
  Session.frame (Json.object
    [("jsonrpc", .text "2.0"), ("method", .text n.method), ("params", n.params)]).compact

/-- Cuts a sequence of bytes behind the first empty line. -/
def cutHead : List UInt8 → Option (List UInt8 × List UInt8)
  | 13 :: 10 :: 13 :: 10 :: rest => some ([], rest)
  | b :: rest => (cutHead rest).map fun (head, body) => (b :: head, body)
  | [] => none

/-- The length that a head tells. -/
def headLength? (head : List UInt8) : Option Nat :=
  let lines := Text.split '\n' (Text.Utf8.decodeLossy head).toList
  lines.findSome? fun line =>
    let line := line.filter (· ≠ '\r')
    if (line.takeWhile (· ≠ ':')).map Char.toLower = "content-length".toList then
      Text.natural? (Text.trimChars ((line.dropWhile (· ≠ ':')).drop 1))
    else none

/-- The texts of the frames in a sequence of bytes, as far as they are whole. -/
def bodies : Nat → List UInt8 → List String
  | 0, _ => []
  | rounds + 1, bytes =>
    match cutHead bytes with
    | none => []
    | some (head, rest) =>
      match headLength? head with
      | none => []
      | some n =>
        if rest.length < n then []
        else Text.Utf8.decodeLossy (rest.take n) :: bodies rounds (rest.drop n)

/-- A value reached by the names of members. -/
def reach? (j : Json) : List String → Option Json
  | [] => some j
  | name :: names => (j.member? name).bind fun j => reach? j names

/-- The text of a value, if it is one. -/
def textOf? : Json → Option String
  | .text s => some s
  | _ => none

/-- The message of a method with its parameters; `none` if the server does not know it. -/
def Message.ofMethod? (method : String) (params : Json) : Option Message :=
  let location := (reach? params ["textDocument", "uri"]).bind textOf?
  match method with
  | "initialize" => some (.begin ((params.member? "rootUri").bind textOf?))
  | "initialized" => some .initialized
  | "shutdown" => some .shutdown
  | "textDocument/didOpen" =>
    let version := match reach? params ["textDocument", "version"] with
      | some (.number (.integer n)) => some n
      | _ => none
    location.map fun l => .opened l version
  | "textDocument/didSave" => location.map .saved
  | "textDocument/didClose" => location.map .closed
  | "workspace/didChangeWatchedFiles" =>
    match params.member? "changes" with
    | some (.array changes) =>
      (changes.mapM fun (c : Json) => (c.member? "uri").bind textOf?).map .changed
    | _ => none
  | _ => none

/-- What the server sends and tells while it serves frames. -/
structure Traffic where
  /-- The session. -/
  session : Session := {}
  /-- What is sent. -/
  output : String := ""
  /-- What happened. -/
  log : List Event := []
  /-- Has the editor gone? -/
  ended : Bool := false

/-- Handles the text of a frame. -/
def Traffic.handle (h : Host) (t : Traffic) (body : String) : Traffic :=
  if t.ended then t
  else match Json.read? body with
    | none =>
      { t with output := t.output ++ (Response.refused (-32700) "Parse error").frame .null }
    | some j =>
      let id := j.member? "id"
      match (j.member? "method").bind textOf? with
      | none => t
      | some "exit" => { t with ended := true }
      | some method =>
        match Message.ofMethod? method ((j.member? "params").getD .null) with
        | some m =>
          let (session, reply) := t.session.handle h m
          let answer := match id, reply.response with
            | some id, some r => r.frame id
            | _, _ => ""
          let notices := String.join (reply.notices.map Notice.frame)
          { t with
            session := session
            output := t.output ++ notices ++ answer
            log := t.log ++ reply.log }
        | none =>
          match id with
          | some id =>
            { t with output := t.output ++ (Response.refused (-32601) "Method not found").frame id }
          | none => t

/-- Serves an editor that sends the given bytes and then goes. -/
def serveBytes (h : Host) (bytes : List UInt8) : Traffic :=
  (bodies bytes.length bytes).foldl (Traffic.handle h) { log := [.serverStarting] }

end LintLedger.Session
