import ApiGateway.Http.Message
import ApiGateway.Text.Blank
import ApiGateway.Text.Numeral

/-!
# Messages on the wire

The form in which requests and responses travel: a first line, a line for each header field, an
empty line, and the body. The body has a length that is told in front, or it comes in chunks with
a length each, or it ends with the connection.
-/

namespace ApiGateway
namespace Wire

/-- Where the body of a message ends. -/
inductive Framing
  | sized (length : Nat)
  | chunked
  | untilClose
deriving DecidableEq

structure RequestHead where
  method : Method
  uri : Uri
  headers : Headers

structure ResponseHead where
  status : Nat
  headers : Headers

def contentLength : HeaderName := ⟨"content-length"⟩
def transferEncoding : HeaderName := ⟨"transfer-encoding"⟩

/-- The end of a line. -/
def lineEnd : Bytes := [0x0D, 0x0A]

/-- What stands before and after the first line end. -/
def splitLine? : Bytes → Option (Bytes × Bytes)
  | 0x0D :: 0x0A :: rest => some ([], rest)
  | b :: bs => (splitLine? bs).map fun r => (b :: r.1, r.2)
  | [] => none

/-- What stands before and after the first empty line. -/
def splitHead? : Bytes → Option (Bytes × Bytes)
  | 0x0D :: 0x0A :: 0x0D :: 0x0A :: rest => some ([], rest)
  | b :: bs => (splitHead? bs).map fun r => (b :: r.1, r.2)
  | [] => none

def lines : Bytes → List Bytes
  | [] => [[]]
  | 0x0D :: 0x0A :: bs => [] :: lines bs
  | b :: bs =>
      match lines bs with
      | [] => [[b]]
      | l :: ls => (b :: l) :: ls

/-- Bytes without the blanks and tabs at both ends. -/
def trimmed (b : Bytes) : Bytes :=
  let blank (c : UInt8) := c == 0x20 || c == 0x09
  ((b.dropWhile blank).reverse.dropWhile blank).reverse

def field? (line : Bytes) : Option (HeaderName × HeaderValue) := do
  let front : Bytes := line.takeWhile (· != 0x3A)
  let name ← HeaderName.ofText? (← front.text?)
  let value ← HeaderValue.ofBytes? (trimmed (line.drop (front.length + 1)))
  if front.length = line.length then none else return (name, value)

def headers? (ls : List Bytes) : Option Headers :=
  (ls.mapM field?).map Headers.mk

def requestHead? (head : Bytes) : Option RequestHead := do
  let first :: rest := lines head | none
  let [method, target, version] := Text.splitAtChar ' ' (← first.text?) | none
  if version ≠ "HTTP/1.1" ∧ version ≠ "HTTP/1.0" then none
  else
    return ⟨← Method.ofText? method, ← (Uri.read target).toOption, ← headers? rest⟩

def responseHead? (head : Bytes) : Option ResponseHead := do
  let first :: rest := lines head | none
  let version :: status :: _ := Text.splitAtChar ' ' (← first.text?) | none
  let status ← Text.natural? 999 status.toList
  if ! version.startsWith "HTTP/1." || ! Status.isValid status then none
  else return ⟨status, ← headers? rest⟩

def isChunked (h : Headers) : Bool :=
  match (h.getAll transferEncoding).getLast?.bind HeaderValue.text? with
  | some v => ((Text.splitAtChar ',' v).getLast?.map fun w =>
      Text.sameIgnoringCase (Text.trim w) "chunked").getD false
  | none => false

/-- The length of a body as it is told in front. -/
def toldLength? (h : Headers) : Option Nat := do
  Text.natural64? (Text.trim (← h.text? contentLength))

/-- Where the body of a request ends; no answer for a length that cannot be read. -/
def requestFraming? (h : Headers) : Option Framing :=
  if isChunked h then some .chunked
  else if h.contains contentLength then (toldLength? h).map .sized
  else some (.sized 0)

/-- Whether a response to a method has no body whatever its headers say. -/
def isBodiless (method : Method) (status : Nat) : Bool :=
  method = .head || status < 200 || status = 204 || status = 304

/-- Where the body of a response ends. -/
def responseFraming (method : Method) (r : ResponseHead) : Framing :=
  if isBodiless method r.status then .sized 0
  else if isChunked r.headers then .chunked
  else
    match toldLength? r.headers with
    | some n => .sized n
    | none => .untilClose

/-- What stands at the front of a body in chunks. -/
inductive ChunkStep
  /-- Not enough has arrived. -/
  | more
  | broken
  | piece (data rest : Bytes)
  | last (rest : Bytes)

/-- The longest line in front of a chunk. -/
def maxChunkLine : Nat := 4096

/-- The length in front of a chunk, in hexadecimal digits; extensions are passed over. -/
def chunkLength? (line : Bytes) : Option Nat := do
  let digits := trimmed (line.takeWhile (· != 0x3B))
  if digits.isEmpty || 16 < digits.length then none
  else
    let values ← digits.mapM fun b => Bytes.hexValue? (Char.ofNat b.toNat)
    return values.foldl (fun n d => 16 * n + d) 0

/-- What follows the last chunk: fields that do not count, and an empty line. -/
def afterLastChunk (rest : Bytes) : ChunkStep :=
  if rest.take 2 = lineEnd then .last (rest.drop 2)
  else
    match splitHead? rest with
    | some (_, rest) => .last rest
    | none => .more

/-- Takes a chunk from the front. -/
def nextChunk (buffer : Bytes) : ChunkStep :=
  match splitLine? buffer with
  | none => if maxChunkLine < buffer.length then .broken else .more
  | some (line, rest) =>
      match chunkLength? line with
      | none => .broken
      | some 0 => afterLastChunk rest
      | some n =>
          if rest.length < n + 2 then .more
          else if (rest.drop n).take 2 = lineEnd then .piece (rest.take n) (rest.drop (n + 2))
          else .broken

/-- The number of bytes of some pieces. -/
def totalLength (pieces : List Bytes) : Nat :=
  pieces.foldl (fun n p => n + p.length) 0

/-- How much of a body was taken; pieces are kept with the latest first. -/
inductive Intake
  | more (pieces : List Bytes) (buffer : Bytes)
  | complete (pieces : List Bytes) (rest : Bytes)
  | broken (pieces : List Bytes)

/-- Takes chunks from the front; the number bounds how many there can be. -/
def takeChunks : Nat → List Bytes → Bytes → Intake
  | 0, pieces, buffer => .more pieces buffer
  | n + 1, pieces, buffer =>
      match nextChunk buffer with
      | .more => .more pieces buffer
      | .broken => .broken pieces
      | .piece data rest => takeChunks n (data :: pieces) rest
      | .last rest => .complete pieces rest

/-- Takes what has arrived of a body; `closed` tells that nothing more will come. -/
def takeBody (framing : Framing) (pieces : List Bytes) (buffer : Bytes) (closed : Bool) : Intake :=
  let intake : Intake := match framing with
    | .sized n =>
        let missing := n - totalLength pieces
        if missing ≤ buffer.length then
          .complete (buffer.take missing :: pieces) (buffer.drop missing)
        else .more (buffer :: pieces) []
    | .chunked => takeChunks (buffer.length + 1) pieces buffer
    | .untilClose =>
        if closed then .complete (buffer :: pieces) [] else .more (buffer :: pieces) []
  match intake with
  | .more pieces buffer => if closed then .broken pieces else .more pieces buffer
  | intake => intake

/-- The lines of header fields and the empty line after them. -/
def headerBytes (h : Headers) : Bytes :=
  (h.fields.flatMap fun f => Bytes.ofText f.1.text ++ 0x3A :: 0x20 :: (f.2 ++ lineEnd)) ++ lineEnd

/-- Headers with the length of a body, unless they tell one. -/
def withLength (h : Headers) (body : Bytes) : Headers :=
  if h.contains contentLength then h else h.setText contentLength (toString body.length)

/-- A request with a target, as it is sent. -/
def requestBytes (q : Request) (target : String) : Bytes :=
  let headers := if q.body.isEmpty then q.headers else withLength q.headers q.body
  Bytes.ofText (q.method.text ++ " " ++ target ++ " HTTP/1.1\r\n") ++ headerBytes headers ++ q.body

/-- A response to a method, as it is sent. -/
def responseBytes (method : Method) (r : Response) : Bytes :=
  let front := Bytes.ofText ("HTTP/1.1 " ++ Status.print r.status ++ "\r\n")
  if r.status < 200 || r.status = 204 then front ++ headerBytes r.headers
  else
    front ++ headerBytes (withLength r.headers r.body)
      ++ if isBodiless method r.status then [] else r.body

end Wire
end ApiGateway
