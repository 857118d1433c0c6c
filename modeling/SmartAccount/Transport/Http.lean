import SmartAccount.Json.Basic
import SmartAccount.Rpc.Dialogue
import SmartAccount.Url.Endpoint
/-!
# Requests over HTTP

A request is posted as JSON text over a connection that the server closes after its answer. The
answer is a status line, header lines, an empty line and a body. The body is cut into chunks if
a header says so; else it reaches to the end of the connection.
-/

namespace SmartAccount.Transport.Http

open Url

/-- A request with a number by which its answer could be told apart. -/
def requestJson (id : Nat) (r : Request) : Json :=
  .record ([("method", .string r.method)]
    ++ (r.params.map fun params => ("params", Json.array params)).toList
    ++ [("id", .nat id), ("jsonrpc", .string "2.0")])

/-- The text that posts a body. -/
def post (e : Endpoint) (body : String) : String :=
  "\r\n".intercalate ["POST " ++ e.target ++ " HTTP/1.1", "host: " ++ e.authority,
    "content-type: application/json", "accept: */*", "connection: close",
    "content-length: " ++ Numeral.decimal body.utf8ByteSize, "", body]

/-- The lines up to the first empty one, and what follows that. A line ends with a line feed;
carriage returns do not count. -/
def splitHead (line : Bytes) : Bytes → List Bytes × Bytes
  | [] => ([line], [])
  | b :: rest =>
    if b = 13 then splitHead line rest
    else if b ≠ 10 then splitHead (line ++ [b]) rest
    else if line.isEmpty then ([], rest)
    else
      let (lines, body) := splitHead [] rest
      (line :: lines, body)

/-- The text of a line of ASCII characters. -/
def lineText (line : Bytes) : String := String.ofList (line.map fun b => Char.ofNat b.toNat)

/-- The status in a status line: its second word. -/
def status? (line : Bytes) : Option Nat :=
  match (lineText line).splitOn " " with
  | _ :: status :: _ => Numeral.plain? status
  | _ => none

/-- Whether a header line says that the body comes in chunks. -/
def announcesChunks (line : Bytes) : Bool :=
  let text := String.ofList ((lineText line).toList.map Char.toLower)
  match text.splitOn ":" with
  | [name, value] => name = "transfer-encoding" && value.toList.filter (· ≠ ' ') = "chunked".toList
  | _ => false

/-- The size of a chunk: the hex digits at the start of a line, at least one. -/
def chunkSize? (line : Bytes) : Option Nat :=
  let digits := (lineText line).toList.takeWhile fun c => (Numeral.digit? 16 c).isSome
  if digits.isEmpty then none
  else some (digits.foldl (fun n c => 16 * n + (Numeral.digit? 16 c).getD 0) 0)

/-- The body that chunks make up: each has a line with its size in front and a line break
behind, and the last one is empty. -/
def joinChunks : (fuel : Nat) → Bytes → Option Bytes
  | 0, _ => none
  | fuel + 1, bytes => do
    let line := bytes.takeWhile (· ≠ 10)
    let rest := bytes.drop (line.length + 1)
    let size ← chunkSize? line
    if size = 0 then return []
    guard (size ≤ rest.length)
    return rest.take size ++ (← joinChunks fuel (rest.drop (size + 2)))

/-- The status and the body of an answer; none if it is not one. -/
def readAnswer? (bytes : Bytes) : Option (Nat × String) := do
  let (lines, rest) := splitHead [] bytes
  let status ← lines.head? >>= status?
  let body ← if lines.any announcesChunks then joinChunks bytes.length rest else some rest
  return (status, ← String.fromUTF8? ⟨body.toArray⟩)

end SmartAccount.Transport.Http
