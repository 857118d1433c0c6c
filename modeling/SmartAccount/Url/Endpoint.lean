import SmartAccount.Url.Syntax
/-!
# Where a URL leads

A client needs three things of a URL whose scheme is `http`: the host and the port to connect
to, and what to ask for there.
-/

namespace SmartAccount.Url

/-- Where a client connects to, and what it asks for. -/
structure Endpoint where
  host : String
  port : Nat
  /-- The path and the query; it begins with a slash. -/
  target : String
  deriving DecidableEq

/-- Where a server listens if the URL does not say. -/
def defaultPort : Nat := 80

/-- A path in the form in which it is asked for: an empty one is a slash, and a space is
escaped. -/
def targetText (path : List Char) : String :=
  let path := if path.head? = some '/' then path else '/' :: path
  String.ofList (path.flatMap fun c => if c = ' ' then "%20".toList else [c])

/-- The endpoint that a URL leads to; none if it is not one of plain HTTP. -/
def endpoint? (url : String) : Option Endpoint := do
  let (scheme, rest) ← scheme? (cleaned url.toList)
  guard (scheme = "http".toList && isUrl url)
  let text := rest.dropWhile fun c => c = '/' || c = '\\'
  let authority := text.takeWhile (!endsAuthority true ·)
  let path := (text.dropWhile (!endsAuthority true ·)).takeWhile (· ≠ '#')
  let (host, port) := splitAtPort false (afterUser authority)
  let port ← match port with
    | none => some defaultPort
    | some [] => some defaultPort
    | some digits => port? digits
  return ⟨String.ofList (host.map Char.toLower), port, targetText path⟩

/-- A host without the brackets around an address of eight pieces. -/
def bareHost (host : String) : String :=
  String.ofList (host.toList.filter fun c => c ≠ '[' && c ≠ ']')

/-- The host as a server is told about it: with the port, if it is not the default one. -/
def Endpoint.authority (e : Endpoint) : String :=
  if e.port = defaultPort then e.host else e.host ++ ":" ++ Numeral.decimal e.port

end SmartAccount.Url
