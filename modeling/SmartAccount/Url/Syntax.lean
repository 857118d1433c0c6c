import SmartAccount.Url.Host
/-!
# Which texts are URLs

A URL begins with a scheme. The well-known schemes need a host, however many slashes stand in
front of it; any other scheme has a host only after two slashes. What follows the host is never
wrong.
-/

namespace SmartAccount.Url

/-- The well-known schemes that need a host. -/
def specialSchemes : List (List Char) :=
  ["http".toList, "https".toList, "ws".toList, "wss".toList, "ftp".toList]

/-- The text as it is read: without blanks and control characters at its ends, and without line
breaks and tabs anywhere. -/
def cleaned (text : List Char) : List Char :=
  let isBlank (c : Char) : Bool := c.toNat ≤ 32
  let trimmed := ((text.dropWhile isBlank).reverse.dropWhile isBlank).reverse
  trimmed.filter fun c => c ≠ '\t' && c ≠ '\n' && c ≠ '\r'

/-- The scheme in lower case, and what follows its colon. -/
def scheme? (text : List Char) : Option (List Char × List Char) :=
  let isSchemeChar (c : Char) : Bool := c.isAlphanum || c = '+' || c = '-' || c = '.'
  let scheme := text.takeWhile isSchemeChar
  match text.dropWhile isSchemeChar with
  | ':' :: rest =>
    if scheme.head?.any Char.isAlpha then some (scheme.map Char.toLower, rest) else none
  | _ => none

/-- Whether a character ends the authority. -/
def endsAuthority (special : Bool) (c : Char) : Bool :=
  c = '/' || c = '?' || c = '#' || special && c = '\\'

/-- The part before the first colon outside brackets, and the part after it if there is one. -/
def splitAtPort : (bracketed : Bool) → List Char → List Char × Option (List Char)
  | _, [] => ([], none)
  | false, ':' :: rest => ([], some rest)
  | bracketed, c :: rest =>
    let (host, port) := splitAtPort (c = '[' || bracketed && c ≠ ']') rest
    (c :: host, port)

/-- The port that a text writes: a number of 16 bits, zero if the text is empty. What follows a
backslash does not count. -/
def port? (text : List Char) : Option Nat :=
  let digits := text.takeWhile (· ≠ '\\')
  (digits.foldlM (fun n c => (Numeral.digit? 10 c).map (10 * n + ·)) 0).filter (· < 65536)

/-- The part of an authority that follows the user. -/
def afterUser (authority : List Char) : List Char :=
  (authority.reverse.takeWhile (· ≠ '@')).reverse

/-- Whether the text after the slashes begins with a well-formed authority: perhaps a user, a
host, perhaps a port. -/
def isAuthority (special : Bool) (text : List Char) : Bool :=
  let authority := text.takeWhile (!endsAuthority special ·)
  let rest := text.dropWhile (!endsAuthority special ·)
  let fromHost := afterUser authority
  let user := authority.take (authority.length - fromHost.length)
  let (host, port) := splitAtPort false fromHost
  let needsHost := match user with
    | [] => false
    | ['@'] => fromHost.isEmpty && !rest.isEmpty
    | [':', '@'] => false
    | _ => true
  (if special then isSpecialHost host else isOtherHost host)
    && port.all (fun text => (port? text).isSome) && !(host.isEmpty && (port.isSome || needsHost))

/-- Whether a letter and a mark name a drive. -/
def isDrive (text : List Char) : Bool :=
  match text with
  | [letter, mark] => letter.isAlpha && (mark = ':' || mark = '|')
  | _ => false

/-- Whether the text after the scheme of a file is well-formed: a host only after two
slashes. -/
def isFileRest (rest : List Char) : Bool :=
  let isSlash (c : Char) : Bool := c = '/' || c = '\\'
  match rest with
  | a :: b :: rest =>
    if isSlash a && isSlash b then
      let host := rest.takeWhile (!endsAuthority true ·)
      host.isEmpty || isDrive host || isSpecialHost host
    else true
  | _ => true

/-- Whether a text is a URL. -/
def isUrl (text : String) : Bool :=
  match scheme? (cleaned text.toList) with
  | none => false
  | some (scheme, rest) =>
    if scheme ∈ specialSchemes then
      isAuthority true (rest.dropWhile fun c => c = '/' || c = '\\')
    else if scheme = "file".toList then isFileRest rest
    else
      match rest with
      | '/' :: '/' :: authority => isAuthority false authority
      | _ => true

/-- What is said of a node's URL that is none. -/
def invalidUrl : String := "invalid rpc url"

end SmartAccount.Url
