import SmartAccount.Hex
import SmartAccount.Url.Label
import SmartAccount.Url.Numeric
/-!
# Hosts

The host of a URL is a numeric address between brackets, or a name. Where the scheme is one of
the well-known ones, the name is a domain: bytes written by number are put in, letters are
folded and composed, and what remains must be allowed in a domain. Elsewhere a name is taken as
it stands, save for a few characters that end a host.
-/

namespace SmartAccount.Url

/-- The bytes of a text in which `%` and two hex digits stand for a byte. -/
def percentDecoded : List Char → Bytes
  | '%' :: high :: low :: rest =>
    match Hex.decode? [high, low] with
    | some bytes => bytes ++ percentDecoded rest
    | none => 37 :: percentDecoded (high :: low :: rest)
  | c :: rest => (String.singleton c).toUTF8.data.toList ++ percentDecoded rest
  | [] => []

/-- Whether a host is a domain, or a four-byte address if it looks like one. -/
def isDomain (host : List Char) : Bool :=
  match String.fromUTF8? ⟨(percentDecoded host).toArray⟩ with
  | none => false
  | some text =>
    let domain := Text.composed (folded text.toList)
    !domain.isEmpty && areLabels (domain.splitOn '.')
      && (!endsInNumber domain || isFourBytes domain)

/-- A host between brackets, or a name that `isName` accepts. -/
def isHostOf (isName : List Char → Bool) (host : List Char) : Bool :=
  match host with
  | '[' :: rest => rest.getLast? = some ']' && isEightPieces rest.dropLast
  | _ => isName host

/-- Whether a text is a host under a well-known scheme. -/
def isSpecialHost (host : List Char) : Bool := isHostOf isDomain host

/-- Whether a text is a host under any other scheme; it may be empty. -/
def isOtherHost (host : List Char) : Bool :=
  isHostOf (fun name => name.all fun c => !(forbiddenInHost.contains c)) host

end SmartAccount.Url
