import SmartAccount.Numeral
/-!
# Numeric hosts

A host may be an address of its own: four bytes, whose parts may be written in several bases and
the last of which may stand for several bytes, or eight pieces of 16 bits, a run of zero pieces
left out.
-/

namespace SmartAccount.Url

/-- The digits of one part of a four-byte address and their base. -/
def numeralParts : List Char → Nat × List Char
  | '0' :: 'x' :: rest => (16, rest)
  | '0' :: 'X' :: rest => (16, rest)
  | '0' :: c :: rest => (8, c :: rest)
  | text => (10, text)

/-- One part of a four-byte address. -/
def numeral? (text : List Char) : Option Nat :=
  let (base, digits) := numeralParts text
  if text.isEmpty then none
  else digits.foldlM (fun n c => (Numeral.digit? base c).map (base * n + ·)) 0

/-- The labels of a host, without an empty one at its end. -/
def hostLabels (host : List Char) : List (List Char) :=
  let labels := host.splitOn '.'
  if labels.getLast? = some [] && 1 < labels.length then labels.dropLast else labels

/-- Whether a host has to be a four-byte address, because its last label is a number. -/
def endsInNumber (host : List Char) : Bool :=
  match (hostLabels host).getLast? with
  | none => false
  | some label => !label.isEmpty && (label.all Char.isDigit || (numeral? label).isSome)

/-- Whether the labels are a four-byte address: the last part fills the bytes that the others
leave. -/
def isFourBytes (host : List Char) : Bool :=
  match (hostLabels host).mapM numeral? with
  | none => false
  | some parts =>
    parts.length ≤ 4 && parts.dropLast.all (· ≤ 255)
      && (parts.getLast?.any fun last => last >>> (8 * (5 - parts.length)) = 0)

/-- A byte of a dotted address, without a leading zero. -/
def isDottedByte (text : List Char) : Bool :=
  match text with
  | [] => false
  | ['0'] => true
  | '0' :: _ => false
  | _ => text.length ≤ 3 && text.all Char.isDigit && (numeral? text).any (· ≤ 255)

/-- Whether a text is four dotted bytes. -/
def isDotted (text : List Char) : Bool :=
  let parts := text.splitOn '.'
  parts.length = 4 && parts.all isDottedByte

/-- Whether a text is a piece of 16 bits: one to four hex digits. -/
def isPiece (text : List Char) : Bool :=
  !text.isEmpty && text.length ≤ 4 && text.all fun c => (Numeral.digit? 16 c).isSome

/-- How many pieces the texts stand for, if they are pieces; the last may be a dotted address,
which stands for two, where `dotted` allows it. -/
def pieceCount? (dotted : Bool) : List (List Char) → Option Nat
  | [] => some 0
  | [text] => if isPiece text then some 1 else if dotted && isDotted text then some 2 else none
  | text :: rest => if isPiece text then (pieceCount? dotted rest).map (· + 1) else none

/-- The pieces of a text, none for an empty one. -/
def piecesOf (text : List Char) : List (List Char) :=
  if text.isEmpty then [] else text.splitOn ':'

/-- The part before the first `::` and the part after it. -/
def splitAtGap : List Char → Option (List Char × List Char)
  | ':' :: ':' :: rest => some ([], rest)
  | c :: rest => (splitAtGap rest).map fun (before, after) => (c :: before, after)
  | [] => none

/-- Whether a text is an address of eight pieces, or of fewer around one gap. -/
def isEightPieces (text : List Char) : Bool :=
  match splitAtGap text with
  | none => pieceCount? true (piecesOf text) = some 8
  | some (before, after) =>
    match pieceCount? false (piecesOf before), pieceCount? true (piecesOf after) with
    | some m, some n => m + n ≤ 7
    | _, _ => false

end SmartAccount.Url
