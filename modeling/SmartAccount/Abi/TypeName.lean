/-!
# The syntax of names and type names

An identifier starts with a letter, `_` or `$` and goes on with digits as well. A type name is an
identifier, perhaps with a point and a second identifier, or a list of type names between
parentheses, followed by any count of array brackets. A list may end with a comma, and blanks may
stand at its start, behind a comma and at its end. Whether a type of the name exists is not asked.
-/

namespace SmartAccount.Abi

def isNameStart (c : Char) : Bool :=
  ('a' ≤ c && c ≤ 'z') || ('A' ≤ c && c ≤ 'Z') || c = '_' || c = '$'

def isNamePart (c : Char) : Bool := isNameStart c || ('0' ≤ c && c ≤ '9')

/-- Whether a text is an identifier. -/
def isIdentifier (name : String) : Bool :=
  match name.toList with
  | [] => false
  | c :: rest => isNameStart c && rest.all isNamePart

/-- The text after the identifier in front of it. -/
def skipIdentifier? : List Char → Option (List Char)
  | [] => none
  | c :: rest => if isNameStart c then some (rest.dropWhile isNamePart) else none

/-- The text after a name in front of it. What follows the point of a qualified name may be
missing. -/
def skipName? (text : List Char) : Option (List Char) := do
  match ← skipIdentifier? text with
  | '.' :: rest => some ((skipIdentifier? rest).getD rest)
  | rest => some rest

/-- The most elements that an array type can have. -/
def maxArraySize : Nat := 18446744073709551615

/-- Whether the text between array brackets is a size: none, or a positive number. -/
def isArraySize (digits : List Char) : Bool :=
  digits.isEmpty ||
    let size := digits.foldl (fun n c => 10 * n + (c.toNat - 48)) 0
    1 ≤ size && size ≤ maxArraySize

/-- The text after the array brackets in front of it. -/
def skipBrackets? : (fuel : Nat) → List Char → Option (List Char)
  | 0, _ => none
  | fuel + 1, '[' :: rest =>
    match rest.dropWhile Char.isDigit with
    | ']' :: more =>
      if isArraySize (rest.takeWhile Char.isDigit) then skipBrackets? fuel more else none
    | _ => none
  | _ + 1, text => some text

def skipBlanks (text : List Char) : List Char := text.dropWhile fun c => c = ' ' || c = '\t'

/-- How deep lists of types may nest. -/
def maxTypeDepth : Nat := 79

mutual

/-- The text after the type name in front of it, which may hold lists of types `depth` levels
deep. -/
def skipType? : (fuel depth : Nat) → List Char → Option (List Char)
  | 0, _, _ => none
  | fuel + 1, depth, text => do
    let rest ← match text with
      | '(' :: rest => skipList? fuel depth rest
      | 't' :: 'u' :: 'p' :: 'l' :: 'e' :: '(' :: rest => skipList? fuel depth rest
      | text => skipName? text
    skipBrackets? fuel rest

/-- The text after the rest of a list of types, which may be empty. -/
def skipList? : (fuel depth : Nat) → List Char → Option (List Char)
  | 0, _, _ => none
  | fuel + 1, depth, text =>
    match skipBlanks text, depth with
    | ')' :: rest, _ => some rest
    | _, 0 => none
    | text, depth + 1 => skipTypes? fuel depth text

/-- The text after a list of at least one type and its closing parenthesis. -/
def skipTypes? : (fuel depth : Nat) → List Char → Option (List Char)
  | 0, _, _ => none
  | fuel + 1, depth, text => do
    match ← skipType? fuel depth text with
    | ',' :: rest =>
      match skipBlanks rest with
      | ')' :: rest => some rest
      | text => skipTypes? fuel depth text
    | rest =>
      match skipBlanks rest with
      | ')' :: rest => some rest
      | _ => none

end

/-- Whether a text is a type name. -/
def isTypeName (name : String) : Bool :=
  let text := name.toList
  skipType? (2 * text.length + 3) maxTypeDepth text = some []

end SmartAccount.Abi
