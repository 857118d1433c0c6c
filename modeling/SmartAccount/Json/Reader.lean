import SmartAccount.Json.Basic
/-!
# Reading JSON text

A recursive-descent reader. A value is read from the front of the text, and what follows it is
returned; the whole text must be one value between blanks. The count of steps is bounded by the
length of the text, which each step shortens, so the bound never shows.
-/

namespace SmartAccount.Json

/-- Blanks between the parts of a value. -/
def isBlank (c : Char) : Bool := c = ' ' || c = '\n' || c = '\t' || c = '\r'

/-- The text without the blanks in front. -/
def skipBlanks (text : List Char) : List Char := text.dropWhile isBlank

/-- The number that four hex digits write. -/
def codeUnit? : List Char → Option (Nat × List Char)
  | a :: b :: c :: d :: rest => do
    let a ← Numeral.digit? 16 a
    let b ← Numeral.digit? 16 b
    let c ← Numeral.digit? 16 c
    let d ← Numeral.digit? 16 d
    some (((a * 16 + b) * 16 + c) * 16 + d, rest)
  | _ => none

/-- A part of a string: a character, or half of a surrogate pair on its own. -/
inductive Unit16 where
  | char (c : Char)
  | high (unit : Nat)
  | low (unit : Nat)

/-- The letter of a short escape and what it stands for. -/
def shortEscape? (c : Char) : Option Char :=
  if c = '"' || c = '\\' || c = '/' then some c
  else if c = 'b' then some '\x08'
  else if c = 'f' then some '\x0c'
  else if c = 'n' then some '\n'
  else if c = 'r' then some '\r'
  else if c = 't' then some '\t'
  else none

/-- The parts of a string up to its closing quote, and the text after the quote. Control
characters and unknown escapes are refused. -/
def readParts : (fuel : Nat) → List Char → Option (List Unit16 × List Char)
  | 0, _ => none
  | _ + 1, '"' :: rest => some ([], rest)
  | fuel + 1, '\\' :: 'u' :: rest => do
    let (unit, rest) ← codeUnit? rest
    let (parts, rest) ← readParts fuel rest
    let part : Unit16 :=
      if 0xD800 ≤ unit ∧ unit < 0xDC00 then .high unit
      else if 0xDC00 ≤ unit ∧ unit < 0xE000 then .low unit
      else .char (Char.ofNat unit)
    some (part :: parts, rest)
  | fuel + 1, '\\' :: c :: rest => do
    let c ← shortEscape? c
    let (parts, rest) ← readParts fuel rest
    some (.char c :: parts, rest)
  | fuel + 1, c :: rest =>
    if c.toNat < 32 || c = '\\' then none
    else do
      let (parts, rest) ← readParts fuel rest
      some (.char c :: parts, rest)
  | _ + 1, [] => none

/-- The characters that the parts of a string stand for, if every surrogate has its partner. -/
def joinParts : List Unit16 → Option (List Char)
  | [] => some []
  | .char c :: rest => (joinParts rest).map (c :: ·)
  | .high h :: .low l :: rest =>
    (joinParts rest).map (Char.ofNat (0x10000 + (h - 0xD800) * 0x400 + (l - 0xDC00)) :: ·)
  | _ => none

/-- A string after its opening quote. -/
def readString (text : List Char) : Option (Option String × List Char) := do
  let (parts, rest) ← readParts (text.length + 1) text
  some ((joinParts parts).map String.ofList, rest)

def isDigit (c : Char) : Bool := '0' ≤ c && c ≤ '9'

/-- The digits in front of a text, at least one. -/
def readDigits (text : List Char) : Option (List Char × List Char) :=
  let digits := text.takeWhile isDigit
  if digits.isEmpty then none else some (digits, text.dropWhile isDigit)

/-- The whole part of a number: no zero stands in front of other digits. -/
def readWhole : List Char → Option (List Char × List Char)
  | '0' :: rest =>
    match rest with
    | c :: _ => if isDigit c then none else some (['0'], rest)
    | [] => some (['0'], rest)
  | text => readDigits text

/-- The part after the point, if there is one. -/
def readFraction : List Char → Option (List Char × List Char)
  | '.' :: rest => (readDigits rest).map fun (digits, rest) => ('.' :: digits, rest)
  | text => some ([], text)

/-- The power of ten, if there is one. -/
def readExponent : List Char → Option (List Char × List Char)
  | e :: rest =>
    if e = 'e' || e = 'E' then
      match rest with
      | s :: more =>
        if s = '+' || s = '-' then
          (readDigits more).map fun (digits, rest) => (e :: s :: digits, rest)
        else (readDigits rest).map fun (digits, rest) => (e :: digits, rest)
      | [] => none
    else some ([], e :: rest)
  | [] => some ([], [])

/-- The literal of a number. -/
def readNumber (text : List Char) : Option (String × List Char) := do
  let (sign, text) := match text with
    | '-' :: rest => (['-'], rest)
    | text => ([], text)
  let (whole, text) ← readWhole text
  let (fraction, text) ← readFraction text
  let (exponent, text) ← readExponent text
  some (String.ofList (sign ++ whole ++ fraction ++ exponent), text)

mutual

/-- The value in front of a text, and the text after it. -/
def readValue : (fuel : Nat) → List Char → Option (Json × List Char)
  | 0, _ => none
  | fuel + 1, text =>
    match skipBlanks text with
    | '"' :: rest => (readString rest).map fun (s, rest) => (.str s, rest)
    | '[' :: rest =>
      match skipBlanks rest with
      | ']' :: rest => some (.array [], rest)
      | rest => (readItems fuel rest).map fun (items, rest) => (.array items, rest)
    | '\x7b' :: rest =>
      match skipBlanks rest with
      | '\x7d' :: rest => some (.object [], rest)
      | rest => (readMembers fuel rest).map fun (members, rest) => (.object members, rest)
    | 'n' :: 'u' :: 'l' :: 'l' :: rest => some (.null, rest)
    | 't' :: 'r' :: 'u' :: 'e' :: rest => some (.bool true, rest)
    | 'f' :: 'a' :: 'l' :: 's' :: 'e' :: rest => some (.bool false, rest)
    | text => (readNumber text).map fun (literal, rest) => (.number literal, rest)

/-- The items of an array up to its closing bracket; there is at least one. -/
def readItems : (fuel : Nat) → List Char → Option (List Json × List Char)
  | 0, _ => none
  | fuel + 1, text => do
    let (item, rest) ← readValue fuel text
    match skipBlanks rest with
    | ',' :: rest => (readItems fuel rest).map fun (items, rest) => (item :: items, rest)
    | ']' :: rest => some ([item], rest)
    | _ => none

/-- The members of an object up to its closing brace; there is at least one. -/
def readMembers : (fuel : Nat) → List Char → Option (List (Option String × Json) × List Char)
  | 0, _ => none
  | fuel + 1, text =>
    match skipBlanks text with
    | '"' :: rest => do
      let (key, rest) ← readString rest
      match skipBlanks rest with
      | ':' :: rest =>
        let (value, rest) ← readValue fuel rest
        match skipBlanks rest with
        | ',' :: rest =>
          (readMembers fuel rest).map fun (members, rest) => ((key, value) :: members, rest)
        | '\x7d' :: rest => some ([(key, value)], rest)
        | _ => none
      | _ => none
    | _ => none

end

/-- The value that a whole text holds. -/
def parse? (text : String) : Option Json := do
  let cs := text.toList
  let (value, rest) ← readValue (2 * cs.length + 2) cs
  if (skipBlanks rest).isEmpty then some value else none

end SmartAccount.Json
