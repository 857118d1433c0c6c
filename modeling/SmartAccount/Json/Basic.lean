import SmartAccount.Numeral
/-!
# JSON values and their text

The value type keeps what a reader of a text may still care about: the members of an object
in the order they were written, with repetitions, and a number as its literal. Two printers
write a value: `compact` without any blanks, and `pretty` with two blanks per level.

The text of a string may name half of a surrogate pair. It is well-formed, so a reader can pass
over it, but it stands for no string; such a string, as a value or as a key, is `none`.
-/

namespace SmartAccount

/-- A JSON value. -/
inductive Json where
  | null
  | bool (value : Bool)
  | number (literal : String)
  | str (value : Option String)
  | array (items : List Json)
  | object (members : List (Option String × Json))
  deriving Inhabited, BEq

namespace Json

/-- A string value. -/
def string (s : String) : Json := .str (some s)

/-- An object. -/
def record (members : List (String × Json)) : Json :=
  .object (members.map fun (key, value) => (some key, value))

/-- A natural number. -/
def nat (n : Nat) : Json := .number (Numeral.decimal n)

/-- `null` in place of a missing value. -/
def ofOption {α : Type} (f : α → Json) : Option α → Json
  | none => .null
  | some a => f a

/-- How one character stands inside a string: quotes, backslashes and control characters are
escaped, the common ones by a letter and the others by their number. -/
def escape (c : Char) : List Char :=
  if c = '"' then ['\\', '"']
  else if c = '\\' then ['\\', '\\']
  else if c = '\n' then ['\\', 'n']
  else if c = '\r' then ['\\', 'r']
  else if c = '\t' then ['\\', 't']
  else if c = '\x08' then ['\\', 'b']
  else if c = '\x0c' then ['\\', 'f']
  else if c.toNat < 32 then
    ['\\', 'u', '0', '0', Nat.digitChar (c.toNat / 16), Nat.digitChar (c.toNat % 16)]
  else [c]

/-- A string between quotes. -/
def quote (s : String) : List Char :=
  '"' :: s.toList.flatMap escape ++ ['"']

mutual

/-- The text of a value without blanks. -/
def write : Json → List Char
  | .null => "null".toList
  | .bool b => (if b then "true" else "false").toList
  | .number literal => literal.toList
  | .str s => quote (s.getD "")
  | .array items => '[' :: writeItems true items ++ [']']
  | .object members => '\x7b' :: writeMembers true members ++ ['\x7d']

/-- The items of an array, each but the first after a comma. -/
def writeItems (first : Bool) : List Json → List Char
  | [] => []
  | item :: rest => (if first then [] else [',']) ++ write item ++ writeItems false rest

/-- The members of an object, each but the first after a comma. -/
def writeMembers (first : Bool) : List (Option String × Json) → List Char
  | [] => []
  | (key, value) :: rest =>
    (if first then [] else [',']) ++ quote (key.getD "") ++ ':' :: write value
      ++ writeMembers false rest

end

/-- The compact text of a value. -/
def compact (j : Json) : String := String.ofList j.write

/-- A line break followed by two blanks per level. -/
def newline (level : Nat) : List Char := '\n' :: List.replicate (2 * level) ' '

mutual

/-- The text of a value with every item on a line of its own; an empty array or object stays
on one line. -/
def writeLines (level : Nat) : Json → List Char
  | .array (item :: rest) =>
    '[' :: newline (level + 1) ++ writeLines (level + 1) item ++ writeItemLines level rest
      ++ newline level ++ [']']
  | .object ((key, value) :: rest) =>
    '\x7b' :: newline (level + 1) ++ quote (key.getD "") ++ ':' :: ' '
      :: writeLines (level + 1) value ++ writeMemberLines level rest ++ newline level ++ ['\x7d']
  | .null => "null".toList
  | .bool b => (if b then "true" else "false").toList
  | .number literal => literal.toList
  | .str s => quote (s.getD "")
  | .array [] => ['[', ']']
  | .object [] => ['\x7b', '\x7d']

def writeItemLines (level : Nat) : List Json → List Char
  | [] => []
  | item :: rest =>
    ',' :: newline (level + 1) ++ writeLines (level + 1) item ++ writeItemLines level rest

def writeMemberLines (level : Nat) : List (Option String × Json) → List Char
  | [] => []
  | (key, value) :: rest =>
    ',' :: newline (level + 1) ++ quote (key.getD "") ++ ':' :: ' '
      :: writeLines (level + 1) value ++ writeMemberLines level rest

end

/-- The text of a value over several lines, two blanks per level. -/
def pretty (j : Json) : String := String.ofList (j.writeLines 0)

mutual

/-- The value with the members of every object in the order of their keys. -/
def sorted : Json → Json
  | .array items => .array (sortedItems items)
  | .object members =>
    .object ((sortedMembers members).mergeSort fun a b => decide (a.1.getD "" ≤ b.1.getD ""))
  | j => j

def sortedItems : List Json → List Json
  | [] => []
  | item :: rest => sorted item :: sortedItems rest

def sortedMembers : List (Option String × Json) → List (Option String × Json)
  | [] => []
  | (key, value) :: rest => (key, sorted value) :: sortedMembers rest

end

/-- The member of an object under a key, the first of them when the key is repeated. -/
def get? (key : String) : Json → Option Json
  | .object members => (members.find? (·.1 = some key)).map (·.2)
  | _ => none

end Json

end SmartAccount
