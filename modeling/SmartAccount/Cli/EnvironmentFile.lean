import SmartAccount.Text.Ranges
/-!
# Variables from a file

A file can give variables, one in a line: a name, an equals sign and a value. A value may be
quoted, hold escapes, and name other variables after a dollar sign. Reading stops at the first
line that is malformed; the lines before it count.
-/

namespace SmartAccount.Cli.EnvironmentFile

/-- What is known of variables: a look-up by name. -/
abbrev Lookup := String → Option String

/-- How a value is being read. -/
inductive Mode where
  | plain
  /-- Between single quotes: everything stands for itself. -/
  | literal
  /-- After a dollar sign, with the name so far. -/
  | name (soFar : List Char)
  /-- After a dollar sign and a brace, with the name so far. -/
  | bracedName (soFar : List Char)
  /-- After a blank: only a comment may follow. -/
  | ended
  | comment
  deriving DecidableEq

/-- A value that is being read. -/
structure Cursor where
  mode : Mode := .plain
  /-- Whether a double quote is open. -/
  quoted : Bool := false
  /-- Whether the character before is a backslash. -/
  escaped : Bool := false
  output : List Char := []

namespace Cursor

def push (v : Cursor) (cs : List Char) : Cursor := { v with output := v.output ++ cs }

/-- Puts in the value of a variable; an unknown one is empty. -/
def substitute (lookup : Lookup) (v : Cursor) (name : List Char) : Cursor :=
  v.push ((lookup (String.ofList name)).getD "").toList

/-- A character of a value outside single quotes and names. -/
def plain? (v : Cursor) (c : Char) : Option Cursor :=
  if c = '$' then some { v with mode := .name [] }
  else if c = '\\' then some { v with escaped := true }
  else if c = '"' then some { v with quoted := !v.quoted }
  else if v.quoted then some (v.push [c])
  else if c = '\'' then some { v with mode := .literal }
  else if c = ' ' || c = '\t' then some { v with mode := .ended }
  else some (v.push [c])

/-- One more character of a value, or `none` if it may not stand there. -/
def read? (lookup : Lookup) (v : Cursor) (c : Char) : Option Cursor :=
  if v.escaped then
    let v := { v with escaped := false }
    if c = 'n' then some (v.push ['\n'])
    else if ['\\', '\'', '"', '$', ' '].contains c then some (v.push [c])
    else none
  else
    match v.mode with
    | .plain => v.plain? c
    | .literal => some (if c = '\'' then { v with mode := .plain } else v.push [c])
    | .name soFar =>
      if c.isAlphanum then some { v with mode := .name (soFar ++ [c]) }
      else if c = '\x7b' && soFar.isEmpty then some { v with mode := .bracedName [] }
      else
        let v := v.substitute lookup soFar
        if c = '$' then some { v with mode := .name [] }
        else some ({ v with mode := .plain }.push [c])
    | .bracedName soFar =>
      if c = '\x7d' then some ({ v with mode := .plain }.substitute lookup soFar)
      else some { v with mode := .bracedName (soFar ++ [c]) }
    | .ended =>
      if c = ' ' || c = '\t' then some v
      else if c = '#' then some { v with mode := .comment }
      else none
    | .comment => some v

/-- The value at the end of its line. -/
def finish? (lookup : Lookup) (v : Cursor) : Option String :=
  if v.quoted then none
  else
    match v.mode with
    | .literal => none
    | .bracedName _ => none
    | .name soFar => some (String.ofList (v.substitute lookup soFar).output)
    | _ => some (String.ofList v.output)

end Cursor

/-- The value that a text writes. -/
def value? (lookup : Lookup) (text : List Char) : Option String := do
  (← text.foldlM (Cursor.read? lookup) {}).finish? lookup

/-- Blanks of any script and width. -/
def blankRanges : Text.Ranges := #[
  (0x9, 0xd), (0x20, 0x20), (0x85, 0x85), (0xa0, 0xa0), (0x1680, 0x1680), (0x2000, 0x200a),
  (0x2028, 0x2029), (0x202f, 0x202f), (0x205f, 0x205f), (0x3000, 0x3000)]

def isBlank (c : Char) : Bool := blankRanges.contains c

/-- The text without blanks in front. -/
def trimLeft (text : List Char) : List Char := text.dropWhile isBlank

/-- The text without blanks behind. -/
def trimRight (text : List Char) : List Char := (trimLeft text.reverse).reverse

/-- The name at the start of a text, and the text after it. -/
def name? (text : List Char) : Option (List Char × List Char) :=
  let isInner (c : Char) : Bool := c.isAlphanum || c = '_' || c = '.'
  match text with
  | c :: _ =>
    if c.isAlpha || c = '_' then some (text.takeWhile isInner, text.dropWhile isInner) else none
  | [] => none

/-- The text after an equals sign. -/
def afterEquals? : List Char → Option (List Char)
  | '=' :: rest => some rest
  | _ => none

/-- What a line says: nothing, or a variable and its value; `none` if it is malformed. The word
`export` may stand in front of the name. -/
def line? (lookup : Lookup) (line : List Char) : Option (Option (String × String)) := do
  let text := trimLeft (trimRight line)
  if text.isEmpty || text.head? = some '#' then return none
  let (name, rest) ← name? text
  let rest := trimLeft rest
  let (name, rest) ←
    if name = "export".toList && (afterEquals? rest).isNone then do
      let (name, rest) ← name? rest
      some (name, trimLeft rest)
    else some (name, rest)
  let rest := trimLeft (← afterEquals? rest)
  let value ← if rest.isEmpty || rest.head? = some '#' then some "" else value? lookup rest
  return some (String.ofList name, value)

/-- The variables of the lines up to the first malformed one. What is already known, from the
environment or from a line before, is not replaced, and a value may name it. -/
def entries (environment : Lookup) (known : List (String × String)) :
    List (List Char) → List (String × String)
  | [] => known
  | line :: rest =>
    let lookup (name : String) : Option String :=
      environment name <|> ((known.find? (·.1 = name)).map (·.2))
    match line? lookup line with
    | none => known
    | some none => entries environment known rest
    | some (some entry) => entries environment (known ++ [entry]) rest

/-- The environment together with the variables of a file, which do not replace any. -/
def extend (environment : Lookup) (text : String) : Lookup :=
  let known := entries environment [] (text.toList.splitOn '\n')
  fun name => environment name <|> ((known.find? (·.1 = name)).map (·.2))

end SmartAccount.Cli.EnvironmentFile
