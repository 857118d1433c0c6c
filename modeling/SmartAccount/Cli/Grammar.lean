/-!
# The grammar of command lines

A command line is read word by word. Its commands form a tree; options belong to a command, and a
global one may also stand after the commands below it. A value that is not given may come from
the environment. Every value is checked, wherever it comes from: one that is joined to its option
at once, one that stands in a word of its own before the next option of the same command counts.
So a request for help behind a command is heard before a value in front of the command is checked.
-/

namespace SmartAccount.Cli

/-- An option of a command. -/
structure OptionSpec where
  name : String
  /-- Whether a value follows. One that takes none stands for the value `true`. -/
  takesValue : Bool := true
  accepts : String → Bool := fun _ => true
  isGlobal : Bool := false
  isRequired : Bool := false
  repeats : Bool := false
  /-- The variable that gives the value where the option is not given. -/
  environment : Option String := none

/-- The values that follow a command. -/
structure ValueSpec where
  minimum : Nat := 0
  maximum : Option Nat := some 0
  accepts : String → Bool := fun _ => true

/-- The commands: a group has commands below it, a leaf takes values. -/
inductive Grammar where
  | group (options : List OptionSpec) (commands : List (String × Grammar))
  | leaf (options : List OptionSpec) (values : ValueSpec)

def Grammar.options : Grammar → List OptionSpec
  | .group options _ => options
  | .leaf options _ => options

/-- Why a command line is not followed by a command. -/
inductive Stop where
  /-- It is not a command line of the grammar. -/
  | usage
  | help
  | version
  deriving DecidableEq

/-- The word that asks for help where a command is expected. -/
def helpWord : String := "help"

/-- What asking a command for help with the commands of a path comes to. There is help on asking
for help as well. -/
def Grammar.helpWith : Grammar → (path : List String) → Stop
  | _, [] => .help
  | .leaf _ _, _ :: _ => .usage
  | .group _ commands, word :: rest =>
    match commands.find? (·.1 = word) with
    | none => if word = helpWord && rest.isEmpty then .help else .usage
    | some (_, grammar) => grammar.helpWith rest

/-- The options of one command: those that it knows, and those that were given. -/
structure Given where
  known : List OptionSpec
  values : List (String × String) := []
  /-- The option that was read last and its value, if they have not been checked yet. -/
  pending : Option (OptionSpec × String) := none

/-- A command line that was read. -/
structure Reading where
  /-- The commands, the outermost first. -/
  path : List String
  /-- The options of each command, the innermost first. -/
  levels : List Given
  values : List String

namespace Given

/-- Adds an option that is given with a value. -/
def add (g : Given) (spec : OptionSpec) (value : String) : Except Stop Given :=
  if !spec.accepts value then .error .usage
  else if !spec.repeats && g.values.any (·.1 = spec.name) then .error .usage
  else .ok { g with values := g.values ++ [(spec.name, value)] }

/-- Adds the option that is still to be checked. -/
def settle (g : Given) : Except Stop Given :=
  match g.pending with
  | none => .ok g
  | some (spec, value) => { g with pending := none }.add spec value

/-- Whether the options that are missing may be missing: none of them is required, and what the
environment says in their place is accepted. -/
def isComplete (environment : String → Option String) (g : Given) : Bool :=
  g.known.all fun spec =>
    g.values.any (·.1 = spec.name) ||
      match spec.environment >>= environment with
      | some value => spec.accepts value
      | none => !spec.isRequired

end Given

/-- Whether a word looks like an option. -/
def isOptionLike (word : String) : Bool :=
  match word.toList with
  | ['-'] => false
  | '-' :: _ => true
  | _ => false

/-- The name and the value of a long option, which may be joined by an equals sign. -/
def splitOption (word : List Char) : String × Option String :=
  let name := word.takeWhile (· ≠ '=')
  match word.dropWhile (· ≠ '=') with
  | _ :: value => (String.ofList name, some (String.ofList value))
  | [] => (String.ofList name, none)

/-- Where the reading of a command line stands. -/
structure Cursor where
  grammar : Grammar
  /-- The options of the command that was entered last. -/
  given : Given
  /-- The commands that were entered, the outermost first. -/
  path : List String := []
  /-- The options of the commands above, the innermost first. -/
  outer : List Given := []
  values : List String := []

namespace Cursor

/-- The start of a command line. -/
def start (grammar : Grammar) : Cursor :=
  { grammar := grammar, given := { known := grammar.options } }

/-- Enters the command that a word names. -/
def enter (c : Cursor) (word : String) : Except Stop Cursor :=
  match c.grammar with
  | .leaf _ _ => .error .usage
  | .group _ commands =>
    match commands.find? (·.1 = word) with
    | none => .error .usage
    | some (name, grammar) =>
      let known := grammar.options ++ c.given.known.filter (·.isGlobal)
      .ok { grammar := grammar, given := { known := known }, path := c.path ++ [name]
            outer := c.given :: c.outer }

/-- Takes a word as a value. -/
def take (c : Cursor) (word : String) : Except Stop Cursor :=
  match c.grammar with
  | .group _ _ => .error .usage
  | .leaf _ spec =>
    if spec.accepts word && spec.maximum.all (c.values.length < ·) then
      .ok { c with values := c.values ++ [word] }
    else .error .usage

/-- Takes a word that is no option. -/
def word (c : Cursor) (w : String) : Except Stop Cursor :=
  match c.grammar with
  | .group _ _ => c.enter w
  | .leaf _ _ => c.take w

/-- Whether a word asks for help: it stands where a command is expected. -/
def isHelp (c : Cursor) (w : String) : Bool :=
  match c.grammar with
  | .group _ _ => w = helpWord
  | .leaf _ _ => false

/-- What a short option asks for: help anywhere, the version before any command. -/
def shortStop (c : Cursor) (letter : Char) : Stop :=
  if letter = 'h' then .help
  else if letter = 'V' && c.path.isEmpty then .version
  else .usage

/-- The end of a command line. -/
def finish (environment : String → Option String) (c : Cursor) : Except Stop Reading := do
  let levels ← (c.given :: c.outer).mapM Given.settle
  match c.grammar with
  | .group _ _ => .error .usage
  | .leaf _ spec =>
    if spec.minimum ≤ c.values.length && levels.all (·.isComplete environment) then
      .ok ⟨c.path, levels, c.values⟩
    else .error .usage

/-- Reads the rest of a command line. After two hyphens every word is a value. -/
def read (environment : String → Option String) (c : Cursor) : List String → Except Stop Reading
  | [] => c.finish environment
  | w :: rest =>
    match w.toList with
    | ['-', '-'] => do (← rest.foldlM take c).finish environment
    | '-' :: '-' :: long => do
      let (name, inline) := splitOption long
      if inline.isNone && name = helpWord then
        let _ ← c.given.settle
        throw .help
      if inline.isNone && name = "version" && c.path.isEmpty then
        let _ ← c.given.settle
        throw .version
      match c.given.known.find? (·.name = name) with
      | none => throw .usage
      | some spec =>
        let given ← c.given.settle
        match spec.takesValue, inline, rest with
        | false, some _, _ => throw .usage
        | false, none, rest =>
          let given ← given.add spec "true"
          read environment { c with given := given } rest
        | true, some value, rest =>
          let given ← given.add spec value
          read environment { c with given := given } rest
        | true, none, [] => throw .usage
        | true, none, value :: rest =>
          if isOptionLike value then throw .usage
          read environment { c with given := { given with pending := some (spec, value) } } rest
    | '-' :: letter :: _ => do
      let _ ← c.given.settle
      throw (c.shortStop letter)
    | _ =>
      if c.isHelp w then .error (c.grammar.helpWith rest)
      else do (← c.word w).read environment rest

end Cursor

namespace Reading

/-- The values of an option that is given, at the innermost command that has it. -/
def given (r : Reading) (name : String) : List String :=
  (r.levels.findSome? fun level =>
    let values := (level.values.filter (·.1 = name)).map (·.2)
    if values.isEmpty then none else some values).getD []

/-- What the environment says in place of an option. -/
def fromEnvironment (environment : String → Option String) (r : Reading) (name : String) :
    Option String :=
  r.levels.findSome? fun level =>
    (level.known.find? (·.name = name)) >>= (·.environment) >>= environment

/-- The value of an option, given or from the environment. -/
def value? (environment : String → Option String) (r : Reading) (name : String) :
    Option String :=
  (r.given name).getLast? <|> r.fromEnvironment environment name

end Reading

/-- Reads a command line. -/
def Grammar.read (grammar : Grammar) (environment : String → Option String)
    (words : List String) : Except Stop Reading :=
  (Cursor.start grammar).read environment words

end SmartAccount.Cli
