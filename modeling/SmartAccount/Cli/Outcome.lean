import SmartAccount.Cli.Plan
/-!
# What a run comes to

A run leaves lines on standard output, perhaps a line on standard error, and an exit code. What a
command printed before it failed is left as well.
-/

namespace SmartAccount.Cli

/-- What is left of a run. -/
structure Outcome where
  exitCode : Nat
  /-- The lines on standard output. -/
  output : List String := []
  /-- The line on standard error, if there is one. -/
  error : Option String := none
  deriving DecidableEq

/-- What is printed about the version. -/
def versionLine : String := "aakit 0.1.0"

/-- What is printed for a command line that asks for help or is none. -/
def usageLine : String :=
  let names := match grammar with
    | .group _ commands => commands.map (·.1)
    | .leaf _ _ => []
  "Usage: aakit [OPTIONS] <" ++ "|".intercalate names ++ ">"

namespace Outcome

/-- What a task leaves that has come to its end and printed lines. -/
def ofRun : Except String Unit × List String → Outcome
  | (.ok (), lines) => { exitCode := 0, output := lines }
  | (.error text, lines) => { exitCode := 1, output := lines, error := some ("Error: " ++ text) }

/-- What a command with a result leaves. -/
def ofResult : Except String (List String) → Outcome
  | .ok lines => ofRun (.ok (), lines)
  | .error text => ofRun (.error text, [])

/-- What words leave that are not followed by a command. -/
def ofStop : Stop → Outcome
  | .usage => { exitCode := 2, error := some usageLine }
  | .help => { exitCode := 0, output := [usageLine] }
  | .version => { exitCode := 0, output := [versionLine] }

end Outcome

/-- What a task leaves, as a dialogue. -/
def Task.dialogue (task : Task Unit) : Dialogue Outcome := Outcome.ofRun <$> task.run.run []

/-- What a task leaves when it talks to a node. -/
def Task.outcome {σ : Type} (node : Dialogue.Node σ) (task : Task Unit) (s : σ) :
    Dialogue.Transcript σ Outcome :=
  Dialogue.run node task.dialogue s

/-- What a command line leaves, unless it is for a watch. -/
def outcome? {σ : Type} (environment : String → Option String) (machine : Machine)
    (node : Dialogue.Node σ) (words : List String) (s : σ) :
    Option (Dialogue.Transcript σ Outcome) :=
  match Invocation.parse environment words with
  | .error stop => some ⟨.ofStop stop, [], 0, s⟩
  | .ok invocation =>
    match invocation.plan machine with
    | .error e => some ⟨.ofResult (.error e), [], 0, s⟩
    | .ok (.print task) => some (task.outcome node s)
    | .ok (.watch _ _ _) => none

end SmartAccount.Cli
