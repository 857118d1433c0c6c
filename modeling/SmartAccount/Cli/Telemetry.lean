/-!
# What is reported beside the answer

The log leaves out the components that only carry bytes, and every metric can carry labels that
are given on the command line.
-/

namespace SmartAccount.Cli

/-- The components whose reports are left out of the log. -/
def silencedComponents : List String := ["h2", "hyper", "hyper_util", "reqwest", "rustls"]

/-- Whether a report is left out: its target starts with the name of such a component. -/
def isSilenced (target : String) : Bool :=
  silencedComponents.any fun component => component.toList.isPrefixOf target.toList

/-- A label from its text: a key and a value with one equals sign between them. -/
def label? (text : String) : Option (String × String) :=
  match text.splitOn "=" with
  | [key, value] => some (key, value)
  | _ => none

/-- The labels among the texts; the others are skipped. -/
def labels (texts : List String) : List (String × String) := texts.filterMap label?

end SmartAccount.Cli
