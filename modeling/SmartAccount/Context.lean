import SmartAccount.Notice
/-!
# Errors in context

An error says what went wrong, its context says what was being done. Both are reported to the
operator where the error arises; then the error goes on, inside its context or as it was.
-/

namespace SmartAccount

/-- An error with what was being done when it arose. -/
structure InContext (ε : Type) where
  context : String
  cause : ε

/-- The texts of an error in context, the context first. -/
def InContext.chain {ε : Type} (text : ε → String) (e : InContext ε) : List String :=
  [e.context, text e.cause]

/-- What the operator reads about an error in a context; about a success there is nothing to
read. -/
def noticeOnError {ε α : Type} (level : Level) (context : String) (shown : ε → String) :
    Except ε α → List Notice
  | .ok _ => []
  | .error e => [⟨level, context ++ ": " ++ shown e⟩]

/-- Puts an error into a context, which is built only if there is an error. -/
def inContext {ε α : Type} (context : Unit → String) : Except ε α → Except (InContext ε) α
  | .ok a => .ok a
  | .error e => .error ⟨context (), e⟩

end SmartAccount
