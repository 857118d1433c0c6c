import SmartAccount.Text.Mark
import SmartAccount.Text.Unprintable
/-!
# Characters without a glyph of their own

A quoted text writes a character by its number if it does not show, or if it would change how
the character before it shows.
-/

namespace SmartAccount.Text

/-- Whether a character has no glyph of its own. -/
def isGlyphless (c : Char) : Bool := isUnprintable c || isExtending c

end SmartAccount.Text
