/-!
# Settings

How tokens and diagnostics are presented. Each setting has a default, which holds where nothing is
said.
-/

namespace LoxLexer

/-- The presentation of tokens, diagnostics and the interactive prompt. -/
structure Settings where
  /-- The text printed before each line that is read. -/
  prompt : String := "> "
  /-- Whether diagnostics are coloured. -/
  color : Bool := true
  /-- Whether each printed token is preceded by its line number. -/
  showLines : Bool := false
  deriving DecidableEq, Repr, Inhabited

/-- The settings that hold where nothing is said. -/
def Settings.default : Settings := {}

end LoxLexer
