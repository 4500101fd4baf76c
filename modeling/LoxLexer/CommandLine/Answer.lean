import LoxLexer.Settings.Basic
import LoxLexer.Source.Session

/-!
# Answers

The answer to a source text is what is printed for it: a line for each token on standard output, and a line for
each error on standard error. The errors are reported by a listener while the text is scanned, and the tokens
are printed when the scan has come to its end.
-/

namespace LoxLexer.CommandLine

/-! ## Printing -/

/-- A number, preceded by spaces up to a least width. -/
def padLeft (width : Nat) (n : Int) : String :=
  let digits := toString n
  String.ofList (List.replicate (width - digits.length) ' ') ++ digits

/-- The line that shows a token. -/
def tokenLine (settings : Settings) (token : Token) : String :=
  (if settings.showLines then padLeft 4 token.line ++ " " else "") ++ token.render ++ "\n"

/-- A text in red. -/
def red (text : String) : String := "\x1B[31m" ++ text ++ "\x1B[39m"

/-- The line that reports an error. -/
def diagnosticLine (settings : Settings) (ansi : Bool) (error : LexicalError) : String :=
  (if settings.color && ansi then red error.render else error.render) ++ "\n"

/-- The lines that show tokens. -/
def tokenLines (settings : Settings) (tokens : List Token) : String :=
  String.join (tokens.map (tokenLine settings))

/-- The lines that report errors. -/
def diagnosticLines (settings : Settings) (ansi : Bool) (errors : List LexicalError) : String :=
  String.join (errors.map (diagnosticLine settings ansi))

/-! ## Scanning with reports -/

/-- What comes of the errors of a scan. -/
structure Report where
  /-- The errors. -/
  errors : Array LexicalError
  /-- The lines that have been written for them. -/
  written : String

/-- The listener that keeps every error and writes a line for it at once. It stops no scan. -/
def reporter (settings : Settings) (ansi : Bool) : Listener Report := fun report error =>
  (⟨report.errors.push error, report.written ++ diagnosticLine settings ansi error⟩, false)

/-- What is printed for a source text. -/
structure Answer where
  /-- Whether there are errors in the text. -/
  faulty : Bool
  /-- The lines for the tokens. -/
  stdout : String
  /-- The lines for the errors. -/
  stderr : String
  deriving DecidableEq

/-- Scans a source text and prints what is found. -/
def answer (settings : Settings) (ansi : Bool) (source : String) : Answer :=
  let (session, report, _) :=
    (Session.start source).resumeTelling (some (reporter settings ansi)) ⟨#[], ""⟩
  { faulty := !report.errors.isEmpty
    stdout := tokenLines settings session.tokens.toList
    stderr := report.written }

end LoxLexer.CommandLine
