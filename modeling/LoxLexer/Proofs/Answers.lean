import LoxLexer.CommandLine.Answer
import LoxLexer.Proofs.ScanSemantics

/-!
# What is printed for a text

An answer is put together while its text is scanned: the listener writes a line for every error that it is told of.
This file shows that the listener is told of all errors of the scan, in their order, and that it does not keep
the scan from its end, so that an answer consists of what a complete scan finds.
-/

namespace LoxLexer.CommandLine

variable (settings : Settings) (ansi : Bool)

/-- The lines for errors come in front of those for later ones. -/
theorem diagnosticLines_append (errors later : List LexicalError) :
    diagnosticLines settings ansi (errors ++ later) =
      diagnosticLines settings ansi errors ++ diagnosticLines settings ansi later := by
  rw [diagnosticLines, List.map_append, String.join_append]
  rfl

/-- A reporter keeps all errors that it is told of, writes a line for each of them, and stops no scan. -/
theorem tellAll_reporter (report : Report) (errors : List LexicalError) :
    Listener.tellAll (some (reporter settings ansi)) report errors =
      (⟨report.errors ++ errors.toArray, report.written ++ diagnosticLines settings ansi errors⟩,
        none) := by
  induction errors generalizing report with
  | nil => simp [Listener.tellAll, diagnosticLines]
  | cons error later ih =>
    have htold : Listener.tell (some (reporter settings ansi)) report (some error) =
        (⟨report.errors.push error, report.written ++ diagnosticLine settings ansi error⟩, false) := rfl
    rw [Listener.tellAll, htold]
    simp [ih, diagnosticLines, String.append_assoc]

/-- **Answers are scans in print.** The answer to a text shows the tokens of a complete scan and reports its errors,
and it is faulty if there are any. -/
theorem answer_eq (source : String) :
    answer settings ansi source =
      { faulty := !(scan source).errors.isEmpty
        stdout := tokenLines settings (scan source).tokens
        stderr := diagnosticLines settings ansi (scan source).errors } := by
  have htold := tellAll_reporter settings ansi ⟨#[], ""⟩ (Session.start source).pendingErrors
  have hresume := Session.resumeTelling_of_finished (congrArg Prod.snd htold)
  rw [htold] at hresume
  rw [answer, hresume, scan, Session.resumeTelling_none]
  simp [Session.finish, Session.completed, Session.start, Session.pendingErrors]

end LoxLexer.CommandLine
