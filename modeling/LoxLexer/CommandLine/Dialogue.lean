import LoxLexer.CommandLine.Answer

/-!
# The prompt

A dialogue prompts for a line of input, answers it, and prompts again until the input has come to its end.
Each line is a source text of its own, so nothing is carried over from one answer to the next but what
has been written.
-/

namespace LoxLexer

namespace CommandLine

/-- Takes a line off a text: the characters up to the next line end, and what stands behind the line end. There
is no line in a text without characters. -/
def takeLine? (text : List Char) : Option (List Char × List Char) :=
  if text.isEmpty then none
  else some (text.takeWhile (· ≠ '\n'), (text.dropWhile (· ≠ '\n')).drop 1)

/-- Behind a line there is less text than before. -/
theorem length_lt_of_takeLine? {text line rest : List Char} (h : takeLine? text = some (line, rest)) :
    rest.length < text.length := by
  unfold takeLine? at h
  split at h
  next => simp at h
  next hne =>
    simp only [Option.some.injEq, Prod.mk.injEq] at h
    have hpos := List.length_pos_iff.mpr (by simpa using hne)
    have hle := (List.dropWhile_suffix (l := text) fun c => decide (c ≠ '\n')).length_le
    rw [← h.2, List.length_drop]
    omega

end CommandLine

/-- A prompt in progress. -/
structure Dialogue where
  /-- The input that has not been read yet. -/
  input : List Char
  /-- What has been written to standard output. -/
  stdout : String
  /-- What has been written to standard error. -/
  stderr : String
  deriving DecidableEq

namespace Dialogue

/-- A dialogue in which nothing has been read or written yet. -/
def start (input : String) : Dialogue := ⟨input.toList, "", ""⟩

/-- Writes a text to standard output. -/
def write (text : String) (dialogue : Dialogue) : Dialogue :=
  { dialogue with stdout := dialogue.stdout ++ text }

/-- Writes the answer to a line. Whether there are errors in the line does not matter to what comes next. -/
def reply (settings : Settings) (ansi : Bool) (line : List Char) (dialogue : Dialogue) : Dialogue :=
  let answer := CommandLine.answer settings ansi (String.ofList line)
  { dialogue with
    stdout := dialogue.stdout ++ answer.stdout
    stderr := dialogue.stderr ++ answer.stderr }

/-- Prompts for lines and answers them until there is no input left. -/
def converse (settings : Settings) (ansi : Bool) (dialogue : Dialogue) : Dialogue :=
  let asked := dialogue.write settings.prompt
  match _h : CommandLine.takeLine? dialogue.input with
  | none => asked.write "\n"
  | some (line, rest) => converse settings ansi ({ asked with input := rest }.reply settings ansi line)
termination_by dialogue.input.length
decreasing_by exact CommandLine.length_lt_of_takeLine? _h

end Dialogue

end LoxLexer
