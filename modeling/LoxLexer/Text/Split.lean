/-!
# Splitting text

A text is split at every occurrence of one of its elements, so that there is one more piece than there
are occurrences.
-/

namespace LoxLexer.Text

variable {α : Type}

/-- Puts an element in front of the first piece. -/
def consFirst (c : α) : List (List α) → List (List α)
  | first :: rest => (c :: first) :: rest
  | [] => [[c]]

/-- The pieces of a text between the occurrences of a separator. -/
def splitAt [DecidableEq α] (separator : α) (text : List α) : List (List α) :=
  text.foldr (fun c pieces => if c = separator then [] :: pieces else consFirst c pieces) [[]]

end LoxLexer.Text
