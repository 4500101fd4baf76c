import LoxLexer.Source.Segment

/-!
# Scanning

A session is a scan that may be interrupted: it holds the text that is still to be scanned, the line
reached, and what was found so far. `Session.consume` takes note of one segment. `Session.resumeTelling`
goes on until the text is used up or until a listener stops the scan at an error, and a stopped session
can be resumed, because it always stands between two segments. `scan` is a session that nothing stops.
-/

namespace LoxLexer

/-- A scan in progress. -/
structure Session where
  /-- The text that is still to be scanned. -/
  rest : List Char
  /-- The line on which the rest starts, counted from one. -/
  line : Nat
  /-- The tokens found so far. -/
  tokens : Array Token
  /-- The errors found so far. -/
  errors : Array LexicalError
  deriving Inhabited

/-- Someone who is told of every error when it is found. The answer to an error is what the listener
remembers from then on, and whether the scan is to stop. -/
def Listener (σ : Type) : Type := σ → LexicalError → σ × Bool

namespace Listener

/-- Tells the listener, if there is one, of the error that a step has found, if it has found one. -/
def tell {σ : Type} (listener : Option (Listener σ)) (memory : σ) :
    Option LexicalError → σ × Bool
  | none => (memory, false)
  | some error => match listener with
    | some hear => hear memory error
    | none => (memory, false)

/-- A listener that writes down every error and stops the scan at those with the given numbers,
counted from one. -/
def recorder (stops : Nat → Bool) : Listener (Array LexicalError) := fun heard error =>
  (heard.push error, stops (heard.size + 1))

end Listener

namespace Session

/-- A scan that has not consumed anything yet. -/
def start (source : String) : Session := ⟨source.toList, 1, #[], #[]⟩

/-- Consumes a segment: takes note of its token, of its error, and of the lines that end inside it. -/
def consume (session : Session) (segment : Segment) (rest : List Char) : Session :=
  { rest := rest
    line := session.line + segment.newlines
    tokens := match segment.token? session.line with
      | some token => session.tokens.push token
      | none => session.tokens
    errors := match segment.error? session.line with
      | some error => session.errors.push error
      | none => session.errors }

/-- Notes the end of the input. -/
def finish (session : Session) : Session :=
  { session with tokens := session.tokens.push (Token.endOfInput session.line) }

/-- Scans on until the text is used up or the listener, if there is one, stops the scan. The answer holds
what the listener remembers and says whether the end was reached. -/
def resumeTelling {σ : Type} (listener : Option (Listener σ)) (memory : σ) (session : Session) :
    Session × σ × Bool :=
  match _h : session.rest with
  | [] => (session.finish, memory, true)
  | c :: following =>
      let segment := (Segment.cut c following).1
      let next := session.consume segment (Segment.cut c following).2
      let (memory, stopped) := Listener.tell listener memory (segment.error? session.line)
      if stopped then (next, memory, false) else resumeTelling listener memory next
termination_by session.rest.length
decreasing_by
  have := Segment.length_cut_le c following
  simp_all only [consume, List.length_cons]
  omega

/-- Scans on with a listener that has written down the errors found so far and stops the scan at the
errors with the given numbers, counted from one. The answer says whether the end was reached. -/
def resume (stops : Nat → Bool) (session : Session) : Session × Bool :=
  let (next, _, finished) := session.resumeTelling (some (Listener.recorder stops)) session.errors
  (next, finished)

end Session

/-- The result of a complete scan. -/
structure Scan where
  /-- The tokens in source order, the last one marking the end of the input. -/
  tokens : List Token
  /-- The errors in source order. -/
  errors : List LexicalError
  deriving DecidableEq, Inhabited

/-- Scans a source text from start to end, without telling anyone of the errors. -/
def scan (source : String) : Scan :=
  let session := ((Session.start source).resumeTelling none ()).1
  ⟨session.tokens.toList, session.errors.toList⟩

end LoxLexer
