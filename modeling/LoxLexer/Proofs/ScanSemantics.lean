import LoxLexer.Proofs.Segmentation
import LoxLexer.Source.Session

/-!
# What a session finds

A session that goes on to the end of its text finds what the segments of the text yield, whether or not it
is interrupted on the way. `Session.completed` is the session at that end. A step does not change
it, `completed_consume`, so it is the same for a session and for all sessions that it passes through, and
the listener alone decides how far a session gets.
-/

namespace LoxLexer

open Segment

/-! ## The yield of segments -/

/-- What consecutive segments yield, the first of which starts on the given line. -/
def Segment.gather {α : Type} (yield : Nat → Segment → Option α) : Nat → List Segment → List α
  | _, [] => []
  | line, segment :: segments =>
      (yield line segment).toList ++ gather yield (line + segment.newlines) segments

/-- What segments yield is yielded by one of them. -/
theorem Segment.mem_gather {α : Type} {yield : Nat → Segment → Option α} {line : Nat}
    {segments : List Segment} {a : α} (h : a ∈ gather yield line segments) :
    ∃ segment ∈ segments, ∃ line', yield line' segment = some a := by
  induction segments generalizing line with
  | nil => simp [gather] at h
  | cons segment segments ih =>
    rw [gather] at h
    rcases List.mem_append.mp h with h | h
    · exact ⟨segment, by simp, line, by simpa using h⟩
    · obtain ⟨segment', hsegment', hyield⟩ := ih h
      exact ⟨segment', by simp [hsegment'], hyield⟩

/-- What the segments of a text yield that starts on the given line. -/
def Segment.yieldOf {α : Type} (yield : Nat → Segment → Option α) (line : Nat) (text : List Char) :
    List α :=
  gather yield line (cutAll text)

section Yield

variable {α : Type} (yield : Nat → Segment → Option α) (line : Nat)

/-- A text without characters yields nothing. -/
@[simp] theorem yieldOf_nil : yieldOf yield line [] = [] := by
  rw [yieldOf, cutAll_nil, gather]

/-- What the first segment yields comes first, and then what the text behind it yields. -/
theorem yieldOf_cons (c : Char) (rest : List Char) :
    yieldOf yield line (c :: rest) = (yield line (cut c rest).1).toList ++
      yieldOf yield (line + (cut c rest).1.newlines) (cut c rest).2 := by
  rw [yieldOf, cutAll_cons, gather, yieldOf]

/-- The same for a segment that the grammar finds at the start of a text. -/
theorem yieldOf_append {segment : Segment} {rest : List Char}
    (h : NextSegment (segment.text ++ rest) segment) :
    yieldOf yield line (segment.text ++ rest) =
      (yield line segment).toList ++ yieldOf yield (line + segment.newlines) rest := by
  rw [yieldOf, cutAll_append h, gather, yieldOf]

end Yield

/-- The lines that end in a text end in its first segment or behind it. -/
theorem newlines_cut_add_count (c : Char) (rest : List Char) :
    (cut c rest).1.newlines + (cut c rest).2.count '\n' = (c :: rest).count '\n' := by
  rw [newlines, ← List.count_append, text_cut_append]

/-! ## Sessions -/

namespace Session

/-- The errors that a session has still to find. -/
def pendingErrors (session : Session) : List LexicalError :=
  yieldOf error? session.line session.rest

/-- The session at the end of its text. -/
def completed (session : Session) : Session where
  rest := []
  line := session.line + session.rest.count '\n'
  tokens := session.tokens ++ (yieldOf token? session.line session.rest).toArray
  errors := session.errors ++ session.pendingErrors.toArray

/-- A session without any text left is at its end. -/
theorem completed_of_rest_nil {session : Session} (h : session.rest = []) :
    session.completed = session := by
  cases session
  simp_all [completed, pendingErrors]

/-- The tokens after a step. -/
theorem tokens_consume (session : Session) (segment : Segment) (rest : List Char) :
    (session.consume segment rest).tokens =
      session.tokens ++ (segment.token? session.line).toList.toArray := by
  unfold consume
  cases segment.token? session.line <;> simp

/-- The errors after a step. -/
theorem errors_consume (session : Session) (segment : Segment) (rest : List Char) :
    (session.consume segment rest).errors =
      session.errors ++ (segment.error? session.line).toList.toArray := by
  unfold consume
  cases segment.error? session.line <;> simp

/-- A step takes the errors of its segment out of those that are still to be found. -/
theorem pendingErrors_of_rest_cons {session : Session} {c : Char} {following : List Char}
    (h : session.rest = c :: following) :
    session.pendingErrors = ((cut c following).1.error? session.line).toList ++
      (session.consume (cut c following).1 (cut c following).2).pendingErrors := by
  rw [pendingErrors, h, yieldOf_cons]
  rfl

/-- A step leaves the session at the end of the text as it is. -/
theorem completed_consume {session : Session} {c : Char} {following : List Char}
    (h : session.rest = c :: following) :
    (session.consume (cut c following).1 (cut c following).2).completed = session.completed := by
  have hline := newlines_cut_add_count c following
  have htokens := yieldOf_cons token? session.line c following
  have herrors := pendingErrors_of_rest_cons h
  simp only [completed, tokens_consume, errors_consume, h, htokens, herrors, mk.injEq, true_and]
  simp only [consume, Array.append_assoc, List.append_toArray, and_self, and_true]
  omega

end Session

/-! ## Listeners -/

namespace Listener

variable {σ : Type}

/-- Tells a listener of errors one after the other until it stops the scan. The answer holds what the
listener remembers and, if it has stopped the scan, the errors that it has not been told of. -/
def tellAll (listener : Option (Listener σ)) (memory : σ) :
    List LexicalError → σ × Option (List LexicalError)
  | [] => (memory, none)
  | error :: later =>
      let (memory, stopped) := tell listener memory (some error)
      if stopped then (memory, some later) else tellAll listener memory later

/-- Without a listener nothing stops the scan. -/
theorem tellAll_none (memory : σ) (errors : List LexicalError) :
    tellAll none memory errors = (memory, none) := by
  induction errors with
  | nil => rfl
  | cons error later ih => simpa [tellAll, tell] using ih

variable {listener : Option (Listener σ)} {memory memory' : σ} {error? : Option LexicalError}
  {later : List LexicalError}

/-- A listener that stops the scan at the error of a step has not been told of the later ones. -/
theorem tellAll_of_stopped (h : tell listener memory error? = (memory', true)) :
    tellAll listener memory (error?.toList ++ later) = (memory', some later) := by
  cases error? with
  | none => simp [tell] at h
  | some error => simp [tellAll, h]

/-- A listener that does not stop the scan at a step is told of the later errors next. -/
theorem tellAll_of_not_stopped (h : tell listener memory error? = (memory', false)) :
    tellAll listener memory (error?.toList ++ later) = tellAll listener memory' later := by
  cases error? with
  | none =>
    obtain rfl : memory = memory' := by simpa [tell] using h
    rfl
  | some error => simp [tellAll, h]

end Listener

namespace Session

variable {σ : Type} {listener : Option (Listener σ)} {memory : σ} {session : Session}

/-- A session that the listener does not stop goes on to the end of its text. -/
theorem resumeTelling_of_finished
    (h : (Listener.tellAll listener memory session.pendingErrors).2 = none) :
    session.resumeTelling listener memory = (session.completed.finish,
      (Listener.tellAll listener memory session.pendingErrors).1, true) := by
  fun_induction resumeTelling listener memory session with
  | case1 memory session hrest =>
    simp [completed_of_rest_nil hrest, pendingErrors, hrest, Listener.tellAll]
  | case2 memory session c following hrest segment next memory' htell =>
    rw [pendingErrors_of_rest_cons hrest, Listener.tellAll_of_stopped htell] at h
    simp at h
  | case3 memory session c following hrest segment next memory' stopped htell hstopped ih =>
    rw [Bool.not_eq_true] at hstopped
    rw [hstopped] at htell
    rw [pendingErrors_of_rest_cons hrest, Listener.tellAll_of_not_stopped htell] at h ⊢
    rw [ih h, completed_consume hrest]

/-- A session that the listener stops has still to find the errors that the listener has not been told
of, and nothing else has been lost or added on the way. -/
theorem resumeTelling_of_stopped {later : List LexicalError}
    (h : (Listener.tellAll listener memory session.pendingErrors).2 = some later) :
    ∃ next : Session, session.resumeTelling listener memory =
        (next, (Listener.tellAll listener memory session.pendingErrors).1, false) ∧
      next.completed = session.completed ∧ next.pendingErrors = later := by
  fun_induction resumeTelling listener memory session with
  | case1 memory session hrest => simp [pendingErrors, hrest, Listener.tellAll] at h
  | case2 memory session c following hrest segment next memory' htell =>
    rw [pendingErrors_of_rest_cons hrest, Listener.tellAll_of_stopped htell] at h ⊢
    exact ⟨next, rfl, completed_consume hrest, Option.some.inj h⟩
  | case3 memory session c following hrest segment next memory' stopped htell hstopped ih =>
    rw [Bool.not_eq_true] at hstopped
    rw [hstopped] at htell
    rw [pendingErrors_of_rest_cons hrest, Listener.tellAll_of_not_stopped htell] at h ⊢
    obtain ⟨last, hresume, hcompleted, hpending⟩ := ih h
    exact ⟨last, hresume, hcompleted.trans (completed_consume hrest), hpending⟩

/-- A session that nobody listens to goes on to the end of its text. -/
theorem resumeTelling_none (memory : σ) (session : Session) :
    session.resumeTelling none memory = (session.completed.finish, memory, true) := by
  have htell := Listener.tellAll_none memory session.pendingErrors
  have hresume := resumeTelling_of_finished (congrArg Prod.snd htell)
  rwa [htell] at hresume

end Session

/-! ## Complete scans -/

/-- A scan finds the tokens and the errors of its text, and then the end of the input on the line
behind the last line end. -/
theorem scan_eq (source : String) :
    scan source =
      ⟨yieldOf token? 1 source.toList ++
        [Token.endOfInput ((1 + source.toList.count '\n' : Nat) : Int)],
      yieldOf error? 1 source.toList⟩ := by
  simp [scan, Session.resumeTelling_none, Session.finish, Session.completed, Session.start,
    Session.pendingErrors]

/-- A scan finds the tokens of its text and then the end of the input. -/
theorem scan_tokens (source : String) :
    (scan source).tokens = yieldOf token? 1 source.toList ++
      [Token.endOfInput ((1 + source.toList.count '\n' : Nat) : Int)] := by
  rw [scan_eq]

/-- A scan finds the errors of its text. -/
theorem scan_errors (source : String) : (scan source).errors = yieldOf error? 1 source.toList := by
  rw [scan_eq]

end LoxLexer
