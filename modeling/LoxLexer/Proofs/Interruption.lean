import LoxLexer.Proofs.ScanSemantics

/-!
# Interrupted scans

A listener may stop a scan at any error, and the scan may be resumed each time. A stopped session stands
behind the segment whose error has stopped it, `Paused`, so it has found a part of what a complete scan
finds and will find the rest. This file follows a scan through all its calls: those that the listener stops,
the one that reaches the end, and any later ones.
-/

namespace LoxLexer

namespace Listener

variable (stops : Nat → Bool)

/-- The numbers at which a recorder will stop the scan: it has heard of some errors, and others are
still to be found. -/
def stopNumbers (heard pending : Nat) : List Nat := (List.range' (heard + 1) pending).filter stops

/-- The next error is one at which the recorder stops the scan, or it is not. -/
theorem stopNumbers_succ (heard pending : Nat) :
    stopNumbers stops heard (pending + 1) =
      if stops (heard + 1) then (heard + 1) :: stopNumbers stops (heard + 1) pending
      else stopNumbers stops (heard + 1) pending := by
  rw [stopNumbers, List.range'_succ, List.filter_cons]
  rfl

/-- A recorder writes an error down and then stops the scan or goes on to the next error. -/
theorem tellAll_recorder_cons (heard : Array LexicalError) (error : LexicalError)
    (pending : List LexicalError) :
    tellAll (some (recorder stops)) heard (error :: pending) =
      if stops (heard.size + 1) then (heard.push error, some pending)
      else tellAll (some (recorder stops)) (heard.push error) pending := rfl

/-- A recorder without numbers to stop at writes down all errors. -/
theorem tellAll_recorder_of_nil {heard : Array LexicalError} {pending : List LexicalError}
    (h : stopNumbers stops heard.size pending.length = []) :
    tellAll (some (recorder stops)) heard pending = (heard ++ pending.toArray, none) := by
  induction pending generalizing heard with
  | nil => simp [tellAll]
  | cons error pending ih =>
    rw [List.length_cons, stopNumbers_succ] at h
    split at h
    next => simp at h
    next hstops =>
      rw [tellAll_recorder_cons, if_neg hstops, ih (by simpa using h)]
      simp

/-- A recorder writes down the errors up to the first number to stop at, and the later numbers
remain to be stopped at among the errors behind it. -/
theorem tellAll_recorder_of_cons {heard : Array LexicalError} {pending : List LexicalError}
    {number : Nat} {later : List Nat}
    (h : stopNumbers stops heard.size pending.length = number :: later) :
    ∃ told untold, pending = told ++ untold ∧ heard.size + told.length = number ∧
      tellAll (some (recorder stops)) heard pending = (heard ++ told.toArray, some untold) ∧
      stopNumbers stops number untold.length = later := by
  induction pending generalizing heard with
  | nil => simp [stopNumbers] at h
  | cons error pending ih =>
    rw [List.length_cons, stopNumbers_succ] at h
    split at h
    next hstops =>
      obtain ⟨rfl, rfl⟩ := List.cons.inj h
      refine ⟨[error], pending, rfl, rfl, ?_, rfl⟩
      rw [tellAll_recorder_cons, if_pos hstops]
      simp
    next hstops =>
      have hpending : stopNumbers stops (heard.push error).size pending.length = number :: later := by
        rwa [Array.size_push]
      obtain ⟨told, untold, rfl, hnumber, htold, hlater⟩ := ih hpending
      refine ⟨error :: told, untold, rfl, ?_, ?_, hlater⟩
      · rw [Array.size_push] at hnumber
        rw [List.length_cons]
        omega
      · rw [tellAll_recorder_cons, if_neg hstops, htold]
        simp

end Listener

namespace Session

/-! ## Calls -/

/-- A scan after some calls, each of which goes on with one and the same recorder. The answer holds what
the recorder has written down and says whether the last call has reached the end of the text. -/
def afterCalls (source : String) (stops : Nat → Bool) : Nat → Session × Array LexicalError × Bool
  | 0 => (start source, #[], false)
  | calls + 1 =>
      let (session, heard, _) := afterCalls source stops calls
      session.resumeTelling (some (Listener.recorder stops)) heard

/-- A further call goes on from where the calls before it have ended. -/
theorem afterCalls_of_eq {source : String} {stops : Nat → Bool} {calls : Nat} {session : Session}
    {heard : Array LexicalError} {finished : Bool}
    (h : afterCalls source stops calls = (session, heard, finished)) :
    afterCalls source stops (calls + 1) =
      session.resumeTelling (some (Listener.recorder stops)) heard := by
  rw [afterCalls, h]

/-- The numbers of the errors of a text at which a recorder interrupts the scan, in rising order. -/
def interruptions (source : String) (stops : Nat → Bool) : List Nat :=
  (List.range' 1 (scan source).errors.length).filter stops

/-- What holds of a session that a recorder has stopped: it will end as the scan from the start would
end, and the recorder will stop it at the given numbers. -/
structure Paused (source : String) (stops : Nat → Bool) (session : Session) (later : List Nat) :
    Prop where
  /-- The session will find what a scan from the start finds. -/
  completed : session.completed = (start source).completed
  /-- The numbers of the errors at which the scan has still to stop. -/
  stopNumbers : Listener.stopNumbers stops session.errors.size session.pendingErrors.length = later

variable {source : String} {stops : Nat → Bool} {session : Session} {later : List Nat}

/-- A session that has not consumed anything yet finds the errors of a scan. -/
theorem pendingErrors_start (source : String) :
    (start source).pendingErrors = (scan source).errors := by
  rw [scan_errors]
  rfl

/-- A scan finds what a session from the start has found at its end. -/
theorem errors_completed_start (source : String) :
    (start source).completed.errors = (scan source).errors.toArray := by
  rw [completed, pendingErrors_start]
  exact Array.empty_append

/-- A scan notes the end of the input behind what a session from the start has found. -/
theorem tokens_scan_eq (source : String) :
    (scan source).tokens = (start source).completed.tokens.toList ++
      [Token.endOfInput (start source).completed.line] := by
  rw [scan_tokens]
  simp [completed, start]

namespace Paused

/-- Before the first call, the scan has still to stop at all interruptions. -/
theorem start (source : String) (stops : Nat → Bool) :
    Paused source stops (Session.start source) (interruptions source stops) where
  completed := rfl
  stopNumbers := by
    rw [pendingErrors_start]
    rfl

/-- The errors of a stopped session and those that it has still to find are the errors of the scan. -/
theorem errors_append (h : Paused source stops session later) :
    session.errors.toList ++ session.pendingErrors = (scan source).errors := by
  have herrors := congrArg (fun s => s.errors.toList) h.completed
  rw [errors_completed_start] at herrors
  simpa [Session.completed] using herrors

/-- The errors of a stopped session are the first errors of the scan. -/
theorem errors_eq_take (h : Paused source stops session later) :
    session.errors.toList = (scan source).errors.take session.errors.size := by
  rw [← h.errors_append, ← Array.length_toList, List.take_left]

/-- The tokens of a stopped session are first tokens of the scan, without the end of the input. -/
theorem tokens_prefix (h : Paused source stops session later) :
    session.tokens.toList <+: (scan source).tokens.dropLast := by
  have htokens := congrArg (fun s => s.tokens.toList) h.completed
  rw [tokens_scan_eq, List.dropLast_concat, ← htokens]
  simp [Session.completed]

/-- A call goes on to the next number at which the recorder stops, and leaves the later ones. -/
theorem resume {number : Nat} (h : Paused source stops session (number :: later)) :
    ∃ next : Session, session.resumeTelling (some (Listener.recorder stops)) session.errors =
        (next, next.errors, false) ∧
      next.errors.size = number ∧ Paused source stops next later := by
  obtain ⟨told, untold, hpending, hnumber, htold, hlater⟩ :=
    Listener.tellAll_recorder_of_cons stops h.stopNumbers
  obtain ⟨next, hresume, hcompleted, huntold⟩ :=
    resumeTelling_of_stopped (congrArg Prod.snd htold)
  -- What has been told is what the session has gained, since both ends of the scan agree.
  have herrors : next.errors = session.errors ++ told.toArray := by
    have hends := congrArg (fun s => s.errors.toList) hcompleted
    simp only [Session.completed, hpending, huntold, Array.toList_append] at hends
    rw [← List.append_assoc, List.append_cancel_right_eq] at hends
    exact Array.toList_inj.mp (by simpa using hends)
  have hsize : next.errors.size = number := by
    simpa [herrors] using hnumber
  refine ⟨next, ?_, hsize, hcompleted.trans h.completed, ?_⟩
  · rw [hresume, htold, herrors]
  · rw [hsize, huntold, hlater]

/-- A call with no number left to stop at reaches the end of the text. -/
theorem resume_of_nil (h : Paused source stops session []) :
    session.resumeTelling (some (Listener.recorder stops)) session.errors =
      ((Session.start source).completed.finish, (Session.start source).completed.errors, true) := by
  have htold := Listener.tellAll_recorder_of_nil stops h.stopNumbers
  rw [resumeTelling_of_finished (congrArg Prod.snd htold), htold, ← h.completed]
  rfl

end Paused

/-- A session that has noted the end of the input as often as given. -/
def finishTimes (session : Session) (times : Nat) : Session :=
  { session with tokens := session.tokens ++ Array.replicate times (Token.endOfInput session.line) }

/-- A finished session that is resumed notes the end of the input once more, and nobody is told
of anything. -/
theorem resumeTelling_finishTimes {σ : Type} (listener : Option (Listener σ)) (memory : σ)
    (times : Nat) (h : session.rest = []) :
    (session.finishTimes times).resumeTelling listener memory =
      (session.finishTimes (times + 1), memory, true) := by
  have hrest : (session.finishTimes times).rest = [] := h
  have hpending : (session.finishTimes times).pendingErrors = [] := by
    rw [pendingErrors, hrest, yieldOf_nil]
  have htold : (Listener.tellAll listener memory (session.finishTimes times).pendingErrors).2 =
      none := by
    rw [hpending, Listener.tellAll]
  rw [resumeTelling_of_finished htold, hpending, completed_of_rest_nil hrest]
  simp [finishTimes, finish, Listener.tellAll, Array.replicate_succ]

/-- As long as there are interruptions left, each call is stopped at the next of them. -/
theorem afterCalls_stopped (source : String) (stops : Nat → Bool) (calls : Nat)
    (h : calls ≤ (interruptions source stops).length) :
    ∃ session, afterCalls source stops calls = (session, session.errors, false) ∧
      Paused source stops session ((interruptions source stops).drop calls) := by
  induction calls with
  | zero => exact ⟨start source, rfl, Paused.start source stops⟩
  | succ calls ih =>
    obtain ⟨session, hcalls, hpaused⟩ := ih (by omega)
    rw [List.drop_eq_getElem_cons h] at hpaused
    obtain ⟨next, hresume, _, hnext⟩ := hpaused.resume
    exact ⟨next, (afterCalls_of_eq hcalls).trans hresume, hnext⟩

/-- Behind all interruptions, the next call reaches the end of the text, and each further call notes the
end of the input once more. -/
theorem afterCalls_finished (source : String) (stops : Nat → Bool) (further : Nat) :
    afterCalls source stops ((interruptions source stops).length + 1 + further) =
      ((start source).completed.finishTimes (further + 1), (start source).completed.errors, true) := by
  induction further with
  | zero =>
    obtain ⟨session, hcalls, hpaused⟩ := afterCalls_stopped source stops _ le_rfl
    rw [List.drop_length] at hpaused
    rw [Nat.add_zero, afterCalls_of_eq hcalls, hpaused.resume_of_nil]
    rfl
  | succ further ih =>
    rw [← Nat.add_assoc, afterCalls_of_eq ih]
    exact resumeTelling_finishTimes _ _ _ rfl

end Session

/-- **Interrupted scans.** A recorder stops a scan at the errors with certain numbers, counted from one.
Each call but the last is stopped at the next such error of a complete scan, with all errors up to it
recorded and with tokens that the complete scan begins with. Then one call goes on to the end, with
the tokens and the errors of the complete scan, and each further call adds only another end of the
input. Without a recorder the first call goes on to the end. -/
theorem interrupted_scan_eq (source : String) (stops : Nat → Bool) :
    (∀ j : Fin (Session.interruptions source stops).length, ∃ session,
      Session.afterCalls source stops (j + 1) = (session, session.errors, false) ∧
        session.errors.toList = (scan source).errors.take (Session.interruptions source stops)[j] ∧
        session.tokens.toList <+: (scan source).tokens.dropLast) ∧
    (∃ last, (scan source).tokens.getLast? = some last ∧ last.kind = Kind.endOfInput ∧
      ∀ further, ∃ session,
        Session.afterCalls source stops
            ((Session.interruptions source stops).length + 1 + further) =
          (session, session.errors, true) ∧
        session.errors.toList = (scan source).errors ∧
        session.tokens.toList = (scan source).tokens ++ List.replicate further last) ∧
    ∃ session, (Session.start source).resumeTelling none () = (session, (), true) ∧
      session.errors.toList = (scan source).errors ∧
      session.tokens.toList = (scan source).tokens := by
  have htokens := Session.tokens_scan_eq source
  have herrors := Session.errors_completed_start source
  refine ⟨?_, ⟨Token.endOfInput (Session.start source).completed.line, ?_, rfl, ?_⟩, ?_⟩
  · intro j
    obtain ⟨session, hcalls, hpaused⟩ :=
      Session.afterCalls_stopped source stops j (le_of_lt j.isLt)
    rw [List.drop_eq_getElem_cons j.isLt] at hpaused
    obtain ⟨next, hresume, hsize, hnext⟩ := hpaused.resume
    refine ⟨next, (Session.afterCalls_of_eq hcalls).trans hresume, ?_, hnext.tokens_prefix⟩
    rw [hnext.errors_eq_take, hsize]
    rfl
  · rw [htokens, List.getLast?_concat]
  · intro further
    refine ⟨_, Session.afterCalls_finished source stops further, ?_, ?_⟩
    · rw [Session.finishTimes, herrors]
    · rw [htokens]
      simp [Session.finishTimes, List.replicate_succ]
  · refine ⟨_, Session.resumeTelling_none () (Session.start source), ?_, ?_⟩
    · rw [Session.finish, herrors]
    · rw [htokens]
      simp [Session.finish]

end LoxLexer
