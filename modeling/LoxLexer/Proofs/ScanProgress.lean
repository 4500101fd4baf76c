import LoxLexer.Proofs.IndexedSegments

/-!
# The progress of a scan

Whenever a `Scanner` is about to start a lexeme, its positions and its lines stand in order and inside the
source, `Scanner.InRange`. This is so at the start, and each round keeps it and takes at least one character,
`Scanner.round_advances`, also a round in which a listener stops the scan. A round can therefore not go wrong,
and as many rounds as the source has characters are enough to scan it. By then the scanner has done what the
session does that it stands for.
-/

namespace LoxLexer

open Segment

/-- No segment yields a token and an error. -/
theorem Segment.token?_eq_none_or_fault?_eq_none (segment : Segment) (line : Nat) :
    segment.token? line = none ∨ segment.fault? = none := by
  cases segment <;> simp [token?, fault?]

namespace Scanner

variable {σ : Type} {source : String} {listener : Option (Listener σ)} {scanner : Scanner} {memory : σ}
  {c : Char} {following : List Char}

/-! ## One round -/

/-- The positions and the lines of a scanner stand in order and inside the source. -/
structure InRange (source : String) (scanner : Scanner) : Prop where
  /-- The source is the given one. -/
  source_eq : scanner.source = source.toList
  /-- The present lexeme does not start behind the present position. -/
  start_le : scanner.start ≤ scanner.current
  /-- The present position is not behind the end of the source. -/
  current_le : scanner.current ≤ source.length
  /-- Lines are counted from one. -/
  one_le_startLine : 1 ≤ scanner.startLine
  /-- The present lexeme does not start below the present line. -/
  startLine_le : scanner.startLine ≤ scanner.line

/-- Where a round leads: the scanner stands further on and has found a token, an error or neither. Nothing breaks
the round off but a listener that stops the scan at the error. -/
inductive Advances (source : String) (listener : Option (Listener σ)) (scanner : Scanner) (memory : σ) :
    EStateM.Result Interrupt (Scanner × σ) Unit → Prop
  /-- Nothing is found in blanks and in comments. -/
  | silent {next : Scanner} : next.InRange source → scanner.current < next.current →
      next.tokens = scanner.tokens → next.errors = scanner.errors →
      Advances source listener scanner memory (.ok () (next, memory))
  /-- A token is found. -/
  | token {next : Scanner} (found : Token) : next.InRange source → scanner.current < next.current →
      next.tokens = scanner.tokens.push found → next.errors = scanner.errors →
      Advances source listener scanner memory (.ok () (next, memory))
  /-- An error is found, and the listener has nothing against going on. -/
  | error {next : Scanner} {memory' : σ} (found : LexicalError) : next.InRange source →
      scanner.current < next.current →
      next.tokens = scanner.tokens → next.errors = scanner.errors.push found →
      Listener.tell listener memory (some found) = (memory', false) →
      Advances source listener scanner memory (.ok () (next, memory'))
  /-- An error is found, and the listener stops the scan. -/
  | stopped {next : Scanner} {memory' : σ} (found : LexicalError) : next.InRange source →
      scanner.current < next.current →
      next.tokens = scanner.tokens → next.errors = scanner.errors.push found →
      Listener.tell listener memory (some found) = (memory', true) →
      Advances source listener scanner memory (.error .stopped (next, memory'))

/-- A scanner in front of a source is in range. -/
theorem inRange_atStart (source : String) : (atStart source).InRange source :=
  ⟨rfl, Nat.le_refl 0, Nat.zero_le _, Nat.le_refl 1, Nat.le_refl 1⟩

/-- There is a character in front of a scanner that has not reached the end. -/
theorem InRange.exists_rest (h : scanner.InRange source) (hcurrent : scanner.current < source.length) :
    ∃ c following, scanner.rest = c :: following := by
  apply List.exists_cons_of_ne_nil
  rw [rest, h.source_eq, ne_eq, List.drop_eq_nil_iff, String.length_toList]
  omega

/-- A scanner stays in range and moves on when it takes the segment in front of it. -/
theorem InRange.past (h : scanner.InRange source) (hrest : scanner.rest = c :: following) :
    (scanner.past (cut c following).1).InRange source ∧
      scanner.current < (scanner.past (cut c following).1).current := by
  have hlength := congrArg List.length (hrest.trans (text_cut_append c following).symm)
  have hpos := List.length_pos_iff.mpr (text_cut_ne_nil c following)
  have hcurrent : (scanner.past (cut c following).1).current =
      scanner.current + (cut c following).1.text.length := rfl
  have hfits : scanner.current + (cut c following).1.text.length ≤ source.length := by
    rw [rest, h.source_eq, List.length_drop, String.length_toList, List.length_append] at hlength
    omega
  refine ⟨⟨h.source_eq, ?_, ?_, ?_, ?_⟩, ?_⟩
  · exact Nat.le_add_right _ _
  · exact hcurrent ▸ hfits
  · exact h.one_le_startLine.trans h.startLine_le
  · exact Nat.le_add_right _ _
  · omega

/-- A round of a scanner in range that has not reached the end makes progress. -/
theorem round_advances (h : scanner.InRange source) (hcurrent : scanner.current < source.length)
    (listener : Option (Listener σ)) (memory : σ) :
    Advances source listener scanner memory (round listener (scanner, memory)) := by
  obtain ⟨c, following, hrest⟩ := h.exists_rest hcurrent
  obtain ⟨hrange, hmoved⟩ := h.past hrest
  rw [round_eq hrest]
  generalize (cut c following).1 = segment at hrange hmoved
  have htokens : (scanner.past segment).tokens =
      scanner.tokens ++ (segment.token? scanner.line).toList.toArray :=
    Session.tokens_consume scanner.session segment []
  have herrors : (scanner.past segment).errors =
      scanner.errors ++ (segment.error? scanner.line).toList.toArray :=
    Session.errors_consume scanner.session segment []
  unfold outcome
  -- A segment without a fault may have yielded a token, and one with a fault has yielded none.
  cases hfault : segment.fault? with
  | none =>
    have herror : segment.error? scanner.line = none := by rw [error?, hfault]; rfl
    rw [herror] at herrors ⊢
    cases htoken : segment.token? scanner.line with
    | none => exact .silent hrange hmoved (by simp [htokens, htoken]) (by simp [herrors])
    | some found => exact .token found hrange hmoved (by simp [htokens, htoken]) (by simp [herrors])
  | some fault =>
    have htoken : segment.token? scanner.line = none :=
      (token?_eq_none_or_fault?_eq_none segment scanner.line).resolve_right (by simp [hfault])
    obtain ⟨found, herror⟩ : ∃ found, segment.error? scanner.line = some found := by
      rw [error?, hfault]
      exact ⟨_, rfl⟩
    rw [herror] at herrors ⊢
    cases htell : Listener.tell listener memory (some found) with
    | mk memory' stopped =>
    cases stopped with
    | false =>
      exact .error found hrange hmoved (by simp [htokens, htoken]) (by simp [herrors]) htell
    | true =>
      exact .stopped found hrange hmoved (by simp [htokens, htoken]) (by simp [herrors]) htell

/-! ## Whole scans -/

/-- The states in which a scan is about to start a lexeme or to end. A round leads from one to the next, even
if something breaks the round off, because the scan may be taken up again; and so does the end of the scan. -/
inductive Reachable (source : String) (listener : Option (Listener σ)) (memory : σ) : Scanner × σ → Prop
  /-- The state in which a scan starts. -/
  | start : Reachable source listener memory (atStart source, memory)
  /-- The state behind a round. -/
  | round {state state' : Scanner × σ} : Reachable source listener memory state →
      state.1.current < state.1.source.length →
      Scanner.round listener state = .ok () state' → Reachable source listener memory state'
  /-- The state behind a round that was broken off. -/
  | interrupted {state state' : Scanner × σ} {interrupt : Interrupt} :
      Reachable source listener memory state → state.1.current < state.1.source.length →
      Scanner.round listener state = .error interrupt state' → Reachable source listener memory state'
  /-- The state behind the end of a scan. -/
  | concluded {state state' : Scanner × σ} {tokens : Array Token} :
      Reachable source listener memory state → state.1.source.length ≤ state.1.current →
      conclude state = .ok tokens state' → Reachable source listener memory state'

/-- A scanner is in range behind a round. -/
theorem Advances.inRange_of_ok {state : Scanner × σ}
    (h : Advances source listener scanner memory (.ok () state)) : state.1.InRange source := by
  cases h <;> assumption

/-- A scanner is in range where a round was broken off. -/
theorem Advances.inRange_of_error {interrupt : Interrupt} {state : Scanner × σ}
    (h : Advances source listener scanner memory (.error interrupt state)) : state.1.InRange source := by
  cases h
  assumption

/-- Noting the end of the input leaves a scanner in range. -/
theorem InRange.conclude (h : scanner.InRange source) {tokens : Array Token} {state : Scanner × σ}
    (hconclude : Scanner.conclude (scanner, memory) = .ok tokens state) : state.1.InRange source := by
  obtain ⟨_, rfl⟩ := EStateM.Result.ok.inj hconclude
  exact ⟨h.source_eq, h.start_le, h.current_le, h.one_le_startLine, h.startLine_le⟩

/-- A scanner is in range whenever it is about to start a lexeme. -/
theorem Reachable.inRange {state : Scanner × σ} (h : Reachable source listener memory state) :
    state.1.InRange source := by
  induction h with
  | start => exact inRange_atStart source
  | @round state state' _ hcurrent hround ih =>
    rw [ih.source_eq, String.length_toList] at hcurrent
    have hadvances := round_advances ih hcurrent listener state.2
    rw [hround] at hadvances
    exact hadvances.inRange_of_ok
  | @interrupted state state' interrupt _ hcurrent hround ih =>
    rw [ih.source_eq, String.length_toList] at hcurrent
    have hadvances := round_advances ih hcurrent listener state.2
    rw [hround] at hadvances
    exact hadvances.inRange_of_error
  | concluded _ _ hconclude ih => exact ih.conclude hconclude

/-- The session that a scan has led to, with what the listener remembers and whether the end was reached.
There is none if the scan has gone wrong. -/
def sessionOf : EStateM.Result Interrupt (Scanner × σ) (Array Token) → Option (Session × σ × Bool)
  | .ok _ (scanner, memory) => some (scanner.session, memory, true)
  | .error .stopped (scanner, memory) => some (scanner.session, memory, false)
  | .error _ _ => none

/-- At the end of the source there is nothing left to do but to note it. -/
theorem scanTokens_of_nil (h : scanner.rest = []) (rounds : Nat) :
    scanTokens listener rounds (scanner, memory) = conclude (scanner, memory) := by
  have htest : unfinished (scanner, memory) = .ok false (scanner, memory) := by
    rw [unfinished_eq, h]
    rfl
  have hloop : repeatWhile unfinished (round listener) rounds (scanner, memory) =
      .ok () (scanner, memory) := by
    cases rounds with
    | zero => exact (bind_ok htest).trans rfl
    | succ rounds => exact (bind_ok htest).trans rfl
  exact bind_ok hloop

/-- Before the end of the source a round comes first, and the scan goes on behind it. -/
theorem scanTokens_succ (h : scanner.rest = c :: following) (rounds : Nat) :
    scanTokens listener (rounds + 1) (scanner, memory) =
      (round listener >>= fun _ => scanTokens listener rounds) (scanner, memory) := by
  have htest : unfinished (scanner, memory) = .ok true (scanner, memory) := by
    rw [unfinished_eq, h]
    rfl
  have hloop : repeatWhile unfinished (round listener) (rounds + 1) (scanner, memory) =
      (round listener >>= fun _ => repeatWhile unfinished (round listener) rounds) (scanner, memory) :=
    (bind_ok htest).trans rfl
  show EStateM.bind _ _ _ = _
  rw [EStateM.bind, hloop]
  show _ = (round listener >>= fun _ =>
    repeatWhile unfinished (round listener) rounds >>= fun _ => conclude) (scanner, memory)
  rw [← bind_assoc]
  rfl

/-- A scan that reaches the end gives the tokens that it has found. -/
theorem tokens_of_scanTokens {rounds : Nat} {tokens : Array Token} {state state' : Scanner × σ}
    (h : scanTokens listener rounds state = .ok tokens state') : tokens = state'.1.tokens := by
  rw [scanTokens] at h
  cases hloop : repeatWhile unfinished (round listener) rounds state with
  | ok _ last =>
    rw [bind_ok hloop] at h
    obtain ⟨rfl, rfl⟩ := EStateM.Result.ok.inj h
    rfl
  | error interrupt last =>
    rw [bind_error hloop] at h
    exact nomatch h

/-- A scan that leads to a session at its end is one that reaches the end. -/
theorem eq_ok_of_sessionOf {result : EStateM.Result Interrupt (Scanner × σ) (Array Token)} {session : Session}
    (h : sessionOf result = some (session, memory, true)) :
    ∃ tokens last, result = .ok tokens (last, memory) ∧ last.session = session := by
  match result, h with
  | .ok tokens (last, memory'), h =>
    obtain ⟨hsession, rfl⟩ : last.session = session ∧ memory' = memory := by simpa [sessionOf] using h
    exact ⟨tokens, last, rfl, hsession⟩

/-- A scan that has not reached the end and has enough rounds has one round at least. -/
theorem exists_succ_of_rest {rounds : Nat} (h : scanner.rest = c :: following)
    (hrounds : scanner.rest.length ≤ rounds) : ∃ rounds', rounds = rounds' + 1 := by
  rw [h, List.length_cons] at hrounds
  exact ⟨rounds - 1, by omega⟩

/-- A scan with enough rounds leads to where it leads the session that the scanner stands for. -/
theorem sessionOf_scanTokens {rounds : Nat} (hrounds : scanner.rest.length ≤ rounds) :
    sessionOf (scanTokens listener rounds (scanner, memory)) =
      some (scanner.session.resumeTelling listener memory) := by
  -- The induction is on the steps of the session, with whatever scanner stands for it by then.
  generalize hsession : scanner.session = session
  fun_induction Session.resumeTelling listener memory session generalizing scanner rounds with
  | case1 memory session hrest =>
    subst hsession
    rw [scanTokens_of_nil hrest]
    rfl
  | case2 memory session c following hrest segment next =>
    rename_i memory' htell
    subst hsession
    have hrest : scanner.rest = c :: following := hrest
    have hround : round listener (scanner, memory) =
        .error .stopped (scanner.past segment, memory') :=
      (round_eq hrest).trans (outcome_of_tell htell)
    obtain ⟨rounds, rfl⟩ := exists_succ_of_rest hrest hrounds
    rw [scanTokens_succ hrest, bind_error hround]
    exact congrArg (fun next => some (next, memory', false)) (session_past hrest)
  | case3 memory session c following hrest segment next =>
    rename_i memory' stopped htell hstopped ih
    subst hsession
    have hrest : scanner.rest = c :: following := hrest
    rw [Bool.not_eq_true] at hstopped
    subst hstopped
    have hround : round listener (scanner, memory) = .ok () (scanner.past segment, memory') :=
      (round_eq hrest).trans (outcome_of_tell htell)
    have hnext : (scanner.past segment).rest = (cut c following).2 :=
      congrArg Session.rest (session_past hrest)
    have hlength := length_cut_le c following
    obtain ⟨rounds, rfl⟩ := exists_succ_of_rest hrest hrounds
    rw [scanTokens_succ hrest, bind_ok hround]
    -- One round less is enough for the rest, because the segment has taken a character.
    refine ih ?_ (session_past hrest)
    rw [hrest, List.length_cons] at hrounds
    rw [hnext]
    omega

end Scanner

namespace Session

/-- How much a session has found and has still to scan. -/
def extent (session : Session) : Nat :=
  session.tokens.size + session.errors.size + session.rest.length

/-- A session finds no more in a segment than the segment has characters. -/
theorem extent_consume_le {session : Session} {segment : Segment} {after : List Char}
    (hlength : after.length < session.rest.length) :
    (session.consume segment after).extent ≤ session.extent := by
  have htokens : (session.consume segment after).tokens.size =
      session.tokens.size + (segment.token? session.line).toList.length := by
    rw [tokens_consume, Array.size_append]
    rfl
  have herrors : (session.consume segment after).errors.size =
      session.errors.size + (segment.error? session.line).toList.length := by
    rw [errors_consume, Array.size_append]
    rfl
  have hrest : (session.consume segment after).rest = after := rfl
  have hfound : (segment.token? session.line).toList.length +
      (segment.error? session.line).toList.length ≤ 1 := by
    rcases token?_eq_none_or_fault?_eq_none segment session.line with hnone | hnone
    · simp [hnone]
    · simp [error?, hnone]
  rw [extent, extent, htokens, herrors, hrest]
  omega

/-- A session finds one thing at most for each character that it has to scan, and at last the end. -/
theorem extent_resumeTelling_le {σ : Type} (listener : Option (Listener σ)) (memory : σ) (session : Session) :
    (session.resumeTelling listener memory).1.extent ≤ session.extent + 1 := by
  have length_lt {session : Session} {c : Char} {following : List Char}
      (h : session.rest = c :: following) : (cut c following).2.length < session.rest.length := by
    rw [h]
    exact Nat.lt_succ_of_le (length_cut_le c following)
  fun_induction resumeTelling listener memory session with
  | case1 memory session hrest =>
    simp only [extent, finish, Array.size_push]
    omega
  | case2 memory session c following hrest segment next memory' htell =>
    exact (extent_consume_le (length_lt hrest)).trans (Nat.le_succ _)
  | case3 memory session c following hrest segment next memory' stopped htell hstopped ih =>
    exact ih.trans (Nat.succ_le_succ (extent_consume_le (length_lt hrest)))

end Session

/-- Wherever a scan is about to start a lexeme, after whatever a listener has done, its positions and lines are in
range. If it has not reached the end, a round takes at least one character, finds a token, an error or neither, and
is broken off by nothing but the listener: no character outside the source is read, no text but a numeral is
converted into a number, and no piece of the source ends in front of its start. As many rounds as there are
characters left bring the scan to its end, unless the listener stops it, and to the same tokens and errors as the
session that holds the text that is left. A scan that nobody listens to finds one token at most besides the end of
the input, or one error, for each character of the source. -/
theorem scan_progresses {σ : Type} (source : String) (listener : Option (Listener σ)) (memory : σ) :
    (∀ (scanner : Scanner) (memory' : σ),
      Scanner.Reachable source listener memory (scanner, memory') →
        scanner.InRange source ∧
        (scanner.current < source.length →
          Scanner.Advances source listener scanner memory' (Scanner.round listener (scanner, memory'))) ∧
        Scanner.sessionOf
            (Scanner.scanTokens listener (source.length - scanner.current) (scanner, memory')) =
          some (scanner.session.resumeTelling listener memory')) ∧
    ∃ last : Scanner,
      Scanner.scanTokens (none : Option (Listener Unit)) source.length (Scanner.atStart source, ()) =
        .ok last.tokens (last, ()) ∧
      scan source = ⟨last.tokens.toList, last.errors.toList⟩ ∧
      last.tokens.size + last.errors.size ≤ source.length + 1 := by
  refine ⟨?_, ?_⟩
  · intro scanner memory' hreachable
    have hrange : scanner.InRange source := hreachable.inRange
    refine ⟨hrange, fun hcurrent => Scanner.round_advances hrange hcurrent listener memory', ?_⟩
    apply Scanner.sessionOf_scanTokens
    rw [Scanner.rest, List.length_drop, hrange.source_eq, String.length_toList]
  · have hrounds : (Scanner.atStart source).rest.length ≤ source.length := by
      rw [← String.length_toList]
      exact Nat.le_refl _
    have hsession : Scanner.sessionOf (Scanner.scanTokens (none : Option (Listener Unit)) source.length
        (Scanner.atStart source, ())) = some ((Session.start source).resumeTelling none ()) :=
      Scanner.sessionOf_scanTokens hrounds
    have hextent := Session.extent_resumeTelling_le none () (Session.start source)
    rw [Session.resumeTelling_none] at hsession hextent
    obtain ⟨tokens, last, hresult, hlast⟩ := Scanner.eq_ok_of_sessionOf hsession
    obtain rfl := Scanner.tokens_of_scanTokens hresult
    rw [← hlast] at hextent
    refine ⟨last, hresult, ?_, ?_⟩
    · rw [scan, Session.resumeTelling_none, ← hlast]
      rfl
    · have hstart : (Session.start source).extent = source.length := by
        simp only [Session.extent, Session.start, List.size_toArray, List.length_nil, Nat.zero_add,
          String.length_toList]
      rw [hstart] at hextent
      exact (Nat.le_add_right _ _).trans hextent

end LoxLexer
