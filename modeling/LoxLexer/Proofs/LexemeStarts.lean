import LoxLexer.Proofs.Concatenation

/-!
# Where lexemes start

A scan goes from state to state, one segment at a time. `Session.Passes` collects the states on its way, and
`StartsLexemeAt` the offsets at which they stand. Such an offset divides the segments of a source text as it
divides the text, and what stands behind it may be exchanged for another text as long as the segments in front
of it still end there.
-/

namespace LoxLexer

open Segment

namespace Session

/-- The states that a session passes through, from the given one on. In each of them a whole number of segments
has been consumed, and a listener may interrupt the session in each of them. -/
inductive Passes : Session → Session → Prop
  /-- The state that the session is in. -/
  | here (session : Session) : Passes session session
  /-- The states behind the next segment. -/
  | step {session later : Session} {c : Char} {following : List Char} :
      session.rest = c :: following →
      Passes (session.consume (cut c following).1 (cut c following).2) later → Passes session later

/-- What a session still has to cut in a later state are the last ones of the segments that it has to cut now. -/
theorem Passes.exists_consumed {session later : Session} (h : Passes session later) :
    ∃ consumed, cutAll session.rest = consumed ++ cutAll later.rest := by
  induction h with
  | here => exact ⟨[], rfl⟩
  | @step session later c following hrest _ ih =>
    obtain ⟨consumed, hconsumed⟩ := ih
    refine ⟨(cut c following).1 :: consumed, ?_⟩
    rw [hrest, cutAll_cons, List.cons_append, ← hconsumed]
    rfl

/-- A session passes through a state behind each of its segments. -/
theorem exists_passes {session : Session} {consumed : List Segment} {rest : List Char}
    (h : cutAll session.rest = consumed ++ cutAll rest) :
    ∃ later, Passes session later ∧ later.rest = rest := by
  induction consumed generalizing session with
  | nil =>
    refine ⟨session, .here session, ?_⟩
    rw [← flatMap_text_cutAll session.rest, h, List.nil_append, flatMap_text_cutAll]
  | cons segment consumed ih =>
    cases hrest : session.rest with
    | nil => simp [hrest] at h
    | cons c following =>
      rw [hrest, cutAll_cons, List.cons_append] at h
      have htail : cutAll (session.consume (cut c following).1 (cut c following).2).rest =
          consumed ++ cutAll rest := (List.cons.inj h).2
      obtain ⟨later, hlater, hstop⟩ := ih htail
      exact ⟨later, .step hrest hlater, hstop⟩

end Session

/-! ## Exchanging what follows -/

namespace Segment

variable {segment : Segment} {rest later : List Char}

/-- A segment that ends in front of a text ends in front of the first part of it. -/
theorem EndsBefore.of_append (h : segment.EndsBefore (rest ++ later)) : segment.EndsBefore rest := by
  cases rest with
  | nil => exact endsBefore_nil segment
  | cons d rest =>
    refine ⟨h.next, ?_⟩
    rintro whole e more hsegment hrest
    obtain ⟨rfl, rfl⟩ := List.cons.inj hrest
    exact h.point whole e (more ++ later) hsegment rfl

/-- Of a text that does not start with a point, no more than the first character matters to what stands in
front of it. -/
theorem EndsBefore.exchange {d : Char} (h : segment.EndsBefore (rest ++ d :: later)) (hd : d ≠ '.')
    (other : List Char) : segment.EndsBefore (rest ++ d :: other) := by
  cases rest with
  | nil =>
    refine ⟨h.next, ?_⟩
    rintro whole e more - hother
    exact absurd (List.cons.inj hother).1 hd
  | cons c rest =>
    refine ⟨h.next, ?_⟩
    rintro whole e more hsegment hother
    obtain ⟨rfl, hmore⟩ := List.cons.inj hother
    cases rest with
    | nil =>
      obtain rfl := (List.cons.inj hmore).1
      exact h.point whole d later hsegment rfl
    | cons e' rest =>
      obtain rfl := (List.cons.inj hmore).1
      exact h.point whole e' (rest ++ d :: later) hsegment rfl

end Segment

/-- If the last segments of a text are those of its second part, then the first ones are those of its first
part. -/
theorem cutAll_append_eq {before after : List Char} {consumed : List Segment}
    (h : cutAll (before ++ after) = consumed ++ cutAll after) :
    cutAll (before ++ after) = cutAll before ++ cutAll after := by
  have htext := congrArg (List.flatMap text) h
  rw [flatMap_text_cutAll, List.flatMap_append, flatMap_text_cutAll] at htext
  obtain rfl := List.append_cancel_right htext
  have hends : ∀ segment ∈ consumed, ∀ rest, segment.EndsBefore (rest ++ after) →
      segment.EndsBefore (rest ++ []) := by
    intro segment _ rest hend
    rw [List.append_nil]
    exact hend.of_append
  have hbefore := cutAll_flatMap_append hends h
  rw [List.append_nil, cutAll_nil, List.append_nil] at hbefore
  rw [hbefore, h]

/-- A text is cut off in front of another one with the same first character as it is cut off in front of a given
one. -/
theorem cutAll_exchange {before later : List Char} {d : Char} (hd : d ≠ '.')
    (h : cutAll (before ++ d :: later) = cutAll before ++ cutAll (d :: later)) (other : List Char) :
    cutAll (before ++ d :: other) = cutAll before ++ cutAll (d :: other) := by
  have htext := flatMap_text_cutAll before
  generalize cutAll before = segments at h htext ⊢
  subst htext
  exact cutAll_flatMap_append (fun _ _ _ hend => hend.exchange hd other) h

/-! ## Offsets -/

/-- A scan of the source starts a lexeme at the offset: it passes through a state in which the text from
there on is still to be scanned, and there is such a text. -/
def StartsLexemeAt (source : String) (offset : Nat) : Prop :=
  offset < source.length ∧
    ∃ session, (Session.start source).Passes session ∧ session.rest = source.toList.drop offset

/-- A lexeme starts behind the first part of a text if the segments of the text are those of both parts. -/
theorem startsLexemeAt_iff {before after : String} :
    StartsLexemeAt (before ++ after) before.length ↔
      after ≠ "" ∧ cutAll (before.toList ++ after.toList) =
        cutAll before.toList ++ cutAll after.toList := by
  have hdrop : (before ++ after).toList.drop before.length = after.toList := by
    rw [String.toList_append, ← String.length_toList, List.drop_left]
  have hlength : before.length < (before ++ after).length ↔ after ≠ "" := by
    rw [String.length_append, Nat.lt_add_right_iff_pos, Nat.pos_iff_ne_zero, ne_eq,
      String.length_eq_zero_iff]
  rw [StartsLexemeAt, hdrop, hlength]
  refine and_congr_right fun _ => ?_
  have hstart : (Session.start (before ++ after)).rest = before.toList ++ after.toList :=
    String.toList_append
  constructor
  · rintro ⟨session, hpasses, hrest⟩
    obtain ⟨consumed, hconsumed⟩ := hpasses.exists_consumed
    rw [hstart, hrest] at hconsumed
    exact cutAll_append_eq hconsumed
  · intro hcut
    exact Session.exists_passes (hstart ▸ hcut)

end LoxLexer
