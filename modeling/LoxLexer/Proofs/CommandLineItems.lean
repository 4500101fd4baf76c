import LoxLexer.Proofs.RunOutcomes

/-!
# Command lines item by item

A command line may be made of words and of the two options for colour and for a settings file, in any order. Such
a line is read item by item, and `ofArguments_written` says what is read off it: the options may stand anywhere, the
settings file that is named last counts, and the scripts are the words of the first run of words that no option
interrupts. A word behind that run is refused. So the order of the items does not matter where there is at
most one word, and where there are several it decides how the run fails.
-/

namespace LoxLexer

/-- An item of a command line. -/
inductive CommandItem where
  /-- A word that is no option. -/
  | word (text : String)
  /-- The option that turns colour off. -/
  | noColor
  /-- The option that names a settings file. The name is attached to it by an equals sign, or stands behind it. -/
  | config (attached : Bool) (value : String)
  deriving DecidableEq

namespace CommandItem

/-- The arguments that an item consists of. -/
def written : CommandItem → List String
  | word text => [text]
  | noColor => ["--no-color"]
  | config true value => ["--config=" ++ value]
  | config false value => ["--config", value]

/-- Neither a word nor the name of a settings file starts with a hyphen. -/
def Plain : CommandItem → Prop
  | word text => text.toList.head? ≠ some '-'
  | noColor => True
  | config _ value => value.toList.head? ≠ some '-'

instance : DecidablePred Plain
  | word text => inferInstanceAs (Decidable (text.toList.head? ≠ some '-'))
  | noColor => inferInstanceAs (Decidable True)
  | config _ value => inferInstanceAs (Decidable (value.toList.head? ≠ some '-'))

/-- Whether an item is a word. -/
def isWord : CommandItem → Bool
  | word _ => true
  | _ => false

/-- The word that an item is, if it is one. -/
def word? : CommandItem → Option String
  | word text => some text
  | _ => none

/-- The settings file that an item names, if it names one. -/
def value? : CommandItem → Option String
  | config _ value => some value
  | _ => none

/-- The words among items. -/
def words (items : List CommandItem) : List String := items.filterMap word?

/-- The settings file that is named last. -/
def lastValue (items : List CommandItem) : Option String := (items.filterMap value?).getLast?

/-- The words of the first run of words that no option interrupts. -/
def firstRun (items : List CommandItem) : List String :=
  words ((items.dropWhile fun item => !item.isWord).takeWhile isWord)

/-- The words behind the first run of words. -/
def lateWords (items : List CommandItem) : List String :=
  words ((items.dropWhile fun item => !item.isWord).dropWhile isWord)

/-! ## Words -/

variable {item : CommandItem} {items : List CommandItem}

/-- An item is a word or an option. -/
theorem eq_word_or_not_isWord (item : CommandItem) :
    (∃ text, item = word text) ∨ item.isWord = false := by
  cases item with
  | word text => exact .inl ⟨text, rfl⟩
  | noColor | config => exact .inr rfl

/-- A word in front of items is the first of their words. -/
theorem words_cons_word (text : String) (items : List CommandItem) :
    words (word text :: items) = text :: words items := rfl

/-- An option in front of items does not change their words. -/
theorem words_cons_of_not_isWord (h : item.isWord = false) : words (item :: items) = words items := by
  cases item with
  | word => simp [isWord] at h
  | noColor | config => rfl

/-- An option in front of the items belongs to no run of words. -/
theorem firstRun_cons_of_not_isWord (h : item.isWord = false) (items : List CommandItem) :
    firstRun (item :: items) = firstRun items ∧ lateWords (item :: items) = lateWords items := by
  simp [firstRun, lateWords, h]

/-- A word in front of the items starts the first run. -/
theorem firstRun_cons_word (text : String) (items : List CommandItem) :
    firstRun (word text :: items) = text :: words (items.takeWhile isWord) ∧
      lateWords (word text :: items) = words (items.dropWhile isWord) := by
  have hfirst : (word text :: items).dropWhile (fun item => !item.isWord) = word text :: items := rfl
  rw [firstRun, lateWords, hfirst, List.takeWhile_cons_of_pos rfl, List.dropWhile_cons_of_pos rfl]
  exact ⟨rfl, rfl⟩

/-- All words stand in the first run or behind it. -/
theorem firstRun_append_lateWords (items : List CommandItem) :
    firstRun items ++ lateWords items = words items := by
  induction items with
  | nil => rfl
  | cons item items ih =>
    rcases eq_word_or_not_isWord item with ⟨text, rfl⟩ | hoption
    · obtain ⟨hfirst, hlate⟩ := firstRun_cons_word text items
      rw [hfirst, hlate, List.cons_append, words, words, ← List.filterMap_append,
        List.takeWhile_append_dropWhile, words_cons_word, words]
    · obtain ⟨hfirst, hlate⟩ := firstRun_cons_of_not_isWord hoption items
      rw [hfirst, hlate, ih, words_cons_of_not_isWord hoption]

/-- A single word is in the first run. -/
theorem firstRun_of_length_words_le (h : (words items).length ≤ 1) :
    firstRun items = words items ∧ lateWords items = [] := by
  induction items with
  | nil => exact ⟨rfl, rfl⟩
  | cons item items ih =>
    rcases eq_word_or_not_isWord item with ⟨text, rfl⟩ | hoption
    · have happend := firstRun_append_lateWords (word text :: items)
      obtain ⟨hfirst, hlate⟩ := firstRun_cons_word text items
      have hlength := congrArg List.length happend
      rw [hfirst, List.length_append, List.length_cons] at hlength
      have hnil : lateWords (word text :: items) = [] := List.length_eq_zero_iff.mp (by omega)
      rw [hnil, List.append_nil] at happend
      exact ⟨happend, hnil⟩
    · obtain ⟨hfirst, hlate⟩ := firstRun_cons_of_not_isWord hoption items
      rw [words_cons_of_not_isWord hoption] at h ⊢
      rw [hfirst, hlate]
      exact ih h

end CommandItem

/-! ## Arguments by themselves -/

namespace Word

/-- What does not start with a hyphen is a plain word. -/
theorem classify_of_head?_ne {argument : String} (h : argument.toList.head? ≠ some '-') :
    classify argument = .ok plain := by
  rw [classify, if_pos (by simp [h])]

/-- No option is spelled with an equals sign. -/
theorem ofSpelling?_of_mem {argument : String} (h : '=' ∈ argument.toList) :
    CommandOption.ofSpelling? argument = none := by
  have hspellings : ∀ entry ∈ CommandOption.spellings, '=' ∉ entry.1.toList :=
    List.forall_iff_forall_mem.mp (by decide)
  rw [CommandOption.ofSpelling?, List.lookup_eq_none_iff]
  intro entry hentry
  rw [bne_iff_ne]
  rintro rfl
  exact hspellings entry hentry h

/-- The option for a settings file may have any text attached to it. -/
theorem classify_config (value : String) :
    classify ("--config=" ++ value) = .ok (.option .config true (some value)) := by
  have htext : ("--config=" ++ value).toList = "--config=".toList ++ value.toList :=
    String.toList_append
  have hsplit : splitValue ("--config=" ++ value).toList = ("--config", some value) := by
    rw [htext]
    simp [splitValue]
  have hwhole : CommandOption.ofSpelling? ("--config=" ++ value) = none :=
    ofSpelling?_of_mem (by simp [htext])
  have hspelling : bySpelling? ("--config=" ++ value) = some (.option .config true (some value)) := by
    rw [bySpelling?, hsplit, hwhole]
    rfl
  rw [classify, hspelling, htext]
  rfl

end Word

/-! ## Reading the items -/

namespace CommandItem

variable {items : List CommandItem}

/-- The arguments of an item with what each of them is by itself. -/
def classified : CommandItem → List (String × Word)
  | word text => [(text, .plain)]
  | noColor => [("--no-color", .option .noColor true none)]
  | config true value => [("--config=" ++ value, .option .config true (some value))]
  | config false value => [("--config", .option .config true none), (value, .plain)]

/-- An argument that is no separator is classified by itself. -/
theorem classifyAll_cons {argument : String} {found : Word} (hne : argument ≠ "--")
    (h : Word.classify argument = .ok found) (rest : List String) :
    Word.classifyAll (argument :: rest) =
      (Word.classifyAll rest).map fun later => (argument, found) :: later := by
  rw [Word.classifyAll, if_neg hne, h]
  cases Word.classifyAll rest <;> rfl

/-- What does not start with a hyphen is no separator. -/
theorem ne_separator_of_head?_ne {argument : String} (h : argument.toList.head? ≠ some '-') :
    argument ≠ "--" := by
  rintro rfl
  exact h rfl

/-- The arguments of an item are classified one by one. -/
theorem classifyAll_written {item : CommandItem} (h : item.Plain) (rest : List String) :
    Word.classifyAll (item.written ++ rest) =
      (Word.classifyAll rest).map fun later => item.classified ++ later := by
  cases item with
  | word text => exact classifyAll_cons (ne_separator_of_head?_ne h) (Word.classify_of_head?_ne h) rest
  | noColor => exact classifyAll_cons (by decide) (by decide +kernel) rest
  | config attached value =>
    cases attached with
    | true =>
      refine classifyAll_cons ?_ (Word.classify_config value) rest
      intro heq
      have hlength := congrArg String.length heq
      have hoption : "--config=".length = 9 := rfl
      have hseparator : "--".length = 2 := rfl
      rw [String.length_append] at hlength
      omega
    | false =>
      have hconfig : Word.classify "--config" = .ok (.option .config true none) := by decide +kernel
      have hoption := classifyAll_cons (by decide) hconfig (value :: rest)
      rw [classifyAll_cons (ne_separator_of_head?_ne h) (Word.classify_of_head?_ne h)] at hoption
      refine hoption.trans ?_
      cases Word.classifyAll rest <;> rfl

/-- Items are classified one by one. -/
theorem classifyAll_flatMap (h : ∀ item ∈ items, item.Plain) :
    Word.classifyAll (items.flatMap written) = .ok (items.flatMap classified) := by
  induction items with
  | nil => rfl
  | cons item items ih =>
    obtain ⟨hitem, hitems⟩ := List.forall_mem_cons.mp h
    rw [List.flatMap_cons, classifyAll_written hitem, ih hitems]
    rfl

end CommandItem

namespace ArgumentState

open CommandItem

/-- Takes an item. -/
def takeItem (state : ArgumentState) : CommandItem → ArgumentState
  | .word text => state.takePlain text true
  | .noColor => state.meetOption.setNoColor
  | .config _ value => state.meetOption.setConfig value

variable {items : List CommandItem} {state : ArgumentState}

/-- The arguments of items are taken item by item. -/
theorem takeAll_flatMap (state : ArgumentState) (items : List CommandItem) :
    state.takeAll (items.flatMap classified) = (items.foldl takeItem state).takeAll [] := by
  induction items generalizing state with
  | nil => rfl
  | cons item items ih =>
    rw [List.foldl_cons, ← ih (state.takeItem item), List.flatMap_cons]
    cases item with
    | word | noColor => rfl
    | config attached => cases attached <;> rfl

@[simp] theorem meetOption_arguments : state.meetOption.arguments = state.arguments := by
  unfold meetOption
  split <;> rfl

@[simp] theorem meetOption_unrecognized : state.meetOption.unrecognized = state.unrecognized := by
  unfold meetOption
  split <;> rfl

/-- An option leaves the scripts and the refused words as they are, and ends a run of words. -/
theorem takeItem_of_not_isWord {item : CommandItem} (h : item.isWord = false) (state : ArgumentState) :
    (state.takeItem item).arguments.scripts = state.arguments.scripts ∧
      (state.takeItem item).unrecognized = state.unrecognized ∧
      (state.takeItem item).run = state.meetOption.run := by
  cases item with
  | word => simp [isWord] at h
  | noColor | config => simp [takeItem, setNoColor, setConfig]

/-- Behind the run of scripts every word is refused. -/
theorem foldl_takeItem_after (items : List CommandItem) (h : state.run = .after) :
    (items.foldl takeItem state).arguments.scripts = state.arguments.scripts ∧
      (items.foldl takeItem state).unrecognized = state.unrecognized ++ words items := by
  induction items generalizing state with
  | nil => simp [words]
  | cons item items ih =>
    rw [List.foldl_cons]
    rcases eq_word_or_not_isWord item with ⟨text, rfl⟩ | hoption
    · have hstate : state.takeItem (.word text) =
          { state with unrecognized := state.unrecognized ++ [text] } := by
        simp [takeItem, takePlain, h]
      rw [hstate, words_cons_word]
      obtain ⟨hscripts, hrefused⟩ := @ih { state with unrecognized := state.unrecognized ++ [text] } h
      exact ⟨hscripts, hrefused.trans (List.append_assoc ..)⟩
    · obtain ⟨hscripts, hrefused, hrun⟩ := takeItem_of_not_isWord hoption state
      have hafter : (state.takeItem item).run = .after := by
        rw [hrun, meetOption, h]
        exact h
      rw [words_cons_of_not_isWord hoption, ← hscripts, ← hrefused]
      exact ih hafter

/-- Inside the run of scripts the words up to the next option are scripts. -/
theorem foldl_takeItem_inside (items : List CommandItem) (h : state.run = .inside) :
    (items.foldl takeItem state).arguments.scripts =
        state.arguments.scripts ++ words (items.takeWhile isWord) ∧
      (items.foldl takeItem state).unrecognized =
        state.unrecognized ++ words (items.dropWhile isWord) := by
  induction items generalizing state with
  | nil => simp [words]
  | cons item items ih =>
    rw [List.foldl_cons]
    rcases eq_word_or_not_isWord item with ⟨text, rfl⟩ | hoption
    · obtain ⟨hscripts, hrefused⟩ := @ih (state.takeItem (.word text)) (by simp [takeItem, takePlain, h])
      rw [hscripts, hrefused, List.takeWhile_cons_of_pos rfl, List.dropWhile_cons_of_pos rfl,
        words_cons_word]
      simp [takeItem, takePlain, h]
    · obtain ⟨hscripts, hrefused, hrun⟩ := takeItem_of_not_isWord hoption state
      have hafter : (state.takeItem item).run = .after := by rw [hrun, meetOption, h]
      obtain ⟨hscripts', hrefused'⟩ := foldl_takeItem_after items hafter
      rw [hscripts', hrefused', hscripts, hrefused, List.takeWhile_cons_of_neg (by simp [hoption]),
        List.dropWhile_cons_of_neg (by simp [hoption]), words_cons_of_not_isWord hoption]
      exact ⟨(List.append_nil _).symm, rfl⟩

/-- In front of the run of scripts, the scripts are the first run of words, and the words behind it are refused. -/
theorem foldl_takeItem_before (items : List CommandItem) (h : state.run = .before) :
    (items.foldl takeItem state).arguments.scripts = state.arguments.scripts ++ firstRun items ∧
      (items.foldl takeItem state).unrecognized = state.unrecognized ++ lateWords items := by
  induction items generalizing state with
  | nil => simp [firstRun, lateWords, words]
  | cons item items ih =>
    rw [List.foldl_cons]
    rcases eq_word_or_not_isWord item with ⟨text, rfl⟩ | hoption
    · obtain ⟨hfirst, hlate⟩ := firstRun_cons_word text items
      have hinside : (state.takeItem (.word text)).run = .inside := by simp [takeItem, takePlain, h]
      obtain ⟨hscripts, hrefused⟩ := foldl_takeItem_inside items hinside
      rw [hscripts, hrefused, hfirst, hlate]
      simp [takeItem, takePlain, h]
    · obtain ⟨hfirst, hlate⟩ := firstRun_cons_of_not_isWord hoption items
      obtain ⟨hscripts, hrefused, hrun⟩ := takeItem_of_not_isWord hoption state
      have hbefore : (state.takeItem item).run = .before := by
        rw [hrun, meetOption, h]
        exact h
      rw [hfirst, hlate, ← hscripts, ← hrefused]
      exact ih hbefore

/-- A word changes neither the settings file nor the colour. -/
theorem takePlain_options (argument : String) (isScript : Bool) (state : ArgumentState) :
    (state.takePlain argument isScript).arguments.config = state.arguments.config ∧
      (state.takePlain argument isScript).arguments.noColor = state.arguments.noColor := by
  unfold takePlain
  split <;> exact ⟨rfl, rfl⟩

/-- The settings file that is named last counts. -/
theorem config_foldl_takeItem (h : ∀ item ∈ items, item.Plain) (state : ArgumentState) :
    (items.foldl takeItem state).arguments.config =
      ((lastValue items).map ConfigValue.path).or state.arguments.config := by
  induction items generalizing state with
  | nil => rfl
  | cons item items ih =>
    obtain ⟨hitem, hitems⟩ := List.forall_mem_cons.mp h
    rw [List.foldl_cons, ih hitems]
    cases item with
    | word text => rw [takeItem, (takePlain_options ..).1]; rfl
    | noColor => simp [takeItem, setNoColor, lastValue, value?]
    | config attached value =>
      have hconfig : (state.takeItem (.config attached value)).arguments.config = some (.path value) := by
        simp [takeItem, setConfig, ne_separator_of_head?_ne hitem]
      have hlast : lastValue (.config attached value :: items) = (lastValue items).or (some value) := by
        simp [lastValue, value?, List.getLast?_cons, Option.or_some]
      rw [hconfig, hlast]
      cases lastValue items <;> rfl

/-- Colour is turned off if one of the items says so. -/
theorem noColor_foldl_takeItem (items : List CommandItem) (state : ArgumentState) :
    (items.foldl takeItem state).arguments.noColor =
      (state.arguments.noColor || items.contains .noColor) := by
  induction items generalizing state with
  | nil => simp
  | cons item items ih =>
    rw [List.foldl_cons, ih, List.contains_cons]
    cases item with
    | word text => rw [takeItem, (takePlain_options ..).2]; rfl
    | noColor => simp [takeItem, setNoColor]
    | config => rw [takeItem, setConfig, meetOption_arguments]; rfl

end ArgumentState

open CommandLine CommandItem

variable {items : List CommandItem}

/-- What is read off a command line that is made of words and options. -/
theorem ofArguments_written (h : ∀ item ∈ items, item.Plain) :
    Request.ofArguments (items.flatMap written) =
      if lateWords items = [] then
        .ok (.run ⟨firstRun items, (lastValue items).map .path, items.contains .noColor⟩)
      else .error (.unrecognized (lateWords items)) := by
  have hbefore : (⟨⟨[], none, false⟩, .before, []⟩ : ArgumentState).run = .before := rfl
  have hscripts := ArgumentState.foldl_takeItem_before items hbefore
  have hconfig := ArgumentState.config_foldl_takeItem h ⟨⟨[], none, false⟩, .before, []⟩
  have hcolor := ArgumentState.noColor_foldl_takeItem items ⟨⟨[], none, false⟩, .before, []⟩
  have hread : Request.ofArguments (items.flatMap written) =
      ArgumentState.takeAll ⟨⟨[], none, false⟩, .before, []⟩ (items.flatMap classified) := by
    rw [Request.ofArguments, classifyAll_flatMap h]
    rfl
  rw [hread, ArgumentState.takeAll_flatMap]
  generalize items.foldl ArgumentState.takeItem ⟨⟨[], none, false⟩, .before, []⟩ = state
    at hscripts hconfig hcolor
  obtain ⟨⟨scripts, config, noColor⟩, run, refused⟩ := state
  simp only [List.nil_append, Option.or_none, Bool.false_or] at hscripts hconfig hcolor
  obtain ⟨rfl, rfl⟩ := hscripts
  rw [hconfig, hcolor, ArgumentState.takeAll]
  simp only [List.isEmpty_iff]

/-- A single word is a script wherever it stands. -/
theorem ofArguments_one_word (h : ∀ item ∈ items, item.Plain) (hwords : (words items).length ≤ 1) :
    Request.ofArguments (items.flatMap written) =
      .ok (.run ⟨words items, (lastValue items).map .path, items.contains .noColor⟩) := by
  obtain ⟨hfirst, hlate⟩ := firstRun_of_length_words_le hwords
  rw [ofArguments_written h, if_pos hlate, hfirst]

/-- **Several words.** A command line with several words fails before anything else is looked at, and nothing is
printed on standard output. If an option stands between words, then the words behind the first run of words are
refused as arguments, and only otherwise the line is found to name too many scripts. -/
theorem run_several_words (h : ∀ item ∈ items, item.Plain) (hwords : 2 ≤ (words items).length)
    (env : Environment) :
    run env (items.flatMap written) =
      if lateWords items = [] then ⟨.exit 64, "", "Usage: loxscan [script]\n"⟩
      else ⟨.exit 2, "", "usage: loxscan [-h] [--config CONFIG] [--no-color] [script ...]\n" ++
        "loxscan: error: unrecognized arguments: " ++ " ".intercalate (lateWords items) ++ "\n"⟩ := by
  have hread := ofArguments_written h
  split
  next hlate =>
    rw [if_pos hlate] at hread
    have hfirst := firstRun_append_lateWords items
    rw [hlate, List.append_nil] at hfirst
    rw [run_eq_runArguments hread]
    exact runArguments_of_several (hfirst ▸ hwords)
  next hlate =>
    rw [if_neg hlate] at hread
    rw [run, Plan.ofCommandLine, hread]
    rfl

/-- Words behind an option are refused, whatever stands in front of it. -/
theorem run_several_words_split :
    (∀ item ∈ [word "a.lox", word "b.lox", config true "", word "c.lox"], item.Plain) ∧
      2 ≤ (words [word "a.lox", word "b.lox", config true "", word "c.lox"]).length ∧
      run (singleFile "a.lox" "@") ["a.lox", "b.lox", "--config=", "c.lox"] =
        ⟨.exit 2, "", "usage: loxscan [-h] [--config CONFIG] [--no-color] [script ...]\n" ++
          "loxscan: error: unrecognized arguments: c.lox\n"⟩ := by
  have hplain : ∀ item ∈ [word "a.lox", word "b.lox", config true "", word "c.lox"], item.Plain := by
    decide
  have hrun := run_several_words hplain (by decide) (singleFile "a.lox" "@")
  exact ⟨hplain, by decide, hrun⟩

/-- Two words with an option between them are not found to be too many scripts. -/
theorem not_usage_error_split :
    (∀ item ∈ [word "a.lox", noColor, word "b.lox"], item.Plain) ∧
      2 ≤ (words [word "a.lox", noColor, word "b.lox"]).length ∧
      run (singleFile "a.lox" "@") ([word "a.lox", noColor, word "b.lox"].flatMap written) ≠
        ⟨.exit 64, "", "Usage: loxscan [script]\n"⟩ ∧
      run (singleFile "a.lox" "@") ["a.lox", "--no-color", "b.lox"] =
        ⟨.exit 2, "", "usage: loxscan [-h] [--config CONFIG] [--no-color] [script ...]\n" ++
          "loxscan: error: unrecognized arguments: b.lox\n"⟩ := by
  refine ⟨by decide, by decide, ?_, by decide +kernel⟩
  decide +kernel

/-- **At most one word.** A command line with at most one word is never refused, and its outcome depends on
the word, on the settings file that is named last and on whether colour is turned off, but not on the
order of the items or on how they are written. -/
theorem run_one_word (h : ∀ item ∈ items, item.Plain) (hwords : (words items).length ≤ 1)
    (env : Environment) :
    Request.ofArguments (items.flatMap written) =
        .ok (.run ⟨words items, (lastValue items).map .path, items.contains .noColor⟩) ∧
      ∀ others : List CommandItem, (∀ item ∈ others, item.Plain) → words others = words items →
        lastValue others = lastValue items → (.noColor ∈ others ↔ .noColor ∈ items) →
          run env (others.flatMap written) = run env (items.flatMap written) := by
  refine ⟨ofArguments_one_word h hwords, ?_⟩
  intro others hothers hsame hlast hcolor
  have hcontains : others.contains .noColor = items.contains .noColor := by
    rw [Bool.eq_iff_iff, List.contains_iff_mem, List.contains_iff_mem, hcolor]
  rw [run_eq_runArguments (ofArguments_one_word h hwords),
    run_eq_runArguments (ofArguments_one_word hothers (hsame ▸ hwords)), hsame, hlast, hcontains]

/-- A script may stand between options, and only the last settings file is looked for. -/
theorem run_one_word_between_options :
    (∀ item ∈ [config false "a.yaml", word "a.lox", noColor, config true "b.yaml"], item.Plain) ∧
      (words [config false "a.yaml", word "a.lox", noColor, config true "b.yaml"]).length ≤ 1 ∧
      run (singleFile "a.lox" "@") ["--no-color", "--config", "b.yaml", "--no-color", "a.lox"] =
        run (singleFile "a.lox" "@")
          ["--config", "a.yaml", "a.lox", "--no-color", "--config=b.yaml"] ∧
      run (singleFile "a.lox" "@")
          ["--config", "a.yaml", "a.lox", "--no-color", "--config=b.yaml"] =
        ⟨.exit 78, "", "Error: Settings file not found: b.yaml\n"⟩ := by
  have hplain : ∀ item ∈ [config false "a.yaml", word "a.lox", noColor, config true "b.yaml"],
      item.Plain := by decide
  have hsame := (run_one_word hplain (by decide) (singleFile "a.lox" "@")).2
    [noColor, config false "b.yaml", noColor, word "a.lox"] (by decide) rfl rfl (by decide)
  exact ⟨hplain, by decide, hsame, by decide +kernel⟩

end LoxLexer
