import LoxLexer.Settings.Basic
import LoxLexer.Text.Utf8
import LoxLexer.Yaml.Value

/-!
# Validation of settings

Settings are given as the entries of a mapping. Every entry that is wrong is reported once: first the
fields in a fixed order, whatever the order of the entries, then the keys that are no fields in the
order of the entries. The field for line numbers has two names, and its second name counts as no
field where the first one is given too.
-/

namespace LoxLexer

/-- What can be wrong with an entry of a settings mapping. -/
inductive EntryFault where
  /-- The prompt is no text. -/
  | notText
  /-- The value is a sequence of bytes that encodes no text, or a text with a half of a character. -/
  | undecodableText
  /-- The value is not of a type that could be a truth value. -/
  | notBool
  /-- The value is of a type that could be a truth value but is none. -/
  | unknownBool
  /-- There is no such setting. -/
  | unknownKey
  /-- The key is no text. -/
  | keyNotText
  /-- Settings cannot be changed in place. -/
  | frozen
  deriving DecidableEq, Repr

namespace EntryFault

/-- The short name of a fault. -/
def code : EntryFault → String
  | notText => "string_type"
  | undecodableText => "string_unicode"
  | notBool => "bool_type"
  | unknownBool => "bool_parsing"
  | unknownKey => "extra_forbidden"
  | keyNotText => "invalid_key"
  | frozen => "frozen_instance"

/-- The wording of a fault. -/
def message : EntryFault → String
  | notText => "Input should be a valid string"
  | undecodableText =>
      "Input should be a valid string, unable to parse raw data as a unicode string"
  | notBool => "Input should be a valid boolean"
  | unknownBool => "Input should be a valid boolean, unable to interpret input"
  | unknownKey => "Extra inputs are not permitted"
  | keyNotText => "Keys should be strings"
  | frozen => "Instance is frozen"

end EntryFault

/-- A fault with the key of the entry that has it. -/
structure EntryError where
  /-- The key as it was given. -/
  key : Yaml.Value
  /-- What is wrong. -/
  fault : EntryFault
  deriving DecidableEq

/-- Why a value is no settings. -/
inductive ValidationError where
  /-- The value is no mapping. -/
  | notMapping
  /-- A key holds a half of a character. Nothing else is looked at then. -/
  | undecodableKey
  /-- Some entries are wrong. -/
  | entries (errors : List EntryError)
  deriving DecidableEq

/-- A key as the place of an error. A text with a point in it is set off by backquotes. -/
def EntryError.place (error : EntryError) : String :=
  let shown := error.key.renderKey
  if shown.toList.contains '.' then "\x60" ++ shown ++ "\x60" else shown

/-- The two lines that describe an error. -/
def EntryError.lines (error : EntryError) : List String :=
  [error.place, "  " ++ error.fault.message ++ " [type=" ++ error.fault.code ++ "]"]

/-- The first line of a report of a number of errors. -/
def ValidationError.title (count : Nat) : String :=
  toString count ++ (if count = 1 then " validation error" else " validation errors") ++
    " for Settings"

/-- The report of a validation. -/
def ValidationError.message : ValidationError → String
  | notMapping =>
      "\n".intercalate [title 1,
        "  Input should be a valid dictionary or instance of Settings [type=model_type]"]
  | undecodableKey =>
      "\n".intercalate [title 1, "  " ++ EntryFault.undecodableText.message ++ " [type=" ++
        EntryFault.undecodableText.code ++ "]"]
  | entries errors => "\n".intercalate (title errors.length :: errors.flatMap EntryError.lines)

namespace Settings

/-- The words that stand for true. -/
def trueWords : List String := ["1", "on", "t", "true", "y", "yes"]

/-- The words that stand for false. -/
def falseWords : List String := ["0", "off", "f", "false", "n", "no"]

/-- The truth value of a word, in any case of ASCII letters. -/
def readBoolWord (word : String) : Except EntryFault Bool :=
  let lower := String.ofList (word.toList.map Char.toLower)
  if trueWords.contains lower then .ok true
  else if falseWords.contains lower then .ok false
  else .error .unknownBool

/-- The truth value of an integer. -/
def readBoolInt (n : Int) : Except EntryFault Bool :=
  if n = 1 then .ok true else if n = 0 then .ok false else .error .unknownBool

/-- The truth value of a setting: a truth value itself, a word, or one or zero as a number. An integer
must fit in 64 bits with sign to be looked at, and a floating-point number must be strictly between the
ends of that range. -/
def readBool : Yaml.Value → Except EntryFault Bool
  | .bool value => .ok value
  | .text word => readBoolWord word
  | .brokenText _ => .error .undecodableText
  | .bytes raw =>
      match Text.decodeUtf8 raw with
      | .ok word => readBoolWord (String.ofList word)
      | .error _ => .error .unknownBool
  | .int n =>
      if Int64.minValue.toInt ≤ n ∧ n ≤ Int64.maxValue.toInt then readBoolInt n
      else .error .notBool
  | .float x =>
      match x.toInt? with
      | some n =>
          if Int64.minValue.toInt < n ∧ n ≤ Int64.maxValue.toInt then readBoolInt n
          else .error .notBool
      | none => .error .notBool
  | _ => .error .notBool

/-- The text of a setting: a text itself, or the text that a sequence of bytes encodes. Halves of
characters are put together. -/
def readText : Yaml.Value → Except EntryFault String
  | .text value => .ok value
  | .brokenText value => .ok (String.ofList (CodeText.joined value))
  | .bytes raw =>
      match Text.decodeUtf8 raw with
      | .ok value => .ok (String.ofList value)
      | .error _ => .error .undecodableText
  | _ => .error .notText

/-- The name under which the line-number field is given. -/
def showLinesKey (entries : Yaml.Entries) : String :=
  if (entries.find? "show-lines").isSome then "show-lines" else "show_lines"

/-- The value of a field under a name, or its default if there is no such entry. -/
def readField {α : Type} (read : Yaml.Value → Except EntryFault α) (missing : α)
    (entries : Yaml.Entries) (name : String) : Except EntryError α :=
  match entries.find? name with
  | none => .ok missing
  | some value => (read value).mapError fun fault => ⟨.text name, fault⟩

/-- The fault of a key that is not among the names of the fields. -/
def keyFault? (names : List String) : Yaml.Value → Option EntryFault
  | .text name => if names.contains name then none else some .unknownKey
  | _ => some .keyNotText

/-- The errors of the keys that are not among the names of the fields. -/
def keyErrors (names : List String) (entries : Yaml.Entries) : List EntryError :=
  entries.filterMap fun entry => (keyFault? names entry.1).map fun fault => ⟨entry.1, fault⟩

/-- The error in a result, as a list. -/
def errorList {α : Type} : Except EntryError α → List EntryError
  | .ok _ => []
  | .error error => [error]

/-- Whether a key holds a half of a character. -/
def isBrokenKey : Yaml.Value → Bool
  | .brokenText _ => true
  | _ => false

/-- The settings that the entries of a mapping give. -/
def ofEntries (entries : Yaml.Entries) : Except ValidationError Settings :=
  if entries.any fun entry => isBrokenKey entry.1 then .error .undecodableKey else
  let linesKey := showLinesKey entries
  let prompt := readField readText default.prompt entries "prompt"
  let color := readField readBool default.color entries "color"
  let showLines := readField readBool default.showLines entries linesKey
  let extra := keyErrors ["prompt", "color", linesKey] entries
  match prompt, color, showLines, extra with
  | .ok prompt, .ok color, .ok showLines, [] => .ok ⟨prompt, color, showLines⟩
  | _, _, _, _ => .error (.entries
      (errorList prompt ++ errorList color ++ errorList showLines ++ extra))

/-- The error of an attempt to change a setting in place. -/
def assignmentError (name : String) : ValidationError := .entries [⟨.text name, .frozen⟩]

end Settings

end LoxLexer
