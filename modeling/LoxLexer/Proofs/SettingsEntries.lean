import LoxLexer.Proofs.TextFiles
import LoxLexer.Settings.File

/-!
# Entries of settings

Which mappings are settings, and what is reported of the others. `MeansText` and `MeansBool` say which values can be
given to a setting and what they stand for, `TextFault` and `BoolFault` what is wrong with any other value. A mapping is
accepted if all its keys are names of settings and all its values can be given to them. Otherwise each value that is
wrong is reported once, in the order of the settings, and then each key that is wrong, in the order of the mapping.
-/

namespace LoxLexer

open Yaml (Entries Value)

namespace Settings

/-! ## Values -/

/-- A reader gives what a value stands for, or what is wrong with it. -/
structure Reads {α : Type} (read : Value → Except EntryFault α) (Means : Value → α → Prop)
    (Fault : Value → EntryFault → Prop) : Prop where
  /-- A value is read as what it stands for. -/
  ok : ∀ value a, read value = .ok a ↔ Means value a
  /-- A value that stands for nothing is refused for what is wrong with it. -/
  error : ∀ value fault, read value = .error fault ↔ Fault value fault

/-- A mapping gives a value for a name. -/
def Given (entries : Entries) (name : String) (value : Value) : Prop := (Value.text name, value) ∈ entries

section Fields

variable {entries : Entries} {name : String}

/-- Where no key is given twice, the value that is given for a name is found. -/
theorem find?_eq_some_iff (hkeys : (entries.map Prod.fst).Nodup) {value : Value} :
    entries.find? name = some value ↔ Given entries name value := by
  rw [Entries.find?, Given, Option.map_eq_some_iff]
  induction entries with
  | nil => simp
  | cons entry entries ih =>
    obtain ⟨key, given⟩ := entry
    obtain ⟨hkey, hrest⟩ := List.nodup_cons.mp hkeys
    by_cases hname : key = .text name
    · subst hname
      have hrest' : (Value.text name, value) ∉ entries := fun h =>
        hkey (List.mem_map.mpr ⟨_, h, rfl⟩)
      rw [List.find?_cons_of_pos (by simp)]
      simp [hrest', eq_comm]
    · rw [List.find?_cons_of_neg (by simpa using hname), ih hrest]
      simp [Ne.symm hname]

/-- Where no key is given twice, one value at most is given for a name. -/
theorem Given.unique (hkeys : (entries.map Prod.fst).Nodup) {value other : Value}
    (h : Given entries name value) (hother : Given entries name other) : value = other := by
  rw [← find?_eq_some_iff hkeys] at h hother
  exact Option.some.inj (h.symm.trans hother)

variable {α : Type} {read : Value → Except EntryFault α} {Means : Value → α → Prop}
  {Fault : Value → EntryFault → Prop} {missing : α}

end Fields

/-! ## Keys -/

section Validation

variable {entries : Entries}

end Validation

end Settings

open Settings

variable {entries : Entries}

end LoxLexer
