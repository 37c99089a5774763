import PageSession.Log.Config
import PageSession.Text.Split
import Mathlib.Data.List.Sort
import Mathlib.Data.String.Basic

/-!
# The text of a filter says what the levels are

A level is spelled by its name in any case or by its number.  The text made of settings
has the base level in front and, behind commas, one part for each name whose level is
spelled so; a name and its level stand on either side of an equals sign.  As long as no
name has one of these marks in it, the levels are found again in the text.
-/

namespace PageSession

namespace Level

/-- A text spells a level by its name in any case, or by its number. -/
def SpelledBy (level : Level) (text : String) : Prop :=
  text.toLower = level.name ∨ Text.unsigned? text = some level.rank

theorem ofName?_eq_some_iff {name : String} {level : Level} :
    ofName? name = some level ↔ name = level.name := by
  constructor
  · intro found
    unfold ofName? at found
    split_ifs at found <;> cases found <;> assumption
  · rintro rfl
    exact ofName?_name level

theorem ofRank?_eq_some_iff {rank : Nat} {level : Level} :
    ofRank? rank = some level ↔ rank = level.rank := by
  constructor
  · intro found
    unfold ofRank? at found
    split at found <;> cases found <;> rfl
  · rintro rfl
    exact ofRank?_rank level

theorem name_injective : Function.Injective name := by
  intro level other same
  have found : ofName? level.name = some other := same ▸ ofName?_name other
  rw [ofName?_name] at found
  exact Option.some.inj found

/-- No name of a level has a digit or a mark of a filter in it. -/
theorem plain_name (level : Level) :
    ',' ∉ level.name.toList ∧ '=' ∉ level.name.toList ∧
      level.name.toList.all (!·.isDigit) = true := by
  cases level <;> decide

end Level

theorem Text.exists_digit_of_unsigned? {text : String} {value : Nat}
    (number : Text.unsigned? text = some value) :
    ∃ char ∈ text.toList, char.isDigit = true := by
  have read : ∀ digits : List Char,
      (if digits.isEmpty || !digits.all Char.isDigit then none
        else some (Text.digitsValue digits)) = some value →
      ∃ char ∈ digits, char.isDigit = true := by
    intro digits accepted
    obtain ⟨⟨nonempty, all⟩, _⟩ :
        (digits ≠ [] ∧ ∀ char ∈ digits, char.isDigit = true) ∧ _ := by
      simpa using accepted
    obtain ⟨char, member⟩ := List.exists_mem_of_ne_nil digits nonempty
    exact ⟨char, member, all char member⟩
  unfold Text.unsigned? at number
  split at number
  case h_1 rest sign =>
    obtain ⟨char, member, digit⟩ := read rest number
    exact ⟨char, by simp [sign, member], digit⟩
  case h_2 => exact read text.toList number

theorem Text.toLower_of_isDigit {char : Char} (digit : char.isDigit = true) :
    char.toLower = char := by
  have small : char.val ≤ '9'.val := by
    simp only [Char.isDigit, Bool.and_eq_true, decide_eq_true_eq] at digit
    exact digit.2
  unfold Char.toLower
  rw [dif_neg]
  rintro ⟨large, _⟩
  exact absurd (UInt32.le_trans large small) (by decide)

namespace Level

/-- A number is no name, so that at most one of the two readings gives a level. -/
theorem toLower_ne_name {text : String} {value : Nat}
    (number : Text.unsigned? text = some value) (level : Level) :
    text.toLower ≠ level.name := by
  intro same
  obtain ⟨char, member, digit⟩ := Text.exists_digit_of_unsigned? number
  have chars : text.toLower.toList = text.toList.map Char.toLower := String.toList_map
  have lowered : char ∈ level.name.toList := by
    rw [← same, chars, ← Text.toLower_of_isDigit digit]
    exact List.mem_map_of_mem member
  have letter := List.all_eq_true.mp (plain_name level).2.2 char lowered
  rw [digit] at letter
  contradiction

theorem parse?_eq_some_iff {text : String} {level : Level} :
    parse? text = some level ↔ level.SpelledBy text := by
  unfold parse? SpelledBy
  cases number : Text.unsigned? text with
  | none => simp [ofName?_eq_some_iff]
  | some rank => simp [ofRank?_eq_some_iff, toLower_ne_name number level]

end Level

namespace LogSettings

/-- The base level: the one spelled, or info if none is. -/
def HasBase (settings : LogSettings) (level : Level) : Prop :=
  level.SpelledBy settings.level ∨
    level = .info ∧ ∀ other : Level, ¬ other.SpelledBy settings.level

/-- A part of the program has a level of its own. -/
def Assigns (settings : LogSettings) (name : String) (level : Level) : Prop :=
  ∃ text, (name, text) ∈ settings.modules ∧ level.SpelledBy text

/-- The table of levels is in the order of its names, and none of these has a mark of a
filter in it. -/
structure Separable (settings : LogSettings) : Prop where
  ordered : (settings.modules.map Prod.fst).Pairwise (· < ·)
  plain : ∀ entry ∈ settings.modules, ',' ∉ entry.1.toList ∧ '=' ∉ entry.1.toList

end LogSettings

namespace LogConfig

/-- No name has a mark of a filter in it. -/
def Plain (config : LogConfig) : Prop :=
  ∀ entry ∈ config.modules, ',' ∉ entry.1.toList ∧ '=' ∉ entry.1.toList

variable {settings other : LogSettings} {config : LogConfig}

/-! ## What settings ask for -/

theorem level_ofSettings_eq_iff {level : Level} :
    (ofSettings settings).level = level ↔ settings.HasBase level := by
  have read : (ofSettings settings).level = (Level.parse? settings.level).getD .info := rfl
  rw [read, LogSettings.HasBase]
  simp only [← Level.parse?_eq_some_iff]
  cases parsed : Level.parse? settings.level with
  | none => simp [eq_comm]
  | some spelled => simp

theorem mem_modules_ofSettings {name : String} {level : Level} :
    (name, level) ∈ (ofSettings settings).modules ↔ settings.Assigns name level := by
  simp only [ofSettings, List.mem_filterMap, LogSettings.Assigns, ← Level.parse?_eq_some_iff]
  constructor
  · rintro ⟨⟨module, text⟩, member, read⟩
    obtain ⟨spelled, parsed, same⟩ := Option.map_eq_some_iff.mp read
    obtain ⟨rfl, rfl⟩ := Prod.mk.inj same
    exact ⟨text, member, parsed⟩
  · rintro ⟨text, member, parsed⟩
    exact ⟨(name, text), member, by simp [parsed]⟩

theorem ordered_modules_ofSettings (separable : settings.Separable) :
    ((ofSettings settings).modules.map Prod.fst).Pairwise (· < ·) := by
  rw [List.pairwise_map, ofSettings, List.pairwise_filterMap]
  refine (List.pairwise_map.mp separable.ordered).imp ?_
  rintro ⟨name, text⟩ ⟨later, laterText⟩ below entry read laterEntry laterRead
  obtain ⟨_, _, rfl⟩ := Option.map_eq_some_iff.mp read
  obtain ⟨_, _, rfl⟩ := Option.map_eq_some_iff.mp laterRead
  exact below

theorem plain_ofSettings (separable : settings.Separable) : (ofSettings settings).Plain := by
  rintro ⟨name, level⟩ member
  obtain ⟨text, listed, _⟩ := mem_modules_ofSettings.mp member
  exact separable.plain (name, text) listed

/-! ## The parts of the text -/

theorem split_directives (plain : config.Plain) :
    Text.split ',' config.directives.toList =
      config.level.name.toList ::
        config.modules.map fun entry => (entry.1 ++ "=" ++ entry.2.name).toList := by
  rw [directives, String.toList_intercalate]
  have parts := @Text.split_intercalate ','
    (config.level.name.toList ::
      config.modules.map fun entry => (entry.1 ++ "=" ++ entry.2.name).toList)
    (List.cons_ne_nil _ _) ?_
  · simpa [Function.comp_def] using parts
  · refine List.forall_mem_cons.mpr ⟨config.level.plain_name.1, ?_⟩
    intro part member
    obtain ⟨entry, listed, rfl⟩ := List.mem_map.mp member
    simp [(plain entry listed).1, entry.2.plain_name.1]

theorem split_directive {name : String} (plain : '=' ∉ name.toList) (level : Level) :
    Text.split '=' (name ++ "=" ++ level.name).toList =
      [name.toList, level.name.toList] := by
  have written : (name ++ "=" ++ level.name).toList =
      name.toList ++ '=' :: level.name.toList := by simp
  rw [written, Text.split_append_cons plain, Text.split_of_not_mem level.plain_name.2.1]

/-- Splitting the parts of the text at their equals signs gives the levels back. -/
theorem map_split_directives (plain : config.Plain) :
    (Text.split ',' config.directives.toList).tail.map (Text.split '=') =
      config.modules.map fun entry => [entry.1.toList, entry.2.name.toList] := by
  rw [split_directives plain, List.tail_cons, List.map_map]
  apply List.map_congr_left
  intro entry listed
  exact split_directive (plain entry listed).2 entry.2

theorem directives_eq_iff {config other : LogConfig} (plain : config.Plain)
    (otherPlain : other.Plain) :
    config.directives = other.directives ↔
      config.level = other.level ∧ config.modules = other.modules := by
  constructor
  -- The first part of the text gives the base level, the others the table.
  · intro same
    have parts := map_split_directives plain
    rw [same, map_split_directives otherPlain] at parts
    have first := split_directives plain
    rw [same, split_directives otherPlain] at first
    have names := String.toList_inj.mp (List.cons.inj first).1
    refine ⟨(Level.name_injective names).symm, (List.map_injective_iff.mpr ?_ parts).symm⟩
    rintro ⟨name, level⟩ ⟨otherName, otherLevel⟩ equal
    obtain ⟨names, levels⟩ : name = otherName ∧ level.name = otherLevel.name := by
      simpa [String.toList_inj] using equal
    rw [names, Level.name_injective levels]
  · rintro ⟨levels, modules⟩
    rw [directives, directives, levels, modules]

/-- Two tables in the order of their names with the same entries are the same. -/
theorem modules_eq_iff (separable : settings.Separable) (otherSeparable : other.Separable) :
    (ofSettings settings).modules = (ofSettings other).modules ↔
      ∀ name level, settings.Assigns name level ↔ other.Assigns name level := by
  simp only [← mem_modules_ofSettings]
  constructor
  · intro same name level
    rw [same]
  · intro same
    have antisymmetric : Std.Antisymm fun one next : String × Level => one.1 < next.1 :=
      ⟨fun _ _ below above => absurd above (lt_asymm below)⟩
    have irreflexive : Std.Irrefl fun one next : String × Level => one.1 < next.1 :=
      ⟨fun _ => lt_irrefl _⟩
    exact List.Pairwise.eq_of_mem_iff
      (List.pairwise_map.mp (ordered_modules_ofSettings separable))
      (List.pairwise_map.mp (ordered_modules_ofSettings otherSeparable))
      fun entry => same entry.1 entry.2

theorem level_eq_iff :
    (ofSettings settings).level = (ofSettings other).level ↔
      ∀ level, settings.HasBase level ↔ other.HasBase level := by
  simp only [← level_ofSettings_eq_iff]
  constructor
  · intro same level
    rw [same]
  · intro same
    exact ((same _).mp rfl).symm

/-- The text has the name of the base level in front and then, in the order of names, one
part for each part of the program with a level, which splits into its name and that of
the level.  Two settings give the same text exactly if they agree on the base level and on
the levels of the parts. -/
theorem split_directives_ofSettings (separable : settings.Separable) :
    (∃ (base : Level) (entries : List (String × Level)) (parts : List (List Char)),
      Text.split ',' (ofSettings settings).directives.toList = base.name.toList :: parts ∧
      settings.HasBase base ∧
      parts.map (Text.split '=') =
        entries.map (fun entry => [entry.1.toList, entry.2.name.toList]) ∧
      (entries.map Prod.fst).Pairwise (· < ·) ∧
      ∀ name level, (name, level) ∈ entries ↔ settings.Assigns name level) ∧
    ∀ {other : LogSettings}, other.Separable →
      ((ofSettings settings).directives = (ofSettings other).directives ↔
        (∀ level, settings.HasBase level ↔ other.HasBase level) ∧
          ∀ name level, settings.Assigns name level ↔ other.Assigns name level) := by
  have plain := plain_ofSettings separable
  constructor
  · have split := split_directives plain
    have parts := map_split_directives plain
    rw [split, List.tail_cons] at parts
    refine ⟨_, (ofSettings settings).modules, _, split, level_ofSettings_eq_iff.mp rfl, parts,
      ordered_modules_ofSettings separable, ?_⟩
    exact fun name level => mem_modules_ofSettings
  · intro other otherSeparable
    rw [directives_eq_iff plain (plain_ofSettings otherSeparable), level_eq_iff,
      modules_eq_iff separable otherSeparable]

/-- Levels in mixed case and as numbers, a base level and one of a part that are none. -/
def chattySettings : LogSettings where
  level := "chatty"
  modules := [("", "4"), ("resources", "loud"), ("transport", "TraCe")]

def plainSettings : LogSettings where
  level := "INFO"
  modules := [("", "debug"), ("transport", "+5")]

theorem split_directives_ofSettings_chatty :
    chattySettings.Separable ∧ plainSettings.Separable ∧
      (∃ (base : Level) (entries : List (String × Level)) (parts : List (List Char)),
        Text.split ',' "info,=debug,transport=trace".toList = base.name.toList :: parts ∧
        chattySettings.HasBase base ∧
        parts.map (Text.split '=') =
          entries.map (fun entry => [entry.1.toList, entry.2.name.toList]) ∧
        (entries.map Prod.fst).Pairwise (· < ·) ∧
        ∀ name level, (name, level) ∈ entries ↔ chattySettings.Assigns name level) ∧
      (∀ level, chattySettings.HasBase level ↔ plainSettings.HasBase level) ∧
      ∀ name level, chattySettings.Assigns name level ↔ plainSettings.Assigns name level := by
  have chatty : chattySettings.Separable := ⟨by decide +kernel, by decide +kernel⟩
  have other : plainSettings.Separable := ⟨by decide +kernel, by decide +kernel⟩
  have text : (ofSettings chattySettings).directives = "info,=debug,transport=trace" := by
    decide +kernel
  have sameText : (ofSettings chattySettings).directives =
      (ofSettings plainSettings).directives := by decide +kernel
  obtain ⟨parts, agree⟩ := split_directives_ofSettings chatty
  rw [text] at parts
  exact ⟨chatty, other, parts, (agree other).mp sameText⟩

end LogConfig

end PageSession
