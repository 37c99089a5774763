import PageSession.Text.Quoted

/-!
# Quoted texts are told apart

A quoted text shows which text it is and where it ends: the first of its characters
can be read whatever stands behind it, and no character is shown by a quote at its
beginning.  So texts listed in braces are read back in their order.
-/

namespace PageSession.Text

/-- The character that the beginning of a quoted text shows, and what stands behind.
There is none at the quote that ends it. -/
def readShown? : List Char → Option (Char × List Char)
  | [] | '"' :: _ => none
  | '\\' :: '0' :: rest => some ('\x00', rest)
  | '\\' :: 't' :: rest => some ('\t', rest)
  | '\\' :: 'n' :: rest => some ('\n', rest)
  | '\\' :: 'r' :: rest => some ('\r', rest)
  | '\\' :: 'u' :: '\x7b' :: rest =>
      some (Char.ofNat (CodeTable.codePoint (rest.takeWhile (· != '\x7d'))),
        (rest.dropWhile (· != '\x7d')).drop 1)
  | '\\' :: char :: rest => some (char, rest)
  | char :: rest => some (char, rest)

/-! ## Hexadecimal digits -/

theorem hexadecimalValue?_digitChar {digit : Nat} (small : digit < 16) :
    hexadecimalValue? digit.digitChar = some digit := by
  have all : ∀ digit < 16, hexadecimalValue? (Nat.digitChar digit) = some digit := by decide
  exact all digit small

theorem codePoint_concat {digits : List Char} {last : Nat} (small : last < 16) :
    CodeTable.codePoint (digits ++ [last.digitChar]) =
      16 * CodeTable.codePoint digits + last := by
  simp [CodeTable.codePoint, hexadecimalValue?_digitChar small]

/-- The digits of a number are a single one, or those of a smaller number and one more. -/
theorem hexadecimal_induction {motive : Nat → List Char → Prop}
    (single : ∀ digit < 16, motive digit [digit.digitChar])
    (concat : ∀ value last, last < 16 → motive value (hexadecimal value) →
      motive (16 * value + last) (hexadecimal value ++ [last.digitChar]))
    (value : Nat) : motive value (hexadecimal value) := by
  induction value using Nat.strongRecOn with
  | ind value ih =>
      rcases Nat.lt_or_ge value 16 with small | large
      · rw [hexadecimal, Nat.toDigits_of_lt_base small]
        exact single value small
      · have last : value % 16 < 16 := Nat.mod_lt _ (by decide)
        have longer := concat (value / 16) (value % 16) last (ih (value / 16) (by omega))
        rw [Nat.div_add_mod] at longer
        rw [hexadecimal, Nat.toDigits_of_base_le (by decide) large]
        exact longer

theorem codePoint_hexadecimal (value : Nat) :
    CodeTable.codePoint (hexadecimal value) = value := by
  refine hexadecimal_induction (motive := fun value digits => CodeTable.codePoint digits = value)
    ?single ?concat value
  case single =>
    intro digit small
    rw [← List.nil_append [_], codePoint_concat small]
    exact Nat.zero_add digit
  case concat =>
    intro value last small ih
    rw [codePoint_concat small, ih]

theorem isSome_of_mem_hexadecimal (value : Nat) :
    ∀ digit ∈ hexadecimal value, (hexadecimalValue? digit).isSome := by
  refine hexadecimal_induction
    (motive := fun _ digits => ∀ digit ∈ digits, (hexadecimalValue? digit).isSome)
    ?single ?concat value
  case single =>
    intro last small digit member
    rw [List.mem_singleton.mp member, hexadecimalValue?_digitChar small]
    rfl
  case concat =>
    intro value last small ih digit member
    rcases List.mem_append.mp member with member | member
    · exact ih digit member
    · rw [List.mem_singleton.mp member, hexadecimalValue?_digitChar small]
      rfl

/-! ## One character -/

theorem readShown?_hexadecimal (value : Nat) (rest : List Char) :
    readShown? ('\\' :: 'u' :: '\x7b' :: (hexadecimal value ++ '\x7d' :: rest)) =
      some (Char.ofNat value, rest) := by
  have inside : ∀ digit ∈ hexadecimal value, (digit != '\x7d') = true := by
    intro digit member
    rw [bne_iff_ne]
    rintro rfl
    exact absurd (isSome_of_mem_hexadecimal value _ member) (by decide)
  rw [readShown?, List.takeWhile_append_of_pos inside, List.dropWhile_append_of_pos inside]
  simp [codePoint_hexadecimal]

theorem readShown?_showChar (char : Char) (rest : List Char) :
    readShown? (showChar char ++ rest) = some (char, rest) := by
  unfold showChar
  split
  next zero => subst zero; rfl
  split
  next tab => subst tab; rfl
  split
  next newline => subst newline; rfl
  split
  next carriage => subst carriage; rfl
  split
  next quote => subst quote; rfl
  split
  next backslash => subst backslash; rfl
  split
  · have read := readShown?_hexadecimal char.toNat rest
    rw [Char.ofNat_toNat] at read
    simpa using read
  · rw [List.singleton_append]
    unfold readShown?
    split <;> simp_all

theorem readShown?_quote (rest : List Char) : readShown? ('"' :: rest) = none := by
  rfl

theorem showChar_append_inj {char other : Char} {rest behind : List Char}
    (same : showChar char ++ rest = showChar other ++ behind) :
    char = other ∧ rest = behind := by
  have read := readShown?_showChar char rest
  rw [same, readShown?_showChar] at read
  simpa [eq_comm] using read

/-! ## Whole texts -/

theorem flatMap_showChar_append_inj {chars others rest behind : List Char}
    (same : chars.flatMap showChar ++ '"' :: rest = others.flatMap showChar ++ '"' :: behind) :
    chars = others ∧ rest = behind := by
  induction chars generalizing others with
  | nil =>
      cases others with
      | nil => simpa using same
      | cons other others =>
          -- One text has ended where the other shows a character.
          have read := congrArg readShown? same
          simp [readShown?_quote, readShown?_showChar] at read
  | cons char chars ih =>
      cases others with
      | nil =>
          have read := congrArg readShown? same
          simp [readShown?_quote, readShown?_showChar] at read
      | cons other others =>
          simp only [List.flatMap_cons, List.append_assoc] at same
          obtain ⟨rfl, later⟩ := showChar_append_inj same
          obtain ⟨rfl, rest⟩ := ih later
          exact ⟨rfl, rest⟩

theorem shown_append_inj {text other : String} {rest behind : List Char}
    (same : (shown text).toList ++ rest = (shown other).toList ++ behind) :
    text = other ∧ rest = behind := by
  have chars : text.toList.flatMap showChar ++ '"' :: rest =
      other.toList.flatMap showChar ++ '"' :: behind := by
    simpa [shown] using same
  obtain ⟨equal, rest⟩ := flatMap_showChar_append_inj chars
  exact ⟨String.toList_injective equal, rest⟩

/-! ## Lists of texts -/

theorem intercalate_eq_append_flatMap (mark first : List Char) (others : List (List Char)) :
    mark.intercalate (first :: others) = first ++ others.flatMap (mark ++ ·) := by
  induction others generalizing first with
  | nil => simp
  | cons second others ih =>
      rw [List.intercalate_cons_cons, ih second, List.flatMap_cons, List.append_assoc,
        List.append_assoc]

/-- What is shown of the texts of a list behind the first, up to the brace at the end. -/
def shownBehind (texts : List String) : List Char :=
  texts.flatMap (fun text => ',' :: ' ' :: (shown text).toList) ++ ['\x7d']

theorem toList_shownSet_nil : (shownSet []).toList = ['\x7b', '\x7d'] := by
  rfl

theorem toList_shownSet_cons (text : String) (texts : List String) :
    (shownSet (text :: texts)).toList =
      '\x7b' :: ((shown text).toList ++ shownBehind texts) := by
  simp [shownSet, shownBehind, String.toList_intercalate, intercalate_eq_append_flatMap,
    List.flatMap_map]

theorem shownBehind_injective {texts others : List String}
    (same : shownBehind texts = shownBehind others) : texts = others := by
  induction texts generalizing others with
  | nil =>
      cases others with
      | nil => rfl
      | cons other others => simp [shownBehind] at same
  | cons text texts ih =>
      cases others with
      | nil => simp [shownBehind] at same
      | cons other others =>
          simp only [shownBehind, List.flatMap_cons, List.cons_append, List.append_assoc,
            List.cons.injEq, true_and] at same
          obtain ⟨rfl, later⟩ := shown_append_inj same
          rw [ih later]

/-- Texts listed in braces are known from what is shown. -/
theorem shownSet_injective : Function.Injective shownSet := by
  intro texts others same
  have chars := congrArg String.toList same
  cases texts with
  | nil =>
      cases others with
      | nil => rfl
      | cons other others =>
          simp [toList_shownSet_nil, toList_shownSet_cons, shown] at chars
  | cons text texts =>
      cases others with
      | nil => simp [toList_shownSet_nil, toList_shownSet_cons, shown] at chars
      | cons other others =>
          rw [toList_shownSet_cons, toList_shownSet_cons] at chars
          obtain ⟨rfl, later⟩ := shown_append_inj (List.cons.inj chars).2
          rw [shownBehind_injective later]

end PageSession.Text
