import PageSession.Json.Layout
import PageSession.Proofs.Json.Writing

/-!
# The layout of a text does not matter

Written in lines, a value has the same tokens as in its compact text: what a line
begins with are blanks, which stand between tokens only.
-/

namespace PageSession.Json

theorem tokens_blank (chars : List Char) :
    Scan.between.tokens (' ' :: chars) = Scan.between.tokens chars := rfl

theorem tokens_lineBreak (depth : Nat) (rest : List Char) :
    Scan.between.tokens (lineBreak depth ++ rest) = Scan.between.tokens rest := by
  have blanks : ∀ count, Scan.between.tokens (List.replicate count ' ' ++ rest) =
      Scan.between.tokens rest := by
    intro count
    induction count with
    | zero => rfl
    | succ count ih => rw [List.replicate_succ, List.cons_append, tokens_blank, ih]
  exact blanks (2 * depth)

theorem tokens_lastBreak (depth : Nat) (empty : Bool) (rest : List Char) :
    Scan.between.tokens (lastBreak depth empty ++ rest) = Scan.between.tokens rest := by
  cases empty with
  | true => rfl
  | false => exact tokens_lineBreak depth rest

theorem delimited_lastBreak (depth : Nat) (empty : Bool) {rest : List Char}
    (delimited : Delimited rest) : Delimited (lastBreak depth empty ++ rest) := by
  cases empty with
  | true => exact delimited
  | false => simp [lastBreak, lineBreak, Delimited]

mutual

theorem tokens_linedChars (depth : Nat) (value : Value) (narrow : value.Narrow)
    (exact : value.Exact) {rest : List Char} (delimited : Delimited rest) :
    Scan.between.tokens (value.linedChars depth ++ rest) =
      value.tokens ++ Scan.between.tokens rest := by
  match value with
  | .null | .bool _ | .number _ | .string _ =>
      simpa only [Value.linedChars] using tokens_chars _ narrow exact delimited
  | .array items =>
      have closing := delimited_lastBreak depth items.isEmpty (delimited_closeArray rest)
      have inner := tokens_itemsLined (depth + 1) items (narrow_array.mp narrow)
        (exact_array.mp exact) closing
      simp only [Value.linedChars, Value.tokens, List.cons_append, List.append_assoc,
        tokens_openArray, List.nil_append, inner, tokens_lastBreak, tokens_closeArray]
  | .object members =>
      have closing := delimited_lastBreak depth members.isEmpty (delimited_closeObject rest)
      have inner := tokens_membersLined (depth + 1) members (narrow_object.mp narrow)
        (exact_object.mp exact) closing
      simp only [Value.linedChars, Value.tokens, List.cons_append, List.append_assoc,
        tokens_openObject, List.nil_append, inner, tokens_lastBreak, tokens_closeObject]

theorem tokens_itemsLined (depth : Nat) (items : List Value)
    (narrow : ∀ item ∈ items, item.Narrow) (exact : ∀ item ∈ items, item.Exact)
    {rest : List Char} (delimited : Delimited rest) :
    Scan.between.tokens (itemsLined depth items ++ rest) =
      itemsTokens items ++ Scan.between.tokens rest := by
  match items with
  | [] => rfl
  | [item] =>
      have first := tokens_linedChars depth item (narrow _ List.mem_cons_self)
        (exact _ List.mem_cons_self) delimited
      simp [itemsLined, itemsTokens, commaBefore, tokens_lineBreak, first]
  | item :: next :: others =>
      obtain ⟨narrow, narrowLater⟩ := List.forall_mem_cons.mp narrow
      obtain ⟨exact, exactLater⟩ := List.forall_mem_cons.mp exact
      have first := tokens_linedChars depth item narrow exact
        (delimited_comma (itemsLined depth (next :: others) ++ rest))
      have later := tokens_itemsLined depth (next :: others) narrowLater exactLater delimited
      rw [itemsLined, itemsTokens_cons item (List.cons_ne_nil next others)]
      simp only [commaBefore, List.isEmpty_cons, Bool.false_eq_true, if_false, List.append_assoc,
        List.cons_append, List.nil_append, tokens_lineBreak, first, tokens_comma, later]

theorem tokens_membersLined (depth : Nat) (members : List (String × Value))
    (narrow : ∀ member ∈ members, member.2.Narrow)
    (exact : ∀ member ∈ members, member.2.Exact) {rest : List Char}
    (delimited : Delimited rest) :
    Scan.between.tokens (membersLined depth members ++ rest) =
      membersTokens members ++ Scan.between.tokens rest := by
  match members with
  | [] => rfl
  | [(key, value)] =>
      have first := tokens_linedChars depth value (narrow _ List.mem_cons_self)
        (exact _ List.mem_cons_self) delimited
      simp [membersLined, membersTokens, commaBefore, tokens_lineBreak, tokens_quotedChars,
        tokens_colon, tokens_blank, first]
  | (key, value) :: next :: others =>
      obtain ⟨narrow, narrowLater⟩ := List.forall_mem_cons.mp narrow
      obtain ⟨exact, exactLater⟩ := List.forall_mem_cons.mp exact
      have first := tokens_linedChars depth value narrow exact
        (delimited_comma (membersLined depth (next :: others) ++ rest))
      have later := tokens_membersLined depth (next :: others) narrowLater exactLater delimited
      rw [membersLined, membersTokens_cons key value (List.cons_ne_nil next others)]
      simp only [commaBefore, List.isEmpty_cons, Bool.false_eq_true, if_false, List.append_assoc,
        List.cons_append, List.nil_append, tokens_lineBreak, tokens_quotedChars, tokens_colon,
        tokens_blank, first, tokens_comma, later]

end

theorem scan_linedText {value : Value} (narrow : value.Narrow) (exact : value.Exact) :
    Token.scan value.linedText = value.tokens := by
  have tokens := tokens_linedChars 0 value narrow exact (show Delimited [] by simp [Delimited])
  simpa [Token.scan, Value.linedText, Scan.tokens, Scan.finish] using tokens

end PageSession.Json
