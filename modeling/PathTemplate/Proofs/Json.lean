/-
# PathTemplate.Proofs.Json — what is written as JSON is read back.

A written value ends where its own text says so, at a quote or a bracket. So a reader takes exactly that value off
the front of a text, whatever follows it. `Takes` says this of any reader; here it is shown of strings, for every
character that may stand in one, and of lists of items between brackets.
-/
import PathTemplate.Json.Quoted
import PathTemplate.Proofs.Reader

namespace PathTemplate

/-- Whatever follows, the reader takes exactly the text and gives the value. -/
def Reader.Takes (x : Reader α) (t : Text) (a : α) : Prop := ∀ u, x.result (t ++ u) = some (a, u)

/-- What is read first decides how the rest is read. -/
theorem Reader.result_bind_of_result {x : Reader α} {f : α → Reader β} {t rest : Text} {a : α}
    (h : x.result t = some (a, rest)) : (x >>= f).result t = (f a).result rest := by
  rw [result_bind, h, Option.bind_some]

namespace Json

open PathTemplate.Reader

/-! ## Strings -/

theorem hexValue_hexDigit : ∀ n < 16, Text.isHexDigit (hexDigit n) = true ∧ Text.hexValue (hexDigit n) = n := by
  decide

/-- A control below the blank is written by its code. -/
theorem result_escapedChar_code {n : Nat} (hn : n < 0x20) (t : Text) :
    escapedChar.result ('u' :: '0' :: '0' :: hexDigit (n / 16) :: hexDigit (n % 16) :: t) =
      some (Char.ofNat n, t) := by
  obtain ⟨hhigh, hhighValue⟩ := hexValue_hexDigit (n / 16) (by omega)
  obtain ⟨hlow, hlowValue⟩ := hexValue_hexDigit (n % 16) (by omega)
  have hzero : Text.isHexDigit '0' = true ∧ Text.hexValue '0' = 0 := by decide
  have hnumber : Text.hexNumber ['0', '0', hexDigit (n / 16), hexDigit (n % 16)] = n := by
    simp only [Text.hexNumber, List.foldl_cons, List.foldl_nil, hzero.2, hhighValue, hlowValue]
    omega
  have hunit : codeUnit.result ('0' :: '0' :: hexDigit (n / 16) :: hexDigit (n % 16) :: t) = some (n, t) := by
    simp [codeUnit, hzero.1, hhigh, hlow, hnumber]
  have hsurrogate : ¬ (0xD800 ≤ n ∧ n < 0xDC00) := by omega
  have hplain : n < 0xDC00 ∨ 0xE000 ≤ n := by omega
  simp [escapedChar, codedChar, hunit, hsurrogate, hplain]

theorem result_stringRest_cons {c : Char} (hc : c ≠ '"') (t : Text) :
    result stringRest (c :: t) = ((stringChar c).result t).bind fun (d, rest) =>
      (result stringRest rest).map fun (ds, rest') => (d :: ds, rest') := by
  unfold result
  rw [stringRest, if_neg hc]
  cases stringChar c t with
  | none => rfl
  | some found =>
    obtain ⟨d, rest⟩ := found
    dsimp only [Option.map_some, Option.bind_some]
    cases stringRest rest.val <;> rfl

/-- A character of a string is read back from what it is written as. -/
theorem result_stringRest_quotedChar (c : Char) (t : Text) :
    result stringRest (quotedChar c ++ t) = (result stringRest t).map fun (ds, rest) => (c :: ds, rest) := by
  unfold quotedChar
  split
  case h_8 hquote hbackslash _ _ _ _ _ =>
    split
    · rename_i hcontrol
      rw [List.cons_append, result_stringRest_cons (by decide), stringChar, if_pos rfl]
      simp [result_escapedChar_code hcontrol]
    · rename_i hcontrol
      have hread : (stringChar c).result t = some (c, t) := by
        rw [stringChar, if_neg hbackslash]
        simp [Nat.le_of_not_lt hcontrol]
      rw [List.cons_append, List.nil_append, result_stringRest_cons hquote, hread, Option.bind_some]
  all_goals
    rw [List.cons_append, result_stringRest_cons (by decide)]
    rfl

/-- The rest of a string is read up to its closing quote. -/
theorem takes_stringRest (t : Text) : Takes stringRest (t.flatMap quotedChar ++ ['"']) t := by
  intro u
  induction t with
  | nil =>
    unfold result
    rw [List.flatMap_nil, List.nil_append, List.cons_append, stringRest, if_pos rfl]
    rfl
  | cons c t ih =>
    rw [List.flatMap_cons, List.append_assoc, List.append_assoc, result_stringRest_quotedChar, ← List.append_assoc, ih]
    rfl

/-! ## Blanks and signs -/

theorem result_blanks_cons {c : Char} (hc : isBlank c = false) (t : Text) :
    blanks.result (c :: t) = some ((), c :: t) := by
  simp [blanks, hc]

theorem result_sign_cons {c : Char} (hc : isBlank c = false) (t : Text) :
    (sign c).result (c :: t) = some ((), t) := by
  simp [sign, result_blanks_cons hc]

theorem takes_string (t : Text) : string.Takes (quoted t) t := by
  intro u
  have hblanks : blanks.result (quoted t ++ u) = some ((), quoted t ++ u) := result_blanks_cons (by decide) _
  have hquote : (expect '"').result (quoted t ++ u) = some ((), t.flatMap quotedChar ++ ['"'] ++ u) := by
    rw [quoted, List.cons_append, List.cons_append, result_expect_cons, if_pos rfl]
  exact (result_bind_of_result hblanks).trans ((result_bind_of_result hquote).trans (takes_stringRest t u))

/-! ## Objects -/

/-- After an item comes the end of the list, a comma, or nothing that may stand there. -/
theorem result_items_of_result {item : Reader α} {closing c : Char} {a : α} {t rest : Text}
    (hitem : item.result t = some (a, c :: rest)) (hblank : isBlank c = false) :
    result (items item closing) t =
      if c = closing then some ([a], rest)
      else if c = ',' then (result (items item closing) rest).map fun (as, rest') => (a :: as, rest')
      else none := by
  obtain ⟨⟨b, remainder⟩, hfound, heq⟩ := Option.map_eq_some_iff.1 hitem
  obtain ⟨rfl, hremainder⟩ := Prod.mk.inj heq
  have hdrop : remainder.val.dropWhile isBlank = c :: rest := by
    rw [hremainder, List.dropWhile_cons_of_neg (by simp [hblank])]
  unfold result
  rw [items, hfound]
  dsimp only
  split
  · rename_i hnil
    rw [hdrop] at hnil
    simp at hnil
  · rename_i hcons
    obtain ⟨rfl, rfl⟩ := List.cons.inj (hcons.symm.trans hdrop)
    split
    · rfl
    · split
      · cases items item closing _ <;> rfl
      · rfl

section

variable {item : Reader α} {write : β → Text} {value : β → α} {bs : List β}

theorem takes_items (hitem : ∀ b ∈ bs, item.Takes (write b) (value b)) (hne : bs ≠ []) :
    Takes (items item '}') (List.intercalate [','] (bs.map write) ++ ['}']) (bs.map value) := by
  intro u
  induction bs with
  | nil => exact absurd rfl hne
  | cons b bs ih =>
    have hb := hitem b List.mem_cons_self
    cases bs with
    | nil =>
      have htext : List.intercalate [','] ([b].map write) ++ ['}'] ++ u = write b ++ '}' :: u := by
        simp [List.intercalate]
      rw [htext, result_items_of_result (hb _) (by decide), if_pos rfl]
      rfl
    | cons d bs =>
      have htext : List.intercalate [','] ((b :: d :: bs).map write) ++ ['}'] ++ u =
          write b ++ ',' :: (List.intercalate [','] ((d :: bs).map write) ++ ['}'] ++ u) := by
        simp [List.intercalate]
      have hrest := ih (fun other hother => hitem other (List.mem_cons_of_mem _ hother)) (by simp)
      rw [htext, result_items_of_result (hb _) (by decide), if_neg (by decide), if_pos rfl, hrest]
      rfl

/-- An object whose entries begin with a quote, as names do. -/
theorem takes_object (hitem : ∀ b ∈ bs, item.Takes (write b) (value b))
    (hquote : ∀ b ∈ bs, (write b).head? = some '"') :
    (bracketed '{' '}' item).Takes ('{' :: List.intercalate [','] (bs.map write) ++ ['}']) (bs.map value) := by
  intro u
  have htext : '{' :: List.intercalate [','] (bs.map write) ++ ['}'] ++ u =
      '{' :: (List.intercalate [','] (bs.map write) ++ ['}'] ++ u) := rfl
  rw [htext, bracketed, result_bind_of_result (result_sign_cons (by decide) _)]
  cases bs with
  | nil => rfl
  | cons b bs =>
    obtain ⟨first, hfirst⟩ := List.head?_eq_some_iff.1 (hquote b List.mem_cons_self)
    obtain ⟨t, ht⟩ : ∃ t, List.intercalate [','] ((b :: bs).map write) ++ ['}'] ++ u = '"' :: t := by
      cases bs <;> exact ⟨_, by simp [List.intercalate, hfirst]; rfl⟩
    have hitems := takes_items hitem (by simp) u
    have hskip : (skip '}').result ('"' :: t) = some (false, '"' :: t) := by
      rw [result_skip_cons, if_neg (by decide)]
    rw [ht] at hitems ⊢
    rw [result_bind_of_result (result_blanks_cons (by decide) t), result_bind_of_result hskip]
    exact hitems

end

end Json

end PathTemplate
