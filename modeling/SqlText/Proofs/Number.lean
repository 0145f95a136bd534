import SqlText.Proofs.Scan

/-! # The characters of numbers

A number is written with digits, points and the mark of an exponent. A minus sign stands only before
such a numeral: in front of the whole number or behind the mark. So a literal that is not quoted is
one word. -/

namespace SqlText

/-- Only digits, points and exponent marks. -/
def Numeral (cs : List Char) : Prop := ∀ c ∈ cs, c.isDigit = true ∨ c = '.' ∨ c = 'e'

instance (cs : List Char) : Decidable (Numeral cs) := List.decidableBAll _ cs

/-- A numeral that a sign may stand before. -/
def Signed (cs : List Char) : Prop := ∃ ds, Numeral ds ∧ (cs = ds ∨ cs = '-' :: ds)

theorem numeral_append {cs ds : List Char} (hc : Numeral cs) (hd : Numeral ds) : Numeral (cs ++ ds) := by
  intro c h
  exact (List.mem_append.mp h).elim (hc c) (hd c)

theorem numeral_cons {c : Char} {cs : List Char} (hc : c.isDigit = true ∨ c = '.' ∨ c = 'e') (hcs : Numeral cs) :
    Numeral (c :: cs) := by
  intro d h
  rcases List.mem_cons.mp h with rfl | h
  · exact hc
  · exact hcs d h

theorem Numeral.sublist {cs ds : List Char} (hd : Numeral ds) (h : ∀ c ∈ cs, c ∈ ds) : Numeral cs :=
  fun c hc => hd c (h c hc)

theorem numeral_toDigits (n : Nat) : Numeral (Nat.toDigits 10 n) := by
  intro c hc
  exact .inl (Nat.isDigit_of_mem_toDigits (by decide) (by decide) hc)

theorem toList_toString (n : Int) :
    (toString n).toList = (if n < 0 then ['-'] else []) ++ Nat.toDigits 10 n.natAbs := by
  cases n with
  | ofNat m =>
    have hsign : ¬ Int.ofNat m < 0 := Int.not_lt.mpr (Int.natCast_nonneg m)
    rw [if_neg hsign]
    exact Nat.toList_repr
  | negSucc m =>
    have htext : toString (Int.negSucc m) = "-" ++ (m + 1).repr := rfl
    rw [if_pos (Int.negSucc_lt_zero m), htext, String.toList_append, Nat.toList_repr]
    rfl

theorem signed_toString (n : Int) : Signed (toString n).toList := by
  refine ⟨Nat.toDigits 10 n.natAbs, numeral_toDigits _, ?_⟩
  rw [toList_toString]
  split
  · exact .inr rfl
  · exact .inl rfl

theorem toString_ne_empty (n : Int) : toString n ≠ "" := by
  rw [ne_eq, ← String.toList_eq_nil_iff, toList_toString]
  simp [Nat.toDigits_ne_nil]

/-! ## Floats -/

namespace Binary64

theorem numeral_zeros (n : Nat) : Numeral (zeros n) := by
  intro c hc
  obtain rfl := List.eq_of_mem_replicate hc
  exact .inl (by decide)

theorem numeral_stripZeros {ds : List Char} (h : Numeral ds) : Numeral (stripZeros ds) := by
  refine h.sublist fun c hc => ?_
  unfold stripZeros at hc
  have := List.dropWhile_sublist (· = '0') |>.mem (List.mem_reverse.mp hc)
  exact List.mem_reverse.mp this

theorem numeral_positional {ds : List Char} (h : Numeral ds) (point : Int) : Numeral (positional ds point) := by
  have hzero : '0'.isDigit = true ∨ '0' = '.' ∨ '0' = 'e' := by decide
  have hpoint : '.'.isDigit = true ∨ '.' = '.' ∨ '.' = 'e' := by decide
  unfold positional
  split
  · exact numeral_append (numeral_cons hzero (numeral_cons hpoint (numeral_zeros _))) h
  split
  · refine numeral_append (h.sublist fun c => List.mem_of_mem_take) ?_
    exact numeral_cons hpoint (h.sublist fun c => List.mem_of_mem_drop)
  · exact numeral_append (numeral_append h (numeral_zeros _)) (by decide)

theorem positional_ne_nil (ds : List Char) (point : Int) : positional ds point ≠ [] := by
  unfold positional
  split
  · simp
  split <;> simp

theorem scientific_eq {ds : List Char} (h : Numeral ds) (point : Int) :
    ∃ m r, scientific ds point = m ++ r ∧ Numeral m ∧ m ≠ [] ∧ Signed r := by
  have hmark : 'e'.isDigit = true ∨ 'e' = '.' ∨ 'e' = 'e' := by decide
  have hpoint : '.'.isDigit = true ∨ '.' = '.' ∨ '.' = 'e' := by decide
  have hmantissa : ∃ m, scientific ds point = m ++ 'e' :: (toString (point - 1)).toList ∧ Numeral m := by
    rcases ds with _ | ⟨d, _ | ⟨d', rest⟩⟩
    · exact ⟨[], rfl, h⟩
    · exact ⟨[d], rfl, h⟩
    · refine ⟨d :: '.' :: d' :: rest, rfl, numeral_cons (h d List.mem_cons_self) (numeral_cons hpoint ?_)⟩
      exact h.sublist fun c => List.mem_cons_of_mem d
  obtain ⟨m, hm, hnum⟩ := hmantissa
  refine ⟨m ++ ['e'], (toString (point - 1)).toList, ?_, ?_, by simp, signed_toString _⟩
  · rw [hm, List.append_assoc]
    rfl
  · exact numeral_append hnum (numeral_cons hmark (by decide))

theorem magnitudeText_eq (x : Binary64) :
    ∃ m r, x.magnitudeText = m ++ r ∧ Numeral m ∧ m ≠ [] ∧ Signed r := by
  have hnone : Signed [] := ⟨[], by decide, .inl rfl⟩
  unfold magnitudeText
  split
  · exact ⟨['0', '.', '0'], [], rfl, by decide, by decide, hnone⟩
  · have hdigits := numeral_stripZeros (numeral_toDigits x.shortest.digits)
    unfold Decimal.text
    dsimp only
    split
    · exact ⟨_, [], (List.append_nil _).symm, numeral_positional hdigits _, positional_ne_nil _ _, hnone⟩
    · exact scientific_eq hdigits _

theorem text_eq (x : Binary64) :
    ∃ m r, (x.text.toList = m ++ r ∨ x.text.toList = '-' :: (m ++ r)) ∧ Numeral m ∧ m ≠ [] ∧ Signed r := by
  obtain ⟨m, r, hm, h⟩ := x.magnitudeText_eq
  refine ⟨m, r, ?_, h⟩
  rw [text, String.toList_ofList, hm]
  cases x.isNegative with
  | false => exact .inl rfl
  | true => exact .inr rfl

end Binary64

/-- The characters of a number. -/
def isNumberChar (c : Char) : Bool := c.isDigit || c = '.' || c = 'e' || c = '-'

theorem Numeral.isNumberChar {cs : List Char} (h : Numeral cs) : ∀ c ∈ cs, isNumberChar c = true := by
  intro c hc
  rcases h c hc with hdigit | rfl | rfl
  · simp [SqlText.isNumberChar, hdigit]
  · decide
  · decide

theorem Signed.isNumberChar {cs : List Char} (h : Signed cs) : ∀ c ∈ cs, isNumberChar c = true := by
  obtain ⟨ds, hds, rfl | rfl⟩ := h
  · exact hds.isNumberChar
  · exact List.forall_mem_cons.mpr ⟨by decide, hds.isNumberChar⟩

theorem Binary64.isNumberChar_text (x : Binary64) : ∀ c ∈ x.text.toList, isNumberChar c = true := by
  obtain ⟨m, r, htext, hm, -, hr⟩ := x.text_eq
  have hchars : ∀ c ∈ m ++ r, isNumberChar c = true :=
    List.forall_mem_append.mpr ⟨hm.isNumberChar, hr.isNumberChar⟩
  rcases htext with htext | htext
  · rwa [htext]
  · rw [htext]
    exact List.forall_mem_cons.mpr ⟨by decide, hchars⟩

/-! ## Literals -/

/-- The characters of a literal that is not quoted. -/
def isLiteralChar (c : Char) : Bool := c.isAlphanum || c = '.' || c = '-'

theorem ne_of_isLiteralChar {c : Char} (h : isLiteralChar c = true) :
    c ≠ ' ' ∧ c ≠ '(' ∧ c ≠ ')' ∧ isQuote c = false := by
  have hne : c ≠ ' ' ∧ c ≠ '(' ∧ c ≠ ')' ∧ c ≠ '"' ∧ c ≠ '\'' ∧ c ≠ '\x60' ∧ c ≠ '[' := by
    refine ⟨?_, ?_, ?_, ?_, ?_, ?_, ?_⟩ <;> rintro rfl <;> revert h <;> decide
  obtain ⟨hspace, hopen, hclose, hquotes⟩ := hne
  exact ⟨hspace, hopen, hclose, by simp [isQuote, hquotes]⟩

theorem isLiteralChar_of_isNumberChar {c : Char} (h : isNumberChar c = true) : isLiteralChar c = true := by
  have hchar : ((c.isDigit = true ∨ c = '.') ∨ c = 'e') ∨ c = '-' := by simpa [isNumberChar] using h
  rcases hchar with ((hdigit | rfl) | rfl) | rfl
  · simp [isLiteralChar, Char.isAlphanum, hdigit]
  · decide
  · decide
  · decide

namespace Literal

/-- A nonempty run of such characters. -/
def IsPlain (s : String) : Prop := s ≠ "" ∧ ∀ c ∈ s.toList, isLiteralChar c = true

instance (s : String) : Decidable (IsPlain s) :=
  haveI : Decidable (∀ c ∈ s.toList, isLiteralChar c = true) := List.decidableBAll _ s.toList
  inferInstanceAs (Decidable (_ ∧ _))

theorem isPlain_binary64 (x : Binary64) : IsPlain x.text := by
  obtain ⟨m, r, htext, -, hne, -⟩ := x.text_eq
  refine ⟨?_, fun c hc => isLiteralChar_of_isNumberChar (x.isNumberChar_text c hc)⟩
  rw [ne_eq, ← String.toList_eq_nil_iff]
  rcases htext with h | h <;> simp [h, hne]

theorem quoted_or_plain (l : Literal) :
    (∃ v, l.text = Identifier.quotedText '\'' v) ∨ IsPlain l.text := by
  cases l with
  | null => exact .inr (by decide)
  | boolean b => cases b <;> exact .inr (by decide)
  | integer n =>
    have hchars := (signed_toString n.toInt).isNumberChar
    exact .inr ⟨toString_ne_empty _, fun c hc => isLiteralChar_of_isNumberChar (hchars c hc)⟩
  | string s => exact .inl ⟨s, stringText_eq s⟩
  | float x =>
    rw [text, floatText]
    split
    · exact .inl ⟨"NaN", by decide⟩
    split
    · split
      · exact .inl ⟨"-Infinity", by decide⟩
      · exact .inl ⟨"Infinity", by decide⟩
    · exact .inr (isPlain_binary64 x)

end Literal

end SqlText
