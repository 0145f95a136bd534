import SqlText.Proofs.Number
import SqlText.Proofs.Quoting
import SqlText.Proofs.RoundTrip

/-! # The kind of a literal shows in its text

Strings start with a quote and the words with a letter of their own. A number that is finite is written with a
point or an exponent if it is a float and without both if it is an integer, so neither is ever read as the
other. Among integers, strings and booleans the text tells the values apart as well. -/

namespace SqlText

/-! ## Integers -/

theorem not_mem_toDigits {c : Char} (hc : c.isDigit = false) (n : Nat) : c ∉ Nat.toDigits 10 n := by
  intro hmem
  have hdigit := Nat.isDigit_of_mem_toDigits (by decide) (by decide) hmem
  rw [hc] at hdigit
  cases hdigit

theorem toString_inj {m n : Int} (h : toString m = toString n) : m = n := by
  -- the minus sign is no digit, so it shows the sign of the number, and the digits show the rest
  have hchars := congrArg String.toList h
  have hminus : ∀ k : Int, '-' ∈ (toString k).toList ↔ k < 0 := by
    intro k
    rw [toList_toString, List.mem_append, or_iff_left (not_mem_toDigits (by decide) _)]
    split <;> simp_all
  have hsign : m < 0 ↔ n < 0 := by rw [← hminus, ← hminus, hchars]
  rw [toList_toString, toList_toString] at hchars
  simp only [hsign] at hchars
  have hdigits := congrArg (Nat.ofDigitChars 10 · 0) (List.append_cancel_left hchars)
  simp only [Nat.ofDigitChars_ten_toDigits] at hdigits
  omega

/-! ## Points and exponents -/

/-- A point or the mark of an exponent. -/
def Fractional (cs : List Char) : Prop := '.' ∈ cs ∨ 'e' ∈ cs

instance (cs : List Char) : Decidable (Fractional cs) := inferInstanceAs (Decidable (_ ∨ _))

theorem not_fractional_toString (n : Int) : ¬ Fractional (toString n).toList := by
  have hchars : ∀ c ∈ (toString n).toList, c = '-' ∨ c ∈ Nat.toDigits 10 n.natAbs := by
    intro c hc
    rw [toList_toString, List.mem_append] at hc
    refine hc.imp_left fun hsign => ?_
    split at hsign
    · exact List.mem_singleton.mp hsign
    · cases hsign
  rintro (hpoint | hmark)
  · exact (hchars _ hpoint).elim (by decide) (not_mem_toDigits (by decide) _)
  · exact (hchars _ hmark).elim (by decide) (not_mem_toDigits (by decide) _)

namespace Binary64

theorem point_mem_positional (ds : List Char) (point : Int) : '.' ∈ positional ds point := by
  unfold positional
  split
  · simp
  split <;> simp

theorem mark_mem_scientific (ds : List Char) (point : Int) : 'e' ∈ scientific ds point := by
  unfold scientific
  exact List.mem_append_right _ List.mem_cons_self

theorem fractional_magnitudeText (x : Binary64) : Fractional x.magnitudeText := by
  unfold magnitudeText Decimal.text
  split
  · decide
  dsimp only
  split
  · exact .inl (point_mem_positional _ _)
  · exact .inr (mark_mem_scientific _ _)

theorem fractional_text (x : Binary64) : Fractional x.text.toList := by
  have hmagnitude := x.fractional_magnitudeText
  unfold text Fractional
  rw [String.toList_ofList]
  split
  · exact hmagnitude.imp (List.mem_cons_of_mem _) (List.mem_cons_of_mem _)
  · exact hmagnitude

end Binary64

/-! ## Kinds -/

namespace Literal

inductive Kind where
  | integer
  | float
  | string
  | boolean
  | null
deriving DecidableEq, Repr

def kind : Literal → Kind
  | integer _ => .integer
  | float _ => .float
  | string _ => .string
  | boolean _ => .boolean
  | null => .null

/-- The kind that a text shows. -/
def kindOfText (s : String) : Kind :=
  if s.toList.head? = some '\'' then .string
  else if s.toList.head? = some 'T' ∨ s.toList.head? = some 'F' then .boolean
  else if s.toList.head? = some 'N' then .null
  else if Fractional s.toList then .float
  else .integer

theorem kindOfText_number {s : String} (h : ∀ c ∈ s.toList, isNumberChar c = true) :
    kindOfText s = if Fractional s.toList then .float else .integer := by
  have hhead {c : Char} (hc : isNumberChar c = false) : s.toList.head? ≠ some c := by
    intro heq
    have := h c (List.mem_of_mem_head? heq)
    rw [hc] at this
    cases this
  unfold kindOfText
  rw [if_neg (hhead (by decide)), if_neg, if_neg (hhead (by decide))]
  rintro (hT | hF)
  · exact hhead (by decide) hT
  · exact hhead (by decide) hF

theorem kindOfText_text {l : Literal} (h : l.IsFinite) : kindOfText l.text = l.kind := by
  cases l with
  | null => decide
  | boolean b => cases b <;> decide
  | integer n =>
    have hchars := (signed_toString n.toInt).isNumberChar
    rw [text, kindOfText_number hchars, if_neg (not_fractional_toString _)]
    rfl
  | float x =>
    have hfinite : x.isFinite = true := h
    have htext : floatText x = x.text := by simp [floatText, Binary64.isNaN, Binary64.isInfinite, hfinite]
    rw [text, htext, kindOfText_number x.isNumberChar_text, if_pos x.fractional_text]
    rfl
  | string s =>
    unfold kindOfText
    rw [if_pos (by simp [text, stringText])]
    rfl

theorem toSql_eq (l : Literal) : toSql l = l.text :=
  String.empty_append

theorem eq_of_text_eq {a b : Literal} (hkind : a.kind = b.kind) (hfloat : a.kind ≠ .float)
    (h : a.text = b.text) : a = b := by
  cases a <;> cases b <;> try cases hkind
  case float.float => exact absurd rfl hfloat
  case integer.integer m n =>
    have hint : m.toInt = n.toInt := toString_inj h
    rw [Int64.toInt_inj.mp hint]
  case string.string s t =>
    have hquoted : Identifier.quotedText '\'' s = Identifier.quotedText '\'' t := by
      rw [← stringText_eq, ← stringText_eq]
      exact h
    rw [Identifier.quotedText_inj.mp hquoted]
  case boolean.boolean b c =>
    have htext : ∀ b c : Bool, (boolean b).text = (boolean c).text → b = c := by decide
    rw [htext b c h]
  case null.null => rfl

/-- Two literals that are written alike, with floats only if they are finite, are of one kind and, floats apart,
have one value. -/
theorem toSql_tells_kinds_apart {a b : Literal} (ha : a.IsFinite) (hb : b.IsFinite) :
    (toSql a = toSql b → a.kind = b.kind) ∧ (a.kind ≠ .float → (toSql a = toSql b ↔ a = b)) := by
  rw [toSql_eq, toSql_eq]
  have hkind : a.text = b.text → a.kind = b.kind := by
    intro h
    rw [← kindOfText_text ha, ← kindOfText_text hb, h]
  refine ⟨hkind, fun hfloat => ⟨fun h => eq_of_text_eq (hkind h) hfloat h, ?_⟩⟩
  rintro rfl
  rfl

/-- Ten to the sixteenth has neither a point nor all of its digits as a float. -/
theorem round_float_is_no_integer :
    let x : Literal := float ⟨0x4341c37937e08000⟩
    let n : Literal := integer 10000000000000000
    x.IsFinite ∧ n.IsFinite ∧ toSql x = "1e16" ∧ toSql n = "10000000000000000" ∧ toSql x ≠ toSql n := by
  intro x n
  have hx : x.IsFinite := by
    change (⟨0x4341c37937e08000⟩ : Binary64).isFinite = true
    decide
  have hn : n.IsFinite := trivial
  refine ⟨hx, hn, by decide +kernel, by decide +kernel, fun h => ?_⟩
  have hkind := (toSql_tells_kinds_apart hx hn).1 h
  cases hkind

/-- The numbers that are not finite are written as strings. -/
example : toSql (float ⟨0x7ff8000000000000⟩) = toSql (string "NaN") := by decide

end Literal

end SqlText
