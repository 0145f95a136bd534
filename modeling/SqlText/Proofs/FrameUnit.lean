import SqlText.FrameUnit
import SqlText.Proofs.Catalogue

/-! # Reading a frame unit

A unit is looked for among all keywords by their text and written by the name of its keyword. For the three
units both are the same word, so what is written is read back, in any case of its ASCII letters, and nothing
else is read. -/

namespace SqlText.FrameUnit

open Keyword (Spelled)

variable {word : String} {u : FrameUnit}

theorem keyword_mem_all (u : FrameUnit) : u.keyword ∈ Keyword.all := by
  have hsubset : [Keyword.ROWS, .RANGE, .GROUPS] ⊆ Keyword.all := Keyword.subset_all (by decide +kernel)
  apply hsubset
  cases u <;> decide

theorem text_keyword (u : FrameUnit) : u.keyword.text = u.text := by
  cases u <;> decide

theorem toUpper_text (u : FrameUnit) : u.text.toUpper = u.text := by
  rw [← String.toList_inj, String.toUpper, String.toList_map]
  cases u <;> decide

theorem toSql_eq (u : FrameUnit) : toSql u = u.text :=
  String.empty_append

theorem spelled_keyword_iff : Spelled word u.keyword ↔ word.toUpper = u.text := by
  unfold Spelled
  rw [and_iff_right u.keyword_mem_all, u.text_keyword]

theorem parse_eq (word : String) :
    (∃ u : FrameUnit, Keyword.parse word = .ok u.keyword ∧ parse word = .ok u) ∨
      (∀ u : FrameUnit, Keyword.parse word ≠ .ok u.keyword) ∧ parse word = .error (.unknownFrameUnit word) := by
  unfold parse
  split
  next h => exact .inl ⟨rows, h, rfl⟩
  next h => exact .inl ⟨range, h, rfl⟩
  next h => exact .inl ⟨groups, h, rfl⟩
  next hrows hrange hgroups =>
    refine .inr ⟨fun u => ?_, rfl⟩
    cases u with
    | rows => exact hrows
    | range => exact hrange
    | groups => exact hgroups

theorem keyword_inj {u v : FrameUnit} (h : u.keyword = v.keyword) : u = v := by
  revert h
  cases u <;> cases v <;> decide

theorem parse_eq_ok_iff : parse word = .ok u ↔ word.toUpper = u.text := by
  rw [← spelled_keyword_iff, ← Keyword.parse_eq_ok_iff]
  rcases parse_eq word with ⟨v, hkeyword, hparse⟩ | ⟨hkeyword, hparse⟩
  · rw [hkeyword, hparse]
    constructor
    · rintro ⟨⟩
      rfl
    · intro h
      rw [keyword_inj (Except.ok.inj h)]
  · rw [hparse]
    constructor
    · rintro ⟨⟩
    · intro h
      exact absurd h (hkeyword u)

theorem parse_eq_error_iff {e : WordError} :
    parse word = .error e ↔ e = .unknownFrameUnit word ∧ ∀ u : FrameUnit, word.toUpper ≠ u.text := by
  rcases parse_eq word with ⟨v, -, hparse⟩ | ⟨hkeyword, hparse⟩
  · have hword := parse_eq_ok_iff.mp hparse
    rw [hparse]
    constructor
    · rintro ⟨⟩
    · rintro ⟨-, hnone⟩
      exact absurd hword (hnone v)
  · have hnone : ∀ u : FrameUnit, word.toUpper ≠ u.text := by
      intro u hword
      exact hkeyword u (Keyword.parse_eq_ok_iff.mpr (spelled_keyword_iff.mpr hword))
    rw [hparse]
    constructor
    · rintro ⟨⟩
      exact ⟨rfl, hnone⟩
    · rintro ⟨rfl, -⟩
      rfl

/-- The text of a unit, in any case of its ASCII letters, is read as that unit, and every other word is refused
as no unit, whatever else it may be. -/
theorem parse_iff_casing (word : String) :
    (∀ u, parse word = .ok u ↔ word.toUpper = u.text) ∧
      (∀ e, parse word = .error e ↔ e = .unknownFrameUnit word ∧ ∀ u : FrameUnit, word.toUpper ≠ u.text) ∧
      ∀ u, parse word = .ok u ↔ word.toUpper = (toSql u).toUpper := by
  refine ⟨fun _ => parse_eq_ok_iff, fun _ => parse_eq_error_iff, fun u => ?_⟩
  rw [u.toSql_eq, u.toUpper_text]
  exact parse_eq_ok_iff

end SqlText.FrameUnit
