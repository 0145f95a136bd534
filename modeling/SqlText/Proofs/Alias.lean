import SqlText.Dialect
import SqlText.Proofs.Catalogue

/-! # Words that may start an alias

A parser that looks for an alias sees one word and asks the dialect about its keyword. The answer is no
for the words that spell a reserved keyword, in any case of their ASCII letters, and for no others. -/

namespace SqlText

namespace Keyword

variable {word : String} {k : Keyword} {ks : List Keyword}

theorem toKeyword_classify_eq_iff (hk : k ∈ all) :
    (WordClass.classify word).toKeyword = k ↔ word.toUpper = k.text := by
  have hspelled : WordClass.classify word = .keyword k ↔ word.toUpper = k.text := by
    rw [classify_eq_keyword_iff, Spelled, and_iff_right hk]
  rw [← hspelled]
  cases WordClass.classify word with
  | keyword k' => simp [WordClass.toKeyword]
  | identifier =>
    have hmarker : UNDEFINED ≠ k := by
      rintro rfl
      exact undefined_not_mem_all hk
    simpa [WordClass.toKeyword] using hmarker

theorem contains_toKeyword_iff (hks : ks ⊆ all) :
    ks.contains (WordClass.classify word).toKeyword = true ↔ ∃ k ∈ ks, word.toUpper = k.text := by
  rw [List.contains_iff_mem]
  constructor
  · intro h
    exact ⟨_, h, (toKeyword_classify_eq_iff (hks h)).mp rfl⟩
  · rintro ⟨k, hk, htext⟩
    rwa [(toKeyword_classify_eq_iff (hks hk)).mpr htext]

theorem reservedForColumnAlias_subset : reservedForColumnAlias ⊆ all :=
  subset_all (by decide +kernel)

theorem reservedForTableAlias_subset : reservedForTableAlias ⊆ all :=
  subset_all (by decide +kernel)

end Keyword

namespace Dialect

open Keyword

/-- Whether a word after a selected item may start its alias. -/
def startsColumnAlias (d : Dialect) (word : String) : Bool := d.isColumnAlias (WordClass.classify word).toKeyword

/-- Whether a word after a table may start its alias. -/
def startsTableAlias (d : Dialect) (word : String) : Bool := d.isTableAlias (WordClass.classify word).toKeyword

theorem generic_startsColumnAlias_eq_false_iff (word : String) :
    generic.startsColumnAlias word = false ↔ ∃ k ∈ reservedForColumnAlias, word.toUpper = k.text := by
  rw [← contains_toKeyword_iff reservedForColumnAlias_subset]
  simp only [startsColumnAlias, generic, isReservedForColumnAlias, Bool.not_eq_false']

theorem generic_startsTableAlias_eq_false_iff (word : String) :
    generic.startsTableAlias word = false ↔ ∃ k ∈ reservedForTableAlias, word.toUpper = k.text := by
  rw [← contains_toKeyword_iff reservedForTableAlias_subset]
  simp only [startsTableAlias, generic, isReservedForTableAlias, Bool.not_eq_false']

theorem joinAlias_startsTableAlias_ne_iff (word : String) :
    joinAlias.startsTableAlias word ≠ generic.startsTableAlias word ↔ word.toUpper = JOIN.text := by
  have hmem : JOIN ∈ reservedForTableAlias := by decide
  have hreserved : JOIN.isReservedForTableAlias = true := List.contains_iff_mem.mpr hmem
  rw [← toKeyword_classify_eq_iff (reservedForTableAlias_subset hmem)]
  unfold startsTableAlias
  generalize (WordClass.classify word).toKeyword = k
  by_cases hk : k = .JOIN
  · subst hk
    simp [joinAlias, generic, hreserved]
  · simp [joinAlias, generic, hk]

/-- One word settles it: no alias starts with a casing of a reserved keyword, after a selected item or
after a table, and every other word starts one, so a word outside the catalogue starts both kinds.
Brackets as quotes change neither answer; a table that may be called `join` changes the answer after a
table, and for the casings of that word alone. -/
theorem startsAlias_iff_not_reserved (word : String) :
    (generic.startsColumnAlias word = false ↔ ∃ k ∈ reservedForColumnAlias, word.toUpper = k.text) ∧
      (generic.startsTableAlias word = false ↔ ∃ k ∈ reservedForTableAlias, word.toUpper = k.text) ∧
      ((∀ k, ¬ Spelled word k) →
        generic.startsColumnAlias word = true ∧ generic.startsTableAlias word = true) ∧
      bracket.startsColumnAlias word = generic.startsColumnAlias word ∧
      bracket.startsTableAlias word = generic.startsTableAlias word ∧
      joinAlias.startsColumnAlias word = generic.startsColumnAlias word ∧
      (joinAlias.startsTableAlias word ≠ generic.startsTableAlias word ↔ word.toUpper = "JOIN") := by
  have hcolumn := generic_startsColumnAlias_eq_false_iff word
  have htable := generic_startsTableAlias_eq_false_iff word
  refine ⟨hcolumn, htable, fun hword => ⟨?_, ?_⟩, rfl, rfl, rfl, joinAlias_startsTableAlias_ne_iff word⟩
  · rw [← Bool.not_eq_false, hcolumn]
    rintro ⟨k, hk, htext⟩
    exact hword k ⟨reservedForColumnAlias_subset hk, htext⟩
  · rw [← Bool.not_eq_false, htable]
    rintro ⟨k, hk, htext⟩
    exact hword k ⟨reservedForTableAlias_subset hk, htext⟩

theorem overlong_word_starts_alias :
    let word := "current_transform_group_for_types"
    (∀ k, ¬ Spelled word k) ∧ generic.startsColumnAlias word = true ∧ generic.startsTableAlias word = true := by
  -- one letter more than the longest keyword has
  intro word
  have hnone : lookup word = none := if_pos (by decide)
  have hword := lookup_eq_none_iff.mp hnone
  exact ⟨hword, (startsAlias_iff_not_reserved word).2.2.1 hword⟩

end Dialect

end SqlText
