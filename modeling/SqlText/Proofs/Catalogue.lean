import Mathlib.Algebra.Group.Nat.Defs
import Mathlib.Data.List.Sort
import SqlText.Keyword.Lookup

/-! # What the keyword index finds

The index is asked for the bytes of a word in upper case, and only if there are not too many of them.
It finds what a search of the whole catalogue by text would find: the keyword whose text is the word
with its ASCII letters in upper case. -/

namespace SqlText

namespace Keyword

/-! ## Letters and bytes -/

/-- The codes of the ASCII letters in lower case. -/
def IsLower (code : Nat) : Prop := 0x61 ≤ code ∧ code ≤ 0x7a

instance (code : Nat) : Decidable (IsLower code) := inferInstanceAs (Decidable (_ ∧ _))

theorem toUpper_of_not_isLower {c : Char} (h : ¬ IsLower c.toNat) : c.toUpper = c := by
  unfold Char.toUpper
  rw [dif_neg]
  rw [UInt32.le_iff_toNat_le, UInt32.le_iff_toNat_le]
  exact h

theorem toNat_toUpper {c : Char} (h : IsLower c.toNat) : c.toUpper.toNat = c.toNat - 0x20 := by
  obtain ⟨hlow, hhigh⟩ := h
  unfold Char.toUpper
  rw [dif_pos ⟨UInt32.le_iff_toNat_le.mpr hlow, UInt32.le_iff_toNat_le.mpr hhigh⟩]
  change (c.val + ('A'.val - 'a'.val)).toNat = _
  have hshift : ('A'.val - 'a'.val).toNat = 2 ^ 32 - 0x20 := by decide
  have hval : c.val.toNat = c.toNat := rfl
  rw [UInt32.toNat_add]
  omega

theorem upperByte_of_not_isLower {b : UInt8} (h : ¬ IsLower b.toNat) : upperByte b = b := by
  rw [upperByte, if_neg]
  rwa [UInt8.le_iff_toNat_le, UInt8.le_iff_toNat_le]

theorem upperByte_ofNat : ∀ code ≤ 0x7a, 0x61 ≤ code → upperByte (.ofNat code) = .ofNat (code - 0x20) := by
  decide

theorem utf8EncodeChar_of_le {c : Char} (h : c.toNat ≤ 0x7f) : String.utf8EncodeChar c = [.ofNat c.toNat] :=
  if_pos h

theorem mem_utf8EncodeChar {c : Char} {b : UInt8} (h : b ∈ String.utf8EncodeChar c) :
    b.toNat = c.toNat ∨ 0x80 ≤ b.toNat := by
  have hval : c.val.toNat = c.toNat := rfl
  unfold String.utf8EncodeChar at h
  rw [hval] at h
  dsimp only at h
  split_ifs at h <;> simp only [List.mem_cons, List.not_mem_nil, or_false] at h
  · left
    rw [h, UInt8.toNat_ofNat']
    omega
  all_goals
    right
    rcases h with rfl | rfl | rfl | rfl <;> (rw [UInt8.toNat_ofNat']; omega)

theorem map_upperByte_utf8EncodeChar (c : Char) :
    (String.utf8EncodeChar c).map upperByte = String.utf8EncodeChar c.toUpper := by
  by_cases h : IsLower c.toNat
  · have hupper := toNat_toUpper h
    obtain ⟨hlow, hhigh⟩ := h
    rw [utf8EncodeChar_of_le (by omega), utf8EncodeChar_of_le (by omega), hupper, List.map_singleton,
      upperByte_ofNat _ hhigh hlow]
  · rw [toUpper_of_not_isLower h]
    conv_rhs => rw [← List.map_id (String.utf8EncodeChar c)]
    refine List.map_congr_left fun b hb => upperByte_of_not_isLower fun hlower => ?_
    obtain hbyte | hbyte := mem_utf8EncodeChar hb
    · exact h (hbyte ▸ hlower)
    · exact absurd hlower.2 (by omega)

theorem toByteArray_toUpper (word : String) :
    word.toUpper.toByteArray = ⟨word.toByteArray.data.map upperByte⟩ := by
  apply ByteArray.ext
  rw [← String.utf8Encode_toList, ← String.utf8Encode_toList, String.toUpper, String.toList_map,
    List.utf8Encode, List.utf8Encode, List.data_toByteArray, List.data_toByteArray, List.map_toArray,
    List.map_flatMap, List.flatMap_map]
  simp only [map_upperByte_utf8EncodeChar]

theorem key?_eq (word : String) : key? word = some word.toUpper := by
  rw [key?, String.toUTF8, ← toByteArray_toUpper, String.fromUTF8?, dif_pos word.toUpper.isValidUTF8]
  rfl

theorem utf8ByteSize_toUpper (word : String) : word.toUpper.utf8ByteSize = word.utf8ByteSize := by
  rw [String.utf8ByteSize, toByteArray_toUpper, ByteArray.size, Array.size_map]
  rfl

/-! ## The catalogue -/

/-- The bytes of a text as the digits of a fraction, so that texts are in the order of a dictionary. -/
def dictionaryRank (s : String) : Nat :=
  s.toByteArray.data.toList.foldr (fun b n => (b.toNat * 256 ^ maxLength + n) / 256) 0

theorem nodup_texts : (all.map text).Nodup := by
  -- in dictionary order each text is past the one before it
  have hchain : ((all.map (dictionaryRank ∘ text)).insertionSort (· ≤ ·)).IsChain (· < ·) := by
    decide +kernel
  have hsorted : ((all.map (dictionaryRank ∘ text)).insertionSort (· ≤ ·)).Nodup :=
    hchain.pairwise.imp fun h => h.ne
  have hranks : (all.map (dictionaryRank ∘ text)).Nodup := (List.perm_insertionSort _ _).nodup_iff.mp hsorted
  rw [← List.map_map] at hranks
  exact hranks.of_map

theorem utf8ByteSize_text : ∀ k ∈ all, 1 < k.text.utf8ByteSize ∧ k.text.utf8ByteSize ≤ maxLength := by
  decide +kernel

theorem undefined_not_mem_all : UNDEFINED ∉ all := by
  decide +kernel

/-- A keyword of the catalogue stands at its place in the declaration, so there is no need to search for it. -/
theorem subset_all {ks : List Keyword} (h : ∀ k ∈ ks, all[k.ctorIdx]? = some k) : ks ⊆ all :=
  fun k hk => List.mem_of_getElem? (h k hk)

theorem index_eq_some_iff {key : String} {k : Keyword} : index[key]? = some k ↔ k ∈ all ∧ key = k.text := by
  have hdistinct : (all.map fun k => (k.text, k)).Pairwise fun a b => (a.1 == b.1) = false := by
    rw [List.pairwise_map]
    exact (List.pairwise_map.mp nodup_texts).imp fun h => beq_false_of_ne h
  have hfound : ∀ k ∈ all, index[k.text]? = some k := fun k hk =>
    Std.HashMap.getElem?_ofList_of_mem (beq_self_eq_true k.text) hdistinct
      (List.mem_map.mpr ⟨k, hk, rfl⟩)
  constructor
  · intro h
    by_cases hkey : key ∈ all.map text
    · obtain ⟨k', hk', rfl⟩ := List.mem_map.mp hkey
      obtain rfl : k' = k := Option.some.inj ((hfound k' hk').symm.trans h)
      exact ⟨hk', rfl⟩
    · rw [index, Std.HashMap.getElem?_ofList_of_contains_eq_false] at h
      · cases h
      · rw [List.map_map]
        simpa using hkey
  · rintro ⟨hk, rfl⟩
    exact hfound k hk

/-! ## Looking up -/

/-- `word` is the text of a keyword, in any case of its ASCII letters. -/
def Spelled (word : String) (k : Keyword) : Prop := k ∈ all ∧ word.toUpper = k.text

theorem lookup_eq_some_iff {word : String} {k : Keyword} : lookup word = some k ↔ Spelled word k := by
  rw [lookup, key?_eq, Option.bind_some]
  split
  next hlong =>
    -- a word that is turned away is longer than every text, in upper case too
    simp only [reduceCtorEq, false_iff]
    rintro ⟨hk, htext⟩
    have hle := (utf8ByteSize_text k hk).2
    rw [← htext, utf8ByteSize_toUpper] at hle
    omega
  next => exact index_eq_some_iff

theorem lookup_eq_none_iff {word : String} : lookup word = none ↔ ∀ k, ¬ Spelled word k := by
  rw [Option.eq_none_iff_forall_ne_some]
  exact forall_congr' fun k => not_congr lookup_eq_some_iff

theorem classify_eq_keyword_iff {word : String} {k : Keyword} :
    WordClass.classify word = .keyword k ↔ Spelled word k := by
  rw [← lookup_eq_some_iff, WordClass.classify]
  cases lookup word <;> simp

theorem classify_eq_identifier_iff {word : String} :
    WordClass.classify word = .identifier ↔ ∀ k, ¬ Spelled word k := by
  rw [← lookup_eq_none_iff, WordClass.classify]
  cases lookup word <;> simp

theorem parse_eq_ok_iff {word : String} {k : Keyword} : parse word = .ok k ↔ Spelled word k := by
  rw [← lookup_eq_some_iff, parse]
  cases lookup word <;> simp

theorem parse_eq_error_iff {word : String} {e : WordError} :
    parse word = .error e ↔ e = .unknownKeyword word ∧ ∀ k, ¬ Spelled word k := by
  rw [← lookup_eq_none_iff, parse]
  cases lookup word <;> simp [eq_comm]

/-- Looking a word up, classifying and parsing it all find the keyword it spells, which is never the
marker; a word that spells none is an identifier and refused as it was given. -/
theorem found_iff_spelled (word : String) :
    (∀ k, lookup word = some k ↔ Spelled word k) ∧
      (∀ k, WordClass.classify word = .keyword k ↔ Spelled word k) ∧
      (WordClass.classify word = .identifier ↔ ∀ k, ¬ Spelled word k) ∧
      (∀ k, parse word = .ok k ↔ Spelled word k) ∧
      (∀ e, parse word = .error e ↔ e = .unknownKeyword word ∧ ∀ k, ¬ Spelled word k) ∧
      ¬ Spelled word UNDEFINED :=
  ⟨fun _ => lookup_eq_some_iff, fun _ => classify_eq_keyword_iff, classify_eq_identifier_iff,
    fun _ => parse_eq_ok_iff, fun _ => parse_eq_error_iff, fun h => undefined_not_mem_all h.1⟩

end Keyword

end SqlText
