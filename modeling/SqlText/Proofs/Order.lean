import Mathlib.Logic.Basic
import SqlText.Identifier
import SqlText.Proofs.CodePoint

/-! # Identifiers in order

Identifiers are compared by the bytes of their values and then by their quotes. That is comparing code points, and
it is a linear order: a list of identifiers is sorted in one way only. -/

namespace SqlText

namespace Identifier

/-! ## Comparing identifiers -/

def codePoints (i : Identifier) : List Nat := i.value.toList.map Char.toNat

/-- Values first, by the code points of their characters; then quotes, by theirs. -/
def compareCodePoints (a b : Identifier) : Ordering :=
  (compare a.codePoints b.codePoints).then (compare (a.quote.map Char.toNat) (b.quote.map Char.toNat))

theorem bytes_eq (i : Identifier) : i.bytes = i.value.toList.flatMap String.utf8EncodeChar := by
  rw [bytes, String.toUTF8, ← String.utf8Encode_toList, List.utf8Encode, List.data_toByteArray,
    List.toList_toArray]

theorem compare_map_toNat (p q : Option Char) : compare (p.map Char.toNat) (q.map Char.toNat) = compare p q := by
  cases p with
  | none => cases q <;> rfl
  | some c =>
    cases q with
    | none => rfl
    | some d => exact compareOfLessAndEq_congr UInt32.lt_iff_toNat_lt.symm Char.toNat_inj

theorem compare_eq_compareCodePoints (a b : Identifier) : compare a b = compareCodePoints a b := by
  rw [compareCodePoints, compare_map_toNat, codePoints, codePoints, ← compare_utf8EncodeChars, ← bytes_eq, ← bytes_eq]
  rfl

instance : Std.TransOrd Identifier :=
  inferInstanceAs (Std.TransCmp (compareLex (compareOn bytes) (compareOn quote)))

theorem bytes_inj {a b : Identifier} : a.bytes = b.bytes ↔ a.value = b.value := by
  rw [bytes, bytes, Array.toList_inj, ← ByteArray.ext_iff, String.toUTF8, String.toUTF8, String.toByteArray_inj]

instance : Std.LawfulEqOrd Identifier where
  compare_self := Std.ReflOrd.compare_self
  eq_of_compare {a b} h := by
    obtain ⟨hbytes, hquote⟩ : compare a.bytes b.bytes = .eq ∧ compare a.quote b.quote = .eq :=
      Ordering.then_eq_eq.mp h
    have hvalue := bytes_inj.mp (Std.LawfulEqOrd.eq_of_compare hbytes)
    have hquote' := Std.LawfulEqOrd.eq_of_compare hquote
    obtain ⟨v, q⟩ := a
    exact congrArg₂ Identifier.mk hvalue hquote'

theorem compare_eq_eq_iff {a b : Identifier} : compare a b = .eq ↔ a = b := Std.LawfulEqOrd.compare_eq_iff_eq

instance : LT Identifier := ltOfOrd

instance : DecidableLT Identifier := inferInstanceAs (DecidableRel (@LT.lt Identifier ltOfOrd))

variable {a b c : Identifier} {is js : List Identifier}

protected theorem lt_irrefl (a : Identifier) : ¬ a < a := by
  change compare a a ≠ .lt
  rw [Std.ReflOrd.compare_self]
  decide

protected theorem ne_of_lt (h : a < b) : a ≠ b := by
  rintro rfl
  exact a.lt_irrefl h

protected theorem lt_asymm (h : a < b) : ¬ b < a := Std.OrientedCmp.not_lt_of_lt h

protected theorem lt_trans (hab : a < b) (hbc : b < c) : a < c := Std.TransCmp.lt_trans hab hbc

theorem lt_or_eq_or_gt (a b : Identifier) :
    a < b ∧ a ≠ b ∧ ¬ b < a ∨ ¬ a < b ∧ a = b ∧ ¬ b < a ∨ ¬ a < b ∧ a ≠ b ∧ b < a := by
  cases h : compare a b with
  | lt => exact .inl ⟨h, Identifier.ne_of_lt h, Identifier.lt_asymm h⟩
  | eq =>
    obtain rfl := compare_eq_eq_iff.mp h
    exact .inr (.inl ⟨a.lt_irrefl, rfl, a.lt_irrefl⟩)
  | gt =>
    have hlt : b < a := Std.OrientedCmp.lt_of_gt h
    exact .inr (.inr ⟨Identifier.lt_asymm hlt, (Identifier.ne_of_lt hlt).symm, hlt⟩)

/-! ## Sorting -/

theorem le_iff_not_lt : le a b = true ↔ ¬ b < a := by
  change (compare a b).isLE = true ↔ compare b a ≠ .lt
  rw [Std.OrientedOrd.eq_swap (a := b)]
  cases compare a b <;> decide

/-- No member is smaller than one before it. -/
def Ascending (is : List Identifier) : Prop := is.Pairwise fun a b => ¬ b < a

instance (is : List Identifier) : Decidable (Ascending is) := inferInstanceAs (Decidable (List.Pairwise _ _))

theorem sort_perm (is : List Identifier) : (sort is).Perm is := List.mergeSort_perm is le

theorem ascending_sort (is : List Identifier) : Ascending (sort is) := by
  have htrans (a b c : Identifier) (hab : le a b = true) (hbc : le b c = true) : le a c = true :=
    Std.TransOrd.isLE_trans hab hbc
  have htotal (a b : Identifier) : (le a b || le b a) = true := by
    rw [Bool.or_eq_true, le_iff_not_lt, le_iff_not_lt, ← not_and_or]
    rintro ⟨hba, hab⟩
    exact Identifier.lt_asymm hab hba
  exact (List.pairwise_mergeSort htrans htotal is).imp le_iff_not_lt.mp

theorem eq_of_ascending (hi : Ascending is) (hj : Ascending js) (h : is.Perm js) : is = js := by
  refine h.eq_of_pairwise (fun a b _ _ hba hab => ?_) hi hj
  rcases lt_or_eq_or_gt a b with ⟨hlt, -⟩ | ⟨-, heq, -⟩ | ⟨-, -, hgt⟩
  · exact absurd hlt hab
  · exact heq
  · exact absurd hgt hba

theorem sort_eq_iff : sort is = js ↔ is.Perm js ∧ Ascending js := by
  constructor
  · rintro rfl
    exact ⟨(sort_perm is).symm, ascending_sort is⟩
  · rintro ⟨hperm, hj⟩
    exact eq_of_ascending (ascending_sort is) hj ((sort_perm is).trans hperm)

theorem sort_eq_sort_iff : sort is = sort js ↔ is.Perm js := by
  rw [sort_eq_iff, and_iff_left (ascending_sort js)]
  exact ⟨fun h => h.trans (sort_perm js), fun h => h.trans (sort_perm js).symm⟩

/-- Of two identifiers one is smaller unless they are equal, and smaller is transitive; comparing the bytes of the
values is comparing their code points. Sorting finds the only ascending list with the same members, so two lists
are sorted alike exactly if they have the same members. -/
theorem linear_by_code_points :
    (∀ a b : Identifier, a < b ∧ a ≠ b ∧ ¬ b < a ∨ ¬ a < b ∧ a = b ∧ ¬ b < a ∨ ¬ a < b ∧ a ≠ b ∧ b < a) ∧
      (∀ a b : Identifier, compare a b = .eq ↔ a = b) ∧
      (∀ a b c : Identifier, a < b → b < c → a < c) ∧
      (∀ a b : Identifier, compare a b = compareCodePoints a b) ∧
      (∀ is js : List Identifier, sort is = js ↔ is.Perm js ∧ Ascending js) ∧
      ∀ is js : List Identifier, sort is = sort js ↔ is.Perm js :=
  ⟨lt_or_eq_or_gt, fun _ _ => compare_eq_eq_iff, fun _ _ _ => Identifier.lt_trans, compare_eq_compareCodePoints,
    fun _ _ => sort_eq_iff, fun _ _ => sort_eq_sort_iff⟩

/-- A character past 16 bits is larger than U+FFFF, although its first 16-bit unit is smaller. -/
theorem long_character_comes_last :
    let a := bare "\uffff"
    let b := quoted '\"' "\uffff"
    let c := bare "😀"
    a < b ∧ b < c ∧ a < c ∧ sort [c, a, b] = [a, b, c] := by
  intro a b c
  have hab : a < b := by decide
  have hbc : b < c := by decide
  obtain ⟨-, -, htrans, -, hsort, -⟩ := linear_by_code_points
  have hperm : [c, a, b].Perm [a, b, c] := by decide
  have hascending : Ascending [a, b, c] := by decide
  exact ⟨hab, hbc, htrans a b c hab hbc, (hsort _ _).mpr ⟨hperm, hascending⟩⟩

end Identifier

end SqlText
