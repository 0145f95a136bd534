import Mathlib.Algebra.Group.Nat.Defs
import Mathlib.Tactic.SplitIfs

/-! # Code points and their bytes

The bytes of a character are its code point in base 64. Characters with equally many bytes compare digit by digit;
of two others the longer one has the larger first byte and the larger code point. So comparing the bytes of two
texts is comparing their code points. -/

namespace SqlText

/-! ## Numbers and their bytes -/

theorem compareOfLessAndEq_congr {α β : Type} [LT α] [LT β] [DecidableLT α] [DecidableLT β] [DecidableEq α]
    [DecidableEq β] {a b : α} {c d : β} (hlt : a < b ↔ c < d) (heq : a = b ↔ c = d) :
    compareOfLessAndEq a b = compareOfLessAndEq c d := by
  simp only [compareOfLessAndEq, hlt, heq]

variable {mark k m n : Nat}

theorem compare_ofNat (hm : m < 256) (hn : n < 256) : compare (UInt8.ofNat m) (UInt8.ofNat n) = compare m n := by
  have hm' : (UInt8.ofNat m).toNat = m := Nat.mod_eq_of_lt hm
  have hn' : (UInt8.ofNat n).toNat = n := Nat.mod_eq_of_lt hn
  apply compareOfLessAndEq_congr
  · rw [UInt8.lt_iff_toNat_lt, hm', hn']
  · rw [← UInt8.toNat_inj, hm', hn']

theorem compare_add_right (m n mark : Nat) : compare (m + mark) (n + mark) = compare m n :=
  compareOfLessAndEq_congr Nat.add_lt_add_iff_right Nat.add_right_cancel_iff

theorem compare_div_then_mod (m n : Nat) :
    (compare (m / 64) (n / 64)).then (compare (m % 64) (n % 64)) = compare m n := by
  rcases Nat.lt_trichotomy (m / 64) (n / 64) with hlt | heq | hgt
  · have h : m < n := by omega
    rw [Nat.compare_eq_lt.mpr hlt, Nat.compare_eq_lt.mpr h, Ordering.lt_then]
  · rw [Nat.compare_eq_eq.mpr heq, Ordering.eq_then]
    exact compareOfLessAndEq_congr (by omega) (by omega)
  · have h : n < m := by omega
    rw [Nat.compare_eq_gt.mpr hgt, Nat.compare_eq_gt.mpr h, Ordering.gt_then]

/-- A number in base 64 with `k` digits behind the first, which is as large as it gets: `mark` is added to the
first digit and 128 to each of the others. -/
def digitBytes (mark : Nat) : Nat → Nat → List UInt8
  | 0, n => [.ofNat (n + mark)]
  | k + 1, n => digitBytes mark k (n / 64) ++ [.ofNat (n % 64 + 0x80)]

theorem digitBytes_eq_cons (mark k n : Nat) :
    ∃ digits, digitBytes mark k n = .ofNat (n / 64 ^ k + mark) :: digits := by
  induction k generalizing n with
  | zero => exact ⟨[], by rw [digitBytes, Nat.pow_zero, Nat.div_one]⟩
  | succ k ih =>
    obtain ⟨digits, h⟩ := ih (n / 64)
    refine ⟨digits ++ [.ofNat (n % 64 + 0x80)], ?_⟩
    rw [digitBytes, h, List.cons_append, Nat.div_div_eq_div_mul, ← Nat.pow_succ']

theorem compare_digitBytes (hm : m / 64 ^ k + mark < 256) (hn : n / 64 ^ k + mark < 256) (r s : List UInt8) :
    compare (digitBytes mark k m ++ r) (digitBytes mark k n ++ s) = (compare m n).then (compare r s) := by
  induction k generalizing m n r s with
  | zero =>
    rw [Nat.pow_zero, Nat.div_one] at hm hn
    rw [digitBytes, digitBytes, List.singleton_append, List.singleton_append, List.compare_cons_cons,
      compare_ofNat hm hn, compare_add_right]
  | succ k ih =>
    rw [Nat.pow_succ', ← Nat.div_div_eq_div_mul] at hm hn
    have hdigit (i : Nat) : i % 64 + 0x80 < 256 := by omega
    rw [digitBytes, digitBytes, List.append_assoc, List.append_assoc, ih hm hn, List.singleton_append,
      List.singleton_append, List.compare_cons_cons, compare_ofNat (hdigit m) (hdigit n), compare_add_right,
      ← Ordering.then_assoc, compare_div_then_mod]

/-! ## The bytes of a character -/

/-- How many bytes of a character stand behind the first one. -/
def followers (n : Nat) : Nat :=
  if n ≤ 0x7f then 0 else if n ≤ 0x7ff then 1 else if n ≤ 0xffff then 2 else 3

/-- Tells in the first byte how many follow it. -/
def lengthMark : Nat → Nat
  | 0 => 0
  | 1 => 0xc0
  | 2 => 0xe0
  | _ => 0xf0

/-- The first byte of a character. -/
def firstByte (n : Nat) : Nat := n / 64 ^ followers n + lengthMark (followers n)

theorem codePoint_lt (c : Char) : c.toNat < 0x110000 := by
  rcases c.valid with h | h
  · exact Nat.lt_trans h (by decide)
  · exact h.2

theorem utf8EncodeChar_eq (c : Char) :
    String.utf8EncodeChar c = digitBytes (lengthMark (followers c.toNat)) (followers c.toNat) c.toNat := by
  have hval : c.val.toNat = c.toNat := rfl
  have hlt := codePoint_lt c
  unfold String.utf8EncodeChar followers
  rw [hval]
  dsimp only
  -- with so many bytes the first digit is below the modulus, so its remainder is the digit itself
  split_ifs
  · rfl
  · rw [Nat.mod_eq_of_lt (by omega : c.toNat / 64 < 0x20)]
    rfl
  · rw [Nat.mod_eq_of_lt (by omega : c.toNat / 4096 < 0x10)]
    simp only [digitBytes, lengthMark, Nat.div_div_eq_div_mul, List.cons_append, List.nil_append]
  · rw [Nat.mod_eq_of_lt (by omega : c.toNat / 262144 < 0x08)]
    simp only [digitBytes, lengthMark, Nat.div_div_eq_div_mul, List.cons_append, List.nil_append]

theorem utf8EncodeChar_eq_cons (c : Char) :
    ∃ digits, String.utf8EncodeChar c = .ofNat (firstByte c.toNat) :: digits := by
  rw [utf8EncodeChar_eq]
  exact digitBytes_eq_cons _ _ _

theorem firstByte_lt (c : Char) : firstByte c.toNat < 256 := by
  have hlt := codePoint_lt c
  unfold firstByte followers
  split_ifs <;> simp only [lengthMark] <;> omega

theorem firstByte_lt_firstByte (h : followers m < followers n) : firstByte m < firstByte n := by
  unfold firstByte
  unfold followers at *
  split_ifs at * <;> simp only [lengthMark] <;> omega

theorem lt_of_followers_lt (h : followers m < followers n) : m < n := by
  unfold followers at h
  split_ifs at h <;> omega

theorem compare_of_followers_lt {c d : Char} (h : followers c.toNat < followers d.toNat) (r s : List UInt8) :
    compare (String.utf8EncodeChar c ++ r) (String.utf8EncodeChar d ++ s) = .lt := by
  obtain ⟨digits, hc⟩ := utf8EncodeChar_eq_cons c
  obtain ⟨digits', hd⟩ := utf8EncodeChar_eq_cons d
  have hfirst : compare (firstByte c.toNat) (firstByte d.toNat) = .lt :=
    Nat.compare_eq_lt.mpr (firstByte_lt_firstByte h)
  rw [hc, hd, List.cons_append, List.cons_append, List.compare_cons_cons,
    compare_ofNat (firstByte_lt c) (firstByte_lt d), hfirst, Ordering.lt_then]

theorem compare_utf8EncodeChar (c d : Char) (r s : List UInt8) :
    compare (String.utf8EncodeChar c ++ r) (String.utf8EncodeChar d ++ s) =
      (compare c.toNat d.toNat).then (compare r s) := by
  rcases Nat.lt_trichotomy (followers c.toNat) (followers d.toNat) with hlt | heq | hgt
  · rw [compare_of_followers_lt hlt, Nat.compare_eq_lt.mpr (lt_of_followers_lt hlt), Ordering.lt_then]
  · have hc := firstByte_lt c
    have hd := firstByte_lt d
    rw [firstByte, heq] at hc
    rw [utf8EncodeChar_eq, utf8EncodeChar_eq, heq, compare_digitBytes hc hd]
  · rw [Std.OrientedCmp.gt_of_lt (compare_of_followers_lt hgt s r),
      Nat.compare_eq_gt.mpr (lt_of_followers_lt hgt), Ordering.gt_then]

theorem compare_utf8EncodeChars (cs ds : List Char) :
    compare (cs.flatMap String.utf8EncodeChar) (ds.flatMap String.utf8EncodeChar) =
      compare (cs.map Char.toNat) (ds.map Char.toNat) := by
  induction cs generalizing ds with
  | nil =>
    cases ds with
    | nil => rfl
    | cons d ds =>
      obtain ⟨digits, hd⟩ := utf8EncodeChar_eq_cons d
      rw [List.flatMap_cons, hd]
      rfl
  | cons c cs ih =>
    cases ds with
    | nil =>
      obtain ⟨digits, hc⟩ := utf8EncodeChar_eq_cons c
      rw [List.flatMap_cons, hc]
      rfl
    | cons d ds =>
      rw [List.flatMap_cons, List.flatMap_cons, compare_utf8EncodeChar, ih, List.map_cons, List.map_cons,
        List.compare_cons_cons]

end SqlText
