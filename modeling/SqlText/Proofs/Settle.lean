import SqlText.Proofs.Regroup

/-! # The tree a text stands for

Where another operator stands on the edge of a chain, the text is read with a grouping of its own.
`settle` is the tree of that grouping. Counting leaves tells it apart from the tree it comes from, in
an interpretation in which every associative operator only forgets how its chains are grouped. -/

namespace SqlText

open Buffer (wrapped)

universe u

namespace Expr

/-- `l` and `op` in front of the operators of the same level along the left edge. -/
def graft (l : Expr) (op : BinaryOp) : Expr → Expr
  | .binary l' inner r => if inner.precedence = op.precedence then .binary (graft l op l') inner r
    else .binary l op (.binary l' inner r)
  | e => .binary l op e

/-- The grouping of the text. -/
def settle : Expr → Expr
  | .binary l op r =>
    if regroups op r && !r.settle.pureIn op then graft l.settle op r.settle else .binary l.settle op r.settle
  | .unary op e => .unary op e.settle
  | .nested e => .nested e.settle
  | .nullTest e negated => .nullTest e.settle negated
  | .between e low high negated => .between e.settle low.settle high.settle negated
  | e => e

/-! ## The text stays -/

theorem not_pureIn_binary {op inner : BinaryOp} {l r : Expr} (h : (Expr.binary l inner r).pureIn op = false) :
    inner.precedence = op.precedence ∧ (inner = op → l.pureIn op = false) := by
  rw [pureIn, Bool.or_eq_false_iff, Bool.and_eq_false_iff] at h
  obtain ⟨hlevel, hrest⟩ := h
  refine ⟨by simpa using hlevel, fun heq => ?_⟩
  exact hrest.resolve_left (by simp [heq])

theorem level_of_not_pureIn {op : BinaryOp} {e : Expr} (hassoc : op.isAssociative = true)
    (h : e.pureIn op = false) : 5 ≤ op.precedence := by
  fun_induction pureIn op e with
  | case1 l inner r ih =>
    obtain ⟨hlevel, hrest⟩ := not_pureIn_binary (r := r) (by rw [pureIn]; exact h)
    by_cases heq : inner = op
    · exact ih (hrest heq)
    · revert hassoc hlevel heq
      cases op <;> cases inner <;> decide
  | case2 => cases h

theorem precedence_graft (l : Expr) (op : BinaryOp) (e : Expr) : (graft l op e).precedence = op.precedence := by
  fun_induction graft l op e with
  | case1 l' inner r hlevel ih => exact hlevel
  | case2 l' inner r hlevel => rfl
  | case3 e hbinary => rfl

theorem not_regroups {op : BinaryOp} {e : Expr} (h : ∀ l r, e ≠ .binary l op r) : regroups op e = false := by
  cases e with
  | binary l inner r =>
    have hne : inner ≠ op := by
      rintro rfl
      exact h l r rfl
    simp [regroups, hne]
  | _ => rfl

/-- Among sums and products the right place of an operator only differs from the left one for an
operand of the same level. -/
theorem toSql_link {l e : Expr} {op : BinaryOp} (hlevel : e.precedence ≠ op.precedence) :
    toSql (Expr.binary l op e) = wrapped (l.needsParens op.precedence) (toSql l) ++
      (op.spelling ++ wrapped (e.needsParens op.precedence) (toSql e)) := by
  have hregroups : regroups op e = false := by
    refine not_regroups fun l' r heq => hlevel ?_
    rw [heq]
    rfl
  have hparens : e.needsParens (rightMinimum op e) = e.needsParens op.precedence := by
    rw [rightMinimum, hregroups, needsParens, needsParens, decide_eq_decide]
    simp only [Bool.false_eq_true, if_false]
    omega
  rw [toSql_eq, spelling, hparens]

theorem toSql_graft (l : Expr) {op : BinaryOp} (hop : 5 ≤ op.precedence) (e : Expr) :
    toSql (graft l op e) = wrapped (l.needsParens op.precedence) (toSql l) ++
      (op.spelling ++ wrapped (e.needsParens op.precedence) (toSql e)) := by
  fun_induction graft l op e with
  | case1 l' inner r hlevel ih =>
    have hgraft : (graft l op l').needsParens inner.precedence = false := by
      simp [needsParens, precedence_graft, hlevel]
    have hbare : (Expr.binary l' inner r).needsParens op.precedence = false := by
      simp [needsParens, precedence, hlevel]
    have hleft : toSql (Expr.binary (graft l op l') inner r) =
        toSql (graft l op l') ++ (inner.spelling ++ wrapped (r.needsParens (rightMinimum inner r)) (toSql r)) := by
      rw [toSql_eq, spelling, hgraft]
      rfl
    have hinner : wrapped false (toSql (Expr.binary l' inner r)) =
        wrapped (l'.needsParens op.precedence) (toSql l') ++
          (inner.spelling ++ wrapped (r.needsParens (rightMinimum inner r)) (toSql r)) := by
      rw [← hlevel, toSql_eq]
      rfl
    rw [hleft, ih, hbare, hinner]
    simp [String.append_assoc]
  | case2 l' inner r hlevel => exact toSql_link hlevel
  | case3 e hbinary =>
    refine toSql_link fun heq => ?_
    obtain ⟨-, hmem⟩ := precedence_of_not_binary hbinary
    have hle : op.precedence ≤ 6 := by cases op <;> decide
    simp only [atomPrecedence, List.mem_cons, List.not_mem_nil, or_false] at hmem
    omega

theorem eq_binary_of_regroups {op : BinaryOp} {e : Expr} (h : regroups op e = true) :
    ∃ l r, e = .binary l op r := by
  cases e with
  | binary l inner r =>
    obtain rfl : inner = op := by simpa using (Bool.and_eq_true_iff.mp h).2
    exact ⟨l, r, rfl⟩
  | _ => cases h

theorem settle_top (x : Expr) :
    x.settle.precedence = x.precedence ∧ ∀ op, regroups op x.settle = regroups op x := by
  fun_induction settle x with
  | case1 l op r hgraft ihr ihl =>
    have hregroups : regroups op r.settle = true := by
      rw [ihr.2]
      exact (Bool.and_eq_true_iff.mp hgraft).1
    obtain ⟨l', r', hr⟩ := eq_binary_of_regroups hregroups
    rw [hr, graft, if_pos rfl]
    exact ⟨rfl, fun _ => rfl⟩
  | case2 l op r hgraft ihr ihl => exact ⟨rfl, fun _ => rfl⟩
  | case3 op e ih => cases op <;> exact ⟨rfl, fun _ => rfl⟩
  | _ => exact ⟨rfl, fun _ => rfl⟩

theorem needsParens_settle (x : Expr) (minimum : Nat) :
    x.settle.needsParens minimum = x.needsParens minimum := by
  rw [needsParens, x.settle_top.1, needsParens]

theorem toSql_settle {x : Expr} (h : x.Simple) : toSql x.settle = toSql x := by
  induction h with
  | identifier h => rfl
  | @unary e op he ih =>
    rw [settle, toSql_eq, toSql_eq, spelling, spelling, needsParens_settle, ih]
  | @nested e he ih =>
    rw [settle, toSql_eq, toSql_eq, spelling, spelling, ih]
  | @nullTest e negated he ih =>
    rw [settle, toSql_eq, toSql_eq, spelling, spelling, needsParens_settle, ih]
  | @between e low high negated he hlow hhigh ih ihlow ihhigh =>
    rw [settle, toSql_eq, toSql_eq, spelling, spelling, needsParens_settle, needsParens_settle, needsParens_settle,
      ih, ihlow, ihhigh]
  | @binary l r op hl hr ihl ihr =>
    have hright : rightMinimum op r.settle = rightMinimum op r := by
      rw [rightMinimum, r.settle_top.2, rightMinimum]
    have hplain : toSql (Expr.binary l.settle op r.settle) = toSql (Expr.binary l op r) := by
      rw [toSql_eq, toSql_eq, spelling, spelling, hright, needsParens_settle, needsParens_settle, ihl, ihr]
    rw [settle]
    split
    · next hgraft =>
      rw [Bool.and_eq_true, Bool.not_eq_true'] at hgraft
      obtain ⟨hregroups, hpure⟩ := hgraft
      have hop := level_of_not_pureIn (isAssociative_of_regroups hregroups) hpure
      have hbare : rightMinimum op r.settle = op.precedence := by rw [hright, rightMinimum, hregroups, if_pos rfl]
      rw [toSql_graft _ hop, ← hplain, (Expr.binary l.settle op r.settle).toSql_eq, spelling, hbare]
    · exact hplain

/-! ## The result is harmless -/

theorem graft_simple {l e : Expr} (op : BinaryOp) (hl : l.Simple) (he : e.Simple) : (graft l op e).Simple := by
  fun_induction graft l op e with
  | case1 l' inner r hlevel ih =>
    cases he with
    | binary _ hl' hr => exact .binary inner (ih hl') hr
  | case2 l' inner r hlevel => exact .binary op hl he
  | case3 e hbinary => exact .binary op hl he

theorem Simple.settle {x : Expr} (h : x.Simple) : x.settle.Simple := by
  induction h with
  | identifier h => exact .identifier h
  | unary op _ ih => exact .unary op ih
  | nested _ ih => exact .nested ih
  | nullTest negated _ ih => exact .nullTest negated ih
  | between negated _ _ _ ih ihlow ihhigh => exact .between negated ih ihlow ihhigh
  | binary op _ _ ihl ihr =>
    rw [Expr.settle]
    split
    · exact graft_simple op ihl ihr
    · exact .binary op ihl ihr

theorem harmless_graft {l e : Expr} (op : BinaryOp) (hl : l.harmless = true) (he : e.harmless = true) :
    (graft l op e).harmless = true := by
  fun_induction graft l op e with
  | case1 l' inner r hlevel ih =>
    simp only [harmless, Bool.and_eq_true] at he ⊢
    exact ⟨⟨ih he.1.1, he.1.2⟩, he.2⟩
  | case2 l' inner r hlevel =>
    have hregroups : regroups op (.binary l' inner r) = false := by
      refine not_regroups fun l'' r' heq => hlevel ?_
      rw [(Expr.binary.inj heq).2.1]
    rw [harmless, hl, he, hregroups]
    rfl
  | case3 e hbinary =>
    have hregroups : regroups op e = false := not_regroups fun l' r => hbinary l' op r
    rw [harmless, hl, he, hregroups]
    rfl

theorem harmless_settle (x : Expr) : x.settle.harmless = true := by
  fun_induction settle x with
  | case1 l op r hgraft ihr ihl => exact harmless_graft op ihl ihr
  | case2 l op r hgraft ihr ihl =>
    rw [harmless, ihl, ihr, r.settle_top.2]
    cases hregroups : regroups op r with
    | false => rfl
    | true => simpa [hregroups] using hgraft
  | case3 op e ih => exact ih
  | case4 e ih => exact ih
  | case5 e negated ih => exact ih
  | case6 e low high negated ih ihlow ihhigh => rw [harmless, ih, ihlow, ihhigh]; rfl
  | case7 e hbinary hunary hnested hnull hbetween =>
    exact harmless.eq_6 e hbinary hunary hnested hnull hbetween

theorem settle_of_harmless {x : Expr} (h : x.harmless = true) : x.settle = x := by
  fun_induction settle x with
  | case1 l op r hgraft ihr ihl =>
    simp only [harmless, Bool.and_eq_true, Bool.or_eq_true, Bool.not_eq_true'] at h hgraft
    obtain ⟨⟨-, hr⟩, hpure⟩ := h
    obtain ⟨hregroups, hmixed⟩ := hgraft
    rw [ihr hr, hpure.resolve_left (by simp [hregroups])] at hmixed
    cases hmixed
  | case2 l op r hgraft ihr ihl =>
    simp only [harmless, Bool.and_eq_true] at h
    rw [ihl h.1.1, ihr h.1.2]
  | case3 op e ih => rw [ih h]
  | case4 e ih => rw [ih h]
  | case5 e negated ih => rw [ih h]
  | case6 e low high negated ih ihlow ihhigh =>
    simp only [harmless, Bool.and_eq_true] at h
    rw [ih h.1.1, ihlow h.1.2, ihhigh h.2]
  | case7 e => rfl

/-! ## An interpretation that only forgets grouping -/

/-- `a`, `op` and `b`, with chains of `op` grouped to the left. -/
def join (op : BinaryOp) (a : Expr) : Expr → Expr
  | .binary b inner c => if inner = op then .binary (join op a b) op c else .binary a op (.binary b inner c)
  | b => .binary a op b

/-- Every tree stands for itself, up to the grouping of associative operators. -/
def regrouping : Interpretation Expr where
  leaf e := e
  binary op a b := if op.isAssociative then join op a b else .binary a op b
  unary op e := .unary op e
  nullTest negated e := .nullTest e negated
  between negated e low high := .between e low high negated

theorem join_assoc (op : BinaryOp) (a b c : Expr) : join op (join op a b) c = join op a (join op b c) := by
  fun_induction join op b c with
  | case1 c' d ih => rw [join, if_pos rfl, ih, join, if_pos rfl]
  | case2 c' inner d hne => rw [join, if_neg hne, join, if_pos rfl]
  | case3 c hbinary => rw [join.eq_2 _ _ _ hbinary, join, if_pos rfl]

theorem regrouping_binary (op : BinaryOp) (a b : Expr) :
    regrouping.binary op a b = if op.isAssociative then join op a b else .binary a op b :=
  rfl

theorem regrouping_join {op : BinaryOp} (hassoc : op.isAssociative = true) (a b : Expr) :
    regrouping.binary op a b = join op a b :=
  if_pos hassoc

theorem regrouping_associative : regrouping.Associative := by
  intro op hassoc a b c
  simp only [regrouping_join hassoc]
  exact join_assoc op a b c

theorem eval_join {V : Type u} {I : Interpretation V} (hI : I.Associative) {op : BinaryOp}
    (hassoc : op.isAssociative = true) (a b : Expr) :
    I.eval (join op a b) = I.binary op (I.eval a) (I.eval b) := by
  fun_induction join op a b with
  | case1 b c ih =>
    calc I.eval (.binary (join op a b) op c) = I.binary op (I.eval (join op a b)) (I.eval c) := rfl
      _ = I.binary op (I.binary op (I.eval a) (I.eval b)) (I.eval c) := by rw [ih]
      _ = I.binary op (I.eval a) (I.binary op (I.eval b) (I.eval c)) := hI op hassoc _ _ _
  | case2 b inner c hne => rfl
  | case3 b hbinary => rfl

/-- No associative interpretation sees the difference. -/
theorem eval_value {V : Type u} {I : Interpretation V} (hI : I.Associative) (e : Expr) :
    I.eval (regrouping.eval e) = I.eval e := by
  fun_induction Interpretation.eval regrouping e with
  | case1 l op r ihl ihr =>
    rw [Interpretation.eval, ← ihl, ← ihr, regrouping_binary]
    split
    · next hassoc => exact eval_join hI hassoc _ _
    · rfl
  | case2 op e ih =>
    rw [Interpretation.eval, ← ih]
    rfl
  | case3 e ih => rw [ih, Interpretation.eval]
  | case4 e negated ih =>
    rw [Interpretation.eval, ← ih]
    rfl
  | case5 e low high negated ih ihlow ihhigh =>
    rw [Interpretation.eval, ← ih, ← ihlow, ← ihhigh]
    rfl
  | case6 => rfl

theorem sameMeaning_iff {x y : Expr} : SameMeaning.{u} x y ↔ regrouping.eval x = regrouping.eval y := by
  constructor
  · intro h
    exact h.lower Expr regrouping regrouping_associative
  · intro h V I hI
    rw [← eval_value hI x, h, eval_value hI y]

/-- The operands that are no operations themselves, counted. -/
def leaves : Expr → Nat
  | .binary l _ r => l.leaves + r.leaves
  | .unary _ e => e.leaves
  | .nested e => e.leaves
  | .nullTest e _ => e.leaves
  | .between e low high _ => e.leaves + low.leaves + high.leaves
  | _ => 1

theorem leaves_pos (e : Expr) : 0 < e.leaves := by
  fun_induction leaves e <;> omega

theorem leaves_join (op : BinaryOp) (a b : Expr) : (join op a b).leaves = a.leaves + b.leaves := by
  fun_induction join op a b with
  | case1 b c ih => rw [leaves, ih, leaves, Nat.add_assoc]
  | case2 b inner c hne => rw [leaves]
  | case3 b hbinary => rw [leaves]

theorem leaves_regrouping (op : BinaryOp) (a b : Expr) :
    (regrouping.binary op a b).leaves = a.leaves + b.leaves := by
  rw [regrouping_binary]
  split
  · exact leaves_join op a b
  · rw [leaves]

theorem leaves_value (e : Expr) : (regrouping.eval e).leaves = e.leaves := by
  fun_induction leaves e with
  | case1 l op r ihl ihr => rw [Interpretation.eval, leaves_regrouping, ihl, ihr]
  | case2 op e ih =>
    rw [Interpretation.eval, ← ih]
    rfl
  | case3 e ih => rw [Interpretation.eval, ih]
  | case4 e negated ih =>
    rw [Interpretation.eval, ← ih]
    rfl
  | case5 e low high negated ih ihlow ihhigh =>
    rw [Interpretation.eval, ← ih, ← ihlow, ← ihhigh]
    rfl
  | case6 e hbinary hunary hnested hnull hbetween =>
    rw [Interpretation.eval.eq_6 _ _ hbinary hunary hnested hnull hbetween]
    exact leaves.eq_6 e hbinary hunary hnested hnull hbetween

theorem leaves_graft (l : Expr) (op : BinaryOp) (e : Expr) : (graft l op e).leaves = l.leaves + e.leaves := by
  fun_induction graft l op e with
  | case1 l' inner r hlevel ih => rw [leaves, ih, leaves, Nat.add_assoc]
  | case2 l' inner r hlevel => rw [leaves]
  | case3 e hbinary => rw [leaves]

theorem leaves_settle (x : Expr) : x.settle.leaves = x.leaves := by
  fun_induction settle x with
  | case1 l op r hgraft ihr ihl => rw [leaves_graft, ihl, ihr, leaves]
  | case2 l op r hgraft ihr ihl => rw [leaves, ihl, ihr, leaves]
  | case3 op e ih => rw [leaves, ih, leaves]
  | case4 e ih => rw [leaves, ih, leaves]
  | case5 e negated ih => rw [leaves, ih, leaves]
  | case6 e low high negated ih ihlow ihhigh => rw [leaves, ih, ihlow, ihhigh, leaves]
  | case7 e => rfl

theorem join_cases (op : BinaryOp) (a b : Expr) :
    (∃ c d, b = .binary c op d ∧ join op a b = .binary (join op a c) op d) ∨ join op a b = .binary a op b := by
  fun_cases join op a b with
  | case1 c d => exact .inl ⟨c, d, rfl, rfl⟩
  | case2 c inner d hne => exact .inr rfl
  | case3 b hbinary => exact .inr rfl

theorem leaves_lt_join (op : BinaryOp) (a b : Expr) : a.leaves < (join op a b).leaves := by
  have hpos := b.leaves_pos
  rw [leaves_join]
  omega

theorem join_inj {op : BinaryOp} {a a' b b' : Expr} (hleaves : a.leaves = a'.leaves)
    (h : join op a b = join op a' b') : a = a' ∧ b = b' := by
  have hplain : ∀ {a a' b b' : Expr}, a.leaves = a'.leaves → .binary a op b = join op a' b' → a = a' ∧ b = b' := by
    intro a a' b b' hleaves h
    rcases join_cases op a' b' with ⟨c, d, rfl, hjoin⟩ | hjoin
    · rw [hjoin] at h
      obtain ⟨rfl, -, rfl⟩ := Expr.binary.inj h
      have hlt := leaves_lt_join op a' c
      omega
    · rw [hjoin] at h
      obtain ⟨rfl, -, rfl⟩ := Expr.binary.inj h
      exact ⟨rfl, rfl⟩
  fun_induction join op a b generalizing b' with
  | case1 b c ih =>
    rcases join_cases op a' b' with ⟨d, e, rfl, hjoin⟩ | hjoin
    · rw [hjoin] at h
      obtain ⟨heq, -, rfl⟩ := Expr.binary.inj h
      obtain ⟨rfl, rfl⟩ := ih heq
      exact ⟨rfl, rfl⟩
    · rw [hjoin] at h
      obtain ⟨rfl, -, rfl⟩ := Expr.binary.inj h
      have hlt := leaves_lt_join op a b
      omega
  | case2 b inner c hne => exact hplain hleaves h
  | case3 b hbinary => exact hplain hleaves h

theorem regrouping_inj {op : BinaryOp} {a a' b b' : Expr} (hleaves : a.leaves = a'.leaves)
    (h : regrouping.binary op a b = regrouping.binary op a' b') : a = a' ∧ b = b' := by
  rw [regrouping_binary, regrouping_binary] at h
  split at h
  · exact join_inj hleaves h
  · obtain ⟨rfl, -, rfl⟩ := Expr.binary.inj h
    exact ⟨rfl, rfl⟩

/-! ## Telling the groupings apart -/

/-- The first link of a chain of `op`. -/
def first (op : BinaryOp) : Expr → Expr
  | .binary l inner r => if inner = op then first op l else .binary l inner r
  | e => e

theorem leaves_first_le (op : BinaryOp) (e : Expr) : (first op e).leaves ≤ e.leaves := by
  fun_induction first op e with
  | case1 l r ih =>
    rw [leaves]
    omega
  | case2 l inner r hne => exact Nat.le_refl _
  | case3 e hbinary => exact Nat.le_refl _

theorem first_join (op : BinaryOp) (a b : Expr) : first op (join op a b) = first op a := by
  fun_induction join op a b with
  | case1 b c ih => rw [first, if_pos rfl, ih]
  | case2 b inner c hne => rw [first, if_pos rfl]
  | case3 b hbinary => rw [first, if_pos rfl]

theorem first_regrouping {op inner : BinaryOp} (hne : inner ≠ op) (a b : Expr) :
    first op (regrouping.binary inner a b) = regrouping.binary inner a b := by
  have hbinary : ∃ l r, regrouping.binary inner a b = .binary l inner r := by
    rw [regrouping_binary]
    split
    · rcases join_cases inner a b with ⟨c, d, -, hjoin⟩ | hjoin
      · exact ⟨_, _, hjoin⟩
      · exact ⟨_, _, hjoin⟩
    · exact ⟨_, _, rfl⟩
  obtain ⟨l, r, heq⟩ := hbinary
  rw [heq, first, if_neg hne]

theorem leaves_lt_first_graft {op : BinaryOp} (hassoc : op.isAssociative = true) (l : Expr) {e : Expr}
    (hmixed : e.pureIn op = false) : l.leaves < (first op (regrouping.eval (graft l op e))).leaves := by
  -- another operator on the edge makes the chain of the text start with more than the left operand
  fun_induction graft l op e with
  | case1 l' inner r hlevel ih =>
    rw [Interpretation.eval]
    by_cases heq : inner = op
    · subst heq
      have hfirst := first_join inner (regrouping.eval (graft l inner l')) (regrouping.eval r)
      rw [regrouping_join hassoc, hfirst]
      exact ih ((not_pureIn_binary hmixed).2 rfl)
    · have hpos := r.leaves_pos
      rw [first_regrouping heq, leaves_regrouping, leaves_value, leaves_value, leaves_graft]
      omega
  | case2 l' inner r hlevel => exact absurd (not_pureIn_binary hmixed).1 hlevel
  | case3 e hbinary =>
    rw [pureIn.eq_2 _ _ hbinary] at hmixed
    cases hmixed

theorem value_graft_ne {op : BinaryOp} (hassoc : op.isAssociative = true) (l r : Expr) {e : Expr}
    (hmixed : e.pureIn op = false) :
    regrouping.eval (graft l.settle op e) ≠ regrouping.eval (.binary l op r) := by
  intro h
  have hlt := leaves_lt_first_graft hassoc l.settle hmixed
  have hfirst : first op (regrouping.eval (.binary l op r)) = first op (regrouping.eval l) := by
    rw [Interpretation.eval, regrouping_join hassoc]
    exact first_join op _ _
  have hle := leaves_first_le op (regrouping.eval l)
  rw [h, hfirst, leaves_settle] at hlt
  rw [leaves_value] at hle
  omega

/-- Only a harmless tree keeps its value when it is grouped as its text says. -/
theorem harmless_of_value {x : Expr} (h : regrouping.eval x.settle = regrouping.eval x) :
    x.harmless = true := by
  fun_induction settle x with
  | case1 l op r hgraft ihr ihl =>
    rw [Bool.and_eq_true, Bool.not_eq_true'] at hgraft
    exact absurd h (value_graft_ne (isAssociative_of_regroups hgraft.1) l r hgraft.2)
  | case2 l op r hgraft ihr ihl =>
    rw [Interpretation.eval, Interpretation.eval] at h
    have hleaves : (regrouping.eval l.settle).leaves = (regrouping.eval l).leaves := by
      rw [leaves_value, leaves_value, leaves_settle]
    obtain ⟨hl, hr⟩ := regrouping_inj hleaves h
    rw [harmless, ihl hl, ihr hr]
    rw [settle_of_harmless (ihr hr)] at hgraft
    cases hregroups : regroups op r with
    | false => rfl
    | true => simpa [hregroups] using hgraft
  | case3 op e ih => exact ih (Expr.unary.inj h).2
  | case4 e ih => exact ih h
  | case5 e negated ih => exact ih (Expr.nullTest.inj h).1
  | case6 e low high negated ih ihlow ihhigh =>
    obtain ⟨he, hlow, hhigh, -⟩ := Expr.between.inj h
    rw [harmless, ih he, ihlow hlow, ihhigh hhigh]
    rfl
  | case7 e hbinary hunary hnested hnull hbetween =>
    exact harmless.eq_6 e hbinary hunary hnested hnull hbetween

/-! ## When the text says what the tree means -/

/-- Beside a harmless tree, only a harmless one can have the same text and the same meaning. -/
theorem Simple.sameMeaning_iff_harmless {x y : Expr} (hx : x.Simple) (hy : y.Simple) (h : toSql x = toSql y)
    (hharmless : x.harmless = true) : SameMeaning.{u} x y ↔ y.harmless = true := by
  constructor
  · intro hsame
    have htext : toSql x = toSql y.settle := by rw [h, toSql_settle hy]
    have hread : SameMeaning.{u} x y.settle := hx.sameMeaning hy.settle hharmless y.harmless_settle htext
    rw [Expr.sameMeaning_iff] at hsame hread
    exact harmless_of_value (hread.symm.trans hsame)
  · intro hharmless'
    exact hx.sameMeaning hy hharmless hharmless' h

theorem Simple.exists_of_not_harmless {x : Expr} (hx : x.Simple) (hharmful : x.harmless = false) :
    ∃ z : Expr, z.Simple ∧ z.harmless = true ∧ toSql z = toSql x ∧ ¬ SameMeaning.{u} x z := by
  refine ⟨x.settle, hx.settle, x.harmless_settle, toSql_settle hx, fun hsame => ?_⟩
  rw [Expr.sameMeaning_iff] at hsame
  rw [harmless_of_value hsame.symm] at hharmful
  cases hharmful

/-- Trees with the same text mean the same if they only differ in the grouping of associative chains.
Beside a harmless tree that is so for the harmless ones, and every other tree has the text of one that
means something else. -/
theorem meaning_of_text (x y : Expr) (hx : x.Simple) (hy : y.Simple) (h : toSql x = toSql y) :
    (SameMeaning.{u} x y ↔ regrouping.eval x = regrouping.eval y) ∧
      (x.harmless = true → (SameMeaning.{u} x y ↔ y.harmless = true)) ∧
      (x.harmless = false →
        ∃ z : Expr, z.Simple ∧ z.harmless = true ∧ toSql z = toSql x ∧ ¬ SameMeaning.{u} x z) :=
  ⟨sameMeaning_iff, hx.sameMeaning_iff_harmless hy h, hx.exists_of_not_harmless⟩

theorem meaning_of_two_products :
    let a := Expr.identifier (.bare "a")
    let b := Expr.identifier (.bare "b")
    let c := Expr.identifier (.bare "c")
    toSql (binary a .mul (binary b .mul c)) = "a * b * c" ∧
      SameMeaning.{0} (.binary a .mul (.binary b .mul c)) (.binary (.binary a .mul b) .mul c) ∧
      ¬ SameMeaning.{0} mixedProductRead mixedProduct := by
  intro a b c
  have ha : a.Simple := simple_letter (by decide)
  have hb : b.Simple := simple_letter (by decide)
  have hc : c.Simple := simple_letter (by decide)
  refine ⟨by decide, ?_, fun hsame => ?_⟩
  · have htext := meaning_of_text.{0} _ _ (.binary .mul ha (.binary .mul hb hc))
      (.binary .mul (.binary .mul ha hb) hc) (by decide)
    exact (htext.2.1 (by decide)).mpr (by decide)
  · have htext := meaning_of_text.{0} _ _ simple_mixedProductRead simple_mixedProduct (by decide)
    have hharmless := (htext.2.1 (by decide)).mp hsame
    revert hharmless
    decide

end Expr

end SqlText
