import SqlText.Proofs.Meaning

/-! # Chains that may be regrouped

A chain of one associative operator loses its grouping in the text and is read back grouped to the
left, which changes no value. So trees without other operators along the edge of such a chain mean
what their texts say. -/

namespace SqlText

open Buffer (wrapped)

universe u

theorem Expr.Simple.inertNames {x : Expr} (h : x.Simple) : (Node.expr x).Every Node.InertNames := by
  induction h with
  | identifier h => exact Node.every_identifier.mpr ⟨trivial, h.1.inert⟩
  | binary op _ _ ihl ihr => exact Node.every_binary.mpr ⟨trivial, ihl, ihr⟩
  | unary op _ ih => exact Node.every_unary.mpr ⟨trivial, ih⟩
  | nested _ ih => exact Node.every_nested.mpr ⟨trivial, ih⟩
  | nullTest negated _ ih => exact Node.every_nullTest.mpr ⟨trivial, ih⟩
  | between negated _ _ _ ih ihlow ihhigh => exact Node.every_between.mpr ⟨trivial, ih, ihlow, ihhigh⟩

theorem Expr.Simple.tame {x : Expr} (h : x.Simple) : Tame (toSql x) := Node.tame h.inertNames

/-- The text of `x` is derived with a tree that means the same. -/
def Expr.Faithful (x : Expr) : Prop :=
  ∃ t, Derives false (.expr x.level) (tokens (toSql x)) t ∧ SameMeaning.{u} t x

/-- Behind an operand and `op`, the text of `e` goes on with the chain, and the value is the one of `op`
with all of `e` on its right. -/
def Expr.Follows (op : BinaryOp) (wrap : Bool) (e : Expr) : Prop :=
  ∀ a x, Derives false (.expr op.level) a x →
    ∃ t, Derives false (.expr op.level) (a ++ op.token :: tokens (wrapped wrap (toSql e))) t ∧
      ∀ (V : Type u) (I : Interpretation V), I.Associative → I.eval t = I.binary op (I.eval x) (I.eval e)

namespace Expr

theorem Faithful.follows {op : BinaryOp} {wrap : Bool} {e : Expr} (he : Faithful.{u} e) (htame : Tame (toSql e))
    (htight : wrap = false → op.level.next.rank ≤ e.level.rank) : Follows.{u} op wrap e := by
  obtain ⟨t, ht, hsame⟩ := he
  intro a x hx
  refine ⟨.binary x op t, .binary op hx (derives_operand htame.closed ht htight), fun V I hI => ?_⟩
  rw [Interpretation.eval, hsame V I hI]

theorem needsParens_of_precedence {op : BinaryOp} {l r : Expr} :
    (Expr.binary l op r).needsParens op.precedence = false := by
  simp [needsParens, precedence]

theorem follows_right {op : BinaryOp} {r : Expr} (hr : Faithful.{u} r) (htame : Tame (toSql r))
    (hchain : regroups op r = true → Follows.{u} op (r.needsParens op.precedence) r) :
    Follows.{u} op (r.needsParens (rightMinimum op r)) r := by
  cases hregroups : regroups op r with
  | true =>
    rw [rightMinimum, hregroups]
    exact hchain hregroups
  | false =>
    refine hr.follows htame fun hbare => ?_
    have hmin := le_precedence_of_bare hbare
    rw [rightMinimum, hregroups] at hmin
    exact op.rank_next_le_of_precedence hmin

theorem follows_chain {op : BinaryOp} {l r : Expr} (hassoc : op.isAssociative = true) (htame : Tame (toSql l))
    (hl : Follows.{u} op (l.needsParens op.precedence) l)
    (hr : Follows.{u} op (r.needsParens (rightMinimum op r)) r) :
    Follows.{u} op false (.binary l op r) := by
  -- a chain behind a chain is one chain, as the operator is associative
  intro a x hx
  obtain ⟨tl, htl, hvaluel⟩ := hl a x hx
  obtain ⟨t, ht, hvalue⟩ := hr _ tl htl
  refine ⟨t, ?_, fun V I hI => ?_⟩
  · have htokens : tokens (wrapped false (toSql (Expr.binary l op r))) = _ := tokens_binary op htame.closed
    rw [htokens]
    simpa using ht
  · calc I.eval t = I.binary op (I.eval tl) (I.eval r) := hvalue V I hI
      _ = I.binary op (I.binary op (I.eval x) (I.eval l)) (I.eval r) := by rw [hvaluel V I hI]
      _ = I.binary op (I.eval x) (I.binary op (I.eval l) (I.eval r)) := hI op hassoc _ _ _

theorem precedence_of_not_binary {e : Expr} (hbinary : ∀ l inner r, e ≠ .binary l inner r) :
    min e.precedence 7 < e.level.rank ∧ e.precedence ∈ [2, 3, 4, atomPrecedence] := by
  cases e with
  | binary l inner r => exact absurd rfl (hbinary l inner r)
  | unary op e => cases op <;> (simp only [precedence, level]; decide)
  | _ =>
    simp only [precedence, level]
    decide

theorem next_rank_le_of_not_binary {op : BinaryOp} {e : Expr} (hassoc : op.isAssociative = true)
    (hbinary : ∀ l inner r, e ≠ .binary l inner r) (h : op.precedence ≤ e.precedence) :
    op.level.next.rank ≤ e.level.rank := by
  obtain ⟨hrank, hprecedence⟩ := precedence_of_not_binary hbinary
  rcases Nat.lt_or_eq_of_le h with hlt | heq
  · exact op.rank_next_le_of_precedence hlt
  · have hop : op.precedence ∉ [3, 4, atomPrecedence] := by cases op <;> revert hassoc <;> decide
    have hlevel := op.rank_level
    simp only [List.mem_cons, List.not_mem_nil, or_false, not_or] at hprecedence hop
    rw [Level.rank_next op.level_ne_prim]
    omega

theorem Faithful.follows_of_not_binary {op : BinaryOp} {e : Expr} (he : Faithful.{u} e) (htame : Tame (toSql e))
    (hassoc : op.isAssociative = true) (hbinary : ∀ l inner r, e ≠ .binary l inner r) :
    Follows.{u} op (e.needsParens op.precedence) e :=
  he.follows htame fun hbare => next_rank_le_of_not_binary hassoc hbinary (le_precedence_of_bare hbare)

/-! ## Every harmless tree -/

theorem isAssociative_of_regroups {op : BinaryOp} {r : Expr} (h : regroups op r = true) :
    op.isAssociative = true := by
  cases r with
  | binary l inner r => exact (Bool.and_eq_true_iff.mp h).1
  | _ => cases h

theorem faithful_binary {op : BinaryOp} {l r : Expr} (htame : Tame (toSql l)) (hl : Faithful.{u} l)
    (hr : Follows.{u} op (r.needsParens (rightMinimum op r)) r) : Faithful.{u} (.binary l op r) := by
  obtain ⟨tl, htl, hsame⟩ := hl
  obtain ⟨t, ht, hvalue⟩ := hr _ tl (derives_left op htame.closed htl)
  refine ⟨t, ?_, fun V I hI => ?_⟩
  · rw [tokens_binary op htame.closed]
    exact ht
  · rw [hvalue V I hI, hsame V I hI]
    rfl

theorem faithful_identifier {name : String} (h : IsName name) : Faithful.{u} (.identifier (.bare name)) := by
  obtain ⟨t, ht, hi⟩ := (Identifier.bare name).token h
  refine ⟨.identifier (.bare name), ?_, fun _ _ _ => rfl⟩
  rw [toSql_eq, spelling, ht]
  exact .names (.name hi)

theorem faithful_unary {e : Expr} (op : UnaryOp) (htame : Tame (toSql e)) (he : Faithful.{u} e) :
    Faithful.{u} (.unary op e) := by
  obtain ⟨t, ht, hsame⟩ := he
  refine ⟨.unary op t, ?_, fun V I hI => ?_⟩
  · rw [toSql_eq]
    exact derives_unary op htame.closed ht
  · rw [Interpretation.eval, Interpretation.eval, hsame V I hI]

theorem faithful_nested {e : Expr} (htame : Tame (toSql e)) (he : Faithful.{u} e) :
    Faithful.{u} (.nested e) := by
  obtain ⟨t, ht, hsame⟩ := he
  refine ⟨t, ?_, fun V I hI => ?_⟩
  · rw [toSql_eq, spelling, tokens_parens htame.closed]
    exact .parens (ht.loosen e.level.rank_le.1)
  · rw [hsame V I hI, Interpretation.eval]

theorem faithful_nullTest {e : Expr} (negated : Bool) (htame : Tame (toSql e)) (he : Faithful.{u} e) :
    Faithful.{u} (.nullTest e negated) := by
  obtain ⟨t, ht, hsame⟩ := he
  refine ⟨.nullTest t negated, ?_, fun V I hI => ?_⟩
  · rw [toSql_eq]
    exact derives_nullTest negated htame.closed ht
  · rw [Interpretation.eval, Interpretation.eval, hsame V I hI]

theorem faithful_between {e low high : Expr} (negated : Bool) (htame : Tame (toSql e)) (htamelow : Tame (toSql low))
    (htamehigh : Tame (toSql high)) (he : Faithful.{u} e) (hlow : Faithful.{u} low) (hhigh : Faithful.{u} high) :
    Faithful.{u} (.between e low high negated) := by
  obtain ⟨t, ht, hsame⟩ := he
  obtain ⟨tlow, htlow, hsamelow⟩ := hlow
  obtain ⟨thigh, hthigh, hsamehigh⟩ := hhigh
  refine ⟨.between t tlow thigh negated, ?_, fun V I hI => ?_⟩
  · rw [toSql_eq]
    exact derives_between negated htame.closed htamelow.closed htamehigh.closed ht htlow hthigh
  · rw [Interpretation.eval, Interpretation.eval, hsame V I hI, hsamelow V I hI, hsamehigh V I hI]

/-- A harmless tree means what its text says, also as the rest of a chain that it lets through. -/
theorem Simple.faithful {x : Expr} (h : x.Simple) (hharmless : x.harmless = true) :
    Faithful.{u} x ∧ ∀ op : BinaryOp, op.isAssociative = true → x.pureIn op = true →
      Follows.{u} op (x.needsParens op.precedence) x := by
  induction h with
  | identifier h =>
    have hfaithful := faithful_identifier h
    exact ⟨hfaithful, fun op hassoc _ => hfaithful.follows_of_not_binary (Simple.identifier h).tame hassoc (by simp)⟩
  | unary op he ih =>
    have hfaithful := faithful_unary op he.tame (ih hharmless).1
    exact ⟨hfaithful, fun op' hassoc _ => hfaithful.follows_of_not_binary (he.unary op).tame hassoc (by simp)⟩
  | nested he ih =>
    have hfaithful := faithful_nested he.tame (ih hharmless).1
    exact ⟨hfaithful, fun op hassoc _ => hfaithful.follows_of_not_binary he.nested.tame hassoc (by simp)⟩
  | nullTest negated he ih =>
    have hfaithful := faithful_nullTest negated he.tame (ih hharmless).1
    exact ⟨hfaithful, fun op hassoc _ => hfaithful.follows_of_not_binary (he.nullTest negated).tame hassoc (by simp)⟩
  | between negated he hlow hhigh ih ihlow ihhigh =>
    simp only [harmless, Bool.and_eq_true] at hharmless
    obtain ⟨⟨hharm, hharmlow⟩, hharmhigh⟩ := hharmless
    have hfaithful := faithful_between negated he.tame hlow.tame hhigh.tame (ih hharm).1 (ihlow hharmlow).1
      (ihhigh hharmhigh).1
    have htame := (Simple.between negated he hlow hhigh).tame
    exact ⟨hfaithful, fun op hassoc _ => hfaithful.follows_of_not_binary htame hassoc (by simp)⟩
  | @binary l r op hl hr ihl ihr =>
    simp only [harmless, Bool.and_eq_true, Bool.or_eq_true, Bool.not_eq_true'] at hharmless
    obtain ⟨⟨hharml, hharmr⟩, hpure⟩ := hharmless
    obtain ⟨hfaithfull, hchainl⟩ := ihl hharml
    obtain ⟨hfaithfulr, hchainr⟩ := ihr hharmr
    have hright : Follows.{u} op (r.needsParens (rightMinimum op r)) r := by
      refine follows_right hfaithfulr hr.tame fun hregroups => ?_
      refine hchainr op (isAssociative_of_regroups hregroups) (hpure.resolve_left ?_)
      simp [hregroups]
    have hfaithful := faithful_binary hl.tame hfaithfull hright
    refine ⟨hfaithful, fun op' hassoc hpure' => ?_⟩
    by_cases hlevel : op.precedence = op'.precedence
    · -- the left operand is a part of the same chain
      obtain ⟨rfl, hpurel⟩ : op = op' ∧ l.pureIn op' = true := by simpa [pureIn, hlevel] using hpure'
      rw [needsParens_of_precedence]
      exact follows_chain hassoc hl.tame (hchainl op hassoc hpurel) hright
    · refine hfaithful.follows (Simple.binary op hl hr).tame fun hbare => ?_
      have hmin : op'.precedence ≤ op.precedence := le_precedence_of_bare hbare
      exact op'.rank_next_le_of_precedence (show op'.precedence < op.precedence by omega)

theorem Simple.sameMeaning {x y : Expr} (hx : x.Simple) (hy : y.Simple) (hharmx : x.harmless = true)
    (hharmy : y.harmless = true) (h : toSql x = toSql y) : SameMeaning.{u} x y := by
  obtain ⟨s, hs, hsames⟩ := (hx.faithful hharmx).1
  obtain ⟨t, ht, hsamet⟩ := (hy.faithful hharmy).1
  have hread : Derives false (.expr .or) (tokens (toSql x)) s := hs.loosen x.level.rank_le.1
  have hread' : Derives false (.expr .or) (tokens (toSql x)) t := by
    rw [h]
    exact ht.loosen y.level.rank_le.1
  obtain rfl : s = t := hread.unique hread' (by simp [Stops])
  intro V I hI
  rw [← hsames V I hI, hsamet V I hI]

end Expr

end SqlText
