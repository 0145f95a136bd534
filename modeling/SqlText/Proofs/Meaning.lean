import SqlText.Proofs.Derivation

/-! # The meaning of expressions

An interpretation says what the names and the operators stand for; parentheses stand for nothing. Two
trees mean the same if they have the same value wherever the operators that may be regrouped are
associative. -/

namespace SqlText

universe u v

/-- The trees that names, operators and parentheses make up. -/
inductive Expr.Simple : Expr → Prop where
  | identifier {name} (h : IsName name) : Simple (.identifier (.bare name))
  | binary {l r} (op : BinaryOp) (hl : Simple l) (hr : Simple r) : Simple (.binary l op r)
  | unary {e} (op : UnaryOp) (he : Simple e) : Simple (.unary op e)
  | nested {e} (he : Simple e) : Simple (.nested e)
  | nullTest {e} (negated : Bool) (he : Simple e) : Simple (.nullTest e negated)
  | between {e low high} (negated : Bool) (he : Simple e) (hlow : Simple low) (hhigh : Simple high) :
      Simple (.between e low high negated)

/-- A value for every leaf and a function for every operator. -/
structure Interpretation (V : Type u) where
  /-- The value of a name, and of anything else that is no operator. -/
  leaf : Expr → V
  binary : BinaryOp → V → V → V
  unary : UnaryOp → V → V
  nullTest : (negated : Bool) → V → V
  between : (negated : Bool) → V → V → V → V

namespace Interpretation

variable {V : Type u}

/-- Operators that may be regrouped are associative functions. -/
def Associative (I : Interpretation V) : Prop :=
  ∀ op : BinaryOp, op.isAssociative = true →
    ∀ a b c, I.binary op (I.binary op a b) c = I.binary op a (I.binary op b c)

/-- The value of a tree; parentheses that were asked for do nothing. -/
def eval (I : Interpretation V) : Expr → V
  | .binary l op r => I.binary op (eval I l) (eval I r)
  | .unary op e => I.unary op (eval I e)
  | .nested e => eval I e
  | .nullTest e negated => I.nullTest negated (eval I e)
  | .between e low high negated => I.between negated (eval I e) (eval I low) (eval I high)
  | e => I.leaf e

/-- The same interpretation in a larger universe. -/
def lift (I : Interpretation V) : Interpretation (ULift.{v} V) where
  leaf e := ⟨I.leaf e⟩
  binary op a b := ⟨I.binary op a.down b.down⟩
  unary op a := ⟨I.unary op a.down⟩
  nullTest negated a := ⟨I.nullTest negated a.down⟩
  between negated a low high := ⟨I.between negated a.down low.down high.down⟩

theorem Associative.lift {I : Interpretation V} (hI : I.Associative) : (lift.{u, v} I).Associative :=
  fun op hop a b c => congrArg ULift.up (hI op hop a.down b.down c.down)

theorem eval_lift (I : Interpretation V) (e : Expr) : (lift.{u, v} I).eval e = ⟨I.eval e⟩ := by
  fun_induction eval I e with
  | case1 l op r ihl ihr =>
    rw [eval, ihl, ihr]
    rfl
  | case2 op e ih =>
    rw [eval, ih]
    rfl
  | case3 e ih => rw [eval, ih]
  | case4 e negated ih =>
    rw [eval, ih]
    rfl
  | case5 e low high negated ih ihlow ihhigh =>
    rw [eval, ih, ihlow, ihhigh]
    rfl
  | case6 e hbinary hunary hnested hnull hbetween => exact eval.eq_6 _ e hbinary hunary hnested hnull hbetween

end Interpretation

/-- No associative interpretation tells the trees apart. -/
def Expr.SameMeaning (x y : Expr) : Prop :=
  ∀ (V : Type u) (I : Interpretation V), I.Associative → I.eval x = I.eval y

theorem Expr.SameMeaning.lower {x y : Expr} (h : SameMeaning.{u} x y) : SameMeaning.{0} x y := by
  intro V I hI
  have hlift := h _ (Interpretation.lift.{0, u} I) hI.lift
  rw [I.eval_lift, I.eval_lift] at hlift
  exact congrArg ULift.down hlift

/-! ## A chain with another operator inside -/

namespace Expr

/-- Whether every operator along the left edge that shares the level of `op` is `op` itself. -/
def pureIn (op : BinaryOp) : Expr → Bool
  | .binary l inner _ => inner.precedence ≠ op.precedence || inner = op && pureIn op l
  | _ => true

/-- Whether parentheses are left out only around chains of a single operator. -/
def harmless : Expr → Bool
  | .binary l op r => l.harmless && r.harmless && (!regroups op r || r.pureIn op)
  | .unary _ e => e.harmless
  | .nested e => e.harmless
  | .nullTest e _ => e.harmless
  | .between e low high _ => e.harmless && low.harmless && high.harmless
  | _ => true

/-- The product of `a` and another product, whose first factor is a remainder. -/
def mixedProduct : Expr :=
  .binary (.identifier (.bare "a")) .mul
    (.binary (.binary (.identifier (.bare "b")) .mod (.identifier (.bare "c"))) .mul (.identifier (.bare "d")))

/-- What its text says. -/
def mixedProductRead : Expr :=
  .binary (.binary (.binary (.identifier (.bare "a")) .mul (.identifier (.bare "b"))) .mod (.identifier (.bare "c")))
    .mul (.identifier (.bare "d"))

end Expr

/-- Numbers, with a value for the letters from `a` to `d` such that the grouping shows. -/
def letterValues : Interpretation Nat where
  leaf
    | .identifier ⟨"a", _⟩ => 3
    | .identifier ⟨"b", _⟩ => 2
    | .identifier ⟨"c", _⟩ => 3
    | _ => 1
  binary
    | .mul, m, n => m * n
    | .mod, m, n => m % n
    | _, m, n => m + n
  unary _ n := n
  nullTest _ n := n
  between _ n _ _ := n

theorem letterValues_associative : letterValues.Associative := by
  intro op hop a b c
  cases op with
  | mul => exact Nat.mul_assoc a b c
  | mod => cases hop
  | _ => exact Nat.add_assoc a b c

theorem isName_letter {s : String} (h : s ∈ ["a", "b", "c", "d"]) : IsName s := by
  have hletter : ∀ s ∈ ["a", "b", "c", "d"], PlainWord s ∧ s.utf8ByteSize ≤ 1 := by decide
  exact isName_of_utf8ByteSize_le_one (hletter s h).1 (hletter s h).2

namespace Expr

theorem simple_letter {s : String} (h : s ∈ ["a", "b", "c", "d"]) : (identifier (.bare s)).Simple :=
  .identifier (isName_letter h)

theorem simple_mixedProduct : mixedProduct.Simple :=
  .binary _ (simple_letter (by decide))
    (.binary _ (.binary _ (simple_letter (by decide)) (simple_letter (by decide))) (simple_letter (by decide)))

theorem simple_mixedProductRead : mixedProductRead.Simple :=
  .binary _ (.binary _ (.binary _ (simple_letter (by decide)) (simple_letter (by decide)))
    (simple_letter (by decide))) (simple_letter (by decide))

end Expr

/-- Two trees with one text that differ in value: 3 * ((2 % 3) * 1) is 6 and ((3 * 2) % 3) * 1 is 0. -/
theorem text_hides_grouping : Expr.mixedProduct.Simple ∧ Expr.mixedProductRead.Simple ∧
    toSql Expr.mixedProduct = toSql Expr.mixedProductRead ∧
      ¬ Expr.SameMeaning.{0} Expr.mixedProduct Expr.mixedProductRead := by
  refine ⟨Expr.simple_mixedProduct, Expr.simple_mixedProductRead, by decide, fun hsame => ?_⟩
  have hvalues := hsame Nat letterValues letterValues_associative
  revert hvalues
  decide

end SqlText
