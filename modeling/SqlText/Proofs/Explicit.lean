import SqlText.Proofs.Compose
import SqlText.Proofs.Equality

/-! # Trees with all their parentheses asked for

`explicit` asks at every depth for the parentheses that the text puts around an operand anyway. The
text stays the same, no operand of the new tree is put in parentheses by itself, and a tree like that
is left as it is. -/

namespace SqlText

open Buffer (wrapped)

/-! ## Parentheses that come by themselves -/

namespace Expr

/-- For every operand of `e` whether the text puts it in parentheses. -/
def wraps : Expr → List Bool
  | .binary left op right => [left.needsParens op.precedence, right.needsParens (rightMinimum op right)]
  | .unary op operand => [operand.needsParens op.operandMinimum || op.clashes (toSql operand)]
  | .nullTest operand _ => [operand.needsParens BinaryOp.like.precedence]
  | .between operand low high _ =>
    [operand.needsParens betweenMinimum, low.needsParens betweenMinimum, high.needsParens betweenMinimum]
  | _ => []

/-- One level with the operands as they are by themselves. -/
def plainSpelling : Expr → String
  | .binary left op right => toSql left ++ (op.spelling ++ toSql right)
  | .unary op operand => op.text ++ toSql operand
  | .nullTest operand negated => toSql operand ++ nullTestText negated
  | .between operand low high negated =>
    toSql operand ++ (betweenText negated ++ (toSql low ++ (" AND " ++ toSql high)))
  | e => e.spelling

/-- The operands stand in the text of `e` as they are by themselves. -/
def AddsNoParens (e : Expr) : Prop := toSql e = e.plainSpelling

end Expr

theorem Buffer.length_wrapped (wrap : Bool) (s : String) :
    (wrapped wrap s).length = s.length + 2 * wrap.toNat := by
  have hopen : "(".length = 1 := rfl
  have hclose : ")".length = 1 := rfl
  cases wrap with
  | false => rfl
  | true =>
    simp only [wrapped, if_true, String.length_append, Bool.toNat_true]
    omega

namespace Expr

theorem addsNoParens_iff (e : Expr) : e.AddsNoParens ↔ ∀ wrap ∈ e.wraps, wrap = false := by
  rw [AddsNoParens, toSql_eq]
  constructor
  · intro h
    have hlength := congrArg String.length h
    cases e <;>
      simp only [spelling, plainSpelling, String.length_append, Buffer.length_wrapped] at hlength <;>
      simp only [wraps, List.mem_cons, List.not_mem_nil, or_false, forall_eq_or_imp, forall_eq, false_implies,
        implies_true, ← Bool.toNat_eq_zero] <;>
      omega
  · intro h
    cases e <;> simp_all [wraps, spelling, plainSpelling, wrapped]

end Expr

/-- Operands are in expressions only. -/
def Node.AddsNoParens : Node → Prop
  | expr e => e.AddsNoParens
  | _ => True

/-! ## Asking for them -/

def Expr.nestedIf (wrap : Bool) (e : Expr) : Expr := if wrap then .nested e else e

/-- Asks for the parentheses that the text puts around the operands of `e`. -/
def Expr.parenthesize : Expr → Expr
  | .binary left op right =>
    .binary (nestedIf (left.needsParens op.precedence) left) op
      (nestedIf (right.needsParens (rightMinimum op right)) right)
  | .unary op operand =>
    .unary op (nestedIf (operand.needsParens op.operandMinimum || op.clashes (toSql operand)) operand)
  | .nullTest operand negated =>
    .nullTest (nestedIf (operand.needsParens BinaryOp.like.precedence) operand) negated
  | .between operand low high negated =>
    .between (nestedIf (operand.needsParens betweenMinimum) operand)
      (nestedIf (low.needsParens betweenMinimum) low) (nestedIf (high.needsParens betweenMinimum) high) negated
  | e => e

def Rewrite.explicit : Rewrite where
  expr := Expr.parenthesize

/-- The tree with all parentheses of its text asked for. -/
def Expr.explicit (e : Expr) : Expr := e.rewrite .explicit

def Node.explicit (n : Node) : Node := n.rewrite .explicit

/-! ## Operands -/

theorem BinaryOp.precedence_lt (op : BinaryOp) : op.precedence < Expr.atomPrecedence := by
  cases op <;> decide

theorem UnaryOp.operandMinimum_le (op : UnaryOp) : op.operandMinimum ≤ Expr.atomPrecedence := by
  cases op <;> decide

namespace Expr

theorem toSql_nestedIf (wrap : Bool) (e : Expr) : toSql (nestedIf wrap e) = wrapped wrap (toSql e) := by
  cases wrap with
  | false => rfl
  | true => exact toSql_eq (.nested e)

theorem rightMinimum_le (op : BinaryOp) (e : Expr) : rightMinimum op e ≤ atomPrecedence := by
  have hop := op.precedence_lt
  unfold rightMinimum
  split <;> omega

theorem needsParens_nestedIf (e : Expr) {minimum : Nat} (hmin : minimum ≤ atomPrecedence) (more : Bool) :
    (nestedIf (e.needsParens minimum || more) e).needsParens minimum = false := by
  cases hwrap : e.needsParens minimum || more with
  | true => simpa [nestedIf, needsParens, precedence] using hmin
  | false => exact (Bool.or_eq_false_iff.mp hwrap).1

theorem needsParens_right_nestedIf (op : BinaryOp) (e : Expr) :
    let right := nestedIf (e.needsParens (rightMinimum op e)) e
    right.needsParens (rightMinimum op right) = false := by
  -- in parentheses it no longer goes on with a chain, and bare it still does
  cases hwrap : e.needsParens (rightMinimum op e) with
  | true => simpa [nestedIf, needsParens, precedence] using rightMinimum_le op (.nested e)
  | false => exact hwrap

theorem wrap_sign_nestedIf (op : UnaryOp) (e : Expr) :
    let operand := nestedIf (e.needsParens op.operandMinimum || op.clashes (toSql e)) e
    (operand.needsParens op.operandMinimum || op.clashes (toSql operand)) = false := by
  -- parentheses do not clash with a sign, and where there are none nothing did before
  rw [Bool.or_eq_false_iff, toSql_nestedIf]
  exact ⟨needsParens_nestedIf e op.operandMinimum_le _, op.clashes_operand _ _⟩

theorem wraps_parenthesize (e : Expr) : ∀ wrap ∈ e.parenthesize.wraps, wrap = false := by
  have hbare (o : Expr) {minimum : Nat} (hmin : minimum ≤ atomPrecedence) :
      (nestedIf (o.needsParens minimum) o).needsParens minimum = false := by
    simpa using needsParens_nestedIf o hmin false
  cases e with
  | binary l op r =>
    simp only [parenthesize, wraps, List.mem_cons, List.not_mem_nil, or_false, forall_eq_or_imp, forall_eq]
    exact ⟨hbare l op.precedence_lt.le, needsParens_right_nestedIf op r⟩
  | unary op e =>
    simp only [parenthesize, wraps, List.mem_singleton, forall_eq]
    exact wrap_sign_nestedIf op e
  | nullTest e negated =>
    simp only [parenthesize, wraps, List.mem_singleton, forall_eq]
    exact hbare e (by decide)
  | between e low high negated =>
    simp only [parenthesize, wraps, List.mem_cons, List.not_mem_nil, or_false, forall_eq_or_imp, forall_eq]
    exact ⟨hbare e (by decide), hbare low (by decide), hbare high (by decide)⟩
  | _ => simp [parenthesize, wraps]

theorem addsNoParens_parenthesize (e : Expr) : e.parenthesize.AddsNoParens :=
  (addsNoParens_iff _).mpr e.wraps_parenthesize

theorem toSql_parenthesize (e : Expr) : toSql e.parenthesize = toSql e := by
  rw [e.addsNoParens_parenthesize, e.toSql_eq]
  cases e with
  | binary | unary | nullTest | between => simp only [parenthesize, plainSpelling, spelling, toSql_nestedIf]
  | _ => rfl

theorem parenthesize_eq_self {e : Expr} (h : ∀ wrap ∈ e.wraps, wrap = false) : e.parenthesize = e := by
  cases e <;> simp_all [parenthesize, wraps, nestedIf]

end Expr

/-! ## The text stays -/

theorem Rewrite.explicit_keepsText : explicit.KeepsText where
  toSql_eq := Expr.toSql_parenthesize
  precedence_eq e := by
    cases e with
    | unary op operand => cases op <;> rfl
    | _ => rfl
  regroups_eq op e := by cases e <;> rfl

theorem Congruent.eq : Congruent (· = ·) where
  fixed _ _ := rfl
  lead s _ _ _ h := congrArg (s ++ ·) h
  append _ _ _ _ hs ht _ _ := congrArg₂ (· ++ ·) hs ht
  parens _ _ h := by rw [h]
  sign _ _ _ _ h := by rw [h]

theorem Node.toSql_explicit (n : Node) : toSql n.explicit = toSql n := by
  have hleaf (m : Node) : m.LeafRel (· = ·) .explicit := by cases m <;> first | rfl | trivial
  exact (Congruent.eq.holds Rewrite.explicit_keepsText n fun m _ => hleaf m).symm

/-! ## Every depth -/

def Node.nestedIf (wrap : Bool) : Node → Node
  | expr e => expr (e.nestedIf wrap)
  | n => n

@[simp] theorem Node.nestedIf_false (n : Node) : n.nestedIf false = n := by
  cases n <;> rfl

theorem Expr.mem_children_parenthesize {e : Expr} {m : Node} (h : m ∈ e.parenthesize.children) :
    ∃ c ∈ e.children, ∃ wrap, m = c.nestedIf wrap := by
  cases e with
  | binary l op r =>
    simp only [parenthesize, children, List.mem_cons, List.not_mem_nil, or_false] at h
    rcases h with rfl | rfl
    · exact ⟨.expr l, by simp [children], _, rfl⟩
    · exact ⟨.expr r, by simp [children], _, rfl⟩
  | between e low high negated =>
    simp only [parenthesize, children, List.mem_cons, List.not_mem_nil, or_false] at h
    rcases h with rfl | rfl | rfl
    · exact ⟨.expr e, by simp [children], _, rfl⟩
    · exact ⟨.expr low, by simp [children], _, rfl⟩
    · exact ⟨.expr high, by simp [children], _, rfl⟩
  | unary op e | nullTest e negated =>
    obtain rfl := List.mem_singleton.mp h
    exact ⟨.expr e, by simp [children], _, rfl⟩
  | _ => exact ⟨m, h, false, m.nestedIf_false.symm⟩

namespace Node

theorem mem_children_explicit {n m : Node} (h : m ∈ n.explicit.children) :
    ∃ c ∈ n.children, ∃ wrap, m = c.explicit.nestedIf wrap := by
  have hparts : ∃ c ∈ (n.rewriteParts .explicit).children, ∃ wrap, m = c.nestedIf wrap := by
    cases n with
    | expr e =>
      rw [explicit, rewrite, e.rewrite_eq] at h
      exact Expr.mem_children_parenthesize h
    | _ => exact ⟨m, h, false, m.nestedIf_false.symm⟩
  obtain ⟨c, hc, wrap, rfl⟩ := hparts
  rw [children_rewriteParts] at hc
  obtain ⟨d, hd, rfl⟩ := List.mem_map.mp hc
  exact ⟨d, hd, wrap, rfl⟩

theorem every_explicit {p q : Node → Prop} (hstep : ∀ n, p n → q n.explicit) (hparens : ∀ e, q (expr (.nested e)))
    {n : Node} (h : n.Every p) : n.explicit.Every q := by
  induction n using induct with
  | step n ih =>
    refine every_iff.mpr ⟨hstep n h.here, fun m hm => ?_⟩
    obtain ⟨c, hc, wrap, rfl⟩ := mem_children_explicit hm
    have hchild : c.explicit.Every q := ih c hc (h.child hc)
    cases wrap with
    | false => rwa [nestedIf_false]
    | true =>
      cases c with
      | expr e => exact every_nested.mpr ⟨hparens _, hchild⟩
      | _ => exact hchild

theorem every_addsNoParens_explicit (n : Node) : n.explicit.Every AddsNoParens := by
  have hstep (m : Node) : m.explicit.AddsNoParens := by
    cases m with
    | expr e =>
      rw [explicit, rewrite, e.rewrite_eq]
      exact Expr.addsNoParens_parenthesize _
    | _ => trivial
  have hparens (e : Expr) : (expr (.nested e)).AddsNoParens :=
    (Expr.addsNoParens_iff _).mpr (by simp [Expr.wraps])
  exact every_explicit (p := fun _ => True) (fun m _ => hstep m) hparens fun _ _ => trivial

theorem every_numberLiteral_explicit {n : Node} (h : n.Every NumberLiteral) : n.explicit.Every NumberLiteral := by
  refine every_explicit (fun m hm => ?_) (fun _ => trivial) h
  cases m with
  | literal l => exact hm
  | _ => trivial

end Node

/-! ## Explicit trees stay as they are -/

namespace Node

theorem label_rewriteParts {r : Rewrite} (hliteral : ∀ l, r.literal l = l) (hidentifier : ∀ i, r.identifier i = i)
    (n : Node) : (n.rewriteParts r).label = n.label := by
  cases n with
  | frameUnit | namedWindow => rfl
  | identifier i => simp [rewriteParts, rewrite, hidentifier]
  | literal l => simp [rewriteParts, rewrite, hliteral]
  | expr e => cases e <;> rfl
  | orderItem x => cases x; rfl
  | call c =>
    obtain ⟨name, args, distinct, window⟩ := c
    simp [label, mark, kind, rewriteParts, rewrite, Call.rewrite, Call.label]
  | frameBound bound => cases bound <;> rfl
  | frame f => obtain ⟨unit, start, _ | stop⟩ := f <;> rfl
  | windowSpec s =>
    obtain ⟨es, items, frame⟩ := s
    cases items <;> simp [label, mark, kind, rewriteParts, rewrite, WindowSpec.rewrite, WindowSpec.label]
  | window w => cases w <;> rfl

theorem explicit_eq_self {n : Node} (h : n.Every AddsNoParens) : n.explicit = n := by
  induction n using induct with
  | step n ih =>
    have hbelow : ∀ m ∈ n.children, m.rewrite .explicit = m := fun m hm => ih m hm (h.child hm)
    have hparts : n.rewriteParts .explicit = n := by
      have hchildren : (n.rewriteParts .explicit).children = n.children := by
        rw [children_rewriteParts, List.map_congr_left hbelow, List.map_id']
      have hlabel : (n.rewriteParts .explicit).label = n.label :=
        label_rewriteParts (fun _ => rfl) (fun _ => rfl) n
      cases n with
      | literal l => rfl
      | _ => exact eq_of_label hlabel hchildren trivial
    cases n with
    | expr e =>
      have he : e.rewriteParts .explicit = e := expr.inj hparts
      have hwraps := (Expr.addsNoParens_iff e).mp h.here
      rw [explicit, rewrite, e.rewrite_eq, he]
      exact congrArg expr (Expr.parenthesize_eq_self hwraps)
    | _ => exact hparts

/-- The trees without parentheses of their own are the explicit ones. -/
theorem explicit_eq_self_iff {n : Node} : n.explicit = n ↔ n.Every AddsNoParens :=
  ⟨fun h => h ▸ every_addsNoParens_explicit n, explicit_eq_self⟩

end Node

/-- A tree and its explicit form have one text, to which no operand of the explicit form adds parentheses;
and the explicit form is its own, also as far as equality can tell if there is no NaN in it. -/
theorem Expr.explicit_parentheses (e : Expr) :
    toSql e.explicit = toSql e ∧ (Node.expr e.explicit).Every Node.AddsNoParens ∧
      e.explicit.explicit = e.explicit ∧
      ((Node.expr e).Every Node.NumberLiteral → (e.explicit.explicit == e.explicit) = true) := by
  have hsame : e.explicit.explicit = e.explicit :=
    Node.expr.inj (Node.explicit_eq_self (Node.every_addsNoParens_explicit (.expr e)))
  refine ⟨Node.toSql_explicit (.expr e), Node.every_addsNoParens_explicit (.expr e), hsame, fun h => ?_⟩
  rw [hsame]
  exact (Node.equals_self_iff _).mpr (Node.every_numberLiteral_explicit h)

theorem Expr.explicit_difference :
    let zero := Expr.literal (.float ⟨0x8000000000000000⟩)
    let negation := Expr.unary .not (.identifier (.bare "a"))
    let e := Expr.binary (.unary .neg zero) .sub (.binary zero .sub (.nullTest negation false))
    toSql e = "-(-0.0) - (-0.0 - ((NOT a) IS NULL))" ∧
      e.explicit = .binary (.unary .neg (.nested zero)) .sub
        (.nested (.binary zero .sub (.nested (.nullTest (.nested negation) false)))) ∧
      (Node.expr e).Every Node.NumberLiteral ∧ (e.explicit.explicit == e.explicit) = true := by
  intro zero negation e
  have hnumber : (Node.expr e).Every Node.NumberLiteral := by
    have hnan : (⟨0x8000000000000000⟩ : Binary64).isNaN = false := by decide
    simp [e, zero, negation, Node.NumberLiteral, Literal.IsNumber, hnan]
  exact ⟨by decide, by cbv, hnumber, e.explicit_parentheses.2.2.2 hnumber⟩

end SqlText
