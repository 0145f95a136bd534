import SqlText.Proofs.Settle

/-! # Chains of one operator

However the operands of an associative operator are grouped in twos, the text is the row of them with
the operator in between. A single operand is no chain and is written as it is. -/

namespace SqlText

open Buffer (wrapped)

/-- A way to group a row of operands in twos. -/
inductive Grouping where
  | operand (e : Expr)
  | pair (left right : Grouping)

namespace Grouping

/-- From left to right. -/
def operands : Grouping → List Expr
  | operand e => [e]
  | pair left right => left.operands ++ right.operands

/-- The tree of a grouping, with the same operator at each pair. -/
def expr (op : BinaryOp) : Grouping → Expr
  | operand e => e
  | pair left right => .binary (left.expr op) op (right.expr op)

/-- An operand beside `op`, in parentheses if it is looser. -/
def operandText (op : BinaryOp) (e : Expr) : String := wrapped (e.precedence < op.precedence) (toSql e)

/-- The text of a row of operands. -/
def rowText (op : BinaryOp) : List Expr → String
  | [e] => toSql e
  | es => op.spelling.intercalate (es.map (operandText op))

theorem operands_ne_nil (t : Grouping) : t.operands ≠ [] := by
  induction t with
  | operand e => simp [operands]
  | pair left right ihl ihr => simp [operands, ihl]

/-- What stands for `t` inside a longer chain. -/
def linkText (op : BinaryOp) (t : Grouping) : String :=
  wrapped ((t.expr op).needsParens op.precedence) (toSql (t.expr op))

variable {op : BinaryOp}

theorem toSql_pair (hassoc : op.isAssociative = true) (left : Grouping) {right : Grouping}
    (h : ∀ e ∈ right.operands, e.precedence ≠ op.precedence) :
    toSql ((pair left right).expr op) = left.linkText op ++ (op.spelling ++ right.linkText op) := by
  cases right with
  | operand e => exact Expr.toSql_link (h e List.mem_cons_self)
  | pair l r =>
    have hmin : Expr.rightMinimum op ((pair l r).expr op) = op.precedence := by
      simp [Expr.rightMinimum, expr, Expr.regroups, hassoc]
    rw [expr, Expr.toSql_eq, Expr.spelling, hmin, linkText, linkText]

theorem linkText_eq (hassoc : op.isAssociative = true) {t : Grouping}
    (h : ∀ e ∈ t.operands, e.precedence ≠ op.precedence) :
    t.linkText op = op.spelling.intercalate (t.operands.map (operandText op)) := by
  induction t with
  | operand e => exact String.intercalate_singleton.symm
  | pair left right ihl ihr =>
    obtain ⟨hleft, hright⟩ := List.forall_mem_append.mp h
    have hbare : ((pair left right).expr op).needsParens op.precedence = false := Expr.needsParens_of_precedence
    have hl : left.operands.map (operandText op) ≠ [] := by simpa using left.operands_ne_nil
    have hr : right.operands.map (operandText op) ≠ [] := by simpa using right.operands_ne_nil
    calc (pair left right).linkText op
        = toSql ((pair left right).expr op) := by rw [linkText, hbare, wrapped, if_neg (by decide)]
      _ = left.linkText op ++ (op.spelling ++ right.linkText op) := toSql_pair hassoc left hright
      _ = op.spelling.intercalate ((pair left right).operands.map (operandText op)) := by
        rw [ihl hleft, ihr hright, operands, List.map_append, String.intercalate_append_of_ne_nil hl hr,
          String.append_assoc]

theorem rowText_of_one_lt {es : List Expr} (h : 1 < es.length) :
    rowText op es = op.spelling.intercalate (es.map (operandText op)) := by
  match es, h with
  | _ :: _ :: _, _ => rfl

theorem toSql_eq_rowText (hassoc : op.isAssociative = true) {t : Grouping}
    (h : ∀ e ∈ t.operands, e.precedence ≠ op.precedence) :
    toSql (t.expr op) = rowText op t.operands := by
  cases t with
  | operand e => rfl
  | pair left right =>
    have hlink := linkText_eq hassoc h
    have hbare : ((pair left right).expr op).needsParens op.precedence = false := Expr.needsParens_of_precedence
    have hleft := List.length_pos_of_ne_nil left.operands_ne_nil
    have hright := List.length_pos_of_ne_nil right.operands_ne_nil
    have hlength : 1 < (pair left right).operands.length := by
      rw [operands, List.length_append]
      omega
    rw [rowText_of_one_lt hlength, ← hlink, linkText, hbare, wrapped, if_neg (by decide)]

/-- The text of a chain does not show how it is grouped: it is the text of the row of its operands, each in
parentheses if it is looser than the operator. -/
theorem toSql_of_operands (hassoc : op.isAssociative = true) {t : Grouping}
    (h : ∀ e ∈ t.operands, e.precedence ≠ op.precedence) :
    toSql (t.expr op) = rowText op t.operands ∧
      ∀ u : Grouping, u.operands = t.operands → toSql (u.expr op) = toSql (t.expr op) := by
  have ht := toSql_eq_rowText hassoc h
  refine ⟨ht, fun u hu => ?_⟩
  rw [ht, ← hu]
  exact toSql_eq_rowText hassoc (hu ▸ h)

theorem toSql_of_three_operands :
    let name (s : String) := Expr.identifier (.bare s)
    let either := Expr.binary (name "b") .or (name "c")
    let product := Expr.binary (name "d") .mul (name "e")
    let toRight := pair (operand (name "a")) (pair (operand either) (operand product))
    let toLeft := pair (pair (operand (name "a")) (operand either)) (operand product)
    (∀ e ∈ toRight.operands, e.precedence ≠ BinaryOp.add.precedence) ∧
      rowText .add toRight.operands = "a + (b OR c) + d * e" ∧
      toSql (toRight.expr .add) = rowText .add toRight.operands ∧
      toSql (toLeft.expr .add) = toSql (toRight.expr .add) := by
  intro name either product toRight toLeft
  have hlevels : ∀ e ∈ toRight.operands, e.precedence ≠ BinaryOp.add.precedence := by decide
  have htext := toSql_of_operands rfl hlevels
  exact ⟨hlevels, by decide, htext.1, htext.2 toLeft rfl⟩

/-- With no operator beside it even a loose operand is bare. -/
theorem single_operand_is_bare :
    let e := Expr.binary (.identifier (.bare "a")) .or (.identifier (.bare "b"))
    BinaryOp.and.isAssociative = true ∧ (∀ x ∈ (operand e).operands, x.precedence ≠ BinaryOp.and.precedence) ∧
      toSql ((operand e).expr .and) = "a OR b" ∧
      BinaryOp.and.spelling.intercalate ((operand e).operands.map (operandText .and)) = "(a OR b)" ∧
      toSql ((operand e).expr .and) ≠
        BinaryOp.and.spelling.intercalate ((operand e).operands.map (operandText .and)) := by
  decide

end Grouping

end SqlText
