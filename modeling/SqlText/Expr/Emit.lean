import SqlText.Expr.Basic

/-! # The text of expressions and windows

An operand is put in parentheses when it binds looser than its place allows. Operators group to the
left, so a right operand has to bind tighter than the operator, unless it is a chain of the same
associative operator. -/

namespace SqlText

/-! ## Binding strength -/

namespace Expr

/-- `NOT` binds looser than a comparison and as tight as `AND`. -/
def notPrecedence : Nat := 2

/-- Tighter than every operator. -/
def atomPrecedence : Nat := 255

/-- How tightly an expression holds together. -/
def precedence : Expr → Nat
  | binary _ op _ => op.precedence
  | unary .not _ => notPrecedence
  | nullTest .. => BinaryOp.eq.precedence
  | between .. => BinaryOp.like.precedence
  | _ => atomPrecedence

/-- Whether `right` continues a chain of `op` that may be grouped either way. -/
def regroups (op : BinaryOp) : Expr → Bool
  | binary _ inner _ => op.isAssociative && inner = op
  | _ => false

/-- On the right of an operator the same operator needs parentheses, unless the chain may be regrouped. -/
def rightMinimum (op : BinaryOp) (right : Expr) : Nat :=
  if regroups op right then op.precedence else op.precedence + 1

/-- Whether an operand binds looser than its place allows. -/
def needsParens (operand : Expr) (minimum : Nat) : Bool := operand.precedence < minimum

/-- All three operands of a range test bind tighter than `LIKE`. -/
def betweenMinimum : Nat := BinaryOp.like.precedence + 1

end Expr

/-- `NOT` takes a comparison as it is; a sign takes atoms only. -/
def UnaryOp.operandMinimum : UnaryOp → Nat
  | not => BinaryOp.eq.precedence
  | neg | bitNot => Expr.atomPrecedence

/-- Two minus signs in a row would start a comment. -/
def UnaryOp.clashes (op : UnaryOp) (operandText : String) : Bool :=
  op = .neg && operandText.toList.head? = some '-'

/-! ## Writing -/

/-- Separates a section from the one before it, if there is one. -/
def Buffer.gap (b : Buffer) (follows : Bool) : Buffer := if follows then b.push " " else b

mutual

/-- The operand of a sign is written apart first, as its first character matters. -/
def Expr.emit : Expr → Buffer → Buffer
  | .literal value, b => b.add value
  | .identifier name, b => b.add name
  | .compound parts, b => b.addSeparated "." parts
  | .binary left op right, b =>
    let wrapLeft := left.needsParens op.precedence
    let wrapRight := right.needsParens (Expr.rightMinimum op right)
    let b := (left.emit (b.openIf wrapLeft)).closeIf wrapLeft
    let b := ((b.push " ").push op.text).push " "
    (right.emit (b.openIf wrapRight)).closeIf wrapRight
  | .unary op operand, b =>
    let inner := (operand.emit .empty).text
    let wrap := operand.needsParens op.operandMinimum || op.clashes inner
    (((b.push op.text).openIf wrap).push inner).closeIf wrap
  | .call call, b => call.emit b
  | .nested inner, b => (inner.emit (b.push "(")).push ")"
  | .nullTest operand negated, b =>
    let wrap := operand.needsParens BinaryOp.like.precedence
    let b := (operand.emit (b.openIf wrap)).closeIf wrap
    b.push (if negated then " IS NOT NULL" else " IS NULL")
  | .between operand low high negated, b =>
    let wrap := operand.needsParens Expr.betweenMinimum
    let wrapLow := low.needsParens Expr.betweenMinimum
    let wrapHigh := high.needsParens Expr.betweenMinimum
    let b := (operand.emit (b.openIf wrap)).closeIf wrap
    let b := b.push (if negated then " NOT BETWEEN " else " BETWEEN ")
    let b := ((low.emit (b.openIf wrapLow)).closeIf wrapLow).push " AND "
    (high.emit (b.openIf wrapHigh)).closeIf wrapHigh
  | .wildcard, b => b.push "*"

def Expr.emitList : List Expr → Buffer → Buffer
  | [], b => b
  | e :: rest, b => Expr.emitRest rest (e.emit b)

/-- The elements after the first. -/
def Expr.emitRest : List Expr → Buffer → Buffer
  | [], b => b
  | e :: rest, b => Expr.emitRest rest (e.emit (b.push ", "))

/-- The parentheses are there without arguments too. -/
def Call.emit : Call → Buffer → Buffer
  | ⟨name, args, distinct, window⟩, b =>
    let b := (b.push name).push "("
    let b := if distinct then b.push "DISTINCT " else b
    Window.emitOver window ((Expr.emitList args b).push ")")

def Window.emitOver : Option Window → Buffer → Buffer
  | none, b => b
  | some window, b => window.emit (b.push " OVER ")

def Window.emit : Window → Buffer → Buffer
  | .inline spec, b => (spec.emit (b.push "(")).push ")"
  | .named name, b => b.add name

/-- Only the sections that are there are written, one space apart. -/
def WindowSpec.emit : WindowSpec → Buffer → Buffer
  | ⟨partitionBy, orderBy, frame⟩, b =>
    let partitioned := !partitionBy.isEmpty
    let b := if partitioned then Expr.emitList partitionBy (b.push "PARTITION BY ") else b
    let b := OrderItem.emitSection orderBy partitioned b
    Frame.emitSection frame (partitioned || orderBy.isSome) b

/-- An order without items leaves its two words. -/
def OrderItem.emitSection : Option (List OrderItem) → (follows : Bool) → Buffer → Buffer
  | none, _, b => b
  | some items, follows, b => OrderItem.emitList items ((b.gap follows).push "ORDER BY ")

def Frame.emitSection : Option Frame → (follows : Bool) → Buffer → Buffer
  | none, _, b => b
  | some frame, follows, b => frame.emit (b.gap follows)

def OrderItem.emit : OrderItem → Buffer → Buffer
  | ⟨expr, direction, nulls⟩, b =>
    let b := expr.emit b
    let b := match direction with
      | none => b
      | some direction => (b.push " ").push direction.text
    match nulls with
    | none => b
    | some nulls => (b.push " ").push nulls.text

def OrderItem.emitList : List OrderItem → Buffer → Buffer
  | [], b => b
  | item :: rest, b => OrderItem.emitRest rest (item.emit b)

def OrderItem.emitRest : List OrderItem → Buffer → Buffer
  | [], b => b
  | item :: rest, b => OrderItem.emitRest rest (item.emit (b.push ", "))

def FrameBound.emit : FrameBound → Buffer → Buffer
  | .currentRow, b => b.push "CURRENT ROW"
  | .unboundedPreceding, b => b.push "UNBOUNDED PRECEDING"
  | .preceding offset, b => (offset.emit b).push " PRECEDING"
  | .unboundedFollowing, b => b.push "UNBOUNDED FOLLOWING"
  | .following offset, b => (offset.emit b).push " FOLLOWING"

def Frame.emit : Frame → Buffer → Buffer
  | ⟨unit, start, none⟩, b => start.emit ((b.add unit).push " ")
  | ⟨unit, start, some stop⟩, b =>
    stop.emit ((start.emit ((b.add unit).push " BETWEEN ")).push " AND ")

end

def NamedWindow.emit (w : NamedWindow) (b : Buffer) : Buffer :=
  (w.spec.emit ((b.add w.name).push " as (")).push ")"

instance : Emit Expr := ⟨Expr.emit⟩
instance : Emit Call := ⟨Call.emit⟩
instance : Emit Window := ⟨Window.emit⟩
instance : Emit WindowSpec := ⟨WindowSpec.emit⟩
instance : Emit OrderItem := ⟨OrderItem.emit⟩
instance : Emit FrameBound := ⟨FrameBound.emit⟩
instance : Emit Frame := ⟨Frame.emit⟩
instance : Emit NamedWindow := ⟨NamedWindow.emit⟩

instance : ToString Expr := ⟨toSql⟩
instance : ToString Call := ⟨toSql⟩
instance : ToString Window := ⟨toSql⟩
instance : ToString WindowSpec := ⟨toSql⟩
instance : ToString OrderItem := ⟨toSql⟩
instance : ToString FrameBound := ⟨toSql⟩
instance : ToString Frame := ⟨toSql⟩
instance : ToString NamedWindow := ⟨toSql⟩

/-! ## Lists inside the family -/

theorem Expr.emitRest_eq_foldl (es : List Expr) (b : Buffer) :
    Expr.emitRest es b = es.foldl (fun b e => (b.push ", ").add e) b := by
  induction es generalizing b with
  | nil => rfl
  | cons e rest ih => exact ih _

theorem Expr.emitList_eq (es : List Expr) (b : Buffer) :
    Expr.emitList es b = b.addCommaSeparated es := by
  cases es with
  | nil => rfl
  | cons e rest => exact Expr.emitRest_eq_foldl rest _

theorem OrderItem.emitRest_eq_foldl (items : List OrderItem) (b : Buffer) :
    OrderItem.emitRest items b = items.foldl (fun b x => (b.push ", ").add x) b := by
  induction items generalizing b with
  | nil => rfl
  | cons x rest ih => exact ih _

theorem OrderItem.emitList_eq (items : List OrderItem) (b : Buffer) :
    OrderItem.emitList items b = b.addCommaSeparated items := by
  cases items with
  | nil => rfl
  | cons x rest => exact OrderItem.emitRest_eq_foldl rest _

end SqlText
