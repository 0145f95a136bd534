import SqlText.Expr.Basic

/-! # Equality of expressions and windows

Two trees are equal when they have the same shape and equal leaves. Floats among the leaves are
compared as numbers, so a tree with a NaN in it does not equal itself, and two trees that differ in
the sign of a zero are equal. -/

namespace SqlText

mutual

def Expr.beq : Expr → Expr → Bool
  | .literal a, .literal b => a == b
  | .identifier a, .identifier b => a = b
  | .compound as, .compound bs => as = bs
  | .binary l op r, .binary l' op' r' => l.beq l' && op = op' && r.beq r'
  | .unary op e, .unary op' e' => op = op' && e.beq e'
  | .call a, .call b => a.beq b
  | .nested a, .nested b => a.beq b
  | .nullTest e negated, .nullTest e' negated' => e.beq e' && negated = negated'
  | .between e low high negated, .between e' low' high' negated' =>
    e.beq e' && low.beq low' && high.beq high' && negated = negated'
  | .wildcard, .wildcard => true
  | _, _ => false

def Expr.beqList : List Expr → List Expr → Bool
  | [], [] => true
  | a :: as, b :: bs => a.beq b && Expr.beqList as bs
  | _, _ => false

def Call.beq : Call → Call → Bool
  | ⟨name, args, distinct, window⟩, ⟨name', args', distinct', window'⟩ =>
    name = name' && Expr.beqList args args' && distinct = distinct' && Window.beqOption window window'

def Window.beqOption : Option Window → Option Window → Bool
  | none, none => true
  | some a, some b => a.beq b
  | _, _ => false

def Window.beq : Window → Window → Bool
  | .inline a, .inline b => a.beq b
  | .named a, .named b => a = b
  | _, _ => false

/-- An order without items is not the same as none. -/
def WindowSpec.beq : WindowSpec → WindowSpec → Bool
  | ⟨partitionBy, orderBy, frame⟩, ⟨partitionBy', orderBy', frame'⟩ =>
    Expr.beqList partitionBy partitionBy' && OrderItem.beqOption orderBy orderBy' &&
      Frame.beqOption frame frame'

def OrderItem.beqOption : Option (List OrderItem) → Option (List OrderItem) → Bool
  | none, none => true
  | some as, some bs => OrderItem.beqList as bs
  | _, _ => false

def OrderItem.beqList : List OrderItem → List OrderItem → Bool
  | [], [] => true
  | a :: as, b :: bs => a.beq b && OrderItem.beqList as bs
  | _, _ => false

def OrderItem.beq : OrderItem → OrderItem → Bool
  | ⟨e, direction, nulls⟩, ⟨e', direction', nulls'⟩ =>
    e.beq e' && direction = direction' && nulls = nulls'

def Frame.beqOption : Option Frame → Option Frame → Bool
  | none, none => true
  | some a, some b => a.beq b
  | _, _ => false

def Frame.beq : Frame → Frame → Bool
  | ⟨unit, start, stop⟩, ⟨unit', start', stop'⟩ =>
    unit = unit' && start.beq start' && FrameBound.beqOption stop stop'

def FrameBound.beqOption : Option FrameBound → Option FrameBound → Bool
  | none, none => true
  | some a, some b => a.beq b
  | _, _ => false

def FrameBound.beq : FrameBound → FrameBound → Bool
  | .currentRow, .currentRow => true
  | .unboundedPreceding, .unboundedPreceding => true
  | .preceding a, .preceding b => a.beq b
  | .unboundedFollowing, .unboundedFollowing => true
  | .following a, .following b => a.beq b
  | _, _ => false

end

def NamedWindow.beq (a b : NamedWindow) : Bool := a.name = b.name && a.spec.beq b.spec

instance : BEq Expr := ⟨Expr.beq⟩
instance : BEq Call := ⟨Call.beq⟩
instance : BEq Window := ⟨Window.beq⟩
instance : BEq WindowSpec := ⟨WindowSpec.beq⟩
instance : BEq OrderItem := ⟨OrderItem.beq⟩
instance : BEq Frame := ⟨Frame.beq⟩
instance : BEq FrameBound := ⟨FrameBound.beq⟩
instance : BEq NamedWindow := ⟨NamedWindow.beq⟩

end SqlText
