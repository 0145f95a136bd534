import SqlText.Proofs.Subnode

/-! # Rewriting a tree from its leaves up

A rewrite says what becomes of a literal, of an identifier and of an expression. It is carried out at
every depth, on an expression after its parts. -/

namespace SqlText

/-- What becomes of the literals, the identifiers and the expressions of a tree. -/
structure Rewrite where
  literal : Literal → Literal := fun l => l
  identifier : Identifier → Identifier := fun i => i
  /-- What becomes of an expression whose parts are rewritten already. -/
  expr : Expr → Expr := fun e => e

mutual

/-- The parts come first, so that `r.expr` sees them rewritten. -/
def Expr.rewrite (r : Rewrite) : Expr → Expr
  | .literal value => r.expr (.literal (r.literal value))
  | .identifier name => r.expr (.identifier (r.identifier name))
  | .compound parts => r.expr (.compound (parts.map r.identifier))
  | .binary left op right => r.expr (.binary (left.rewrite r) op (right.rewrite r))
  | .unary op operand => r.expr (.unary op (operand.rewrite r))
  | .call call => r.expr (.call (call.rewrite r))
  | .nested inner => r.expr (.nested (inner.rewrite r))
  | .nullTest operand negated => r.expr (.nullTest (operand.rewrite r) negated)
  | .between operand low high negated =>
    r.expr (.between (operand.rewrite r) (low.rewrite r) (high.rewrite r) negated)
  | .wildcard => r.expr .wildcard

def Expr.rewriteList (r : Rewrite) : List Expr → List Expr
  | [] => []
  | e :: rest => e.rewrite r :: Expr.rewriteList r rest

/-- The name of a function is no identifier. -/
def Call.rewrite (r : Rewrite) : Call → Call
  | ⟨name, args, distinct, window⟩ => ⟨name, Expr.rewriteList r args, distinct, Window.rewriteOption r window⟩

def Window.rewriteOption (r : Rewrite) : Option Window → Option Window
  | none => none
  | some window => some (window.rewrite r)

def Window.rewrite (r : Rewrite) : Window → Window
  | .inline spec => .inline (spec.rewrite r)
  | .named name => .named (r.identifier name)

def WindowSpec.rewrite (r : Rewrite) : WindowSpec → WindowSpec
  | ⟨partitionBy, orderBy, frame⟩ =>
    ⟨Expr.rewriteList r partitionBy, OrderItem.rewriteOption r orderBy, Frame.rewriteOption r frame⟩

def OrderItem.rewriteOption (r : Rewrite) : Option (List OrderItem) → Option (List OrderItem)
  | none => none
  | some items => some (OrderItem.rewriteList r items)

def OrderItem.rewriteList (r : Rewrite) : List OrderItem → List OrderItem
  | [] => []
  | item :: rest => item.rewrite r :: OrderItem.rewriteList r rest

def OrderItem.rewrite (r : Rewrite) : OrderItem → OrderItem
  | ⟨expr, direction, nulls⟩ => ⟨expr.rewrite r, direction, nulls⟩

def Frame.rewriteOption (r : Rewrite) : Option Frame → Option Frame
  | none => none
  | some frame => some (frame.rewrite r)

def Frame.rewrite (r : Rewrite) : Frame → Frame
  | ⟨unit, start, stop⟩ => ⟨unit, start.rewrite r, FrameBound.rewriteOption r stop⟩

def FrameBound.rewriteOption (r : Rewrite) : Option FrameBound → Option FrameBound
  | none => none
  | some bound => some (bound.rewrite r)

def FrameBound.rewrite (r : Rewrite) : FrameBound → FrameBound
  | .currentRow => .currentRow
  | .unboundedPreceding => .unboundedPreceding
  | .preceding offset => .preceding (offset.rewrite r)
  | .unboundedFollowing => .unboundedFollowing
  | .following offset => .following (offset.rewrite r)

end

def NamedWindow.rewrite (r : Rewrite) (w : NamedWindow) : NamedWindow := ⟨r.identifier w.name, w.spec.rewrite r⟩

/-- An expression that is left as it is while its parts are rewritten. -/
def Expr.rewriteParts (r : Rewrite) : Expr → Expr
  | .literal value => .literal (r.literal value)
  | .identifier name => .identifier (r.identifier name)
  | .compound parts => .compound (parts.map r.identifier)
  | .binary left op right => .binary (left.rewrite r) op (right.rewrite r)
  | .unary op operand => .unary op (operand.rewrite r)
  | .call c => .call (c.rewrite r)
  | .nested inner => .nested (inner.rewrite r)
  | .nullTest operand negated => .nullTest (operand.rewrite r) negated
  | .between operand low high negated =>
    .between (operand.rewrite r) (low.rewrite r) (high.rewrite r) negated
  | .wildcard => .wildcard

namespace Node

def rewrite (r : Rewrite) : Node → Node
  | identifier i => identifier (r.identifier i)
  | literal l => literal (r.literal l)
  | expr e => expr (e.rewrite r)
  | call c => call (c.rewrite r)
  | orderItem x => orderItem (x.rewrite r)
  | frameUnit u => frameUnit u
  | frameBound bound => frameBound (bound.rewrite r)
  | frame f => frame (f.rewrite r)
  | windowSpec s => windowSpec (s.rewrite r)
  | namedWindow w => namedWindow (w.rewrite r)
  | window w => window (w.rewrite r)

/-- Only an expression can be told from itself with its parts rewritten. -/
def rewriteParts (r : Rewrite) : Node → Node
  | expr e => expr (e.rewriteParts r)
  | n => n.rewrite r

end Node

variable {r : Rewrite}

theorem Expr.rewrite_eq (e : Expr) : e.rewrite r = r.expr (e.rewriteParts r) := by
  cases e <;> rfl

@[simp] theorem Expr.rewriteList_eq_map (es : List Expr) : rewriteList r es = es.map (rewrite r) := by
  induction es with
  | nil => rfl
  | cons e rest ih => rw [rewriteList, ih, List.map_cons]

@[simp] theorem OrderItem.rewriteList_eq_map (items : List OrderItem) :
    rewriteList r items = items.map (rewrite r) := by
  induction items with
  | nil => rfl
  | cons x rest ih => rw [rewriteList, ih, List.map_cons]

@[simp] theorem OrderItem.rewriteOption_eq_map (items : Option (List OrderItem)) :
    rewriteOption r items = items.map (List.map (rewrite r)) := by
  cases items with
  | none => rfl
  | some xs => rw [rewriteOption, rewriteList_eq_map, Option.map_some]

@[simp] theorem Window.rewriteOption_eq_map (w : Option Window) : rewriteOption r w = w.map (rewrite r) := by
  cases w <;> rfl

@[simp] theorem Frame.rewriteOption_eq_map (f : Option Frame) : rewriteOption r f = f.map (rewrite r) := by
  cases f <;> rfl

/-! ## The nodes below -/

theorem Expr.children_rewriteParts (e : Expr) : (e.rewriteParts r).children = e.children.map (Node.rewrite r) := by
  cases e with
  | compound parts => simp [rewriteParts, children, Function.comp_def, Node.rewrite]
  | _ => rfl

theorem Call.children_rewrite (c : Call) :
    (Node.call (c.rewrite r)).children = (Node.call c).children.map (Node.rewrite r) := by
  obtain ⟨name, args, distinct, window⟩ := c
  cases window <;> simp [rewrite, Node.children, Node.rewrite, Function.comp_def]

theorem WindowSpec.children_rewrite (s : WindowSpec) :
    (s.rewrite r).children = s.children.map (Node.rewrite r) := by
  obtain ⟨partitionBy, orderBy, frame⟩ := s
  cases orderBy <;> cases frame <;> simp [rewrite, children, Node.rewrite, Function.comp_def]

namespace Node

theorem children_rewriteParts (n : Node) : (n.rewriteParts r).children = n.children.map (rewrite r) := by
  cases n with
  | identifier | literal | frameUnit | namedWindow => rfl
  | expr e => exact e.children_rewriteParts
  | call c => exact c.children_rewrite
  | windowSpec s => exact s.children_rewrite
  | orderItem x => cases x; rfl
  | frameBound bound => cases bound <;> rfl
  | frame f => obtain ⟨unit, start, _ | stop⟩ := f <;> rfl
  | window w => cases w <;> rfl

theorem rewrite_eq_rewriteParts (hr : ∀ e, r.expr e = e) (n : Node) : n.rewrite r = n.rewriteParts r := by
  cases n with
  | expr e => rw [rewrite, e.rewrite_eq, hr, rewriteParts]
  | _ => rfl

theorem every_rewrite {p : Node → Prop} (hr : ∀ e, r.expr e = e) (hp : ∀ n : Node, p (n.rewrite r) ↔ p n)
    (n : Node) : (n.rewrite r).Every p ↔ n.Every p := by
  induction n using Node.induct with
  | step n ih =>
    have hchildren : (n.rewrite r).children = n.children.map (rewrite r) := by
      rw [rewrite_eq_rewriteParts hr, children_rewriteParts]
    rw [every_iff, every_iff, hchildren, List.forall_mem_map, hp]
    exact and_congr_right fun _ => forall₂_congr ih

end Node

end SqlText
