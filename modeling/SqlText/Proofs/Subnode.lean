import SqlText.Node

/-! # The nodes inside a node

What is asked of a tree at every depth is asked of every node that occurs in it, itself included. -/

namespace SqlText

/-- The operands, or what else the expression is made of. -/
def Expr.children : Expr → List Node
  | .literal value => [.literal value]
  | .identifier name => [.identifier name]
  | .compound parts => parts.map .identifier
  | .binary left _ right => [.expr left, .expr right]
  | .unary _ operand => [.expr operand]
  | .call c => [.call c]
  | .nested inner => [.expr inner]
  | .nullTest operand _ => [.expr operand]
  | .between operand low high _ => [.expr operand, .expr low, .expr high]
  | .wildcard => []

def FrameBound.children : FrameBound → List Node
  | .preceding offset | .following offset => [.expr offset]
  | .currentRow | .unboundedPreceding | .unboundedFollowing => []

def WindowSpec.children (s : WindowSpec) : List Node :=
  s.partitionBy.map .expr ++ (s.orderBy.getD []).map .orderItem ++ s.frame.toList.map .frame

namespace Node

/-- The nodes directly below a node. -/
def children : Node → List Node
  | identifier _ | literal _ | frameUnit _ => []
  | expr e => e.children
  | call c => c.args.map expr ++ c.window.toList.map window
  | orderItem x => [expr x.expr]
  | frameBound bound => bound.children
  | frame f => frameUnit f.unit :: frameBound f.start :: f.stop.toList.map frameBound
  | windowSpec s => s.children
  | namedWindow w => [identifier w.name, windowSpec w.spec]
  | window (.inline s) => [windowSpec s]
  | window (.named name) => [identifier name]

end Node

/-! ## Induction -/

theorem Expr.sizeOf_child_lt {m : Node} {e : Expr} (h : m ∈ e.children) : sizeOf m < 1 + sizeOf e := by
  cases e with
  | compound parts =>
    obtain ⟨i, hi, rfl⟩ := List.mem_map.mp h
    have := List.sizeOf_lt_of_mem hi
    simp only [Node.identifier.sizeOf_spec, Expr.compound.sizeOf_spec]
    omega
  | between operand low high =>
    simp only [children, List.mem_cons, List.not_mem_nil, or_false] at h
    simp only [Expr.between.sizeOf_spec]
    rcases h with rfl | rfl | rfl <;> (simp only [Node.expr.sizeOf_spec]; omega)
  | binary left op right =>
    simp only [children, List.mem_cons, List.not_mem_nil, or_false] at h
    simp only [Expr.binary.sizeOf_spec]
    rcases h with rfl | rfl <;> (simp only [Node.expr.sizeOf_spec]; omega)
  | literal | identifier | call | nested =>
    obtain rfl := List.mem_singleton.mp h
    simp
  | unary | nullTest =>
    obtain rfl := List.mem_singleton.mp h
    simp only [Node.expr.sizeOf_spec, Expr.unary.sizeOf_spec, Expr.nullTest.sizeOf_spec]
    omega
  | wildcard => cases h

theorem Call.sizeOf_child_lt {m : Node} {c : Call} (h : m ∈ (Node.call c).children) :
    sizeOf m < 1 + sizeOf c := by
  obtain ⟨name, args, distinct, window⟩ := c
  simp only [Node.children, List.mem_append, List.mem_map, Option.mem_toList] at h
  rcases h with ⟨e, he, rfl⟩ | ⟨w, hw, rfl⟩
  · have := List.sizeOf_lt_of_mem he
    simp
    omega
  · obtain rfl := hw
    simp
    omega

theorem WindowSpec.sizeOf_child_lt {m : Node} {s : WindowSpec} (h : m ∈ s.children) :
    sizeOf m < 1 + sizeOf s := by
  obtain ⟨partitionBy, orderBy, frame⟩ := s
  simp only [children, List.mem_append, List.mem_map, Option.mem_toList] at h
  rcases h with (⟨e, he, rfl⟩ | ⟨x, hx, rfl⟩) | ⟨f, hf, rfl⟩
  · have := List.sizeOf_lt_of_mem he
    simp
    omega
  · cases orderBy with
    | none => simp at hx
    | some items =>
      have := List.sizeOf_lt_of_mem (show x ∈ items from hx)
      simp
      omega
  · obtain rfl := hf
    simp
    omega

theorem Frame.sizeOf_child_lt {m : Node} {f : Frame} (h : m ∈ (Node.frame f).children) :
    sizeOf m < 1 + sizeOf f := by
  obtain ⟨unit, start, stop⟩ := f
  simp only [Node.children, List.mem_cons, List.mem_map, Option.mem_toList] at h
  rcases h with rfl | rfl | ⟨bound, hb, rfl⟩
  · simp
    omega
  · simp
    omega
  · obtain rfl := hb
    simp
    omega

namespace Node

theorem sizeOf_child_lt {m n : Node} (h : m ∈ n.children) : sizeOf m < sizeOf n := by
  cases n with
  | identifier i => simp [children] at h
  | literal l => simp [children] at h
  | frameUnit u => simp [children] at h
  | expr e => exact Expr.sizeOf_child_lt h
  | call c => exact Call.sizeOf_child_lt h
  | windowSpec s => exact WindowSpec.sizeOf_child_lt h
  | frame f => exact Frame.sizeOf_child_lt h
  | orderItem x =>
    obtain ⟨e, direction, nulls⟩ := x
    simp_all [children]
    omega
  | frameBound bound => cases bound <;> simp_all [children, FrameBound.children]
  | window w => cases w <;> simp_all [children]
  | namedWindow w =>
    obtain ⟨name, spec⟩ := w
    simp only [children, List.mem_cons, List.not_mem_nil, or_false] at h
    rcases h with rfl | rfl
    · simp only [identifier.sizeOf_spec, namedWindow.sizeOf_spec, NamedWindow.mk.sizeOf_spec]
      omega
    · simp only [windowSpec.sizeOf_spec, namedWindow.sizeOf_spec, NamedWindow.mk.sizeOf_spec]
      omega

/-- What holds of a node whenever it holds of the nodes directly below it holds of every node. -/
theorem induct {P : Node → Prop} (step : ∀ n, (∀ m ∈ n.children, P m) → P n) (n : Node) : P n :=
  step n fun m _ => induct step m
termination_by sizeOf n
decreasing_by exact sizeOf_child_lt ‹_›

/-! ## Occurrence -/

/-- `m` occurs in `n`, or is `n`. -/
inductive Within : Node → Node → Prop where
  | here (n : Node) : Within n n
  | inside {m c n : Node} (child : c ∈ n.children) (h : Within m c) : Within m n

/-- `p` holds of every node that occurs in `n`. -/
def Every (p : Node → Prop) (n : Node) : Prop := ∀ m, Within m n → p m

variable {p q : Node → Prop} {m n : Node}

theorem every_iff : n.Every p ↔ p n ∧ ∀ c ∈ n.children, c.Every p := by
  constructor
  · intro h
    exact ⟨h n (.here n), fun c hc m hm => h m (.inside hc hm)⟩
  · rintro ⟨hn, hc⟩ m hm
    cases hm with
    | here => exact hn
    | inside child h => exact hc _ child m h

theorem Every.here (h : n.Every p) : p n := (every_iff.mp h).1

theorem Every.child (h : n.Every p) (hm : m ∈ n.children) : m.Every p := (every_iff.mp h).2 m hm

theorem every_of_children_nil (h : n.children = []) : n.Every p ↔ p n := by
  rw [every_iff, h]
  simp

@[simp] theorem every_literal {l : Literal} :
    (expr (.literal l)).Every p ↔ p (expr (.literal l)) ∧ p (literal l) := by
  have hleaf : (literal l).Every p ↔ p (literal l) := every_of_children_nil rfl
  rw [every_iff, ← hleaf]
  simp [children, Expr.children]

@[simp] theorem every_identifier {i : Identifier} :
    (expr (.identifier i)).Every p ↔ p (expr (.identifier i)) ∧ p (identifier i) := by
  have hleaf : (identifier i).Every p ↔ p (identifier i) := every_of_children_nil rfl
  rw [every_iff, ← hleaf]
  simp [children, Expr.children]

@[simp] theorem every_binary {l r : Expr} {op : BinaryOp} :
    (expr (.binary l op r)).Every p ↔ p (expr (.binary l op r)) ∧ (expr l).Every p ∧ (expr r).Every p := by
  rw [every_iff]
  simp [children, Expr.children]

@[simp] theorem every_unary {op : UnaryOp} {e : Expr} :
    (expr (.unary op e)).Every p ↔ p (expr (.unary op e)) ∧ (expr e).Every p := by
  rw [every_iff]
  simp [children, Expr.children]

@[simp] theorem every_nested {e : Expr} :
    (expr (.nested e)).Every p ↔ p (expr (.nested e)) ∧ (expr e).Every p := by
  rw [every_iff]
  simp [children, Expr.children]

@[simp] theorem every_nullTest {e : Expr} {negated : Bool} :
    (expr (.nullTest e negated)).Every p ↔ p (expr (.nullTest e negated)) ∧ (expr e).Every p := by
  rw [every_iff]
  simp [children, Expr.children]

@[simp] theorem every_between {e low high : Expr} {negated : Bool} :
    (expr (.between e low high negated)).Every p ↔
      p (expr (.between e low high negated)) ∧ (expr e).Every p ∧ (expr low).Every p ∧ (expr high).Every p := by
  rw [every_iff]
  simp [children, Expr.children]

@[simp] theorem every_orderItem {x : OrderItem} :
    (orderItem x).Every p ↔ p (orderItem x) ∧ (expr x.expr).Every p := by
  rw [every_iff]
  simp [children]

@[simp] theorem every_windowSpec {es : List Expr} {items : Option (List OrderItem)} {f : Option Frame} :
    (windowSpec ⟨es, items, f⟩).Every p ↔ p (windowSpec ⟨es, items, f⟩) ∧ (∀ e ∈ es, (expr e).Every p) ∧
      (∀ x ∈ items.getD [], (orderItem x).Every p) ∧ ∀ frame' ∈ f, (frame frame').Every p := by
  rw [every_iff]
  simp only [children, WindowSpec.children, List.forall_mem_append, List.forall_mem_map, Option.mem_toList, and_assoc]
  rfl

theorem Every.mono (h : n.Every p) (hpq : ∀ m, p m → q m) : n.Every q := fun m hm => hpq m (h m hm)

end Node

end SqlText
