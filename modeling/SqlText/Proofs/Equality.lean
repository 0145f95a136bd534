import Mathlib.Data.List.Forall2
import SqlText.Expr.Build
import SqlText.Json.Encode
import SqlText.Proofs.Subnode

/-! # Equality of nodes

Two nodes are equal if they have the same label and the nodes directly below them are equal one by one.
Only floats tell this apart from being the same node: a NaN equals nothing, and the two zeros equal
each other. -/

namespace SqlText

/-! ## Literals -/

namespace Binary64

/-- The two zeros as one. -/
def unsignZero (x : Binary64) : Binary64 := if x.isZero then ⟨0⟩ else x

theorem isNaN_of_isZero {x : Binary64} (h : x.isZero = true) : x.isNaN = false := by
  have hfinite : x.isFinite = true := by
    simp only [isZero, Bool.and_eq_true, decide_eq_true_eq] at h
    simp [isFinite, h.1]
  simp [isNaN, hfinite]

theorem unsignZero_eq_iff {x y : Binary64} :
    x.unsignZero = y.unsignZero ↔ x = y ∨ x.isZero = true ∧ y.isZero = true := by
  have hzero : (⟨0⟩ : Binary64).isZero = true := by decide
  unfold unsignZero
  by_cases hx : x.isZero = true <;> by_cases hy : y.isZero = true
  · simp [hx, hy]
  · have hne : ⟨0⟩ ≠ y := by
      rintro rfl
      exact hy hzero
    have hxy : x ≠ y := by
      rintro rfl
      exact hy hx
    simp [hx, hy, hne, hxy]
  · have hne : x ≠ ⟨0⟩ := by
      rintro rfl
      exact hx hzero
    have hxy : x ≠ y := by
      rintro rfl
      exact hx hy
    simp [hx, hy, hne, hxy]
  · simp [hx, hy]

theorem eqv_iff {x y : Binary64} : x.eqv y = true ↔ x.isNaN = false ∧ x.unsignZero = y.unsignZero := by
  have hbits : x.bits = y.bits ↔ x = y := by rw [Binary64.mk.injEq]
  rw [unsignZero_eq_iff]
  simp only [eqv, Bool.and_eq_true, Bool.or_eq_true, Bool.not_eq_true', decide_eq_true_eq, hbits]
  constructor
  · rintro ⟨⟨hx, -⟩, h⟩
    exact ⟨hx, h⟩
  · rintro ⟨hx, h⟩
    refine ⟨⟨hx, ?_⟩, h⟩
    rcases h with rfl | ⟨-, hy⟩
    · exact hx
    · exact isNaN_of_isZero hy

theorem isNaN_unsignZero (x : Binary64) : x.unsignZero.isNaN = x.isNaN := by
  unfold unsignZero
  by_cases hx : x.isZero = true
  · have hzero : (⟨0⟩ : Binary64).isNaN = false := by decide
    rw [if_pos hx, hzero, isNaN_of_isZero hx]
  · rw [if_neg hx]

end Binary64

namespace Literal

def unsignZero : Literal → Literal
  | float x => float x.unsignZero
  | l => l

/-- It is no NaN. -/
def IsNumber : Literal → Prop
  | float x => x.isNaN = false
  | _ => True

/-- It is no zero of either sign. -/
def IsNonzero : Literal → Prop
  | float x => x.isZero = false
  | _ => True

theorem beq_iff {a b : Literal} : (a == b) = true ↔ a.IsNumber ∧ a.unsignZero = b.unsignZero := by
  change a.beq b = true ↔ _
  cases a <;> cases b <;> simp [beq, IsNumber, unsignZero, Binary64.eqv_iff]

theorem isNumber_unsignZero (l : Literal) : l.unsignZero.IsNumber ↔ l.IsNumber := by
  cases l with
  | float x => simp only [unsignZero, IsNumber, x.isNaN_unsignZero]
  | _ => rfl

theorem IsNonzero.eq {a b : Literal} (ha : a.IsNonzero) (h : a.unsignZero = b.unsignZero) : a = b := by
  cases a with
  | float x =>
    cases b with
    | float y =>
      have hxy := Binary64.unsignZero_eq_iff.mp (float.inj h)
      have hx : x.isZero = false := ha
      rw [hxy.resolve_right (by simp [hx])]
    | _ => cases h
  | _ =>
    cases b with
    | float y => cases h
    | _ => exact h

end Literal

/-! ## Labels -/

/-- What a node says itself; of the nodes below it only their number. -/
inductive Node.Label where
  | identifier (i : Identifier)
  | literal (l : Literal)
  | frameUnit (u : FrameUnit)
  | constant
  | column
  | path
  | binary (op : BinaryOp)
  | unary (op : UnaryOp)
  | application
  | nested
  | nullTest (negated : Bool)
  | between (negated : Bool)
  | wildcard
  | call (name : String) (arity : Nat) (distinct windowed : Bool)
  | inline
  | named
  | windowSpec (partitions : Nat) (items : Option Nat) (framed : Bool)
  | orderItem (direction : Option SortDirection) (nulls : Option NullPlacement)
  | currentRow
  | unboundedPreceding
  | preceding
  | unboundedFollowing
  | following
  | frame (stopped : Bool)
  | namedWindow

def Expr.label : Expr → Node.Label
  | .literal _ => .constant
  | .identifier _ => .column
  | .compound _ => .path
  | .binary _ op _ => .binary op
  | .unary op _ => .unary op
  | .call _ => .application
  | .nested _ => .nested
  | .nullTest _ negated => .nullTest negated
  | .between _ _ _ negated => .between negated
  | .wildcard => .wildcard

def Call.label (c : Call) : Node.Label := .call c.name c.args.length c.distinct c.window.isSome

def Window.label : Window → Node.Label
  | .inline _ => .inline
  | .named _ => .named

/-- How many expressions and items there are, and whether there is a frame. -/
def WindowSpec.label (s : WindowSpec) : Node.Label :=
  .windowSpec s.partitionBy.length (s.orderBy.map List.length) s.frame.isSome

def FrameBound.label : FrameBound → Node.Label
  | .currentRow => .currentRow
  | .unboundedPreceding => .unboundedPreceding
  | .preceding _ => .preceding
  | .unboundedFollowing => .unboundedFollowing
  | .following _ => .following

namespace Node

/-- The zeros are marked alike. -/
def mark : Node → Label
  | identifier i => .identifier i
  | literal l => .literal l.unsignZero
  | expr e => e.label
  | call c => c.label
  | orderItem x => .orderItem x.direction x.nulls
  | frameUnit u => .frameUnit u
  | frameBound bound => bound.label
  | frame f => .frame f.stop.isSome
  | windowSpec s => s.label
  | namedWindow _ => .namedWindow
  | window w => w.label

/-- Nodes of two types never have one label. -/
def label (n : Node) : Kind × Label := (n.kind, n.mark)

/-- Asked of a literal; any other node has only what is below it. -/
def NumberLiteral : Node → Prop
  | literal l => l.IsNumber
  | _ => True

/-- A zero of either sign is left out, so equal literals are the same. -/
def NonzeroLiteral : Node → Prop
  | literal l => l.IsNonzero
  | _ => True

/-- The comparison as a proposition. -/
def Equals (a b : Node) : Prop := (a == b) = true

end Node

open Node (Equals)

/-! ## Equality one level at a time -/

@[simp] theorem Node.equals_expr {a b : Expr} : Equals (.expr a) (.expr b) ↔ a.beq b = true := Iff.rfl

@[simp] theorem Node.equals_identifier {i j : Identifier} : Equals (.identifier i) (.identifier j) ↔ i = j :=
  decide_eq_true_iff

@[simp] theorem Node.equals_literal {a b : Literal} : Equals (.literal a) (.literal b) ↔ (a == b) = true := Iff.rfl

@[simp] theorem Node.equals_frameUnit {u v : FrameUnit} : Equals (.frameUnit u) (.frameUnit v) ↔ u = v :=
  decide_eq_true_iff

@[simp] theorem Node.equals_call {a b : Call} : Equals (.call a) (.call b) ↔ a.beq b = true := Iff.rfl

@[simp] theorem Node.equals_window {a b : Window} : Equals (.window a) (.window b) ↔ a.beq b = true := Iff.rfl

@[simp] theorem Node.equals_windowSpec {a b : WindowSpec} :
    Equals (.windowSpec a) (.windowSpec b) ↔ a.beq b = true :=
  Iff.rfl

@[simp] theorem Node.equals_orderItem {a b : OrderItem} : Equals (.orderItem a) (.orderItem b) ↔ a.beq b = true :=
  Iff.rfl

@[simp] theorem Node.equals_frame {a b : Frame} : Equals (.frame a) (.frame b) ↔ a.beq b = true := Iff.rfl

@[simp] theorem Node.equals_frameBound {a b : FrameBound} :
    Equals (.frameBound a) (.frameBound b) ↔ a.beq b = true :=
  Iff.rfl

theorem forall₂_append_iff {α : Type} {R : α → α → Prop} {as as' bs bs' : List α} (h : as.length = as'.length) :
    List.Forall₂ R (as ++ bs) (as' ++ bs') ↔ List.Forall₂ R as as' ∧ List.Forall₂ R bs bs' := by
  induction as generalizing as' with
  | nil =>
    obtain rfl := List.eq_nil_of_length_eq_zero h.symm
    simp
  | cons a as ih =>
    cases as' with
    | nil => cases h
    | cons a' as' => simp [ih (Nat.succ.inj h), and_assoc]

theorem forall₂_trans_of_mem {α : Type} {R : α → α → Prop} {as bs cs : List α}
    (htrans : ∀ a ∈ as, ∀ b c, R a b → R b c → R a c) (hab : List.Forall₂ R as bs) (hbc : List.Forall₂ R bs cs) :
    List.Forall₂ R as cs := by
  induction hab generalizing cs with
  | nil => exact hbc
  | cons h _ ih =>
    cases hbc with
    | cons h' hrest =>
      have htail := ih (fun a ha => htrans a (List.mem_cons_of_mem _ ha)) hrest
      exact .cons (htrans _ List.mem_cons_self _ _ h h') htail

theorem Expr.beqList_iff {es es' : List Expr} :
    beqList es es' = true ↔ List.Forall₂ Equals (es.map Node.expr) (es'.map Node.expr) := by
  induction es generalizing es' with
  | nil => cases es' <;> simp [beqList]
  | cons e es ih => cases es' <;> simp [beqList, ih]

theorem OrderItem.beqList_iff {xs ys : List OrderItem} :
    beqList xs ys = true ↔ List.Forall₂ Equals (xs.map Node.orderItem) (ys.map Node.orderItem) := by
  induction xs generalizing ys with
  | nil => cases ys <;> simp [beqList]
  | cons x xs ih => cases ys <;> simp [beqList, ih]

theorem Expr.beq_iff {e e' : Expr} :
    e.beq e' = true ↔ e.label = e'.label ∧ List.Forall₂ Equals e.children e'.children := by
  cases e <;> cases e' <;> simp [beq, label, children, and_comm, and_assoc]

theorem Call.beq_iff {c c' : Call} :
    c.beq c' = true ↔ c.label = c'.label ∧ List.Forall₂ Equals (Node.call c).children (Node.call c').children := by
  obtain ⟨name, args, distinct, window⟩ := c
  obtain ⟨name', args', distinct', window'⟩ := c'
  have hwindow : Window.beqOption window window' = true ↔ window.isSome = window'.isSome ∧
      List.Forall₂ Equals (window.toList.map Node.window) (window'.toList.map Node.window) := by
    cases window <;> cases window' <;> simp [Window.beqOption]
  simp only [beq, Bool.and_eq_true, decide_eq_true_eq, Expr.beqList_iff, hwindow, label, Node.children,
    Node.Label.call.injEq]
  constructor
  · rintro ⟨⟨⟨hname, hargs⟩, hdistinct⟩, hsome, hw⟩
    have hlength : args.length = args'.length := by simpa using hargs.length_eq
    exact ⟨⟨hname, hlength, hdistinct, hsome⟩, (forall₂_append_iff (by simpa)).mpr ⟨hargs, hw⟩⟩
  · rintro ⟨⟨hname, hlength, hdistinct, hsome⟩, h⟩
    obtain ⟨hargs, hw⟩ := (forall₂_append_iff (by simpa)).mp h
    exact ⟨⟨⟨hname, hargs⟩, hdistinct⟩, hsome, hw⟩

theorem OrderItem.beqOption_iff {items items' : Option (List OrderItem)} :
    beqOption items items' = true ↔ items.map List.length = items'.map List.length ∧
      List.Forall₂ Equals ((items.getD []).map Node.orderItem) ((items'.getD []).map Node.orderItem) := by
  cases items with
  | none => cases items' <;> simp [beqOption]
  | some xs =>
    cases items' with
    | none => simp [beqOption]
    | some ys =>
      have hlength : List.Forall₂ Equals (xs.map Node.orderItem) (ys.map Node.orderItem) → xs.length = ys.length :=
        fun h => by simpa using h.length_eq
      rw [beqOption, beqList_iff]
      simpa using hlength

theorem OrderItem.length_getD (items : Option (List OrderItem)) :
    (items.getD []).length = (items.map List.length).getD 0 := by
  cases items <;> rfl

theorem WindowSpec.beq_iff {s s' : WindowSpec} :
    s.beq s' = true ↔ s.label = s'.label ∧ List.Forall₂ Equals s.children s'.children := by
  obtain ⟨es, items, frame⟩ := s
  obtain ⟨es', items', frame'⟩ := s'
  have hframe : Frame.beqOption frame frame' = true ↔ frame.isSome = frame'.isSome ∧
      List.Forall₂ Equals (frame.toList.map Node.frame) (frame'.toList.map Node.frame) := by
    cases frame <;> cases frame' <;> simp [Frame.beqOption]
  simp only [beq, Bool.and_eq_true, Expr.beqList_iff, OrderItem.beqOption_iff, hframe, label, children,
    Node.Label.windowSpec.injEq]
  constructor
  · rintro ⟨⟨hes, hcount, hxs⟩, hsome, hf⟩
    have hlength : es.length = es'.length := by simpa using hes.length_eq
    have hfront := List.rel_append hes hxs
    exact ⟨⟨hlength, hcount, hsome⟩, List.rel_append hfront hf⟩
  · rintro ⟨⟨hlength, hcount, hsome⟩, h⟩
    have hitems : (items.getD []).length = (items'.getD []).length := by
      rw [OrderItem.length_getD, hcount, OrderItem.length_getD]
    obtain ⟨hfront, hf⟩ := (forall₂_append_iff (by simp [hlength, hitems])).mp h
    obtain ⟨hes, hxs⟩ := (forall₂_append_iff (by simpa)).mp hfront
    exact ⟨⟨hes, hcount, hxs⟩, hsome, hf⟩

theorem Frame.beq_iff {f f' : Frame} :
    f.beq f' = true ↔ f.stop.isSome = f'.stop.isSome ∧
      List.Forall₂ Equals (Node.frame f).children (Node.frame f').children := by
  obtain ⟨unit, start, stop⟩ := f
  obtain ⟨unit', start', stop'⟩ := f'
  cases stop <;> cases stop' <;> simp [beq, FrameBound.beqOption, Node.children, and_assoc]

theorem FrameBound.beq_iff {a b : FrameBound} :
    a.beq b = true ↔ a.label = b.label ∧ List.Forall₂ Equals a.children b.children := by
  cases a <;> cases b <;> simp [beq, label, children]

theorem OrderItem.beq_iff {x y : OrderItem} :
    x.beq y = true ↔ (x.direction = y.direction ∧ x.nulls = y.nulls) ∧ x.expr.beq y.expr = true := by
  obtain ⟨e, direction, nulls⟩ := x
  obtain ⟨e', direction', nulls'⟩ := y
  simp [beq, and_assoc, and_comm]

theorem Window.beq_iff {w w' : Window} :
    w.beq w' = true ↔ w.label = w'.label ∧
      List.Forall₂ Equals (Node.window w).children (Node.window w').children := by
  cases w <;> cases w' <;> simp [beq, label, Node.children]

namespace Node

/-- Two nodes of the same type, which are built by the same constructor. -/
inductive SameKind : Node → Node → Prop where
  | identifier (i j : Identifier) : SameKind (.identifier i) (.identifier j)
  | literal (l k : Literal) : SameKind (.literal l) (.literal k)
  | expr (a b : Expr) : SameKind (.expr a) (.expr b)
  | call (a b : Call) : SameKind (.call a) (.call b)
  | orderItem (x y : OrderItem) : SameKind (.orderItem x) (.orderItem y)
  | frameUnit (u v : FrameUnit) : SameKind (.frameUnit u) (.frameUnit v)
  | frameBound (a b : FrameBound) : SameKind (.frameBound a) (.frameBound b)
  | frame (f g : Frame) : SameKind (.frame f) (.frame g)
  | windowSpec (s t : WindowSpec) : SameKind (.windowSpec s) (.windowSpec t)
  | namedWindow (w v : NamedWindow) : SameKind (.namedWindow w) (.namedWindow v)
  | window (w v : Window) : SameKind (.window w) (.window v)

theorem sameKind_of_eq {m n : Node} (h : m.kind = n.kind) : SameKind m n := by
  cases m <;> cases n <;> first | constructor | cases h

theorem kind_eq_of_equals {m n : Node} (h : Equals m n) : m.kind = n.kind := by
  cases m <;> cases n <;> first | rfl | cases h

theorem equals_iff_of_sameKind {m n : Node} (h : SameKind m n) :
    Equals m n ↔ m.NumberLiteral ∧ m.mark = n.mark ∧ List.Forall₂ Equals m.children n.children := by
  cases h with
  | identifier => simp [NumberLiteral, mark, children]
  | literal => simp [NumberLiteral, mark, children, Literal.beq_iff]
  | expr => simp [NumberLiteral, mark, children, Expr.beq_iff]
  | call => simp [NumberLiteral, mark, Call.beq_iff]
  | orderItem => simp [NumberLiteral, mark, children, OrderItem.beq_iff]
  | frameUnit => simp [NumberLiteral, mark, children]
  | frameBound => simp [NumberLiteral, mark, children, FrameBound.beq_iff]
  | frame => simp [NumberLiteral, mark, Frame.beq_iff]
  | windowSpec => simp [NumberLiteral, mark, children, WindowSpec.beq_iff]
  | namedWindow => simp [NumberLiteral, mark, children, Equals, BEq.beq, beq, NamedWindow.beq]
  | window => simp [NumberLiteral, mark, Window.beq_iff]

/-- Equality goes through a node by its label and from there to the nodes below it. -/
theorem equals_iff {m n : Node} :
    Equals m n ↔ m.NumberLiteral ∧ m.label = n.label ∧ List.Forall₂ Equals m.children n.children := by
  by_cases hkind : m.kind = n.kind
  · have hlabel : m.label = n.label ↔ m.mark = n.mark := by simp [label, hkind]
    rw [hlabel]
    exact equals_iff_of_sameKind (sameKind_of_eq hkind)
  · have hlabel : m.label ≠ n.label := fun h => hkind (congrArg Prod.fst h)
    simp [hlabel, mt kind_eq_of_equals hkind]

/-! ## Every depth -/

theorem numberLiteral_congr {m n : Node} (h : m.label = n.label) : m.NumberLiteral ↔ n.NumberLiteral := by
  have hmark : m.mark = n.mark := congrArg Prod.snd h
  cases sameKind_of_eq (congrArg Prod.fst h) with
  | literal a b =>
    have hzero : a.unsignZero = b.unsignZero := Label.literal.inj hmark
    rw [NumberLiteral, NumberLiteral, ← a.isNumber_unsignZero, hzero, b.isNumber_unsignZero]
  | _ => rfl

theorem Equals.symm {m n : Node} (h : Equals m n) : Equals n m := by
  induction m using induct generalizing n with
  | step m ih =>
    obtain ⟨hnumber, hlabel, hchildren⟩ := equals_iff.mp h
    have hboth : List.Forall₂ (fun a b => (∀ c, Equals a c → Equals c a) ∧ Equals a b) m.children n.children :=
      (List.forall₂_and_left _ _).mpr ⟨fun a ha c => ih a ha, hchildren⟩
    have hflip : List.Forall₂ (flip Equals) m.children n.children := hboth.imp fun a b hab => hab.1 b hab.2
    exact equals_iff.mpr ⟨(numberLiteral_congr hlabel).mp hnumber, hlabel.symm, hflip.flip⟩

theorem Equals.trans {l m n : Node} (hlm : Equals l m) (hmn : Equals m n) : Equals l n := by
  induction l using induct generalizing m n with
  | step l ih =>
    obtain ⟨hnumber, hlabel, hchildren⟩ := equals_iff.mp hlm
    obtain ⟨-, hlabel', hchildren'⟩ := equals_iff.mp hmn
    have htrans := forall₂_trans_of_mem (fun a ha b c => ih a ha) hchildren hchildren'
    exact equals_iff.mpr ⟨hnumber, hlabel.trans hlabel', htrans⟩

/-- Only a NaN, at whatever depth, keeps a node from being equal to itself. -/
theorem equals_self_iff (n : Node) : Equals n n ↔ n.Every NumberLiteral := by
  induction n using induct with
  | step n ih =>
    rw [equals_iff, every_iff, List.forall₂_same]
    simp only [true_and]
    exact and_congr_right fun _ => forall₂_congr ih

end Node

/-! ## The same label and the same nodes below -/

theorem Expr.eq_of_label {e e' : Expr} (hlabel : e.label = e'.label) (hchildren : e.children = e'.children) :
    e = e' := by
  have hparts (is js : List Identifier) : is.map Node.identifier = js.map Node.identifier ↔ is = js :=
    List.map_inj_right fun _ _ => Node.identifier.inj
  cases e <;> cases e' <;> simp_all [label, children]

theorem Call.eq_of_label {c c' : Call} (hlabel : c.label = c'.label)
    (hchildren : (Node.call c).children = (Node.call c').children) : c = c' := by
  obtain ⟨name, args, distinct, window⟩ := c
  obtain ⟨name', args', distinct', window'⟩ := c'
  obtain ⟨rfl, hlength, rfl, -⟩ := Node.Label.call.inj hlabel
  obtain ⟨hargs, hwindow⟩ := List.append_inj hchildren (by simpa)
  obtain rfl := (List.map_inj_right fun _ _ => Node.expr.inj).mp hargs
  obtain rfl : window = window' := by
    cases window <;> cases window' <;> simp_all
  rfl

theorem WindowSpec.eq_of_label {s s' : WindowSpec} (hlabel : s.label = s'.label)
    (hchildren : s.children = s'.children) : s = s' := by
  obtain ⟨es, items, frame⟩ := s
  obtain ⟨es', items', frame'⟩ := s'
  obtain ⟨hlength, hcount, hframe⟩ := Node.Label.windowSpec.inj hlabel
  have hitems : (items.getD []).length = (items'.getD []).length := by
    rw [OrderItem.length_getD, hcount, OrderItem.length_getD]
  obtain ⟨hfront, hframe⟩ := List.append_inj hchildren (by simp_all)
  obtain ⟨hes, hxs⟩ := List.append_inj hfront (by simpa)
  obtain rfl := (List.map_inj_right fun _ _ => Node.expr.inj).mp hes
  have hxs := (List.map_inj_right fun _ _ => Node.orderItem.inj).mp hxs
  obtain rfl : items = items' := by
    cases items <;> cases items' <;> simp_all
  obtain rfl : frame = frame' := by
    cases frame <;> cases frame' <;> simp_all
  rfl

theorem Frame.eq_of_children {f f' : Frame} (hchildren : (Node.frame f).children = (Node.frame f').children) :
    f = f' := by
  obtain ⟨unit, start, stop⟩ := f
  obtain ⟨unit', start', stop'⟩ := f'
  cases stop <;> cases stop' <;> simp_all [Node.children]

theorem FrameBound.eq_of_label {a b : FrameBound} (hlabel : a.label = b.label)
    (hchildren : a.children = b.children) : a = b := by
  cases a <;> cases b <;> simp_all [label, children]

theorem Window.eq_of_children {w w' : Window}
    (hchildren : (Node.window w).children = (Node.window w').children) : w = w' := by
  cases w <;> cases w' <;> simp_all [Node.children]

namespace Node

theorem eq_of_label {m n : Node} (hlabel : m.label = n.label) (hchildren : m.children = n.children)
    (hzero : m.NonzeroLiteral) : m = n := by
  have hmark : m.mark = n.mark := congrArg Prod.snd hlabel
  cases sameKind_of_eq (congrArg Prod.fst hlabel) with
  | identifier => exact congrArg identifier (Label.identifier.inj hmark)
  | literal => exact congrArg literal (Literal.IsNonzero.eq hzero (Label.literal.inj hmark))
  | expr => exact congrArg expr (Expr.eq_of_label hmark hchildren)
  | call => exact congrArg call (Call.eq_of_label hmark hchildren)
  | orderItem a b =>
    obtain ⟨e, direction, nulls⟩ := a
    obtain ⟨e', direction', nulls'⟩ := b
    simp_all [mark, children]
  | frameUnit => exact congrArg frameUnit (Label.frameUnit.inj hmark)
  | frameBound => exact congrArg frameBound (FrameBound.eq_of_label hmark hchildren)
  | frame => exact congrArg frame (Frame.eq_of_children hchildren)
  | windowSpec => exact congrArg windowSpec (WindowSpec.eq_of_label hmark hchildren)
  | namedWindow a b =>
    obtain ⟨name, spec⟩ := a
    obtain ⟨name', spec'⟩ := b
    simp_all [children]
  | window => exact congrArg window (Window.eq_of_children hchildren)

theorem Equals.eq {m n : Node} (h : Equals m n) (hzero : m.Every NonzeroLiteral) : m = n := by
  induction m using induct generalizing n with
  | step m ih =>
    obtain ⟨-, hlabel, hchildren⟩ := equals_iff.mp h
    have hboth : List.Forall₂ (fun a b => (∀ c, Equals a c → a = c) ∧ Equals a b) m.children n.children :=
      (List.forall₂_and_left _ _).mpr ⟨fun a ha c hac => ih a ha hac (hzero.child ha), hchildren⟩
    have heq : List.Forall₂ (· = ·) m.children n.children := hboth.imp fun a b hab => hab.1 b hab.2
    rw [List.forall₂_eq_eq_eq] at heq
    exact eq_of_label hlabel heq hzero.here

/-- Equality is symmetric and transitive, a node equals itself unless there is a NaN in it, and without a
zero in it equal nodes have one text and one JSON form. -/
theorem equal_up_to_zeros (a b c : Node) :
    ((a == b) = true → (b == a) = true) ∧ ((a == b) = true → (b == c) = true → (a == c) = true) ∧
      ((a == a) = true ↔ a.Every NumberLiteral) ∧
      ((a == b) = true → a.Every NonzeroLiteral → toSql a = toSql b ∧ a.toJson = b.toJson) := by
  refine ⟨Equals.symm, Equals.trans, a.equals_self_iff, fun h hzero => ?_⟩
  obtain rfl : a = b := Equals.eq h hzero
  exact ⟨rfl, rfl⟩

/-- The sign of a zero is no difference, but it is seen in the text. Without a zero a tree is the same
however it was put together. -/
theorem signed_zeros_are_equal :
    let spec (x : Binary64) : Node := .windowSpec ⟨[.unary .neg (.literal (.float x))], some [], none⟩
    let positive := spec ⟨0⟩
    let negative := spec ⟨0x8000000000000000⟩
    let written := spec ⟨0x4000000000000000⟩
    let built : Node :=
      .windowSpec ((WindowSpec.empty.orderedBy []).partitionedBy [.unary .neg (.float ⟨0x4000000000000000⟩)])
    (positive == negative) = true ∧ (negative == positive) = true ∧ (positive == positive) = true ∧
      toSql positive = "PARTITION BY -0.0 ORDER BY " ∧ toSql negative = "PARTITION BY -(-0.0) ORDER BY " ∧
      built.Every NumberLiteral ∧ (built == built) = true ∧ (built == written) = true ∧
      built.Every NonzeroLiteral ∧ toSql built = toSql written ∧ built.toJson = written.toJson := by
  intro spec positive negative written built
  have hequal : (positive == negative) = true := by cbv
  have hback : (negative == positive) = true := (equal_up_to_zeros positive negative positive).1 hequal
  have hself : (positive == positive) = true := (equal_up_to_zeros positive negative positive).2.1 hequal hback
  have hnumber : built.Every NumberLiteral := by
    have hnan : (⟨0x4000000000000000⟩ : Binary64).isNaN = false := by decide
    simp [built, WindowSpec.partitionedBy, WindowSpec.orderedBy, WindowSpec.empty, Expr.float, NumberLiteral,
      Literal.IsNumber, hnan]
  have hnonzero : built.Every NonzeroLiteral := by
    have hzero : (⟨0x4000000000000000⟩ : Binary64).isZero = false := by decide
    simp [built, WindowSpec.partitionedBy, WindowSpec.orderedBy, WindowSpec.empty, Expr.float, NonzeroLiteral,
      Literal.IsNonzero, hzero]
  have hbuilt : (built == built) = true := (equal_up_to_zeros built built built).2.2.1.mpr hnumber
  have hwritten : (built == written) = true := by cbv
  have hsame := (equal_up_to_zeros built written built).2.2.2 hwritten hnonzero
  exact ⟨hequal, hback, hself, by decide, by decide, hnumber, hbuilt, hwritten, hnonzero, hsame⟩

end Node

end SqlText
