import SqlText.Proofs.Subnode

/-! # The text of a node from the texts of its parts

Writing a node appends its own text and nothing else, whatever stands in the buffer before. So the
text of a node is put together from the texts of the nodes below it. -/

namespace SqlText

/-! ## Buffers -/

namespace Buffer

@[simp] theorem push_push (b : Buffer) (s t : String) : (b.push s).push t = b.push (s ++ t) := by
  simp [push, String.append_assoc]

@[simp] theorem push_nil (b : Buffer) : b.push "" = b := by
  simp [push]

/-- `s` in parentheses where they are needed. -/
def wrapped (wrap : Bool) (s : String) : String := if wrap then "(" ++ s ++ ")" else s

@[simp] theorem closeIf_push_openIf (b : Buffer) (wrap : Bool) (s : String) :
    ((b.openIf wrap).push s).closeIf wrap = b.push (wrapped wrap s) := by
  cases wrap <;> simp [openIf, closeIf, wrapped, String.append_assoc]

end Buffer

open Buffer (wrapped)

/-! ## Appending -/

section

variable {α : Type} [Emit α]

/-- Writing `a` appends its text. -/
def Appends (a : α) : Prop := ∀ b : Buffer, Emit.emit a b = b.push (toSql a)

theorem toSql_of_emit {a : α} {s : String} (h : ∀ b : Buffer, Emit.emit a b = b.push s) : toSql a = s := by
  simp only [toSql, h]
  simp [Buffer.empty]

theorem appends_of_emit {a : α} {s : String} (h : ∀ b : Buffer, Emit.emit a b = b.push s) : Appends a := by
  intro b
  rw [h, toSql_of_emit h]

theorem Buffer.foldl_add (separator : String) (xs : List α) (hx : ∀ x ∈ xs, Appends x) (b : Buffer) (s : String) :
    xs.foldl (fun b x => (b.push separator).add x) (b.push s) =
      b.push (separator.intercalate (s :: xs.map toSql)) := by
  induction xs generalizing s with
  | nil => simp
  | cons x rest ih =>
    have hadd : ((b.push s).push separator).add x = b.push (s ++ separator ++ toSql x) := by
      simp [Buffer.add, hx x List.mem_cons_self _, String.append_assoc]
    rw [List.foldl_cons, hadd, ih (fun y hy => hx y (List.mem_cons_of_mem _ hy))]
    rw [List.map_cons, String.intercalate_cons_cons, String.intercalate_cons_append]

theorem Buffer.addSeparated_eq (separator : String) (xs : List α) (hx : ∀ x ∈ xs, Appends x) (b : Buffer) :
    b.addSeparated separator xs = b.push (separator.intercalate (xs.map toSql)) := by
  cases xs with
  | nil => simp [addSeparated]
  | cons x rest =>
    rw [addSeparated, Buffer.add, hx x List.mem_cons_self]
    exact Buffer.foldl_add separator rest (fun y hy => hx y (List.mem_cons_of_mem _ hy)) b _

end

/-! ## Spelling

One level of a node: fixed fragments around the texts of its children. -/

def BinaryOp.spelling (op : BinaryOp) : String := " " ++ op.text ++ " "

def Expr.nullTestText (negated : Bool) : String := if negated then " IS NOT NULL" else " IS NULL"

def Expr.betweenText (negated : Bool) : String := if negated then " NOT BETWEEN " else " BETWEEN "

/-- Operands are in parentheses where they are too loose for their place. -/
def Expr.spelling : Expr → String
  | .literal value => value.text
  | .identifier name => name.text
  | .compound parts => ".".intercalate (parts.map Identifier.text)
  | .binary left op right =>
    wrapped (left.needsParens op.precedence) (toSql left) ++
      (op.spelling ++ wrapped (right.needsParens (rightMinimum op right)) (toSql right))
  | .unary op operand =>
    op.text ++ wrapped (operand.needsParens op.operandMinimum || op.clashes (toSql operand)) (toSql operand)
  | .call c => toSql c
  | .nested inner => wrapped true (toSql inner)
  | .nullTest operand negated =>
    wrapped (operand.needsParens BinaryOp.like.precedence) (toSql operand) ++ nullTestText negated
  | .between operand low high negated =>
    wrapped (operand.needsParens betweenMinimum) (toSql operand) ++
      (betweenText negated ++
        (wrapped (low.needsParens betweenMinimum) (toSql low) ++
          (" AND " ++ wrapped (high.needsParens betweenMinimum) (toSql high))))
  | .wildcard => "*"

/-- What stands between the parentheses. -/
def Call.argumentText (c : Call) : String :=
  (if c.distinct then "DISTINCT " else "") ++ ", ".intercalate (c.args.map toSql)

def Window.overText : Option Window → String
  | none => ""
  | some window => " OVER " ++ toSql window

def Call.spelling (c : Call) : String := c.name ++ (wrapped true c.argumentText ++ Window.overText c.window)

def Window.spelling : Window → String
  | .inline spec => wrapped true (toSql spec)
  | .named name => name.text

namespace WindowSpec

/-- An empty list is no section. -/
def partitionSection (es : List Expr) : List String :=
  if es.isEmpty then [] else ["PARTITION BY " ++ ", ".intercalate (es.map toSql)]

/-- An empty list is a section without items. -/
def orderSection (items : Option (List OrderItem)) : List String :=
  items.toList.map fun items => "ORDER BY " ++ ", ".intercalate (items.map toSql)

/-- The texts of the sections that are there. -/
def sections (s : WindowSpec) : List String :=
  partitionSection s.partitionBy ++ orderSection s.orderBy ++ s.frame.toList.map toSql

def spelling (s : WindowSpec) : String := " ".intercalate s.sections

end WindowSpec

def OrderItem.directionText (d : Option SortDirection) : String := d.elim "" fun d => " " ++ d.text

def OrderItem.nullsText (n : Option NullPlacement) : String := n.elim "" fun n => " " ++ n.text

def OrderItem.spelling (x : OrderItem) : String := toSql x.expr ++ (directionText x.direction ++ nullsText x.nulls)

def FrameBound.spelling : FrameBound → String
  | .currentRow => "CURRENT ROW"
  | .unboundedPreceding => "UNBOUNDED PRECEDING"
  | .preceding offset => toSql offset ++ " PRECEDING"
  | .unboundedFollowing => "UNBOUNDED FOLLOWING"
  | .following offset => toSql offset ++ " FOLLOWING"

/-- Two bounds stand between words of their own. -/
def Frame.spelling : Frame → String
  | ⟨unit, start, none⟩ => unit.text ++ (" " ++ toSql start)
  | ⟨unit, start, some stop⟩ => unit.text ++ (" BETWEEN " ++ (toSql start ++ (" AND " ++ toSql stop)))

def NamedWindow.spelling (w : NamedWindow) : String := w.name.text ++ (" as " ++ wrapped true (toSql w.spec))

def Node.spelling : Node → String
  | identifier i => i.text
  | literal l => l.text
  | expr e => e.spelling
  | call c => c.spelling
  | orderItem x => x.spelling
  | frameUnit u => u.text
  | frameBound bound => bound.spelling
  | frame f => f.spelling
  | windowSpec s => s.spelling
  | namedWindow w => w.spelling
  | window w => w.spelling

/-! ## Every node appends -/

theorem Identifier.toSql_eq (i : Identifier) : toSql i = i.text := toSql_of_emit fun _ => rfl

theorem Expr.emit_eq (e : Expr) (h : ∀ m ∈ e.children, Appends m) (b : Buffer) :
    e.emit b = b.push e.spelling := by
  cases e with
  | literal l => rfl
  | identifier i => rfl
  | wildcard => rfl
  | call c => exact h (.call c) (by simp [children]) b
  | compound parts =>
    have htext : parts.map toSql = parts.map Identifier.text := List.map_congr_left fun i _ => i.toSql_eq
    rw [spelling, ← htext]
    exact Buffer.addSeparated_eq "." parts (fun i hi => h (.identifier i) (by simp [children, hi])) b
  | binary l op r =>
    have hl : ∀ b, l.emit b = b.push (toSql l) := h (.expr l) (by simp [children])
    have hr : ∀ b, r.emit b = b.push (toSql r) := h (.expr r) (by simp [children])
    simp [Expr.emit, spelling, BinaryOp.spelling, hl, hr, String.append_assoc]
  | unary op e =>
    have he : (e.emit .empty).text = toSql e := rfl
    simp [Expr.emit, spelling, he]
  | nested e =>
    have he : ∀ b, e.emit b = b.push (toSql e) := h (.expr e) (by simp [children])
    simp [Expr.emit, spelling, wrapped, he, String.append_assoc]
  | nullTest e negated =>
    have he : ∀ b, e.emit b = b.push (toSql e) := h (.expr e) (by simp [children])
    simp [Expr.emit, spelling, nullTestText, he]
  | between e low high negated =>
    have he : ∀ b, e.emit b = b.push (toSql e) := h (.expr e) (by simp [children])
    have hlow : ∀ b, low.emit b = b.push (toSql low) := h (.expr low) (by simp [children])
    have hhigh : ∀ b, high.emit b = b.push (toSql high) := h (.expr high) (by simp [children])
    simp [Expr.emit, spelling, betweenText, he, hlow, hhigh, String.append_assoc]

theorem Call.emit_eq (c : Call) (h : ∀ m ∈ (Node.call c).children, Appends m) (b : Buffer) :
    c.emit b = b.push c.spelling := by
  obtain ⟨name, args, distinct, window⟩ := c
  have hargs : ∀ b, Expr.emitList args b = b.push (", ".intercalate (args.map toSql)) := by
    intro b
    rw [Expr.emitList_eq]
    exact Buffer.addSeparated_eq ", " args (fun e he => h (.expr e) (by simp [Node.children, he])) b
  have hwindow : ∀ b, Window.emitOver window b = b.push (Window.overText window) := by
    intro b
    cases window with
    | none => simp [Window.emitOver, Window.overText]
    | some w =>
      have hw : ∀ b, w.emit b = b.push (toSql w) := h (.window w) (by simp [Node.children])
      simp [Window.emitOver, Window.overText, hw]
  have hgap : ∀ t, "(" ++ ("DISTINCT " ++ t) = "(DISTINCT " ++ t := fun t => String.append_assoc.symm
  cases distinct <;> simp [Call.emit, spelling, argumentText, wrapped, hargs, hwindow, hgap, String.append_assoc]

theorem WindowSpec.emit_eq (s : WindowSpec) (h : ∀ m ∈ s.children, Appends m) (b : Buffer) :
    s.emit b = b.push s.spelling := by
  obtain ⟨partitionBy, orderBy, frame⟩ := s
  have hpartition : ∀ b, Expr.emitList partitionBy b = b.push (", ".intercalate (partitionBy.map toSql)) := by
    intro b
    rw [Expr.emitList_eq]
    exact Buffer.addSeparated_eq ", " partitionBy (fun e he => h (.expr e) (by simp [children, he])) b
  have horder : ∀ items, orderBy = some items →
      ∀ b, OrderItem.emitList items b = b.push (", ".intercalate (items.map toSql)) := by
    intro items hitems b
    rw [OrderItem.emitList_eq]
    exact Buffer.addSeparated_eq ", " items (fun x hx => h (.orderItem x) (by simp [children, hitems, hx])) b
  have hframe : ∀ f, frame = some f → ∀ b, f.emit b = b.push (toSql f) := fun f hf =>
    h (.frame f) (by simp [children, hf])
  have hgap : ∀ t, " " ++ ("ORDER BY " ++ t) = " ORDER BY " ++ t := fun t => String.append_assoc.symm
  cases partitionBy <;> cases orderBy <;> cases frame <;>
    simp [WindowSpec.emit, OrderItem.emitSection, Frame.emitSection, Buffer.gap, spelling, sections, partitionSection,
      orderSection, hpartition, horder, hframe, hgap, String.append_assoc]

theorem FrameBound.emit_eq (bound : FrameBound) (h : ∀ m ∈ bound.children, Appends m) (b : Buffer) :
    bound.emit b = b.push bound.spelling := by
  cases bound with
  | currentRow => rfl
  | unboundedPreceding => rfl
  | unboundedFollowing => rfl
  | preceding offset | following offset =>
    have ho : ∀ b, offset.emit b = b.push (toSql offset) := h (.expr offset) (by simp [children])
    simp [FrameBound.emit, spelling, ho]

theorem Frame.emit_eq (f : Frame) (h : ∀ m ∈ (Node.frame f).children, Appends m) (b : Buffer) :
    f.emit b = b.push f.spelling := by
  obtain ⟨unit, start, stop⟩ := f
  have hunit : ∀ b : Buffer, b.add unit = b.push unit.text := fun _ => rfl
  have hstart : ∀ b, start.emit b = b.push (toSql start) := h (.frameBound start) (by simp [Node.children])
  cases stop with
  | none => simp [Frame.emit, spelling, hunit, hstart, String.append_assoc]
  | some stop =>
    have hstop : ∀ b, stop.emit b = b.push (toSql stop) := h (.frameBound stop) (by simp [Node.children])
    simp [Frame.emit, spelling, hunit, hstart, hstop, String.append_assoc]

theorem OrderItem.emit_eq (x : OrderItem) (h : ∀ m ∈ (Node.orderItem x).children, Appends m) (b : Buffer) :
    x.emit b = b.push x.spelling := by
  obtain ⟨e, direction, nulls⟩ := x
  have he : ∀ b, e.emit b = b.push (toSql e) := h (.expr e) (by simp [Node.children])
  cases direction <;> cases nulls <;>
    simp [OrderItem.emit, spelling, directionText, nullsText, he, String.append_assoc]

theorem Window.emit_eq (w : Window) (h : ∀ m ∈ (Node.window w).children, Appends m) (b : Buffer) :
    w.emit b = b.push w.spelling := by
  cases w with
  | inline spec =>
    have hs : ∀ b, spec.emit b = b.push (toSql spec) := h (.windowSpec spec) (by simp [Node.children])
    simp [Window.emit, spelling, wrapped, hs, String.append_assoc]
  | named name => rfl

theorem NamedWindow.emit_eq (w : NamedWindow) (h : ∀ m ∈ (Node.namedWindow w).children, Appends m) (b : Buffer) :
    w.emit b = b.push w.spelling := by
  have hname : ∀ b : Buffer, b.add w.name = b.push w.name.text := fun _ => rfl
  have hs : ∀ b, w.spec.emit b = b.push (toSql w.spec) := h (.windowSpec w.spec) (by simp [Node.children])
  have hgap : ∀ t, " as " ++ ("(" ++ t) = " as (" ++ t := fun t => String.append_assoc.symm
  simp [NamedWindow.emit, spelling, wrapped, hname, hs, hgap, String.append_assoc]

namespace Node

theorem emit_eq (n : Node) (h : ∀ m ∈ n.children, Appends m) (b : Buffer) : n.emit b = b.push n.spelling := by
  cases n with
  | identifier i => rfl
  | literal l => rfl
  | frameUnit u => rfl
  | expr e => exact e.emit_eq h b
  | call c => exact c.emit_eq h b
  | orderItem x => exact x.emit_eq h b
  | frameBound bound => exact bound.emit_eq h b
  | frame f => exact f.emit_eq h b
  | windowSpec s => exact s.emit_eq h b
  | namedWindow w => exact w.emit_eq h b
  | window w => exact w.emit_eq h b

theorem appends (n : Node) : Appends n :=
  induct (fun n h => appends_of_emit (n.emit_eq h)) n

theorem toSql_eq (n : Node) : toSql n = n.spelling := toSql_of_emit (n.emit_eq fun m _ => m.appends)

end Node

/-! ## The text of each type -/

theorem Expr.toSql_eq (e : Expr) : toSql e = e.spelling := (Node.expr e).toSql_eq

theorem Call.toSql_eq (c : Call) : toSql c = c.spelling := (Node.call c).toSql_eq

theorem Window.toSql_eq (w : Window) : toSql w = w.spelling := (Node.window w).toSql_eq

theorem WindowSpec.toSql_eq (s : WindowSpec) : toSql s = s.spelling := (Node.windowSpec s).toSql_eq

theorem OrderItem.toSql_eq (x : OrderItem) : toSql x = x.spelling := (Node.orderItem x).toSql_eq

theorem FrameBound.toSql_eq (bound : FrameBound) : toSql bound = bound.spelling :=
  (Node.frameBound bound).toSql_eq

theorem Frame.toSql_eq (f : Frame) : toSql f = f.spelling := (Node.frame f).toSql_eq

end SqlText
