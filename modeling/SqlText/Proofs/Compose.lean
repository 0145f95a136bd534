import Mathlib.Data.List.Forall2
import SqlText.Proofs.Rewrite
import SqlText.Proofs.Scan
import SqlText.Proofs.Text

/-! # Properties that the text of every node has

There are few ways in which the text of a node is put together: a fixed text, a fixed text before
another one, two texts of which the second starts with a delimiter, parentheses, and a sign. A
property that survives each of them holds of the text of every node whose leaves have it, and a
relation that does holds between the texts of a node before and after a rewrite of its leaves. -/

namespace SqlText

open Buffer (wrapped)

/-! ## The fixed texts -/

/-- What a node can consist of, or end with. -/
def fixedTexts : List String :=
  ["", "*", " IS NULL", " IS NOT NULL", "CURRENT ROW", "UNBOUNDED PRECEDING", "UNBOUNDED FOLLOWING", " PRECEDING",
    " FOLLOWING", " ASC", " DESC", " NULLS FIRST", " NULLS LAST", "ROWS", "RANGE", "GROUPS"]

/-- What stands before an operand or an element. -/
def leads : List String :=
  [" + ", " - ", " * ", " / ", " % ", " = ", " <> ", " < ", " <= ", " > ", " >= ", " AND ", " OR ", " || ", " LIKE ",
    " BETWEEN ", " NOT BETWEEN ", ".", ", ", " ", "DISTINCT ", " OVER ", "PARTITION BY ", "ORDER BY ", " as "]

theorem ne_empty_of_mem_leads : ∀ s ∈ leads, s ≠ "" := by
  decide

/-- What can stand between two texts: a lead that ends the one before it. -/
def Joint (s : String) : Prop := s ∈ leads ∧ Delimited s

instance (s : String) : Decidable (Joint s) := inferInstanceAs (Decidable (_ ∧ _))

theorem Joint.delimited_append {s : String} (hs : Joint s) (t : String) : Delimited (s ++ t) :=
  hs.2.append_left (ne_empty_of_mem_leads s hs.1) t

theorem BinaryOp.joint_spelling (op : BinaryOp) : Joint op.spelling := by
  cases op <;> decide

theorem Expr.joint_betweenText (negated : Bool) : Joint (betweenText negated) := by
  cases negated <;> decide

theorem Expr.nullTestText_mem (negated : Bool) : nullTestText negated ∈ fixedTexts := by
  cases negated <;> decide

theorem FrameUnit.text_mem (u : FrameUnit) : u.text ∈ fixedTexts := by
  cases u <;> decide

theorem OrderItem.directionText_mem (d : Option SortDirection) : directionText d ∈ fixedTexts := by
  rcases d with _ | _ | _ <;> decide

theorem OrderItem.nullsText_mem (n : Option NullPlacement) : nullsText n ∈ fixedTexts := by
  rcases n with _ | _ | _ <;> decide

theorem UnaryOp.clashes_wrapped (op : UnaryOp) (s : String) : op.clashes (wrapped true s) = false := by
  simp [clashes, wrapped]

theorem UnaryOp.clashes_operand (op : UnaryOp) (wrap : Bool) (s : String) :
    op.clashes (wrapped (wrap || op.clashes s) s) = false := by
  cases hwrap : wrap || op.clashes s with
  | true => exact op.clashes_wrapped s
  | false => exact (Bool.or_eq_false_iff.mp hwrap).2

/-! ## Relations kept by every composition -/

/-- A relation of texts that survives every way of putting them together. -/
structure Congruent (R : String → String → Prop) : Prop where
  fixed : ∀ s ∈ fixedTexts, R s s
  lead : ∀ s ∈ leads, ∀ t t', R t t' → R (s ++ t) (s ++ t')
  append : ∀ s s' t t', R s s' → R t t' → Delimited t → Delimited t' → R (s ++ t) (s' ++ t')
  parens : ∀ s s', R s s' → R ("(" ++ s ++ ")") ("(" ++ s' ++ ")")
  /-- Whether a sign needs parentheses is decided on the text behind it. -/
  sign : ∀ (op : UnaryOp) (wrap : Bool) (s s' : String), R s s' →
    R (op.text ++ wrapped (wrap || op.clashes s) s) (op.text ++ wrapped (wrap || op.clashes s') s')

/-- The relation between the texts that a node brings along itself, before and after a rewrite. -/
def Node.LeafRel (R : String → String → Prop) (r : Rewrite) : Node → Prop
  | identifier i => R i.text (r.identifier i).text
  | literal l => R l.text (r.literal l).text
  | call c => R c.name c.name
  | _ => True

/-! ## Rewrites of the leaves

Which operands stand in parentheses is no matter of the leaves. -/

/-- Neither the text of an expression nor how it binds is changed, only what is in it. -/
structure Rewrite.KeepsText (r : Rewrite) : Prop where
  toSql_eq (e : Expr) : toSql (r.expr e) = toSql e
  precedence_eq (e : Expr) : (r.expr e).precedence = e.precedence
  regroups_eq (op : BinaryOp) (e : Expr) : Expr.regroups op (r.expr e) = Expr.regroups op e

namespace Rewrite.KeepsText

variable {r : Rewrite}

theorem of_leaves (hr : ∀ e, r.expr e = e) : r.KeepsText where
  toSql_eq e := by rw [hr]
  precedence_eq e := by rw [hr]
  regroups_eq op e := by rw [hr]

theorem precedence (hr : r.KeepsText) (e : Expr) : (e.rewrite r).precedence = e.precedence := by
  rw [e.rewrite_eq, hr.precedence_eq]
  cases e with
  | unary op operand => cases op <;> rfl
  | _ => rfl

theorem needsParens (hr : r.KeepsText) (e : Expr) (minimum : Nat) :
    (e.rewrite r).needsParens minimum = e.needsParens minimum := by
  unfold Expr.needsParens
  rw [hr.precedence]

theorem rightMinimum (hr : r.KeepsText) (op : BinaryOp) (e : Expr) :
    Expr.rightMinimum op (e.rewrite r) = Expr.rightMinimum op e := by
  have hregroups : Expr.regroups op (e.rewrite r) = Expr.regroups op e := by
    rw [e.rewrite_eq, hr.regroups_eq]
    cases e <;> rfl
  unfold Expr.rightMinimum
  rw [hregroups]

end Rewrite.KeepsText

namespace Congruent

variable {R : String → String → Prop} {r : Rewrite}

theorem wrapped (hR : Congruent R) (wrap : Bool) {s s' : String} (hs : R s s') :
    R (Buffer.wrapped wrap s) (Buffer.wrapped wrap s') := by
  cases wrap with
  | false => exact hs
  | true => exact hR.parens s s' hs

theorem join (hR : Congruent R) {s s' f t t' : String} (hs : R s s') (hf : Joint f) (ht : R t t') :
    R (s ++ (f ++ t)) (s' ++ (f ++ t')) :=
  hR.append s s' (f ++ t) (f ++ t') hs (hR.lead f hf.1 t t' ht) (hf.delimited_append t) (hf.delimited_append t')

theorem intercalate (hR : Congruent R) {f : String} (hf : Joint f) {xs ys : List String}
    (hxs : List.Forall₂ R xs ys) : R (f.intercalate xs) (f.intercalate ys) := by
  induction hxs with
  | nil =>
    rw [String.intercalate_nil]
    exact hR.fixed "" (by decide)
  | @cons x y xs ys hx hrest ih =>
    cases hrest with
    | nil => simpa using hx
    | cons =>
      rw [String.intercalate_cons_cons, String.intercalate_cons_cons, String.append_assoc, String.append_assoc]
      exact hR.join hx hf ih

theorem commaSeparated (hR : Congruent R) {α : Type} [Emit α] {xs : List α} {f : α → α}
    (hxs : ∀ x ∈ xs, R (toSql x) (toSql (f x))) :
    R (", ".intercalate (xs.map toSql)) (", ".intercalate ((xs.map f).map toSql)) := by
  apply hR.intercalate (by decide)
  rw [List.map_map, List.forall₂_map_left_iff, List.forall₂_map_right_iff, List.forall₂_same]
  exact hxs

/-! ## One level of a node -/

theorem expr (hR : Congruent R) (hr : r.KeepsText) {e : Expr}
    (h : ∀ m ∈ e.children, R (toSql m) (toSql (m.rewrite r))) :
    R e.spelling (e.rewriteParts r).spelling := by
  cases e with
  | literal l => exact h (.literal l) (by simp [Expr.children])
  | identifier i => exact h (.identifier i) (by simp [Expr.children])
  | call c => exact h (.call c) (by simp [Expr.children])
  | wildcard => exact hR.fixed "*" (by decide)
  | compound parts =>
    apply hR.intercalate (by decide)
    rw [List.map_map, List.forall₂_map_left_iff, List.forall₂_map_right_iff, List.forall₂_same]
    exact fun i hi => h (.identifier i) (by simp [Expr.children, hi])
  | binary left op right =>
    have hleft : R (toSql left) (toSql (left.rewrite r)) := h (.expr left) (by simp [Expr.children])
    have hright : R (toSql right) (toSql (right.rewrite r)) := h (.expr right) (by simp [Expr.children])
    simp only [Expr.rewriteParts, Expr.spelling, hr.needsParens, hr.rightMinimum]
    exact hR.join (hR.wrapped _ hleft) op.joint_spelling (hR.wrapped _ hright)
  | unary op e =>
    have he : R (toSql e) (toSql (e.rewrite r)) := h (.expr e) (by simp [Expr.children])
    simp only [Expr.rewriteParts, Expr.spelling, hr.needsParens]
    exact hR.sign op _ _ _ he
  | nested e =>
    have he : R (toSql e) (toSql (e.rewrite r)) := h (.expr e) (by simp [Expr.children])
    exact hR.parens _ _ he
  | nullTest e negated =>
    have he : R (toSql e) (toSql (e.rewrite r)) := h (.expr e) (by simp [Expr.children])
    have hd : Delimited (Expr.nullTestText negated) := by cases negated <;> decide
    simp only [Expr.rewriteParts, Expr.spelling, hr.needsParens]
    exact hR.append _ _ _ _ (hR.wrapped _ he) (hR.fixed _ (Expr.nullTestText_mem negated)) hd hd
  | between e low high negated =>
    have he : R (toSql e) (toSql (e.rewrite r)) := h (.expr e) (by simp [Expr.children])
    have hlow : R (toSql low) (toSql (low.rewrite r)) := h (.expr low) (by simp [Expr.children])
    have hhigh : R (toSql high) (toSql (high.rewrite r)) := h (.expr high) (by simp [Expr.children])
    have hbounds := hR.join (f := " AND ") (hR.wrapped (low.needsParens Expr.betweenMinimum) hlow) (by decide)
      (hR.wrapped (high.needsParens Expr.betweenMinimum) hhigh)
    simp only [Expr.rewriteParts, Expr.spelling, hr.needsParens]
    exact hR.join (hR.wrapped _ he) (Expr.joint_betweenText negated) hbounds

theorem argumentText (hR : Congruent R) {c : Call} (h : ∀ e ∈ c.args, R (toSql e) (toSql (e.rewrite r))) :
    R c.argumentText (c.rewrite r).argumentText := by
  obtain ⟨name, args, distinct, window⟩ := c
  have hlist := hR.commaSeparated h
  cases distinct with
  | false => simpa [Call.argumentText, Call.rewrite] using hlist
  | true => simpa [Call.argumentText, Call.rewrite] using hR.lead "DISTINCT " (by decide) _ _ hlist

theorem call (hR : Congruent R) {c : Call} (hname : R c.name c.name)
    (h : ∀ m ∈ (Node.call c).children, R (toSql m) (toSql (m.rewrite r))) : R c.spelling (c.rewrite r).spelling := by
  obtain ⟨name, args, distinct, window⟩ := c
  have hargs := hR.argumentText (c := ⟨name, args, distinct, window⟩) fun e he =>
    h (.expr e) (by simpa [Node.children] using he)
  have hdelimited : ∀ w, Delimited (Window.overText w) := by
    rintro (_ | w)
    · exact by decide
    · exact Delimited.append_left (by decide) (by decide) _
  have hover : R (Window.overText window) (Window.overText (Window.rewriteOption r window)) := by
    cases window with
    | none => exact hR.fixed "" (by decide)
    | some w =>
      have hw : R (toSql w) (toSql (w.rewrite r)) := h (.window w) (by simp [Node.children])
      exact hR.lead " OVER " (by decide) _ _ hw
  have htail := hR.append _ _ _ _ (hR.wrapped true hargs) hover (hdelimited _) (hdelimited _)
  exact hR.append _ _ _ _ hname htail (by simp [Delimited, Buffer.wrapped]) (by simp [Delimited, Buffer.wrapped])

theorem sections (hR : Congruent R) {s : WindowSpec} (h : ∀ m ∈ s.children, R (toSql m) (toSql (m.rewrite r))) :
    List.Forall₂ R s.sections (s.rewrite r).sections := by
  obtain ⟨partitionBy, orderBy, frame⟩ := s
  have hpartition : List.Forall₂ R (WindowSpec.partitionSection partitionBy)
      (WindowSpec.partitionSection (partitionBy.map (Expr.rewrite r))) := by
    have hlist := hR.commaSeparated fun e (he : e ∈ partitionBy) => h (.expr e) (by simp [WindowSpec.children, he])
    cases partitionBy with
    | nil => exact .nil
    | cons => exact .cons (hR.lead "PARTITION BY " (by decide) _ _ hlist) .nil
  have horder : List.Forall₂ R (WindowSpec.orderSection orderBy)
      (WindowSpec.orderSection (orderBy.map (List.map (OrderItem.rewrite r)))) := by
    cases orderBy with
    | none => exact .nil
    | some items =>
      have hlist := hR.commaSeparated fun x (hx : x ∈ items) =>
        h (.orderItem x) (by simp [WindowSpec.children, hx])
      exact .cons (hR.lead "ORDER BY " (by decide) _ _ hlist) .nil
  have hframe : List.Forall₂ R (frame.toList.map toSql) ((frame.map (Frame.rewrite r)).toList.map toSql) := by
    cases frame with
    | none => exact .nil
    | some f => exact .cons (h (.frame f) (by simp [WindowSpec.children])) .nil
  rw [WindowSpec.rewrite, Expr.rewriteList_eq_map, OrderItem.rewriteOption_eq_map, Frame.rewriteOption_eq_map]
  exact List.rel_append (List.rel_append hpartition horder) hframe

theorem windowSpec (hR : Congruent R) {s : WindowSpec} (h : ∀ m ∈ s.children, R (toSql m) (toSql (m.rewrite r))) :
    R s.spelling (s.rewrite r).spelling :=
  hR.intercalate (by decide) (hR.sections h)

theorem orderItem (hR : Congruent R) {x : OrderItem} (h : R (toSql x.expr) (toSql (x.expr.rewrite r))) :
    R x.spelling (x.rewrite r).spelling := by
  obtain ⟨e, direction, nulls⟩ := x
  have hnulls : Delimited (OrderItem.nullsText nulls) := by rcases nulls with _ | _ | _ <;> decide
  have hdirection : Delimited (OrderItem.directionText direction) := by rcases direction with _ | _ | _ <;> decide
  have hmarks := hR.append _ _ _ _ (hR.fixed _ (OrderItem.directionText_mem direction))
    (hR.fixed _ (OrderItem.nullsText_mem nulls)) hnulls hnulls
  exact hR.append _ _ _ _ h hmarks (hdirection.append hnulls) (hdirection.append hnulls)

theorem frameBound (hR : Congruent R) {bound : FrameBound}
    (h : ∀ m ∈ bound.children, R (toSql m) (toSql (m.rewrite r))) : R bound.spelling (bound.rewrite r).spelling := by
  cases bound with
  | currentRow => exact hR.fixed _ (by decide)
  | unboundedPreceding => exact hR.fixed _ (by decide)
  | unboundedFollowing => exact hR.fixed _ (by decide)
  | preceding offset =>
    have ho : R (toSql offset) (toSql (offset.rewrite r)) := h (.expr offset) (by simp [FrameBound.children])
    exact hR.append _ _ _ _ ho (hR.fixed " PRECEDING" (by decide)) (by decide) (by decide)
  | following offset =>
    have ho : R (toSql offset) (toSql (offset.rewrite r)) := h (.expr offset) (by simp [FrameBound.children])
    exact hR.append _ _ _ _ ho (hR.fixed " FOLLOWING" (by decide)) (by decide) (by decide)

theorem frame (hR : Congruent R) {f : Frame} (h : ∀ m ∈ (Node.frame f).children, R (toSql m) (toSql (m.rewrite r))) :
    R f.spelling (f.rewrite r).spelling := by
  obtain ⟨unit, start, stop⟩ := f
  have hunit : R unit.text unit.text := hR.fixed _ unit.text_mem
  have hstart : R (toSql start) (toSql (start.rewrite r)) := h (.frameBound start) (by simp [Node.children])
  cases stop with
  | none => exact hR.join hunit (by decide) hstart
  | some stop =>
    have hstop : R (toSql stop) (toSql (stop.rewrite r)) := h (.frameBound stop) (by simp [Node.children])
    have hbounds := hR.join (f := " AND ") hstart (by decide) hstop
    exact hR.join hunit (by decide) hbounds

theorem window (hR : Congruent R) {w : Window}
    (h : ∀ m ∈ (Node.window w).children, R (toSql m) (toSql (m.rewrite r))) :
    R w.spelling (w.rewrite r).spelling := by
  cases w with
  | inline spec =>
    have hs : R (toSql spec) (toSql (spec.rewrite r)) := h (.windowSpec spec) (by simp [Node.children])
    exact hR.wrapped true hs
  | named name => exact h (.identifier name) (by simp [Node.children])

theorem namedWindow (hR : Congruent R) {w : NamedWindow}
    (h : ∀ m ∈ (Node.namedWindow w).children, R (toSql m) (toSql (m.rewrite r))) :
    R w.spelling (w.rewrite r).spelling := by
  have hname : R w.name.text (r.identifier w.name).text := h (.identifier w.name) (by simp [Node.children])
  have hs : R (toSql w.spec) (toSql (w.spec.rewrite r)) := h (.windowSpec w.spec) (by simp [Node.children])
  exact hR.join hname (by decide) (hR.wrapped true hs)

theorem spelling (hR : Congruent R) (hr : r.KeepsText) {n : Node} (hleaf : n.LeafRel R r)
    (h : ∀ m ∈ n.children, R (toSql m) (toSql (m.rewrite r))) : R n.spelling (n.rewrite r).spelling := by
  cases n with
  | identifier i => exact hleaf
  | literal l => exact hleaf
  | frameUnit u => exact hR.fixed _ u.text_mem
  | expr e =>
    have hspelling : (e.rewrite r).spelling = (e.rewriteParts r).spelling := by
      rw [← Expr.toSql_eq, e.rewrite_eq, hr.toSql_eq, Expr.toSql_eq]
    simp only [Node.spelling, Node.rewrite, hspelling]
    exact hR.expr hr h
  | call c => exact hR.call hleaf h
  | orderItem x => exact hR.orderItem (h (.expr x.expr) (by simp [Node.children]))
  | frameBound bound => exact hR.frameBound h
  | frame f => exact hR.frame h
  | windowSpec s => exact hR.windowSpec h
  | namedWindow w => exact hR.namedWindow h
  | window w => exact hR.window h

/-! ## Every depth -/

theorem holds (hR : Congruent R) (hr : r.KeepsText) (n : Node) (h : n.Every (Node.LeafRel R r)) :
    R (toSql n) (toSql (n.rewrite r)) := by
  induction n using Node.induct with
  | step n ih =>
    rw [n.toSql_eq, (n.rewrite r).toSql_eq]
    exact hR.spelling hr h.here fun m hm => ih m hm (h.child hm)

end Congruent

/-! ## Properties kept by every composition

A property is a relation that asks nothing of its second text. -/

/-- A property of texts that survives them. -/
structure Compositional (Q : String → Prop) : Prop where
  fixed : ∀ s ∈ fixedTexts, Q s
  lead : ∀ s ∈ leads, ∀ t, Q t → Q (s ++ t)
  append : ∀ s t, Q s → Q t → Delimited t → Q (s ++ t)
  parens : ∀ s, Q s → Q ("(" ++ s ++ ")")
  sign : ∀ (op : UnaryOp) (s : String), op.clashes s = false → Q s → Q (op.text ++ s)

/-- The texts that a node brings along itself. -/
def Node.LeafText (Q : String → Prop) : Node → Prop
  | identifier i => Q i.text
  | literal l => Q l.text
  | call c => Q c.name
  | _ => True

/-- `P` holds of the names that are bare, and the others stand between known quotes. -/
def Node.Names (P : String → Prop) : Node → Prop
  | identifier ⟨value, none⟩ => P value
  | identifier ⟨_, some q⟩ => isQuote q = true
  | call c => P c.name
  | _ => True

namespace Compositional

variable {Q : String → Prop}

theorem congruent (hQ : Compositional Q) : Congruent fun s _ => Q s where
  fixed := hQ.fixed
  lead s hs t _ ht := hQ.lead s hs t ht
  append s _ t _ hs ht hd _ := hQ.append s t hs ht hd
  parens s _ hs := hQ.parens s hs
  sign op wrap s _ hs := by
    apply hQ.sign op _ (op.clashes_operand wrap s)
    cases wrap || op.clashes s with
    | false => exact hs
    | true => exact hQ.parens s hs

theorem argumentText (hQ : Compositional Q) {c : Call} (h : ∀ e ∈ c.args, Q (toSql e)) : Q c.argumentText :=
  hQ.congruent.argumentText (r := {}) h

theorem sections (hQ : Compositional Q) {s : WindowSpec} (h : ∀ m ∈ s.children, Q (toSql m)) :
    ∀ t ∈ s.sections, Q t := by
  have hall : List.Forall₂ (fun t _ => Q t ∧ True) s.sections (s.rewrite {}).sections :=
    (hQ.congruent.sections h).imp fun _ _ ht => ⟨ht, trivial⟩
  exact ((List.forall₂_and_left _ _).mp hall).1

theorem holds (hQ : Compositional Q) (n : Node) (h : n.Every (Node.LeafText Q)) : Q (toSql n) :=
  hQ.congruent.holds (.of_leaves (r := {}) fun _ => rfl) n (h.mono fun m hm => by cases m <;> exact hm)

theorem holds_of_names (hQ : Compositional Q) {P : String → Prop} (hname : ∀ s, P s → Q s)
    (hquoted : ∀ q v, isQuote q = true → Q (Identifier.quotedText q v)) (hliteral : ∀ l : Literal, Q l.text)
    (n : Node) (h : n.Every (Node.Names P)) : Q (toSql n) := by
  refine hQ.holds n (h.mono fun m hm => ?_)
  cases m with
  | identifier i =>
    obtain ⟨value, _ | q⟩ := i
    · exact hname value hm
    · exact hquoted q value hm
  | literal l => exact hliteral l
  | call c => exact hname c.name hm
  | _ => trivial

end Compositional

end SqlText
