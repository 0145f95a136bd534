import SqlText.Proofs.Comment
import SqlText.Proofs.Unambiguous

/-! # Deriving the text of a tree

The tokens of a tree's text are derived from the grammar with the tree itself, asked-for parentheses
left out: one rule for each level of the tree, and parentheses where an operand is too loose. -/

namespace SqlText

open Buffer (wrapped)
open Token (word)

/-! ## The tree that a text stands for -/

/-- Parentheses around an expression are no part of it. -/
def Expr.unnest : Expr → Expr
  | .nested inner => inner
  | e => e

def Rewrite.strip : Rewrite where
  expr := Expr.unnest

/-- The tree without the parentheses that were asked for, at every depth. -/
abbrev Expr.strip (e : Expr) : Expr := e.rewrite .strip

/-- The same for a window, whose expressions may hold such parentheses. -/
abbrev WindowSpec.strip (s : WindowSpec) : WindowSpec := s.rewrite .strip

/-! ## Trees the grammar has texts for -/

/-- A sign would be read as an operator, and the grammar knows no floats. -/
def Literal.Legible : Literal → Prop
  | integer n => 0 ≤ n
  | float _ => False
  | string _ | boolean _ | null => True

/-- A bare value has to look like a name. -/
def Identifier.Legible (i : Identifier) : Prop :=
  match i.quote with
  | none => IsName i.value
  | some q => isNameQuote q = true

/-- No chain of an associative operator is grouped to the right, which its text would not show. -/
def Expr.Legible : Expr → Prop
  | .compound parts => 2 ≤ parts.length
  | .binary _ op right => regroups op right = false
  | _ => True

/-- One level of a tree; windows only where they are allowed. -/
def Node.Legible (windows : Bool) : Node → Prop
  | identifier i => i.Legible
  | literal l => l.Legible
  | expr e => e.Legible
  | call c => IsCallName c.name ∧ (c.window.isSome → windows = true)
  | _ => True

theorem PlainWord.inert {s : String} (h : PlainWord s) : Inert s := by
  intro c hc
  have hword := h.1.2 c hc
  refine ⟨?_, ?_, ?_, not_isQuote_of_isWordChar hword⟩ <;> rintro rfl <;> revert hword <;> decide

theorem isQuote_of_isNameQuote {c : Char} (h : isNameQuote c = true) : isQuote c = true := by
  have h' : c = '"' ∨ c = '\x60' ∨ c = '[' := by simpa [isNameQuote, or_assoc] using h
  rcases h' with rfl | rfl | rfl <;> rfl

theorem Node.Legible.inertNames {windows : Bool} {n : Node} (h : n.Legible windows) : n.InertNames := by
  cases n with
  | identifier i =>
    obtain ⟨value, quote⟩ := i
    cases quote with
    | none => exact PlainWord.inert (show IsName value from h).1
    | some q => exact isQuote_of_isNameQuote h
  | call c => exact PlainWord.inert h.1.1
  | _ => trivial

theorem Node.tame_of_legible {windows : Bool} {n : Node} (h : n.Every (Legible windows)) : Tame (toSql n) :=
  tame (h.mono fun _ => Legible.inertNames)

/-! ## Tokens of composed texts -/

theorem tokens_lead {f : String} (hf : f ∈ leads) (t : String) : tokens (f ++ t) = tokens f ++ tokens t := by
  obtain ⟨hunquoted, hlone⟩ := (by decide : ∀ f ∈ leads, Unquoted f ∧ Lone f) f hf
  exact hunquoted.tokens_append hlone t

theorem tokens_join {s f : String} (hs : Closed s) (hf : Joint f) (t : String) :
    tokens (s ++ (f ++ t)) = tokens s ++ (tokens f ++ tokens t) := by
  rw [hs.tokens_append (hf.delimited_append t), tokens_lead hf.1]

theorem tokens_intercalate_cons {f x : String} (hx : Closed x) (hf : Joint f) (y : String) (rest : List String) :
    tokens (f.intercalate (x :: y :: rest)) = tokens x ++ (tokens f ++ tokens (f.intercalate (y :: rest))) := by
  rw [String.intercalate_cons_cons, String.append_assoc, tokens_join hx hf]

theorem tokens_parens {s : String} (hs : Closed s) :
    tokens (wrapped true s) = word "(" :: (tokens s ++ [word ")"]) := by
  have hopen : Unquoted "(" ∧ Lone "(" := by decide
  have hclose : tokens ")" = [word ")"] := by decide
  have htext : wrapped true s = "(" ++ (s ++ ")") := String.append_assoc
  rw [htext, hopen.1.tokens_append hopen.2, hs.tokens_append (by decide), hclose]
  rfl

theorem Closed.wrapped {s : String} (hs : Closed s) (wrap : Bool) : Closed (Buffer.wrapped wrap s) := by
  cases wrap with
  | false => exact hs
  | true =>
    have hopen : Unquoted "(" := by decide
    have hclose : Unquoted ")" := by decide
    have htext : Buffer.wrapped true s = "(" ++ (s ++ ")") := String.append_assoc
    rw [htext]
    exact hopen.closed_append (hs.append hclose.closed (by decide))

theorem BinaryOp.tokens_spelling (op : BinaryOp) : tokens op.spelling = [op.token] := by
  cases op <;> decide

/-! ## Literals and names -/

theorem isDigits_repr (n : Nat) : IsDigits n.repr := by
  refine ⟨?_, fun c hc => ?_⟩
  · intro hempty
    have := congrArg String.toList hempty
    rw [Nat.toList_repr] at this
    exact Nat.toDigits_ne_nil this
  · rw [Nat.toList_repr] at hc
    exact Nat.isDigit_of_mem_toDigits (by decide) (by decide) hc

theorem digitsValue_repr (n : Nat) : digitsValue n.repr = n := by
  rw [digitsValue, Nat.toList_repr, Nat.ofDigitChars_ten_toDigits]

theorem IsDigits.isWord {s : String} (h : IsDigits s) : IsWord s := by
  refine ⟨h.1, fun c hc => ?_⟩
  have := h.2 c hc
  simp [isWordChar, Char.isAlphanum, this]

theorem literal?_of_isDigits {s : String} (h : IsDigits s) (hlt : digitsValue s < 2 ^ 63) :
    (word s).literal? = some (.integer (.ofNat (digitsValue s))) := by
  have hne : ∀ t ∈ ["TRUE", "FALSE", "NULL"], s ≠ t := by
    rintro t ht rfl
    exact (by decide : ∀ t ∈ ["TRUE", "FALSE", "NULL"], ¬ IsDigits t) s ht h
  rw [Token.literal?, if_neg (hne _ (by decide)), if_neg (hne _ (by decide)), if_neg (hne _ (by decide)),
    if_pos ⟨h, hlt⟩]

theorem Literal.token (l : Literal) (h : l.Legible) : ∃ t, tokens l.text = [t] ∧ t.literal? = some l := by
  cases l with
  | float x => exact h.elim
  | null => exact ⟨word "NULL", by decide, rfl⟩
  | boolean b =>
    cases b with
    | true => exact ⟨word "TRUE", by decide, rfl⟩
    | false => exact ⟨word "FALSE", by decide, rfl⟩
  | string s =>
    refine ⟨.quoted '\'' s, ?_, rfl⟩
    rw [text, stringText_eq]
    exact tokens_quotedText (by decide) s
  | integer n =>
    have htext : text (.integer n) = n.toNatClampNeg.repr := by
      rw [text, Int64.toInt_eq_toNatClampNeg h]
      rfl
    refine ⟨word n.toNatClampNeg.repr, ?_, ?_⟩
    · rw [htext]
      exact (isDigits_repr _).isWord.tokens_eq
    · rw [literal?_of_isDigits (isDigits_repr _) (by rw [digitsValue_repr]; exact n.toNatClampNeg_lt),
        digitsValue_repr, Int64.ofNat_toNatClampNeg n h]

theorem Identifier.token (i : Identifier) (h : i.Legible) :
    ∃ t, tokens i.text = [t] ∧ t.identifier? = some i := by
  obtain ⟨value, quote⟩ := i
  cases quote with
  | none =>
    have hname : IsName value := h
    refine ⟨word value, hname.1.1.tokens_eq, ?_⟩
    rw [Token.identifier?, if_pos hname]
    rfl
  | some q =>
    have hq : isNameQuote q = true := h
    refine ⟨.quoted q value, tokens_quotedText (isQuote_of_isNameQuote hq) value, ?_⟩
    rw [Token.identifier?, if_pos hq]
    rfl

/-! ## Operands -/

variable {windows : Bool}

theorem Derives.loosen {l l' : Level} {ts : List Token} {e : Expr} (h : Derives windows (.expr l') ts e)
    (hle : l.rank ≤ l'.rank) : Derives windows (.expr l) ts e := by
  induction hn : l'.rank - l.rank generalizing l with
  | zero =>
    obtain rfl : l = l' := Level.rank_inj (by omega)
    exact h
  | succ n ih =>
    have hl : l ≠ .prim := by
      rintro rfl
      have := l'.rank_le
      have hprim : Level.prim.rank = 9 := rfl
      omega
    have hnext := Level.rank_next hl
    exact .tighter hl (ih (by omega) (by omega))

namespace Expr

/-- The level of the rule that derives the tree without parentheses around it. -/
def level : Expr → Level
  | .binary _ op _ => op.level
  | .unary op _ => op.level
  | .nullTest .. => .cmp
  | .between .. => .like
  | _ => .prim

theorem precedence_le_rank (e : Expr) :
    min e.precedence 7 ≤ e.level.rank ∧ (2 < e.precedence → min e.precedence 7 < e.level.rank) := by
  cases e with
  | binary l op r =>
    simp only [precedence, level]
    cases op <;> decide
  | unary op e => cases op <;> (simp only [precedence, level]; decide)
  | _ =>
    simp only [precedence, level]
    decide

theorem le_precedence_of_bare {e : Expr} {minimum : Nat} (h : e.needsParens minimum = false) :
    minimum ≤ e.precedence := by
  simpa [needsParens] using h

end Expr

theorem BinaryOp.rank_level (op : BinaryOp) : op.precedence < 7 ∧
    op.level.rank ≤ op.precedence + 1 ∧ (op.precedence ≤ 2 → op.level.rank = op.precedence) := by
  cases op <;> decide

theorem BinaryOp.rank_le_of_precedence (op : BinaryOp) {e : Expr} (h : op.precedence ≤ e.precedence) :
    op.level.rank ≤ e.level.rank := by
  have hop := op.rank_level
  have he := e.precedence_le_rank
  omega

theorem BinaryOp.rank_next_le_of_precedence (op : BinaryOp) {e : Expr} (h : op.precedence < e.precedence) :
    op.level.next.rank ≤ e.level.rank := by
  have hop := op.rank_level
  have he := e.precedence_le_rank
  rw [Level.rank_next op.level_ne_prim]
  omega

theorem UnaryOp.rank_le_of_precedence (op : UnaryOp) {e : Expr} (h : op.operandMinimum ≤ e.precedence) :
    op.level.rank ≤ e.level.rank := by
  have hop : op.level.rank ≤ min op.operandMinimum 7 + 1 ∧ 2 < op.operandMinimum := by cases op <;> decide
  have he := e.precedence_le_rank
  omega

/-- An operand is derived at the level of its place, in parentheses if its own is looser. -/
theorem derives_operand {l : Level} {e t : Expr} {wrap : Bool} (hclosed : Closed (toSql e))
    (he : Derives windows (.expr e.level) (tokens (toSql e)) t) (hl : wrap = false → l.rank ≤ e.level.rank) :
    Derives windows (.expr l) (tokens (wrapped wrap (toSql e))) t := by
  cases wrap with
  | false => exact he.loosen (hl rfl)
  | true =>
    rw [tokens_parens hclosed]
    exact (Derives.parens (he.loosen e.level.rank_le.1)).loosen l.rank_le.2

theorem tokens_binary {l r : Expr} (op : BinaryOp) (hl : Closed (toSql l)) :
    tokens (toSql (Expr.binary l op r)) = tokens (wrapped (l.needsParens op.precedence) (toSql l)) ++
      op.token :: tokens (wrapped (r.needsParens (Expr.rightMinimum op r)) (toSql r)) := by
  rw [Expr.toSql_eq, Expr.spelling, tokens_join (hl.wrapped _) op.joint_spelling, op.tokens_spelling]
  rfl

theorem derives_left {l t : Expr} (op : BinaryOp) (hl : Closed (toSql l))
    (hd : Derives windows (.expr l.level) (tokens (toSql l)) t) :
    Derives windows (.expr op.level) (tokens (wrapped (l.needsParens op.precedence) (toSql l))) t :=
  derives_operand hl hd fun hbare => op.rank_le_of_precedence (Expr.le_precedence_of_bare hbare)

theorem derives_right {r t : Expr} (op : BinaryOp) (hregroups : Expr.regroups op r = false) (hr : Closed (toSql r))
    (hd : Derives windows (.expr r.level) (tokens (toSql r)) t) :
    Derives windows (.expr op.level.next) (tokens (wrapped (r.needsParens (Expr.rightMinimum op r)) (toSql r))) t := by
  refine derives_operand hr hd fun hbare => ?_
  have hmin := Expr.le_precedence_of_bare hbare
  rw [Expr.rightMinimum, hregroups] at hmin
  exact op.rank_next_le_of_precedence hmin

theorem UnaryOp.tokens_text (op : UnaryOp) {s : String} (hclash : op.clashes s = false) :
    tokens (op.text ++ s) = op.token :: tokens s := by
  cases op with
  | neg => exact tokens_minus (by simpa [clashes] using hclash)
  | not =>
    have h : Unquoted "NOT " ∧ Lone "NOT " := by decide
    exact h.1.tokens_append h.2 s
  | bitNot =>
    have h : Unquoted "~" ∧ Lone "~" := by decide
    exact h.1.tokens_append h.2 s

theorem derives_unary {e t : Expr} (op : UnaryOp) (he : Closed (toSql e))
    (hd : Derives windows (.expr e.level) (tokens (toSql e)) t) :
    Derives windows (.expr op.level) (tokens (Expr.unary op e).spelling) (.unary op t) := by
  rw [Expr.spelling, op.tokens_text (op.clashes_operand _ _)]
  refine .unary op (derives_operand he hd fun hbare => ?_)
  exact op.rank_le_of_precedence (Expr.le_precedence_of_bare (Bool.or_eq_false_iff.mp hbare).1)

theorem derives_nullTest {e t : Expr} (negated : Bool) (he : Closed (toSql e))
    (hd : Derives windows (.expr e.level) (tokens (toSql e)) t) :
    Derives windows (.expr .cmp) (tokens (Expr.nullTest e negated).spelling) (.nullTest t negated) := by
  have htokens : tokens (Expr.nullTestText negated) = Expr.nullTestTokens negated := by cases negated <;> decide
  rw [Expr.spelling, (he.wrapped _).tokens_append (by cases negated <;> decide), htokens]
  refine .nullTest negated (derives_operand he hd fun hbare => ?_)
  have hmin : BinaryOp.eq.precedence ≤ e.precedence :=
    Nat.le_trans (by decide) (Expr.le_precedence_of_bare hbare)
  exact BinaryOp.eq.rank_le_of_precedence hmin

theorem derives_between {e low high t tlow thigh : Expr} (negated : Bool) (he : Closed (toSql e))
    (hlow : Closed (toSql low)) (hhigh : Closed (toSql high))
    (hd : Derives windows (.expr e.level) (tokens (toSql e)) t)
    (hdlow : Derives windows (.expr low.level) (tokens (toSql low)) tlow)
    (hdhigh : Derives windows (.expr high.level) (tokens (toSql high)) thigh) :
    Derives windows (.expr .like) (tokens (Expr.between e low high negated).spelling)
      (.between t tlow thigh negated) := by
  have htokens : tokens (Expr.betweenText negated) = Expr.betweenTokens negated := by cases negated <;> decide
  have hand : tokens " AND " = [word "AND"] := by decide
  rw [Expr.spelling, tokens_join (he.wrapped _) (Expr.joint_betweenText negated), htokens,
    tokens_join (hlow.wrapped _) (by decide), hand]
  refine .between negated (derives_operand he hd fun hbare => ?_) (derives_operand hlow hdlow fun hbare => ?_)
    (derives_operand hhigh hdhigh fun hbare => ?_)
  · have hmin : BinaryOp.like.precedence ≤ e.precedence :=
      Nat.le_trans (by decide) (Expr.le_precedence_of_bare hbare)
    exact BinaryOp.like.rank_le_of_precedence hmin
  · exact BinaryOp.like.rank_next_le_of_precedence (Expr.le_precedence_of_bare hbare)
  · exact BinaryOp.like.rank_next_le_of_precedence (Expr.le_precedence_of_bare hbare)

/-! ## Lists -/

theorem derives_path {parts : List Identifier} (hne : parts ≠ []) (htame : ∀ i ∈ parts, Tame i.text)
    (h : ∀ i ∈ parts, ∃ t, tokens i.text = [t] ∧ t.identifier? = some i) :
    Derives windows .path (tokens (".".intercalate (parts.map Identifier.text))) parts := by
  induction parts with
  | nil => exact absurd rfl hne
  | cons i rest ih =>
    obtain ⟨t, ht, hi⟩ := h i List.mem_cons_self
    cases rest with
    | nil =>
      rw [List.map_singleton, String.intercalate_singleton, ht]
      exact .name hi
    | cons j rest =>
      have hdot : tokens "." = [word "."] := by decide
      have hrest := ih (by simp) (fun k hk => htame k (List.mem_cons_of_mem _ hk))
        fun k hk => h k (List.mem_cons_of_mem _ hk)
      rw [List.map_cons, List.map_cons,
        tokens_intercalate_cons (htame i List.mem_cons_self).closed (by decide), ht, hdot]
      exact .qualified hi hrest

section

variable {α : Type} [Emit α] {s : Symbol} {f : α → s.Value} {xs : List α}

theorem derives_many (hne : xs ≠ []) (htame : ∀ x ∈ xs, Tame (toSql x))
    (h : ∀ x ∈ xs, Derives windows s (tokens (toSql x)) (f x)) :
    Derives windows (.many s) (tokens (", ".intercalate (xs.map toSql))) (xs.map f) := by
  induction xs with
  | nil => exact absurd rfl hne
  | cons x rest ih =>
    have hx := h x List.mem_cons_self
    cases rest with
    | nil =>
      rw [List.map_singleton, String.intercalate_singleton]
      exact .last hx
    | cons y rest =>
      have hcomma : tokens ", " = [word ","] := by decide
      have hrest := ih (by simp) (fun z hz => htame z (List.mem_cons_of_mem _ hz))
        fun z hz => h z (List.mem_cons_of_mem _ hz)
      rw [List.map_cons, List.map_cons,
        tokens_intercalate_cons (htame x List.mem_cons_self).closed (by decide), hcomma]
      exact .more hx hrest

theorem derives_list (htame : ∀ x ∈ xs, Tame (toSql x)) (h : ∀ x ∈ xs, Derives windows s (tokens (toSql x)) (f x)) :
    Derives windows (.list s) (tokens (", ".intercalate (xs.map toSql))) (xs.map f) := by
  cases xs with
  | nil => exact .empty
  | cons x rest => exact .elements (derives_many (by simp) htame h)

end

theorem tokens_spaced {xs : List String} (h : ∀ x ∈ xs, Closed x) :
    tokens (" ".intercalate xs) = xs.flatMap tokens := by
  induction xs with
  | nil => rfl
  | cons x rest ih =>
    cases rest with
    | nil => simp
    | cons y rest =>
      have hspace : tokens " " = [] := by decide
      rw [tokens_intercalate_cons (h x List.mem_cons_self) (by decide), hspace,
        List.nil_append, ih fun z hz => h z (List.mem_cons_of_mem _ hz)]
      rfl

/-! ## Calls -/

theorem derives_over {w : Option Window} (hallowed : w.isSome → windows = true)
    (h : ∀ window ∈ w, Derives windows .window (tokens (toSql window)) (window.rewrite .strip)) :
    Derives windows .overClause (tokens (Window.overText w)) (w.map (Window.rewrite .strip)) := by
  cases w with
  | none => exact .bare
  | some window =>
    have hover : tokens " OVER " = [word "OVER"] := by decide
    rw [Window.overText, tokens_lead (by decide), hover]
    exact .windowed (hallowed rfl) (h window rfl)

theorem derives_call {c : Call} (hname : IsCallName c.name) (hallowed : c.window.isSome → windows = true)
    (htame : ∀ e ∈ c.args, Tame (toSql e))
    (hargs : ∀ e ∈ c.args, Derives windows (.expr .or) (tokens (toSql e)) e.strip)
    (hover : ∀ window ∈ c.window, Derives windows .window (tokens (toSql window)) (window.rewrite .strip)) :
    Derives windows (.expr .prim) (tokens c.spelling) (.call (c.rewrite .strip)) := by
  have hargument := (tame_compositional.argumentText htame).closed
  obtain ⟨name, args, distinct, window⟩ := c
  have hlist := derives_list htame hargs
  have hdistinct : tokens (Call.argumentText ⟨name, args, distinct, window⟩) =
      Call.distinctTokens distinct ++ tokens (", ".intercalate (args.map toSql)) := by
    cases distinct with
    | false => simp [Call.argumentText, Call.distinctTokens]
    | true =>
      have hword : tokens "DISTINCT " = [word "DISTINCT"] := by decide
      rw [Call.argumentText, if_pos rfl, tokens_lead (by decide), hword]
      rfl
  have hover' : Delimited (Window.overText window) := by
    cases window with
    | none => decide
    | some w => exact Delimited.append_left (by decide) (by decide) _
  rw [Call.spelling, (hname.1.1.unquoted.closed).tokens_append (by simp [Delimited, wrapped]), hname.1.1.tokens_eq,
    (hargument.wrapped true).tokens_append hover', tokens_parens hargument, hdistinct]
  have hcall := Derives.call hname distinct hlist (derives_over hallowed hover)
  simpa [Call.rewrite] using hcall

/-! ## Windows -/

theorem derives_partition {es : List Expr} (htame : ∀ e ∈ es, Tame (toSql e))
    (h : ∀ e ∈ es, Derives windows (.expr .or) (tokens (toSql e)) e.strip) :
    Derives windows .partition ((WindowSpec.partitionSection es).flatMap tokens) (es.map Expr.strip) := by
  cases es with
  | nil => exact .unpartitioned
  | cons e rest =>
    have hwords : tokens "PARTITION BY " = [word "PARTITION", word "BY"] := by decide
    have hlist := derives_many (List.cons_ne_nil e rest) htame h
    simp only [WindowSpec.partitionSection, List.isEmpty_cons, Bool.false_eq_true, if_false, List.flatMap_singleton]
    rw [tokens_lead (by decide), hwords]
    exact .partitioned hlist

theorem derives_order {orderBy : Option (List OrderItem)} (htame : ∀ x ∈ orderBy.getD [], Tame (toSql x))
    (h : ∀ x ∈ orderBy.getD [], Derives windows .item (tokens (toSql x)) (x.rewrite .strip)) :
    Derives windows .order ((WindowSpec.orderSection orderBy).flatMap tokens)
      (orderBy.map (List.map (OrderItem.rewrite .strip))) := by
  cases orderBy with
  | none => exact .unordered
  | some items =>
    have hwords : tokens "ORDER BY " = [word "ORDER", word "BY"] := by decide
    have hlist : Derives windows (.list .item) (tokens (", ".intercalate (items.map toSql)))
        (items.map (OrderItem.rewrite .strip)) := derives_list htame h
    simp only [WindowSpec.orderSection, Option.toList_some, List.map_cons, List.map_nil, List.flatMap_singleton]
    rw [tokens_lead (by decide), hwords]
    exact .ordered hlist

theorem derives_framing {frame : Option Frame}
    (h : ∀ f ∈ frame, Derives windows .frame (tokens (toSql f)) (f.rewrite .strip)) :
    Derives windows .framing ((frame.toList.map toSql).flatMap tokens) (frame.map (Frame.rewrite .strip)) := by
  cases frame with
  | none => exact .unframed
  | some f =>
    simp only [Option.toList_some, List.map_cons, List.map_nil, List.flatMap_singleton]
    exact .framed (h f rfl)

theorem derives_windowSpec {s : WindowSpec} (htame : ∀ m ∈ s.children, Tame (toSql m))
    (hpartition : ∀ e ∈ s.partitionBy, Derives windows (.expr .or) (tokens (toSql e)) e.strip)
    (horder : ∀ x ∈ s.orderBy.getD [], Derives windows .item (tokens (toSql x)) (x.rewrite .strip))
    (hframe : ∀ f ∈ s.frame, Derives windows .frame (tokens (toSql f)) (f.rewrite .strip)) :
    Derives windows .spec (tokens s.spelling) s.strip := by
  have hsections : ∀ t ∈ s.sections, Closed t := fun t ht => (tame_compositional.sections htame t ht).closed
  obtain ⟨partitionBy, orderBy, frame⟩ := s
  have hes := derives_partition
    (fun e he => htame (.expr e) (by simp [WindowSpec.children, show e ∈ partitionBy from he])) hpartition
  have hitems := derives_order
    (fun x hx => htame (.orderItem x) (by simp [WindowSpec.children, show x ∈ orderBy.getD [] from hx])) horder
  rw [WindowSpec.spelling, tokens_spaced hsections, WindowSpec.sections, List.flatMap_append, List.flatMap_append,
    List.append_assoc, WindowSpec.strip, WindowSpec.rewrite, Expr.rewriteList_eq_map,
    OrderItem.rewriteOption_eq_map, Frame.rewriteOption_eq_map]
  exact .spec hes hitems (derives_framing hframe)

theorem derives_orderItem {x : OrderItem} (htame : Tame (toSql x.expr))
    (h : Derives windows (.expr .or) (tokens (toSql x.expr)) x.expr.strip) :
    Derives windows .item (tokens x.spelling) (x.rewrite .strip) := by
  obtain ⟨e, direction, nulls⟩ := x
  have hdirection : tokens (OrderItem.directionText direction) = OrderItem.directionTokens direction := by
    rcases direction with _ | _ | _ <;> decide
  have hnulls : tokens (OrderItem.nullsText nulls) = OrderItem.nullsTokens nulls := by
    rcases nulls with _ | _ | _ <;> decide
  have hdelimited : Delimited (OrderItem.directionText direction) ∧ Delimited (OrderItem.nullsText nulls) := by
    rcases direction with _ | _ | _ <;> rcases nulls with _ | _ | _ <;> decide
  have hclosed : Closed (OrderItem.directionText direction) := by
    rcases direction with _ | _ | _ <;> exact Unquoted.closed (by decide)
  rw [OrderItem.spelling, htame.closed.tokens_append (hdelimited.1.append hdelimited.2),
    hclosed.tokens_append hdelimited.2, hdirection, hnulls]
  exact .item direction nulls h

theorem derives_frameBound {bound : FrameBound}
    (h : ∀ e, .expr e ∈ bound.children → Tame (toSql e) ∧ Derives windows (.expr .or) (tokens (toSql e)) e.strip) :
    Derives windows .bound (tokens bound.spelling) (bound.rewrite .strip) := by
  cases bound with
  | currentRow =>
    have htokens : tokens "CURRENT ROW" = [word "CURRENT", word "ROW"] := by decide
    rw [FrameBound.spelling, htokens]
    exact .currentRow
  | unboundedPreceding =>
    have htokens : tokens "UNBOUNDED PRECEDING" = [word "UNBOUNDED", word "PRECEDING"] := by decide
    rw [FrameBound.spelling, htokens]
    exact .unboundedPreceding
  | unboundedFollowing =>
    have htokens : tokens "UNBOUNDED FOLLOWING" = [word "UNBOUNDED", word "FOLLOWING"] := by decide
    rw [FrameBound.spelling, htokens]
    exact .unboundedFollowing
  | preceding offset =>
    have htokens : tokens " PRECEDING" = [word "PRECEDING"] := by decide
    obtain ⟨htame, hoffset⟩ := h offset (by simp [FrameBound.children])
    rw [FrameBound.spelling, htame.closed.tokens_append (by decide), htokens]
    exact .preceding hoffset
  | following offset =>
    have htokens : tokens " FOLLOWING" = [word "FOLLOWING"] := by decide
    obtain ⟨htame, hoffset⟩ := h offset (by simp [FrameBound.children])
    rw [FrameBound.spelling, htame.closed.tokens_append (by decide), htokens]
    exact .following hoffset

theorem derives_frame {f : Frame} (h : ∀ bound, .frameBound bound ∈ (Node.frame f).children →
      Tame (toSql bound) ∧ Derives windows .bound (tokens (toSql bound)) (bound.rewrite .strip)) :
    Derives windows .frame (tokens f.spelling) (f.rewrite .strip) := by
  obtain ⟨unit, start, stop⟩ := f
  have hunit : Closed unit.text ∧ tokens unit.text = [word unit.text] := by
    cases unit <;> exact ⟨Unquoted.closed (by decide), by decide⟩
  obtain ⟨hstartTame, hstart⟩ := h start (by simp [Node.children])
  cases stop with
  | none =>
    have hspace : tokens " " = [] := by decide
    rw [Frame.spelling, tokens_join hunit.1 (by decide), hunit.2, hspace]
    exact .single unit hstart
  | some stop =>
    have hbetween : tokens " BETWEEN " = [word "BETWEEN"] := by decide
    have hand : tokens " AND " = [word "AND"] := by decide
    obtain ⟨-, hstop⟩ := h stop (by simp [Node.children])
    rw [Frame.spelling, tokens_join hunit.1 (by decide), hunit.2, hbetween,
      tokens_join hstartTame.closed (by decide), hand]
    exact .range unit hstart hstop

end SqlText
