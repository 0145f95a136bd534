import SqlText.Expr.Build
import SqlText.Proofs.Compose
import SqlText.Proofs.Number

/-! # Spacing

Many fragments bring a space along, in front or behind, and any section may be missing. Still the text of
a node has one space at a time between its quoted tokens and none at either end. An order without items
is the one section that ends with a space; only an empty window specification has an empty text. -/

namespace SqlText

open Buffer (wrapped)

/-! ## Single spaces -/

/-- Not both are spaces. -/
def Piece.Apart (a b : Piece) : Prop := ¬ (a = .char ' ' ∧ b = .char ' ')

instance (a b : Piece) : Decidable (a.Apart b) := inferInstanceAs (Decidable (¬ _))

/-- A text with whole quoted tokens and no two spaces side by side between them. -/
structure Spaced (s : String) : Prop where
  closed : Closed s
  single : (pieces s).IsChain Piece.Apart

/-- It is not empty and starts with no space. -/
def StartsSolid (s : String) : Prop := ∃ c ∈ s.toList.head?, c ≠ ' '

/-- It is not empty and ends with no space. -/
def EndsSolid (s : String) : Prop := ∃ c ∈ s.toList.getLast?, c ≠ ' '

instance (s : String) : Decidable (StartsSolid s) := s.toList.head?.decidableExistsMem

instance (s : String) : Decidable (EndsSolid s) := s.toList.getLast?.decidableExistsMem

theorem StartsSolid.not_mem {s : String} (hs : StartsSolid s) : ' ' ∉ s.toList.head? := by
  obtain ⟨c, hc, hne⟩ := hs
  exact fun hspace => hne (Option.mem_unique hc hspace)

theorem EndsSolid.not_mem {s : String} (hs : EndsSolid s) : ' ' ∉ s.toList.getLast? := by
  obtain ⟨c, hc, hne⟩ := hs
  exact fun hspace => hne (Option.mem_unique hc hspace)

theorem StartsSolid.append {s : String} (hs : StartsSolid s) (t : String) : StartsSolid (s ++ t) := by
  obtain ⟨c, hc, hne⟩ := hs
  exact ⟨c, by simp [List.head?_append, Option.mem_def.mp hc], hne⟩

theorem EndsSolid.append {t : String} (ht : EndsSolid t) (s : String) : EndsSolid (s ++ t) := by
  obtain ⟨c, hc, hne⟩ := ht
  exact ⟨c, by simp [List.getLast?_append, Option.mem_def.mp hc], hne⟩

namespace Spaced

variable {s t : String}

theorem of_pieces_append (hs : Spaced s) (ht : Spaced t) (hclosed : Closed (s ++ t))
    (hpieces : pieces (s ++ t) = pieces s ++ pieces t) (hedge : EndsSolid s ∨ StartsSolid t) :
    Spaced (s ++ t) := by
  refine ⟨hclosed, ?_⟩
  rw [hpieces, List.isChain_append]
  refine ⟨hs.single, ht.single, ?_⟩
  rintro a ha b hb ⟨rfl, rfl⟩
  rcases hedge with hlast | hfirst
  · exact hlast.not_mem (last_of_last_pieces ha)
  · exact hfirst.not_mem (head_of_head_pieces hb)

theorem append (hs : Spaced s) (ht : Spaced t) (hd : Delimited t) (hedge : EndsSolid s ∨ StartsSolid t) :
    Spaced (s ++ t) :=
  hs.of_pieces_append ht (hs.closed.append ht.closed hd) (hs.closed t hd) hedge

end Spaced

/-- Nothing in it is quoted and no two spaces are side by side. -/
def Bare (s : String) : Prop := Unquoted s ∧ (chars s).IsChain Piece.Apart

instance (s : String) : Decidable (Bare s) := inferInstanceAs (Decidable (_ ∧ _))

theorem Bare.spaced {s : String} (hs : Bare s) : Spaced s := by
  obtain ⟨hunquoted, hsingle⟩ := hs
  refine ⟨hunquoted.closed, ?_⟩
  rwa [hunquoted.pieces_eq]

theorem Bare.lead {s t : String} (hs : Bare s) (ht : Spaced t) (hedge : EndsSolid s ∨ StartsSolid t) :
    Spaced (s ++ t) := by
  have hpieces : pieces (s ++ t) = pieces s ++ pieces t := by rw [hs.1.pieces_append, hs.1.pieces_eq]
  exact hs.spaced.of_pieces_append ht (hs.1.closed_append ht.closed) hpieces hedge

theorem bare_of_mem_leads : ∀ s ∈ leads, Bare s := by
  decide

theorem bare_of_mem_fixedTexts : ∀ s ∈ fixedTexts, Bare s := by
  decide

/-! ## Tidy texts -/

/-- Single spaces, and none at either end. -/
structure Tidy (s : String) : Prop extends Spaced s where
  first : StartsSolid s
  last : EndsSolid s

namespace Tidy

variable {s t f : String}

theorem append (hs : Tidy s) (ht : Tidy t) (hd : Delimited t) : Tidy (s ++ t) :=
  ⟨hs.toSpaced.append ht.toSpaced hd (.inl hs.last), hs.first.append t, ht.last.append s⟩

theorem join (hs : Tidy s) (hf : Joint f) (ht : Tidy t) : Tidy (s ++ (f ++ t)) := by
  have hrest : Spaced (f ++ t) := (bare_of_mem_leads f hf.1).lead ht.toSpaced (.inr ht.first)
  exact ⟨hs.toSpaced.append hrest (hf.delimited_append t) (.inl hs.last), hs.first.append _,
    (ht.last.append f).append s⟩

theorem lead (hf : Bare f) (hfirst : StartsSolid f) (ht : Tidy t) : Tidy (f ++ t) :=
  ⟨hf.lead ht.toSpaced (.inr ht.first), hfirst.append t, ht.last.append f⟩

theorem trail (hs : Tidy s) (hf : Bare f) (hd : Delimited f) (hlast : f = "" ∨ EndsSolid f) : Tidy (s ++ f) := by
  rcases hlast with rfl | hlast
  · rwa [String.append_empty]
  · exact ⟨hs.toSpaced.append hf.spaced hd (.inl hs.last), hs.first.append f, hlast.append s⟩

theorem parens (hs : Spaced s) : Tidy ("(" ++ s ++ ")") := by
  have hopen : Spaced ("(" ++ s) := Bare.lead (by decide) hs (.inl (by decide))
  have hfirst : StartsSolid ("(" ++ s) := StartsSolid.append (by decide) s
  exact ⟨hopen.append (Bare.spaced (by decide)) (by decide) (.inr (by decide)), hfirst.append _,
    EndsSolid.append (by decide) _⟩

theorem wrapped (wrap : Bool) (hs : Tidy s) : Tidy (Buffer.wrapped wrap s) := by
  cases wrap with
  | false => exact hs
  | true => exact parens hs.toSpaced

theorem intercalate (hf : Joint f) {xs : List String} (hxs : xs ≠ []) (h : ∀ x ∈ xs, Tidy x) :
    Tidy (f.intercalate xs) := by
  induction xs with
  | nil => exact absurd rfl hxs
  | cons x xs ih =>
    cases xs with
    | nil => simpa using h x List.mem_cons_self
    | cons y ys =>
      have hrest := ih (by simp) fun z hz => h z (List.mem_cons_of_mem x hz)
      rw [String.intercalate_cons_cons, String.append_assoc]
      exact (h x List.mem_cons_self).join hf hrest

theorem commaSeparated {α : Type} [Emit α] {xs : List α} (hxs : xs ≠ []) (h : ∀ x ∈ xs, Tidy (toSql x)) :
    Tidy (", ".intercalate (xs.map toSql)) := by
  refine intercalate (by decide) (by simpa using hxs) fun t ht => ?_
  obtain ⟨x, hx, rfl⟩ := List.mem_map.mp ht
  exact h x hx

end Tidy

theorem Bare.tidy {s : String} (hs : Bare s) (hfirst : StartsSolid s) (hlast : EndsSolid s) : Tidy s :=
  ⟨hs.spaced, hfirst, hlast⟩

/-! ## Names and literals -/

/-- A nonempty text with no space and no quote. -/
def Solid (s : String) : Prop := s ≠ "" ∧ ∀ c ∈ s.toList, c ≠ ' ' ∧ isQuote c = false

instance (s : String) : Decidable (Solid s) :=
  haveI : Decidable (∀ c ∈ s.toList, c ≠ ' ' ∧ isQuote c = false) := List.decidableBAll _ s.toList
  inferInstanceAs (Decidable (_ ∧ _))

theorem Solid.tidy {s : String} (hs : Solid s) : Tidy s := by
  obtain ⟨hne, hchars⟩ := hs
  have hnil : s.toList ≠ [] := fun h => hne (String.toList_eq_nil_iff.mp h)
  have hsingle : (chars s).IsChain Piece.Apart := isChain_chars fun c hc p => by simp [Piece.Apart, hchars c hc]
  refine Bare.tidy ⟨fun c hc => (hchars c hc).2, hsingle⟩ ?_ ?_
  · exact ⟨_, List.head?_eq_some_head hnil, (hchars _ (List.head_mem hnil)).1⟩
  · exact ⟨_, List.getLast?_eq_some_getLast hnil, (hchars _ (List.getLast_mem hnil)).1⟩

theorem ne_space_of_isQuote {q : Char} (hq : isQuote q = true) : q ≠ ' ' ∧ Identifier.closingQuote q ≠ ' ' := by
  rcases eq_of_isQuote hq with rfl | rfl | rfl | rfl <;> decide

theorem tidy_quotedText {q : Char} (hq : isQuote q = true) (v : String) : Tidy (Identifier.quotedText q v) := by
  obtain ⟨hopen, hclose⟩ := ne_space_of_isQuote hq
  have hsingle : (pieces (Identifier.quotedText q v)).IsChain Piece.Apart := by
    rw [pieces_quotedText_eq hq v]
    exact List.isChain_singleton _
  refine ⟨⟨closed_quotedText hq v, hsingle⟩, ⟨q, ?_, hopen⟩, ⟨Identifier.closingQuote q, ?_, hclose⟩⟩
  · rw [Identifier.quotedText, String.toList_ofList]
    rfl
  · rw [Identifier.quotedText, String.toList_ofList]
    exact List.getLast?_concat

theorem Literal.tidy (l : Literal) : Tidy l.text := by
  rcases l.quoted_or_plain with ⟨v, hv⟩ | ⟨hne, hchars⟩
  · rw [hv]
    exact tidy_quotedText (by decide) v
  · refine Solid.tidy ⟨hne, fun c hc => ?_⟩
    obtain ⟨hspace, _, _, hquote⟩ := ne_of_isLiteralChar (hchars c hc)
    exact ⟨hspace, hquote⟩

/-! ## One level of a node -/

namespace Node

/-- Bare names are solid and the others stand between known quotes; a qualified name has parts, and an
order has items. -/
def Compact : Node → Prop
  | expr (.compound parts) => parts ≠ []
  | windowSpec s => s.orderBy ≠ some []
  | n => n.Names Solid

/-- The text of a node is tidy, or there is nothing in it to write. -/
def Neat : Node → Prop
  | windowSpec s => s = .empty ∨ Tidy (toSql s)
  | n => Tidy (toSql n)

end Node

theorem Identifier.tidy {i : Identifier} (h : (Node.identifier i).Names Solid) : Tidy i.text := by
  obtain ⟨value, _ | q⟩ := i
  · exact Solid.tidy h
  · exact tidy_quotedText h value

theorem Expr.tidy {e : Expr} (hcompact : (Node.expr e).Compact) (h : ∀ m ∈ e.children, m.Neat) :
    Tidy e.spelling := by
  cases e with
  | literal l => exact l.tidy
  | identifier i => exact h (.identifier i) (by simp [children])
  | call c => exact h (.call c) (by simp [children])
  | wildcard => exact Bare.tidy (by decide) (by decide) (by decide)
  | compound parts =>
    have hparts : parts ≠ [] := hcompact
    refine Tidy.intercalate (by decide) (by simpa using hparts) fun t ht => ?_
    obtain ⟨i, hi, rfl⟩ := List.mem_map.mp ht
    exact h (.identifier i) (by simp [children, hi])
  | binary l op r =>
    have hl : Tidy (toSql l) := h (.expr l) (by simp [children])
    have hr : Tidy (toSql r) := h (.expr r) (by simp [children])
    exact (hl.wrapped _).join op.joint_spelling (hr.wrapped _)
  | unary op e =>
    have he : Tidy (toSql e) := h (.expr e) (by simp [children])
    exact Tidy.lead (by cases op <;> decide) (by cases op <;> decide) (he.wrapped _)
  | nested e =>
    have he : Tidy (toSql e) := h (.expr e) (by simp [children])
    exact he.wrapped true
  | nullTest e negated =>
    have he : Tidy (toSql e) := h (.expr e) (by simp [children])
    exact (he.wrapped _).trail (bare_of_mem_fixedTexts _ (nullTestText_mem negated)) (by cases negated <;> decide)
      (by cases negated <;> decide)
  | between e low high negated =>
    have he : Tidy (toSql e) := h (.expr e) (by simp [children])
    have hlow : Tidy (toSql low) := h (.expr low) (by simp [children])
    have hhigh : Tidy (toSql high) := h (.expr high) (by simp [children])
    have hbounds := (hlow.wrapped (low.needsParens betweenMinimum)).join (f := " AND ") (by decide)
      (hhigh.wrapped (high.needsParens betweenMinimum))
    exact (he.wrapped _).join (joint_betweenText negated) hbounds

theorem Call.spaced_argumentText {c : Call} (h : ∀ e ∈ c.args, Tidy (toSql e)) : Spaced c.argumentText := by
  -- the arguments may be missing behind `DISTINCT`, so only parentheses make their text tidy
  obtain ⟨name, args, distinct, window⟩ := c
  cases args with
  | nil =>
    cases distinct with
    | false => simpa [argumentText] using Bare.spaced (s := "") (by decide)
    | true => simpa [argumentText] using Bare.spaced (s := "DISTINCT ") (by decide)
  | cons e rest =>
    have hargs := Tidy.commaSeparated (List.cons_ne_nil e rest) h
    cases distinct with
    | false => simpa [argumentText] using hargs.toSpaced
    | true => exact Bare.lead (s := "DISTINCT ") (by decide) hargs.toSpaced (.inr hargs.first)

theorem Call.tidy {c : Call} (hname : Solid c.name) (h : ∀ m ∈ (Node.call c).children, m.Neat) :
    Tidy c.spelling := by
  obtain ⟨name, args, distinct, window⟩ := c
  have hargs : Tidy (wrapped true (argumentText ⟨name, args, distinct, window⟩)) :=
    Tidy.parens (spaced_argumentText fun e he => h (.expr e) (by simpa [Node.children] using he))
  have hcall := Solid.tidy hname |>.append hargs (by simp [Delimited, wrapped])
  rw [spelling, ← String.append_assoc]
  cases window with
  | none => simpa [Window.overText] using hcall
  | some w =>
    have hw : Tidy (toSql w) := h (.window w) (by simp [Node.children])
    exact hcall.join (by decide) hw

theorem Window.tidy {w : Window} (h : ∀ m ∈ (Node.window w).children, m.Neat) : Tidy w.spelling := by
  cases w with
  | named name => exact h (.identifier name) (by simp [Node.children])
  | inline spec =>
    rcases h (.windowSpec spec) (by simp [Node.children]) with rfl | hs
    · exact Bare.tidy (by decide) (by decide) (by decide)
    · exact Tidy.parens hs.toSpaced

theorem FrameBound.tidy {bound : FrameBound} (h : ∀ m ∈ bound.children, m.Neat) : Tidy bound.spelling := by
  cases bound with
  | currentRow => exact Bare.tidy (by decide) (by decide) (by decide)
  | unboundedPreceding => exact Bare.tidy (by decide) (by decide) (by decide)
  | unboundedFollowing => exact Bare.tidy (by decide) (by decide) (by decide)
  | preceding offset | following offset =>
    have ho : Tidy (toSql offset) := h (.expr offset) (by simp [children])
    exact ho.trail (by decide) (by decide) (by decide)

theorem FrameUnit.tidy (u : FrameUnit) : Tidy u.text :=
  Bare.tidy (bare_of_mem_fixedTexts _ u.text_mem) (by cases u <;> decide) (by cases u <;> decide)

theorem Frame.tidy {f : Frame} (h : ∀ m ∈ (Node.frame f).children, m.Neat) : Tidy f.spelling := by
  obtain ⟨unit, start, stop⟩ := f
  have hstart : Tidy (toSql start) := h (.frameBound start) (by simp [Node.children])
  cases stop with
  | none => exact unit.tidy.join (by decide) hstart
  | some stop =>
    have hstop : Tidy (toSql stop) := h (.frameBound stop) (by simp [Node.children])
    have hbounds := hstart.join (f := " AND ") (by decide) hstop
    exact unit.tidy.join (by decide) hbounds

theorem OrderItem.tidy {x : OrderItem} (h : Tidy (toSql x.expr)) : Tidy x.spelling := by
  obtain ⟨e, direction, nulls⟩ := x
  have hmarks : ∀ d n, Bare (directionText d ++ nullsText n) ∧ Delimited (directionText d ++ nullsText n) ∧
      (directionText d ++ nullsText n = "" ∨ EndsSolid (directionText d ++ nullsText n)) := by
    rintro (_ | _ | _) (_ | _ | _) <;> decide
  obtain ⟨hbare, hd, hlast⟩ := hmarks direction nulls
  exact h.trail hbare hd hlast

theorem WindowSpec.tidy_of_mem_sections {s : WindowSpec} (hcompact : s.orderBy ≠ some [])
    (h : ∀ m ∈ s.children, m.Neat) : ∀ t ∈ s.sections, Tidy t := by
  obtain ⟨partitionBy, orderBy, frame⟩ := s
  have hpartition : ∀ t ∈ partitionSection partitionBy, Tidy t := by
    cases partitionBy with
    | nil => simp [partitionSection]
    | cons e es =>
      have hlist := Tidy.commaSeparated (List.cons_ne_nil e es) fun e' he =>
        h (.expr e') (List.mem_append_left _ (List.mem_append_left _ (List.mem_map_of_mem he)))
      simpa [partitionSection] using hlist.lead (f := "PARTITION BY ") (by decide) (by decide)
  have horder : ∀ t ∈ orderSection orderBy, Tidy t := by
    cases orderBy with
    | none => simp [orderSection]
    | some items =>
      have hitems : items ≠ [] := fun hnil => hcompact (congrArg some hnil)
      have hlist := Tidy.commaSeparated hitems fun x (hx : x ∈ items) => h (.orderItem x) (by simp [children, hx])
      simpa [orderSection] using hlist.lead (f := "ORDER BY ") (by decide) (by decide)
  have hframe : ∀ t ∈ frame.toList.map toSql, Tidy t := by
    cases frame with
    | none => simp
    | some f =>
      have hf : Tidy (toSql f) := h (.frame f) (by simp [children])
      simpa using hf
  exact List.forall_mem_append.mpr ⟨List.forall_mem_append.mpr ⟨hpartition, horder⟩, hframe⟩

theorem WindowSpec.eq_empty_of_sections {s : WindowSpec} (h : s.sections = []) : s = .empty := by
  obtain ⟨_ | ⟨e, es⟩, _ | items, _ | f⟩ := s <;> simp [sections, partitionSection, orderSection] at h
  rfl

theorem WindowSpec.neat {s : WindowSpec} (hcompact : s.orderBy ≠ some []) (h : ∀ m ∈ s.children, m.Neat) :
    s = .empty ∨ Tidy s.spelling := by
  by_cases hnone : s.sections = []
  · exact .inl (eq_empty_of_sections hnone)
  · have htidy := tidy_of_mem_sections hcompact h
    exact .inr (Tidy.intercalate (by decide) hnone htidy)

theorem NamedWindow.tidy {w : NamedWindow} (h : ∀ m ∈ (Node.namedWindow w).children, m.Neat) :
    Tidy w.spelling := by
  have hname : Tidy w.name.text := h (.identifier w.name) (by simp [Node.children])
  have hspec : Tidy (wrapped true (toSql w.spec)) := by
    rcases h (.windowSpec w.spec) (by simp [Node.children]) with hempty | hs
    · rw [hempty]
      exact Bare.tidy (by decide) (by decide) (by decide)
    · exact Tidy.parens hs.toSpaced
  exact hname.join (by decide) hspec

/-! ## Every depth -/

namespace Node

theorem neat_of_children {n : Node} (hcompact : n.Compact) (h : ∀ m ∈ n.children, m.Neat) : n.Neat := by
  have hspelling : ∀ n : Node, Tidy n.spelling → Tidy (toSql n) := fun n hn => by rwa [n.toSql_eq]
  cases n with
  | identifier i => exact hspelling (identifier i) (Identifier.tidy hcompact)
  | literal l => exact hspelling (literal l) l.tidy
  | frameUnit u => exact hspelling (frameUnit u) u.tidy
  | expr e => exact hspelling (expr e) (Expr.tidy hcompact h)
  | call c => exact hspelling (call c) (Call.tidy hcompact h)
  | orderItem x => exact hspelling (orderItem x) (OrderItem.tidy (h (expr x.expr) (by simp [children])))
  | frameBound bound => exact hspelling (frameBound bound) (FrameBound.tidy h)
  | frame f => exact hspelling (frame f) (Frame.tidy h)
  | namedWindow w => exact hspelling (namedWindow w) (NamedWindow.tidy h)
  | window w => exact hspelling (window w) (Window.tidy h)
  | windowSpec s => exact (WindowSpec.neat hcompact h).imp_right (hspelling (windowSpec s))

theorem neat {n : Node} (h : n.Every Compact) : n.Neat := by
  induction n using Node.induct with
  | step n ih => exact neat_of_children h.here fun m hm => ih m hm (h.child hm)

theorem Neat.tidy_or_empty {n : Node} (h : n.Neat) : Tidy (toSql n) ∨ toSql n = "" := by
  cases n with
  | windowSpec s =>
    rcases h with rfl | hs
    · exact .inr rfl
    · exact .inl hs
  | _ => exact .inl h

/-- Between its quoted tokens the text of a node has no two spaces side by side, and it neither starts nor
ends with a space. -/
theorem toSql_single_spaced (n : Node) (h : n.Every Compact) :
    ¬ [.char ' ', .char ' '] <:+: pieces (toSql n) ∧ (toSql n).toList.head? ≠ some ' ' ∧
      (toSql n).toList.getLast? ≠ some ' ' := by
  rcases (neat h).tidy_or_empty with htidy | hempty
  · refine ⟨fun hpair => ?_, htidy.first.not_mem, htidy.last.not_mem⟩
    have := htidy.single.infix hpair
    simp [Piece.Apart] at this
  · rw [hempty]
    decide

theorem spaces_inside_tokens_do_not_count :
    let n := windowSpec ⟨[.literal (.string "north  east ")], some [⟨.identifier (.quoted '[' " day"), some .desc, none⟩],
      none⟩
    toSql n = "PARTITION BY 'north  east ' ORDER BY [ day] DESC" ∧
      ¬ [.char ' ', .char ' '] <:+: pieces (toSql n) ∧ (toSql n).toList.head? ≠ some ' ' ∧
        (toSql n).toList.getLast? ≠ some ' ' := by
  intro n
  have hcompact : n.Every Compact := by
    simp only [n, every_windowSpec, List.forall_mem_singleton, Option.getD_some, every_orderItem, every_literal,
      every_identifier]
    simp [Compact, Names, Identifier.quoted, isQuote]
  exact ⟨by decide, toSql_single_spaced n hcompact⟩

/-- The heading of an order without items ends with a space. -/
example : toSql (WindowSpec.orderedBy .empty []) = "ORDER BY " := by decide

end Node

end SqlText
