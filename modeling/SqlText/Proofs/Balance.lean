import SqlText.Proofs.Skeleton

/-! # Parentheses are balanced

Outside quoted tokens every parenthesis that a node opens it also closes, and closes no other. So the text
of a node is a unit, whatever parentheses stand around it or inside its tokens. -/

namespace SqlText

/-! ## Counting parentheses -/

/-- How many more parentheses are opened than closed. -/
def depth (ps : List Piece) : Int := ps.count (.char '(') - ps.count (.char ')')

@[simp] theorem depth_nil : depth [] = 0 := rfl

@[simp] theorem depth_append (ps qs : List Piece) : depth (ps ++ qs) = depth ps + depth qs := by
  simp only [depth, List.count_append]
  omega

theorem depth_cons (p : Piece) (ps : List Piece) : depth (p :: ps) = depth [p] + depth ps := depth_append [p] ps

/-- No parenthesis is closed before it is opened, and in the end none is open. -/
structure Balanced (ps : List Piece) : Prop where
  nonneg : ∀ qs, qs <+: ps → 0 ≤ depth qs
  settled : depth ps = 0

namespace Balanced

variable {ps qs : List Piece}

theorem append (hp : Balanced ps) (hq : Balanced qs) : Balanced (ps ++ qs) := by
  refine ⟨fun rs hr => ?_, by rw [depth_append, hp.settled, hq.settled, Int.add_zero]⟩
  rcases List.prefix_or_prefix_of_prefix hr (List.prefix_append ps qs) with hr' | ⟨rest, rfl⟩
  · exact hp.nonneg rs hr'
  · rw [depth_append, hp.settled, Int.zero_add]
    exact hq.nonneg rest ((List.prefix_append_right_inj ps).mp hr)

theorem parens (hp : Balanced ps) : Balanced (.char '(' :: (ps ++ [.char ')'])) := by
  have hopen : depth [.char '('] = 1 := by decide
  have hclose : depth [.char ')'] = -1 := by decide
  have hsettled := hp.settled
  refine ⟨fun rs hr => ?_, by rw [depth_cons, depth_append]; omega⟩
  rcases List.prefix_cons_iff.mp hr with rfl | ⟨rest, rfl, hrest⟩
  · simp
  rw [depth_cons]
  rcases List.prefix_concat_iff.mp hrest with rfl | hinner
  · rw [depth_append]
    omega
  · have := hp.nonneg rest hinner
    omega

theorem of_forall_ne (h : ∀ p ∈ ps, p ≠ .char '(' ∧ p ≠ .char ')') : Balanced ps := by
  have hdepth : ∀ rs, rs <+: ps → depth rs = 0 := by
    intro rs hr
    have hopen : rs.count (.char '(') = 0 := List.count_eq_zero.mpr fun hmem => (h _ (hr.subset hmem)).1 rfl
    have hclose : rs.count (.char ')') = 0 := List.count_eq_zero.mpr fun hmem => (h _ (hr.subset hmem)).2 rfl
    simp [depth, hopen, hclose]
  exact ⟨fun rs hr => Int.le_of_eq (hdepth rs hr).symm, hdepth ps List.prefix_rfl⟩

end Balanced

/-! ## Balanced texts -/

/-- A text with whole quoted tokens and balanced parentheses between them. -/
structure Whole (s : String) : Prop where
  closed : Closed s
  balanced : Balanced (pieces s)

/-- Nothing in it is a parenthesis or starts a quoted token. -/
def Flat (s : String) : Prop := ∀ c ∈ s.toList, c ≠ '(' ∧ c ≠ ')' ∧ isQuote c = false

instance (s : String) : Decidable (Flat s) := List.decidableBAll _ s.toList

theorem Flat.unquoted {s : String} (hs : Flat s) : Unquoted s := fun c hc => (hs c hc).2.2

theorem Flat.balanced {s : String} (hs : Flat s) : Balanced (chars s) := by
  refine Balanced.of_forall_ne fun p hp => ?_
  obtain ⟨c, hc, rfl⟩ := List.mem_map.mp hp
  simp [hs c hc]

theorem Flat.whole {s : String} (hs : Flat s) : Whole s := by
  refine ⟨hs.unquoted.closed, ?_⟩
  rw [hs.unquoted.pieces_eq]
  exact hs.balanced

theorem whole_quotedText {q : Char} (hq : isQuote q = true) (v : String) : Whole (Identifier.quotedText q v) := by
  refine ⟨closed_quotedText hq v, ?_⟩
  rw [pieces_quotedText_eq hq v]
  exact Balanced.of_forall_ne (by simp)

namespace Whole

variable {s t : String}

theorem append (hs : Whole s) (ht : Whole t) (hd : Delimited t) : Whole (s ++ t) := by
  refine ⟨hs.closed.append ht.closed hd, ?_⟩
  have hpieces : pieces (s ++ t) = pieces s ++ pieces t := hs.closed t hd
  rw [hpieces]
  exact hs.balanced.append ht.balanced

theorem lead (hs : Flat s) (ht : Whole t) : Whole (s ++ t) := by
  refine ⟨hs.unquoted.closed_append ht.closed, ?_⟩
  rw [hs.unquoted.pieces_append]
  exact hs.balanced.append ht.balanced

theorem parens (hs : Whole s) : Whole ("(" ++ s ++ ")") := by
  have hopen : Unquoted "(" := by decide
  have hclose : Unquoted ")" := by decide
  rw [String.append_assoc]
  refine ⟨hopen.closed_append (hs.closed.append hclose.closed (by decide)), ?_⟩
  rw [hopen.pieces_append, hs.closed ")" (by decide), hclose.pieces_eq]
  exact hs.balanced.parens

theorem compositional : Compositional Whole where
  fixed s hs := Flat.whole ((by decide : ∀ s ∈ fixedTexts, Flat s) s hs)
  lead s hs t ht := ht.lead ((by decide : ∀ s ∈ leads, Flat s) s hs)
  append s t hs ht hd := hs.append ht hd
  parens s hs := hs.parens
  sign op s _ hs := hs.lead (by cases op <;> decide)

end Whole

theorem Literal.whole (l : Literal) : Whole l.text := by
  rcases l.quoted_or_plain with ⟨v, hv⟩ | hplain
  · rw [hv]
    exact whole_quotedText (by decide) v
  · exact Flat.whole fun c hc => (ne_of_isLiteralChar (hplain.2 c hc)).2

/-! ## Nodes -/

/-- Outside quoted tokens the parentheses in the text of a node are balanced, and no token runs on past its
end. -/
theorem Node.toSql_balanced (n : Node) (h : n.Every (Names Flat)) :
    (∀ ps, ps <+: pieces (toSql n) → 0 ≤ depth ps) ∧ depth (pieces (toSql n)) = 0 ∧ EndsOutside (toSql n) := by
  have hwhole : Whole (toSql n) :=
    Whole.compositional.holds_of_names (fun _ => Flat.whole) (fun _ v hq => whole_quotedText hq v) Literal.whole n h
  exact ⟨hwhole.balanced.nonneg, hwhole.balanced.settled, hwhole.closed.ended⟩

theorem parens_inside_tokens_do_not_count :
    let sum := Expr.binary (.identifier (.quoted '[' "net)")) .concat (.literal (.string "((it's"))
    let n := Node.windowSpec ⟨[.unary .neg (.nested sum)], none, none⟩
    toSql n = "PARTITION BY -([net)] || '((it''s')" ∧ (∀ ps, ps <+: pieces (toSql n) → 0 ≤ depth ps) ∧
      depth (pieces (toSql n)) = 0 ∧ EndsOutside (toSql n) := by
  intro sum n
  have hnames : n.Every (Node.Names Flat) := by
    simp only [n, sum, Node.every_windowSpec, List.forall_mem_singleton, Node.every_unary, Node.every_nested,
      Node.every_binary, Node.every_identifier, Node.every_literal]
    simp [Node.Names, Identifier.quoted, isQuote]
  exact ⟨by decide, Node.toSql_balanced n hnames⟩

end SqlText
