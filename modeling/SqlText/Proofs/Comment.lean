import SqlText.Proofs.Compose
import SqlText.Proofs.Number

/-! # No comment is opened

Two minus signs, or a slash and an asterisk, start a comment wherever they stand side by side outside
a quoted token. The text of a node has no such pair. -/

namespace SqlText

/-! ## Texts without such a pair -/

/-- `b` behind `a` starts no comment. -/
def Piece.Quiet (a b : Piece) : Prop :=
  ¬ (a = .char '-' ∧ b = .char '-') ∧ ¬ (a = .char '/' ∧ b = .char '*')

instance (a b : Piece) : Decidable (a.Quiet b) := inferInstanceAs (Decidable (_ ∧ _))

/-- Nothing in it is quoted and no comment starts in it. -/
def Calm (s : String) : Prop := Unquoted s ∧ (chars s).IsChain Piece.Quiet

instance (s : String) : Decidable (Calm s) := inferInstanceAs (Decidable (_ ∧ _))

/-- A text with whole quoted tokens that starts no comment between them. -/
structure Tame (s : String) : Prop where
  closed : Closed s
  ended : ∀ q v, .unclosed q v ∉ pieces s
  quiet : (pieces s).IsChain Piece.Quiet

theorem unclosed_not_mem_chars (s : String) (q : Char) (v : String) : .unclosed q v ∉ chars s := by
  simp [chars]

theorem Calm.tame {s : String} (hs : Calm s) : Tame s := by
  obtain ⟨hunquoted, hquiet⟩ := hs
  refine ⟨hunquoted.closed, fun q v => ?_, ?_⟩
  · rw [hunquoted.pieces_eq]
    exact unclosed_not_mem_chars s q v
  · rwa [hunquoted.pieces_eq]

theorem tame_quotedText {q : Char} (hq : isQuote q) (v : String) : Tame (Identifier.quotedText q v) := by
  refine ⟨closed_quotedText hq v, fun q' v' => ?_, ?_⟩
  · simp [pieces_quotedText_eq hq v]
  · rw [pieces_quotedText_eq hq v]
    exact List.isChain_singleton _

/-! ## Composition -/

theorem Tame.append {s t : String} (hs : Tame s) (ht : Tame t) (hd : Delimited t) : Tame (s ++ t) := by
  have hpieces : pieces (s ++ t) = pieces s ++ pieces t := hs.closed t hd
  refine ⟨hs.closed.append ht.closed hd, fun q v => ?_, ?_⟩
  · rw [hpieces, List.mem_append]
    exact not_or.mpr ⟨hs.ended q v, ht.ended q v⟩
  · rw [hpieces, List.isChain_append]
    refine ⟨hs.quiet, ht.quiet, fun a _ b hb => ?_⟩
    -- a delimiter is no second character of a comment mark
    obtain ⟨c, rfl, hc⟩ := hd.head_pieces hb
    rcases hc with rfl | rfl | rfl | rfl | rfl <;> simp [Piece.Quiet]

theorem Calm.append_tame {s t : String} (hs : Calm s) (ht : Tame t)
    (h : ∀ a ∈ (chars s).getLast?, ∀ b ∈ (pieces t).head?, a.Quiet b) : Tame (s ++ t) := by
  obtain ⟨hunquoted, hquiet⟩ := hs
  have hpieces : pieces (s ++ t) = chars s ++ pieces t := hunquoted.pieces_append t
  refine ⟨hunquoted.closed_append ht.closed, fun q v => ?_, ?_⟩
  · rw [hpieces, List.mem_append]
    exact not_or.mpr ⟨unclosed_not_mem_chars s q v, ht.ended q v⟩
  · rw [hpieces, List.isChain_append]
    exact ⟨hquiet, ht.quiet, h⟩

/-- The last character starts no comment mark, whatever follows. -/
def Settled (s : String) : Prop := ∀ c ∈ s.toList.getLast?, c ≠ '-' ∧ c ≠ '/'

instance (s : String) : Decidable (Settled s) := s.toList.getLast?.decidableForallMem

theorem Calm.lead {s t : String} (hs : Calm s) (hlast : Settled s) (ht : Tame t) : Tame (s ++ t) := by
  refine hs.append_tame ht fun a ha b _ => ?_
  unfold chars at ha
  rw [List.getLast?_map] at ha
  obtain ⟨c, hc, rfl⟩ := Option.map_eq_some_iff.mp ha
  have := hlast c hc
  simp [Piece.Quiet, this]

theorem tame_sign (op : UnaryOp) {s : String} (hclash : op.clashes s = false) (hs : Tame s) :
    Tame (op.text ++ s) := by
  cases op with
  | not => exact Calm.lead (by decide) (by decide) hs
  | bitNot => exact Calm.lead (by decide) (by decide) hs
  | neg =>
    refine Calm.append_tame (by decide) hs fun a ha b hb => ?_
    obtain rfl : a = .char '-' := by simpa [UnaryOp.text, chars, eq_comm] using ha
    refine ⟨fun h => ?_, by simp⟩
    obtain rfl := h.2
    have hhead := head_of_head_pieces hb
    simp [UnaryOp.clashes] at hclash
    exact hclash hhead

theorem tame_compositional : Compositional Tame where
  fixed s hs := Calm.tame ((by decide : ∀ s ∈ fixedTexts, Calm s) s hs)
  lead s hs t ht :=
    Calm.lead ((by decide : ∀ s ∈ leads, Calm s) s hs) ((by decide : ∀ s ∈ leads, Settled s) s hs) ht
  append s t hs ht hd := hs.append ht hd
  parens s hs := (Calm.lead (by decide) (by decide) hs).append (Calm.tame (by decide)) (by decide)
  sign op s hclash hs := tame_sign op hclash hs

/-! ## Literals -/

theorem calm_of_avoids {s : String} (h : ∀ c ∈ s.toList, c ≠ '-' ∧ c ≠ '/' ∧ isQuote c = false) : Calm s := by
  refine ⟨fun c hc => (h c hc).2.2, isChain_chars fun c hc p => ?_⟩
  have := h c hc
  simp [Piece.Quiet, this]

theorem Numeral.avoids {cs : List Char} (h : Numeral cs) : ∀ c ∈ cs, c ≠ '-' ∧ c ≠ '/' ∧ isQuote c = false := by
  have havoid : ∀ d : Char, d.isDigit = true ∨ d = '.' ∨ d = 'e' →
      d ≠ '-' ∧ d ≠ '/' ∧ d ≠ '"' ∧ d ≠ '\'' ∧ d ≠ '\x60' ∧ d ≠ '[' := by
    intro d hd
    refine ⟨?_, ?_, ?_, ?_, ?_, ?_⟩ <;> rintro rfl <;> revert hd <;> decide
  intro c hc
  obtain ⟨hminus, hslash, hquotes⟩ := havoid c (h c hc)
  exact ⟨hminus, hslash, by simp [isQuote, hquotes]⟩

theorem Numeral.append_tame {cs ds : List Char} (hc : Numeral cs) (hd : Tame (.ofList ds)) :
    Tame (.ofList (cs ++ ds)) := by
  have hcalm : Calm (.ofList cs) := calm_of_avoids (by simpa using hc.avoids)
  rw [String.ofList_append]
  refine hcalm.lead (fun c hlast => ?_) hd
  have := hc.avoids c (List.mem_of_getLast? (by simpa using hlast))
  exact ⟨this.1, this.2.1⟩

theorem Numeral.tame {cs : List Char} (h : Numeral cs) : Tame (.ofList cs) :=
  Calm.tame (calm_of_avoids (by simpa using h.avoids))

theorem Tame.minus {cs : List Char} (h : Tame (.ofList cs)) (hhead : '-' ∉ cs.head?) :
    Tame (.ofList ('-' :: cs)) := by
  have htext : String.ofList ('-' :: cs) = UnaryOp.neg.text ++ .ofList cs := by
    apply String.toList_inj.mp
    simp [UnaryOp.text]
  rw [htext]
  exact tame_sign .neg (by simpa [UnaryOp.clashes] using hhead) h

theorem Numeral.head_ne_minus {cs : List Char} (h : Numeral cs) : '-' ∉ cs.head? := by
  intro hc
  exact (h.avoids '-' (List.mem_of_head? hc)).1 rfl

theorem Signed.tame {cs : List Char} (h : Signed cs) : Tame (.ofList cs) := by
  obtain ⟨ds, hds, rfl | rfl⟩ := h
  · exact hds.tame
  · exact hds.tame.minus hds.head_ne_minus

theorem Binary64.tame_text (x : Binary64) : Tame x.text := by
  obtain ⟨m, r, htext, hm, hne, hr⟩ := x.text_eq
  have hbody : Tame (.ofList (m ++ r)) := hm.append_tame hr.tame
  have hback : x.text = .ofList x.text.toList := String.ofList_toList.symm
  rw [hback]
  rcases htext with h | h
  · rwa [h]
  · rw [h]
    refine hbody.minus ?_
    rw [List.head?_append_of_ne_nil _ hne]
    exact hm.head_ne_minus

theorem Literal.tame (l : Literal) : Tame l.text := by
  cases l with
  | null => exact Calm.tame (by decide)
  | boolean b => cases b <;> exact Calm.tame (by decide)
  | integer n =>
    have h := (signed_toString n.toInt).tame
    rwa [String.ofList_toList] at h
  | string s =>
    rw [text, stringText_eq]
    exact tame_quotedText (by decide) s
  | float x =>
    have hNaN : "'NaN'" = Identifier.quotedText '\'' "NaN" := by decide
    have hneg : "'-Infinity'" = Identifier.quotedText '\'' "-Infinity" := by decide
    have hpos : "'Infinity'" = Identifier.quotedText '\'' "Infinity" := by decide
    rw [text, floatText, hNaN, hneg, hpos]
    split
    · exact tame_quotedText (by decide) _
    split
    · split <;> exact tame_quotedText (by decide) _
    · exact x.tame_text

/-! ## Nodes -/

/-- None of the characters that a comment mark or a quoted token starts with. -/
def Inert (s : String) : Prop := ∀ c ∈ s.toList, c ≠ '-' ∧ c ≠ '/' ∧ c ≠ '*' ∧ isQuote c = false

instance (s : String) : Decidable (Inert s) := List.decidableBAll _ s.toList

/-- Bare names are inert, and the others stand between known quotes. -/
def Node.InertNames : Node → Prop
  | identifier ⟨value, none⟩ => Inert value
  | identifier ⟨_, some q⟩ => isQuote q = true
  | call c => Inert c.name
  | _ => True

theorem Inert.tame {s : String} (h : Inert s) : Tame s :=
  Calm.tame (calm_of_avoids fun c hc => ⟨(h c hc).1, (h c hc).2.1, (h c hc).2.2.2⟩)

theorem Node.InertNames.leafText {n : Node} (h : n.InertNames) : n.LeafText Tame := by
  cases n with
  | identifier i =>
    obtain ⟨value, quote⟩ := i
    cases quote with
    | none => exact Inert.tame h
    | some q => exact tame_quotedText h value
  | literal l => exact l.tame
  | call c => exact Inert.tame h
  | _ => trivial

theorem Node.tame {n : Node} (h : n.Every InertNames) : Tame (toSql n) :=
  tame_compositional.holds n (h.mono fun _ => InertNames.leafText)

/-- Outside its quoted tokens, all of which end, the text of a node has no comment mark. -/
theorem Node.toSql_opens_no_comment (n : Node) (h : n.Every InertNames) :
    ¬ [.char '-', .char '-'] <:+: pieces (toSql n) ∧ ¬ [.char '/', .char '*'] <:+: pieces (toSql n) ∧
      ∀ q v, .unclosed q v ∉ pieces (toSql n) := by
  have htame := tame h
  refine ⟨fun hminus => ?_, fun hslash => ?_, htame.ended⟩
  · have hpair := htame.quiet.infix hminus
    simp [Piece.Quiet] at hpair
  · have hpair := htame.quiet.infix hslash
    simp [Piece.Quiet] at hpair

theorem minus_signs_open_no_comment :
    let n := Node.expr (.binary (.unary .neg (.literal (.integer (-1)))) .sub (.literal (.string "--")))
    toSql n = "-(-1) - '--'" ∧ ¬ [.char '-', .char '-'] <:+: pieces (toSql n) := by
  have hleaf : ∀ l, (Node.expr (.literal l)).Every Node.InertNames := fun l =>
    Node.every_literal.mpr ⟨trivial, trivial⟩
  refine ⟨by decide, (Node.toSql_opens_no_comment _ ?_).1⟩
  simp [Node.InertNames, hleaf]

end SqlText
