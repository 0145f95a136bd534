import SqlText.Proofs.Comment

/-! # Payloads have no part in the structure

The text of a node with a mark in the place of each quoted token is its skeleton. What stands inside
the quotes, quotes and brackets and minus signs included, has no influence on it. -/

namespace SqlText

/-! ## Skeletons -/

namespace Piece

/-- The piece with `hole` in the place of a token. -/
def fill (hole : String) : Piece → String
  | char c => .singleton c
  | quoted _ _ => hole
  | unclosed q v => .singleton q ++ v

/-- It stands between quotes that are both there. -/
def isToken : Piece → Bool
  | quoted _ _ => true
  | _ => false

/-- A token without its contents. -/
def blank : Piece → Piece
  | quoted q _ => quoted q ""
  | p => p

@[simp] theorem fill_blank (hole : String) (p : Piece) : p.blank.fill hole = p.fill hole := by
  cases p <;> rfl

@[simp] theorem isToken_blank (p : Piece) : p.blank.isToken = p.isToken := by
  cases p <;> rfl

theorem blank_eq_char_iff {p : Piece} {c : Char} : p.blank = .char c ↔ p = .char c := by
  cases p <;> simp [blank]

end Piece

/-- The text with `hole` in the place of every quoted token. -/
def skeleton (hole s : String) : String := .join ((pieces s).map (·.fill hole))

def tokenCount (s : String) : Nat := (pieces s).countP (·.isToken)

/-- No token runs on past the end of the text. -/
def EndsOutside (s : String) : Prop := ∀ q v, .unclosed q v ∉ pieces s

/-- The pieces without the contents of the tokens. -/
def outline (s : String) : List Piece := (pieces s).map .blank

theorem skeleton_eq (hole s : String) : skeleton hole s = .join ((outline s).map (·.fill hole)) := by
  simp [skeleton, outline, Function.comp_def]

theorem tokenCount_eq (s : String) : tokenCount s = (outline s).countP (·.isToken) := by
  simp [tokenCount, outline, List.countP_map, Function.comp_def]

theorem char_mem_head_outline {s : String} {c : Char} (hc : isQuote c = false) :
    .char c ∈ (outline s).head? ↔ c ∈ s.toList.head? := by
  rw [outline, List.head?_map, Option.mem_def, Option.map_eq_some_iff]
  constructor
  · rintro ⟨p, hp, hblank⟩
    obtain rfl := Piece.blank_eq_char_iff.mp hblank
    exact head_of_head_pieces hp
  · exact fun h => ⟨.char c, head_pieces_of_head hc h, rfl⟩

/-! ## Texts that differ inside their tokens -/

/-- The same but for what stands inside tokens, all of which end. -/
structure Alike (s t : String) : Prop where
  left : Closed s
  right : Closed t
  outline_eq : outline s = outline t

namespace Alike

variable {s s' t t' : String}

theorem refl (hs : Closed s) : Alike s s := ⟨hs, hs, rfl⟩

theorem quotedText {q : Char} (hq : isQuote q) (v w : String) :
    Alike (Identifier.quotedText q v) (Identifier.quotedText q w) := by
  refine ⟨closed_quotedText hq v, closed_quotedText hq w, ?_⟩
  rw [outline, pieces_quotedText_eq hq, outline, pieces_quotedText_eq hq]
  rfl

theorem append (hs : Alike s s') (ht : Alike t t') (hd : Delimited t) (hd' : Delimited t') :
    Alike (s ++ t) (s' ++ t') := by
  refine ⟨hs.left.append ht.left hd, hs.right.append ht.right hd', ?_⟩
  have hpieces : pieces (s ++ t) = pieces s ++ pieces t := hs.left t hd
  have hpieces' : pieces (s' ++ t') = pieces s' ++ pieces t' := hs.right t' hd'
  rw [outline, hpieces, List.map_append, outline, hpieces', List.map_append]
  exact congrArg₂ _ hs.outline_eq ht.outline_eq

theorem lead (hs : Unquoted s) (ht : Alike t t') : Alike (s ++ t) (s ++ t') := by
  refine ⟨hs.closed_append ht.left, hs.closed_append ht.right, ?_⟩
  rw [outline, hs.pieces_append, List.map_append, outline, hs.pieces_append, List.map_append]
  exact congrArg _ ht.outline_eq

theorem parens (hs : Alike s s') : Alike ("(" ++ s ++ ")") ("(" ++ s' ++ ")") :=
  (hs.lead (by decide)).append (refl (Unquoted.closed (by decide))) (by decide) (by decide)

theorem clashes_eq (hs : Alike s s') (op : UnaryOp) : op.clashes s = op.clashes s' := by
  -- a minus sign inside a token is no reason for parentheses
  have hhead : '-' ∈ s.toList.head? ↔ '-' ∈ s'.toList.head? := by
    rw [← char_mem_head_outline (by decide), hs.outline_eq, char_mem_head_outline (by decide)]
  simp only [UnaryOp.clashes, ← Option.mem_def, hhead]

theorem congruent : Congruent Alike where
  fixed s hs := refl ((by decide : ∀ s ∈ fixedTexts, Unquoted s) s hs).closed
  lead s hs t t' ht := ht.lead ((by decide : ∀ s ∈ leads, Unquoted s) s hs)
  append s s' t t' hs ht hd hd' := hs.append ht hd hd'
  parens s s' hs := hs.parens
  sign op wrap s s' hs := by
    rw [hs.clashes_eq op]
    apply lead (by cases op <;> decide)
    cases wrap || op.clashes s' with
    | false => exact hs
    | true => exact hs.parens

theorem skeleton_eq (hs : Alike s t) (hole : String) : skeleton hole s = skeleton hole t := by
  rw [SqlText.skeleton_eq, hs.outline_eq, SqlText.skeleton_eq]

theorem tokenCount_eq (hs : Alike s t) : tokenCount s = tokenCount t := by
  rw [SqlText.tokenCount_eq, hs.outline_eq, SqlText.tokenCount_eq]

end Alike

/-! ## Payloads -/

/-- Only a string has a payload. -/
def Literal.redact : Literal → Literal
  | string _ => string ""
  | integer n => integer n
  | float x => float x
  | boolean b => boolean b
  | null => null

/-- A bare identifier is its value, which is no payload. -/
def Identifier.redact : Identifier → Identifier
  | ⟨value, none⟩ => ⟨value, none⟩
  | ⟨_, some q⟩ => ⟨"", some q⟩

/-- Takes the payloads away and leaves every expression as it is. -/
def Rewrite.redact : Rewrite where
  literal := Literal.redact
  identifier := Identifier.redact

/-- The node without the contents of its strings and the values of its quoted identifiers, for which any
text may stand. -/
def Node.redact (n : Node) : Node := n.rewrite .redact

/-! ## Nodes -/

/-- Bare names have no quotes in them, and the others stand between known ones. -/
def Node.KnownQuotes : Node → Prop
  | identifier ⟨value, none⟩ => Unquoted value
  | identifier ⟨_, some q⟩ => isQuote q = true
  | call c => Unquoted c.name
  | _ => True

theorem Node.knownQuotes_redact (n : Node) : n.redact.KnownQuotes ↔ n.KnownQuotes := by
  cases n with
  | identifier i => obtain ⟨value, _ | q⟩ := i <;> rfl
  | call c => cases c; rfl
  | _ => rfl

theorem Literal.alike (l : Literal) : Alike l.text l.redact.text := by
  cases l with
  | string s =>
    rw [redact, text, text, stringText_eq, stringText_eq]
    exact .quotedText (by decide) s ""
  | integer n => exact .refl (tame _).closed
  | float x => exact .refl (tame _).closed
  | boolean b => exact .refl (tame _).closed
  | null => exact .refl (tame _).closed

theorem Node.KnownQuotes.leafRel {n : Node} (h : n.KnownQuotes) : n.LeafRel Alike .redact := by
  cases n with
  | identifier i =>
    obtain ⟨value, quote⟩ := i
    cases quote with
    | none => exact .refl (Unquoted.closed h)
    | some q => exact .quotedText h value ""
  | literal l => exact l.alike
  | call c => exact .refl (Unquoted.closed h)
  | _ => trivial

theorem Node.alike_redact {n : Node} (h : n.Every KnownQuotes) : Alike (toSql n) (toSql n.redact) :=
  Alike.congruent.holds (.of_leaves fun _ => rfl) n (h.mono fun _ => KnownQuotes.leafRel)

/-- Two nodes that differ in payloads only have texts that differ inside quoted tokens only. -/
theorem Node.skeleton_eq_of_redact_eq {a b : Node} (hredact : a.redact = b.redact) (h : a.Every KnownQuotes)
    (hole : String) :
    skeleton hole (toSql a) = skeleton hole (toSql b) ∧ tokenCount (toSql a) = tokenCount (toSql b) ∧
      EndsOutside (toSql a) ∧ EndsOutside (toSql b) := by
  have hknown : b.Every KnownQuotes := by
    have hevery (n : Node) : n.redact.Every KnownQuotes ↔ n.Every KnownQuotes :=
      every_rewrite (fun _ => rfl) knownQuotes_redact n
    rwa [← hevery, ← hredact, hevery]
  have ha := alike_redact h
  have hb := alike_redact hknown
  rw [← hredact] at hb
  refine ⟨?_, ?_, ha.left.ended, hb.left.ended⟩
  · rw [ha.skeleton_eq, hb.skeleton_eq]
  · rw [ha.tokenCount_eq, hb.tokenCount_eq]

theorem forged_operand_keeps_skeleton :
    let operand (column value : String) : Node := .expr (.unary .neg
      (.binary (.identifier (.quoted '[' column)) .concat (.literal (.string value))))
    let a := operand "total" "net"
    let b := operand "-] IS NULL OR (" "') --"
    toSql a = "-([total] || 'net')" ∧ toSql b = "-([-]] IS NULL OR (] || ''') --')" ∧
      skeleton "?" (toSql a) = skeleton "?" (toSql b) ∧ tokenCount (toSql a) = tokenCount (toSql b) := by
  intro operand a b
  have hknown : a.Every Node.KnownQuotes := by
    simp only [a, operand, Node.every_unary, Node.every_binary, Node.every_identifier, Node.every_literal]
    exact ⟨trivial, trivial, ⟨trivial, rfl⟩, trivial, trivial⟩
  have hsame := Node.skeleton_eq_of_redact_eq (show a.redact = b.redact from rfl) hknown "?"
  exact ⟨by decide, by decide, hsame.1, hsame.2.1⟩

end SqlText
