import SqlText.Proofs.Scan

/-! # Tokens

A reader takes the quoted tokens of a text as they are, drops the spaces and cuts the rest into words.
Characters that go on with one another stay together: those of a name or number, those of a
comparison, and the two of a comment mark. -/

namespace SqlText

/-- A quoted token, or a run of characters that belong together. -/
inductive Token where
  | word (text : String)
  | quoted (opening : Char) (value : String)
  | unclosed (opening : Char) (value : String)
deriving DecidableEq, Repr

def isWordChar (c : Char) : Bool := c.isAlphanum || c = '_'

/-- The characters that operators of two characters are made of. -/
def isMark (c : Char) : Bool := c = '<' || c = '>' || c = '=' || c = '|'

/-- Whether `b` goes on with `a`. -/
def glues (a b : Char) : Bool :=
  isWordChar a && isWordChar b || isMark a && isMark b || a = '-' && b = '-' || a = '/' && b = '*'

/-- Whether what follows goes on with `c`. -/
def joins (c : Char) : List Piece → Bool
  | .char d :: _ => glues c d
  | _ => false

/-- Puts `c` at the front of the first word. -/
def Token.extend (c : Char) : List Token → List Token
  | .word w :: ts => .word (.ofList (c :: w.toList)) :: ts
  | ts => ts

/-- Spaces only keep tokens apart. -/
def lex : List Piece → List Token
  | [] => []
  | .quoted q v :: ps => .quoted q v :: lex ps
  | .unclosed q v :: ps => .unclosed q v :: lex ps
  | .char c :: ps =>
    if c = ' ' then lex ps else if joins c ps then Token.extend c (lex ps) else .word (.ofList [c]) :: lex ps

/-- The tokens of a text. -/
def tokens (s : String) : List Token := lex (pieces s)

/-! ## Texts side by side -/

theorem ne_space_of_glues {c d : Char} (h : glues c d) : d ≠ ' ' := by
  rintro rfl
  have hspace : isWordChar ' ' = false ∧ isMark ' ' = false := by decide
  simp [glues, hspace] at h

theorem lex_char {c : Char} (hc : c ≠ ' ') (ps : List Piece) : ∃ w ts, lex (.char c :: ps) = .word w :: ts := by
  induction ps generalizing c with
  | nil =>
    rw [lex, if_neg hc]
    exact ⟨_, _, rfl⟩
  | cons p ps ih =>
    rw [lex, if_neg hc]
    by_cases hjoin : joins c (p :: ps)
    · cases p with
      | char d =>
        obtain ⟨w, ts, h⟩ := ih (ne_space_of_glues hjoin)
        rw [if_pos hjoin, h]
        exact ⟨_, _, rfl⟩
      | _ => simp [joins] at hjoin
    · rw [if_neg hjoin]
      exact ⟨_, _, rfl⟩

theorem lex_append {ps qs : List Piece} (h : ∀ c, .char c ∈ ps.getLast? → joins c qs = false) :
    lex (ps ++ qs) = lex ps ++ lex qs := by
  induction ps with
  | nil => rfl
  | cons p ps ih =>
    cases ps with
    | nil =>
      cases p with
      | char c =>
        have hjoin : joins c qs = false := h c rfl
        rw [List.singleton_append, lex, hjoin, lex]
        by_cases hc : c = ' ' <;> simp [hc, lex, joins]
      | _ => simp [lex]
    | cons p' ps =>
      have hrest := ih fun c hc => h c (by simpa using hc)
      cases p with
      | char c =>
        have hjoin : joins c (p' :: ps ++ qs) = joins c (p' :: ps) := by cases p' <;> rfl
        rw [List.cons_append, lex, hrest, hjoin, lex]
        by_cases hc : c = ' '
        · rw [if_pos hc, if_pos hc]
        rw [if_neg hc, if_neg hc]
        by_cases hj : joins c (p' :: ps)
        · cases p' with
          | char d =>
            obtain ⟨w, ts, hw⟩ := lex_char (ne_space_of_glues hj) ps
            rw [if_pos hj, if_pos hj, hw]
            rfl
          | _ => simp [joins] at hj
        · rw [if_neg hj, if_neg hj]
          rfl
      | quoted q v => rw [List.cons_append, lex, hrest, lex, List.cons_append]
      | unclosed q v => rw [List.cons_append, lex, hrest, lex, List.cons_append]

theorem Closed.tokens_append {s t : String} (hs : Closed s) (ht : Delimited t) :
    tokens (s ++ t) = tokens s ++ tokens t := by
  unfold tokens
  rw [hs t ht]
  refine lex_append fun c _ => ?_
  cases hp : pieces t with
  | nil => rfl
  | cons p ps =>
    obtain ⟨d, rfl, hd⟩ := ht.head_pieces (p := p) (by simp [hp])
    have hlone : isWordChar d = false ∧ isMark d = false ∧ d ≠ '-' ∧ d ≠ '*' := by
      rcases hd with rfl | rfl | rfl | rfl | rfl <;> decide
    simp [joins, glues, hlone]

/-- The last character goes on with nothing. -/
def Lone (s : String) : Prop :=
  ∀ c ∈ s.toList.getLast?, isWordChar c = false ∧ isMark c = false ∧ c ≠ '-' ∧ c ≠ '/'

instance (s : String) : Decidable (Lone s) := s.toList.getLast?.decidableForallMem

theorem mem_getLast_chars {s : String} {c : Char} (h : .char c ∈ (chars s).getLast?) :
    c ∈ s.toList.getLast? := by
  unfold chars at h
  rw [List.getLast?_map] at h
  obtain ⟨d, hd, heq⟩ := Option.map_eq_some_iff.mp h
  obtain rfl := Piece.char.inj heq
  exact hd

theorem Unquoted.tokens_append {s : String} (hs : Unquoted s) (hlone : Lone s) (t : String) :
    tokens (s ++ t) = tokens s ++ tokens t := by
  unfold tokens
  rw [hs.pieces_append, hs.pieces_eq]
  refine lex_append fun c hc => ?_
  have h := hlone c (mem_getLast_chars hc)
  unfold joins
  split
  · simp [glues, h]
  · rfl

theorem tokens_minus {t : String} (ht : '-' ∉ t.toList.head?) : tokens ("-" ++ t) = .word "-" :: tokens t := by
  have hunquoted : Unquoted "-" := by decide
  have hlast : isWordChar '-' = false ∧ isMark '-' = false := by decide
  unfold tokens
  rw [hunquoted.pieces_append]
  refine lex_append fun c hc => ?_
  obtain rfl : c = '-' := by simpa [chars, eq_comm] using hc
  cases hp : pieces t with
  | nil => rfl
  | cons p ps =>
    cases p with
    | char d =>
      have hd : d ≠ '-' := by
        rintro rfl
        exact ht (head_of_head_pieces (by simp [hp]))
      simp [joins, glues, hlast, hd]
    | _ => rfl

/-! ## Words -/

/-- A nonempty run of characters that stay together. -/
def IsWord (s : String) : Prop := s ≠ "" ∧ ∀ c ∈ s.toList, isWordChar c = true

instance (s : String) : Decidable (IsWord s) :=
  haveI : Decidable (∀ c ∈ s.toList, isWordChar c = true) := List.decidableBAll _ s.toList
  inferInstanceAs (Decidable (_ ∧ _))

theorem not_isQuote_of_isWordChar {c : Char} (h : isWordChar c = true) : isQuote c = false := by
  have h' : c ≠ '"' ∧ c ≠ '\'' ∧ c ≠ '\x60' ∧ c ≠ '[' := by
    refine ⟨?_, ?_, ?_, ?_⟩ <;> rintro rfl <;> revert h <;> decide
  simp [isQuote, h']

theorem IsWord.unquoted {s : String} (h : IsWord s) :
    Unquoted s := fun c hc => not_isQuote_of_isWordChar (h.2 c hc)

theorem lex_word {c : Char} {cs : List Char} (h : ∀ d ∈ c :: cs, isWordChar d = true) :
    lex ((c :: cs).map .char) = [.word (.ofList (c :: cs))] := by
  have hc : isWordChar c = true := h c List.mem_cons_self
  have hspace : c ≠ ' ' := by
    rintro rfl
    revert hc
    decide
  induction cs generalizing c with
  | nil =>
    rw [List.map_singleton, lex, if_neg hspace]
    rfl
  | cons d cs ih =>
    have hd : isWordChar d = true := h d (by simp)
    have hrest := ih (fun e he => h e (List.mem_cons_of_mem _ he)) hd (by rintro rfl; revert hd; decide)
    have hjoin : joins c ((d :: cs).map .char) = true := by simp [joins, glues, hc, hd]
    rw [List.map_cons, lex, if_neg hspace, if_pos hjoin, hrest]
    simp [Token.extend]

theorem IsWord.tokens_eq {s : String} (h : IsWord s) : tokens s = [.word s] := by
  unfold tokens
  rw [h.unquoted.pieces_eq]
  unfold chars
  cases hs : s.toList with
  | nil => exact absurd (String.toList_eq_nil_iff.mp hs) h.1
  | cons c cs =>
    rw [lex_word (by rw [← hs]; exact h.2), ← hs, String.ofList_toList]

theorem tokens_quotedText {q : Char} (hq : isQuote q) (v : String) :
    tokens (Identifier.quotedText q v) = [.quoted q v] := by
  unfold tokens
  rw [pieces_quotedText_eq hq v]
  rfl

end SqlText
