import Mathlib.Data.List.Chain
import SqlText.Literal
import SqlText.Identifier

/-! # Quoted tokens in a text

A quoted token starts at a quote and ends at the first closing quote that is not written twice; a
reader of the text sees it as one piece, and every other character by itself. -/

namespace SqlText

/-- What a reader of tokens sees at once. -/
inductive Piece where
  | char (c : Char)
  | quoted (opening : Char) (value : String)
  /-- A quote that is not closed before the text ends. -/
  | unclosed (opening : Char) (value : String)
deriving DecidableEq, Repr

/-- The quotes an identifier or a string can stand between. -/
def isQuote (c : Char) : Bool := c = '"' || c = '\'' || c = '\x60' || c = '['

theorem eq_of_isQuote {q : Char} (hq : isQuote q = true) : q = '"' ∨ q = '\'' ∨ q = '\x60' ∨ q = '[' := by
  simpa [isQuote, or_assoc] using hq

namespace Piece

open Identifier (closingQuote double quotedText)

/-- Where a scan stands, with the characters of the token it is in. -/
inductive Position where
  | outside
  | inside (opening : Char) (value : List Char)
  /-- Past a closing quote, which is the first of two or the end of the token. -/
  | closing (opening : Char) (value : List Char)

/-- The pieces from a position on. -/
def scan : Position → List Char → List Piece
  | .outside, [] => []
  | .inside q v, [] => [unclosed q (.ofList v)]
  | .closing q v, [] => [quoted q (.ofList v)]
  | .outside, c :: cs => if isQuote c then scan (.inside c []) cs else char c :: scan .outside cs
  | .inside q v, c :: cs =>
    if c = closingQuote q then scan (.closing q v) cs else scan (.inside q (v ++ [c])) cs
  | .closing q v, c :: cs =>
    if c = closingQuote q then scan (.inside q (v ++ [c])) cs
    else quoted q (.ofList v) :: if isQuote c then scan (.inside c []) cs else char c :: scan .outside cs

section
variable (q c : Char) (v cs : List Char)

theorem scan_outside_cons :
    scan .outside (c :: cs) = if isQuote c then scan (.inside c []) cs else char c :: scan .outside cs :=
  rfl

theorem scan_inside_cons :
    scan (.inside q v) (c :: cs) =
      if c = closingQuote q then scan (.closing q v) cs else scan (.inside q (v ++ [c])) cs :=
  rfl

theorem scan_closing_cons :
    scan (.closing q v) (c :: cs) =
      if c = closingQuote q then scan (.inside q (v ++ [c])) cs else quoted q (.ofList v) :: scan .outside (c :: cs) :=
  rfl

end

/-! ## Scanning a token -/

theorem scan_closing {q : Char} {v cs : List Char} (h : closingQuote q ∉ cs.head?) :
    scan (.closing q v) cs = quoted q (.ofList v) :: scan .outside cs := by
  cases cs with
  | nil => rfl
  | cons c cs =>
    have hc : c ≠ closingQuote q := by simpa [eq_comm] using h
    rw [scan_closing_cons, if_neg hc]

theorem scan_double (q : Char) (v w cs : List Char) :
    scan (.inside q v) (double (closingQuote q) w ++ cs) = scan (.inside q (v ++ w)) cs := by
  induction w generalizing v with
  | nil => simp [double]
  | cons c w ih =>
    by_cases hc : c = closingQuote q
    · rw [double, if_pos hc, List.cons_append, List.cons_append, scan_inside_cons, if_pos rfl,
        scan_closing_cons, if_pos hc, ih]
      simp
    · rw [double, if_neg hc, List.cons_append, scan_inside_cons, if_neg hc, ih]
      simp

theorem scan_quotedText {q : Char} (hq : isQuote q) (v : String) {cs : List Char} (h : closingQuote q ∉ cs.head?) :
    scan .outside ((quotedText q v).toList ++ cs) = quoted q v :: scan .outside cs := by
  rw [quotedText, String.toList_ofList, List.cons_append, List.cons_append, scan_outside_cons, if_pos hq,
    List.append_assoc, scan_double, List.singleton_append, scan_inside_cons, if_pos rfl, scan_closing h]
  simp

theorem scan_unquoted {s : List Char} (hs : ∀ c ∈ s, isQuote c = false) (cs : List Char) :
    scan .outside (s ++ cs) = s.map char ++ scan .outside cs := by
  induction s with
  | nil => rfl
  | cons c s ih =>
    have hc : ¬ isQuote c = true := by simp [hs c List.mem_cons_self]
    rw [List.cons_append, scan_outside_cons, if_neg hc, ih (fun d hd => hs d (List.mem_cons_of_mem _ hd))]
    rfl

theorem char_not_mem_head_scan (q c : Char) (cs v : List Char) :
    char c ∉ (scan (.inside q v) cs).head? ∧ char c ∉ (scan (.closing q v) cs).head? := by
  induction cs generalizing v with
  | nil => exact ⟨nofun, nofun⟩
  | cons d cs ih =>
    by_cases hd : d = closingQuote q
    · rw [scan_inside_cons, if_pos hd, scan_closing_cons, if_pos hd]
      exact ⟨(ih v).2, (ih (v ++ [d])).1⟩
    · refine ⟨?_, by simp [scan_closing_cons, hd]⟩
      rw [scan_inside_cons, if_neg hd]
      exact (ih (v ++ [d])).1

theorem scan_eq_nil {p : Position} {cs : List Char} (h : scan p cs = []) : cs = [] := by
  fun_induction scan p cs with
  | case1 => rfl
  | case4 c cs _ ih | case6 q v cs ih | case7 q v c cs _ ih | case8 q v cs ih =>
    obtain rfl := ih h
    simp [scan] at h
  | _ => simp at h

theorem mem_getLast?_cons_iff {α : Type} {a b : α} {l : List α} :
    a ∈ (b :: l).getLast? ↔ a = b ∧ l = [] ∨ a ∈ l.getLast? := by
  cases l <;> simp [eq_comm]

theorem mem_getLast_of_scan {p : Position} {cs : List Char} {c : Char} (h : char c ∈ (scan p cs).getLast?) :
    c ∈ cs.getLast? := by
  have houtside : ∀ (d : Char) (cs : List Char), (char c ∈ (scan .outside cs).getLast? → c ∈ cs.getLast?) →
      char c ∈ (char d :: scan .outside cs).getLast? → c ∈ (d :: cs).getLast? := by
    intro d cs ih h
    rcases mem_getLast?_cons_iff.mp h with ⟨hchar, hnil⟩ | hlast
    · exact mem_getLast?_cons_iff.mpr (.inl ⟨char.inj hchar, scan_eq_nil hnil⟩)
    · exact mem_getLast?_cons_iff.mpr (.inr (ih hlast))
  fun_induction scan p cs with
  | case1 | case2 | case3 => simp at h
  | case4 d cs _ ih | case6 q v cs ih | case7 q v d cs _ ih | case8 q v cs ih =>
    exact mem_getLast?_cons_iff.mpr (.inr (ih h))
  | case5 d cs _ ih => exact houtside d cs ih h
  | case9 q v d cs _ ihInside ihOutside =>
    rcases mem_getLast?_cons_iff.mp h with ⟨hchar, _⟩ | hlast
    · cases hchar
    split at hlast
    · exact mem_getLast?_cons_iff.mpr (.inr (ihInside hlast))
    · exact houtside d cs ihOutside hlast

theorem pairwise_scan (p : Position) (cs : List Char) :
    (scan p cs).Pairwise fun a _ => ∀ q v, a ≠ unclosed q v := by
  fun_induction scan p cs with
  | case9 q v c cs _ ihInside ihOutside => split <;> simp_all
  | _ => simp_all

end Piece

/-! ## Scanning a text -/

open Piece (scan)

/-- The pieces of a text. -/
def pieces (s : String) : List Piece := scan .outside s.toList

/-- Every character of `s` as a piece of its own. -/
def chars (s : String) : List Piece := s.toList.map .char

theorem isChain_chars {R : Piece → Piece → Prop} {s : String} (h : ∀ c ∈ s.toList, ∀ p, R (.char c) p) :
    (chars s).IsChain R := by
  unfold chars
  rw [List.isChain_map]
  exact List.Pairwise.isChain (List.pairwise_of_forall_mem_list fun c hc d _ => h c hc (.char d))

theorem head_of_head_pieces {s : String} {c : Char} (h : .char c ∈ (pieces s).head?) : c ∈ s.toList.head? := by
  unfold pieces at h
  cases hs : s.toList with
  | nil => simp [hs, scan] at h
  | cons d cs =>
    rw [hs, Piece.scan_outside_cons] at h
    by_cases hd : isQuote d
    · rw [if_pos hd] at h
      exact absurd h (Piece.char_not_mem_head_scan d c cs []).1
    · rw [if_neg hd] at h
      simpa [eq_comm] using h

theorem last_of_last_pieces {s : String} {c : Char} (h : .char c ∈ (pieces s).getLast?) :
    c ∈ s.toList.getLast? :=
  Piece.mem_getLast_of_scan h

theorem head_pieces_of_head {s : String} {c : Char} (hc : isQuote c = false) (h : c ∈ s.toList.head?) :
    .char c ∈ (pieces s).head? := by
  unfold pieces
  cases hs : s.toList with
  | nil => simp [hs] at h
  | cons d cs =>
    obtain rfl : d = c := by simpa [hs] using h
    simp [Piece.scan_outside_cons, hc]

/-- There is no quote in it, so every character is a piece. -/
def Unquoted (s : String) : Prop := ∀ c ∈ s.toList, isQuote c = false

instance (s : String) : Decidable (Unquoted s) := List.decidableBAll _ s.toList

theorem Unquoted.pieces_append {s : String} (hs : Unquoted s) (t : String) :
    pieces (s ++ t) = chars s ++ pieces t := by
  rw [pieces, String.toList_append, Piece.scan_unquoted hs]
  rfl

theorem Unquoted.pieces_eq {s : String} (hs : Unquoted s) : pieces s = chars s := by
  have h := hs.pieces_append ""
  simpa [pieces, scan] using h

/-- What stands behind a node: nothing, or a character that no token goes on with. -/
def Delimited (s : String) : Prop := ∀ c ∈ s.toList.head?, c = ' ' ∨ c = '(' ∨ c = ')' ∨ c = ',' ∨ c = '.'

instance (s : String) : Decidable (Delimited s) := s.toList.head?.decidableForallMem

theorem Delimited.append {s t : String} (hs : Delimited s) (ht : Delimited t) : Delimited (s ++ t) := by
  intro c hc
  rw [String.toList_append, List.head?_append] at hc
  cases h : s.toList.head? with
  | none => exact ht c (by simpa [h] using hc)
  | some d => exact hs c (by simpa [h] using hc)

theorem Delimited.append_left {s : String} (hs : Delimited s) (hne : s ≠ "") (t : String) :
    Delimited (s ++ t) := by
  intro c hc
  cases h : s.toList.head? with
  | none => exact absurd (String.toList_eq_nil_iff.mp (List.head?_eq_none_iff.mp h)) hne
  | some d => exact hs c (by simpa [h] using hc)

theorem Delimited.ne_closingQuote {s : String} (hs : Delimited s) {q : Char} (hq : isQuote q) :
    Identifier.closingQuote q ∉ s.toList.head? := by
  intro hc
  have := hs _ hc
  rcases eq_of_isQuote hq with rfl | rfl | rfl | rfl <;> revert this <;> decide

theorem Delimited.head_pieces {s : String} (hs : Delimited s) {p : Piece} (hp : p ∈ (pieces s).head?) :
    ∃ c, p = .char c ∧ (c = ' ' ∨ c = '(' ∨ c = ')' ∨ c = ',' ∨ c = '.') := by
  unfold pieces at hp
  cases h : s.toList with
  | nil => simp [h, scan] at hp
  | cons c cs =>
    have hc := hs c (by simp [h])
    have hquote : ¬ isQuote c = true := by rcases hc with rfl | rfl | rfl | rfl | rfl <;> decide
    rw [h, Piece.scan_outside_cons, if_neg hquote] at hp
    exact ⟨c, by simpa [eq_comm] using hp, hc⟩

/-- No token of `s` runs on into what stands behind it. -/
def Closed (s : String) : Prop := ∀ t, Delimited t → pieces (s ++ t) = pieces s ++ pieces t

theorem Unquoted.closed {s : String} (hs : Unquoted s) : Closed s := by
  intro t _
  rw [hs.pieces_append, hs.pieces_eq]

theorem Closed.ended {s : String} (hs : Closed s) (q : Char) (v : String) : .unclosed q v ∉ pieces s := by
  -- a token that does not end would run on into a space
  intro hmem
  have hspace : pieces (s ++ " ") = pieces s ++ pieces " " := hs " " (by decide)
  have hpairs := Piece.pairwise_scan .outside (s ++ " ").toList
  rw [← pieces, hspace, List.pairwise_append] at hpairs
  exact hpairs.2.2 _ hmem (.char ' ') (by decide) q v rfl

theorem Closed.append {s t : String} (hs : Closed s) (ht : Closed t) (hd : Delimited t) : Closed (s ++ t) := by
  intro u hu
  rw [String.append_assoc, hs _ (hd.append hu), ht u hu, hs t hd, List.append_assoc]

theorem Unquoted.closed_append {s t : String} (hs : Unquoted s) (ht : Closed t) : Closed (s ++ t) := by
  intro u hu
  rw [String.append_assoc, hs.pieces_append, ht u hu, hs.pieces_append, List.append_assoc]

/-! ## Identifiers and strings -/

theorem pieces_quotedText {q : Char} (hq : isQuote q) (v : String) {t : String} (ht : Delimited t) :
    pieces (Identifier.quotedText q v ++ t) = .quoted q v :: pieces t := by
  rw [pieces, String.toList_append, Piece.scan_quotedText hq v (ht.ne_closingQuote hq)]
  rfl

theorem pieces_quotedText_eq {q : Char} (hq : isQuote q) (v : String) :
    pieces (Identifier.quotedText q v) = [.quoted q v] := by
  have h := pieces_quotedText hq v (t := "") (by decide)
  simpa [pieces, scan] using h

theorem closed_quotedText {q : Char} (hq : isQuote q) (v : String) : Closed (Identifier.quotedText q v) := by
  intro t ht
  rw [pieces_quotedText hq v ht, pieces_quotedText_eq hq v]
  rfl

theorem Identifier.double_eq_flatMap (close : Char) (cs : List Char) :
    double close cs = cs.flatMap fun c => if c = close then [close, close] else [c] := by
  induction cs with
  | nil => rfl
  | cons c cs ih => by_cases hc : c = close <;> simp [double, hc, ih]

theorem Literal.stringText_eq (value : String) : stringText value = Identifier.quotedText '\'' value := by
  rw [stringText, Identifier.quotedText, ← Identifier.double_eq_flatMap]
  apply String.toList_inj.mp
  simp [Identifier.closingQuote]

end SqlText
