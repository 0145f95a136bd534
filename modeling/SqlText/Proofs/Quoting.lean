import SqlText.Dialect
import SqlText.Proofs.Scan

/-! # Reading a quoted token

Whoever knows the quote that a token starts with can find its end and its value, whatever follows. Reading
accepts exactly what quoting writes, for every quote, so two values never have one token. -/

namespace SqlText

namespace Identifier

/-! ## Up to the closing quote -/

/-- Reads up to the first `close` that is not one of a pair: the characters before it, with one for each
pair, and those behind it. -/
def readUntil (close : Char) : List Char → Option (List Char × List Char)
  | [] => none
  | [c] => if c = close then some ([], []) else none
  | c :: d :: cs =>
    if c = close then
      if d = close then (readUntil close cs).map fun (v, rest) => (close :: v, rest)
      else some ([], d :: cs)
    else (readUntil close (d :: cs)).map fun (v, rest) => (c :: v, rest)

variable {close c : Char} {cs v rest : List Char}

theorem readUntil_pair :
    readUntil close (close :: close :: cs) = (readUntil close cs).map fun (v, rest) => (close :: v, rest) := by
  rw [readUntil, if_pos rfl, if_pos rfl]

theorem readUntil_of_ne (hc : c ≠ close) :
    readUntil close (c :: cs) = (readUntil close cs).map fun (v, rest) => (c :: v, rest) := by
  cases cs with
  | nil => simp [readUntil, hc]
  | cons d cs => rw [readUntil, if_neg hc]

theorem readUntil_close (hrest : close ∉ rest.head?) : readUntil close (close :: rest) = some ([], rest) := by
  cases rest with
  | nil => rw [readUntil, if_pos rfl]
  | cons d rest =>
    have hd : d ≠ close := by simpa [eq_comm] using hrest
    rw [readUntil, if_pos rfl, if_neg hd]

theorem readUntil_double (v : List Char) (hrest : close ∉ rest.head?) :
    readUntil close (double close v ++ close :: rest) = some (v, rest) := by
  induction v with
  | nil => exact readUntil_close hrest
  | cons c v ih =>
    by_cases hc : c = close
    · rw [double, if_pos hc, hc, List.cons_append, List.cons_append, readUntil_pair, ih, Option.map_some]
    · rw [double, if_neg hc, List.cons_append, readUntil_of_ne hc, ih, Option.map_some]

theorem eq_double_of_readUntil (h : readUntil close cs = some (v, rest)) :
    cs = double close v ++ close :: rest ∧ close ∉ rest.head? := by
  fun_induction readUntil close cs generalizing v with
  | case1 => cases h
  | case2 =>
    cases h
    simp [double]
  | case3 => cases h
  | case4 cs ih =>
    -- a pair stands for one `close` of the value
    obtain ⟨⟨w, rest'⟩, hw, heq⟩ := Option.map_eq_some_iff.mp h
    cases heq
    obtain ⟨rfl, hrest⟩ := ih hw
    simp [double, hrest]
  | case5 d cs hd =>
    -- a single `close` ends it
    cases h
    simp [double, hd]
  | case6 c d cs hc ih =>
    obtain ⟨⟨w, rest'⟩, hw, heq⟩ := Option.map_eq_some_iff.mp h
    cases heq
    obtain ⟨hcs, hrest⟩ := ih hw
    simp [double, hc, hcs, hrest]

theorem readUntil_eq_some_iff :
    readUntil close cs = some (v, rest) ↔ cs = double close v ++ close :: rest ∧ close ∉ rest.head? := by
  refine ⟨eq_double_of_readUntil, ?_⟩
  rintro ⟨rfl, hrest⟩
  exact readUntil_double v hrest

/-! ## Whole tokens -/

/-- Reads the token between `opening` and its partner that a text starts with: its value, and the text
behind it. -/
def readQuoted (opening : Char) (s : String) : Option (String × String) :=
  match s.toList with
  | [] => none
  | c :: cs =>
    if c = opening then (readUntil (closingQuote opening) cs).map fun (v, rest) => (.ofList v, .ofList rest)
    else none

theorem readQuoted_eq_some_iff {q : Char} {s v t : String} :
    readQuoted q s = some (v, t) ↔ s = quotedText q v ++ t ∧ closingQuote q ∉ t.toList.head? := by
  have hchars : s = quotedText q v ++ t ↔
      s.toList = q :: (double (closingQuote q) v.toList ++ closingQuote q :: t.toList) := by
    rw [← String.toList_inj]
    simp [quotedText]
  rw [hchars, readQuoted]
  cases s.toList with
  | nil => simp
  | cons c cs =>
    dsimp only
    split
    next hc =>
      rw [List.cons.injEq, and_iff_right hc, ← readUntil_eq_some_iff]
      simp [Option.map_eq_some_iff, ← String.toList_inj]
    next hc => simp [hc]

example : readQuoted '[' "[a]]b].c" = some ("a]b", ".c") := by decide

theorem quotedText_inj {q : Char} {v w : String} : quotedText q v = quotedText q w ↔ v = w := by
  refine ⟨fun h => ?_, congrArg _⟩
  have hread : ∀ u, readQuoted q (quotedText q u) = some (u, "") := fun u =>
    readQuoted_eq_some_iff.mpr ⟨by simp, by simp⟩
  have hsame := hread v
  rw [h, hread w] at hsame
  simpa [eq_comm] using hsame

/-- A quoted identifier, alone or made by a dialect, is read back from any text that goes on with anything but
its closing quote, and reading accepts nothing else; different values are written differently. A string is
written like an identifier between single quotes. -/
theorem readQuoted_iff_written (v : String) :
    (∀ q s t, readQuoted q s = some (v, t) ↔
        s = toSql (quoted q v) ++ t ∧ closingQuote q ∉ t.toList.head?) ∧
      (∀ q w, toSql (quoted q v) = toSql (quoted q w) ↔ v = w) ∧
      (∀ (d : Dialect) s t, readQuoted d.identifierQuote s = some (v, t) ↔
        s = toSql (d.quoteIdentifier v) ++ t ∧ closingQuote d.identifierQuote ∉ t.toList.head?) ∧
      (∀ (d : Dialect) w, toSql (d.quoteIdentifier v) = toSql (d.quoteIdentifier w) ↔ v = w) ∧
      toSql (Literal.string v) = toSql (quoted '\'' v) := by
  have hread : ∀ q s t, readQuoted q s = some (v, t) ↔
      s = toSql (quoted q v) ++ t ∧ closingQuote q ∉ t.toList.head? := fun _ _ _ => readQuoted_eq_some_iff
  have hinj : ∀ q w, toSql (quoted q v) = toSql (quoted q w) ↔ v = w := fun _ _ => quotedText_inj
  have hstring : toSql (Literal.string v) = toSql (quoted '\'' v) := Literal.stringText_eq v
  exact ⟨hread, hinj, fun d => hread d.identifierQuote, fun d => hinj d.identifierQuote, hstring⟩

end Identifier

end SqlText
