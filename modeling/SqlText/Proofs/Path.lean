import Mathlib.Data.List.TakeWhile
import SqlText.Proofs.Quoting
import SqlText.Proofs.Text

/-! # Splitting a path

The parts of a qualified name stand between points, and a quoted part may have points in it. Read from the
left, the first character of a part tells how far it goes, so a path falls into its parts in one way only. -/

namespace SqlText

namespace Identifier

/-! ## One part -/

/-- A name that shows where it ends: in quotes, or bare without points and not starting like a quoted one. -/
def IsPart (i : Identifier) : Prop :=
  match i.quote with
  | some q => isQuote q = true
  | none => i.value ≠ "" ∧ '.' ∉ i.value.toList ∧ ∀ c ∈ i.value.toList.head?, isQuote c = false

/-- Reads a part. It is quoted if its first character is a quote, and goes up to the next point if not. -/
def readPart : List Char → Option (Identifier × List Char)
  | [] => none
  | c :: cs =>
    if isQuote c then (readUntil (closingQuote c) cs).map fun (v, rest) => (quoted c (.ofList v), rest)
    else if c = '.' then none
    else some (bare (.ofList ((c :: cs).takeWhile (· ≠ '.'))), (c :: cs).dropWhile (· ≠ '.'))

/-- The end of the path, or a point. -/
def EndsPart (rest : List Char) : Prop := ∀ c ∈ rest.head?, c = '.'

variable {i : Identifier} {q c : Char} {cs rest : List Char}

theorem EndsPart.ne_closingQuote (h : EndsPart rest) (hq : isQuote q = true) : closingQuote q ∉ rest.head? := by
  intro hclose
  have hpoint := h _ hclose
  rcases eq_of_isQuote hq with rfl | rfl | rfl | rfl <;> revert hpoint <;> decide

theorem readPart_quoted (hq : isQuote q = true) (hrest : EndsPart rest) (v : String) :
    readPart ((quotedText q v).toList ++ rest) = some (quoted q v, rest) := by
  have hread := readUntil_double v.toList (hrest.ne_closingQuote hq)
  rw [quotedText, String.toList_ofList, List.cons_append, List.cons_append, List.append_assoc]
  simp [readPart, hq, hread]

theorem cut_append {p : Char → Bool} {w rest : List Char} (hw : ∀ c ∈ w, p c = true)
    (hrest : ∀ c ∈ rest.head?, p c = false) :
    (w ++ rest).takeWhile p = w ∧ (w ++ rest).dropWhile p = rest := by
  rw [List.takeWhile_append_of_pos hw, List.dropWhile_append_of_pos hw]
  cases rest with
  | nil => simp
  | cons c rest => simp [hrest c rfl]

theorem readPart_bare {v : String} (hv : (bare v).IsPart) (hrest : EndsPart rest) :
    readPart (v.toList ++ rest) = some (bare v, rest) := by
  obtain ⟨hne, hpoint, hquote⟩ : v ≠ "" ∧ '.' ∉ v.toList ∧ ∀ c ∈ v.toList.head?, isQuote c = false := hv
  have hword : ∀ c ∈ v.toList, decide (c ≠ '.') = true := by
    intro c hc
    exact decide_eq_true fun h => hpoint (h ▸ hc)
  have hend : ∀ c ∈ rest.head?, decide (c ≠ '.') = false := by
    intro c hc
    exact decide_eq_false (not_not_intro (hrest c hc))
  obtain ⟨htake, hdrop⟩ := cut_append hword hend
  obtain ⟨c, w, hchars⟩ : ∃ c w, v.toList = c :: w :=
    List.exists_cons_of_ne_nil fun h => hne (String.toList_eq_nil_iff.mp h)
  have hc : ¬ isQuote c = true := by
    rw [Bool.not_eq_true]
    exact hquote c (by simp [hchars])
  have hc' : c ≠ '.' := of_decide_eq_true (hword c (by simp [hchars]))
  have hread : readPart (c :: (w ++ rest)) =
      some (bare (.ofList ((c :: (w ++ rest)).takeWhile (· ≠ '.'))), (c :: (w ++ rest)).dropWhile (· ≠ '.')) := by
    unfold readPart
    simp only [if_neg hc, if_neg hc']
  rw [hchars, List.cons_append, hread, ← List.cons_append, ← hchars, htake, hdrop, String.ofList_toList]

theorem readPart_text (hi : i.IsPart) (hrest : EndsPart rest) :
    readPart (i.text.toList ++ rest) = some (i, rest) := by
  obtain ⟨v, _ | q⟩ := i
  · exact readPart_bare hi hrest
  · exact readPart_quoted hi hrest v

theorem isPart_of_readPart (h : readPart cs = some (i, rest)) : i.IsPart ∧ cs = i.text.toList ++ rest := by
  unfold readPart at h
  split at h
  next => cases h
  next c cs =>
  split at h
  next hquote =>
    obtain ⟨⟨v, rest'⟩, hread, heq⟩ := Option.map_eq_some_iff.mp h
    cases heq
    refine ⟨hquote, ?_⟩
    rw [(eq_double_of_readUntil hread).1]
    simp [text, quoted, quotedText]
  next hquote =>
  split at h
  next => cases h
  next hpoint =>
    cases h
    have hhead : (c :: cs).takeWhile (· ≠ '.') = c :: cs.takeWhile (· ≠ '.') := by simp [hpoint]
    refine ⟨⟨?_, ?_, ?_⟩, ?_⟩
    · simp [bare, hpoint]
    · intro hmem
      rw [bare, String.toList_ofList] at hmem
      simpa using List.mem_takeWhile_imp hmem
    · intro d hd
      rw [bare, String.toList_ofList, hhead] at hd
      obtain rfl : c = d := by simpa using hd
      exact Bool.not_eq_true _ ▸ hquote
    · rw [text, bare, String.toList_ofList]
      exact List.takeWhile_append_dropWhile.symm

theorem length_lt_of_readPart (h : readPart cs = some (i, rest)) : rest.length < cs.length := by
  obtain ⟨hi, rfl⟩ := isPart_of_readPart h
  have hne : i.text.toList ≠ [] := by
    obtain ⟨v, _ | q⟩ := i
    · exact fun h => hi.1 (String.toList_eq_nil_iff.mp h)
    · simp [text, quotedText]
  have := List.length_pos_of_ne_nil hne
  rw [List.length_append]
  omega

/-! ## Whole paths -/

/-- Reads one part after the other, a point between two. -/
def readPath (cs : List Char) : Option (List Identifier) :=
  match _h : readPart cs with
  | none => none
  | some (i, []) => some [i]
  | some (i, c :: rest) => if c = '.' then (readPath rest).map (i :: ·) else none
termination_by cs.length
decreasing_by
  have := length_lt_of_readPart _h
  rw [List.length_cons] at this
  omega

theorem readPath_last (h : readPart cs = some (i, [])) : readPath cs = some [i] := by
  rw [readPath]
  split <;> simp_all

theorem readPath_point (h : readPart cs = some (i, '.' :: rest)) :
    readPath cs = (readPath rest).map (i :: ·) := by
  rw [readPath]
  split <;> simp_all

/-- A list of parts that can be told apart in its text. -/
structure IsPath (parts : List Identifier) : Prop where
  nonempty : parts ≠ []
  parts : ∀ i ∈ parts, i.IsPart

theorem path_singleton (i : Identifier) : toSql (Expr.compound [i]) = i.text := by
  rw [Expr.toSql_eq, Expr.spelling, List.map_singleton, String.intercalate_singleton]

theorem path_cons (i : Identifier) {parts : List Identifier} (hne : parts ≠ []) :
    toSql (Expr.compound (i :: parts)) = i.text ++ ("." ++ toSql (Expr.compound parts)) := by
  rw [Expr.toSql_eq, Expr.toSql_eq, Expr.spelling, Expr.spelling, List.map_cons,
    String.intercalate_cons_of_ne_nil (by simpa using hne), String.append_assoc]

theorem readPath_path {parts : List Identifier} (h : IsPath parts) :
    readPath (toSql (Expr.compound parts)).toList = some parts := by
  obtain ⟨hne, hparts⟩ := h
  induction parts with
  | nil => exact absurd rfl hne
  | cons i parts ih =>
    obtain ⟨hi, hrest⟩ := List.forall_mem_cons.mp hparts
    by_cases hlast : parts = []
    · rw [hlast, path_singleton]
      have hread : readPart (i.text.toList ++ []) = some (i, []) := readPart_text hi nofun
      rw [List.append_nil] at hread
      exact readPath_last hread
    · have hpoint : EndsPart ('.' :: (toSql (Expr.compound parts)).toList) := by simp [EndsPart]
      have hread := readPart_text hi hpoint
      have hchars : (toSql (Expr.compound (i :: parts))).toList =
          i.text.toList ++ '.' :: (toSql (Expr.compound parts)).toList := by
        rw [path_cons i hlast, String.toList_append, String.toList_append]
        rfl
      rw [hchars, readPath_point hread, ih hlast hrest, Option.map_some]

theorem isPath_of_readPath {parts : List Identifier} (h : readPath cs = some parts) :
    IsPath parts ∧ cs = (toSql (Expr.compound parts)).toList := by
  fun_induction readPath cs generalizing parts with
  | case1 => cases h
  | case2 cs i hread =>
    obtain rfl := Option.some.inj h
    obtain ⟨hi, hcs⟩ := isPart_of_readPart hread
    refine ⟨⟨by simp, by simpa using hi⟩, ?_⟩
    rw [hcs, path_singleton, List.append_nil]
  | case3 cs i rest hread ih =>
    obtain ⟨parts, hparts, rfl⟩ := Option.map_eq_some_iff.mp h
    obtain ⟨hi, hcs⟩ := isPart_of_readPart hread
    obtain ⟨hpath, hrest⟩ := ih hparts
    refine ⟨⟨by simp, List.forall_mem_cons.mpr ⟨hi, hpath.parts⟩⟩, ?_⟩
    rw [hcs, path_cons i hpath.nonempty, String.toList_append, String.toList_append, ← hrest]
    rfl
  | case4 => cases h

theorem readPath_eq_some_iff {s : String} {parts : List Identifier} :
    readPath s.toList = some parts ↔ IsPath parts ∧ s = toSql (Expr.compound parts) := by
  rw [← String.toList_inj]
  constructor
  · exact isPath_of_readPath
  · rintro ⟨hpath, hs⟩
    rw [hs]
    exact readPath_path hpath

/-- A path is read back as its parts, with their values and quotes, and no other text is read as them; so two
paths that are written alike are the same. -/
theorem path_splits {parts : List Identifier} (h : IsPath parts) :
    (∀ s : String, readPath s.toList = some parts ↔ s = toSql (Expr.compound parts)) ∧
      ∀ others, IsPath others → toSql (Expr.compound others) = toSql (Expr.compound parts) → others = parts := by
  have hread (s : String) : readPath s.toList = some parts ↔ s = toSql (Expr.compound parts) := by
    rw [readPath_eq_some_iff, and_iff_right h]
  refine ⟨hread, fun others hothers htext => ?_⟩
  have hboth := readPath_path hothers
  rw [(hread _).mpr htext] at hboth
  exact (Option.some.inj hboth).symm

theorem quoted_points_do_not_split :
    let parts := [quoted '[' "a.b]", bare "c\"[", quoted '\"' "\".d"]
    IsPath parts ∧ toSql (Expr.compound parts) = "[a.b]]].c\"[.\"\"\".d\"" ∧
      readPath "[a.b]]].c\"[.\"\"\".d\"".toList = some parts := by
  intro parts
  have hpath : IsPath parts := by
    refine ⟨by simp [parts], ?_⟩
    simp [parts, IsPart, quoted, bare, isQuote]
  have htext : toSql (Expr.compound parts) = "[a.b]]].c\"[.\"\"\".d\"" := by decide
  exact ⟨hpath, htext, ((path_splits hpath).1 _).mpr htext.symm⟩

/-- A point in a bare name would not be seen to belong to it. -/
example : toSql (Expr.compound [bare "a.b"]) = toSql (Expr.compound [bare "a", bare "b"]) := by decide

end Identifier

end SqlText
