import SqlText.Proofs.Reader

/-! # One word of lookahead

What a derivation can start with and what can stand behind it, as far as the reader's choices go: its
next word tells it which rule applies and whether the last one goes on. -/

namespace SqlText

open Token (word)

/-! ## Skipping and picking -/

@[simp] theorem skip_append (ts us : List Token) : skip ts (ts ++ us) = some us := by
  induction ts with
  | nil => rfl
  | cons t ts ih =>
    rw [List.cons_append, skip, if_pos rfl]
    exact ih

@[simp] theorem skip_cons (t : Token) (us : List Token) : skip [t] (t :: us) = some us := skip_append [t] us

theorem skip_eq_none {t : Token} {ts us : List Token} (h : t ∉ us.head?) : skip (t :: ts) us = none := by
  cases us with
  | nil => rfl
  | cons u us =>
    have hne : t ≠ u := by simpa [eq_comm] using h
    rw [skip, if_neg hne]

theorem append_of_skip {ts us vs : List Token} (h : skip ts us = some vs) : us = ts ++ vs := by
  induction ts generalizing us with
  | nil => simpa [skip] using h
  | cons t ts ih =>
    cases us with
    | nil => simp [skip] at h
    | cons u us =>
      by_cases hne : t = u
      · rw [skip, if_pos hne] at h
        rw [hne, ih h, List.cons_append]
      · rw [skip, if_neg hne] at h
        cases h

theorem append_of_pick {α : Type} {xs : List α} {text : α → List Token} {ts us : List Token} {x : α}
    (h : pick xs text ts = some (x, us)) : ts = text x ++ us := by
  obtain ⟨y, -, hy⟩ := List.exists_of_findSome?_eq_some h
  obtain ⟨vs, hvs, heq⟩ := Option.map_eq_some_iff.mp hy
  obtain ⟨rfl, rfl⟩ := Prod.mk.inj heq
  exact append_of_skip hvs

theorem continuation?_append (c : Continuation) (ts : List Token) :
    continuation? (c.tokens ++ ts) = some (c, ts) := by
  cases c with
  | binary op => cases op <;> rfl
  | nullTest negated => cases negated <;> rfl
  | between negated => cases negated <;> rfl

theorem sign?_cons (op : UnaryOp) (ts : List Token) : sign? (op.token :: ts) = some (op, ts) := by
  cases op <;> rfl

theorem unit?_cons (u : FrameUnit) (ts : List Token) : unit? (word u.text :: ts) = some (u, ts) := by
  cases u <;> rfl

/-! ## What can stand behind -/

/-- The rank of the level at which a token goes on with what stands before it. -/
def Token.tightness (t : Token) : Nat :=
  if t ∈ [word ".", word "(", word "OVER"] then 10
  else ((Continuation.all.find? fun c => c.tokens.head? = some t).map fun c => c.level.rank).getD 0

theorem Continuation.tightness_head (c : Continuation) :
    ∃ t us, c.tokens = t :: us ∧ t.tightness = c.level.rank := by
  cases c with
  | binary op =>
    refine ⟨op.token, [], rfl, ?_⟩
    cases op <;> rfl
  | nullTest negated => cases negated <;> exact ⟨_, _, rfl, rfl⟩
  | between negated => cases negated <;> exact ⟨_, _, rfl, rfl⟩

theorem tightness_of_continuation? {ts us : List Token} {c : Continuation} (h : continuation? ts = some (c, us)) :
    ∃ t ∈ ts.head?, t.tightness = c.level.rank := by
  obtain ⟨t, rest, hc, ht⟩ := c.tightness_head
  refine ⟨t, ?_, ht⟩
  rw [append_of_pick h, hc]
  rfl

/-- Nothing tighter than `l` goes on. -/
def Ready (l : Level) (ts : List Token) : Prop := ∀ t ∈ ts.head?, t.tightness ≤ l.rank

theorem not_mem_head {p : Token → Prop} {t : Token} {ts : List Token} (h : ∀ u ∈ ts.head?, p u) (ht : ¬ p t) :
    t ∉ ts.head? := fun hmem => ht (h t hmem)

theorem forall_head_append {p : Token → Prop} {ts us : List Token} (ht : ∀ t ∈ ts.head?, p t)
    (hu : ∀ u ∈ us.head?, p u) : ∀ t ∈ (ts ++ us).head?, p t := by
  cases ts with
  | nil => exact hu
  | cons t ts => exact ht

theorem ready_of_continuation? {ts us : List Token} {c : Continuation} (h : continuation? ts = some (c, us)) :
    Ready c.level ts := by
  intro t ht
  obtain ⟨t', ht', hrank⟩ := tightness_of_continuation? h
  obtain rfl : t' = t := Option.some.inj (ht'.symm.trans ht)
  exact Nat.le_of_eq hrank

/-- Only expressions and order items stand in lists. -/
def Symbol.IsElement (s : Symbol) : Prop := s = .expr .or ∨ s = .item

/-- `ts` cannot belong to the `s` before it. -/
def Stops : Symbol → List Token → Prop
  | .expr l, ts => ∀ t ∈ ts.head?, t.tightness < l.rank
  | .path, ts => word "." ∉ ts.head?
  | .many s, ts | .list s, ts => s.IsElement ∧ ∀ t ∈ ts.head?, t ∈ closers
  | .overClause, ts => word "OVER" ∉ ts.head?
  | .spec, ts | .framing, ts => ∀ t ∈ ts.head?, t = word ")"
  | .partition, ts => ∀ t ∈ ts.head?, t ∈ closers
  | .order, ts => ∀ t ∈ ts.head?, t ∈ closers ∧ t ≠ word "ORDER"
  | .item, ts => ∀ t ∈ ts.head?, t ∈ closers ∨ t = word ","
  | .window, _ | .bound, _ | .frame, _ => True

theorem ready_of_stops {l : Level} {ts : List Token} (h : Stops (.expr l) ts) : Ready l ts :=
  fun t ht => Nat.le_of_lt (h t ht)

theorem stops_next {l : Level} {ts : List Token} (hl : l ≠ .prim) (h : Ready l ts) : Stops (.expr l.next) ts :=
  fun t ht => Nat.lt_of_le_of_lt (h t ht) (Level.rank_lt_next hl)

theorem tightness_of_mem_closers : ∀ t ∈ closers, t.tightness = 0 := by
  decide

theorem stops_expr {l : Level} {ts : List Token} (h : ∀ t ∈ ts.head?, t.tightness = 0) :
    Stops (.expr l) ts := by
  intro t ht
  rw [h t ht]
  cases l <;> decide

theorem Symbol.IsElement.stops {s : Symbol} (hs : s.IsElement) {ts : List Token}
    (h : ∀ t ∈ ts.head?, t ∈ closers ∨ t = word ",") : Stops s ts := by
  rcases hs with rfl | rfl
  · refine stops_expr fun t ht => ?_
    rcases h t ht with hmem | rfl
    · exact tightness_of_mem_closers t hmem
    · decide
  · exact h

/-! ## What can stand in front -/

/-- What no expression starts with. -/
def nonstarters : List Token :=
  closers ++ [word "DISTINCT", word "CURRENT", word "UNBOUNDED", word "BETWEEN"]

/-- What a primary cannot start with either. -/
def signs : List Token := [word "-", word "NOT", word "~"]

theorem ne_of_eq_some {α : Type} {f : Token → Option α} {t u : Token} {a : α} (ht : f t = some a)
    (hu : f u = none) :
    t ≠ u := by
  rintro rfl
  rw [hu] at ht
  cases ht

theorem IsCallName.ne {f s : String} (hf : IsCallName f) (hs : ¬ IsCallName s) : word f ≠ word s := by
  intro heq
  obtain rfl := Token.word.inj heq
  exact hs hf

theorem UnaryOp.token_mem_signs (op : UnaryOp) : op.token ∈ signs := by
  cases op <;> decide

theorem barred_words {s : String} (h : word s ∈ nonstarters ++ signs) : s ∈ writtenWords ∨ ¬ PlainWord s := by
  -- what is no start of a primary is a written word or no word at all
  have hall : ∀ t ∈ nonstarters ++ signs, ∃ s, t = word s ∧ (s ∈ writtenWords ∨ ¬ PlainWord s) := by
    simp only [nonstarters, closers, signs, List.cons_append, List.nil_append, List.forall_mem_cons]
    refine ⟨?_, ?_, ?_, ?_, ?_, ?_, ?_, ?_, ?_, ?_, ?_, ?_, by simp⟩ <;> exact ⟨_, rfl, by decide⟩
  obtain ⟨s', heq, hs'⟩ := hall _ h
  obtain rfl := Token.word.inj heq
  exact hs'

theorem starts_of_identifier? {t : Token} {i : Identifier} (h : t.identifier? = some i) :
    t ∉ nonstarters ++ signs := by
  intro hmem
  cases t with
  | word s =>
    rw [Token.identifier?] at h
    split at h
    · next hname =>
      rcases barred_words hmem with hwritten | hplain
      · exact not_isName_of_written hwritten hname
      · exact hplain hname.1
    · cases h
  | quoted q v => simp [nonstarters, closers, signs] at hmem
  | unclosed q v => simp [nonstarters, closers, signs] at hmem

theorem starts_of_literal? {t : Token} {l : Literal} (h : t.literal? = some l) : t ∉ nonstarters ++ signs := by
  intro hmem
  have hnone : ∀ t ∈ nonstarters ++ signs, t.literal?.isNone = true := by decide
  have := hnone t hmem
  simp [h] at this

theorem starts_of_callName {f : String} (h : IsCallName f) : word f ∉ nonstarters ++ signs := by
  intro hmem
  rcases barred_words hmem with hwritten | hplain
  · exact h.2 hwritten
  · exact hplain h.1

/-- Starts like an expression, or like something else that no choice depends on. -/
def Opens (ts : List Token) : Prop := ∃ t us, ts = t :: us ∧ t ∉ nonstarters

theorem Opens.append {ts : List Token} (h : Opens ts) (us : List Token) : Opens (ts ++ us) := by
  obtain ⟨t, rest, rfl, ht⟩ := h
  exact ⟨t, rest ++ us, rfl, ht⟩

/-- How a derivation of a symbol starts, as far as the reader looks. -/
def Begins : Symbol → List Token → Prop
  | .expr l, ts => Opens ts ∧ ∀ op : UnaryOp, op.token ∈ ts.head? → l.rank ≤ op.level.rank
  | .path, ts => ∃ t us, ts = t :: us ∧ t.identifier?.isSome ∧ word "(" ∉ us.head?
  | .many s, ts => s.IsElement → Opens ts
  | .list s, ts => s.IsElement → ts = [] ∨ Opens ts
  | .item, ts => Opens ts
  | .bound, ts => ∃ t us, ts = t :: us ∧ t ≠ word "BETWEEN"
  | .order, ts => ∀ t ∈ ts.head?, t = word "ORDER"
  | .framing, ts => ∀ t ∈ ts.head?, ∃ u : FrameUnit, t = word u.text
  | .frame, ts => ∃ (u : FrameUnit) (us : List Token), ts = word u.text :: us
  | _, _ => True

theorem Symbol.IsElement.opens {s : Symbol} (hs : s.IsElement) {ts : List Token} (h : Begins s ts) :
    Opens ts := by
  rcases hs with rfl | rfl
  · exact h.1
  · exact h

theorem begins_prim {t : Token} (h : t ∉ nonstarters ++ signs) (us : List Token) :
    Begins (.expr .prim) (t :: us) := by
  obtain ⟨hstart, hsign⟩ := not_or.mp (mt List.mem_append.mpr h)
  refine ⟨⟨t, us, rfl, hstart⟩, fun op hop => ?_⟩
  obtain rfl : t = op.token := by simpa using hop
  exact absurd op.token_mem_signs hsign

theorem begins_append {l : Level} {ts : List Token} (h : Begins (.expr l) ts) (us : List Token) :
    Begins (.expr l) (ts ++ us) := by
  obtain ⟨⟨t, rest, rfl, ht⟩, hsign⟩ := h
  exact ⟨⟨t, rest ++ us, rfl, ht⟩, hsign⟩

theorem Derives.begins {windows : Bool} {s : Symbol} {ts : List Token} {v : s.Value} (h : Derives windows s ts v) :
    Begins s ts := by
  induction h with
  | tighter hl _ ih =>
    exact ⟨ih.1, fun op hop => Nat.le_trans (Nat.le_of_lt (Level.rank_lt_next hl)) (ih.2 op hop)⟩
  | binary op _ _ ih _ => exact begins_append ih _
  | nullTest negated _ ih => exact begins_append ih _
  | between negated _ _ _ ih _ _ => exact begins_append ih _
  | @unary a x op _ _ =>
    refine ⟨⟨op.token, a, rfl, by cases op <;> decide⟩, fun op' hop => ?_⟩
    obtain rfl : op = op' := by
      have heq : op.token = op'.token := by simpa using hop
      cases op <;> cases op' <;> first | rfl | (revert heq; decide)
    exact Nat.le_refl _
  | literal h => exact begins_prim (starts_of_literal? h) _
  | wildcard => exact begins_prim (by decide) _
  | parens _ _ => exact begins_prim (by decide) _
  | call hf _ _ _ _ _ => exact begins_prim (starts_of_callName hf) _
  | names _ ih =>
    obtain ⟨t, us, rfl, ht, -⟩ := ih
    obtain ⟨i, hi⟩ := Option.isSome_iff_exists.mp ht
    exact begins_prim (starts_of_identifier? hi) _
  | name h => exact ⟨_, _, rfl, by simp [h], by simp⟩
  | qualified h _ _ => exact ⟨_, _, rfl, by simp [h], by simp⟩
  | empty => exact fun _ => .inl rfl
  | elements _ ih => exact fun hs => .inr (ih hs)
  | last _ ih => exact fun hs => hs.opens ih
  | more _ _ ih _ => exact fun hs => (hs.opens ih).append _
  | item direction nulls _ ih => exact ih.1.append _
  | unordered => simp [Begins]
  | ordered _ _ => simp [Begins]
  | unframed => simp [Begins]
  | framed _ ih =>
    obtain ⟨u, us, rfl⟩ := ih
    exact fun t ht => ⟨u, by simpa [eq_comm] using ht⟩
  | currentRow => exact ⟨_, _, rfl, by decide⟩
  | unboundedPreceding => exact ⟨_, _, rfl, by decide⟩
  | unboundedFollowing => exact ⟨_, _, rfl, by decide⟩
  | preceding _ ih | following _ ih =>
    obtain ⟨⟨t, us, rfl, ht⟩, -⟩ := ih
    refine ⟨t, us ++ _, rfl, ?_⟩
    rintro rfl
    exact ht (by decide)
  | single unit _ _ => exact ⟨unit, _, rfl⟩
  | range unit _ _ _ _ => exact ⟨unit, _, rfl⟩
  | _ => trivial

end SqlText
