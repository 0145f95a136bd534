import SqlText.Proofs.Lookahead

/-! # The grammar is unambiguous

The reader finds whatever is derived, provided that what stands behind it cannot belong to it; so
there is at most one value to find. -/

namespace SqlText

open Token (word)

/-! ## Results that no longer depend on the bound -/

/-- From some bound on, `f` has the result `a`. -/
def Settles {α : Type} (f : Nat → Option α) (a : α) : Prop := ∃ N, ∀ n, N ≤ n → f n = some a

namespace Settles

variable {α β : Type} {a a' : α} {b : β}

theorem const (a : α) : Settles (fun _ => some a) a := ⟨0, fun _ _ => rfl⟩

theorem of_succ {f : Nat → Option α} (h : Settles (fun n => f (n + 1)) a) : Settles f a := by
  obtain ⟨N, hN⟩ := h
  refine ⟨N + 1, fun n hn => ?_⟩
  obtain ⟨m, rfl⟩ : ∃ m, n = m + 1 := ⟨n - 1, by omega⟩
  exact hN m (by omega)

theorem bind {f : Nat → Option α} {g : Nat → α → Option β} (hf : Settles f a)
    (hg : Settles (fun n => g n a) b) :
    Settles (fun n => (f n).bind (g n)) b := by
  obtain ⟨N, hN⟩ := hf
  obtain ⟨M, hM⟩ := hg
  refine ⟨max N M, fun n hn => ?_⟩
  have hfn : f n = some a := hN n (by omega)
  simp only [hfn, Option.bind_some]
  exact hM n (by omega)

theorem map {f : Nat → Option α} (hf : Settles f a) (g : α → β) : Settles (fun n => (f n).map g) (g a) := by
  obtain ⟨N, hN⟩ := hf
  refine ⟨N, fun n hn => ?_⟩
  simp only [hN n hn, Option.map_some]

theorem unique {f : Nat → Option α} (h : Settles f a) (h' : Settles f a') : a = a' := by
  obtain ⟨N, hN⟩ := h
  obtain ⟨M, hM⟩ := h'
  have hn := hN (max N M) (by omega)
  rw [hM (max N M) (by omega)] at hn
  exact (Option.some.inj hn).symm

end Settles

/-! ## The reader's choices -/

theorem loop_ends {l : Level} {ts : List Token} (h : ∀ c us, continuation? ts = some (c, us) → c.level ≠ l)
    (e : Expr) :
    Settles (fun n => loop n l e ts) (e, ts) := by
  apply Settles.of_succ
  simp only [loop]
  cases hc : continuation? ts with
  | none => exact Settles.const _
  | some found =>
    obtain ⟨c, us⟩ := found
    simp only [if_neg (h c us hc)]
    exact Settles.const _

theorem loop_stops {l : Level} {ts : List Token} (h : Stops (.expr l) ts) (e : Expr) :
    Settles (fun n => loop n l e ts) (e, ts) := by
  refine loop_ends (fun c us hc => ?_) e
  obtain ⟨t, ht, hrank⟩ := tightness_of_continuation? hc
  have hlt := h t ht
  rintro rfl
  omega

/-- A level whose operators all stand in front, or that has none. -/
def Level.Idle (l : Level) : Prop := ∀ c : Continuation, c.level ≠ l

theorem idle_prim : Level.Idle .prim := by
  rintro (op | negated | negated)
  · cases op <;> decide
  · cases negated <;> decide
  · cases negated <;> decide

theorem UnaryOp.idle_level (op : UnaryOp) : op.level.Idle := by
  rintro (op' | negated | negated)
  · cases op <;> cases op' <;> decide
  · cases op <;> cases negated <;> decide
  · cases op <;> cases negated <;> decide

theorem Level.Idle.loop {l : Level} (hl : l.Idle) {e : Expr} {ts : List Token} {out : Expr × List Token}
    (h : Settles (fun n => loop n l e ts) out) : out = (e, ts) :=
  h.unique (loop_ends (fun c _ _ => hl c) e)

theorem read_prim {ts : List Token} {out : Expr × List Token} (h : Settles (fun n => atom n ts) out) :
    Settles (fun n => read n (.expr .prim) ts) out := by
  apply Settles.of_succ
  simpa only [read, if_true] using h

theorem read_descend {l : Level} (hl : l ≠ .prim) {ts : List Token}
    (hsign : ∀ op : UnaryOp, op.token ∈ ts.head? → op.level ≠ l) {e : Expr} {us : List Token}
    {out : Expr × List Token} (hoperand : Settles (fun n => read n (.expr l.next) ts) (e, us))
    (hloop : Settles (fun n => loop n l e us) out) :
    Settles (fun n => read n (.expr l) ts) out := by
  apply Settles.of_succ
  simp only [read, if_neg hl]
  cases hs : sign? ts with
  | none => exact hoperand.bind hloop
  | some found =>
    obtain ⟨op, rest⟩ := found
    have hne : op.level ≠ l := hsign op (by rw [append_of_pick hs]; rfl)
    simp only [if_neg hne]
    exact hoperand.bind hloop

/-! ## Completeness -/

/-- The reader finds `v` in `ts`, whatever stands behind. Behind an operand it goes on with the
operators of the level, so there the result is the one of the loop. -/
def Found : (s : Symbol) → List Token → s.Value → Prop
  | .expr l, ts, e => ∀ rest out, Ready l rest → Settles (fun n => loop n l e rest) out →
      Settles (fun n => read n (.expr l) (ts ++ rest)) out
  | s, ts, v => ∀ rest, Stops s rest → Settles (fun n => read n s (ts ++ rest)) (v, rest)

theorem Found.settles {s : Symbol} {ts : List Token} {v : s.Value} (h : Found s ts v) {rest : List Token}
    (hrest : Stops s rest) : Settles (fun n => read n s (ts ++ rest)) (v, rest) := by
  cases s with
  | expr l => exact h rest _ (ready_of_stops hrest) (loop_stops hrest v)
  | _ => exact h rest hrest

theorem found_prim {ts : List Token} {e : Expr}
    (h : ∀ rest, Ready .prim rest → Settles (fun n => atom n (ts ++ rest)) (e, rest)) :
    Found (.expr .prim) ts e := by
  intro rest out hready hloop
  obtain rfl := idle_prim.loop hloop
  exact read_prim (h rest hready)

theorem found_tighter {l : Level} {ts : List Token} {e : Expr} (hl : l ≠ .prim) (hbegins : Begins (.expr l.next) ts)
    (h : Found (.expr l.next) ts e) : Found (.expr l) ts e := by
  intro rest out hready hloop
  refine read_descend hl (fun op hop => ?_) (h.settles (stops_next hl hready)) hloop
  have hle := (begins_append hbegins rest).2 op hop
  have hlt := Level.rank_lt_next hl
  rintro rfl
  omega

theorem BinaryOp.level_ne_prim (op : BinaryOp) : op.level ≠ .prim := by
  cases op <;> decide

theorem found_binary {a b : List Token} {x y : Expr} (op : BinaryOp) (hx : Found (.expr op.level) a x)
    (hy : Found (.expr op.level.next) b y) : Found (.expr op.level) (a ++ op.token :: b) (.binary x op y) := by
  intro rest out hready hloop
  have hcontinue := continuation?_append (.binary op) (b ++ rest)
  simp only [Continuation.tokens, List.cons_append, List.nil_append] at hcontinue
  rw [List.append_assoc, List.cons_append]
  refine hx _ _ (ready_of_continuation? hcontinue) (Settles.of_succ ?_)
  simp only [loop, hcontinue, Continuation.level, if_true]
  exact (hy.settles (stops_next op.level_ne_prim hready)).bind hloop

theorem found_unary {a : List Token} {x : Expr} (op : UnaryOp) (hx : Found (.expr op.level) a x) :
    Found (.expr op.level) (op.token :: a) (.unary op x) := by
  intro rest out hready hloop
  obtain rfl := op.idle_level.loop hloop
  have hne : op.level ≠ .prim := by cases op <;> decide
  have hoperand := hx rest _ hready (loop_ends (fun c _ _ => op.idle_level c) x)
  apply Settles.of_succ
  simp only [List.cons_append, read, if_neg hne, sign?_cons, if_true]
  exact hoperand.map _

theorem found_nullTest {a : List Token} {x : Expr} (negated : Bool) (hx : Found (.expr .cmp) a x) :
    Found (.expr .cmp) (a ++ Expr.nullTestTokens negated) (.nullTest x negated) := by
  intro rest out hready hloop
  have hcontinue := continuation?_append (.nullTest negated) rest
  simp only [Continuation.tokens] at hcontinue
  rw [List.append_assoc]
  refine hx _ _ (ready_of_continuation? hcontinue) (Settles.of_succ ?_)
  simp only [loop, hcontinue, Continuation.level, if_true]
  exact hloop

theorem found_between {a b c : List Token} {x low high : Expr} (negated : Bool) (hx : Found (.expr .like) a x)
    (hlow : Found (.expr .add) b low) (hhigh : Found (.expr .add) c high) :
    Found (.expr .like) (a ++ (Expr.betweenTokens negated ++ (b ++ word "AND" :: c)))
      (.between x low high negated) := by
  intro rest out hready hloop
  have hcontinue := continuation?_append (.between negated) (b ++ word "AND" :: (c ++ rest))
  simp only [Continuation.tokens] at hcontinue
  have htokens : a ++ (Expr.betweenTokens negated ++ (b ++ word "AND" :: c)) ++ rest =
      a ++ (Expr.betweenTokens negated ++ (b ++ word "AND" :: (c ++ rest))) := by simp
  rw [htokens]
  -- the bounds are of a tighter level than the AND between them
  have hand : Stops (.expr .add) (word "AND" :: (c ++ rest)) := by
    intro t ht
    obtain rfl : word "AND" = t := by simpa using ht
    decide
  refine hx _ _ (ready_of_continuation? hcontinue) (Settles.of_succ ?_)
  simp only [loop, hcontinue, Continuation.level, if_true]
  refine (hlow.settles hand).bind ?_
  simp only [skip_cons, Option.bind_some]
  exact (hhigh.settles (stops_next (l := .like) (by decide) hready)).bind hloop

/-! ## Primaries -/

theorem found_literal {t : Token} {l : Literal} (h : t.literal? = some l) :
    Found (.expr .prim) [t] (.literal l) := by
  have hparen : t ≠ word "(" := ne_of_eq_some h rfl
  have hstar : t ≠ word "*" := ne_of_eq_some h rfl
  refine found_prim fun rest _ => Settles.of_succ ?_
  simp only [List.cons_append, List.nil_append, atom, if_neg hparen, if_neg hstar, h]
  exact Settles.const _

theorem found_wildcard : Found (.expr .prim) [word "*"] .wildcard := by
  have hparen : word "*" ≠ word "(" := by decide
  refine found_prim fun rest _ => Settles.of_succ ?_
  simp only [List.cons_append, List.nil_append, atom, if_neg hparen, if_true]
  exact Settles.const _

theorem stops_paren (l : Level) (ts : List Token) : Stops (.expr l) (word ")" :: ts) := by
  refine stops_expr fun t ht => ?_
  obtain rfl : word ")" = t := by simpa using ht
  decide

theorem found_parens {a : List Token} {x : Expr} (hx : Found (.expr .or) a x) :
    Found (.expr .prim) (word "(" :: (a ++ [word ")"])) x := by
  refine found_prim fun rest _ => Settles.of_succ ?_
  simp only [List.cons_append, List.append_assoc, List.nil_append, atom, if_true]
  refine (hx.settles (stops_paren .or rest)).bind ?_
  simp only [skip_cons, Option.map_some]
  exact Settles.const _

theorem PlainWord.not_isDigits {s : String} (h : PlainWord s) : ¬ IsDigits s := by
  rintro ⟨hne, hdigits⟩
  cases hs : s.toList with
  | nil => exact hne (String.toList_eq_nil_iff.mp hs)
  | cons c cs =>
    have hfirst := h.2 c (by simp [hs])
    have hdigit := hdigits c (by simp [hs])
    simp [hfirst] at hdigit

theorem literal?_of_plainWord {s : String} (h : PlainWord s) (hwritten : s ∉ writtenWords) :
    (word s).literal? = none := by
  have hne : ∀ t ∈ ["TRUE", "FALSE", "NULL"], s ≠ t := by
    rintro t ht rfl
    exact hwritten ((by decide : ∀ t ∈ ["TRUE", "FALSE", "NULL"], t ∈ writtenWords) s ht)
  have hdigits : ¬ (IsDigits s ∧ digitsValue s < 2 ^ 63) := fun hs => h.not_isDigits hs.1
  rw [Token.literal?, if_neg (hne _ (by decide)), if_neg (hne _ (by decide)), if_neg (hne _ (by decide)),
    if_neg hdigits]

theorem IsName.not_written {s : String} (h : IsName s) :
    s ∉ writtenWords := fun hs => not_isName_of_written hs h

theorem literal?_of_identifier? {t : Token} {i : Identifier} (h : t.identifier? = some i) :
    t.literal? = none := by
  cases t with
  | word s =>
    rw [Token.identifier?] at h
    split at h
    · next hname => exact literal?_of_plainWord hname.1 hname.not_written
    · cases h
  | quoted q v =>
    rw [Token.literal?, if_neg]
    rintro rfl
    cases h
  | unclosed q v => rfl

theorem callName?_eq_none {t : Token} {us : List Token} (h : word "(" ∉ us.head?) : callName? (t :: us) = none := by
  cases t with
  | word f =>
    rw [callName?, skip_eq_none h]
    exact ite_self none
  | _ => rfl

theorem found_names {a : List Token} {is : List Identifier} (hbegins : Begins .path a) (h : Found .path a is) :
    Found (.expr .prim) a (.ofPath is) := by
  obtain ⟨t, us, rfl, ht, hus⟩ := hbegins
  obtain ⟨i, hi⟩ := Option.isSome_iff_exists.mp ht
  have hparen : t ≠ word "(" := ne_of_eq_some hi rfl
  have hstar : t ≠ word "*" := ne_of_eq_some hi rfl
  refine found_prim fun rest hready => Settles.of_succ ?_
  -- no primary goes on with a parenthesis or a point
  have hcall : word "(" ∉ (us ++ rest).head? := by
    cases us with
    | nil => exact not_mem_head hready (by decide)
    | cons u us => exact hus
  have hstops : Stops .path rest := not_mem_head hready (by decide)
  simp only [List.cons_append, atom, if_neg hparen, if_neg hstar, literal?_of_identifier? hi, callName?_eq_none hcall]
  exact (h rest hstops).map _

theorem found_name {t : Token} {i : Identifier} (h : t.identifier? = some i) : Found .path [t] [i] := by
  refine fun rest (hrest : word "." ∉ rest.head?) => Settles.of_succ ?_
  simp only [List.cons_append, List.nil_append, read, h, Option.bind_some, skip_eq_none hrest]
  exact Settles.const _

theorem found_qualified {t : Token} {i : Identifier} {a : List Token} {is : List Identifier}
    (h : t.identifier? = some i) (hrest : Found .path a is) :
    Found .path (t :: word "." :: a) (i :: is) := by
  intro rest hstops
  apply Settles.of_succ
  simp only [List.cons_append, read, h, Option.bind_some, skip_cons]
  exact (hrest rest hstops).map _

theorem pick_distinct (distinct : Bool) {ts : List Token} (h : word "DISTINCT" ∉ ts.head?) :
    pick [true, false] Call.distinctTokens (Call.distinctTokens distinct ++ ts) = some (distinct, ts) := by
  cases distinct with
  | true => rfl
  | false => simp [pick, Call.distinctTokens, skip_eq_none h, skip]

theorem found_call {f : String} {a b : List Token} {args : List Expr} {window : Option Window}
    (hf : IsCallName f) (distinct : Bool) (hbegins : Begins (.list (.expr .or)) a)
    (hargs : Found (.list (.expr .or)) a args) (hover : Found .overClause b window) :
    Found (.expr .prim) (word f :: word "(" :: (Call.distinctTokens distinct ++ (a ++ word ")" :: b)))
      (.call ⟨f, args, distinct, window⟩) := by
  have hparen : word f ≠ word "(" := hf.ne (by decide)
  have hstar : word f ≠ word "*" := hf.ne (by decide)
  refine found_prim fun rest hready => Settles.of_succ ?_
  have hname : ∀ ts, callName? (word f :: word "(" :: ts) = some (f, ts) := by
    intro ts
    rw [callName?, if_pos hf]
    rfl
  have hdistinct : word "DISTINCT" ∉ (a ++ word ")" :: (b ++ rest)).head? := by
    intro hmem
    rcases hbegins (.inl rfl) with rfl | ⟨t, us, rfl, ht⟩
    · simp at hmem
    · obtain rfl : t = word "DISTINCT" := by simpa using hmem
      exact ht (by decide)
  have hover' : Stops .overClause rest := not_mem_head hready (by decide)
  have hlist : Stops (.list (.expr .or)) (word ")" :: (b ++ rest)) := by
    refine ⟨.inl rfl, fun t ht => ?_⟩
    obtain rfl : word ")" = t := by simpa using ht
    decide
  simp only [List.cons_append, List.append_assoc, atom, if_neg hparen, if_neg hstar,
    literal?_of_plainWord hf.1 hf.2, hname, pick_distinct distinct hdistinct, Option.bind_some]
  refine (hargs _ hlist).bind ?_
  simp only [skip_cons, Option.bind_some]
  exact (hover rest hover').map _

/-! ## Lists -/

theorem found_empty (s : Symbol) : Found (.list s) [] [] := by
  rintro rest ⟨-, hrest⟩
  have hend : atEnd rest = true := by
    unfold atEnd
    cases hr : rest.head? with
    | none => rfl
    | some t => simp [hrest t hr]
  apply Settles.of_succ
  simp only [List.nil_append, read, if_pos hend]
  exact Settles.const _

theorem Opens.not_atEnd {ts : List Token} (h : Opens ts) : atEnd ts = false := by
  obtain ⟨t, us, rfl, ht⟩ := h
  have hclose : t ∉ closers := fun hmem => ht (List.mem_append_left _ hmem)
  simp [atEnd, hclose]

theorem found_elements {s : Symbol} {a : List Token} {xs : List s.Value} (hbegins : Begins (.many s) a)
    (h : Found (.many s) a xs) : Found (.list s) a xs := by
  intro rest hrest
  have hopens : Opens a := hbegins hrest.1
  apply Settles.of_succ
  simp only [read, (hopens.append rest).not_atEnd, Bool.false_eq_true, if_false]
  exact h rest hrest

theorem found_last {s : Symbol} {a : List Token} {x : s.Value} (h : Found s a x) : Found (.many s) a [x] := by
  rintro rest ⟨hs, hrest⟩
  have hcomma : word "," ∉ rest.head? := not_mem_head hrest (by decide)
  apply Settles.of_succ
  simp only [read]
  refine (h.settles (hs.stops fun t ht => .inl (hrest t ht))).bind ?_
  simp only [skip_eq_none hcomma]
  exact Settles.const _

theorem found_more {s : Symbol} {a b : List Token} {x : s.Value} {xs : List s.Value} (h : Found s a x)
    (hxs : Found (.many s) b xs) : Found (.many s) (a ++ word "," :: b) (x :: xs) := by
  rintro rest ⟨hs, hrest⟩
  apply Settles.of_succ
  simp only [List.append_assoc, List.cons_append, read]
  have hcomma : Stops s (word "," :: (b ++ rest)) := by
    refine hs.stops fun t ht => .inr ?_
    simpa [eq_comm] using ht
  refine (h.settles hcomma).bind ?_
  simp only [skip_cons]
  exact (hxs rest ⟨hs, hrest⟩).map _

/-! ## Windows -/

theorem found_bare : Found .overClause [] none := by
  refine fun rest (hrest : word "OVER" ∉ rest.head?) => Settles.of_succ ?_
  simp only [List.nil_append, read, skip_eq_none hrest]
  exact Settles.const _

theorem found_over {a : List Token} {w : Window} (h : Found .window a w) :
    Found .overClause (word "OVER" :: a) (some w) := by
  intro rest _
  apply Settles.of_succ
  simp only [List.cons_append, read, skip_cons]
  exact (h rest trivial).map _

theorem found_named {t : Token} {i : Identifier} (h : t.identifier? = some i) :
    Found .window [t] (.named i) := by
  have hparen : t ≠ word "(" := ne_of_eq_some h rfl
  intro rest _
  apply Settles.of_succ
  simp only [List.cons_append, List.nil_append, read, if_neg hparen, h, Option.map_some]
  exact Settles.const _

theorem found_inline {a : List Token} {s : WindowSpec} (h : Found .spec a s) :
    Found .window (word "(" :: (a ++ [word ")"])) (.inline s) := by
  intro rest _
  have hclose : Stops .spec (word ")" :: rest) := fun t ht => by simpa [eq_comm] using ht
  apply Settles.of_succ
  simp only [List.cons_append, List.append_assoc, List.nil_append, read, if_true]
  refine (h _ hclose).bind ?_
  simp only [skip_cons, Option.map_some]
  exact Settles.const _

theorem unit_mem_closers (u : FrameUnit) : word u.text ∈ closers ∧ word u.text ≠ word "ORDER" := by
  cases u <;> decide

theorem found_spec {a b c : List Token} {es : List Expr} {items : Option (List OrderItem)} {f : Option Frame}
    (hes : Found .partition a es) (hitems : Found .order b items) (hf : Found .framing c f)
    (horder : Begins .order b) (hframing : Begins .framing c) : Found .spec (a ++ (b ++ c)) ⟨es, items, f⟩ := by
  intro rest (hrest : ∀ t ∈ rest.head?, t = word ")")
  have hafterOrder : Stops .order (c ++ rest) := by
    intro t ht
    cases c with
    | nil =>
      obtain rfl := hrest t ht
      decide
    | cons u us =>
      obtain ⟨unit, rfl⟩ := hframing t ht
      exact unit_mem_closers unit
  have hafterPartition : Stops .partition (b ++ (c ++ rest)) := by
    intro t ht
    cases b with
    | nil => exact (hafterOrder t ht).1
    | cons u us =>
      obtain rfl := horder t ht
      decide
  apply Settles.of_succ
  simp only [List.append_assoc, read]
  refine (hes _ hafterPartition).bind ((hitems _ hafterOrder).bind ?_)
  exact (hf rest hrest).map _

theorem found_unpartitioned : Found .partition [] [] := by
  refine fun rest (hrest : ∀ t ∈ rest.head?, t ∈ closers) => Settles.of_succ ?_
  have hnone : word "PARTITION" ∉ rest.head? := not_mem_head hrest (by decide)
  simp only [List.nil_append, read, skip_eq_none hnone]
  exact Settles.const _

theorem found_partitioned {a : List Token} {es : List Expr} (h : Found (.many (.expr .or)) a es) :
    Found .partition (word "PARTITION" :: word "BY" :: a) es := by
  intro rest hrest
  have hskip := skip_append [word "PARTITION", word "BY"] (a ++ rest)
  simp only [List.cons_append, List.nil_append] at hskip
  apply Settles.of_succ
  simp only [List.cons_append, read, hskip]
  exact h rest ⟨.inl rfl, hrest⟩

theorem found_unordered : Found .order [] none := by
  refine fun rest (hrest : ∀ t ∈ rest.head?, t ∈ closers ∧ t ≠ word "ORDER") => Settles.of_succ ?_
  have hnone : word "ORDER" ∉ rest.head? := not_mem_head hrest (by decide)
  simp only [List.nil_append, read, skip_eq_none hnone]
  exact Settles.const _

theorem found_ordered {a : List Token} {items : List OrderItem} (h : Found (.list .item) a items) :
    Found .order (word "ORDER" :: word "BY" :: a) (some items) := by
  refine fun rest (hrest : ∀ t ∈ rest.head?, t ∈ closers ∧ t ≠ word "ORDER") => Settles.of_succ ?_
  have hskip := skip_append [word "ORDER", word "BY"] (a ++ rest)
  simp only [List.cons_append, List.nil_append] at hskip
  simp only [List.cons_append, read, hskip]
  exact (h rest ⟨.inr rfl, fun t ht => (hrest t ht).1⟩).map _

theorem unit?_eq_none {ts : List Token} (h : ∀ t ∈ ts.head?, t = word ")") : unit? ts = none := by
  cases hu : unit? ts with
  | none => rfl
  | some found =>
    obtain ⟨u, us⟩ := found
    have hparen := h (word u.text) (by rw [append_of_pick hu]; rfl)
    exact absurd hparen (by cases u <;> decide)

theorem found_unframed : Found .framing [] none := by
  refine fun rest (hrest : ∀ t ∈ rest.head?, t = word ")") => Settles.of_succ ?_
  simp only [List.nil_append, read, unit?_eq_none hrest]
  exact Settles.const _

theorem found_framed {a : List Token} {f : Frame} (hbegins : Begins .frame a) (h : Found .frame a f) :
    Found .framing a (some f) := by
  obtain ⟨u, us, rfl⟩ := hbegins
  intro rest _
  have hunit := unit?_cons u (us ++ rest)
  apply Settles.of_succ
  simp only [List.cons_append, read, hunit]
  exact (h rest trivial).map _

theorem pick_direction (direction : Option SortDirection) {ts : List Token} (hasc : word "ASC" ∉ ts.head?)
    (hdesc : word "DESC" ∉ ts.head?) :
    pick [some .asc, some .desc, none] OrderItem.directionTokens (OrderItem.directionTokens direction ++ ts) =
      some (direction, ts) := by
  rcases direction with _ | _ | _
  · simp [pick, OrderItem.directionTokens, skip_eq_none hasc, skip_eq_none hdesc, skip]
  · rfl
  · rfl

theorem pick_nulls (nulls : Option NullPlacement) {ts : List Token} (h : word "NULLS" ∉ ts.head?) :
    pick [some .first, some .last, none] OrderItem.nullsTokens (OrderItem.nullsTokens nulls ++ ts) =
      some (nulls, ts) := by
  rcases nulls with _ | _ | _
  · simp [pick, OrderItem.nullsTokens, skip_eq_none h, skip]
  · rfl
  · rfl

theorem Stops.loose {ts : List Token} (h : Stops .item ts) :
    ∀ t ∈ ts.head?, t.tightness = 0 ∧ t ∉ [word "ASC", word "DESC", word "NULLS"] := by
  have hclosers : ∀ t ∈ closers, t.tightness = 0 ∧ t ∉ [word "ASC", word "DESC", word "NULLS"] := by decide
  intro t ht
  have hend : t ∈ closers ∨ t = word "," := h t ht
  rcases hend with hmem | rfl
  · exact hclosers t hmem
  · decide

theorem found_item {a : List Token} {x : Expr} (direction : Option SortDirection) (nulls : Option NullPlacement)
    (h : Found (.expr .or) a x) :
    Found .item (a ++ (OrderItem.directionTokens direction ++ OrderItem.nullsTokens nulls))
      ⟨x, direction, nulls⟩ := by
  intro rest hrest
  have hend := Stops.loose hrest
  have hnulls : ∀ t ∈ (OrderItem.nullsTokens nulls ++ rest).head?, t.tightness = 0 ∧ t ∉ [word "ASC", word "DESC"] :=
    forall_head_append (by rcases nulls with _ | _ | _ <;> decide) fun t ht =>
      ⟨(hend t ht).1, fun hmem => (hend t ht).2 (List.mem_append_left [word "NULLS"] hmem)⟩
  have hstops : Stops (.expr .or) (OrderItem.directionTokens direction ++ (OrderItem.nullsTokens nulls ++ rest)) :=
    stops_expr (forall_head_append (by rcases direction with _ | _ | _ <;> decide) fun t ht => (hnulls t ht).1)
  have hdirection := pick_direction direction (not_mem_head hnulls (by decide)) (not_mem_head hnulls (by decide))
  have hplacement := pick_nulls nulls (not_mem_head hend (by decide))
  apply Settles.of_succ
  simp only [List.append_assoc, read]
  refine (h.settles hstops).bind ?_
  simp only [hdirection, hplacement, Option.bind_some, Option.map_some]
  exact Settles.const _

theorem found_fixedBound {ts : List Token} {bound : FrameBound}
    (h : ∀ rest, fixedBound? (ts ++ rest) = some (bound, rest)) : Found .bound ts bound := by
  intro rest _
  apply Settles.of_succ
  simp only [read, h]
  exact Settles.const _

theorem fixedBound?_eq_none {ts : List Token} (h : Opens ts) : fixedBound? ts = none := by
  obtain ⟨t, us, rfl, ht⟩ := h
  have hhead : ∀ u ∈ (t :: us).head?, u ∉ nonstarters := by simpa using ht
  have hcurrent : word "CURRENT" ∉ (t :: us).head? := not_mem_head hhead (by decide)
  have hunbounded : word "UNBOUNDED" ∉ (t :: us).head? := not_mem_head hhead (by decide)
  simp only [fixedBound?, skip_eq_none hcurrent, skip_eq_none hunbounded, Option.map_none]

theorem found_offset {a : List Token} {x : Expr} {t : Token} {bound : FrameBound}
    (hbegins : Begins (.expr .or) a) (h : Found (.expr .or) a x) (ht : t.tightness = 0)
    (hside : ∀ rest, side? x (t :: rest) = some (bound, rest)) :
    Found .bound (a ++ [t]) bound := by
  intro rest _
  have hstops : Stops (.expr .or) (t :: rest) := by
    refine stops_expr fun u hu => ?_
    obtain rfl := Option.some.inj hu
    exact ht
  apply Settles.of_succ
  simp only [List.append_assoc, List.cons_append, List.nil_append, read,
    fixedBound?_eq_none (hbegins.1.append (t :: rest))]
  refine (h.settles hstops).bind ?_
  simp only [hside]
  exact Settles.const _

theorem found_single {a : List Token} {x : FrameBound} (unit : FrameUnit) (hbegins : Begins .bound a)
    (h : Found .bound a x) : Found .frame (word unit.text :: a) ⟨unit, x, none⟩ := by
  obtain ⟨t, us, rfl, ht⟩ := hbegins
  intro rest _
  have hbetween : word "BETWEEN" ∉ ((t :: us) ++ rest).head? := fun hmem => ht (Option.some.inj hmem)
  apply Settles.of_succ
  rw [List.cons_append]
  simp only [read, unit?_cons, Option.bind_some, skip_eq_none hbetween]
  exact (h rest trivial).map _

theorem found_range {a b : List Token} {x y : FrameBound} (unit : FrameUnit) (hx : Found .bound a x)
    (hy : Found .bound b y) :
    Found .frame (word unit.text :: word "BETWEEN" :: (a ++ word "AND" :: b)) ⟨unit, x, some y⟩ := by
  intro rest _
  apply Settles.of_succ
  simp only [List.cons_append, List.append_assoc, read, unit?_cons, Option.bind_some, skip_cons]
  refine (hx _ trivial).bind ?_
  simp only [skip_cons, Option.bind_some]
  exact (hy rest trivial).map _

/-! ## Every derivation is found -/

variable {windows : Bool} {s : Symbol} {ts : List Token} {v v' : s.Value}

theorem Derives.found (h : Derives windows s ts v) : Found s ts v := by
  induction h with
  | tighter hl h ih => exact found_tighter hl h.begins ih
  | binary op _ _ ihl ihr => exact found_binary op ihl ihr
  | unary op _ ih => exact found_unary op ih
  | nullTest negated _ ih => exact found_nullTest negated ih
  | between negated _ _ _ ih ihlow ihhigh => exact found_between negated ih ihlow ihhigh
  | literal h => exact found_literal h
  | wildcard => exact found_wildcard
  | parens _ ih => exact found_parens ih
  | names h ih => exact found_names h.begins ih
  | name h => exact found_name h
  | qualified h _ ih => exact found_qualified h ih
  | call hf distinct hargs _ ihargs ihover => exact found_call hf distinct hargs.begins ihargs ihover
  | empty => exact found_empty _
  | elements h ih => exact found_elements h.begins ih
  | last _ ih => exact found_last ih
  | more _ _ ih ihrest => exact found_more ih ihrest
  | bare => exact found_bare
  | windowed _ _ ih => exact found_over ih
  | named h => exact found_named h
  | inline _ ih => exact found_inline ih
  | spec _ horder hframe ihes ihitems ihf => exact found_spec ihes ihitems ihf horder.begins hframe.begins
  | unpartitioned => exact found_unpartitioned
  | partitioned _ ih => exact found_partitioned ih
  | unordered => exact found_unordered
  | ordered _ ih => exact found_ordered ih
  | unframed => exact found_unframed
  | framed h ih => exact found_framed h.begins ih
  | item direction nulls _ ih => exact found_item direction nulls ih
  | currentRow => exact found_fixedBound fun _ => rfl
  | unboundedPreceding => exact found_fixedBound fun _ => rfl
  | unboundedFollowing => exact found_fixedBound fun _ => rfl
  | preceding h ih => exact found_offset h.begins ih (by decide) fun _ => rfl
  | following h ih => exact found_offset h.begins ih (by decide) fun _ => rfl
  | single unit h ih => exact found_single unit h.begins ih
  | range unit _ _ ihstart ihstop => exact found_range unit ihstart ihstop

/-- A list of tokens has at most one derivation from a symbol that can stand at the end. -/
theorem Derives.unique (h : Derives windows s ts v) (h' : Derives windows s ts v') (hs : Stops s []) :
    v = v' := by
  have hv := h.found.settles hs
  have hv' := h'.found.settles hs
  exact congrArg Prod.fst (hv.unique hv')

end SqlText
