import SqlText.Json.Encode
import SqlText.Proofs.Place

/-! # Writing as JSON and reading back

Every node is read back as it was written, except that no number stands for a float that is not
finite: a node with one in it, at any depth, cannot be read back. Such a node is never read from
anything either, so whatever has been read can be written and read again. -/

namespace SqlText

/-! ## Floats -/

namespace Binary64

theorem isFinite_of_bits_lt {x : Binary64} (h : x.bits.toNat < 0x7ff * exponentUnit) : x.isFinite = true := by
  have hfield : x.exponentField ≠ 0x7ff := by
    have hdiv : x.bits.toNat / exponentUnit < 0x7ff := (Nat.div_lt_iff_lt_mul (by decide)).mpr h
    exact Nat.ne_of_lt (Nat.lt_of_le_of_lt (Nat.mod_le _ _) hdiv)
  simpa [isFinite] using hfield

theorem isFinite_of_ofRatio? {num den : Nat} {x : Binary64} (h : ofRatio? num den = some x) :
    x.isFinite = true := by
  unfold ofRatio? at h
  dsimp only at h
  split at h
  next hlt =>
    obtain rfl := Option.some.inj h
    apply isFinite_of_bits_lt
    rw [Nat.toUInt64, UInt64.toNat_ofNat']
    exact Nat.lt_of_le_of_lt (Nat.mod_le _ _) hlt
  next => cases h

theorem exponentField_negate (x : Binary64) : x.negate.exponentField = x.exponentField := by
  have hfield (y : Binary64) : y.exponentField = y.bits.toNat >>> 52 % 2 ^ 11 := by
    have hunit : exponentUnit = 2 ^ 52 := by decide
    have hwidth : 0x800 = 2 ^ 11 := by decide
    rw [exponentField, hunit, hwidth, Nat.shiftRight_eq_div_pow]
  have hsign : (0x8000000000000000 : UInt64).toNat >>> 52 % 2 ^ 11 = 0 := by decide
  calc x.negate.exponentField
      = (x.bits.toNat ^^^ (0x8000000000000000 : UInt64).toNat) >>> 52 % 2 ^ 11 := by
        rw [hfield, negate, UInt64.toNat_xor]
    _ = x.bits.toNat >>> 52 % 2 ^ 11 := by
        rw [Nat.shiftRight_xor_distrib, Nat.xor_mod_two_pow, hsign, Nat.xor_zero]
    _ = x.exponentField := by rw [hfield]

theorem isFinite_of_ofInt? {n : Int} {x : Binary64} (h : ofInt? n = some x) : x.isFinite = true := by
  obtain ⟨y, hy, rfl⟩ := Option.map_eq_some_iff.mp h
  have hfinite := isFinite_of_ofRatio? hy
  split
  · rwa [isFinite, exponentField_negate]
  · exact hfinite

end Binary64

/-! ## Reading that depends on a condition -/

/-- `x` is `a` where `p` holds and nothing where it does not. -/
def Yields {α : Type} (x : Option α) (p : Prop) (a : α) : Prop := (p → x = some a) ∧ (¬ p → x = none)

namespace Yields

variable {α β : Type} {x : Option α} {p q : Prop} {a : α} {b : β}

theorem of_eq (hx : x = some a) (hp : p) : Yields x p a := ⟨fun _ => hx, fun h => absurd hp h⟩

theorem pure (a : α) : Yields (some a) True a := of_eq rfl trivial

theorem bind {f : α → Option β} (hx : Yields x p a) (hf : Yields (f a) q b) : Yields (x.bind f) (p ∧ q) b := by
  by_cases hp : p
  · rw [hx.1 hp]
    exact ⟨fun h => hf.1 h.2, fun h => hf.2 fun hq => h ⟨hp, hq⟩⟩
  · rw [hx.2 hp]
    exact ⟨fun h => absurd h.1 hp, fun _ => rfl⟩

theorem map (hx : Yields x p a) (f : α → β) : Yields (x.map f) p (f a) :=
  ⟨fun h => by rw [hx.1 h, Option.map_some], fun h => by rw [hx.2 h, Option.map_none]⟩

theorem congr (hx : Yields x p a) (h : p ↔ q) : Yields x q a :=
  ⟨fun hq => hx.1 (h.mpr hq), fun hq => hx.2 fun hp => hq (h.mp hp)⟩

theorem mapM {f : α → Option α} {p : α → Prop} {as : List α} (h : ∀ a ∈ as, Yields (f a) (p a) a) :
    Yields (as.mapM f) (∀ a ∈ as, p a) as := by
  induction as with
  | nil => exact (pure []).congr (by simp)
  | cons a as ih =>
    have hrest := ih fun b hb => h b (List.mem_cons_of_mem _ hb)
    have hcons : Yields (f a >>= fun b => List.mapM f as >>= fun bs => some (b :: bs))
        (p a ∧ (∀ b ∈ as, p b) ∧ True) (a :: as) :=
      (h a List.mem_cons_self).bind (hrest.bind (pure _))
    rw [List.mapM_cons]
    exact hcons.congr (by simp)

theorem optional {decode : Json → Option α} {encode : α → Json} {p : α → Prop}
    (hnull : ∀ a, (encode a).isNull = false) {o : Option α} (h : ∀ a ∈ o, Yields (decode (encode a)) (p a) a) :
    Yields (Json.optional? decode (.optional encode o)) (∀ a ∈ o, p a) o := by
  -- null stands for no value, so no value that is there may be written as null
  cases o with
  | none => exact (pure none).congr (by simp)
  | some a =>
    have hread : Json.optional? decode (.optional encode (some a)) = (decode (encode a)).map some := by
      rw [Json.optional, Json.optional?, hnull a]
      rfl
    rw [hread]
    exact ((h a rfl).map some).congr (by simp)

theorem of_map {f : α → β} (hf : ∀ {a b}, f a = f b → a = b) (h : Yields (x.map f) p (f a)) : Yields x p a := by
  refine ⟨fun hp => ?_, fun hp => Option.map_eq_none_iff.mp (h.2 hp)⟩
  obtain ⟨b, hb, hab⟩ := Option.map_eq_some_iff.mp (h.1 hp)
  rw [hb, hf hab]

end Yields

/-! ## Leaves -/

attribute [local simp] Json.tagged Json.values? Json.Field.find? Json.string? Json.bool?

theorem BinaryOp.ofJson?_toJson (op : BinaryOp) : ofJson? op.toJson = some op := by
  cases op <;> decide

theorem UnaryOp.ofJson?_toJson (op : UnaryOp) : ofJson? op.toJson = some op := by
  cases op <;> decide

theorem SortDirection.ofJson?_toJson (d : SortDirection) : ofJson? d.toJson = some d := by
  cases d <;> decide

theorem NullPlacement.ofJson?_toJson (p : NullPlacement) : ofJson? p.toJson = some p := by
  cases p <;> decide

theorem FrameUnit.ofJson?_toJson (u : FrameUnit) : ofJson? u.toJson = some u := by
  cases u <;> decide

theorem Json.optional?_optional {α : Type} {decode : Json → Option α} {encode : α → Json}
    (hnull : ∀ a, (encode a).isNull = false) (h : ∀ a, decode (encode a) = some a) (o : Option α) :
    optional? decode (.optional encode o) = some o :=
  (Yields.optional hnull fun a _ => .of_eq (h a) trivial).1 fun _ _ => trivial

theorem SortDirection.optional?_toJson (d : Option SortDirection) :
    Json.optional? ofJson? (.optional toJson d) = some d :=
  Json.optional?_optional (fun _ => rfl) ofJson?_toJson d

theorem NullPlacement.optional?_toJson (p : Option NullPlacement) :
    Json.optional? ofJson? (.optional toJson p) = some p :=
  Json.optional?_optional (fun _ => rfl) ofJson?_toJson p

theorem Identifier.ofJson?_toJson (i : Identifier) : ofJson? i.toJson = some i := by
  obtain ⟨value, quote⟩ := i
  have hquote : Json.optional? quoteOfJson? (.optional (fun q => .str (.singleton q)) quote) = some quote :=
    Json.optional?_optional (fun _ => rfl) (fun q => by simp [quoteOfJson?]) quote
  simp [toJson, ofJson?, jsonFields, hquote]

/-- A number can stand for it. -/
def Literal.IsFinite : Literal → Prop
  | float x => x.isFinite = true
  | _ => True

theorem Literal.yields (l : Literal) : Yields (ofJson? l.toJson) l.IsFinite l := by
  cases l with
  | integer n =>
    have hn : integerOfJson? (.int n.toInt) = some n := by
      rw [integerOfJson?, if_pos ⟨n.minValue_le_toInt, n.toInt_le⟩, Int64.ofInt_toInt]
    exact .of_eq (congrArg (Option.map integer) hn) trivial
  | float x =>
    cases hx : x.isFinite <;> simp [Yields, toJson, ofJson?, floatOfJson?, IsFinite, hx]
  | string s => exact .pure _
  | boolean b => exact .pure _
  | null => exact .pure _

theorem Literal.finite_of_ofJson? {j : Json} {l : Literal} (h : ofJson? j = some l) : l.IsFinite := by
  fun_cases Literal.ofJson? j <;>
    simp only [ofJson?, Option.map_eq_some_iff, Option.some.injEq, reduceCtorEq] at h
  case case5 | case6 =>
    obtain rfl := h
    trivial
  case case2 j =>
    obtain ⟨x, hx, rfl⟩ := h
    cases j with
    | int n => exact Binary64.isFinite_of_ofInt? hx
    | float y =>
      obtain ⟨hy, rfl⟩ : y.isFinite = true ∧ y = x := by simpa [floatOfJson?] using hx
      exact hy
    | _ => cases hx
  all_goals
    obtain ⟨_, -, rfl⟩ := h
    trivial

/-! ## Nodes -/

/-- No float in it is infinite or no number. -/
def Node.FiniteLiteral : Node → Prop
  | literal l => l.IsFinite
  | _ => True

/-- It is read back from what it is written as if its floats are finite, and only then. -/
def Node.Returns (n : Node) : Prop := Yields (ofJson? n.kind n.toJson) (n.Every FiniteLiteral) n

open Node (FiniteLiteral Returns)

theorem Node.Returns.expr {e : Expr} (h : (Node.expr e).Returns) :
    Yields (Expr.ofJson? e.toJson) ((Node.expr e).Every FiniteLiteral) e :=
  Yields.of_map Node.expr.inj h

theorem Node.Returns.identifier {i : Identifier} (h : (Node.identifier i).Returns) :
    Yields (Identifier.ofJson? i.toJson) ((Node.identifier i).Every FiniteLiteral) i :=
  Yields.of_map Node.identifier.inj h

theorem Node.Returns.windowSpec {s : WindowSpec} (h : (Node.windowSpec s).Returns) :
    Yields (WindowSpec.ofJson? s.toJson) ((Node.windowSpec s).Every FiniteLiteral) s :=
  Yields.of_map Node.windowSpec.inj h

theorem Node.Returns.frameBound {bound : FrameBound} (h : (Node.frameBound bound).Returns) :
    Yields (FrameBound.ofJson? bound.toJson) ((Node.frameBound bound).Every FiniteLiteral) bound :=
  Yields.of_map Node.frameBound.inj h

theorem Expr.listToJson_eq_map (es : List Expr) : listToJson es = es.map toJson := by
  induction es with
  | nil => rfl
  | cons e rest ih => rw [listToJson, ih, List.map_cons]

theorem OrderItem.listToJson_eq_map (items : List OrderItem) : listToJson items = items.map toJson := by
  induction items with
  | nil => rfl
  | cons x rest ih => rw [listToJson, ih, List.map_cons]

theorem Window.optionToJson_eq (w : Option Window) : optionToJson w = .optional toJson w := by cases w <;> rfl

theorem Frame.optionToJson_eq (f : Option Frame) : optionToJson f = .optional toJson f := by cases f <;> rfl

theorem FrameBound.optionToJson_eq (bound : Option FrameBound) : optionToJson bound = .optional toJson bound := by
  cases bound <;> rfl

theorem OrderItem.optionToJson_eq (items : Option (List OrderItem)) :
    optionToJson items = .optional (fun xs => .arr (listToJson xs)) items := by
  cases items <;> rfl

theorem Expr.yields_list {es : List Expr} (h : ∀ e ∈ es, (Node.expr e).Returns) :
    Yields (listOfJson? (.arr (listToJson es))) (∀ e ∈ es, (Node.expr e).Every FiniteLiteral) es := by
  rw [listToJson_eq_map, listOfJson?_eq, Json.array?, Option.bind_some, List.mapM_map]
  exact Yields.mapM fun e he => (h e he).expr

theorem OrderItem.yields_list {items : List OrderItem} (h : ∀ x ∈ items, (Node.orderItem x).Returns) :
    Yields (listOfJson? (.arr (listToJson items))) (∀ x ∈ items, (Node.orderItem x).Every FiniteLiteral) items := by
  rw [listToJson_eq_map, listOfJson?_eq, Json.array?, Option.bind_some, List.mapM_map]
  exact Yields.mapM fun x hx => .of_map Node.orderItem.inj (h x hx)

theorem Expr.yields {e : Expr} (h : ∀ m ∈ e.children, m.Returns) :
    Yields (ofJson? e.toJson) (∀ m ∈ e.children, m.Every FiniteLiteral) e := by
  cases e with
  | literal l =>
    have hl : Yields (Literal.ofJson? l.toJson) _ l := .of_map Node.literal.inj (h (.literal l) (by simp [children]))
    have hj : ofJson? (toJson (.literal l)) = (Literal.ofJson? l.toJson).map literal := by
      rw [toJson, Json.tagged, ofJson?]
    rw [hj]
    exact (hl.map literal).congr (by simp [children])
  | identifier i =>
    have hi := (h (.identifier i) (by simp [children])).identifier
    have hj : ofJson? (toJson (.identifier i)) = (Identifier.ofJson? i.toJson).map identifier := by
      rw [toJson, Json.tagged, ofJson?]
    rw [hj]
    exact (hi.map identifier).congr (by simp [children])
  | compound parts =>
    have hparts : Yields (parts.mapM fun i => Identifier.ofJson? i.toJson) _ parts :=
      Yields.mapM fun i hi => (h (.identifier i) (by simp [children, hi])).identifier
    have hj : ofJson? (toJson (.compound parts)) =
        (parts.mapM fun i => Identifier.ofJson? i.toJson).map compound := by
      simp [toJson, ofJson?, Function.comp_def]
    rw [hj]
    exact (hparts.map compound).congr (by simp [children])
  | binary l op r =>
    have hl := (h (.expr l) (by simp [children])).expr
    have hr := (h (.expr r) (by simp [children])).expr
    have hj : ofJson? (toJson (.binary l op r)) =
        (ofJson? l.toJson).bind fun l => (ofJson? r.toJson).bind fun r => some (.binary l op r) := by
      simp [toJson, ofJson?, binaryOfJson?_eq, binaryFields, BinaryOp.ofJson?_toJson, Option.map_bind,
        Function.comp_def]
    rw [hj]
    exact (hl.bind (hr.bind (.pure (binary l op r)))).congr (by simp [children])
  | unary op e =>
    have he := (h (.expr e) (by simp [children])).expr
    have hj : ofJson? (toJson (.unary op e)) = (ofJson? e.toJson).bind fun e => some (.unary op e) := by
      simp [toJson, ofJson?, unaryOfJson?_eq, unaryFields, UnaryOp.ofJson?_toJson, Option.map_bind,
        Function.comp_def]
    rw [hj]
    exact (he.bind (.pure (unary op e))).congr (by simp [children])
  | call c =>
    have hc : Yields (Call.ofJson? c.toJson) _ c := .of_map Node.call.inj (h (.call c) (by simp [children]))
    have hj : ofJson? (toJson (.call c)) = (Call.ofJson? c.toJson).map call := by
      rw [toJson, Json.tagged, ofJson?]
    rw [hj]
    exact (hc.map call).congr (by simp [children])
  | nested e =>
    have he := (h (.expr e) (by simp [children])).expr
    have hj : ofJson? (toJson (.nested e)) = (ofJson? e.toJson).map nested := by
      rw [toJson, Json.tagged, ofJson?]
    rw [hj]
    exact (he.map nested).congr (by simp [children])
  | nullTest e negated =>
    have he := (h (.expr e) (by simp [children])).expr
    have hj : ofJson? (toJson (.nullTest e negated)) =
        (ofJson? e.toJson).bind fun e => some (.nullTest e negated) := by
      simp [toJson, ofJson?, nullTestOfJson?_eq, nullTestFields, Option.map_bind, Function.comp_def]
    rw [hj]
    exact (he.bind (.pure (nullTest e negated))).congr (by simp [children])
  | between e low high negated =>
    have he := (h (.expr e) (by simp [children])).expr
    have hlow := (h (.expr low) (by simp [children])).expr
    have hhigh := (h (.expr high) (by simp [children])).expr
    have hj : ofJson? (toJson (.between e low high negated)) =
        (ofJson? e.toJson).bind fun e => (ofJson? low.toJson).bind fun low =>
          (ofJson? high.toJson).bind fun high => some (.between e low high negated) := by
      simp [toJson, ofJson?, betweenOfJson?_eq, betweenFields, Option.map_bind, Function.comp_def]
    rw [hj]
    exact (he.bind (hlow.bind (hhigh.bind (.pure (between e low high negated))))).congr (by simp [children])
  | wildcard => exact .of_eq (by rw [toJson, ofJson?]) (by simp [children])

theorem Window.isNull_toJson (w : Window) : w.toJson.isNull = false := by cases w <;> rfl

theorem Frame.isNull_toJson (f : Frame) : f.toJson.isNull = false := by cases f; rfl

theorem FrameBound.isNull_toJson (bound : FrameBound) : bound.toJson.isNull = false := by cases bound <;> rfl

theorem Expr.toJson_ne_null (e : Expr) : e.toJson ≠ .null := by
  cases e <;> simp [toJson]

theorem Call.yields {c : Call} (h : ∀ m ∈ (Node.call c).children, m.Returns) :
    Yields (ofJson? c.toJson) (∀ m ∈ (Node.call c).children, m.Every FiniteLiteral) c := by
  obtain ⟨name, args, distinct, window⟩ := c
  have hargs := Expr.yields_list fun e he => h (.expr e) (by simpa [Node.children] using he)
  have hwindow := Yields.optional Window.isNull_toJson fun w (hw : w ∈ window) =>
    .of_map Node.window.inj (h (.window w) (by simpa [Node.children] using hw))
  have hj : ofJson? (toJson ⟨name, args, distinct, window⟩) =
      (Expr.listOfJson? (.arr (Expr.listToJson args))).bind fun args =>
        (Json.optional? Window.ofJson? (.optional Window.toJson window)).bind fun window =>
          some ⟨name, args, distinct, window⟩ := by
    simp [toJson, ofJson?_eq, jsonFields, Window.optionToJson_eq]
  rw [hj]
  refine (hargs.bind (hwindow.bind (.pure (Call.mk name args distinct window)))).congr ?_
  simp [Node.children, or_imp, forall_and]

theorem Window.yields {w : Window} (h : ∀ m ∈ (Node.window w).children, m.Returns) :
    Yields (ofJson? w.toJson) (∀ m ∈ (Node.window w).children, m.Every FiniteLiteral) w := by
  cases w with
  | inline s =>
    have hs := (h (.windowSpec s) (by simp [Node.children])).windowSpec
    have hj : ofJson? (toJson (.inline s)) = (WindowSpec.ofJson? s.toJson).map inline := by
      rw [toJson, Json.tagged, ofJson?]
    rw [hj]
    exact (hs.map inline).congr (by simp [Node.children])
  | named i =>
    have hi := (h (.identifier i) (by simp [Node.children])).identifier
    have hj : ofJson? (toJson (.named i)) = (Identifier.ofJson? i.toJson).map named := by
      rw [toJson, Json.tagged, ofJson?]
    rw [hj]
    exact (hi.map named).congr (by simp [Node.children])

theorem WindowSpec.yields {s : WindowSpec} (h : ∀ m ∈ s.children, m.Returns) :
    Yields (ofJson? s.toJson) (∀ m ∈ s.children, m.Every FiniteLiteral) s := by
  obtain ⟨es, items, frame⟩ := s
  have hes := Expr.yields_list fun e (he : e ∈ es) => h (.expr e) (by simp [children, he])
  let encode (xs : List OrderItem) := Json.arr (OrderItem.listToJson xs)
  have hitems : Yields (Json.optional? OrderItem.listOfJson? (.optional encode items)) _ items :=
    .optional (fun _ => rfl) fun xs hxs => OrderItem.yields_list fun x hx =>
      h (.orderItem x) (by simp [children, Option.mem_def.mp hxs, hx])
  have hframe := Yields.optional Frame.isNull_toJson fun f (hf : f ∈ frame) =>
    .of_map Node.frame.inj (h (.frame f) (by simpa [children] using hf))
  have hj : ofJson? (toJson ⟨es, items, frame⟩) =
      (Expr.listOfJson? (.arr (Expr.listToJson es))).bind fun es =>
        (Json.optional? OrderItem.listOfJson? (.optional encode items)).bind fun items =>
          (Json.optional? Frame.ofJson? (.optional Frame.toJson frame)).bind fun frame =>
            some ⟨es, items, frame⟩ := by
    simp [toJson, ofJson?_eq, jsonFields, OrderItem.optionToJson_eq, Frame.optionToJson_eq, encode]
  rw [hj]
  refine (hes.bind (hitems.bind (hframe.bind (.pure (WindowSpec.mk es items frame))))).congr ?_
  cases items <;> simp [children, or_imp, forall_and]

theorem OrderItem.yields {x : OrderItem} (h : ∀ m ∈ (Node.orderItem x).children, m.Returns) :
    Yields (ofJson? x.toJson) (∀ m ∈ (Node.orderItem x).children, m.Every FiniteLiteral) x := by
  obtain ⟨e, direction, nulls⟩ := x
  have he := (h (.expr e) (by simp [Node.children])).expr
  have hj : ofJson? (toJson ⟨e, direction, nulls⟩) =
      (Expr.ofJson? e.toJson).bind fun e => some ⟨e, direction, nulls⟩ := by
    simp [toJson, ofJson?_eq, jsonFields, SortDirection.optional?_toJson, NullPlacement.optional?_toJson]
  rw [hj]
  exact (he.bind (.pure (OrderItem.mk e direction nulls))).congr (by simp [Node.children])

theorem FrameBound.yields {bound : FrameBound} (h : ∀ m ∈ bound.children, m.Returns) :
    Yields (ofJson? bound.toJson) (∀ m ∈ bound.children, m.Every FiniteLiteral) bound := by
  cases bound with
  | currentRow => exact .of_eq (by rw [toJson, ofJson?]) (by simp [children])
  | unboundedPreceding => exact .of_eq (by rw [toJson, Json.tagged, ofJson?]) (by simp [children])
  | unboundedFollowing => exact .of_eq (by rw [toJson, Json.tagged, ofJson?]) (by simp [children])
  | preceding offset =>
    have ho := (h (.expr offset) (by simp [children])).expr
    have hj : ofJson? (toJson (.preceding offset)) = (Expr.ofJson? offset.toJson).map preceding := by
      rw [toJson, Json.tagged, ofJson?]
      exact offset.toJson_ne_null
    rw [hj]
    exact (ho.map preceding).congr (by simp [children])
  | following offset =>
    have ho := (h (.expr offset) (by simp [children])).expr
    have hj : ofJson? (toJson (.following offset)) = (Expr.ofJson? offset.toJson).map following := by
      rw [toJson, Json.tagged, ofJson?]
      exact offset.toJson_ne_null
    rw [hj]
    exact (ho.map following).congr (by simp [children])

theorem Frame.yields {f : Frame} (h : ∀ m ∈ (Node.frame f).children, m.Returns) :
    Yields (ofJson? f.toJson) (∀ m ∈ (Node.frame f).children, m.Every FiniteLiteral) f := by
  obtain ⟨unit, start, stop⟩ := f
  have hunit : (Node.frameUnit unit).Every FiniteLiteral := (Node.every_of_children_nil rfl).mpr trivial
  have hstart := (h (.frameBound start) (by simp [Node.children])).frameBound
  have hstop := Yields.optional FrameBound.isNull_toJson fun bound (hbound : bound ∈ stop) =>
    (h (.frameBound bound) (by simp [Node.children, Option.mem_def.mp hbound])).frameBound
  have hj : ofJson? (toJson ⟨unit, start, stop⟩) = (FrameBound.ofJson? start.toJson).bind fun start =>
      (Json.optional? FrameBound.ofJson? (.optional FrameBound.toJson stop)).bind fun stop =>
        some ⟨unit, start, stop⟩ := by
    simp [toJson, ofJson?_eq, jsonFields, FrameBound.optionToJson_eq, FrameUnit.ofJson?_toJson]
  rw [hj]
  refine (hstart.bind (hstop.bind (.pure (Frame.mk unit start stop)))).congr ?_
  simp [Node.children, hunit]

theorem NamedWindow.yields {w : NamedWindow} (h : ∀ m ∈ (Node.namedWindow w).children, m.Returns) :
    Yields (ofJson? w.toJson) (∀ m ∈ (Node.namedWindow w).children, m.Every FiniteLiteral) w := by
  obtain ⟨name, spec⟩ := w
  have hname := (h (.identifier name) (by simp [Node.children])).identifier
  have hspec := (h (.windowSpec spec) (by simp [Node.children])).windowSpec
  have hj : ofJson? (toJson ⟨name, spec⟩) = (Identifier.ofJson? name.toJson).bind fun name =>
      (WindowSpec.ofJson? spec.toJson).bind fun spec => some ⟨name, spec⟩ := by
    simp [toJson, ofJson?, jsonFields]
  rw [hj]
  exact (hname.bind (hspec.bind (.pure (NamedWindow.mk name spec)))).congr (by simp [Node.children])

theorem Node.returns_of_children {n : Node} (hn : n.FiniteLiteral)
    (h : Yields (ofJson? n.kind n.toJson) (∀ m ∈ n.children, m.Every FiniteLiteral) n) : n.Returns :=
  h.congr (by rw [every_iff, and_iff_right hn])

theorem Node.returns (n : Node) : n.Returns := by
  induction n using Node.induct with
  | step n ih =>
    cases n with
    | identifier i =>
      exact .of_eq (congrArg (Option.map identifier) i.ofJson?_toJson) ((every_of_children_nil rfl).mpr trivial)
    | frameUnit u =>
      exact .of_eq (congrArg (Option.map frameUnit) u.ofJson?_toJson) ((every_of_children_nil rfl).mpr trivial)
    | literal l =>
      have hleaf : (literal l).Every FiniteLiteral ↔ l.IsFinite := every_of_children_nil rfl
      exact (l.yields.map literal).congr hleaf.symm
    | expr e => exact returns_of_children trivial ((Expr.yields ih).map expr)
    | call c => exact returns_of_children trivial ((Call.yields ih).map call)
    | window w => exact returns_of_children trivial ((Window.yields ih).map window)
    | windowSpec s => exact returns_of_children trivial ((WindowSpec.yields ih).map windowSpec)
    | orderItem x => exact returns_of_children trivial ((OrderItem.yields ih).map orderItem)
    | frameBound bound => exact returns_of_children trivial ((FrameBound.yields ih).map frameBound)
    | frame f => exact returns_of_children trivial ((Frame.yields ih).map frame)
    | namedWindow w => exact returns_of_children trivial ((NamedWindow.yields ih).map namedWindow)

theorem Node.Readable.finite {n : Node} (h : n.Readable) : n.Every FiniteLiteral := by
  refine h.every.mono fun m hm => ?_
  cases m with
  | literal l =>
    obtain ⟨j, hj⟩ := hm
    exact Literal.finite_of_ofJson? (by simpa [ofJson?, kind] using hj)
  | _ => trivial

/-- A node is read back as it was written if all its floats are finite and not at all otherwise; and
what has been read is read again when it is written. -/
theorem Node.json_round_trip (n : Node) :
    (n.Every FiniteLiteral → ofJson? n.kind n.toJson = some n) ∧
      (¬ n.Every FiniteLiteral → ofJson? n.kind n.toJson = none) ∧
      ∀ kind j, ofJson? kind j = some n → ofJson? kind n.toJson = some n := by
  refine ⟨n.returns.1, n.returns.2, fun kind j h => ?_⟩
  obtain rfl := kind_of_ofJson? h
  exact n.returns.1 (Readable.finite ⟨j, h⟩)

/-- With a finite float, with one that is not, and read from an array. -/
theorem window_json_round_trip :
    let finite := Node.windowSpec ⟨[.literal (.float ⟨0x4000000000000000⟩)], some [], none⟩
    let infinite := Node.windowSpec ⟨[.literal (.float ⟨0x7ff0000000000000⟩)], some [], none⟩
    let empty := Node.windowSpec ⟨[], none, none⟩
    Node.ofJson? .windowSpec finite.toJson = some finite ∧ Node.ofJson? .windowSpec infinite.toJson = none ∧
      Node.ofJson? .windowSpec empty.toJson = some empty := by
  intro finite infinite empty
  have hread : Node.ofJson? .windowSpec (.arr [.arr [], .null, .null]) = some empty := by cbv
  refine ⟨(Node.json_round_trip finite).1 ?_, (Node.json_round_trip infinite).2.1 fun h => ?_,
    (Node.json_round_trip empty).2.2 _ _ hread⟩
  · have htwo : (⟨0x4000000000000000⟩ : Binary64).isFinite = true := by decide
    simp [finite, Node.FiniteLiteral, Literal.IsFinite, htwo]
  · have hinfinity : (⟨0x7ff0000000000000⟩ : Binary64).isFinite = false := by decide
    simp [infinite, Node.FiniteLiteral, Literal.IsFinite, hinfinity] at h

end SqlText
