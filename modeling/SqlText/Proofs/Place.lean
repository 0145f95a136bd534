import SqlText.Proofs.Record

/-! # Where a part has been read from

A part is read from a value inside the one that the node around it is read from. What becomes of the whole
depends on such a value only by the part in it, and without a part in it there is no whole. -/

namespace SqlText

theorem Json.isNull_eq_false_iff {j : Json} : j.isNull = false ↔ j ≠ .null := by
  cases j <;> simp [isNull]

/-! ## Holes -/

/-- `f x` holds what is to be read as a part from `x`. -/
inductive Content.Hole : Content → (Json → Json) → Part.Kind → Prop where
  | part (kind : Part.Kind) : Hole (.part kind) id kind
  | element (kind : Part.Kind) (xs ys : List Json) : Hole (.parts kind) (fun x => .arr (xs ++ x :: ys)) kind

namespace Content.Hole

variable {content : Content} {f : Json → Json} {below : Part.Kind} {x x' : Json}

theorem filled (h : content.Hole f below) (hx : x.isNull = false) : (f x).isNull = false := by
  cases h with
  | part => exact hx
  | element => rfl

theorem congr (h : content.Hole f below) (heq : Part.ofJson? below x = Part.ofJson? below x') :
    content.read? (f x) = content.read? (f x') := by
  cases h with
  | part => simp only [read?, id_eq, heq]
  | element => simp only [read?, Json.array?, Option.bind_some, List.mapM_append, List.mapM_cons, heq]

theorem strict (h : content.Hole f below) (hnone : Part.ofJson? below x = none) : content.read? (f x) = none := by
  cases h with
  | part => rw [read?, id_eq, hnone, Option.map_none]
  | element kind xs ys =>
    have hmem : x ∈ xs ++ x :: ys := List.mem_append_right _ List.mem_cons_self
    rw [read?, Json.array?, Option.bind_some, mapM_eq_none hmem hnone, Option.map_none]

end Content.Hole

theorem Content.exists_hole {content : Content} {j : Json} {v : Value} (h : content.read? j = some v) {p : Part}
    (hp : p ∈ v.inside) : ∃ f x, content.Hole f p.kind ∧ f x = j ∧ Part.ofJson? p.kind x = some p := by
  cases content with
  | part kind =>
    obtain ⟨q, hq, rfl⟩ := Option.map_eq_some_iff.mp h
    obtain rfl := List.mem_singleton.mp hp
    obtain rfl := Part.kind_of_ofJson? hq
    exact ⟨id, j, .part _, rfl, hq⟩
  | parts kind =>
    obtain ⟨ps, hps, rfl⟩ := Option.map_eq_some_iff.mp h
    obtain ⟨js, hjs, hps⟩ := Option.bind_eq_some_iff.mp hps
    obtain ⟨x, hx, hxp⟩ := Json.mem_of_mapM_eq_some hps hp
    obtain rfl := Part.kind_of_ofJson? hxp
    obtain ⟨xs, ys, rfl⟩ := List.append_of_mem hx
    cases j with
    | arr elements =>
      obtain rfl := Option.some.inj hjs
      exact ⟨_, x, .element _ xs ys, rfl, hxp⟩
    | _ => cases hjs
  | text | flag | quote =>
    obtain ⟨a, -, rfl⟩ := Option.map_eq_some_iff.mp h
    cases hp

/-! ## Slots -/

/-- The cases that hold one value, which has no name of its own. -/
def Node.variants : List (Kind × String × Content) :=
  [(.expr, "Literal", .part (.node .literal)), (.expr, "Identifier", .part (.node .identifier)),
    (.expr, "CompoundIdentifier", .parts (.node .identifier)), (.expr, "Function", .part (.node .call)),
    (.expr, "Nested", .part (.node .expr)), (.window, "WindowSpec", .part (.node .windowSpec)),
    (.window, "NamedWindow", .part (.node .identifier)), (.frameBound, "Preceding", .part (.node .expr)),
    (.frameBound, "Following", .part (.node .expr))]

/-- A node of kind `kind` that is read from `plug x` has a part of kind `below` directly in it, read from `x`. -/
inductive Slot : Part.Kind → (Json → Json) → Part.Kind → Prop where
  | variant {kind : Node.Kind} {name : String} {content : Content} {f : Json → Json} {below : Part.Kind}
      (h : (kind, name, content) ∈ Node.variants) (hole : content.Hole f below) :
      Slot (.node kind) (fun x => .obj [(name, f x)]) below
  | member {record : Record} {field : Field} {f : Json → Json} {below : Part.Kind}
      (hfield : field ∈ record.fields) (hole : field.content.Hole f below) (before after : List (String × Json)) :
      Slot (.node record.kind) (fun x => record.json (.obj (before ++ (field.name, f x) :: after))) below
  | position {record : Record} {fields fields' : List Field} {field : Field} {f : Json → Json} {below : Part.Kind}
      (hfields : record.fields = fields ++ field :: fields') (hole : field.content.Hole f below)
      {before : List Json} (hbefore : before.length = fields.length) (after : List Json) :
      Slot (.node record.kind) (fun x => record.json (.arr (before ++ f x :: after))) below

/-- Null is left out: in an optional field it is a value of its own. -/
structure Passes (kind : Part.Kind) (plug : Json → Json) (below : Part.Kind) : Prop where
  congr : ∀ {x x'}, x.isNull = false → x'.isNull = false → Part.ofJson? below x = Part.ofJson? below x' →
    Part.ofJson? kind (plug x) = Part.ofJson? kind (plug x')
  strict : ∀ {x}, x.isNull = false → Part.ofJson? below x = none → Part.ofJson? kind (plug x) = none
  filled : ∀ {x}, x.isNull = false → (plug x).isNull = false

/-- What `r` reads under a name is wrapped up as a node with the same parts. Only a bound may be null there. -/
structure Wraps {α : Type} (kind : Node.Kind) (name : String) (r : Reader α) (wrap : α → Node) : Prop where
  ofJson? : ∀ y, y.isNull = false ∨ kind ≠ .frameBound → Node.ofJson? kind (.obj [(name, y)]) = (r.decode y).map wrap
  parts : ∀ a, ∀ p ∈ (wrap a).parts, p ∈ (r.value a).inside

theorem Node.exists_wraps {kind : Kind} {name : String} {content : Content} (h : (kind, name, content) ∈ variants) :
    ∃ (α : Type) (r : Reader α) (wrap : α → Node), r.content = content ∧ Wraps kind name r wrap := by
  simp only [variants, List.mem_cons, Prod.mk.injEq, List.not_mem_nil, or_false] at h
  rcases h with ⟨rfl, rfl, rfl⟩ | ⟨rfl, rfl, rfl⟩ | ⟨rfl, rfl, rfl⟩ | ⟨rfl, rfl, rfl⟩ | ⟨rfl, rfl, rfl⟩ |
    ⟨rfl, rfl, rfl⟩ | ⟨rfl, rfl, rfl⟩ | ⟨rfl, rfl, rfl⟩ | ⟨rfl, rfl, rfl⟩
  · refine ⟨_, .literal, fun l => expr (.literal l), rfl, fun y _ => ?_, fun _ _ hp => hp⟩
    rw [ofJson?, Expr.ofJson?, Option.map_map]
    rfl
  · refine ⟨_, .identifier, fun i => expr (.identifier i), rfl, fun y _ => ?_, fun _ _ hp => hp⟩
    rw [ofJson?, Expr.ofJson?, Option.map_map]
    rfl
  · refine ⟨_, .identifiers, fun is => expr (.compound is), rfl, fun y _ => ?_, fun is p hp => ?_⟩
    · rw [ofJson?]
      cases y <;> simp [Expr.ofJson?, Reader.identifiers, Reader.parts, Json.array?, Function.comp_def]
    · simpa [Node.parts, children, Expr.children, marks, Reader.identifiers, Reader.parts] using hp
  · refine ⟨_, .call, fun c => expr (.call c), rfl, fun y _ => ?_, fun _ _ hp => hp⟩
    rw [ofJson?, Expr.ofJson?, Option.map_map]
    rfl
  · refine ⟨_, .expr, fun e => expr (.nested e), rfl, fun y _ => ?_, fun _ _ hp => hp⟩
    rw [ofJson?, Expr.ofJson?, Option.map_map]
    rfl
  · refine ⟨_, .windowSpec, fun s => window (.inline s), rfl, fun y _ => ?_, fun _ _ hp => hp⟩
    rw [ofJson?, Window.ofJson?, Option.map_map]
    rfl
  · refine ⟨_, .identifier, fun i => window (.named i), rfl, fun y _ => ?_, fun _ _ hp => hp⟩
    rw [ofJson?, Window.ofJson?, Option.map_map]
    rfl
  · refine ⟨_, .expr, fun e => frameBound (.preceding e), rfl, fun y hy => ?_, fun _ _ hp => hp⟩
    rw [ofJson?, FrameBound.ofJson?, Option.map_map]
    · rfl
    · rintro rfl
      simp [Json.isNull] at hy
  · refine ⟨_, .expr, fun e => frameBound (.following e), rfl, fun y hy => ?_, fun _ _ hp => hp⟩
    rw [ofJson?, FrameBound.ofJson?, Option.map_map]
    · rfl
    · rintro rfl
      simp [Json.isNull] at hy

section

variable {content : Content} {f : Json → Json} {below : Part.Kind}

theorem Passes.of_variant {kind : Node.Kind} {name : String} (h : (kind, name, content) ∈ Node.variants)
    (hole : content.Hole f below) : Passes (.node kind) (fun x => .obj [(name, f x)]) below := by
  obtain ⟨α, r, wrap, rfl, hwraps⟩ := Node.exists_wraps h
  refine ⟨fun {x x'} hx hx' heq => ?_, fun {x} hx hnone => ?_, fun _ => rfl⟩
  · have hread := hole.congr heq
    rw [r.read?_eq, r.read?_eq] at hread
    have hdecode := Option.map_injective (fun _ _ => r.injective _ _) hread
    rw [Part.ofJson?, Part.ofJson?, hwraps.ofJson? _ (.inl (hole.filled hx)),
      hwraps.ofJson? _ (.inl (hole.filled hx')), hdecode]
  · have hread := hole.strict hnone
    rw [r.read?_eq, Option.map_eq_none_iff] at hread
    rw [Part.ofJson?, hwraps.ofJson? _ (.inl (hole.filled hx)), hread, Option.map_none, Option.map_none]

theorem Record.isNull_json {record : Record} {body : Json} (h : body.isNull = false) :
    (record.json body).isNull = false := by
  cases record <;> first | exact h | rfl

theorem Passes.of_field {record : Record} {fields fields' : List Field} {field : Field}
    (hfields : record.fields = fields ++ field :: fields') (hole : field.content.Hole f below)
    (body : Json → Json) (hbody : ∀ x, (body x).isNull = false)
    (hvalues : ∃ o : Option (List Json × List Json), (∀ around ∈ o, around.1.length = fields.length) ∧
      ∀ x, (body x).values? record.jsonFields = o.map fun around => around.1 ++ x :: around.2) :
    Passes (.node record.kind) (fun x => record.json (body (f x))) below := by
  -- the record depends on what is in the field, wherever that is found
  obtain ⟨o, hlength, hvalues⟩ := hvalues
  have hread (x : Json) : record.read? (body x) = o.bind fun around => (Field.readAll fields around.1).bind fun vs =>
      (field.read? x).bind fun v => (Field.readAll fields' around.2).map fun vs' => vs ++ v :: vs' := by
    rw [Record.read?, hvalues, hfields]
    cases o with
    | none => rfl
    | some around => exact Field.readAll_append (hlength around rfl)
  refine ⟨fun {x x'} hx hx' heq => ?_, fun {x} hx hnone => ?_, fun _ => Record.isNull_json (hbody _)⟩
  · have hsame : field.read? (f x) = field.read? (f x') := by
      rw [Field.read?_of_filled (hole.filled hx), Field.read?_of_filled (hole.filled hx'), hole.congr heq]
    have hvalues : record.read? (body (f x)) = record.read? (body (f x')) := by rw [hread, hread, hsame]
    rw [Part.ofJson?, Part.ofJson?, Record.ofJson?_congr hvalues]
  · have hfield : field.read? (f x) = none := by
      rw [Field.read?_of_filled (hole.filled hx), hole.strict hnone]
    rw [Part.ofJson?, Record.ofJson?_eq_none, Option.map_none]
    simp only [hread, hfield, Option.bind_none, Option.bind_fun_none]

end

theorem Slot.passes {kind below : Part.Kind} {plug : Json → Json} (h : Slot kind plug below) :
    Passes kind plug below := by
  cases h with
  | variant h hole => exact .of_variant h hole
  | @member record field f below hfield hole before after =>
    obtain ⟨fields, fields', hfields⟩ := List.append_of_mem hfield
    have hjson : record.jsonFields = fields.map Field.toField ++ field.toField :: fields'.map Field.toField := by
      rw [Record.jsonFields, hfields, List.map_append, List.map_cons]
    obtain ⟨o, hlength, hvalues⟩ := Json.values?_insert_self (hjson ▸ record.nodup_jsonFields)
    refine .of_field hfields hole (fun x => .obj (before ++ (field.name, x) :: after)) (fun _ => rfl)
      ⟨o, fun around haround => ?_, fun x => ?_⟩
    · rw [hlength around haround, List.length_map]
    · rw [hjson, hvalues]
  | @position record fields fields' field f below hfields hole before hbefore after =>
    obtain ⟨o, hlength, hvalues⟩ := Json.values?_insert_at before after record.jsonFields
    exact .of_field hfields hole (fun x => .arr (before ++ x :: after)) (fun _ => rfl)
      ⟨o, fun around haround => (hlength around haround).trans hbefore, hvalues⟩

/-! ## Places -/

/-- The same at any depth. -/
inductive Place : Part.Kind → (Json → Json) → Part.Kind → Prop where
  | here (kind : Part.Kind) : Place kind id kind
  | inside {kind middle below : Part.Kind} {plug plug' : Json → Json} (slot : Slot kind plug middle)
      (place : Place middle plug' below) : Place kind (plug ∘ plug') below

theorem Place.passes {kind below : Part.Kind} {plug : Json → Json} (h : Place kind plug below) :
    Passes kind plug below := by
  induction h with
  | here kind => exact ⟨fun _ _ heq => heq, fun _ hnone => hnone, id⟩
  | inside slot place ih =>
    have hslot := slot.passes
    exact ⟨fun hx hx' heq => hslot.congr (ih.filled hx) (ih.filled hx') (ih.congr hx hx' heq),
      fun hx hnone => hslot.strict (ih.filled hx) (ih.strict hx hnone), fun hx => hslot.filled (ih.filled hx)⟩

theorem Place.trans {kind middle below : Part.Kind} {plug plug' : Json → Json} (h : Place kind plug middle)
    (h' : Place middle plug' below) : Place kind (plug ∘ plug') below := by
  induction h with
  | here => exact h'
  | inside slot _ ih =>
    have hwhole := Place.inside slot (ih h')
    exact hwhole

section

variable {kind below : Node.Kind} {plug : Json → Json} {x x' : Json}

theorem Place.congr (h : Place (.node kind) plug (.node below)) (hx : x.isNull = false) (hx' : x'.isNull = false)
    (heq : Node.ofJson? below x = Node.ofJson? below x') :
    Node.ofJson? kind (plug x) = Node.ofJson? kind (plug x') := by
  have hpart := h.passes.congr hx hx' (congrArg (Option.map Part.node) heq)
  exact Option.map_injective (fun _ _ => Part.node.inj) hpart

theorem Place.strict {below : Part.Kind} (h : Place (.node kind) plug below) (hx : x.isNull = false)
    (hnone : Part.ofJson? below x = none) : Node.ofJson? kind (plug x) = none :=
  Option.map_eq_none_iff.mp (h.passes.strict hx hnone)

end

/-! ## Everything has its place -/

namespace Node

/-- Right below what a node of kind `kind` is read from, there is something for `p`. -/
def Found (kind : Kind) (j : Json) (p : Part) : Prop :=
  ∃ plug x, Slot (.node kind) plug p.kind ∧ plug x = j ∧ Part.ofJson? p.kind x = some p

namespace Found

variable {n : Node} {p : Part}

theorem of_record (record : Record) {body : Json}
    (h : Node.ofJson? record.kind (record.json body) = some n) (hp : p ∈ n.parts) :
    Found record.kind (record.json body) p := by
  obtain ⟨vs, hvs, hparts⟩ := record.exists_values h
  obtain ⟨v, hv, hpv⟩ := hparts p hp
  obtain ⟨js, hjs, hvs⟩ := Option.bind_eq_some_iff.mp hvs
  obtain ⟨fields, field, fields', left, y, right, hfields, rfl, hlength, hy⟩ := Field.exists_of_mem_readAll hvs hv
  obtain ⟨f, x, hole, rfl, hx⟩ := Content.exists_hole (Field.content_read?_of_mem_inside hy hpv) hpv
  cases body with
  | arr elements =>
    simp only [Json.values?, Option.ite_none_right_eq_some, Option.some.injEq] at hjs
    obtain ⟨-, rfl⟩ := hjs
    exact ⟨_, x, .position hfields hole hlength right, rfl, hx⟩
  | obj members =>
    rw [Record.jsonFields, hfields, List.map_append, List.map_cons] at hjs
    rcases Json.Field.omitted_or_mem_of_find? (Json.find?_of_values? hjs (by rw [hlength, List.length_map]))
      with ⟨hoptional, hnull⟩ | hmem
    · rw [hnull, Field.read?_null hoptional] at hy
      obtain rfl := Option.some.inj hy
      cases hpv
    · obtain ⟨before, after, rfl⟩ := List.append_of_mem hmem
      have hfield : field ∈ record.fields := hfields ▸ List.mem_append_right _ List.mem_cons_self
      exact ⟨_, x, .member hfield hole before after, rfl, hx⟩
  | _ => cases hjs

theorem of_variant {kind : Node.Kind} {name : String} {y : Json}
    (hvariant : ∃ content, (kind, name, content) ∈ Node.variants) (hy : y.isNull = false ∨ kind ≠ .frameBound)
    (h : Node.ofJson? kind (.obj [(name, y)]) = some n) (hp : p ∈ n.parts) :
    Found kind (.obj [(name, y)]) p := by
  obtain ⟨content, hvariant⟩ := hvariant
  obtain ⟨α, r, wrap, rfl, hwraps⟩ := Node.exists_wraps hvariant
  rw [hwraps.ofJson? y hy] at h
  obtain ⟨a, ha, rfl⟩ := Option.map_eq_some_iff.mp h
  have hread : r.content.read? y = some (r.value a) := by rw [r.read?_eq, ha, Option.map_some]
  obtain ⟨f, x, hole, rfl, hx⟩ := Content.exists_hole hread (hwraps.parts a p hp)
  exact ⟨_, x, .variant hvariant hole, rfl, hx⟩

end Found

theorem found_of_mem_parts {kind : Kind} {j : Json} {n : Node} (h : ofJson? kind j = some n) {p : Part}
    (hp : p ∈ n.parts) : Found kind j p := by
  cases kind with
  | identifier => exact .of_record .identifier h hp
  | call => exact .of_record .call h hp
  | orderItem => exact .of_record .orderItem h hp
  | frame => exact .of_record .frame h hp
  | windowSpec => exact .of_record .windowSpec h hp
  | namedWindow => exact .of_record .namedWindow h hp
  | literal | frameUnit =>
    obtain ⟨_, -, rfl⟩ := Option.map_eq_some_iff.mp h
    cases hp
  | expr =>
    fun_cases Expr.ofJson? j
    case case1 | case2 | case3 | case6 | case7 => exact .of_variant (by simp [variants]) (.inr (by decide)) h hp
    case case4 => exact .of_record .binary h hp
    case case5 => exact .of_record .unary h hp
    case case8 => exact .of_record .nullTest h hp
    case case9 => exact .of_record .between h hp
    case case10 | case11 =>
      obtain rfl : expr .wildcard = n := by simpa [ofJson?, Expr.ofJson?] using h
      cases hp
    case case12 => simp [ofJson?, Expr.ofJson?] at h
  | frameBound =>
    fun_cases FrameBound.ofJson? j
    case case4 hbody | case6 hbody =>
      exact .of_variant (by simp [variants]) (.inl (Json.isNull_eq_false_iff.mpr hbody)) h hp
    case case7 => simp [ofJson?, FrameBound.ofJson?] at h
    all_goals
      simp only [ofJson?, FrameBound.ofJson?, Option.map_some, Option.some.injEq] at h
      obtain rfl := h
      cases hp
  | window =>
    fun_cases Window.ofJson? j
    case case1 | case2 => exact .of_variant (by simp [variants]) (.inr (by decide)) h hp
    case case3 => simp [ofJson?, Window.ofJson?] at h

/-- Every node in what has been read is read at a place of its own. -/
theorem place_of_within {kind : Kind} {j : Json} {n m : Node} (hm : Within m n) (h : ofJson? kind j = some n) :
    ∃ plug x, Place (.node kind) plug (.node m.kind) ∧ plug x = j ∧ ofJson? m.kind x = some m := by
  induction hm generalizing kind j with
  | here =>
    obtain rfl := kind_of_ofJson? h
    exact ⟨id, j, .here _, rfl, h⟩
  | @inside c n child _ ih =>
    have hpart : .node c ∈ n.parts := List.mem_append_left _ (List.mem_map_of_mem child)
    obtain ⟨plug, x, slot, rfl, hx⟩ := found_of_mem_parts h hpart
    obtain ⟨plug', y, place, rfl, hy⟩ := ih (Part.ofJson?_node.mp hx)
    exact ⟨_, y, .inside slot place, rfl, hy⟩

/-- There is something that `n` can be read from. -/
def Readable (n : Node) : Prop := ∃ j, ofJson? n.kind j = some n

theorem Readable.every {n : Node} (h : n.Readable) : n.Every Readable := by
  obtain ⟨j, hj⟩ := h
  intro m hm
  obtain ⟨-, x, -, -, hx⟩ := place_of_within hm hj
  exact ⟨x, hx⟩

end Node

end SqlText
