import Mathlib.Data.List.Nodup
import SqlText.Proofs.Content

/-! # The fields of a record

A record is read field by field, and what is read has the values of the fields in it and nothing else. So
two bodies with the same values are read alike, and a body without the value of a field is not read at all. -/

namespace SqlText

/-! ## Fields -/

/-- A field with what it is for. -/
structure Field extends Json.Field where
  content : Content

namespace Field

/-- Null is read as no value where the field may be left out. -/
def read? (field : Field) (j : Json) : Option Value :=
  if field.isOptional then (Json.optional? field.content.read? j).map (·.getD .absent)
  else field.content.read? j

/-- One value for each field, in their order. -/
def readAll : List Field → List Json → Option (List Value)
  | [], [] => some []
  | field :: fields, j :: js => (field.read? j).bind fun v => (readAll fields js).map (v :: ·)
  | _, _ => none

theorem readAll_append {fields fields' : List Field} {field : Field} {x : Json} {before after : List Json}
    (h : before.length = fields.length) :
    readAll (fields ++ field :: fields') (before ++ x :: after) =
      (readAll fields before).bind fun vs => (field.read? x).bind fun v =>
        (readAll fields' after).map fun vs' => vs ++ v :: vs' := by
  induction fields generalizing before with
  | nil =>
    obtain rfl := List.eq_nil_of_length_eq_zero h
    rfl
  | cons first fields ih =>
    cases before with
    | nil => cases h
    | cons j before =>
      rw [List.cons_append, List.cons_append, readAll, readAll, ih (Nat.succ.inj h)]
      cases first.read? j with
      | none => rfl
      | some v =>
        cases readAll fields before with
        | none => rfl
        | some vs =>
          cases field.read? x with
          | none => rfl
          | some w => cases readAll fields' after <;> rfl

theorem exists_of_mem_readAll {fields : List Field} {js : List Json} {vs : List Value}
    (h : readAll fields js = some vs) {v : Value} (hv : v ∈ vs) :
    ∃ before field after left x right, fields = before ++ field :: after ∧ js = left ++ x :: right ∧
      left.length = before.length ∧ field.read? x = some v := by
  induction fields generalizing js vs with
  | nil =>
    cases js with
    | nil =>
      obtain rfl := Option.some.inj h
      cases hv
    | cons => cases h
  | cons field fields ih =>
    cases js with
    | nil => cases h
    | cons j js =>
      obtain ⟨w, hw, h⟩ := Option.bind_eq_some_iff.mp h
      obtain ⟨ws, hws, rfl⟩ := Option.map_eq_some_iff.mp h
      rcases List.mem_cons.mp hv with rfl | hv
      · exact ⟨[], field, fields, [], j, js, rfl, rfl, rfl, hw⟩
      · obtain ⟨before, other, after, left, x, right, rfl, rfl, hlength, hx⟩ := ih hws hv
        exact ⟨field :: before, other, after, j :: left, x, right, rfl, rfl, congrArg (· + 1) hlength, hx⟩

theorem read?_of_filled {field : Field} {j : Json} (h : j.isNull = false) :
    field.read? j = field.content.read? j := by
  rw [read?]
  cases field.isOptional with
  | false => rfl
  | true =>
    simp only [Json.optional?, h, if_true, Bool.false_eq_true, if_false]
    cases field.content.read? j <;> rfl

theorem read?_null {field : Field} (h : field.isOptional = true) : field.read? .null = some .absent := by
  rw [read?, if_pos h]
  rfl

theorem content_read?_of_mem_inside {field : Field} {j : Json} {v : Value} (h : field.read? j = some v) {p : Part}
    (hp : p ∈ v.inside) : field.content.read? j = some v := by
  cases hoptional : field.isOptional with
  | false => rwa [read?, hoptional, if_neg Bool.false_ne_true] at h
  | true =>
    cases j with
    | null =>
      rw [read?_null hoptional] at h
      obtain rfl := Option.some.inj h
      cases hp
    | _ => rwa [read?_of_filled rfl] at h

end Field

/-! ## Records -/

/-- What is read field by field. -/
inductive Record where
  | identifier
  | call
  | orderItem
  | frame
  | windowSpec
  | namedWindow
  | binary
  | unary
  | nullTest
  | between

namespace Record

/-- What is read from a body with these fields. -/
def kind : Record → Node.Kind
  | identifier => .identifier
  | call => .call
  | orderItem => .orderItem
  | frame => .frame
  | windowSpec => .windowSpec
  | namedWindow => .namedWindow
  | binary | unary | nullTest | between => .expr

/-- The body of an expression has a name around it. -/
def json : Record → Json → Json
  | binary, body => .obj [("Binary", body)]
  | unary, body => .obj [("Unary", body)]
  | nullTest, body => .obj [("IsNull", body)]
  | between, body => .obj [("Between", body)]
  | identifier, body | call, body | orderItem, body | frame, body | windowSpec, body | namedWindow, body => body

/-- All fields, in the order they have in an array. -/
def fields : Record → List Field
  | identifier => [⟨⟨"value", false⟩, .text⟩, ⟨⟨"quote_style", true⟩, .quote⟩]
  | call => [⟨⟨"name", false⟩, .text⟩, ⟨⟨"args", false⟩, .parts (.node .expr)⟩, ⟨⟨"distinct", false⟩, .flag⟩,
      ⟨⟨"over", true⟩, .part (.node .window)⟩]
  | orderItem => [⟨⟨"expr", false⟩, .part (.node .expr)⟩, ⟨⟨"direction", true⟩, .part .direction⟩,
      ⟨⟨"nulls", true⟩, .part .nulls⟩]
  | frame => [⟨⟨"units", false⟩, .part (.node .frameUnit)⟩, ⟨⟨"start_bound", false⟩, .part (.node .frameBound)⟩,
      ⟨⟨"end_bound", true⟩, .part (.node .frameBound)⟩]
  | windowSpec => [⟨⟨"partition_by", false⟩, .parts (.node .expr)⟩, ⟨⟨"order_by", true⟩, .parts (.node .orderItem)⟩,
      ⟨⟨"window_frame", true⟩, .part (.node .frame)⟩]
  | namedWindow => [⟨⟨"name", false⟩, .part (.node .identifier)⟩, ⟨⟨"spec", false⟩, .part (.node .windowSpec)⟩]
  | binary => [⟨⟨"left", false⟩, .part (.node .expr)⟩, ⟨⟨"op", false⟩, .part .binaryOp⟩,
      ⟨⟨"right", false⟩, .part (.node .expr)⟩]
  | unary => [⟨⟨"op", false⟩, .part .unaryOp⟩, ⟨⟨"operand", false⟩, .part (.node .expr)⟩]
  | nullTest => [⟨⟨"expr", false⟩, .part (.node .expr)⟩, ⟨⟨"negated", false⟩, .flag⟩]
  | between => [⟨⟨"expr", false⟩, .part (.node .expr)⟩, ⟨⟨"low", false⟩, .part (.node .expr)⟩,
      ⟨⟨"high", false⟩, .part (.node .expr)⟩, ⟨⟨"negated", false⟩, .flag⟩]

def jsonFields (record : Record) : List Json.Field := record.fields.map Field.toField

/-- The values in the fields of a body. -/
def read? (record : Record) (body : Json) : Option (List Value) :=
  (body.values? record.jsonFields).bind (Field.readAll record.fields)

end Record

namespace Field

variable {α β : Type} {name : String} {fields : List Field} {j : Json} {js : List Json}
  {add : List Value → List Value} {values : β → List Value}

theorem readAll_required (r : Reader α) {q : α → Option β}
    (h : ∀ a, (readAll fields js).map (fun vs => add (r.value a :: vs)) = (q a).map values) :
    (readAll (⟨⟨name, false⟩, r.content⟩ :: fields) (j :: js)).map add = (r.decode j >>= q).map values := by
  have hread : read? ⟨⟨name, false⟩, r.content⟩ j = (r.decode j).map r.value := r.read?_eq j
  rw [readAll, hread]
  cases r.decode j with
  | none => rfl
  | some a =>
    rw [Option.map_some, Option.bind_some, Option.map_map]
    exact h a

theorem readAll_optional (r : Reader α) {q : Option α → Option β}
    (h : ∀ o, (readAll fields js).map (fun vs => add (r.optional o :: vs)) = (q o).map values) :
    (readAll (⟨⟨name, true⟩, r.content⟩ :: fields) (j :: js)).map add =
      (Json.optional? r.decode j >>= q).map values := by
  have hread : read? ⟨⟨name, true⟩, r.content⟩ j = (Json.optional? r.decode j).map r.optional := by
    simp only [read?, if_true, Json.optional?, r.read?_eq]
    split
    · rfl
    · cases r.decode j <;> rfl
  rw [readAll, hread]
  cases Json.optional? r.decode j with
  | none => rfl
  | some o =>
    rw [Option.map_some, Option.bind_some, Option.map_map]
    exact h o

end Field

/-! ## Reading by fields -/

/-- What `decode` makes of a body is wrapped up as a node, and `values` are what the body has in its fields. -/
structure Reading {α : Type} (record : Record) (decode : Json → Option α) (wrap : α → Node)
    (values : α → List Value) : Prop where
  ofJson? : ∀ body, Node.ofJson? record.kind (record.json body) = (decode body).map wrap
  read? : ∀ body, record.read? body = (decode body).map values
  injective : values.Injective
  parts : ∀ a, ∀ p ∈ (wrap a).parts, ∃ v ∈ values a, p ∈ v.inside

theorem Record.read?_of_values {α : Type} {record : Record} {decode : Json → Option α} {values : α → List Value}
    {read : List Json → Option α} (hdecode : ∀ body, decode body = (body.values? record.jsonFields >>= read))
    (hread : ∀ vs : List Json, vs.length = record.fields.length →
      (Field.readAll record.fields vs).map (fun vs => vs) = (read vs).map values) (body : Json) :
    record.read? body = (decode body).map values := by
  rw [read?, hdecode]
  cases hvs : body.values? record.jsonFields with
  | none => rfl
  | some vs =>
    have hlength : vs.length = record.fields.length := (Json.length_of_values? hvs).trans (by simp [jsonFields])
    have hvalues := hread vs hlength
    rwa [Option.map_id'] at hvalues

open SqlText.Field (readAll_required readAll_optional)

section

attribute [local simp] Node.parts Node.children Expr.children WindowSpec.children Node.marks List.map_inj_right
  Reader.node Reader.part Reader.parts Reader.text Reader.flag Reader.identifier Reader.expr Reader.exprs
  Reader.orderItems Reader.frameUnit Reader.frameBound Reader.frame Reader.windowSpec Reader.window Reader.binaryOp
  Reader.unaryOp Reader.direction Reader.nulls

theorem Identifier.reading : Reading .identifier ofJson? .identifier
    fun i => [Reader.text.value i.value, Reader.quote.optional i.quote] where
  ofJson? _ := rfl
  read? := Record.read?_of_values (fun _ => rfl) fun
    | [_, _], _ => readAll_required .text fun _ => readAll_optional .quote fun _ => rfl
  injective := by
    rintro ⟨_, _⟩ ⟨_, _⟩ h
    simpa using h
  parts _ _ hp := by cases hp

theorem Call.reading : Reading .call ofJson? .call
    fun c => [Reader.text.value c.name, Reader.exprs.value c.args, Reader.flag.value c.distinct,
      Reader.window.optional c.window] where
  ofJson? _ := rfl
  read? := Record.read?_of_values ofJson?_eq fun
    | [_, _, _, _], _ =>
      readAll_required .text fun _ => readAll_required .exprs fun _ => readAll_required .flag fun _ =>
        readAll_optional .window fun _ => rfl
  injective := by
    rintro ⟨_, _, _, _⟩ ⟨_, _, _, _⟩ h
    simpa using h
  parts c p hp := by simpa [eq_comm] using hp

theorem OrderItem.reading : Reading .orderItem ofJson? .orderItem
    fun x => [Reader.expr.value x.expr, Reader.direction.optional x.direction, Reader.nulls.optional x.nulls] where
  ofJson? _ := rfl
  read? := Record.read?_of_values ofJson?_eq fun
    | [_, _, _], _ =>
      readAll_required .expr fun _ => readAll_optional .direction fun _ => readAll_optional .nulls fun _ => rfl
  injective := by
    rintro ⟨_, _, _⟩ ⟨_, _, _⟩ h
    simpa using h
  parts x p hp := by simpa [eq_comm] using hp

theorem Frame.reading : Reading .frame ofJson? .frame
    fun f => [Reader.frameUnit.value f.unit, Reader.frameBound.value f.start, Reader.frameBound.optional f.stop] where
  ofJson? _ := rfl
  read? := Record.read?_of_values ofJson?_eq fun
    | [_, _, _], _ =>
      readAll_required .frameUnit fun _ => readAll_required .frameBound fun _ =>
        readAll_optional .frameBound fun _ => rfl
  injective := by
    rintro ⟨_, _, _⟩ ⟨_, _, _⟩ h
    simpa using h
  parts f p hp := by simpa [eq_comm] using hp

theorem WindowSpec.reading : Reading .windowSpec ofJson? .windowSpec
    fun s => [Reader.exprs.value s.partitionBy, Reader.orderItems.optional s.orderBy,
      Reader.frame.optional s.frame] where
  ofJson? _ := rfl
  read? := Record.read?_of_values ofJson?_eq fun
    | [_, _, _], _ =>
      readAll_required .exprs fun _ => readAll_optional .orderItems fun _ => readAll_optional .frame fun _ => rfl
  injective := by
    rintro ⟨_, _, _⟩ ⟨_, _, _⟩ h
    simpa using h
  parts := by
    rintro ⟨partitionBy, _ | items, frame⟩ p hp <;> simpa [eq_comm] using hp

theorem NamedWindow.reading : Reading .namedWindow ofJson? .namedWindow
    fun w => [Reader.identifier.value w.name, Reader.windowSpec.value w.spec] where
  ofJson? _ := rfl
  read? := Record.read?_of_values (fun _ => rfl) fun
    | [_, _], _ => readAll_required .identifier fun _ => readAll_required .windowSpec fun _ => rfl
  injective := by
    rintro ⟨_, _⟩ ⟨_, _⟩ h
    simpa using h
  parts w p hp := by simpa using hp

theorem Expr.binary_reading : Reading .binary binaryOfJson? (fun (l, op, r) => .expr (.binary l op r))
    fun (l, op, r) => [Reader.expr.value l, Reader.binaryOp.value op, Reader.expr.value r] where
  ofJson? body := by
    rw [Record.kind, Record.json, Node.ofJson?, Expr.ofJson?, Option.map_map]
    rfl
  read? := Record.read?_of_values binaryOfJson?_eq fun
    | [_, _, _], _ =>
      readAll_required .expr fun _ => readAll_required .binaryOp fun _ => readAll_required .expr fun _ => rfl
  injective := by
    rintro ⟨_, _, _⟩ ⟨_, _, _⟩ h
    simpa using h
  parts s p hp := by simpa [or_comm] using hp

theorem Expr.unary_reading : Reading .unary unaryOfJson? (fun (op, e) => .expr (.unary op e))
    fun (op, e) => [Reader.unaryOp.value op, Reader.expr.value e] where
  ofJson? body := by
    rw [Record.kind, Record.json, Node.ofJson?, Expr.ofJson?, Option.map_map]
    rfl
  read? := Record.read?_of_values unaryOfJson?_eq fun
    | [_, _], _ => readAll_required .unaryOp fun _ => readAll_required .expr fun _ => rfl
  injective := by
    rintro ⟨_, _⟩ ⟨_, _⟩ h
    simpa using h
  parts s p hp := by simpa [or_comm] using hp

theorem Expr.nullTest_reading : Reading .nullTest nullTestOfJson? (fun (e, negated) => .expr (.nullTest e negated))
    fun (e, negated) => [Reader.expr.value e, Reader.flag.value negated] where
  ofJson? body := by
    rw [Record.kind, Record.json, Node.ofJson?, Expr.ofJson?, Option.map_map]
    rfl
  read? := Record.read?_of_values nullTestOfJson?_eq fun
    | [_, _], _ => readAll_required .expr fun _ => readAll_required .flag fun _ => rfl
  injective := by
    rintro ⟨_, _⟩ ⟨_, _⟩ h
    simpa using h
  parts s p hp := by simpa using hp

theorem Expr.between_reading :
    Reading .between betweenOfJson? (fun (e, low, high, negated) => .expr (.between e low high negated))
      fun (e, low, high, negated) =>
        [Reader.expr.value e, Reader.expr.value low, Reader.expr.value high, Reader.flag.value negated] where
  ofJson? body := by
    rw [Record.kind, Record.json, Node.ofJson?, Expr.ofJson?, Option.map_map]
    rfl
  read? := Record.read?_of_values betweenOfJson?_eq fun
    | [_, _, _, _], _ =>
      readAll_required .expr fun _ => readAll_required .expr fun _ => readAll_required .expr fun _ =>
        readAll_required .flag fun _ => rfl
  injective := by
    rintro ⟨_, _, _, _⟩ ⟨_, _, _, _⟩ h
    simpa using h
  parts s p hp := by simpa using hp

end

namespace Record

theorem reading (record : Record) : ∃ (α : Type) (decode : Json → Option α) (wrap : α → Node)
    (values : α → List Value), Reading record decode wrap values := by
  cases record with
  | identifier => exact ⟨_, _, _, _, Identifier.reading⟩
  | call => exact ⟨_, _, _, _, Call.reading⟩
  | orderItem => exact ⟨_, _, _, _, OrderItem.reading⟩
  | frame => exact ⟨_, _, _, _, Frame.reading⟩
  | windowSpec => exact ⟨_, _, _, _, WindowSpec.reading⟩
  | namedWindow => exact ⟨_, _, _, _, NamedWindow.reading⟩
  | binary => exact ⟨_, _, _, _, Expr.binary_reading⟩
  | unary => exact ⟨_, _, _, _, Expr.unary_reading⟩
  | nullTest => exact ⟨_, _, _, _, Expr.nullTest_reading⟩
  | between => exact ⟨_, _, _, _, Expr.between_reading⟩

variable {record : Record} {body body' : Json}

theorem ofJson?_congr (h : record.read? body = record.read? body') :
    Node.ofJson? record.kind (record.json body) = Node.ofJson? record.kind (record.json body') := by
  obtain ⟨α, decode, wrap, values, hreading⟩ := record.reading
  rw [hreading.read?, hreading.read?] at h
  rw [hreading.ofJson?, hreading.ofJson?, Option.map_injective hreading.injective h]

theorem ofJson?_eq_none (h : record.read? body = none) : Node.ofJson? record.kind (record.json body) = none := by
  obtain ⟨α, decode, wrap, values, hreading⟩ := record.reading
  rw [hreading.read?, Option.map_eq_none_iff] at h
  rw [hreading.ofJson?, h, Option.map_none]

theorem exists_values {n : Node} (h : Node.ofJson? record.kind (record.json body) = some n) :
    ∃ vs, record.read? body = some vs ∧ ∀ p ∈ n.parts, ∃ v ∈ vs, p ∈ v.inside := by
  obtain ⟨α, decode, wrap, values, hreading⟩ := record.reading
  rw [hreading.ofJson?] at h
  obtain ⟨a, ha, rfl⟩ := Option.map_eq_some_iff.mp h
  exact ⟨values a, by rw [hreading.read?, ha, Option.map_some], hreading.parts a⟩

theorem nodup_jsonFields (record : Record) : (record.jsonFields.map Json.Field.name).Nodup := by
  cases record <;> decide

/-! ## Edits of an object -/

variable {field : Json.Field} {name : String} {x : Json} {before after members : List (String × Json)}

theorem ofJson?_obj_congr {members' : List (String × Json)}
    (h : ∀ field ∈ record.jsonFields, field.find? members = field.find? members') :
    Node.ofJson? record.kind (record.json (.obj members)) =
      Node.ofJson? record.kind (record.json (.obj members')) := by
  have hvalues : (Json.obj members).values? record.jsonFields = (Json.obj members').values? record.jsonFields :=
    mapM_congr h
  exact ofJson?_congr (by rw [read?, read?, hvalues])

theorem ofJson?_insert (h : name ∉ record.jsonFields.map Json.Field.name) :
    Node.ofJson? record.kind (record.json (.obj (before ++ (name, x) :: after))) =
      Node.ofJson? record.kind (record.json (.obj (before ++ after))) := by
  refine ofJson?_obj_congr fun field hfield => Json.Field.find?_insert_of_ne ?_
  rintro rfl
  exact h (List.mem_map_of_mem hfield)

theorem ofJson?_insert_null (hfield : field ∈ record.jsonFields) (hoptional : field.isOptional = true)
    (h : field.name ∉ (before ++ after).map Prod.fst) :
    Node.ofJson? record.kind (record.json (.obj (before ++ (field.name, .null) :: after))) =
      Node.ofJson? record.kind (record.json (.obj (before ++ after))) := by
  refine ofJson?_obj_congr fun other hother => ?_
  by_cases hname : field.name = other.name
  · obtain rfl := List.inj_on_of_nodup_map record.nodup_jsonFields hfield hother hname
    rw [Json.Field.find?_insert_self h, Json.Field.find?_of_not_mem h, if_pos hoptional]
  · exact Json.Field.find?_insert_of_ne hname

theorem ofJson?_of_find?_eq_none (hfield : field ∈ record.jsonFields) (h : field.find? members = none) :
    Node.ofJson? record.kind (record.json (.obj members)) = none := by
  have hvalues : (Json.obj members).values? record.jsonFields = none := mapM_eq_none hfield h
  exact ofJson?_eq_none (by rw [read?, hvalues, Option.bind_none])

end Record

end SqlText
