import SqlText.Proofs.Place

/-! # How much reading forgives

An object read field by field may hold more than its fields, and less only where a field is optional and null.
An object that names a case holds that one name. This is so at any depth. -/

namespace SqlText

/-! ## Objects -/

/-- One of several cases, so that an object for it has the name of the case and nothing else. -/
def Part.Kind.tagged : Part.Kind → Bool
  | .node .literal | .node .expr | .node .frameUnit | .node .frameBound | .node .window => true
  | .node _ => false
  | .binaryOp | .unaryOp | .direction | .nulls => true

theorem Json.unit?_obj_eq_none {members : List (String × Json)} (h : members.length ≠ 1) :
    (obj members).unit? = none := by
  unfold unit?
  split <;> simp_all

theorem Part.ofJson?_obj_eq_none {kind : Kind} (hkind : kind.tagged = true) {members : List (String × Json)}
    (h : members.length ≠ 1) : ofJson? kind (.obj members) = none := by
  have hunit := Json.unit?_obj_eq_none h
  cases kind with
  | binaryOp => rw [ofJson?, BinaryOp.ofJson?, hunit, Option.bind_none, Option.map_none]
  | unaryOp => rw [ofJson?, UnaryOp.ofJson?, hunit, Option.bind_none, Option.map_none]
  | direction => rw [ofJson?, SortDirection.ofJson?, hunit, Option.bind_none, Option.map_none]
  | nulls => rw [ofJson?, NullPlacement.ofJson?, hunit, Option.bind_none, Option.map_none]
  | node kind =>
    rw [ofJson?, Option.map_eq_none_iff]
    cases kind with
    | literal =>
      rw [Node.ofJson?, Option.map_eq_none_iff]
      unfold Literal.ofJson?
      split <;> simp_all
    | expr =>
      rw [Node.ofJson?, Option.map_eq_none_iff, Expr.ofJson?.eq_def]
      split <;> simp_all
    | frameUnit => rw [Node.ofJson?, FrameUnit.ofJson?, hunit, Option.bind_none, Option.map_none]
    | frameBound =>
      rw [Node.ofJson?, Option.map_eq_none_iff, FrameBound.ofJson?.eq_def]
      split <;> simp_all
    | window =>
      rw [Node.ofJson?, Option.map_eq_none_iff, Window.ofJson?.eq_def]
      split <;> simp_all
    | _ => cases hkind

namespace Node

/-- The record that a node is read by, if it has fields. -/
def record? : Node → Option Record
  | identifier _ => some .identifier
  | call _ => some .call
  | orderItem _ => some .orderItem
  | frame _ => some .frame
  | windowSpec _ => some .windowSpec
  | namedWindow _ => some .namedWindow
  | expr (.binary ..) => some .binary
  | expr (.unary ..) => some .unary
  | expr (.nullTest ..) => some .nullTest
  | expr (.between ..) => some .between
  | _ => none

theorem exists_eq_json {m : Node} {x : Json} {record : Record} (h : ofJson? m.kind x = some m)
    (hrecord : m.record? = some record) : m.kind = record.kind ∧ ∃ body, x = record.json body := by
  cases m with
  | expr e =>
    have hread : Expr.ofJson? x = some e := by simpa [kind, ofJson?] using h
    fun_cases Expr.ofJson? x <;>
      simp only [Expr.ofJson?, Option.map_eq_some_iff, Option.some.injEq, reduceCtorEq] at hread
    case case10 | case11 =>
      obtain rfl := hread
      cases hrecord
    case case4 body | case5 body | case8 body | case9 body =>
      obtain ⟨_, -, rfl⟩ := hread
      obtain rfl := Option.some.inj hrecord
      exact ⟨rfl, body, rfl⟩
    all_goals
      obtain ⟨_, -, rfl⟩ := hread
      cases hrecord
  | literal | frameUnit | frameBound | window => cases hrecord
  | _ =>
    obtain rfl := Option.some.inj hrecord
    exact ⟨rfl, x, rfl⟩

/-! ## Edits -/

/-- How an edit of an object somewhere in `j` bears on `v`, which has been read from `j`. -/
structure Lenient (kind : Kind) (j : Json) (v : Node) : Prop where
  /-- Every node in `v` has been read at a place in `j`, and from the values of its fields if it has any. -/
  placed : ∀ m, Within m v → ∃ plug x, Place (.node kind) plug (.node m.kind) ∧ plug x = j ∧
    ofJson? m.kind x = some m ∧
      ∀ record ∈ m.record?, ∃ body values, x = record.json body ∧ body.values? record.jsonFields = some values
  /-- So has every operator and every mark of sorting. -/
  marked : ∀ m, Within m v → ∀ p ∈ m.marks, ∃ plug x, Place (.node kind) plug p.kind ∧ plug x = j ∧
    Part.ofJson? p.kind x = some p
  /-- A member that is no field changes nothing. -/
  unknown : ∀ {plug : Json → Json} (record : Record) (before after : List (String × Json)),
    Place (.node kind) plug (.node record.kind) → plug (record.json (.obj (before ++ after))) = j →
      ∀ name ∉ record.jsonFields.map Json.Field.name, ∀ x : Json,
        ofJson? kind (plug (record.json (.obj (before ++ (name, x) :: after)))) = some v
  /-- An optional field that is null may as well be left out. -/
  omitted : ∀ {plug : Json → Json} (record : Record) (before after : List (String × Json)),
    Place (.node kind) plug (.node record.kind) → ∀ field ∈ record.jsonFields, field.isOptional = true →
      plug (record.json (.obj (before ++ (field.name, .null) :: after))) = j →
        ofJson? kind (plug (record.json (.obj (before ++ after)))) = some v
  /-- Any other field has to be there. -/
  missing : ∀ {plug : Json → Json} {x : Json} (record : Record) (before after : List (String × Json)),
    Place (.node kind) plug (.node record.kind) → ∀ field ∈ record.jsonFields, field.isOptional = false →
      plug (record.json (.obj (before ++ (field.name, x) :: after))) = j →
        ofJson? kind (plug (record.json (.obj (before ++ after)))) = none
  /-- An object that names a case has room for nothing else. -/
  doubled : ∀ {plug : Json → Json} {below : Part.Kind} (before after : List (String × Json)),
    Place (.node kind) plug below → below.tagged = true → plug (.obj (before ++ after)) = j →
      ∀ (name : String) (x : Json), ofJson? kind (plug (.obj (before ++ (name, x) :: after))) = none

section

variable {kind : Kind} {j : Json} {v : Node} {plug : Json → Json}

theorem read_at_place (hread : ofJson? kind j = some v) {below : Part.Kind} (place : Place (.node kind) plug below)
    {x : Json} (hx : x.isNull = false) (hj : plug x = j) : Part.ofJson? below x ≠ none := by
  intro hnone
  have hwhole := place.strict hx hnone
  rw [hj, hread] at hwhole
  cases hwhole

theorem not_mem_of_read (hread : ofJson? kind j = some v) {record : Record} {before after : List (String × Json)}
    {x : Json} (place : Place (.node kind) plug (.node record.kind)) {field : Json.Field}
    (hfield : field ∈ record.jsonFields)
    (hj : plug (record.json (.obj (before ++ (field.name, x) :: after))) = j) :
    field.name ∉ (before ++ after).map Prod.fst := by
  intro hmem
  refine read_at_place hread place (Record.isNull_json rfl) hj ?_
  rw [Part.ofJson?, Record.ofJson?_of_find?_eq_none hfield (Json.Field.find?_insert_twice hmem), Option.map_none]

end

/-- Of every node that has been read, at every depth of what it has been read from. -/
theorem lenient_of_read {kind : Kind} {j : Json} {v : Node} (hread : ofJson? kind j = some v) :
    Lenient kind j v where
  placed m hm := by
    obtain ⟨plug, x, place, hx, hmx⟩ := place_of_within hm hread
    refine ⟨plug, x, place, hx, hmx, fun record hrecord => ?_⟩
    obtain ⟨hkind, body, rfl⟩ := exists_eq_json hmx hrecord
    rw [hkind] at hmx
    obtain ⟨vs, hvs, -⟩ := record.exists_values hmx
    obtain ⟨values, hvalues, -⟩ := Option.bind_eq_some_iff.mp hvs
    exact ⟨body, values, rfl, hvalues⟩
  marked m hm p hp := by
    obtain ⟨plug, x, place, rfl, hmx⟩ := place_of_within hm hread
    obtain ⟨plug', y, slot, rfl, hy⟩ := found_of_mem_parts hmx (List.mem_append_right _ hp)
    exact ⟨_, y, place.trans (.inside slot (.here _)), rfl, hy⟩
  unknown record before after place hj name hname x := by
    rw [← hread, ← hj]
    exact place.congr (Record.isNull_json rfl) (Record.isNull_json rfl) (Record.ofJson?_insert hname)
  omitted record before after place field hfield hoptional hj := by
    have hother := not_mem_of_read hread place hfield hj
    rw [← hread, ← hj]
    exact place.congr (Record.isNull_json rfl) (Record.isNull_json rfl)
      (Record.ofJson?_insert_null hfield hoptional hother).symm
  missing record before after place field hfield hrequired hj := by
    have hother := not_mem_of_read hread place hfield hj
    have hfind : field.find? (before ++ after) = none := by
      rw [Json.Field.find?_of_not_mem hother, hrequired]
      rfl
    refine place.strict (Record.isNull_json rfl) ?_
    rw [Part.ofJson?, Record.ofJson?_of_find?_eq_none hfield hfind, Option.map_none]
  doubled before after place htagged hj name x := by
    -- it has been read, so it has a name and no more than that
    have hlength : (before ++ after).length = 1 := by
      by_contra hlength
      exact read_at_place hread place rfl hj (Part.ofJson?_obj_eq_none htagged hlength)
    refine place.strict rfl (Part.ofJson?_obj_eq_none htagged ?_)
    rw [List.length_append, List.length_cons]
    rw [List.length_append] at hlength
    omega

theorem lenient_in_argument :
    let name (fs : List (String × Json)) : Json := .obj (("value", .str "a") :: fs)
    let op (fs : List (String × Json)) : String × Json := ("op", .obj (("Add", .null) :: fs))
    let sum (left : Json) (fs : List (String × Json)) : List (String × Json) :=
      [("left", .obj [("Identifier", left)])] ++ fs ++ [("right", .str "Wildcard")]
    let call (argument : List (String × Json)) : Json :=
      .arr [.str "f", .arr [.obj argument], .bool false, .null]
    let null : String × Json := ("quote_style", .null)
    let v := Node.call ⟨"f", [.binary (.identifier (.bare "a")) .add .wildcard], false, none⟩
    ofJson? .call (call [("Binary", .obj (sum (name [null]) [op []]))]) = some v ∧
      ofJson? .call (call [("Binary", .obj (sum (name []) [op []]))]) = some v ∧
      ofJson? .call (call [("Binary", .obj (sum (name [null]) [("note", .bool true), op []]))]) = some v ∧
      ofJson? .call (call [("Binary", .obj (sum (name [null]) []))]) = none ∧
      ofJson? .call (call [("note", .bool true), ("Binary", .obj (sum (name [null]) [op []]))]) = none ∧
      ofJson? .call (call [("Binary", .obj (sum (name [null]) [op [("note", .bool true)]]))]) = none := by
  intro name op sum call null v
  have hread : ofJson? .call (call [("Binary", .obj (sum (name [null]) [op []]))]) = some v := by
    cbv
  have hlenient := lenient_of_read hread
  have hargument : Slot (.node .call) (fun x => .arr [.str "f", .arr [x], .bool false, .null]) (.node .expr) :=
    @Slot.position .call [⟨⟨"name", false⟩, .text⟩] _ ⟨⟨"args", false⟩, .parts (.node .expr)⟩ _ _ rfl
      (.element _ [] []) [.str "f"] rfl [.bool false, .null]
  have hleft : Slot (.node .expr)
      (fun x => .obj [("Binary", .obj [("left", x), op [], ("right", .str "Wildcard")])]) (.node .expr) :=
    @Slot.member .binary ⟨⟨"left", false⟩, .part (.node .expr)⟩ _ _ (by simp [Record.fields]) (.part _) []
      [op [], ("right", .str "Wildcard")]
  have hop : Slot (.node .expr) (fun x => .obj [("Binary", .obj (sum (name [null]) [("op", x)]))]) .binaryOp :=
    @Slot.member .binary ⟨⟨"op", false⟩, .part .binaryOp⟩ _ _ (by simp [Record.fields]) (.part _)
      [("left", .obj [("Identifier", name [null])])] [("right", .str "Wildcard")]
  have hidentified : (Kind.expr, "Identifier", Content.part (.node .identifier)) ∈ variants := by simp [variants]
  have hname : Slot (.node .expr) (fun x => .obj [("Identifier", x)]) (.node .identifier) :=
    .variant hidentified (.part _)
  have hexpr : Place (.node .call) _ (.node .expr) := .inside hargument (.here _)
  have hidentifier : Place (.node .call) _ (.node .identifier) :=
    .inside hargument (.inside hleft (.inside hname (.here _)))
  have hmark : Place (.node .call) _ .binaryOp := .inside hargument (.inside hop (.here _))
  refine ⟨hread, ?_, ?_, ?_, ?_, ?_⟩
  · exact hlenient.omitted .identifier [("value", .str "a")] [] hidentifier ⟨"quote_style", true⟩
      (by simp [Record.jsonFields, Record.fields]) rfl rfl
  · exact hlenient.unknown .binary [("left", .obj [("Identifier", name [null])])] [op [], ("right", .str "Wildcard")]
      hexpr rfl "note" (by decide) (.bool true)
  · exact hlenient.missing .binary [("left", .obj [("Identifier", name [null])])] [("right", .str "Wildcard")]
      hexpr ⟨"op", false⟩ (by simp [Record.jsonFields, Record.fields]) rfl rfl
  · exact hlenient.doubled [] [("Binary", .obj (sum (name [null]) [op []]))] hexpr rfl rfl "note" (.bool true)
  · exact hlenient.doubled [("Add", .null)] [] hmark rfl rfl "note" (.bool true)

end Node

end SqlText
