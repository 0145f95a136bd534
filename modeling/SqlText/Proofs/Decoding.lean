import Mathlib.Data.List.Nodup
import SqlText.Json.Decode

/-! # What is read

The values of a record's fields depend on nothing else in its body. A record is read from them, each by
the reader of its own type. -/

namespace SqlText

/-! ## Reading all of a list -/

section

variable {α β : Type} {f g : α → Option β} {xs : List α}

theorem length_of_mapM_eq_some {ys : List β} (h : xs.mapM f = some ys) : ys.length = xs.length := by
  induction xs generalizing ys with
  | nil =>
    obtain rfl : ys = [] := by simpa using h.symm
    rfl
  | cons x xs ih =>
    simp only [List.mapM_cons, Option.bind_eq_bind, Option.bind_eq_some_iff, Option.pure_def,
      Option.some.injEq] at h
    obtain ⟨z, -, zs, hzs, rfl⟩ := h
    rw [List.length_cons, List.length_cons, ih hzs]

theorem mapM_congr (h : ∀ x ∈ xs, f x = g x) : xs.mapM f = xs.mapM g := by
  induction xs with
  | nil => rfl
  | cons x xs ih =>
    rw [List.mapM_cons, List.mapM_cons, h x List.mem_cons_self, ih fun y hy => h y (List.mem_cons_of_mem _ hy)]

theorem mapM_eq_none {x : α} (hx : x ∈ xs) (h : f x = none) : xs.mapM f = none := by
  induction xs with
  | nil => cases hx
  | cons y xs ih =>
    rw [List.mapM_cons]
    rcases List.mem_cons.mp hx with rfl | hx
    · rw [h]
      rfl
    · rw [ih hx]
      cases f y <;> rfl

end

/-! ## Fields -/

namespace Json

section

variable {field : Field} {name : String} {x : Json} {before after members : List (String × Json)}

theorem Field.find?_insert_of_ne (hne : name ≠ field.name) :
    field.find? (before ++ (name, x) :: after) = field.find? (before ++ after) := by
  rw [find?, find?, List.filter_append, List.filter_cons_of_neg (by simpa using hne), List.filter_append]

theorem filter_name_eq_nil_iff : members.filter (·.1 = name) = [] ↔ name ∉ members.map Prod.fst := by
  simp only [List.filter_eq_nil_iff, decide_eq_true_eq, List.mem_map, not_exists, not_and]

theorem Field.find?_of_not_mem (h : field.name ∉ members.map Prod.fst) :
    field.find? members = if field.isOptional then some .null else none := by
  rw [find?, filter_name_eq_nil_iff.mpr h]

theorem Field.find?_insert_self (h : field.name ∉ (before ++ after).map Prod.fst) :
    field.find? (before ++ (field.name, x) :: after) = some x := by
  obtain ⟨hbefore, hafter⟩ := List.append_eq_nil_iff.mp
    (List.filter_append before after ▸ filter_name_eq_nil_iff.mpr h)
  rw [find?, List.filter_append, List.filter_cons_of_pos (by simp), hbefore, hafter]
  rfl

theorem Field.find?_insert_twice (h : field.name ∈ (before ++ after).map Prod.fst) :
    field.find? (before ++ (field.name, x) :: after) = none := by
  have hother : before.filter (·.1 = field.name) ++ after.filter (·.1 = field.name) ≠ [] := by
    rw [← List.filter_append]
    exact fun hnil => filter_name_eq_nil_iff.mp hnil h
  rw [find?, List.filter_append, List.filter_cons_of_pos (by simp)]
  cases hbefore : before.filter (·.1 = field.name) with
  | nil =>
    cases hafter : after.filter (·.1 = field.name) with
    | nil => simp [hbefore, hafter] at hother
    | cons => rfl
  | cons member members => cases members <;> rfl

theorem length_of_values? {fields : List Field} {j : Json} {vs : List Json} (h : j.values? fields = some vs) :
    vs.length = fields.length := by
  cases j with
  | obj members => exact length_of_mapM_eq_some h
  | arr elements =>
    simp only [values?, Option.ite_none_right_eq_some, Option.some.injEq] at h
    obtain ⟨hlength, rfl⟩ := h
    exact hlength
  | _ => cases h

theorem values?_insert_self {fields fields' : List Field}
    (hnodup : ((fields ++ field :: fields').map Field.name).Nodup) :
    ∃ o : Option (List Json × List Json), (∀ around ∈ o, around.1.length = fields.length) ∧
      ∀ x, (obj (before ++ (field.name, x) :: after)).values? (fields ++ field :: fields') =
        o.map fun around => around.1 ++ x :: around.2 := by
  rw [List.map_append, List.map_cons, List.nodup_middle, ← List.map_append, List.nodup_cons] at hnodup
  have hother (x : Json) : ∀ other ∈ fields ++ fields',
      other.find? (before ++ (field.name, x) :: after) = other.find? (before ++ after) := fun other hmem =>
    Field.find?_insert_of_ne fun hname => hnodup.1 (hname ▸ List.mem_map_of_mem hmem)
  by_cases hmem : field.name ∈ (before ++ after).map Prod.fst
  · refine ⟨none, by simp, fun x => ?_⟩
    rw [Option.map_none]
    exact mapM_eq_none (List.mem_append_right _ List.mem_cons_self) (Field.find?_insert_twice hmem)
  refine ⟨(fields.mapM (Field.find? · (before ++ after))).bind fun left =>
    (fields'.mapM (Field.find? · (before ++ after))).map fun right => (left, right), fun around haround => ?_,
    fun x => ?_⟩
  · obtain ⟨left, hleft, haround⟩ := Option.bind_eq_some_iff.mp haround
    obtain ⟨right, -, rfl⟩ := Option.map_eq_some_iff.mp haround
    exact length_of_mapM_eq_some hleft
  · have hleft := mapM_congr fun other hmem => hother x other (List.mem_append_left _ hmem)
    have hright := mapM_congr fun other hmem => hother x other (List.mem_append_right _ hmem)
    rw [values?, List.mapM_append, List.mapM_cons, hleft, hright, Field.find?_insert_self hmem]
    cases fields.mapM (Field.find? · (before ++ after)) with
    | none => rfl
    | some left => cases fields'.mapM (Field.find? · (before ++ after)) <;> rfl

theorem values?_insert_at (before after : List Json) (fields : List Field) :
    ∃ o : Option (List Json × List Json), (∀ around ∈ o, around.1.length = before.length) ∧
      ∀ x, (arr (before ++ x :: after)).values? fields = o.map fun around => around.1 ++ x :: around.2 := by
  by_cases h : before.length + (after.length + 1) = fields.length
  · exact ⟨some (before, after), by simp, fun x => by simp [values?, h]⟩
  · exact ⟨none, by simp, fun x => by simp [values?, h]⟩

theorem find?_of_values? {fields fields' : List Field} {left right : List Json}
    (h : (obj members).values? (fields ++ field :: fields') = some (left ++ x :: right))
    (hlength : left.length = fields.length) : field.find? members = some x := by
  rw [values?, List.mapM_append, List.mapM_cons] at h
  simp only [Option.bind_eq_bind, Option.bind_eq_some_iff, Option.pure_def, Option.some.injEq] at h
  obtain ⟨left', hleft, _, ⟨x', hx, right', -, rfl⟩, heq⟩ := h
  have hright := (List.append_inj heq ((length_of_mapM_eq_some hleft).trans hlength.symm)).2
  rw [hx, List.head_eq_of_cons_eq hright]

end

end Json

/-! ## Records -/

theorem Expr.binaryOfJson?_eq (j : Json) : binaryOfJson? j = do
    let [left, op, right] ← j.values? binaryFields | none
    return (← ofJson? left, ← BinaryOp.ofJson? op, ← ofJson? right) := by
  rw [binaryOfJson?]
  cases j.values? binaryFields <;> grind

theorem Expr.unaryOfJson?_eq (j : Json) : unaryOfJson? j = do
    let [op, operand] ← j.values? unaryFields | none
    return (← UnaryOp.ofJson? op, ← ofJson? operand) := by
  rw [unaryOfJson?]
  cases j.values? unaryFields <;> grind

theorem Expr.nullTestOfJson?_eq (j : Json) : nullTestOfJson? j = do
    let [operand, negated] ← j.values? nullTestFields | none
    return (← ofJson? operand, ← negated.bool?) := by
  rw [nullTestOfJson?]
  cases j.values? nullTestFields <;> grind

theorem Expr.betweenOfJson?_eq (j : Json) : betweenOfJson? j = do
    let [operand, low, high, negated] ← j.values? betweenFields | none
    return (← ofJson? operand, ← ofJson? low, ← ofJson? high, ← negated.bool?) := by
  rw [betweenOfJson?]
  cases j.values? betweenFields <;> grind

theorem Expr.listOfJson?_eq (j : Json) : listOfJson? j = j.array?.bind (·.mapM ofJson?) := by
  rw [listOfJson?.eq_def]
  split
  · simp [Json.array?]
  · cases j <;> simp_all [Json.array?]

theorem Call.ofJson?_eq (j : Json) : ofJson? j = do
    let [name, args, distinct, window] ← j.values? jsonFields | none
    let name ← name.string?
    let args ← Expr.listOfJson? args
    let distinct ← distinct.bool?
    let window ← Json.optional? Window.ofJson? window
    return ⟨name, args, distinct, window⟩ := by
  rw [ofJson?]
  simp only [Json.optional?]
  cases j.values? jsonFields <;> grind

theorem OrderItem.ofJson?_eq (j : Json) : ofJson? j = do
    let [expr, direction, nulls] ← j.values? jsonFields | none
    let expr ← Expr.ofJson? expr
    let direction ← Json.optional? SortDirection.ofJson? direction
    let nulls ← Json.optional? NullPlacement.ofJson? nulls
    return ⟨expr, direction, nulls⟩ := by
  rw [ofJson?]
  cases j.values? jsonFields <;> grind

theorem OrderItem.listOfJson?_eq (j : Json) : listOfJson? j = j.array?.bind (·.mapM ofJson?) := by
  rw [listOfJson?.eq_def]
  split
  · simp [Json.array?]
  · cases j <;> simp_all [Json.array?]

theorem Frame.ofJson?_eq (j : Json) : ofJson? j = do
    let [unit, start, stop] ← j.values? jsonFields | none
    let unit ← FrameUnit.ofJson? unit
    let start ← FrameBound.ofJson? start
    let stop ← Json.optional? FrameBound.ofJson? stop
    return ⟨unit, start, stop⟩ := by
  rw [ofJson?]
  simp only [Json.optional?]
  cases j.values? jsonFields <;> grind

theorem WindowSpec.ofJson?_eq (j : Json) : ofJson? j = do
    let [partitionBy, orderBy, frame] ← j.values? jsonFields | none
    let partitionBy ← Expr.listOfJson? partitionBy
    let orderBy ← Json.optional? OrderItem.listOfJson? orderBy
    let frame ← Json.optional? Frame.ofJson? frame
    return ⟨partitionBy, orderBy, frame⟩ := by
  rw [ofJson?]
  simp only [Json.optional?]
  cases j.values? jsonFields <;> grind

end SqlText
