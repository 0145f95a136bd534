import SqlText.Binary64.Basic

/-! # JSON values

A number written with a fraction or an exponent is a float and any other is an integer. An object
keeps its members in the order they were written. -/

namespace SqlText

inductive Json where
  | null
  | bool (value : Bool)
  | int (value : Int)
  | float (value : Binary64)
  | str (value : String)
  | arr (elements : List Json)
  | obj (members : List (String × Json))
deriving Repr, Inhabited

namespace Json

def isNull : Json → Bool
  | null => true
  | _ => false

/-! ## The shapes that values are read from

A record is an object whose members are told by their names, or an array with the fields in their order. -/

def string? : Json → Option String
  | .str s => some s
  | _ => none

def bool? : Json → Option Bool
  | .bool b => some b
  | _ => none

def array? : Json → Option (List Json)
  | .arr xs => some xs
  | _ => none

/-- Null is no value, and anything else has to be one. -/
def optional? {α : Type} (decode : Json → Option α) (j : Json) : Option (Option α) :=
  if j.isNull then some none else (decode j).map some

/-- The name of a case without data, which stands alone or over null. -/
def unit? : Json → Option String
  | .str name | .obj [(name, .null)] => some name
  | _ => none

/-! ## Fields -/

/-- What a record has under a name. -/
structure Field where
  name : String
  /-- It may be null, and in an object it may be left out, which is the same. -/
  isOptional : Bool
deriving DecidableEq, Repr

/-- The value of a field among the members of an object, where it may not stand twice. -/
def Field.find? (field : Field) (members : List (String × Json)) : Option Json :=
  match members.filter (·.1 = field.name) with
  | [] => if field.isOptional then some .null else none
  | [(_, value)] => some value
  | _ => none

/-- The values of the fields: by their names in an object, or all of them in their order in an array. -/
def values? (fields : List Field) : Json → Option (List Json)
  | .obj members => fields.mapM (·.find? members)
  | .arr values => if values.length = fields.length then some values else none
  | _ => none

theorem Field.omitted_or_mem_of_find? {field : Field} {members : List (String × Json)} {value : Json}
    (h : field.find? members = some value) :
    field.isOptional = true ∧ value = .null ∨ (field.name, value) ∈ members := by
  unfold find? at h
  split at h
  case h_1 =>
    simp only [Option.ite_none_right_eq_some, Option.some.injEq] at h
    exact .inl ⟨h.1, h.2.symm⟩
  case h_2 key found hfound =>
    obtain rfl := Option.some.inj h
    have hmem : (key, found) ∈ members.filter (·.1 = field.name) := hfound ▸ List.mem_singleton_self _
    obtain ⟨hmem, hkey⟩ := List.mem_filter.mp hmem
    exact .inr (of_decide_eq_true hkey ▸ hmem)
  case h_3 => cases h

theorem mem_of_mapM_eq_some {α β : Type} {f : α → Option β} {xs : List α} {ys : List β}
    (h : xs.mapM f = some ys) {y : β} (hy : y ∈ ys) : ∃ x ∈ xs, f x = some y := by
  induction xs generalizing ys with
  | nil =>
    obtain rfl : ys = [] := by simpa using h.symm
    cases hy
  | cons x xs ih =>
    simp only [List.mapM_cons, Option.bind_eq_bind, Option.bind_eq_some_iff, Option.pure_def,
      Option.some.injEq] at h
    obtain ⟨z, hz, zs, hzs, rfl⟩ := h
    rcases List.mem_cons.mp hy with rfl | hy
    · exact ⟨x, List.mem_cons_self, hz⟩
    · obtain ⟨w, hw, hfw⟩ := ih hzs hy
      exact ⟨w, List.mem_cons_of_mem _ hw, hfw⟩

theorem sizeOf_lt_of_values? {fields : List Field} {j : Json} {values : List Json}
    (h : j.values? fields = some values) {value : Json} (hvalue : value ∈ values) : sizeOf value < sizeOf j := by
  cases j with
  | obj members =>
    obtain ⟨field, -, hfield⟩ := mem_of_mapM_eq_some h hvalue
    rcases Field.omitted_or_mem_of_find? hfield with ⟨-, rfl⟩ | hmem
    · cases members <;> simp +arith
    · have hlt := List.sizeOf_lt_of_mem hmem
      simp only [Prod.mk.sizeOf_spec, obj.sizeOf_spec] at hlt ⊢
      omega
  | arr elements =>
    simp only [values?, Option.ite_none_right_eq_some, Option.some.injEq] at h
    obtain ⟨-, rfl⟩ := h
    have hlt := List.sizeOf_lt_of_mem hvalue
    simp only [arr.sizeOf_spec]
    omega
  | _ => cases h

end Json

end SqlText
