import SqlText.Binary64.Basic
import SqlText.Json.Basic
import SqlText.Json.Names
import SqlText.Node

/-! # Values from JSON

Reading takes what writing makes and more. The members of an object may stand in any order and with
others among them that are no fields, one for an optional field may be left out, and an array with the
fields in their order does for the object. A case without data may be written like one with data, over
null. Whatever else is missing or of another shape, at any depth, makes the whole unreadable. -/

namespace SqlText

/-! ## Leaves -/

def BinaryOp.ofJson? (j : Json) : Option BinaryOp := j.unit?.bind ofJsonName?

def UnaryOp.ofJson? (j : Json) : Option UnaryOp := j.unit?.bind ofJsonName?

def SortDirection.ofJson? (j : Json) : Option SortDirection := j.unit?.bind ofJsonName?

def NullPlacement.ofJson? (j : Json) : Option NullPlacement := j.unit?.bind ofJsonName?

def FrameUnit.ofJson? (j : Json) : Option FrameUnit := j.unit?.bind ofJsonName?

def Keyword.ofJson? (j : Json) : Option Keyword := j.unit?.bind ofJsonName?

/-- A quote is a string of one character. -/
def Identifier.quoteOfJson? : Json → Option Char
  | .str s => match s.toList with
    | [c] => some c
    | _ => none
  | _ => none

/-- A bare name has no quote. -/
def Identifier.jsonFields : List Json.Field := [⟨"value", false⟩, ⟨"quote_style", true⟩]

def Identifier.ofJson? (j : Json) : Option Identifier := do
  let [value, quote] ← j.values? jsonFields | none
  return ⟨← value.string?, ← Json.optional? quoteOfJson? quote⟩

/-- Only a number without fraction or exponent, of 64 bits with its sign. -/
def Literal.integerOfJson? : Json → Option Int64
  | .int n => if Int64.minValue.toInt ≤ n ∧ n ≤ Int64.maxValue.toInt then some (.ofInt n) else none
  | _ => none

/-- Any number, rounded to the nearest float. -/
def Literal.floatOfJson? : Json → Option Binary64
  | .int n => Binary64.ofInt? n
  | .float x => if x.isFinite then some x else none
  | _ => none

def Literal.ofJson? : Json → Option Literal
  | .obj [("Integer", body)] => (integerOfJson? body).map .integer
  | .obj [("Float", body)] => (floatOfJson? body).map .float
  | .obj [("String", body)] => body.string?.map .string
  | .obj [("Boolean", body)] => body.bool?.map .boolean
  | .str "Null" | .obj [("Null", .null)] => some .null
  | _ => none

/-! ## Expressions and windows -/

def Expr.binaryFields : List Json.Field := [⟨"left", false⟩, ⟨"op", false⟩, ⟨"right", false⟩]

def Expr.unaryFields : List Json.Field := [⟨"op", false⟩, ⟨"operand", false⟩]

def Expr.nullTestFields : List Json.Field := [⟨"expr", false⟩, ⟨"negated", false⟩]

def Expr.betweenFields : List Json.Field :=
  [⟨"expr", false⟩, ⟨"low", false⟩, ⟨"high", false⟩, ⟨"negated", false⟩]

/-- Only a window may be missing. -/
def Call.jsonFields : List Json.Field :=
  [⟨"name", false⟩, ⟨"args", false⟩, ⟨"distinct", false⟩, ⟨"over", true⟩]

/-- There is always a list to partition by, if only an empty one. -/
def WindowSpec.jsonFields : List Json.Field :=
  [⟨"partition_by", false⟩, ⟨"order_by", true⟩, ⟨"window_frame", true⟩]

/-- Neither mark need be there. -/
def OrderItem.jsonFields : List Json.Field := [⟨"expr", false⟩, ⟨"direction", true⟩, ⟨"nulls", true⟩]

/-- The second end may be missing. -/
def Frame.jsonFields : List Json.Field := [⟨"units", false⟩, ⟨"start_bound", false⟩, ⟨"end_bound", true⟩]

mutual

def Expr.ofJson? (j : Json) : Option Expr :=
  match j with
  | .obj [("Literal", body)] => (Literal.ofJson? body).map .literal
  | .obj [("Identifier", body)] => (Identifier.ofJson? body).map .identifier
  | .obj [("CompoundIdentifier", .arr parts)] => (parts.mapM Identifier.ofJson?).map .compound
  | .obj [("Binary", body)] => (Expr.binaryOfJson? body).map fun (left, op, right) => .binary left op right
  | .obj [("Unary", body)] => (Expr.unaryOfJson? body).map fun (op, operand) => .unary op operand
  | .obj [("Function", body)] => (Call.ofJson? body).map .call
  | .obj [("Nested", body)] => (Expr.ofJson? body).map .nested
  | .obj [("IsNull", body)] => (Expr.nullTestOfJson? body).map fun (operand, negated) => .nullTest operand negated
  | .obj [("Between", body)] =>
    (Expr.betweenOfJson? body).map fun (operand, low, high, negated) => .between operand low high negated
  | .str "Wildcard" | .obj [("Wildcard", .null)] => some .wildcard
  | _ => none
termination_by sizeOf j

/-- One element that is no expression spoils the list. -/
def Expr.listOfJson? (j : Json) : Option (List Expr) :=
  match j with
  | .arr es => es.attach.mapM fun e => Expr.ofJson? e.1
  | _ => none
termination_by sizeOf j
decreasing_by
  have := List.sizeOf_lt_of_mem e.2
  simp only [Json.arr.sizeOf_spec]
  omega

def Expr.binaryOfJson? (j : Json) : Option (Expr × BinaryOp × Expr) :=
  match _h : j.values? Expr.binaryFields with
  | some [left, op, right] => do
    return (← Expr.ofJson? left, ← BinaryOp.ofJson? op, ← Expr.ofJson? right)
  | _ => none
termination_by sizeOf j
decreasing_by all_goals exact Json.sizeOf_lt_of_values? ‹_› (by simp)

def Expr.unaryOfJson? (j : Json) : Option (UnaryOp × Expr) :=
  match _h : j.values? Expr.unaryFields with
  | some [op, operand] => do return (← UnaryOp.ofJson? op, ← Expr.ofJson? operand)
  | _ => none
termination_by sizeOf j
decreasing_by all_goals exact Json.sizeOf_lt_of_values? ‹_› (by simp)

def Expr.nullTestOfJson? (j : Json) : Option (Expr × Bool) :=
  match _h : j.values? Expr.nullTestFields with
  | some [operand, negated] => do return (← Expr.ofJson? operand, ← negated.bool?)
  | _ => none
termination_by sizeOf j
decreasing_by all_goals exact Json.sizeOf_lt_of_values? ‹_› (by simp)

def Expr.betweenOfJson? (j : Json) : Option (Expr × Expr × Expr × Bool) :=
  match _h : j.values? Expr.betweenFields with
  | some [operand, low, high, negated] => do
    return (← Expr.ofJson? operand, ← Expr.ofJson? low, ← Expr.ofJson? high, ← negated.bool?)
  | _ => none
termination_by sizeOf j
decreasing_by all_goals exact Json.sizeOf_lt_of_values? ‹_› (by simp)

/-- Null for the window is no window. -/
def Call.ofJson? (j : Json) : Option Call :=
  match _h : j.values? Call.jsonFields with
  | some [name, args, distinct, window] => do
    let name ← name.string?
    let args ← Expr.listOfJson? args
    let distinct ← distinct.bool?
    let window ← (if window.isNull then some none else (Window.ofJson? window).map some)
    return ⟨name, args, distinct, window⟩
  | _ => none
termination_by sizeOf j
decreasing_by all_goals exact Json.sizeOf_lt_of_values? ‹_› (by simp)

def Window.ofJson? (j : Json) : Option Window :=
  match j with
  | .obj [("WindowSpec", body)] => (WindowSpec.ofJson? body).map .inline
  | .obj [("NamedWindow", body)] => (Identifier.ofJson? body).map .named
  | _ => none
termination_by sizeOf j

/-- Null for the order is no order, and an empty list is an order without items. -/
def WindowSpec.ofJson? (j : Json) : Option WindowSpec :=
  match _h : j.values? WindowSpec.jsonFields with
  | some [partitionBy, orderBy, frame] => do
    let partitionBy ← Expr.listOfJson? partitionBy
    let orderBy ← (if orderBy.isNull then some none else (OrderItem.listOfJson? orderBy).map some)
    let frame ← (if frame.isNull then some none else (Frame.ofJson? frame).map some)
    return ⟨partitionBy, orderBy, frame⟩
  | _ => none
termination_by sizeOf j
decreasing_by all_goals exact Json.sizeOf_lt_of_values? ‹_› (by simp)

def OrderItem.ofJson? (j : Json) : Option OrderItem :=
  match _h : j.values? OrderItem.jsonFields with
  | some [expr, direction, nulls] => do
    let expr ← Expr.ofJson? expr
    let direction ← Json.optional? SortDirection.ofJson? direction
    let nulls ← Json.optional? NullPlacement.ofJson? nulls
    return ⟨expr, direction, nulls⟩
  | _ => none
termination_by sizeOf j
decreasing_by all_goals exact Json.sizeOf_lt_of_values? ‹_› (by simp)

def OrderItem.listOfJson? (j : Json) : Option (List OrderItem) :=
  match j with
  | .arr items => items.attach.mapM fun item => OrderItem.ofJson? item.1
  | _ => none
termination_by sizeOf j
decreasing_by
  have := List.sizeOf_lt_of_mem item.2
  simp only [Json.arr.sizeOf_spec]
  omega

def Frame.ofJson? (j : Json) : Option Frame :=
  match _h : j.values? Frame.jsonFields with
  | some [unit, start, stop] => do
    let unit ← FrameUnit.ofJson? unit
    let start ← FrameBound.ofJson? start
    let stop ← (if stop.isNull then some none else (FrameBound.ofJson? stop).map some)
    return ⟨unit, start, stop⟩
  | _ => none
termination_by sizeOf j
decreasing_by all_goals exact Json.sizeOf_lt_of_values? ‹_› (by simp)

/-- Null in the place of an offset makes the end unbounded. -/
def FrameBound.ofJson? (j : Json) : Option FrameBound :=
  match j with
  | .str "CurrentRow" | .obj [("CurrentRow", .null)] => some .currentRow
  | .obj [("Preceding", .null)] => some .unboundedPreceding
  | .obj [("Preceding", body)] => (Expr.ofJson? body).map .preceding
  | .obj [("Following", .null)] => some .unboundedFollowing
  | .obj [("Following", body)] => (Expr.ofJson? body).map .following
  | _ => none
termination_by sizeOf j

end

def NamedWindow.jsonFields : List Json.Field := [⟨"name", false⟩, ⟨"spec", false⟩]

def NamedWindow.ofJson? (j : Json) : Option NamedWindow := do
  let [name, spec] ← j.values? jsonFields | none
  return ⟨← Identifier.ofJson? name, ← WindowSpec.ofJson? spec⟩

/-- What `j` holds when it is to be a node of the given kind. -/
def Node.ofJson? (kind : Node.Kind) (j : Json) : Option Node :=
  match kind with
  | .identifier => (Identifier.ofJson? j).map .identifier
  | .literal => (Literal.ofJson? j).map .literal
  | .expr => (Expr.ofJson? j).map .expr
  | .call => (Call.ofJson? j).map .call
  | .orderItem => (OrderItem.ofJson? j).map .orderItem
  | .frameUnit => (FrameUnit.ofJson? j).map .frameUnit
  | .frameBound => (FrameBound.ofJson? j).map .frameBound
  | .frame => (Frame.ofJson? j).map .frame
  | .windowSpec => (WindowSpec.ofJson? j).map .windowSpec
  | .namedWindow => (NamedWindow.ofJson? j).map .namedWindow
  | .window => (Window.ofJson? j).map .window

end SqlText
