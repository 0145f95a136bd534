import SqlText.Json.Basic
import SqlText.Json.Names
import SqlText.Node

/-! # Values as JSON

A structure is an object with a member for every field, null where an optional one has no value. Of
the other types, a case without data is its name and a case with data is an object of one member,
named after the case. -/

namespace SqlText

namespace Json

/-- A case with data. -/
def tagged (name : String) (body : Json) : Json := .obj [(name, body)]

def optional {α : Type} (encode : α → Json) : Option α → Json
  | none => .null
  | some a => encode a

end Json

/-! ## Leaves -/

def BinaryOp.toJson (op : BinaryOp) : Json := .str op.jsonName

def UnaryOp.toJson (op : UnaryOp) : Json := .str op.jsonName

def SortDirection.toJson (d : SortDirection) : Json := .str d.jsonName

def NullPlacement.toJson (p : NullPlacement) : Json := .str p.jsonName

def FrameUnit.toJson (u : FrameUnit) : Json := .str u.jsonName

def Keyword.toJson (k : Keyword) : Json := .str k.jsonName

def Identifier.toJson (i : Identifier) : Json :=
  .obj [("value", .str i.value), ("quote_style", .optional (fun q => .str q.toString) i.quote)]

/-- No number stands for a float that is not finite. -/
def Literal.toJson : Literal → Json
  | .integer n => .tagged "Integer" (.int n.toInt)
  | .float x => .tagged "Float" (if x.isFinite then .float x else .null)
  | .string s => .tagged "String" (.str s)
  | .boolean b => .tagged "Boolean" (.bool b)
  | .null => .str "Null"

/-! ## Expressions and windows -/

mutual

def Expr.toJson : Expr → Json
  | .literal value => .tagged "Literal" value.toJson
  | .identifier name => .tagged "Identifier" name.toJson
  | .compound parts => .tagged "CompoundIdentifier" (.arr (parts.map (·.toJson)))
  | .binary left op right => .tagged "Binary"
    (.obj [("left", left.toJson), ("op", op.toJson), ("right", right.toJson)])
  | .unary op operand => .tagged "Unary" (.obj [("op", op.toJson), ("operand", operand.toJson)])
  | .call call => .tagged "Function" call.toJson
  | .nested inner => .tagged "Nested" inner.toJson
  | .nullTest operand negated => .tagged "IsNull"
    (.obj [("expr", operand.toJson), ("negated", .bool negated)])
  | .between operand low high negated => .tagged "Between"
    (.obj [("expr", operand.toJson), ("low", low.toJson), ("high", high.toJson),
      ("negated", .bool negated)])
  | .wildcard => .str "Wildcard"

def Expr.listToJson : List Expr → List Json
  | [] => []
  | e :: rest => e.toJson :: Expr.listToJson rest

def Call.toJson : Call → Json
  | ⟨name, args, distinct, window⟩ =>
    .obj [("name", .str name), ("args", .arr (Expr.listToJson args)), ("distinct", .bool distinct),
      ("over", Window.optionToJson window)]

def Window.optionToJson : Option Window → Json
  | none => .null
  | some window => window.toJson

def Window.toJson : Window → Json
  | .inline spec => .tagged "WindowSpec" spec.toJson
  | .named name => .tagged "NamedWindow" name.toJson

/-- An order without items is an empty list and not null. -/
def WindowSpec.toJson : WindowSpec → Json
  | ⟨partitionBy, orderBy, frame⟩ =>
    .obj [("partition_by", .arr (Expr.listToJson partitionBy)),
      ("order_by", OrderItem.optionToJson orderBy), ("window_frame", Frame.optionToJson frame)]

def OrderItem.optionToJson : Option (List OrderItem) → Json
  | none => .null
  | some items => .arr (OrderItem.listToJson items)

def OrderItem.listToJson : List OrderItem → List Json
  | [] => []
  | item :: rest => item.toJson :: OrderItem.listToJson rest

def OrderItem.toJson : OrderItem → Json
  | ⟨expr, direction, nulls⟩ =>
    .obj [("expr", expr.toJson), ("direction", .optional SortDirection.toJson direction),
      ("nulls", .optional NullPlacement.toJson nulls)]

def Frame.optionToJson : Option Frame → Json
  | none => .null
  | some frame => frame.toJson

def Frame.toJson : Frame → Json
  | ⟨unit, start, stop⟩ =>
    .obj [("units", unit.toJson), ("start_bound", start.toJson),
      ("end_bound", FrameBound.optionToJson stop)]

def FrameBound.optionToJson : Option FrameBound → Json
  | none => .null
  | some bound => bound.toJson

/-- An unbounded end has no offset. -/
def FrameBound.toJson : FrameBound → Json
  | .currentRow => .str "CurrentRow"
  | .unboundedPreceding => .tagged "Preceding" .null
  | .preceding offset => .tagged "Preceding" offset.toJson
  | .unboundedFollowing => .tagged "Following" .null
  | .following offset => .tagged "Following" offset.toJson

end

def NamedWindow.toJson (w : NamedWindow) : Json :=
  .obj [("name", w.name.toJson), ("spec", w.spec.toJson)]

def Node.toJson : Node → Json
  | .identifier i => i.toJson
  | .literal l => l.toJson
  | .expr e => e.toJson
  | .call c => c.toJson
  | .orderItem x => x.toJson
  | .frameUnit u => u.toJson
  | .frameBound bound => bound.toJson
  | .frame f => f.toJson
  | .windowSpec s => s.toJson
  | .namedWindow w => w.toJson
  | .window w => w.toJson

end SqlText
