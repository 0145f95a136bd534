import SqlText.Identifier
import SqlText.Literal
import SqlText.Operator
import SqlText.FrameUnit

/-! # Expressions and windows

An expression may call a function over a window, and a window is partitioned, ordered and framed by
expressions, so the two are one family of types. -/

namespace SqlText

mutual

/-- A scalar expression. Parentheses that an operand needs are no part of it. -/
inductive Expr where
  | literal (value : Literal)
  | identifier (name : Identifier)
  /-- A name qualified by others, outermost first. -/
  | compound (parts : List Identifier)
  | binary (left : Expr) (op : BinaryOp) (right : Expr)
  | unary (op : UnaryOp) (operand : Expr)
  | call (call : Call)
  /-- Parentheses that were asked for. -/
  | nested (inner : Expr)
  | nullTest (operand : Expr) (negated : Bool)
  | between (operand low high : Expr) (negated : Bool)
  /-- All columns. -/
  | wildcard

/-- A function call; with a window it is a window function. -/
structure Call where
  name : String
  args : List Expr
  distinct : Bool
  window : Option Window

/-- The window of a call: written out, or a name that is defined elsewhere. -/
inductive Window where
  | inline (spec : WindowSpec)
  | named (name : Identifier)

/-- What a window is. An order that is there but has no items is not the same as none. -/
structure WindowSpec where
  partitionBy : List Expr
  orderBy : Option (List OrderItem)
  frame : Option Frame

/-- A value to sort by, with the marks behind it. -/
structure OrderItem where
  expr : Expr
  direction : Option SortDirection
  nulls : Option NullPlacement

/-- One end of a frame, by its distance from the current row. -/
inductive FrameBound where
  | currentRow
  | unboundedPreceding
  | preceding (offset : Expr)
  | unboundedFollowing
  | following (offset : Expr)

/-- The rows around the current one. A frame without a stop ends at the current row. -/
structure Frame where
  unit : FrameUnit
  start : FrameBound
  stop : Option FrameBound

end

/-- A window specification under a name, for calls to refer to. -/
structure NamedWindow where
  name : Identifier
  spec : WindowSpec

instance : Inhabited Expr := ⟨.wildcard⟩

end SqlText
