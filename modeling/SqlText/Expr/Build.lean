import SqlText.Expr.Basic

/-! # Building expressions and windows -/

namespace SqlText

/-! ## Expressions -/

namespace Expr

/-- A bare name. -/
def name (value : String) : Expr := .identifier (.bare value)

/-- A bare name qualified by bare names. -/
def path (parts : List String) : Expr := .compound (parts.map .bare)

def integer (n : Int64) : Expr := .literal (.integer n)

def float (x : Binary64) : Expr := .literal (.float x)

def string (s : String) : Expr := .literal (.string s)

def boolean (b : Bool) : Expr := .literal (.boolean b)

def null : Expr := .literal .null

def eq (left right : Expr) : Expr := .binary left .eq right

def lt (left right : Expr) : Expr := .binary left .lt right

def gt (left right : Expr) : Expr := .binary left .gt right

def and (left right : Expr) : Expr := .binary left .and right

def or (left right : Expr) : Expr := .binary left .or right

def isNull (operand : Expr) : Expr := .nullTest operand false

def isNotNull (operand : Expr) : Expr := .nullTest operand true

def isBetween (operand low high : Expr) : Expr := .between operand low high false

end Expr

instance : Coe Literal Expr := ⟨.literal⟩
instance : Coe Identifier Expr := ⟨.identifier⟩
instance : Coe Call Expr := ⟨.call⟩

/-! ## Calls -/

namespace Call

/-- Without `DISTINCT` and without a window. -/
def plain (name : String) (args : List Expr) : Call := ⟨name, args, false, none⟩

/-- Equal arguments count once. -/
def onDistinct (c : Call) : Call := { c with distinct := true }

/-- Replaces the window there was. -/
def overWindow (c : Call) (w : Window) : Call := { c with window := some w }

end Call

def Expr.function (name : String) (args : List Expr) : Expr := .call (.plain name args)

/-! ## Order items -/

namespace OrderItem

def plain (e : Expr) : OrderItem := ⟨e, none, none⟩

def asc (x : OrderItem) : OrderItem := { x with direction := some .asc }

def desc (x : OrderItem) : OrderItem := { x with direction := some .desc }

def nullsFirst (x : OrderItem) : OrderItem := { x with nulls := some .first }

def nullsLast (x : OrderItem) : OrderItem := { x with nulls := some .last }

end OrderItem

instance : Coe Expr OrderItem := ⟨.plain⟩

/-! ## Frames -/

namespace Frame

def single (unit : FrameUnit) (start : FrameBound) : Frame := ⟨unit, start, none⟩

def between (unit : FrameUnit) (start stop : FrameBound) : Frame := ⟨unit, start, some stop⟩

/-- The frame of a window that is ordered and names none. -/
def implied : Frame := between .range .unboundedPreceding .currentRow

end Frame

instance : Inhabited Frame := ⟨.implied⟩

/-! ## Windows

Each of the three functions replaces its section and leaves the other two. -/

namespace WindowSpec

/-- No section is there, and nothing is written. -/
def empty : WindowSpec := ⟨[], none, none⟩

def partitionedBy (s : WindowSpec) (es : List Expr) : WindowSpec := { s with partitionBy := es }

def orderedBy (s : WindowSpec) (items : List OrderItem) : WindowSpec :=
  { s with orderBy := some items }

def framedBy (s : WindowSpec) (f : Frame) : WindowSpec := { s with frame := some f }

end WindowSpec

instance : Coe WindowSpec Window := ⟨.inline⟩
instance : Coe Identifier Window := ⟨.named⟩

end SqlText
