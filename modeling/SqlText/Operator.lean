/-! # Operators -/

namespace SqlText

inductive BinaryOp where
  | add | sub | mul | div | mod
  | eq | ne | lt | le | gt | ge
  | and | or
  | concat | like
deriving DecidableEq, Repr

namespace BinaryOp

def text : BinaryOp → String
  | add => "+"
  | sub => "-"
  | mul => "*"
  | div => "/"
  | mod => "%"
  | eq => "="
  | ne => "<>"
  | lt => "<"
  | le => "<="
  | gt => ">"
  | ge => ">="
  | and => "AND"
  | or => "OR"
  | concat => "||"
  | like => "LIKE"

/-- The higher, the tighter an operator binds. -/
def precedence : BinaryOp → Nat
  | or => 1
  | and => 2
  | eq | ne | lt | le | gt | ge => 3
  | like => 4
  | add | sub | concat => 5
  | mul | div | mod => 6

/-- Whether a chain of the operator means the same however it is grouped. -/
def isAssociative : BinaryOp → Bool
  | add | mul | and | or | concat => true
  | _ => false

end BinaryOp

inductive UnaryOp where
  | neg
  | not
  | bitNot
deriving DecidableEq, Repr

/-- The text with the space that a word needs before its operand. -/
def UnaryOp.text : UnaryOp → String
  | neg => "-"
  | not => "NOT "
  | bitNot => "~"

/-! ## Sorting -/

inductive SortDirection where
  | asc
  | desc
deriving DecidableEq, Repr

def SortDirection.text : SortDirection → String
  | asc => "ASC"
  | desc => "DESC"

/-- Where nulls stand among sorted values. -/
inductive NullPlacement where
  | first
  | last
deriving DecidableEq, Repr

def NullPlacement.text : NullPlacement → String
  | first => "NULLS FIRST"
  | last => "NULLS LAST"

end SqlText
