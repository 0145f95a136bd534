import SqlText.FrameUnit
import SqlText.Operator

/-! # Names in JSON

Where a value is one of a fixed set, its name stands for it. A keyword is named by the words of its
declared name, each with a capital letter and all run together. -/

namespace SqlText

/-! ## Operators and sorting -/

namespace BinaryOp

def all : List BinaryOp :=
  [add, sub, mul, div, mod, eq, ne, lt, le, gt, ge, and, or, concat, like]

def jsonName : BinaryOp → String
  | add => "Add"
  | sub => "Sub"
  | mul => "Mul"
  | div => "Div"
  | mod => "Mod"
  | eq => "Eq"
  | ne => "NotEq"
  | lt => "Lt"
  | le => "LtEq"
  | gt => "Gt"
  | ge => "GtEq"
  | and => "And"
  | or => "Or"
  | concat => "Concat"
  | like => "Like"

def ofJsonName? (name : String) : Option BinaryOp := all.find? (·.jsonName = name)

end BinaryOp

namespace UnaryOp

def all : List UnaryOp := [neg, not, bitNot]

def jsonName : UnaryOp → String
  | neg => "Neg"
  | not => "Not"
  | bitNot => "BitNot"

def ofJsonName? (name : String) : Option UnaryOp := all.find? (·.jsonName = name)

end UnaryOp

namespace SortDirection

def all : List SortDirection := [asc, desc]

def jsonName : SortDirection → String
  | asc => "Asc"
  | desc => "Desc"

def ofJsonName? (name : String) : Option SortDirection := all.find? (·.jsonName = name)

end SortDirection

namespace NullPlacement

def all : List NullPlacement := [first, last]

def jsonName : NullPlacement → String
  | first => "First"
  | last => "Last"

def ofJsonName? (name : String) : Option NullPlacement := all.find? (·.jsonName = name)

end NullPlacement

namespace FrameUnit

def all : List FrameUnit := [rows, range, groups]

def jsonName : FrameUnit → String
  | rows => "Rows"
  | range => "Range"
  | groups => "Groups"

def ofJsonName? (name : String) : Option FrameUnit := all.find? (·.jsonName = name)

end FrameUnit

/-! ## Keywords -/

namespace Keyword

/-- Lower case after the first letter of each word; the underscores between words are left out. -/
def capitalizeWords (start : Bool) : List Char → List Char
  | [] => []
  | c :: cs =>
    if c = '_' then capitalizeWords true cs
    else (if start then c else c.toLower) :: capitalizeWords false cs

def jsonName (k : Keyword) : String := .ofList (capitalizeWords true k.name.toList)

/-- The marker for a word outside the catalogue has a name too. -/
def ofJsonName? (name : String) : Option Keyword := (all ++ [UNDEFINED]).find? (·.jsonName = name)

end Keyword

end SqlText
