import SqlText.Buffer
import SqlText.Binary64.Text

/-! # Literals -/

namespace SqlText

inductive Literal where
  | integer (value : Int64)
  | float (value : Binary64)
  | string (value : String)
  | boolean (value : Bool)
  | null
deriving Repr, Inhabited

namespace Literal

/-- A quote inside a string is written as two. -/
def stringText (value : String) : String :=
  "'" ++ .ofList (value.toList.flatMap fun c => if c = '\'' then ['\'', '\''] else [c]) ++ "'"

/-- No digits stand for the numbers that are not finite; they are quoted words. -/
def floatText (x : Binary64) : String :=
  if x.isNaN then "'NaN'"
  else if x.isInfinite then if x.isNegative then "'-Infinity'" else "'Infinity'"
  else x.text

/-- A negative integer has its sign, and there are no parentheses around it. -/
def text : Literal → String
  | integer n => toString n.toInt
  | float x => floatText x
  | string s => stringText s
  | boolean true => "TRUE"
  | boolean false => "FALSE"
  | null => "NULL"

instance : Emit Literal := ⟨fun l b => b.push l.text⟩

instance : ToString Literal := ⟨toSql⟩

/-- Two floats are compared as numbers, so a literal need not equal itself. -/
def beq : Literal → Literal → Bool
  | integer m, integer n => m = n
  | float x, float y => x.eqv y
  | string s, string t => s = t
  | boolean a, boolean b => a = b
  | null, null => true
  | _, _ => false

instance : BEq Literal := ⟨beq⟩

end Literal

end SqlText
