/-! # Writing statement text

A buffer holds the text written so far and only grows at its end. Every type that has a text writes
it into a buffer it is handed; its text alone is what it writes into an empty one. -/

namespace SqlText

/-- Text that can only be added to. -/
structure Buffer where
  text : String
deriving DecidableEq, Repr

namespace Buffer

def empty : Buffer := ⟨""⟩

def push (b : Buffer) (s : String) : Buffer := ⟨b.text ++ s⟩

def isEmpty (b : Buffer) : Bool := b.text.isEmpty

instance : Inhabited Buffer := ⟨empty⟩

@[simp] theorem text_push (b : Buffer) (s : String) : (b.push s).text = b.text ++ s := rfl

/-- The parenthesis before an operand that needs one. -/
def openIf (b : Buffer) (wrap : Bool) : Buffer := if wrap then b.push "(" else b

def closeIf (b : Buffer) (wrap : Bool) : Buffer := if wrap then b.push ")" else b

end Buffer

/-! ## Types that have a text -/

/-- How a value is written behind the text that is there. -/
class Emit (α : Type) where
  emit : α → Buffer → Buffer

/-- The text of a value by itself. -/
def toSql {α : Type} [Emit α] (a : α) : String := (Emit.emit a .empty).text

/-- A value that is held by reference; it is written in place of the reference. -/
structure Pointer (α : Type) where
  target : α

instance {α : Type} [Emit α] : Emit (Pointer α) := ⟨fun p b => Emit.emit p.target b⟩

namespace Buffer

variable {α : Type} [Emit α]

def add (b : Buffer) (a : α) : Buffer := Emit.emit a b

/-- The separator stands between two elements, not before the first or after the last. -/
def addSeparated (b : Buffer) (separator : String) : List α → Buffer
  | [] => b
  | a :: rest => rest.foldl (fun b x => (b.push separator).add x) (b.add a)

def addCommaSeparated (b : Buffer) (xs : List α) : Buffer := b.addSeparated ", " xs

end Buffer

end SqlText
