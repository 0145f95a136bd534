import SqlText.Buffer
import SqlText.Keyword.Lookup

/-! # Frame units -/

namespace SqlText

/-- What the offsets of a frame count: rows, distances in the sorted value, or groups of peers. -/
inductive FrameUnit where
  | rows
  | range
  | groups
deriving DecidableEq, Repr

namespace FrameUnit

def keyword : FrameUnit → Keyword
  | rows => .ROWS
  | range => .RANGE
  | groups => .GROUPS

def text (u : FrameUnit) : String := u.keyword.name

instance : Emit FrameUnit := ⟨fun u b => b.push u.text⟩

instance : ToString FrameUnit := ⟨toSql⟩

/-- A keyword that is no unit is refused like a word that is no keyword. -/
def parse (word : String) : Except WordError FrameUnit :=
  match Keyword.parse word with
  | .ok .ROWS => .ok rows
  | .ok .RANGE => .ok range
  | .ok .GROUPS => .ok groups
  | _ => .error (.unknownFrameUnit word)

end FrameUnit

end SqlText
