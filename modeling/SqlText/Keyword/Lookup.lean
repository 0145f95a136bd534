import Std.Data.HashMap
import SqlText.Keyword.Basic

/-! # Finding the keyword a word spells

The letter case of ASCII letters does not matter and every other character stands for itself, so a
word names a keyword exactly when its upper-case form is the text of one. -/

namespace SqlText

/-! ## Words that name nothing -/

/-- Why a word was not read; each case keeps the word as it was given. -/
inductive WordError where
  | unknownKeyword (word : String)
  | unknownFrameUnit (word : String)
deriving DecidableEq, Repr

/-- The word is repeated as it was given. -/
def WordError.message : WordError → String
  | unknownKeyword word => "unknown keyword: " ++ word
  | unknownFrameUnit word => "unknown window frame unit: " ++ word

instance : ToString WordError := ⟨WordError.message⟩

/-! ## Lookup -/

namespace Keyword

/-- No keyword is longer than this many bytes. -/
def maxLength : Nat := 32

/-- The catalogue by text. -/
def index : Std.HashMap String Keyword := .ofList (all.map fun k => (k.text, k))

/-- The upper case of a byte that is an ASCII letter. -/
def upperByte (b : UInt8) : UInt8 := if 0x61 ≤ b ∧ b ≤ 0x7a then b - 0x20 else b

/-- The bytes of a word in upper case, read as text again. -/
def key? (word : String) : Option String := String.fromUTF8? ⟨word.toUTF8.data.map upperByte⟩

/-- A word too long to be a keyword is turned away before its letters are read. -/
def lookup (word : String) : Option Keyword :=
  if word.utf8ByteSize > maxLength then none else (key? word).bind fun key => index[key]?

/-- Like looking it up, with the word in the refusal. -/
def parse (word : String) : Except WordError Keyword :=
  match lookup word with
  | some k => .ok k
  | none => .error (.unknownKeyword word)

end Keyword

/-! ## Classes of words -/

/-- What a bare word is. -/
inductive WordClass where
  | keyword (k : Keyword)
  | identifier
deriving DecidableEq, Repr

namespace WordClass

/-- Every word that is no keyword can be an identifier. -/
def classify (word : String) : WordClass :=
  match Keyword.lookup word with
  | some k => .keyword k
  | none => .identifier

/-- The keyword of a word, with the marker for one that is none. -/
def toKeyword : WordClass → Keyword
  | keyword k => k
  | identifier => .UNDEFINED

end WordClass

end SqlText
