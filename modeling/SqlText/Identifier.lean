import SqlText.Buffer

/-! # Identifiers

An identifier is a bare word or stands between quotes. Inside quotes the closing quote is written
twice, so any text can be an identifier and its end is never in doubt. Identifiers are ordered by
their values first, by the bytes of the UTF-8 encoding; of two equal values the bare one is smaller,
and quotes compare by code point. -/

namespace SqlText

/-- A name and the quote in front of it, if there is one. -/
structure Identifier where
  value : String
  quote : Option Char := none
deriving DecidableEq, Repr, Inhabited

namespace Identifier

def bare (value : String) : Identifier := ⟨value, none⟩

def quoted (quote : Char) (value : String) : Identifier := ⟨value, some quote⟩

/-- A square bracket is closed by its partner and every other quote by itself. -/
def closingQuote (opening : Char) : Char := if opening = '[' then ']' else opening

/-- Writes every `close` twice. -/
def double (close : Char) : List Char → List Char
  | [] => []
  | c :: cs => if c = close then close :: c :: double close cs else c :: double close cs

def quotedText (opening : Char) (value : String) : String :=
  let close := closingQuote opening
  .ofList (opening :: double close value.toList ++ [close])

/-- A bare value is written as it is, whatever it holds. -/
def text (i : Identifier) : String :=
  match i.quote with
  | none => i.value
  | some opening => quotedText opening i.value

instance : Emit Identifier := ⟨fun i b => b.push i.text⟩

instance : ToString Identifier := ⟨toSql⟩

/-! ## Order -/

def bytes (i : Identifier) : List UInt8 := i.value.toUTF8.data.toList

instance : Ord Identifier where
  compare a b := (compare a.bytes b.bytes).then (compare a.quote b.quote)

def le (a b : Identifier) : Bool := (compare a b).isLE

/-- Equal identifiers all stay. -/
def sort (is : List Identifier) : List Identifier := is.mergeSort le

end Identifier

end SqlText
