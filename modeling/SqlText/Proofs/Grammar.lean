import Mathlib.Algebra.Group.Nat.Defs
import SqlText.Expr.Emit
import SqlText.Proofs.Catalogue
import SqlText.Proofs.Token

/-! # The reference grammar

or := and {OR and}; and := not {AND not}; not := NOT not | cmp;
cmp := like {(= | <> | < | <= | > | >=) like | IS [NOT] NULL};
like := add {LIKE add | [NOT] BETWEEN add AND add}; add := mul {(+ | - | '||') mul};
mul := sign {(* | / | %) sign}; sign := (- | ~) sign | prim;
prim := literal | ident{.ident} | * | name([DISTINCT] [or{, or}]) [OVER window] | (or).

Every loop groups to the left. Windows come on top of it, and are derived only where they are allowed. -/

namespace SqlText

/-! ## Levels -/

/-- The rules for expressions, from the loosest to the tightest. -/
inductive Level where
  | or | and | not | cmp | like | add | mul | sign | prim
deriving DecidableEq, Repr

namespace Level

/-- The higher, the tighter. -/
def rank : Level → Nat
  | or => 1
  | and => 2
  | not => 3
  | cmp => 4
  | like => 5
  | add => 6
  | mul => 7
  | sign => 8
  | prim => 9

/-- The level that a level's operands are of. -/
def next : Level → Level
  | or => and
  | and => not
  | not => cmp
  | cmp => like
  | like => add
  | add => mul
  | mul => sign
  | sign | prim => prim

theorem rank_next {l : Level} (h : l ≠ prim) : l.next.rank = l.rank + 1 := by
  cases l <;> first | rfl | exact absurd rfl h

theorem rank_lt_next {l : Level} (h : l ≠ prim) : l.rank < l.next.rank := by
  rw [rank_next h]
  omega

theorem rank_le (l : Level) : 1 ≤ l.rank ∧ l.rank ≤ 9 := by
  cases l <;> decide

theorem rank_inj {l l' : Level} (h : l.rank = l'.rank) : l = l' := by
  cases l <;> cases l' <;> first | rfl | (revert h; decide)

end Level

/-- The level whose loop has the operator. -/
def BinaryOp.level : BinaryOp → Level
  | or => .or
  | and => .and
  | eq | ne | lt | le | gt | ge => .cmp
  | like => .like
  | add | sub | concat => .add
  | mul | div | mod => .mul

/-- The level that may start with the operator. -/
def UnaryOp.level : UnaryOp → Level
  | not => .not
  | neg | bitNot => .sign

/-! ## Tokens of the grammar -/

def BinaryOp.token (op : BinaryOp) : Token := .word op.text

def UnaryOp.token : UnaryOp → Token
  | neg => .word "-"
  | not => .word "NOT"
  | bitNot => .word "~"

def Expr.nullTestTokens : (negated : Bool) → List Token
  | true => [.word "IS", .word "NOT", .word "NULL"]
  | false => [.word "IS", .word "NULL"]

def Expr.betweenTokens : (negated : Bool) → List Token
  | true => [.word "NOT", .word "BETWEEN"]
  | false => [.word "BETWEEN"]

def Call.distinctTokens : (distinct : Bool) → List Token
  | true => [.word "DISTINCT"]
  | false => []

def OrderItem.directionTokens : Option SortDirection → List Token
  | none => []
  | some .asc => [.word "ASC"]
  | some .desc => [.word "DESC"]

def OrderItem.nullsTokens : Option NullPlacement → List Token
  | none => []
  | some .first => [.word "NULLS", .word "FIRST"]
  | some .last => [.word "NULLS", .word "LAST"]

/-- The keywords that expressions and windows are written with. -/
def writtenKeywords : List Keyword :=
  [.AND, .OR, .LIKE, .NOT, .IS, .NULL, .BETWEEN, .TRUE, .FALSE, .DISTINCT, .OVER, .PARTITION, .BY, .ORDER, .ASC,
    .DESC, .NULLS, .FIRST, .LAST, .ROWS, .RANGE, .GROUPS, .CURRENT, .ROW, .UNBOUNDED, .PRECEDING, .FOLLOWING]

/-- Their texts, all in upper case. -/
def writtenWords : List String := writtenKeywords.map Keyword.text

/-- Letters, digits and underscores, with no digit first. -/
def PlainWord (s : String) : Prop := IsWord s ∧ ∀ c ∈ s.toList.head?, c.isDigit = false

instance (s : String) : Decidable (PlainWord s) :=
  haveI : Decidable (∀ c ∈ s.toList.head?, c.isDigit = false) := s.toList.head?.decidableForallMem
  inferInstanceAs (Decidable (_ ∧ _))

/-- A plain word that is no keyword in any letter case. -/
def IsName (s : String) : Prop := PlainWord s ∧ WordClass.classify s = .identifier

instance (s : String) : Decidable (IsName s) := inferInstanceAs (Decidable (_ ∧ _))

theorem writtenKeywords_subset : writtenKeywords ⊆ Keyword.all :=
  Keyword.subset_all (by decide +kernel)

theorem not_isName_of_written {s : String} (h : s ∈ writtenWords) : ¬ IsName s := by
  rintro ⟨-, hclass⟩
  obtain ⟨k, hk, rfl⟩ := List.mem_map.mp h
  have hupper : k.text.toUpper = k.text := by
    apply String.toList_inj.mp
    rw [String.toUpper, String.toList_map]
    exact (by decide : ∀ s ∈ writtenWords, s.toList.map Char.toUpper = s.toList) _ h
  exact Keyword.classify_eq_identifier_iff.mp hclass k ⟨writtenKeywords_subset hk, hupper⟩

theorem isName_of_utf8ByteSize_le_one {s : String} (hs : PlainWord s) (h : s.utf8ByteSize ≤ 1) : IsName s := by
  refine ⟨hs, Keyword.classify_eq_identifier_iff.mpr fun k ⟨hk, htext⟩ => ?_⟩
  have hlong := (Keyword.utf8ByteSize_text k hk).1
  rw [← htext, Keyword.utf8ByteSize_toUpper] at hlong
  omega

/-- Keywords can name functions, but not those that would be taken for the text around them. -/
def IsCallName (s : String) : Prop := PlainWord s ∧ s ∉ writtenWords

instance (s : String) : Decidable (IsCallName s) := inferInstanceAs (Decidable (_ ∧ _))

/-- An integer without a sign. -/
def IsDigits (s : String) : Prop := s ≠ "" ∧ ∀ c ∈ s.toList, c.isDigit = true

instance (s : String) : Decidable (IsDigits s) :=
  haveI : Decidable (∀ c ∈ s.toList, c.isDigit = true) := List.decidableBAll _ s.toList
  inferInstanceAs (Decidable (_ ∧ _))

def digitsValue (s : String) : Nat := Nat.ofDigitChars 10 s.toList 0

/-- The quotes of identifiers; the single quote is left to strings. -/
def isNameQuote (c : Char) : Bool := c = '"' || c = '\x60' || c = '['

namespace Token

def identifier? : Token → Option Identifier
  | word s => if IsName s then some (.bare s) else none
  | quoted q v => if isNameQuote q then some (.quoted q v) else none
  | unclosed .. => none

/-- The literal that a token is; longer integers are none. -/
def literal? : Token → Option Literal
  | word s =>
    if s = "TRUE" then some (.boolean true)
    else if s = "FALSE" then some (.boolean false)
    else if s = "NULL" then some .null
    else if IsDigits s ∧ digitsValue s < 2 ^ 63 then some (.integer (.ofNat (digitsValue s)))
    else none
  | quoted q v => if q = '\'' then some (.string v) else none
  | unclosed .. => none

end Token

/-! ## Derivations -/

/-- What the grammar has rules for. -/
inductive Symbol where
  | expr (l : Level)
  | path
  /-- One or more, between commas. -/
  | many (s : Symbol)
  /-- None or more, between commas. -/
  | list (s : Symbol)
  | overClause
  | window
  | spec
  | partition
  | order
  | framing
  | item
  | bound
  | frame

/-- What is derived along with the tokens. -/
@[reducible] def Symbol.Value : Symbol → Type
  | expr _ => Expr
  | path => List Identifier
  | many s | list s => List s.Value
  | overClause => Option Window
  | window => Window
  | spec => WindowSpec
  | partition => List Expr
  | order => Option (List OrderItem)
  | framing => Option Frame
  | item => OrderItem
  | bound => FrameBound
  | frame => Frame

/-- A name by itself is no compound. -/
def Expr.ofPath : List Identifier → Expr
  | [i] => .identifier i
  | is => .compound is

open Token (word)

/-- The symbol derives the tokens, with the tree they stand for. -/
inductive Derives (windows : Bool) : (s : Symbol) → List Token → s.Value → Prop where
  -- operators
  | tighter {l ts e} (hl : l ≠ .prim) (h : Derives windows (.expr l.next) ts e) : Derives windows (.expr l) ts e
  | binary {a b x y} (op : BinaryOp) (left : Derives windows (.expr op.level) a x)
      (right : Derives windows (.expr op.level.next) b y) :
      Derives windows (.expr op.level) (a ++ op.token :: b) (.binary x op y)
  | unary {a x} (op : UnaryOp) (operand : Derives windows (.expr op.level) a x) :
      Derives windows (.expr op.level) (op.token :: a) (.unary op x)
  | nullTest {a x} (negated : Bool) (operand : Derives windows (.expr .cmp) a x) :
      Derives windows (.expr .cmp) (a ++ Expr.nullTestTokens negated) (.nullTest x negated)
  | between {a b c x low high} (negated : Bool) (operand : Derives windows (.expr .like) a x)
      (hlow : Derives windows (.expr .add) b low) (hhigh : Derives windows (.expr .add) c high) :
      Derives windows (.expr .like) (a ++ (Expr.betweenTokens negated ++ (b ++ word "AND" :: c)))
        (.between x low high negated)
  -- primaries
  | literal {t l} (h : t.literal? = some l) : Derives windows (.expr .prim) [t] (.literal l)
  | wildcard : Derives windows (.expr .prim) [word "*"] .wildcard
  | parens {a x} (h : Derives windows (.expr .or) a x) :
      Derives windows (.expr .prim) (word "(" :: (a ++ [word ")"])) x
  | names {a is} (h : Derives windows .path a is) : Derives windows (.expr .prim) a (.ofPath is)
  | name {t i} (h : t.identifier? = some i) : Derives windows .path [t] [i]
  | qualified {t i a is} (h : t.identifier? = some i) (rest : Derives windows .path a is) :
      Derives windows .path (t :: word "." :: a) (i :: is)
  | call {f a b args window} (hf : IsCallName f) (distinct : Bool)
      (hargs : Derives windows (.list (.expr .or)) a args) (hover : Derives windows .overClause b window) :
      Derives windows (.expr .prim) (word f :: word "(" :: (Call.distinctTokens distinct ++ (a ++ word ")" :: b)))
        (.call ⟨f, args, distinct, window⟩)
  -- lists
  | empty {s} : Derives windows (.list s) [] []
  | elements {s a xs} (h : Derives windows (.many s) a xs) : Derives windows (.list s) a xs
  | last {s a x} (h : Derives windows s a x) : Derives windows (.many s) a [x]
  | more {s a b x xs} (h : Derives windows s a x) (rest : Derives windows (.many s) b xs) :
      Derives windows (.many s) (a ++ word "," :: b) (x :: xs)
  -- windows
  | bare : Derives windows .overClause [] none
  | windowed {a w} (allowed : windows = true) (h : Derives windows .window a w) :
      Derives windows .overClause (word "OVER" :: a) (some w)
  | named {t i} (h : t.identifier? = some i) : Derives windows .window [t] (.named i)
  | inline {a s} (h : Derives windows .spec a s) :
      Derives windows .window (word "(" :: (a ++ [word ")"])) (.inline s)
  | spec {a b c es items f} (hpartition : Derives windows .partition a es) (horder : Derives windows .order b items)
      (hframe : Derives windows .framing c f) : Derives windows .spec (a ++ (b ++ c)) ⟨es, items, f⟩
  | unpartitioned : Derives windows .partition [] []
  | partitioned {a es} (h : Derives windows (.many (.expr .or)) a es) :
      Derives windows .partition (word "PARTITION" :: word "BY" :: a) es
  | unordered : Derives windows .order [] none
  | ordered {a items} (h : Derives windows (.list .item) a items) :
      Derives windows .order (word "ORDER" :: word "BY" :: a) (some items)
  | unframed : Derives windows .framing [] none
  | framed {a f} (h : Derives windows .frame a f) : Derives windows .framing a (some f)
  | item {a x} (direction : Option SortDirection) (nulls : Option NullPlacement)
      (h : Derives windows (.expr .or) a x) :
      Derives windows .item (a ++ (OrderItem.directionTokens direction ++ OrderItem.nullsTokens nulls))
        ⟨x, direction, nulls⟩
  | currentRow : Derives windows .bound [word "CURRENT", word "ROW"] .currentRow
  | unboundedPreceding : Derives windows .bound [word "UNBOUNDED", word "PRECEDING"] .unboundedPreceding
  | unboundedFollowing : Derives windows .bound [word "UNBOUNDED", word "FOLLOWING"] .unboundedFollowing
  | preceding {a x} (h : Derives windows (.expr .or) a x) :
      Derives windows .bound (a ++ [word "PRECEDING"]) (.preceding x)
  | following {a x} (h : Derives windows (.expr .or) a x) :
      Derives windows .bound (a ++ [word "FOLLOWING"]) (.following x)
  | single {a x} (unit : FrameUnit) (h : Derives windows .bound a x) :
      Derives windows .frame (word unit.text :: a) ⟨unit, x, none⟩
  | range {a b x y} (unit : FrameUnit) (hstart : Derives windows .bound a x) (hstop : Derives windows .bound b y) :
      Derives windows .frame (word unit.text :: word "BETWEEN" :: (a ++ word "AND" :: b)) ⟨unit, x, some y⟩

end SqlText
