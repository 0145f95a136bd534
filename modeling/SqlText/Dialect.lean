import SqlText.Identifier
import SqlText.Keyword.Basic

/-! # Dialects

Dialects differ in how an identifier is quoted and in which keywords may start an alias. -/

namespace SqlText

/-! ## Keywords that cannot start an alias

After a selected item or a table a parser sees one word and has to tell an alias from the next
clause. The words listed here are always the next clause. -/

namespace Keyword

/-- After a selected item. -/
def reservedForColumnAlias : List Keyword := [
  .WITH, .EXPLAIN, .ANALYZE, .SELECT, .WHERE, .GROUP, .SORT, .HAVING, .ORDER, .TOP, .LATERAL,
  .VIEW, .LIMIT, .OFFSET, .FETCH, .UNION, .EXCEPT, .INTERSECT, .CLUSTER, .DISTRIBUTE,
  .FROM, .INTO, .END]

/-- After a table: here the words that join, pivot or qualify it count too. -/
def reservedForTableAlias : List Keyword := [
  .WITH, .EXPLAIN, .ANALYZE, .SELECT, .WHERE, .GROUP, .SORT, .HAVING, .ORDER, .PIVOT, .TOP,
  .LATERAL, .VIEW, .LIMIT, .OFFSET, .FETCH, .UNION, .EXCEPT, .INTERSECT, .ON, .JOIN, .INNER,
  .CROSS, .FULL, .LEFT, .RIGHT, .NATURAL, .USING, .CLUSTER, .DISTRIBUTE, .OUTER, .SET,
  .QUALIFY, .WINDOW, .END, .AS]

def isReservedForColumnAlias (k : Keyword) : Bool := reservedForColumnAlias.contains k

def isReservedForTableAlias (k : Keyword) : Bool := reservedForTableAlias.contains k

end Keyword

/-! ## Their choices -/

/-- What a dialect decides. All but its name has a default. -/
structure Dialect where
  name : String
  identifierQuote : Char := '"'
  /-- Whether a keyword after a selected item may start its alias. -/
  isColumnAlias : Keyword → Bool := fun k => !k.isReservedForColumnAlias
  /-- Whether a keyword after a table may start its alias. -/
  isTableAlias : Keyword → Bool := fun k => !k.isReservedForTableAlias

namespace Dialect

/-- Any name can be quoted, a keyword too. -/
def quoteIdentifier (d : Dialect) (name : String) : Identifier := .quoted d.identifierQuote name

/-- All choices left as they are by default. -/
def generic : Dialect where
  name := "generic"

/-- Square brackets around identifiers. -/
def bracket : Dialect where
  name := "bracket"
  identifierQuote := '['

/-- Backticks around identifiers, and a table may be called `join`. -/
def joinAlias : Dialect where
  name := "join-alias"
  identifierQuote := '\x60'
  isTableAlias := fun k => k = .JOIN || !k.isReservedForTableAlias

def all : List Dialect := [generic, bracket, joinAlias]

def named? (name : String) : Option Dialect := all.find? (·.name = name)

end Dialect

end SqlText
