import SqlText.Dialect
import SqlText.Keyword.Lookup
import SqlText.Identifier
import SqlText.Binary64.Basic
import SqlText.Expr.Build
import SqlText.Json.Encode
import SqlText.Json.Basic
import SqlText.Json.Decode
import SqlText.Proofs.Catalogue
import SqlText.Proofs.Alias
import SqlText.Proofs.FrameUnit
import SqlText.Proofs.Subnode
import SqlText.Proofs.Equality
import SqlText.Proofs.Rewrite
import SqlText.Proofs.Decoding
import SqlText.Proofs.Content
import SqlText.Proofs.Record
import SqlText.Proofs.Place
import SqlText.Proofs.RoundTrip
import SqlText.Proofs.Lenient
import SqlText.Proofs.Scan
import SqlText.Proofs.Quoting
import SqlText.Proofs.LiteralKind
import SqlText.Proofs.Text
import SqlText.Proofs.Path
import SqlText.Proofs.CodePoint
import SqlText.Proofs.Order
import SqlText.Proofs.Build
import SqlText.Proofs.Writing
import SqlText.Proofs.Compose
import SqlText.Proofs.Explicit
import SqlText.Proofs.Comment
import SqlText.Proofs.Skeleton
import SqlText.Proofs.Balance
import SqlText.Proofs.Spacing
import SqlText.Proofs.Token
import SqlText.Proofs.Grammar
import SqlText.Proofs.Reader
import SqlText.Proofs.Unambiguous
import SqlText.Proofs.Derivation
import SqlText.Proofs.ReadBack
import SqlText.Proofs.Meaning
import SqlText.Proofs.Regroup
import SqlText.Proofs.Settle
import SqlText.Proofs.Chain
