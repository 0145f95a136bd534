import SqlText.Expr.Emit
import SqlText.Expr.Equality

/-! # Nodes

A node is a value of any of the types that have a text. -/

namespace SqlText

/-- Whatever has a text and a JSON form. -/
inductive Node where
  | identifier (i : Identifier)
  | literal (l : Literal)
  | expr (e : Expr)
  | call (c : Call)
  | orderItem (x : OrderItem)
  | frameUnit (u : FrameUnit)
  | frameBound (bound : FrameBound)
  | frame (f : Frame)
  | windowSpec (s : WindowSpec)
  | namedWindow (w : NamedWindow)
  | window (w : Window)

namespace Node

inductive Kind where
  | identifier
  | literal
  | expr
  | call
  | orderItem
  | frameUnit
  | frameBound
  | frame
  | windowSpec
  | namedWindow
  | window
deriving DecidableEq, Repr

def kind : Node → Kind
  | identifier _ => .identifier
  | literal _ => .literal
  | expr _ => .expr
  | call _ => .call
  | orderItem _ => .orderItem
  | frameUnit _ => .frameUnit
  | frameBound _ => .frameBound
  | frame _ => .frame
  | windowSpec _ => .windowSpec
  | namedWindow _ => .namedWindow
  | window _ => .window

def emit : Node → Buffer → Buffer
  | identifier i, b => b.add i
  | literal l, b => b.add l
  | expr e, b => b.add e
  | call c, b => b.add c
  | orderItem x, b => b.add x
  | frameUnit u, b => b.add u
  | frameBound bound, b => b.add bound
  | frame f, b => b.add f
  | windowSpec s, b => b.add s
  | namedWindow w, b => b.add w
  | window w, b => b.add w

instance : Emit Node := ⟨emit⟩

/-- Nodes of different types are not equal. -/
def beq : Node → Node → Bool
  | identifier a, identifier b => a = b
  | literal a, literal b => a == b
  | expr a, expr b => a == b
  | call a, call b => a == b
  | orderItem a, orderItem b => a == b
  | frameUnit a, frameUnit b => a = b
  | frameBound a, frameBound b => a == b
  | frame a, frame b => a == b
  | windowSpec a, windowSpec b => a == b
  | namedWindow a, namedWindow b => a == b
  | window a, window b => a == b
  | _, _ => false

instance : BEq Node := ⟨beq⟩

end Node

end SqlText
