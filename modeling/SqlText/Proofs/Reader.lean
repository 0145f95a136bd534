import SqlText.Proofs.Grammar

/-! # Reading tokens

A reader that looks one word ahead follows the grammar without ever turning back, so no list of
tokens can be derived in two ways. Its first argument bounds the depth of the calls. -/

namespace SqlText

open Token (word)

/-! ## Looking ahead -/

/-- What is left of a list behind the tokens it has to start with. -/
def skip : List Token → List Token → Option (List Token)
  | [], ts => some ts
  | _ :: _, [] => none
  | t :: ts, u :: us => if t = u then skip ts us else none

/-- The first of `xs` whose tokens the list starts with. -/
def pick {α : Type} (xs : List α) (text : α → List Token) (ts : List Token) : Option (α × List Token) :=
  xs.findSome? fun x => (skip (text x) ts).map (x, ·)

/-- What an operand can be continued by. -/
inductive Continuation where
  | binary (op : BinaryOp)
  | nullTest (negated : Bool)
  | between (negated : Bool)

namespace Continuation

def tokens : Continuation → List Token
  | binary op => [op.token]
  | nullTest negated => Expr.nullTestTokens negated
  | between negated => Expr.betweenTokens negated

def level : Continuation → Level
  | binary op => op.level
  | nullTest _ => .cmp
  | between _ => .like

def all : List Continuation :=
  [BinaryOp.add, .sub, .mul, .div, .mod, .eq, .ne, .lt, .le, .gt, .ge, .and, .or, .concat, .like].map binary ++
    [nullTest true, nullTest false, between true, between false]

end Continuation

/-- How the tokens go on with an operand before them. -/
def continuation? (ts : List Token) : Option (Continuation × List Token) :=
  pick Continuation.all Continuation.tokens ts

def sign? (ts : List Token) : Option (UnaryOp × List Token) :=
  pick [UnaryOp.neg, .not, .bitNot] (fun op => [op.token]) ts

def unit? (ts : List Token) : Option (FrameUnit × List Token) :=
  pick [FrameUnit.rows, .range, .groups] (fun u => [word u.text]) ts

/-- A bound without an offset. -/
def fixedBound? (ts : List Token) : Option (FrameBound × List Token) :=
  match skip [word "CURRENT", word "ROW"] ts with
  | some ts => some (.currentRow, ts)
  | none =>
    match skip [word "UNBOUNDED", word "PRECEDING"] ts with
    | some ts => some (.unboundedPreceding, ts)
    | none => (skip [word "UNBOUNDED", word "FOLLOWING"] ts).map (.unboundedFollowing, ·)

/-- The side of the current row that an offset is on. -/
def side? (offset : Expr) (ts : List Token) : Option (FrameBound × List Token) :=
  match skip [word "PRECEDING"] ts with
  | some ts => some (.preceding offset, ts)
  | none => (skip [word "FOLLOWING"] ts).map (.following offset, ·)

/-- A function's name with the parenthesis behind it. -/
def callName? : List Token → Option (String × List Token)
  | .word f :: ts => if IsCallName f then (skip [word "("] ts).map (f, ·) else none
  | _ => none

/-- What a list inside a call or a window ends before. -/
def closers : List Token := [word ")", word "ORDER", word "ROWS", word "RANGE", word "GROUPS"]

/-- Nothing more belongs to the list. -/
def atEnd (ts : List Token) : Bool := ts.head?.all (· ∈ closers)

/-! ## The reader -/

mutual

/-- The longest start of the tokens that the symbol derives, with what is left. Fuel bounds the depth. -/
def read : Nat → (s : Symbol) → List Token → Option (s.Value × List Token)
  | 0, _, _ => none
  | n + 1, .expr l, ts =>
    if l = .prim then atom n ts
    else
      match sign? ts with
      | some (op, rest) =>
        if op.level = l then (read n (.expr l) rest).map fun (e, ts) => (.unary op e, ts)
        else (read n (.expr l.next) ts).bind fun (e, ts) => loop n l e ts
      | none => (read n (.expr l.next) ts).bind fun (e, ts) => loop n l e ts
  | _ + 1, .path, [] => none
  | n + 1, .path, t :: ts =>
    t.identifier?.bind fun i =>
      match skip [word "."] ts with
      | some ts => (read n .path ts).map fun (is, ts) => (i :: is, ts)
      | none => some ([i], ts)
  | n + 1, .many s, ts =>
    (read n s ts).bind fun (x, ts) =>
      match skip [word ","] ts with
      | some ts => (read n (.many s) ts).map fun (xs, ts) => (x :: xs, ts)
      | none => some ([x], ts)
  | n + 1, .list s, ts => if atEnd ts then some ([], ts) else read n (.many s) ts
  | n + 1, .overClause, ts =>
    match skip [word "OVER"] ts with
    | some ts => (read n .window ts).map fun (w, ts) => (some w, ts)
    | none => some (none, ts)
  | _ + 1, .window, [] => none
  | n + 1, .window, t :: ts =>
    if t = word "(" then
      (read n .spec ts).bind fun (s, ts) => (skip [word ")"] ts).map (.inline s, ·)
    else t.identifier?.map (.named ·, ts)
  | n + 1, .spec, ts =>
    (read n .partition ts).bind fun (es, ts) =>
      (read n .order ts).bind fun (items, ts) => (read n .framing ts).map fun (f, ts) => (⟨es, items, f⟩, ts)
  | n + 1, .partition, ts =>
    match skip [word "PARTITION", word "BY"] ts with
    | some ts => read n (.many (.expr .or)) ts
    | none => some ([], ts)
  | n + 1, .order, ts =>
    match skip [word "ORDER", word "BY"] ts with
    | some ts => (read n (.list .item) ts).map fun (items, ts) => (some items, ts)
    | none => some (none, ts)
  | n + 1, .framing, ts =>
    match unit? ts with
    | some _ => (read n .frame ts).map fun (f, ts) => (some f, ts)
    | none => some (none, ts)
  | n + 1, .item, ts =>
    (read n (.expr .or) ts).bind fun (e, ts) =>
      (pick [some .asc, some .desc, none] OrderItem.directionTokens ts).bind fun (direction, ts) =>
        (pick [some .first, some .last, none] OrderItem.nullsTokens ts).map fun (nulls, ts) =>
          (⟨e, direction, nulls⟩, ts)
  | n + 1, .bound, ts =>
    match fixedBound? ts with
    | some (bound, ts) => some (bound, ts)
    | none => (read n (.expr .or) ts).bind fun (e, ts) => side? e ts
  | n + 1, .frame, ts =>
    (unit? ts).bind fun (unit, ts) =>
      match skip [word "BETWEEN"] ts with
      | some ts =>
        (read n .bound ts).bind fun (start, ts) =>
          (skip [word "AND"] ts).bind fun ts =>
            (read n .bound ts).map fun (stop, ts) => (⟨unit, start, some stop⟩, ts)
      | none => (read n .bound ts).map fun (start, ts) => (⟨unit, start, none⟩, ts)

/-- A primary. -/
def atom : Nat → List Token → Option (Expr × List Token)
  | 0, _ => none
  | _ + 1, [] => none
  | n + 1, t :: ts =>
    if t = word "(" then (read n (.expr .or) ts).bind fun (e, ts) => (skip [word ")"] ts).map (e, ·)
    else if t = word "*" then some (.wildcard, ts)
    else
      match t.literal? with
      | some l => some (.literal l, ts)
      | none =>
        match callName? (t :: ts) with
        | some (f, ts) =>
          (pick [true, false] Call.distinctTokens ts).bind fun (distinct, ts) =>
            (read n (.list (.expr .or)) ts).bind fun (args, ts) =>
              (skip [word ")"] ts).bind fun ts =>
                (read n .overClause ts).map fun (window, ts) => (.call ⟨f, args, distinct, window⟩, ts)
        | none => (read n .path (t :: ts)).map fun (is, ts) => (.ofPath is, ts)

/-- Goes on with the operand `e` as long as the operators are of level `l`. -/
def loop : Nat → Level → Expr → List Token → Option (Expr × List Token)
  | 0, _, _, _ => none
  | n + 1, l, e, ts =>
    match continuation? ts with
    | none => some (e, ts)
    | some (c, rest) =>
      if c.level = l then
        match c with
        | .binary op => (read n (.expr l.next) rest).bind fun (right, ts) => loop n l (.binary e op right) ts
        | .nullTest negated => loop n l (.nullTest e negated) rest
        | .between negated =>
          (read n (.expr .add) rest).bind fun (low, ts) =>
            (skip [word "AND"] ts).bind fun ts =>
              (read n (.expr .add) ts).bind fun (high, ts) => loop n l (.between e low high negated) ts
      else some (e, ts)

end

end SqlText
