import Mathlib.Data.List.Basic
import SqlText.Proofs.Decoding
import SqlText.Proofs.Subnode

/-! # What the readers find

What is read as a record or as one of several cases is a part of what is around it. A reader says how a value
of its own type is found in a field. -/

namespace SqlText

/-! ## Parts -/

theorem Node.kind_of_ofJson? {kind : Kind} {j : Json} {n : Node} (h : ofJson? kind j = some n) : n.kind = kind := by
  cases kind <;>
  · obtain ⟨a, -, rfl⟩ := Option.map_eq_some_iff.mp h
    rfl

/-- What is read as a record or as one of several cases: a node, or a mark on a node. -/
inductive Part where
  | node (n : Node)
  | binaryOp (op : BinaryOp)
  | unaryOp (op : UnaryOp)
  | direction (d : SortDirection)
  | nulls (p : NullPlacement)

namespace Part

/-- What a value is to be read as. -/
inductive Kind where
  | node (kind : Node.Kind)
  | binaryOp
  | unaryOp
  | direction
  | nulls

def kind : Part → Kind
  | node n => .node n.kind
  | binaryOp _ => .binaryOp
  | unaryOp _ => .unaryOp
  | direction _ => .direction
  | nulls _ => .nulls

/-- What `j` holds when it is to be a part of the given kind. -/
def ofJson? (kind : Kind) (j : Json) : Option Part :=
  match kind with
  | .node kind => (Node.ofJson? kind j).map node
  | .binaryOp => (BinaryOp.ofJson? j).map binaryOp
  | .unaryOp => (UnaryOp.ofJson? j).map unaryOp
  | .direction => (SortDirection.ofJson? j).map direction
  | .nulls => (NullPlacement.ofJson? j).map nulls

theorem kind_of_ofJson? {kind : Kind} {j : Json} {p : Part} (h : ofJson? kind j = some p) : p.kind = kind := by
  cases kind with
  | node kind =>
    obtain ⟨n, hn, rfl⟩ := Option.map_eq_some_iff.mp h
    exact congrArg Kind.node (Node.kind_of_ofJson? hn)
  | _ =>
    obtain ⟨_, -, rfl⟩ := Option.map_eq_some_iff.mp h
    rfl

theorem ofJson?_node {kind : Node.Kind} {j : Json} {n : Node} :
    ofJson? (.node kind) j = some (.node n) ↔ Node.ofJson? kind j = some n := by
  simp [ofJson?]

end Part

namespace Node

/-- The operator or the sorting of a node. -/
def marks : Node → List Part
  | expr (.binary _ op _) => [.binaryOp op]
  | expr (.unary op _) => [.unaryOp op]
  | orderItem x => x.direction.toList.map .direction ++ x.nulls.toList.map .nulls
  | _ => []

/-- What is directly in a node. -/
def parts (n : Node) : List Part := n.children.map .node ++ n.marks

end Node

/-! ## Values of fields -/

inductive Content where
  | text
  | flag
  | quote
  | part (kind : Part.Kind)
  | parts (kind : Part.Kind)

/-- What has been read from a field. -/
inductive Value where
  | text (s : String)
  | flag (b : Bool)
  | quote (c : Char)
  | part (p : Part)
  | parts (ps : List Part)
  | absent

/-- The parts that a value brings along. -/
def Value.inside : Value → List Part
  | part p => [p]
  | parts ps => ps
  | text _ | flag _ | quote _ | absent => []

namespace Value

@[simp] theorem inside_text (s : String) : (text s).inside = [] := rfl

@[simp] theorem inside_flag (b : Bool) : (flag b).inside = [] := rfl

@[simp] theorem inside_part (p : Part) : (part p).inside = [p] := rfl

@[simp] theorem inside_parts (ps : List Part) : (parts ps).inside = ps := rfl

end Value

/-- Text, flags and quotes are no parts, and are read on the spot. -/
def Content.read? : Content → Json → Option Value
  | text, j => j.string?.map .text
  | flag, j => j.bool?.map .flag
  | quote, j => (Identifier.quoteOfJson? j).map .quote
  | part kind, j => (Part.ofJson? kind j).map .part
  | parts kind, j => (j.array?.bind (·.mapM (Part.ofJson? kind))).map .parts

/-! ## Readers -/

/-- What `decode` makes of a value is found as `value` where `content` is to be read. -/
structure Reader (α : Type) where
  content : Content
  decode : Json → Option α
  value : α → Value
  read?_eq : ∀ j, content.read? j = (decode j).map value
  injective : ∀ a b, value a = value b → a = b
  ne_absent : ∀ a, value a ≠ .absent

namespace Reader

variable {α : Type}

def text : Reader String := ⟨.text, Json.string?, .text, fun _ => rfl, fun _ _ => Value.text.inj, nofun⟩

def flag : Reader Bool := ⟨.flag, Json.bool?, .flag, fun _ => rfl, fun _ _ => Value.flag.inj, nofun⟩

def quote : Reader Char := ⟨.quote, Identifier.quoteOfJson?, .quote, fun _ => rfl, fun _ _ => Value.quote.inj, nofun⟩

/-- One part, which `wrap` makes of what is decoded. -/
def part (kind : Part.Kind) (decode : Json → Option α) (wrap : α → Part) (hwrap : ∀ a b, wrap a = wrap b → a = b)
    (h : ∀ j, Part.ofJson? kind j = (decode j).map wrap) : Reader α where
  content := .part kind
  decode := decode
  value a := .part (wrap a)
  read?_eq j := by
    rw [Content.read?, h, Option.map_map]
    rfl
  injective _ _ heq := hwrap _ _ (Value.part.inj heq)
  ne_absent _ := nofun

def parts (kind : Part.Kind) (decode : Json → Option α) (wrap : α → Part) (hwrap : ∀ a b, wrap a = wrap b → a = b)
    (h : ∀ j, Part.ofJson? kind j = (decode j).map wrap) (decodeAll : Json → Option (List α))
    (hall : ∀ j, decodeAll j = j.array?.bind (·.mapM decode)) : Reader (List α) where
  content := .parts kind
  decode := decodeAll
  value as := .parts (as.map wrap)
  read?_eq j := by
    have hmapM (js : List Json) : js.mapM (Part.ofJson? kind) = (js.mapM decode).map (List.map wrap) := by
      induction js with
      | nil => rfl
      | cons j rest ih =>
        rw [List.mapM_cons, List.mapM_cons, h, ih]
        cases decode j with
        | none => rfl
        | some a => cases rest.mapM decode <;> rfl
    rw [Content.read?, hall]
    cases j.array? with
    | none => rfl
    | some js =>
      rw [Option.bind_some, Option.bind_some, hmapM, Option.map_map]
      rfl
  injective as bs heq := List.map_injective_iff.mpr hwrap (Value.parts.inj heq)
  ne_absent _ := nofun

theorem ofJson?_node {kind : Node.Kind} {decode : Json → Option α} {wrap : α → Node}
    (h : ∀ j, Node.ofJson? kind j = (decode j).map wrap) (j : Json) :
    Part.ofJson? (.node kind) j = (decode j).map fun a => .node (wrap a) := by
  rw [Part.ofJson?, h, Option.map_map]
  rfl

def node (kind : Node.Kind) (decode : Json → Option α) (wrap : α → Node) (hwrap : ∀ a b, wrap a = wrap b → a = b)
    (h : ∀ j, Node.ofJson? kind j = (decode j).map wrap) : Reader α :=
  part (.node kind) decode (fun a => .node (wrap a)) (fun _ _ heq => hwrap _ _ (Part.node.inj heq)) (ofJson?_node h)

def identifier : Reader Identifier := node .identifier _ _ (fun _ _ => Node.identifier.inj) fun _ => rfl

def literal : Reader Literal := node .literal _ _ (fun _ _ => Node.literal.inj) fun _ => rfl

def call : Reader Call := node .call _ _ (fun _ _ => Node.call.inj) fun _ => rfl

def expr : Reader Expr := node .expr _ _ (fun _ _ => Node.expr.inj) fun _ => rfl

def exprs : Reader (List Expr) :=
  parts (.node .expr) _ _ (fun _ _ heq => Node.expr.inj (Part.node.inj heq)) (ofJson?_node fun _ => rfl) _
    Expr.listOfJson?_eq

def identifiers : Reader (List Identifier) :=
  parts (.node .identifier) _ _ (fun _ _ heq => Node.identifier.inj (Part.node.inj heq)) (ofJson?_node fun _ => rfl)
    (fun j => j.array?.bind (·.mapM Identifier.ofJson?)) fun _ => rfl

def orderItems : Reader (List OrderItem) :=
  parts (.node .orderItem) _ _ (fun _ _ heq => Node.orderItem.inj (Part.node.inj heq)) (ofJson?_node fun _ => rfl) _
    OrderItem.listOfJson?_eq

def frameUnit : Reader FrameUnit := node .frameUnit _ _ (fun _ _ => Node.frameUnit.inj) fun _ => rfl

def frameBound : Reader FrameBound := node .frameBound _ _ (fun _ _ => Node.frameBound.inj) fun _ => rfl

def frame : Reader Frame := node .frame _ _ (fun _ _ => Node.frame.inj) fun _ => rfl

def windowSpec : Reader WindowSpec := node .windowSpec _ _ (fun _ _ => Node.windowSpec.inj) fun _ => rfl

def window : Reader Window := node .window _ _ (fun _ _ => Node.window.inj) fun _ => rfl

def binaryOp : Reader BinaryOp :=
  part .binaryOp BinaryOp.ofJson? .binaryOp (fun _ _ => Part.binaryOp.inj) fun _ => rfl

def unaryOp : Reader UnaryOp :=
  part .unaryOp UnaryOp.ofJson? .unaryOp (fun _ _ => Part.unaryOp.inj) fun _ => rfl

def direction : Reader SortDirection :=
  part .direction SortDirection.ofJson? .direction (fun _ _ => Part.direction.inj) fun _ => rfl

def nulls : Reader NullPlacement :=
  part .nulls NullPlacement.ofJson? .nulls (fun _ _ => Part.nulls.inj) fun _ => rfl

/-- The same where there may be nothing. -/
def optional (r : Reader α) (o : Option α) : Value := (o.map r.value).getD .absent

@[simp] theorem value_inj (r : Reader α) {a b : α} : r.value a = r.value b ↔ a = b :=
  ⟨r.injective a b, congrArg r.value⟩

@[simp] theorem optional_inj (r : Reader α) {o o' : Option α} : r.optional o = r.optional o' ↔ o = o' := by
  refine ⟨fun h => ?_, fun h => by rw [h]⟩
  cases o with
  | none =>
    cases o' with
    | none => rfl
    | some a => exact absurd h.symm (r.ne_absent a)
  | some a =>
    cases o' with
    | none => exact absurd h (r.ne_absent a)
    | some b => exact congrArg some (r.injective a b h)

@[simp] theorem mem_inside_optional (r : Reader α) {o : Option α} {p : Part} :
    p ∈ (r.optional o).inside ↔ ∃ a ∈ o, p ∈ (r.value a).inside := by
  cases o <;> simp [optional, Value.inside]

end Reader

end SqlText
