import SqlText.Proofs.Text

/-! # Sequences of writes

A buffer only grows at its end. What a write adds depends on what is written and not on the text that
is there already, so after any sequence of writes the text is the old one and then the new ones in
their order. -/

namespace SqlText

/-! ## Types that can be written -/

/-- The types of nodes, and references to them. -/
inductive Renderable : (α : Type) → [Emit α] → Type 1 where
  | identifier : Renderable Identifier
  | literal : Renderable Literal
  | expr : Renderable Expr
  | call : Renderable Call
  | orderItem : Renderable OrderItem
  | frameUnit : Renderable FrameUnit
  | frameBound : Renderable FrameBound
  | frame : Renderable Frame
  | windowSpec : Renderable WindowSpec
  | namedWindow : Renderable NamedWindow
  | window : Renderable Window
  | pointer {α : Type} [Emit α] (h : Renderable α) : Renderable (Pointer α)

namespace Renderable

/-- The node itself, behind all references to it. -/
def node : {α : Type} → [Emit α] → Renderable α → α → Node
  | _, _, identifier, a => .identifier a
  | _, _, literal, a => .literal a
  | _, _, expr, a => .expr a
  | _, _, call, a => .call a
  | _, _, orderItem, a => .orderItem a
  | _, _, frameUnit, a => .frameUnit a
  | _, _, frameBound, a => .frameBound a
  | _, _, frame, a => .frame a
  | _, _, windowSpec, a => .windowSpec a
  | _, _, namedWindow, a => .namedWindow a
  | _, _, window, a => .window a
  | _, _, pointer h, p => h.node p.target

variable {α : Type} [Emit α]

theorem emit_eq (h : Renderable α) (a : α) (b : Buffer) : Emit.emit a b = (h.node a).emit b := by
  induction h with
  | pointer h ih => exact ih a.target
  | _ => rfl

theorem toSql_eq (h : Renderable α) (a : α) : toSql a = toSql (h.node a) :=
  congrArg Buffer.text (h.emit_eq a .empty)

theorem map_toSql_eq (h : Renderable α) (xs : List α) : xs.map toSql = xs.map fun x => toSql (h.node x) :=
  List.map_congr_left fun x _ => h.toSql_eq x

theorem appends (h : Renderable α) (a : α) : Appends a := by
  intro b
  rw [h.emit_eq, h.toSql_eq]
  exact (h.node a).appends b

end Renderable

/-! ## Writes -/

/-- One thing that is done to a buffer; `text` is also what a formatter does to it. -/
inductive Write where
  | text (s : String)
  | value {α : Type} [Emit α] (h : Renderable α) (a : α)
  | separated {α : Type} [Emit α] (h : Renderable α) (separator : String) (xs : List α)
  | commaSeparated {α : Type} [Emit α] (h : Renderable α) (xs : List α)

namespace Write

def run (b : Buffer) : Write → Buffer
  | text s => b.push s
  | value _ a => b.add a
  | separated _ separator xs => b.addSeparated separator xs
  | commaSeparated _ xs => b.addCommaSeparated xs

/-- The texts that a write adds, each as it is by itself. -/
def fragments : Write → List String
  | text s => [s]
  | value h a => [toSql (h.node a)]
  | separated h separator xs => (xs.map fun x => toSql (h.node x)).intersperse separator
  | commaSeparated h xs => (xs.map fun x => toSql (h.node x)).intersperse ", "

theorem join_intersperse (separator : String) (ss : List String) :
    String.join (ss.intersperse separator) = separator.intercalate ss := by
  induction ss with
  | nil => rfl
  | cons s rest ih =>
    cases rest with
    | nil => simp
    | cons t rest => simp [ih, String.append_assoc]

theorem run_eq (w : Write) (b : Buffer) : w.run b = b.push (String.join w.fragments) := by
  cases w with
  | text s => simp [run, fragments]
  | value h a => simp [run, fragments, Buffer.add, h.appends a b, h.toSql_eq]
  | separated h separator xs =>
    rw [run, fragments, join_intersperse, ← h.map_toSql_eq]
    exact Buffer.addSeparated_eq separator xs (fun x _ => h.appends x) b
  | commaSeparated h xs =>
    rw [run, fragments, join_intersperse, ← h.map_toSql_eq]
    exact Buffer.addSeparated_eq ", " xs (fun x _ => h.appends x) b

/-- How many values or texts are written; separators are not counted. -/
def size : Write → Nat
  | text _ | value .. => 1
  | separated _ _ xs | commaSeparated _ xs => xs.length

theorem length_fragments (w : Write) : w.fragments.length = w.size + (w.size - 1) := by
  cases w with
  | text s => rfl
  | value h a => rfl
  | separated h separator xs | commaSeparated h xs =>
    rw [fragments, size, List.length_intersperse, List.length_map]
    omega

/-- The old text, and behind it the fragments of the writes; a list of `n` values has `n - 1`
separators among them. -/
theorem text_foldl_run (writes : List Write) (b : Buffer) :
    (writes.foldl run b).text = b.text ++ String.join (writes.flatMap fragments) ∧
      ∀ w ∈ writes, w.fragments.length = w.size + (w.size - 1) := by
  refine ⟨?_, fun w _ => w.length_fragments⟩
  induction writes generalizing b with
  | nil => simp
  | cons w rest ih =>
    rw [List.foldl_cons, ih, run_eq, Buffer.text_push, List.flatMap_cons, String.join_append,
      String.append_assoc]

end Write

end SqlText
