import SqlText.Expr.Build
import SqlText.Proofs.Text

/-! # What a row of builder calls leaves

A call replaces one section of a window, or one mark of an order item, and touches nothing else. So of the
calls for one section the last one counts, whatever calls for other sections stand before, between and
behind them. -/

namespace SqlText

/-! ## The last call of a kind -/

/-- What the last of those calls gives that give anything. -/
def lastGiven {α β : Type} (gives : α → Option β) (calls : List α) : Option β :=
  (calls.filterMap gives).getLast?

theorem lastGiven_cons {α β : Type} (gives : α → Option β) (a : α) (calls : List α) :
    lastGiven gives (a :: calls) = (lastGiven gives calls).or (gives a) := by
  unfold lastGiven
  rw [List.filterMap_cons]
  cases gives a with
  | none => simp
  | some b => cases h : (calls.filterMap gives).getLast? <;> simp [List.getLast?_cons, h]

theorem foldl_eq_lastGiven {σ α β : Type} (apply : σ → α → σ) (view : σ → Option β) {gives : α → Option β}
    (hstep : ∀ s a, view (apply s a) = (gives a).or (view s)) (calls : List α) (s : σ) :
    view (calls.foldl apply s) = (lastGiven gives calls).or (view s) := by
  induction calls generalizing s with
  | nil => rfl
  | cons a calls ih => rw [List.foldl_cons, ih, hstep, lastGiven_cons, Option.or_assoc]

/-! ## Windows -/

theorem intercalate_eq_empty_iff {separator : String} {ss : List String} (hne : "" ∉ ss) :
    separator.intercalate ss = "" ↔ ss = [] := by
  cases ss with
  | nil => simp
  | cons s rest =>
    have hs : s ≠ "" := fun h => hne (h ▸ List.mem_cons_self)
    cases rest <;> simp [hs]

namespace WindowSpec

/-- A call that sets a section of a window. -/
inductive Setting where
  | partition (es : List Expr)
  | order (items : List OrderItem)
  | frame (f : Frame)

namespace Setting

def apply (s : WindowSpec) : Setting → WindowSpec
  | partition es => s.partitionedBy es
  | order items => s.orderedBy items
  | frame f => s.framedBy f

def partition? : Setting → Option (List Expr)
  | partition es => some es
  | _ => none

def order? : Setting → Option (List OrderItem)
  | order items => some items
  | _ => none

def frame? : Setting → Option Frame
  | frame f => some f
  | _ => none

theorem partitionBy_apply (s : WindowSpec) (c : Setting) :
    some (apply s c).partitionBy = c.partition?.or (some s.partitionBy) := by
  cases c <;> rfl

theorem orderBy_apply (s : WindowSpec) (c : Setting) : (apply s c).orderBy = c.order?.or s.orderBy := by
  cases c <;> rfl

theorem frame_apply (s : WindowSpec) (c : Setting) : (apply s c).frame = c.frame?.or s.frame := by
  cases c <;> rfl

end Setting

open Setting (partition? order? frame?)

/-- The window after a run of calls, of which there was none before. -/
def build (settings : List Setting) : WindowSpec := settings.foldl Setting.apply .empty

theorem build_eq (settings : List Setting) :
    build settings =
      ⟨(lastGiven partition? settings).getD [], lastGiven order? settings, lastGiven frame? settings⟩ := by
  have hpartition := foldl_eq_lastGiven Setting.apply (some ·.partitionBy) Setting.partitionBy_apply settings empty
  have horder := foldl_eq_lastGiven Setting.apply orderBy Setting.orderBy_apply settings empty
  have hframe := foldl_eq_lastGiven Setting.apply frame Setting.frame_apply settings empty
  rw [Option.or_some, Option.some.injEq] at hpartition
  rw [empty, Option.or_none] at horder hframe
  have heta (s : WindowSpec) : s = ⟨s.partitionBy, s.orderBy, s.frame⟩ := by cases s; rfl
  rw [build, heta (settings.foldl Setting.apply empty), hpartition]
  exact congr (congrArg _ horder) hframe

/-- The texts of the sections that the last calls ask for: no partition without expressions, but an order
without items. -/
def emitted (settings : List Setting) : List String :=
  partitionSection ((lastGiven partition? settings).getD []) ++ orderSection (lastGiven order? settings) ++
    (lastGiven frame? settings).toList.map toSql

theorem sections_build (settings : List Setting) : (build settings).sections = emitted settings := by
  rw [build_eq]
  rfl

theorem empty_not_mem_partitionSection (es : List Expr) : "" ∉ partitionSection es := by
  cases es <;> simp [partitionSection]

theorem empty_not_mem_orderSection (items : Option (List OrderItem)) : "" ∉ orderSection items := by
  cases items <;> simp [orderSection]

theorem empty_not_mem_sections (s : WindowSpec) : "" ∉ s.sections := by
  have hframe : "" ∉ s.frame.toList.map toSql := by
    intro hmem
    obtain ⟨f, -, hf⟩ := List.mem_map.mp hmem
    rw [Frame.toSql_eq] at hf
    obtain ⟨unit, start, _ | stop⟩ := f <;> simp [Frame.spelling] at hf
  unfold sections
  rw [List.mem_append, List.mem_append]
  rintro ((hmem | hmem) | hmem)
  · exact empty_not_mem_partitionSection _ hmem
  · exact empty_not_mem_orderSection _ hmem
  · exact hframe hmem

theorem toSql_eq_empty_iff (s : WindowSpec) : toSql s = "" ↔ s.sections = [] := by
  rw [toSql_eq, spelling]
  exact intercalate_eq_empty_iff s.empty_not_mem_sections

end WindowSpec

/-! ## Order items -/

namespace OrderItem

/-- A call that marks an order item. -/
inductive Mark where
  | asc
  | desc
  | nullsFirst
  | nullsLast

namespace Mark

def apply (x : OrderItem) : Mark → OrderItem
  | asc => x.asc
  | desc => x.desc
  | nullsFirst => x.nullsFirst
  | nullsLast => x.nullsLast

def direction? : Mark → Option SortDirection
  | asc => some .asc
  | desc => some .desc
  | nullsFirst | nullsLast => none

def nulls? : Mark → Option NullPlacement
  | asc | desc => none
  | nullsFirst => some .first
  | nullsLast => some .last

theorem expr_foldl_apply (marks : List Mark) (x : OrderItem) : (marks.foldl apply x).expr = x.expr := by
  induction marks generalizing x with
  | nil => rfl
  | cons m marks ih =>
    rw [List.foldl_cons, ih]
    cases m <;> rfl

theorem direction_apply (x : OrderItem) (m : Mark) : (apply x m).direction = m.direction?.or x.direction := by
  cases m <;> rfl

theorem nulls_apply (x : OrderItem) (m : Mark) : (apply x m).nulls = m.nulls?.or x.nulls := by
  cases m <;> rfl

end Mark

open Mark (direction? nulls?)

/-- The item after a run of calls. -/
def marked (x : OrderItem) (marks : List Mark) : OrderItem := marks.foldl Mark.apply x

theorem toSql_marked (x : OrderItem) (marks : List Mark) :
    toSql (x.marked marks) =
      toSql x.expr ++ (directionText ((lastGiven direction? marks).or x.direction) ++
        nullsText ((lastGiven nulls? marks).or x.nulls)) := by
  have hdirection := foldl_eq_lastGiven Mark.apply direction Mark.direction_apply marks x
  have hnulls := foldl_eq_lastGiven Mark.apply nulls Mark.nulls_apply marks x
  rw [toSql_eq, spelling, marked, Mark.expr_foldl_apply, hdirection, hnulls]

end OrderItem

/-- The text of a window is that of the sections set last, in their fixed order and one space apart, and it is
empty only if there are none; the text of an order item is its expression with the marks set last. -/
theorem toSql_of_last_calls (settings : List WindowSpec.Setting) (x : OrderItem) (marks : List OrderItem.Mark) :
    toSql (WindowSpec.build settings) = " ".intercalate (WindowSpec.emitted settings) ∧
      (toSql (WindowSpec.build settings) = "" ↔ WindowSpec.emitted settings = []) ∧
      toSql (x.marked marks) =
        toSql x.expr ++ (OrderItem.directionText ((lastGiven OrderItem.Mark.direction? marks).or x.direction) ++
          OrderItem.nullsText ((lastGiven OrderItem.Mark.nulls? marks).or x.nulls)) := by
  have hsections := WindowSpec.sections_build settings
  refine ⟨?_, ?_, x.toSql_marked marks⟩
  · rw [WindowSpec.toSql_eq, WindowSpec.spelling, hsections]
  · rw [WindowSpec.toSql_eq_empty_iff, hsections]

example :
    toSql (WindowSpec.build [.order [], .partition [.wildcard], .frame .implied, .partition []]) =
      "ORDER BY  RANGE BETWEEN UNBOUNDED PRECEDING AND CURRENT ROW" := by
  decide

end SqlText
