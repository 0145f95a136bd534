import SqlText.Proofs.Derivation

/-! # Texts read back

The text of a tree is derived with the tree itself, asked-for parentheses left out, and with nothing
else. So an expression is read back as what it was written from, and specifications with the same
text are the same. -/

namespace SqlText

open Buffer (wrapped)
open Token (word)

variable {windows : Bool}

/-! ## Every depth -/

/-- The tokens of a node's text are derived with the node. -/
def Node.Derived (windows : Bool) : Node → Prop
  | identifier i => ∃ t, tokens i.text = [t] ∧ t.identifier? = some i
  | literal l => ∃ t, tokens l.text = [t] ∧ t.literal? = some l
  | expr e => Derives windows (.expr e.level) (tokens (toSql e)) e.strip
  | call c => Derives windows (.expr .prim) (tokens (toSql c)) (.call (c.rewrite .strip))
  | orderItem x => Derives windows .item (tokens (toSql x)) (x.rewrite .strip)
  | frameBound bound => Derives windows .bound (tokens (toSql bound)) (bound.rewrite .strip)
  | frame f => Derives windows .frame (tokens (toSql f)) (f.rewrite .strip)
  | windowSpec s => Derives windows .spec (tokens (toSql s)) s.strip
  | window w => Derives windows .window (tokens (toSql w)) (w.rewrite .strip)
  | frameUnit _ | namedWindow _ => True

theorem derived_loosest {e : Expr} (h : (Node.expr e).Derived windows) :
    Derives windows (.expr .or) (tokens (toSql e)) e.strip :=
  Derives.loosen h e.level.rank_le.1

theorem Expr.derived {e : Expr} (hlegible : e.Legible) (htame : ∀ m ∈ e.children, Tame (toSql m))
    (h : ∀ m ∈ e.children, m.Derived windows) : (Node.expr e).Derived windows := by
  rw [Node.Derived, e.toSql_eq]
  cases e with
  | literal l =>
    obtain ⟨t, ht, hl⟩ := h (.literal l) (by simp [children])
    rw [spelling, ht]
    exact .literal hl
  | identifier i =>
    obtain ⟨t, ht, hi⟩ := h (.identifier i) (by simp [children])
    rw [spelling, ht]
    exact .names (.name hi)
  | wildcard =>
    have htokens : tokens "*" = [word "*"] := by decide
    rw [spelling, htokens]
    exact .wildcard
  | compound parts =>
    have hne : parts ≠ [] := by
      rintro rfl
      simp [Legible] at hlegible
    have hpath : Derives windows .path (tokens (compound parts).spelling) parts :=
      derives_path hne (fun i hi => htame (.identifier i) (by simp [children, hi]))
        fun i hi => h (.identifier i) (by simp [children, hi])
    have hnames := Derives.names hpath
    have hstrip : (compound parts).strip = compound parts := by
      simp [rewrite, Rewrite.strip, unnest]
    rw [hstrip]
    rcases parts with _ | ⟨i, _ | ⟨j, rest⟩⟩
    · exact absurd rfl hne
    · simp [Legible] at hlegible
    · exact hnames
  | binary l op r =>
    have hl : Closed (toSql l) := (htame (.expr l) (by simp [children])).closed
    have hr : Closed (toSql r) := (htame (.expr r) (by simp [children])).closed
    rw [← (binary l op r).toSql_eq, tokens_binary op hl]
    exact .binary op (derives_left op hl (h (.expr l) (by simp [children])))
      (derives_right op hlegible hr (h (.expr r) (by simp [children])))
  | unary op e =>
    exact derives_unary op (htame (.expr e) (by simp [children])).closed (h (.expr e) (by simp [children]))
  | call c =>
    have hc : (Node.call c).Derived windows := h (.call c) (by simp [children])
    exact hc
  | nested e =>
    have he : (Node.expr e).Derived windows := h (.expr e) (by simp [children])
    have hclosed : Closed (toSql e) := (htame (.expr e) (by simp [children])).closed
    rw [spelling, tokens_parens hclosed]
    exact .parens (derived_loosest he)
  | nullTest e negated =>
    exact derives_nullTest negated (htame (.expr e) (by simp [children])).closed (h (.expr e) (by simp [children]))
  | between e low high negated =>
    exact derives_between negated (htame (.expr e) (by simp [children])).closed
      (htame (.expr low) (by simp [children])).closed (htame (.expr high) (by simp [children])).closed
      (h (.expr e) (by simp [children])) (h (.expr low) (by simp [children])) (h (.expr high) (by simp [children]))

theorem Window.derived {w : Window} (htame : ∀ m ∈ (Node.window w).children, Tame (toSql m))
    (h : ∀ m ∈ (Node.window w).children, m.Derived windows) : (Node.window w).Derived windows := by
  rw [Node.Derived, w.toSql_eq]
  cases w with
  | inline spec =>
    have hspec : (Node.windowSpec spec).Derived windows := h (.windowSpec spec) (by simp [Node.children])
    have hclosed : Closed (toSql spec) := (htame (.windowSpec spec) (by simp [Node.children])).closed
    rw [spelling, tokens_parens hclosed]
    exact .inline hspec
  | named name =>
    obtain ⟨t, ht, hname⟩ := h (.identifier name) (by simp [Node.children])
    rw [spelling, ht]
    exact .named hname

theorem Node.derived_step {n : Node} (hlegible : n.Legible windows) (htame : ∀ m ∈ n.children, Tame (toSql m))
    (h : ∀ m ∈ n.children, m.Derived windows) : n.Derived windows := by
  cases n with
  | identifier i => exact i.token hlegible
  | literal l => exact l.token hlegible
  | frameUnit u => trivial
  | namedWindow w => trivial
  | expr e => exact e.derived hlegible htame h
  | window w => exact w.derived htame h
  | call c =>
    rw [Derived, c.toSql_eq]
    exact derives_call hlegible.1 hlegible.2 (fun e he => htame (.expr e) (by simp [children, he]))
      (fun e he => derived_loosest (h (.expr e) (by simp [children, he])))
      fun w hw => h (.window w) (by simp [children, Option.mem_def.mp hw])
  | orderItem x =>
    rw [Derived, x.toSql_eq]
    exact derives_orderItem (htame (.expr x.expr) (by simp [children]))
      (derived_loosest (h (.expr x.expr) (by simp [children])))
  | frameBound bound =>
    rw [Derived, bound.toSql_eq]
    exact derives_frameBound fun e he => ⟨htame (.expr e) he, derived_loosest (h (.expr e) he)⟩
  | frame f =>
    rw [Derived, f.toSql_eq]
    exact derives_frame fun bound hb => ⟨htame (.frameBound bound) hb, h (.frameBound bound) hb⟩
  | windowSpec s =>
    rw [Derived, s.toSql_eq]
    exact derives_windowSpec htame
      (fun e he => derived_loosest (h (.expr e) (by simp [children, WindowSpec.children, he])))
      (fun x hx => h (.orderItem x) (by simp [children, WindowSpec.children, hx]))
      fun f hf => h (.frame f) (by simp [children, WindowSpec.children, Option.mem_def.mp hf])

theorem Node.derived (n : Node) (h : n.Every (Legible windows)) : n.Derived windows := by
  induction n using Node.induct with
  | step n ih =>
    refine derived_step h.here (fun m hm => ?_) fun m hm => ih m hm (h.child hm)
    exact tame_of_legible (h.child hm)

/-! ## Reading back -/

/-- The reference grammar reads the text of an expression as that expression without the parentheses
that were asked for, and as nothing else. -/
theorem Expr.reads_back (e t : Expr) (h : (Node.expr e).Every (Node.Legible false)) :
    Derives false (.expr .or) (tokens (toSql e)) t ↔ t = e.strip := by
  have hderived := derived_loosest (Node.derived (.expr e) h)
  constructor
  · intro ht
    exact ht.unique hderived (by simp [Stops])
  · rintro rfl
    exact hderived

theorem reads_back_negated_difference :
    let e := Expr.unary .not
      (.nested (.binary (.unary .neg (.literal (.integer 1))) .sub (.identifier (.quoted '"' "a"))))
    toSql e = "NOT (-1 - \"a\")" ∧
      Derives false (.expr .or) (tokens (toSql e))
        (.unary .not (.binary (.unary .neg (.literal (.integer 1))) .sub (.identifier (.quoted '"' "a")))) := by
  intro e
  have hlegible : (Node.expr e).Every (Node.Legible false) := by
    simp only [e, Node.every_unary, Node.every_nested, Node.every_binary, Node.every_literal, Node.every_identifier]
    exact ⟨trivial, trivial, rfl, ⟨trivial, trivial, (by decide : (0 : Int64) ≤ 1)⟩, trivial, rfl⟩
  exact ⟨by decide, (e.reads_back _ hlegible).mpr rfl⟩

/-- Specifications with the same text are the same but for parentheses that were asked for. -/
theorem WindowSpec.strip_eq_of_toSql_eq (s t : WindowSpec) (hs : (Node.windowSpec s).Every (Node.Legible true))
    (ht : (Node.windowSpec t).Every (Node.Legible true)) (h : toSql s = toSql t) : s.strip = t.strip := by
  have hderived : Derives true .spec (tokens (toSql s)) s.strip := Node.derived (.windowSpec s) hs
  have hderived' : Derives true .spec (tokens (toSql t)) t.strip := Node.derived (.windowSpec t) ht
  rw [← h] at hderived'
  exact hderived.unique hderived' (by simp [Stops])

theorem strip_eq_of_factor_in_parens :
    let sum := Expr.binary (.literal (.integer 1)) .add (.literal (.integer 2))
    let s : WindowSpec := ⟨[.binary (.nested sum) .mul (.literal (.integer 3))], some [], none⟩
    let t : WindowSpec := ⟨[.binary sum .mul (.literal (.integer 3))], some [], none⟩
    toSql s = "PARTITION BY (1 + 2) * 3 ORDER BY " ∧ s ≠ t ∧ s.strip = t.strip := by
  intro sum s t
  have hnumber : ∀ n : Int64, 0 ≤ n → (Node.expr (.literal (.integer n))).Every (Node.Legible true) :=
    fun n hn => Node.every_literal.mpr ⟨trivial, hn⟩
  have hsum : (Node.expr sum).Every (Node.Legible true) :=
    Node.every_binary.mpr ⟨rfl, hnumber 1 (by decide), hnumber 2 (by decide)⟩
  have hproduct : ∀ e, (Node.expr e).Every (Node.Legible true) →
      (Node.expr (.binary e .mul (.literal (.integer 3)))).Every (Node.Legible true) :=
    fun e he => Node.every_binary.mpr ⟨rfl, he, hnumber 3 (by decide)⟩
  have hs : (Node.windowSpec s).Every (Node.Legible true) := by
    simpa [s, Node.Legible] using hproduct _ (Node.every_nested.mpr ⟨trivial, hsum⟩)
  have ht : (Node.windowSpec t).Every (Node.Legible true) := by
    simpa [t, Node.Legible] using hproduct sum hsum
  exact ⟨by decide, by simp [s, t], s.strip_eq_of_toSql_eq t hs ht (by decide)⟩

end SqlText
