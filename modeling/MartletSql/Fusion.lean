import MartletSql.Rewrite.Statement

/-!
# MartletSql — token separation

A render is a sequence of fragments, one per `write!`. Two consecutive non-empty fragments
*fuse* when the first ends in a word character and the second starts with one: written one
after the other they read as one word.

* **`noFusion_append`** — fusion is local: two runs written one after the other fuse only
  inside one of them or at their seam.
* **`noFusion_displaySeparated`** — a separated list does not fuse when its elements do not
  and its separator `separates`.
* **`Expr.rewrite_noFusion`** — no expression render fuses, whatever its children and the
  renders of the nodes outside these files write: at every seam of every arm one side is a
  keyword that starts or ends with a space or a punctuation mark.
* **`directory_fileFormat_fused`** — `INSERT DIRECTORY … STORED AS` writes the file format and
  then the source query with nothing between them.
-/

namespace Martlet

/-- A letter, a digit or `_`. -/
def isWordChar (c : Char) : Bool := c.isAlphanum || c = '_'

/-- `s` starts with a word character. -/
def startsWord (s : String) : Bool := s.data.head?.any isWordChar

/-- `s` ends in a word character. -/
def endsWord (s : String) : Bool := s.data.getLast?.any isWordChar

/-- `a` ends in a word character and `b` starts with one. -/
def fuses (a b : String) : Bool := endsWord a && startsWord b

/-- No two consecutive fragments of the list fuse. -/
def seamsSeparated : List String → Bool
  | a :: b :: rest => !fuses a b && seamsSeparated (b :: rest)
  | _ => true

/-- No two consecutive non-empty fragments fuse. -/
def NoFusion (w : List String) : Prop :=
  seamsSeparated (w.filter fun s => !s.isEmpty) = true

instance (w : List String) : Decidable (NoFusion w) :=
  inferInstanceAs (Decidable (_ = true))

/-- `s` keeps its neighbours apart: it is not empty, and neither its first nor its last
character is a word character. -/
def separates (s : String) : Bool := s ≠ "" && !startsWord s && !endsWord s

/-! ## Fusion is local to the seams -/

@[simp] theorem startsWord_empty : startsWord "" = false := rfl

@[simp] theorem endsWord_empty : endsWord "" = false := rfl

theorem startsWord_append (a b : String) :
    startsWord (a ++ b) = if a = "" then startsWord b else startsWord a := by
  split
  · subst_vars; rfl
  · obtain ⟨c, cs, hc⟩ := List.exists_cons_of_ne_nil (mt String.ext (by simpa))
    simp [startsWord, hc]

theorem endsWord_append (a b : String) :
    endsWord (a ++ b) = if b = "" then endsWord a else endsWord b := by
  split
  · subst_vars; simp
  · simp [endsWord, List.getLast?_eq_getLast _ (mt String.ext (by simpa) : b.data ≠ [])]

@[simp] theorem isEmpty_eq_false {s : String} : s.isEmpty = false ↔ s ≠ "" := by
  rw [ne_eq, ← String.isEmpty_iff, Bool.not_eq_true]

theorem seamsSeparated_cons (s : String) {u : List String} (hu : ∀ t ∈ u, t ≠ "") :
    seamsSeparated (s :: u) = (!fuses s (String.join u) && seamsSeparated u) := by
  cases u with
  | nil => simp [seamsSeparated, fuses]
  | cons t u => simp [seamsSeparated, join_cons, fuses, startsWord_append, hu t (by simp)]

theorem join_filter_nonempty (w : List String) :
    String.join (w.filter fun s => !s.isEmpty) = String.join w := by
  induction w with
  | nil => rfl
  | cons s w ih =>
    by_cases hs : s = ""
    · subst hs; simpa [List.filter_cons, join_cons] using ih
    · simp [List.filter_cons, join_cons, hs, ih]

@[simp] theorem noFusion_nil : NoFusion [] := rfl

/-- A fragment in front of a run fuses only with the run's first character. -/
@[simp] theorem noFusion_cons (s : String) (w : List String) :
    NoFusion (s :: w) ↔ NoFusion w ∧ fuses s (String.join w) = false := by
  by_cases hs : s = ""
  · subst hs; simp [NoFusion, List.filter_cons, fuses]
  · have hu : ∀ t ∈ w.filter (fun s => !s.isEmpty), t ≠ "" := by simp
    simp only [NoFusion, List.filter_cons, Bool.not_eq_true', isEmpty_eq_false, ne_eq, hs,
      not_false_eq_true, ite_true, seamsSeparated_cons s hu, join_filter_nonempty,
      Bool.and_eq_true, and_comm]

/-- **Fusion is local.** Two runs written one after the other fuse only inside one of them or
at their seam. -/
theorem noFusion_append (a b : List String) :
    NoFusion (a ++ b) ↔
      NoFusion a ∧ NoFusion b ∧ fuses (String.join a) (String.join b) = false := by
  induction a with
  | nil => simp [fuses]
  | cons s a ih =>
    by_cases ha : String.join a = ""
    · simp [ih, join_cons, join_append, ha, fuses, startsWord_append, endsWord_append]
      tauto
    · simp [ih, join_cons, join_append, ha, fuses, startsWord_append, endsWord_append]
      tauto

/-! ## Guarded runs

A run is *guarded* when nothing written before it can fuse with it: it does not fuse, and it
does not start with a word character. A keyword that `separates` guards whatever follows it;
a guarded run can follow anything. -/

/-- The run does not fuse and does not start with a word character. -/
def Guarded (w : List String) : Prop := NoFusion w ∧ startsWord (String.join w) = false

instance (w : List String) : Decidable (Guarded w) :=
  inferInstanceAs (Decidable (_ ∧ _))

theorem guarded_nil : Guarded [] := ⟨noFusion_nil, rfl⟩

theorem separates_comma : separates ", " = true := by decide

theorem separates_dot : separates "." = true := by decide

/-- A keyword that separates guards a run that does not fuse. -/
theorem guarded_keyword_cons {kw : String} (hk : separates kw = true) {w : List String}
    (h : NoFusion w) : Guarded (kw :: w) := by
  simp only [separates, Bool.and_eq_true, decide_eq_true_eq, Bool.not_eq_true'] at hk
  simp [Guarded, h, fuses, hk, join_cons, startsWord_append]

/-- A keyword that does not end in a word character can precede a run that does not fuse. -/
theorem noFusion_keyword_cons {kw : String} (hk : endsWord kw = false) {w : List String}
    (h : NoFusion w) : NoFusion (kw :: w) := by
  simp [h, fuses, hk]

/-- A guarded run can follow any run that does not fuse. -/
theorem noFusion_append_guarded {a b : List String} (ha : NoFusion a) (hb : Guarded b) :
    NoFusion (a ++ b) :=
  (noFusion_append a b).2 ⟨ha, hb.1, by simp [fuses, hb.2]⟩

/-- A keyword that does not start with a word character, in front of a guarded run. -/
theorem guarded_cons {kw : String} (hk : startsWord kw = false) {w : List String}
    (h : Guarded w) : Guarded (kw :: w) := by
  refine ⟨(noFusion_cons kw w).2 ⟨h.1, by simp [fuses, h.2]⟩, ?_⟩
  rw [join_cons, startsWord_append]
  split <;> simp [hk, h.2]

theorem guarded_append {a b : List String} (ha : Guarded a) (hb : Guarded b) : Guarded (a ++ b) :=
  ⟨noFusion_append_guarded ha.1 hb,
    by rw [join_append, startsWord_append]; split <;> simp [ha.2, hb.2]⟩

/-! ## Separated lists -/

theorem startsWord_join_separatedFragments {sep : String} (hne : sep ≠ "")
    (hs : startsWord sep = false) (texts : List (List String)) :
    startsWord (String.join (separatedFragments sep sep texts)) = false := by
  cases texts <;> simp [separatedFragments, join_cons, startsWord_append, hne, hs]

theorem noFusion_separatedFragments {sep : String} (hsep : separates sep = true) {delim : String}
    (hd : endsWord delim = false) {texts : List (List String)} (h : ∀ t ∈ texts, NoFusion t) :
    NoFusion (separatedFragments sep delim texts) := by
  simp only [separates, Bool.and_eq_true, decide_eq_true_eq, Bool.not_eq_true'] at hsep
  obtain ⟨⟨hne, hs⟩, he⟩ := hsep
  induction texts generalizing delim with
  | nil => exact noFusion_nil
  | cons t ts ih =>
    simp only [List.forall_mem_cons] at h
    simp [separatedFragments, noFusion_append, fuses, hd, h.1, ih he h.2,
      startsWord_join_separatedFragments hne hs]

/-- **Separated lists.** `DisplaySeparated` does not fuse when its elements do not and its
separator keeps them apart. -/
theorem noFusion_displaySeparated {rs : List (RW Unit)} {sep : String} (hsep : separates sep = true)
    (hrs : RW.AllSat NoFusion rs) : (displaySeparated rs sep).Sat NoFusion := by
  intro w h
  obtain ⟨texts, hts, rfl⟩ := runs_displaySeparated h
  refine noFusion_separatedFragments hsep endsWord_empty fun t ht => ?_
  obtain ⟨r, hr, hrt⟩ := hts t ht
  exact hrs r hr t hrt

/-- A list of single writes, such as the renders of the nodes outside these files. -/
theorem allNoFusion_map_write {α : Type} (l : List α) (g : α → String) :
    RW.AllSat NoFusion (l.map fun a => write (g a)) := by
  simp [RW.AllSat, RW.Sat, fuses]

/-! ## Runs -/

theorem startsWord_append_of_ne {a : String} (ha : a ≠ "") (b : String) :
    startsWord (a ++ b) = startsWord a := by
  rw [startsWord_append, if_neg ha]

/-- ` LOCATION '…'` and the like: a keyword, a text, and a closing text. -/
theorem startsWord_append_append {kw : String} (hk : kw ≠ "") (s t : String) :
    startsWord (kw ++ s ++ t) = startsWord kw := by
  rw [String.append_assoc, startsWord_append_of_ne hk]


theorem noFusion_write (s : String) : (write s).Sat NoFusion := by
  simp [RW.Sat, fuses]

theorem guarded_write {s : String} (hs : startsWord s = false) : (write s).Sat Guarded := by
  simp [RW.Sat, Guarded, fuses, hs]

theorem pure_guarded : (pure () : RW Unit).Sat Guarded := by
  simpa [RW.Sat] using guarded_nil

theorem noFusion_displayCommaSeparated {rs : List (RW Unit)} (h : RW.AllSat NoFusion rs) :
    (displayCommaSeparated rs).Sat NoFusion :=
  noFusion_displaySeparated separates_comma h

section
variable {m : RW Unit} {k : Unit → RW Unit}

theorem noFusion_bind_guarded (hm : m.Sat NoFusion) (hk : (k ()).Sat Guarded) :
    (m >>= k).Sat NoFusion := by
  simp only [RW.Sat, RW.forall_runs_bind]
  exact fun a ha b hb => noFusion_append_guarded (hm a ha) (hk b hb)

theorem guarded_bind (hm : m.Sat Guarded) (hk : (k ()).Sat Guarded) : (m >>= k).Sat Guarded := by
  simp only [RW.Sat, RW.forall_runs_bind]
  exact fun a ha b hb => guarded_append (hm a ha) (hk b hb)

/-- A keyword that separates guards whatever follows it. -/
theorem keyword_bind_guarded {kw : String} (hkw : separates kw = true)
    (hk : (k ()).Sat NoFusion) : (write kw >>= k).Sat Guarded := by
  simp only [RW.Sat, RW.forall_runs_bind, RW.runs_write, forall_eq', List.singleton_append]
  exact fun b hb => guarded_keyword_cons hkw (hk b hb)

/-- A keyword that does not end in a word character can precede whatever does not fuse. -/
theorem keyword_bind_noFusion {kw : String} (hkw : endsWord kw = false)
    (hk : (k ()).Sat NoFusion) : (write kw >>= k).Sat NoFusion := by
  simp only [RW.Sat, RW.forall_runs_bind, RW.runs_write, forall_eq', List.singleton_append]
  exact fun b hb => noFusion_keyword_cons hkw (hk b hb)

end

/-! ## Leaves -/

theorem Ident.rewrite_noFusion (i : Ident) (ctx : Context) : (i.rewrite ctx).Sat NoFusion := by
  rcases i with ⟨v, _ | q⟩
  · simp [RW.Sat, Ident.rewrite, fuses]
  · simp only [RW.Sat, Ident.rewrite]
    split_ifs <;> simp [fuses]

theorem Ident.allNoFusion (ctx : Context) (l : List Ident) :
    RW.AllSat NoFusion (l.map (·.rewrite ctx)) := by
  simpa [RW.AllSat] using fun i _ => Ident.rewrite_noFusion i ctx

theorem ObjectName.rewrite_noFusion (n : ObjectName) (ctx : Context) :
    (n.rewrite ctx).Sat NoFusion :=
  noFusion_displaySeparated separates_dot (Ident.allNoFusion ctx n.parts)

theorem UnaryOperator.rewrite_noFusion (op : UnaryOperator) (ctx : Context) :
    (op.rewrite ctx).Sat NoFusion := by
  simp [RW.Sat, UnaryOperator.rewrite, fuses]

theorem BinaryOperator.rewrite_noFusion (op : BinaryOperator) (ctx : Context) :
    (op.rewrite ctx).Sat NoFusion := by
  simp [RW.Sat, BinaryOperator.rewrite, fuses]

theorem WindowFrameUnits.rewrite_noFusion (u : WindowFrameUnits) (ctx : Context) :
    (u.rewrite ctx).Sat NoFusion := by
  simp [RW.Sat, WindowFrameUnits.rewrite, fuses]

theorem WindowFrameBound.rewrite_noFusion (b : WindowFrameBound) (ctx : Context) :
    (b.rewrite ctx).Sat NoFusion := by
  simp [RW.Sat, WindowFrameBound.rewrite, fuses]

theorem formatTypeWithOptionalLength_noFusion (sqlType : String) (len : Option Nat) :
    (formatTypeWithOptionalLength sqlType len).Sat NoFusion := by
  cases len <;> simp [RW.Sat, formatTypeWithOptionalLength, RW.forall_runs_bind, fuses,
    startsWord_append, startsWord, isWordChar]

theorem DataType.rewrite_noFusion (d : DataType) (ctx : Context) :
    (d.rewrite ctx).Sat NoFusion := by
  induction d with
  | decimal precision scale =>
    rcases scale with _ | s
    · exact formatTypeWithOptionalLength_noFusion _ _
    · rcases precision with _ | p <;> simp [RW.Sat, DataType.rewrite, fuses]
  | custom ty => exact ObjectName.rewrite_noFusion ty ctx
  | char size | varchar size | float size => exact formatTypeWithOptionalLength_noFusion _ _
  | array ty ih =>
    simp only [RW.Sat, DataType.rewrite, RW.forall_runs_bind, RW.runs_write, forall_eq']
    intro a ha
    simp [noFusion_append, ih a ha, fuses, startsWord, isWordChar]
  | _ => simp [RW.Sat, DataType.rewrite, fuses]

/-! ## Expressions

The arms of `Expr::rewrite` are checked seam by seam along their `do` blocks: a keyword that
separates guards the run after it, `decide` checks the first and last characters of each
keyword, and a child's run enters only through what its own theorem says of it. -/

/-- The `WHEN … THEN …` loop of `CASE` does not fuse, and it opens with a space. -/
theorem whenThens_zip_guarded {l₁ l₂ : List (RW Unit)} (h₁ : RW.AllSat NoFusion l₁)
    (h₂ : RW.AllSat NoFusion l₂) : (whenThens (l₁.zip l₂)).Sat Guarded := by
  induction l₁ generalizing l₂ with
  | nil => simp [RW.Sat, whenThens, guarded_nil]
  | cons r l₁ ih =>
    cases l₂ with
    | nil => simp [RW.Sat, whenThens, guarded_nil]
    | cons r' l₂ =>
      simp only [RW.allSat_cons] at h₁ h₂
      simp only [RW.Sat, List.zip_cons_cons, whenThens, RW.forall_runs_bind, RW.runs_write,
        forall_eq', List.singleton_append]
      intro c hc t ht w hw
      exact guarded_keyword_cons (by decide) <| noFusion_append_guarded (h₁.1 c hc) <|
        guarded_keyword_cons (by decide) <|
          noFusion_append_guarded (h₂.1 t ht) (ih h₁.2 h₂.2 w hw)

section
variable {X : Foreign} (R : Renders X)

/-- `WindowSpec::rewrite`, given that the `PARTITION BY` expressions do not fuse: each clause
opens with a keyword, and `delim` is a space exactly when a clause precedes it. -/
theorem WindowSpec.rewrite_noFusion_of {partitionBy : List (Expr X)} {ctx : Context}
    (hp : RW.AllSat NoFusion (Expr.rewriteList R partitionBy ctx)) (orderBy : List X.OrderByExpr)
    (windowFrame : Option WindowFrame) :
    (WindowSpec.rewrite R (.mk partitionBy orderBy windowFrame) ctx).Sat NoFusion := by
  have hP := noFusion_displayCommaSeparated hp
  have hO := noFusion_displayCommaSeparated
    (allNoFusion_map_write orderBy fun o => R.orderByExpr o ctx)
  rcases partitionBy with _ | ⟨e, es⟩ <;> rcases orderBy with _ | ⟨o, os⟩ <;>
  simp only [WindowSpec.rewrite, List.isEmpty_nil, List.isEmpty_cons, Bool.not_true,
    Bool.not_false, Bool.false_eq_true, reduceIte, RW.pure_unit_bind]
  case' nil.cons =>
    refine keyword_bind_noFusion (by decide) (keyword_bind_noFusion (by decide) ?_)
    refine noFusion_bind_guarded hO ?_
  case' cons.nil => refine keyword_bind_noFusion (by decide) (noFusion_bind_guarded hP ?_)
  case' cons.cons =>
    refine keyword_bind_noFusion (by decide) (noFusion_bind_guarded hP ?_)
    refine keyword_bind_guarded (by decide) (keyword_bind_noFusion (by decide) ?_)
    refine noFusion_bind_guarded hO ?_
  -- the frame clause: after a clause it is guarded by the space `delim` holds, and alone it
  -- only has not to fuse
  all_goals
    rcases windowFrame with _ | ⟨u, s, _ | b⟩
    · first | exact pure_guarded | exact fun w hw => (pure_guarded w hw).1
    all_goals first
      | refine keyword_bind_guarded (by decide) ?_
      | refine keyword_bind_noFusion (by decide) ?_
    · exact noFusion_bind_guarded (u.rewrite_noFusion ctx) <|
        keyword_bind_guarded (by decide) (s.rewrite_noFusion ctx)
    · exact noFusion_bind_guarded (u.rewrite_noFusion ctx) <|
        keyword_bind_guarded (by decide) <| noFusion_bind_guarded (s.rewrite_noFusion ctx) <|
        keyword_bind_guarded (by decide) (b.rewrite_noFusion ctx)

mutual
theorem Expr.rewrite_noFusion :
    ∀ (e : Expr X) (ctx : Context), (Expr.rewrite R e ctx).Sat NoFusion
  | .identifier s, ctx => Ident.rewrite_noFusion s ctx
  | .mapAccess column key, ctx =>
    noFusion_bind_guarded (Expr.rewrite_noFusion column ctx)
      (guarded_write (by rw [startsWord_append_append (by decide)]; rfl))
  | .wildcard, _ => noFusion_write _
  | .qualifiedWildcard q, ctx =>
    noFusion_bind_guarded (noFusion_displaySeparated separates_dot (Ident.allNoFusion ctx q))
      (guarded_write (by decide))
  | .compoundIdentifier s, ctx => noFusion_displaySeparated separates_dot (Ident.allNoFusion ctx s)
  | .isNull ast, ctx => noFusion_bind_guarded (Expr.rewrite_noFusion ast ctx) (guarded_write rfl)
  | .isNotNull ast, ctx =>
    noFusion_bind_guarded (Expr.rewrite_noFusion ast ctx) (guarded_write rfl)
  | .inList expr list negated, ctx =>
    noFusion_bind_guarded (Expr.rewrite_noFusion expr ctx) <|
      keyword_bind_guarded (by cases negated <;> decide) <|
      noFusion_bind_guarded (noFusion_displayCommaSeparated (Expr.rewriteList_noFusion list ctx))
        (guarded_write rfl)
  | .inSubquery expr subquery negated, ctx =>
    noFusion_bind_guarded (Expr.rewrite_noFusion expr ctx) <|
      keyword_bind_guarded (by cases negated <;> decide) <|
      noFusion_bind_guarded (noFusion_write _) (guarded_write rfl)
  | .between expr negated low high, ctx =>
    noFusion_bind_guarded (Expr.rewrite_noFusion expr ctx) <|
      keyword_bind_guarded (by cases negated <;> decide) <|
      noFusion_bind_guarded (Expr.rewrite_noFusion low ctx) <|
      keyword_bind_guarded (by decide) (Expr.rewrite_noFusion high ctx)
  | .binaryOp left op right, ctx =>
    noFusion_bind_guarded (Expr.rewrite_noFusion left ctx) <|
      keyword_bind_guarded (by decide) <|
      noFusion_bind_guarded (BinaryOperator.rewrite_noFusion op ctx) <|
      keyword_bind_guarded (by decide) (Expr.rewrite_noFusion right ctx)
  | .unaryOp op expr, ctx => by
    simp only [Expr.rewrite]
    split
    · subst op
      exact noFusion_bind_guarded (Expr.rewrite_noFusion expr ctx) (guarded_write rfl)
    · exact noFusion_bind_guarded (UnaryOperator.rewrite_noFusion op ctx) <|
        keyword_bind_guarded (by decide) (Expr.rewrite_noFusion expr ctx)
  | .cast expr dataType, ctx =>
    keyword_bind_noFusion rfl <| noFusion_bind_guarded (Expr.rewrite_noFusion expr ctx) <|
      keyword_bind_guarded (by decide) <|
      noFusion_bind_guarded (DataType.rewrite_noFusion dataType ctx) (guarded_write rfl)
  | .extract field expr, ctx =>
    keyword_bind_noFusion rfl <| noFusion_bind_guarded (noFusion_write _) <|
      keyword_bind_guarded (by decide) <|
      noFusion_bind_guarded (Expr.rewrite_noFusion expr ctx) (guarded_write rfl)
  | .collate expr collation, ctx =>
    noFusion_bind_guarded (Expr.rewrite_noFusion expr ctx) <|
      keyword_bind_guarded (by decide) (ObjectName.rewrite_noFusion collation ctx)
  | .nested ast, ctx =>
    keyword_bind_noFusion rfl <|
      noFusion_bind_guarded (Expr.rewrite_noFusion ast ctx) (guarded_write rfl)
  | .value _, _ => noFusion_write _
  | .typedString dataType _, ctx =>
    noFusion_bind_guarded (DataType.rewrite_noFusion dataType ctx) <|
      keyword_bind_guarded (by decide) <|
      noFusion_bind_guarded (noFusion_write _) (guarded_write rfl)
  | .function fn, ctx => Function.rewrite_noFusion fn ctx
  | .case operand conditions results elseResult, ctx =>
    noFusion_bind_guarded (noFusion_write _) <|
      guarded_bind (Expr.rewriteOption_noFusion " " operand ctx (by decide)) <|
      guarded_bind (whenThens_zip_guarded (Expr.rewriteList_noFusion conditions ctx)
        (Expr.rewriteList_noFusion results ctx)) <|
      guarded_bind (Expr.rewriteOption_noFusion " ELSE " elseResult ctx (by decide))
        (guarded_write rfl)
  | .exists _, _ =>
    keyword_bind_noFusion rfl <| noFusion_bind_guarded (noFusion_write _) (guarded_write rfl)
  | .subquery _, _ =>
    keyword_bind_noFusion rfl <| noFusion_bind_guarded (noFusion_write _) (guarded_write rfl)
  | .listAgg listagg, ctx => ListAgg.rewrite_noFusion listagg ctx
  | .substring expr substringFrom substringFor, ctx =>
    keyword_bind_noFusion rfl <| noFusion_bind_guarded (Expr.rewrite_noFusion expr ctx) <|
      guarded_bind (Expr.rewriteOption_noFusion " FROM " substringFrom ctx (by decide)) <|
      guarded_bind (Expr.rewriteOption_noFusion " FOR " substringFor ctx (by decide))
        (guarded_write rfl)
  | .tryCast _ _, _ => fun w hw => (pure_guarded w hw).1
  | .parameterMark _, _ => fun w hw => (pure_guarded w hw).1

theorem Expr.rewriteList_noFusion : ∀ (es : List (Expr X)) (ctx : Context),
    RW.AllSat NoFusion (Expr.rewriteList R es ctx)
  | [], _ => RW.allSat_nil _
  | e :: es, ctx =>
    (RW.allSat_cons _ _ _).2 ⟨Expr.rewrite_noFusion e ctx, Expr.rewriteList_noFusion es ctx⟩

theorem Expr.rewriteOption_noFusion : ∀ (keyword : String) (o : Option (Expr X)) (ctx : Context),
    separates keyword = true → (Expr.rewriteOption R keyword o ctx).Sat Guarded
  | _, none, _, _ => by simp [RW.Sat, Expr.rewriteOption, guarded_nil]
  | _, some e, ctx, hk => by
    simp only [RW.Sat, Expr.rewriteOption, RW.forall_runs_bind, RW.runs_write, forall_eq',
      List.singleton_append]
    exact fun w hw => guarded_keyword_cons hk (Expr.rewrite_noFusion e ctx w hw)

theorem FunctionArg.rewrite_noFusion : ∀ (a : FunctionArg X) (ctx : Context),
    (FunctionArg.rewrite R a ctx).Sat NoFusion
  | .named name arg, ctx => by
    simp only [RW.Sat, FunctionArg.rewrite, RW.forall_runs_bind, RW.runs_write, forall_eq',
      List.singleton_append]
    exact fun n hn w hw => noFusion_append_guarded (Ident.rewrite_noFusion name ctx n hn)
      (guarded_keyword_cons (by decide) (Expr.rewrite_noFusion arg ctx w hw))
  | .unnamed arg, ctx => Expr.rewrite_noFusion arg ctx

theorem FunctionArg.rewriteList_noFusion : ∀ (as : List (FunctionArg X)) (ctx : Context),
    RW.AllSat NoFusion (FunctionArg.rewriteList R as ctx)
  | [], _ => RW.allSat_nil _
  | a :: as, ctx =>
    (RW.allSat_cons _ _ _).2
      ⟨FunctionArg.rewrite_noFusion a ctx, FunctionArg.rewriteList_noFusion as ctx⟩

theorem Function.rewrite_noFusion : ∀ (f : Function X) (ctx : Context),
    (Function.rewrite R f ctx).Sat NoFusion
  | .mk name args over distinct, ctx => by
    simp only [RW.Sat, Function.rewrite, displayCommaSeparated, RW.forall_runs_bind, RW.runs_write,
      forall_eq', List.singleton_append]
    intro n hn a ha o ho
    exact noFusion_append_guarded (ObjectName.rewrite_noFusion name ctx n hn) <|
      guarded_keyword_cons (by cases distinct <;> decide) <|
      noFusion_append_guarded
        (noFusion_displaySeparated separates_comma (FunctionArg.rewriteList_noFusion args ctx) a ha)
        (guarded_keyword_cons (by decide) (WindowSpec.rewriteOver_noFusion over ctx o ho).1)

theorem WindowSpec.rewriteOver_noFusion : ∀ (o : Option (WindowSpec X)) (ctx : Context),
    (WindowSpec.rewriteOver R o ctx).Sat Guarded
  | none, _ => by simp [RW.Sat, WindowSpec.rewriteOver, guarded_nil]
  | some w, ctx => by
    simp only [RW.Sat, WindowSpec.rewriteOver, RW.forall_runs_bind, RW.runs_write, forall_eq',
      List.singleton_append]
    exact fun s hs => guarded_keyword_cons (by decide) <|
      noFusion_append_guarded (WindowSpec.rewrite_noFusion w ctx s hs)
        (guarded_keyword_cons (by decide) noFusion_nil)

theorem WindowSpec.rewrite_noFusion : ∀ (w : WindowSpec X) (ctx : Context),
    (WindowSpec.rewrite R w ctx).Sat NoFusion
  | .mk partitionBy orderBy windowFrame, ctx =>
    WindowSpec.rewrite_noFusion_of R (Expr.rewriteList_noFusion partitionBy ctx) orderBy windowFrame

theorem ListAgg.rewrite_noFusion : ∀ (l : ListAgg X) (ctx : Context),
    (ListAgg.rewrite R l ctx).Sat NoFusion
  | .mk distinct expr separator onOverflow withinGroup, ctx => by
    have hw : (do
        write " WITHIN GROUP (ORDER BY "
        displayCommaSeparated (withinGroup.map fun o => write (R.orderByExpr o ctx))
        write ")" : RW Unit).Sat NoFusion := by
      simp only [RW.Sat, displayCommaSeparated, RW.forall_runs_bind, RW.runs_write, forall_eq',
        List.singleton_append]
      exact fun g hg => (guarded_keyword_cons (by decide) <| noFusion_append_guarded
        (noFusion_displaySeparated separates_comma (allNoFusion_map_write withinGroup _) g hg)
        (guarded_keyword_cons (by decide) noFusion_nil)).1
    simp only [RW.Sat, ListAgg.rewrite, RW.forall_runs_bind, RW.runs_write, forall_eq',
      List.singleton_append]
    intro e he s hs o ho g hg
    exact noFusion_keyword_cons (by cases distinct <;> decide) <|
      noFusion_append_guarded (Expr.rewrite_noFusion expr ctx e he) <|
      guarded_append (Expr.rewriteOption_noFusion ", " separator ctx separates_comma s hs) <|
      guarded_append (ListAggOnOverflow.rewriteOption_noFusion onOverflow ctx o ho) <|
      guarded_keyword_cons (by decide) (RW.sat_when _ hw noFusion_nil g hg)

theorem ListAggOnOverflow.rewrite_noFusion : ∀ (o : ListAggOnOverflow X) (ctx : Context),
    (ListAggOnOverflow.rewrite R o ctx).Sat Guarded
  | .error, _ => by simp [RW.Sat, ListAggOnOverflow.rewrite, RW.forall_runs_bind]; decide
  | .truncate filler withCount, ctx => by
    cases withCount <;>
    simp only [RW.Sat, ListAggOnOverflow.rewrite, RW.forall_runs_bind, RW.runs_write, forall_eq',
      List.singleton_append, Bool.false_eq_true, ite_true, ite_false] <;>
    exact fun f hf => guarded_cons (by decide) <| guarded_cons (by decide) <|
      guarded_append (Expr.rewriteOption_noFusion " " filler ctx (by decide) f hf) (by decide)

theorem ListAggOnOverflow.rewriteOption_noFusion :
    ∀ (o : Option (ListAggOnOverflow X)) (ctx : Context),
      (ListAggOnOverflow.rewriteOption R o ctx).Sat Guarded
  | none, _ => by simp [RW.Sat, ListAggOnOverflow.rewriteOption, guarded_nil]
  | some o, ctx => ListAggOnOverflow.rewrite_noFusion o ctx
end

/-- **No expression render fuses.** Whatever the expression and whatever the renders of the
nodes outside these files write, no two consecutive non-empty fragments of a run of
`Expr::rewrite` read as one word. -/
theorem renderPass_expr_noFusion (e : Expr X) (ctx : Context) (w : List String)
    (h : (Expr.rewrite R e ctx).out = .ok w) : NoFusion w :=
  Expr.rewrite_noFusion R e ctx w h

/-- `CAST(a AS INT)`: the keyword fragments keep the column name apart from both sides. -/
theorem renderPass_expr_noFusion_cast :
    (Expr.rewrite Renders.text (.cast (.identifier ⟨"a", none⟩) .int) []).out =
        .ok ["CAST(", "a", " AS ", "INT", ")"] ∧ NoFusion ["CAST(", "a", " AS ", "INT", ")"] :=
  ⟨by decide,
    renderPass_expr_noFusion Renders.text (.cast (.identifier ⟨"a", none⟩) .int) [] _ (by decide)⟩

end

/-- **`INSERT DIRECTORY … STORED AS TEXTFILE`.** The file format and the source query are
consecutive fragments: `TEXTFILE` and `SELECT 1` fuse into `TEXTFILESELECT`. -/
theorem directory_fileFormat_fused :
    (Statement.rewrite Renders.text (.directory false false "p" (some .TEXTFILE) "SELECT 1") []).out =
        .ok ["INSERT DIRECTORY 'p'", " STORED AS ", "TEXTFILE", "SELECT 1"] ∧
      ¬NoFusion ["INSERT DIRECTORY 'p'", " STORED AS ", "TEXTFILE", "SELECT 1"] := by
  decide

end Martlet
