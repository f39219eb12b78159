import MartletSql.Rewrite.Statement
import Mathlib.Data.Nat.Digits
import Mathlib.Tactic.IntervalCases

/-!
# MartletSql — parenthesis balance

`Balanced` reads a text for its parentheses: as many `(` as `)`, and no prefix with more `)`
than `(`.

A text acts on the depth through what is left of it once its matched pairs are struck out:
`c` closing parentheses, then `o` opening ones (`parenEffect`). Effects compose by one law
(`parenEffect_append`), and a run of fragments is read through `Closes k`: it closes `k`
parentheses opened before it and leaves none of its own open. `KeepsDepth` is `Closes 0`.

* **`skewed_execute_unbalanced`** — two arms of `Statement::rewrite` write unbalanced text
  around balanced children: `SKEWED BY` closes its column list with `))`, and `EXECUTE`
  closes its parameter list with `()`.
* **`renderPass_expr_balanced`** — `Expr::rewrite` and the renders it reaches write balanced
  text whenever the texts the expression holds and the renders of the nodes outside these
  files do.
-/

namespace Martlet

/-- The parenthesis depth after reading `cs` from depth `d`, or `none` once a `)` closes
nothing. -/
def parenDepth : Nat → List Char → Option Nat
  | d, [] => some d
  | d, c :: cs =>
    if c = '(' then parenDepth (d + 1) cs
    else if c = ')' then
      match d with
      | 0 => none
      | d + 1 => parenDepth d cs
    else parenDepth d cs

/-- As many `(` as `)`, and no prefix with more `)` than `(`. -/
def Balanced (s : String) : Prop := parenDepth 0 s.data = some 0

instance : DecidablePred Balanced := fun s => inferInstanceAs (Decidable (parenDepth 0 s.data = some 0))

/-- A Hive table skewed on column `a`. -/
def skewedTable : CreateTable Foreign.text where
  orReplace := false
  external := false
  ifNotExists := false
  name := ⟨[⟨"t", none⟩]⟩
  columns := []
  constraints := []
  hiveDistribution := .SKEWED [⟨⟨"a", none⟩, .int, []⟩] [⟨⟨"a", none⟩, .int, []⟩] false
  hiveFormats := none
  tableProperties := []
  withOptions := []
  fileFormat := none
  location := none
  query := none
  withoutRowid := false
  like := none

/-- **Two unbalanced arms.** `CREATE TABLE t () SKEWED BY (a)) ON (a)` closes one parenthesis
too many, and `EXECUTE p(1()` leaves one open, although every child text is balanced. -/
theorem skewed_execute_unbalanced :
    runOn "" (Statement.rewrite Renders.text (.createTable skewedTable) []) =
        .ok "CREATE TABLE t () SKEWED BY (a)) ON (a)" ∧
      ¬Balanced "CREATE TABLE t () SKEWED BY (a)) ON (a)" ∧
      runOn "" (Statement.rewrite Renders.text (.execute ⟨"p", none⟩ [.value "1"]) []) =
        .ok "EXECUTE p(1()" ∧
      ¬Balanced "EXECUTE p(1()" := by
  decide

/-! ## Effects -/

theorem parenDepth_append (d : Nat) (a b : List Char) :
    parenDepth d (a ++ b) = (parenDepth d a).bind (parenDepth · b) := by
  induction a generalizing d with
  | nil => rfl
  | cons c a ih =>
    simp only [List.cons_append, parenDepth]
    split_ifs
    · exact ih _
    · cases d <;> simp [ih]
    · exact ih _

/-- The effect of `ch` in front of a text whose effect is `e`. -/
def effectCons (ch : Char) (e : Nat × Nat) : Nat × Nat :=
  if ch = '(' then (if e.1 = 0 then (0, e.2 + 1) else (e.1 - 1, e.2))
  else if ch = ')' then (e.1 + 1, e.2)
  else e

/-- What is left of a text once its matched pairs are struck out: `c` closing parentheses
followed by `o` opening ones, as `(c, o)`. -/
def parenEffect (l : List Char) : Nat × Nat := l.foldr effectCons (0, 0)

theorem parenEffect_cons (c : Char) (l : List Char) :
    parenEffect (c :: l) = effectCons c (parenEffect l) := rfl

/-- Reading a text closes `c` of the open parentheses, or fails when fewer are open, and then
leaves `o` more open. -/
theorem parenDepth_eq_effect (d : Nat) (l : List Char) :
    parenDepth d l =
      if (parenEffect l).1 ≤ d then some (d - (parenEffect l).1 + (parenEffect l).2)
      else none := by
  induction l generalizing d with
  | nil => simp [parenDepth, parenEffect]
  | cons ch cs ih =>
    rw [parenEffect_cons]
    generalize parenEffect cs = e at ih
    obtain ⟨c, o⟩ := e
    simp only [parenDepth, effectCons]
    by_cases h1 : ch = '('
    · simp only [if_pos h1, ih]
      split_ifs <;> first | rfl | (congr 1; omega)
    by_cases h2 : ch = ')'
    · simp only [if_neg h1, if_pos h2]
      cases d <;> simp only [ih] <;> split_ifs <;> first | rfl | (congr 1; omega)
    · simp only [if_neg h1, if_neg h2, ih]

theorem foldr_effectCons (a : List Char) (e : Nat × Nat) :
    a.foldr effectCons e =
      ((parenEffect a).1 + (e.1 - (parenEffect a).2), e.2 + ((parenEffect a).2 - e.1)) := by
  induction a with
  | nil => simp [parenEffect]
  | cons ch a ih =>
    rw [List.foldr_cons, ih, parenEffect_cons]
    generalize parenEffect a = p
    obtain ⟨c, o⟩ := p
    simp only [effectCons]
    split_ifs <;> simp only [Prod.mk.injEq, and_true] <;> omega

/-- The opening parentheses `a` leaves cancel the closing ones of `b`. -/
theorem parenEffect_append (a b : List Char) :
    parenEffect (a ++ b) =
      ((parenEffect a).1 + ((parenEffect b).1 - (parenEffect a).2),
        (parenEffect b).2 + ((parenEffect a).2 - (parenEffect b).1)) := by
  rw [parenEffect, List.foldr_append]
  exact foldr_effectCons a _

theorem balanced_iff_parenEffect (s : String) : Balanced s ↔ parenEffect s.data = (0, 0) := by
  rw [Balanced, parenDepth_eq_effect]
  rcases parenEffect s.data with ⟨c, o⟩
  split_ifs <;> simp_all

theorem Balanced.parenEffect {s : String} (h : Balanced s) : parenEffect s.data = (0, 0) :=
  (balanced_iff_parenEffect s).1 h

theorem Balanced.append {a b : String} (ha : Balanced a) (hb : Balanced b) : Balanced (a ++ b) := by
  simp [balanced_iff_parenEffect, String.data_append, parenEffect_append, ha.parenEffect,
    hb.parenEffect]

theorem parenEffect_of_forall {l : List Char} (h : ∀ c ∈ l, c ≠ '(' ∧ c ≠ ')') :
    parenEffect l = (0, 0) := by
  induction l with
  | nil => rfl
  | cons c l ih =>
    simp only [List.mem_cons, forall_eq_or_imp] at h
    have := ih h.2
    simp only [parenEffect, List.foldr_cons] at this ⊢
    rw [this, effectCons, if_neg h.1.1, if_neg h.1.2]

theorem digitChar_ne_paren (k : Nat) : Nat.digitChar k ≠ '(' ∧ Nat.digitChar k ≠ ')' := by
  rcases Nat.lt_or_ge k 16 with h | h
  · interval_cases k <;> decide
  · simp (disch := omega) only [Nat.digitChar, if_neg]
    decide

theorem mem_toDigitsCore {b f n : Nat} {l : List Char} {c : Char}
    (h : c ∈ Nat.toDigitsCore b f n l) : c ∈ l ∨ ∃ k, c = Nat.digitChar k := by
  induction f generalizing n l with
  | zero => exact .inl h
  | succ f ih =>
    simp only [Nat.toDigitsCore] at h
    split_ifs at h
    · rcases List.mem_cons.1 h with rfl | h
      exacts [.inr ⟨_, rfl⟩, .inl h]
    · rcases ih h with h | h
      · rcases List.mem_cons.1 h with rfl | h
        exacts [.inr ⟨_, rfl⟩, .inl h]
      · exact .inr h

/-- The digits of a number hold no parenthesis. -/
theorem balanced_toString (n : Nat) : Balanced (toString n) := by
  refine (balanced_iff_parenEffect _).2 (parenEffect_of_forall fun c hc => ?_)
  rcases @mem_toDigitsCore 10 (n + 1) n [] c hc with h | ⟨k, rfl⟩
  · simp at h
  · exact digitChar_ne_paren k

theorem balanced_intToString (i : Int) : Balanced (toString i) := by
  cases i with
  | ofNat m => exact balanced_toString m
  | negSucc m => exact (show Balanced "-" by decide).append (balanced_toString (m + 1))

/-- Doubling the single quotes leaves the parentheses as they were. -/
theorem parenEffect_escapeSingleQuoteString (s : String) :
    parenEffect (escapeSingleQuoteString s).data = parenEffect s.data := by
  rcases s with ⟨l⟩
  simp only [escapeSingleQuoteString]
  induction l with
  | nil => rfl
  | cons c l ih =>
    rw [List.flatMap_cons, parenEffect_append, ih, show c :: l = [c] ++ l from rfl,
      parenEffect_append [c] l]
    split_ifs with h
    · subst h; rfl
    · rfl

theorem Balanced.escapeSingleQuoteString {s : String} (h : Balanced s) :
    Balanced (escapeSingleQuoteString s) := by
  rw [balanced_iff_parenEffect, parenEffect_escapeSingleQuoteString, h.parenEffect]

/-! ## Runs that close parentheses -/

/-- The run closes `k` parentheses opened before it and leaves none of its own open. -/
def Closes (k : Nat) (w : List String) : Prop :=
  ∀ d, parenDepth (d + k) (String.join w).data = some d

/-- The run leaves the depth where it found it. -/
def KeepsDepth (w : List String) : Prop := Closes 0 w

theorem KeepsDepth.balanced {w : List String} (h : KeepsDepth w) : Balanced (String.join w) := h 0

theorem keepsDepth_iff_balanced (w : List String) : KeepsDepth w ↔ Balanced (String.join w) := by
  refine ⟨KeepsDepth.balanced, fun h d => ?_⟩
  rw [parenDepth_eq_effect, h.parenEffect]
  simp

theorem closes_nil (k : Nat) : Closes k [] ↔ k = 0 := by
  simp only [Closes, join_nil]
  constructor
  · intro h; simpa [parenDepth] using h 0
  · rintro rfl d; rfl

theorem closes_cons (s : String) (w : List String) (k : Nat) :
    Closes k (s :: w) ↔
      (parenEffect s.data).1 ≤ k ∧
        Closes (k - (parenEffect s.data).1 + (parenEffect s.data).2) w := by
  rcases he : parenEffect s.data with ⟨c, o⟩
  simp only [Closes, join_cons, String.data_append, parenDepth_append,
    parenDepth_eq_effect _ s.data, he]
  constructor
  · intro h
    have hc : c ≤ k := by
      have := h 0
      by_contra hc
      rw [if_neg (by omega), Option.none_bind] at this
      cases this
    refine ⟨hc, fun d => ?_⟩
    have := h d
    rwa [if_pos (by omega), Option.some_bind, show d + k - c + o = d + (k - c + o) by omega] at this
  · rintro ⟨hc, h⟩ d
    rw [if_pos (by omega), Option.some_bind, show d + k - c + o = d + (k - c + o) by omega]
    exact h d

theorem closes_append_keeps {a : List String} (ha : KeepsDepth a) (k : Nat) (w : List String) :
    Closes k (a ++ w) ↔ Closes k w := by
  have : ∀ d, parenDepth d (String.join a).data = some d := ha
  simp only [Closes, join_append, String.data_append, parenDepth_append, this, Option.some_bind]

theorem keepsDepth_singleton (s : String) : KeepsDepth [s] ↔ Balanced s := by
  rw [KeepsDepth, closes_cons, closes_nil, balanced_iff_parenEffect]
  rcases parenEffect s.data with ⟨c, o⟩
  simp only [Prod.mk.injEq]
  omega

theorem keepsDepth_nil : KeepsDepth [] := (closes_nil 0).2 rfl

theorem keepsDepth_append_keeps {a : List String} (ha : KeepsDepth a) (w : List String) :
    KeepsDepth (a ++ w) ↔ KeepsDepth w :=
  closes_append_keeps ha 0 w

theorem write_keepsDepth {s : String} (h : Balanced s) : (write s).Sat KeepsDepth := by
  simpa [RW.Sat, keepsDepth_singleton] using h

theorem pure_keepsDepth : (pure () : RW Unit).Sat KeepsDepth := by
  simpa [RW.Sat] using keepsDepth_nil

theorem keepsDepth_bind {m : RW Unit} {k : Unit → RW Unit} (hm : m.Sat KeepsDepth)
    (hk : (k ()).Sat KeepsDepth) : (m >>= k).Sat KeepsDepth := by
  simp only [RW.Sat, RW.forall_runs_bind]
  exact fun a ha b hb => (closes_append_keeps (hm a ha) 0 b).2 (hk b hb)

theorem keepsDepth_when (c : Prop) [Decidable c] {t : RW Unit} (ht : t.Sat KeepsDepth) :
    (when c t).Sat KeepsDepth :=
  RW.sat_when c ht keepsDepth_nil

theorem keepsDepth_forM {α : Type} {o : Option α} {f : α → RW Unit}
    (h : ∀ a ∈ o, (f a).Sat KeepsDepth) : (o.forM f).Sat KeepsDepth :=
  RW.sat_forM h keepsDepth_nil

/-- `(← o.unwrap())`: a missing value fails, so only a present one is written. -/
theorem keepsDepth_unwrap_bind {α : Type} {o : Option α} {k : α → RW Unit}
    (h : ∀ a ∈ o, (k a).Sat KeepsDepth) : (unwrap o >>= k).Sat KeepsDepth :=
  RW.sat_unwrap_bind h

theorem allKeepsDepth_map {α : Type} {l : List α} {g : α → RW Unit}
    (h : ∀ a ∈ l, (g a).Sat KeepsDepth) : RW.AllSat KeepsDepth (l.map g) := by
  simpa [RW.AllSat] using h

/-- `DisplaySeparated` keeps the depth when its elements and its separator do. -/
theorem keepsDepth_separatedFragments {sep : String} (hsep : Balanced sep) {delim : String}
    (hd : Balanced delim) {texts : List (List String)} (h : ∀ t ∈ texts, KeepsDepth t) :
    KeepsDepth (separatedFragments sep delim texts) := by
  induction texts generalizing delim with
  | nil => exact keepsDepth_nil
  | cons t ts ih =>
    simp only [List.forall_mem_cons] at h
    simp only [separatedFragments, KeepsDepth, List.cons_append, closes_cons, hd.parenEffect,
      closes_append_keeps h.1]
    exact ⟨le_rfl, ih hsep h.2⟩

theorem keepsDepth_displaySeparated {rs : List (RW Unit)} {sep : String} (hsep : Balanced sep)
    (hrs : RW.AllSat KeepsDepth rs) : (displaySeparated rs sep).Sat KeepsDepth := by
  intro w h
  obtain ⟨texts, hts, rfl⟩ := runs_displaySeparated h
  refine keepsDepth_separatedFragments hsep (by decide) fun t ht => ?_
  obtain ⟨r, hr, hrt⟩ := hts t ht
  exact hrs r hr t hrt

/-! ## Leaf texts -/

/-- The parts of a name, written as they are. -/
def ObjectName.leaves (n : ObjectName) : List String := n.parts.map (·.value)

/-- The names inside a type. -/
def DataType.leaves : DataType → List String
  | .custom ty => ty.leaves
  | .array ty => ty.leaves
  | _ => []

section
variable {X : Foreign}

mutual
/-- The texts an expression's render writes as they are: identifier values, map keys,
typed-string values, and the names inside its types, functions and collations. -/
def Expr.leaves : Expr X → List String
  | .identifier s => [s.value]
  | .mapAccess column key => column.leaves ++ [key]
  | .wildcard => []
  | .qualifiedWildcard q => q.map (·.value)
  | .compoundIdentifier s => s.map (·.value)
  | .isNull ast => ast.leaves
  | .isNotNull ast => ast.leaves
  | .inList expr list _ => expr.leaves ++ Expr.leavesList list
  | .inSubquery expr _ _ => expr.leaves
  | .between expr _ low high => expr.leaves ++ low.leaves ++ high.leaves
  | .binaryOp left _ right => left.leaves ++ right.leaves
  | .unaryOp _ expr => expr.leaves
  | .cast expr dataType => expr.leaves ++ dataType.leaves
  | .tryCast _ _ => []
  | .extract _ expr => expr.leaves
  | .collate expr collation => expr.leaves ++ collation.leaves
  | .nested ast => ast.leaves
  | .value _ => []
  | .typedString dataType value => dataType.leaves ++ [value]
  | .function fn => fn.leaves
  | .case operand conditions results elseResult =>
    Expr.leavesOption operand ++ Expr.leavesList conditions ++ Expr.leavesList results ++
      Expr.leavesOption elseResult
  | .exists _ => []
  | .subquery _ => []
  | .listAgg listagg => listagg.leaves
  | .substring expr substringFrom substringFor =>
    expr.leaves ++ Expr.leavesOption substringFrom ++ Expr.leavesOption substringFor
  | .parameterMark _ => []

def Expr.leavesList : List (Expr X) → List String
  | [] => []
  | e :: es => e.leaves ++ Expr.leavesList es

def Expr.leavesOption : Option (Expr X) → List String
  | none => []
  | some e => e.leaves

def FunctionArg.leaves : FunctionArg X → List String
  | .named name arg => name.value :: arg.leaves
  | .unnamed arg => arg.leaves

def FunctionArg.leavesList : List (FunctionArg X) → List String
  | [] => []
  | a :: as => a.leaves ++ FunctionArg.leavesList as

def Function.leaves : Function X → List String
  | .mk name args over _ =>
    name.leaves ++ FunctionArg.leavesList args ++ WindowSpec.leavesOption over

def WindowSpec.leaves : WindowSpec X → List String
  | .mk partitionBy _ _ => Expr.leavesList partitionBy

def WindowSpec.leavesOption : Option (WindowSpec X) → List String
  | none => []
  | some w => w.leaves

def ListAgg.leaves : ListAgg X → List String
  | .mk _ expr separator onOverflow _ =>
    expr.leaves ++ Expr.leavesOption separator ++ ListAggOnOverflow.leavesOption onOverflow

def ListAggOnOverflow.leaves : ListAggOnOverflow X → List String
  | .error => []
  | .truncate filler _ => Expr.leavesOption filler

def ListAggOnOverflow.leavesOption : Option (ListAggOnOverflow X) → List String
  | none => []
  | some o => o.leaves
end

/-- The renders of the nodes outside these files write balanced text. -/
structure Renders.Balanced (R : Renders X) : Prop where
  query : ∀ q ctx, Martlet.Balanced (R.query q ctx)
  value : ∀ v ctx, Martlet.Balanced (R.value v ctx)
  dateTimeField : ∀ f ctx, Martlet.Balanced (R.dateTimeField f ctx)
  orderByExpr : ∀ o ctx, Martlet.Balanced (R.orderByExpr o ctx)

end

/-! ## Leaves keep the depth -/

theorem Ident.rewrite_keepsDepth {i : Ident} (h : Balanced i.value) (ctx : Context) :
    (i.rewrite ctx).Sat KeepsDepth := by
  rcases i with ⟨v, _ | q⟩
  · exact write_keepsDepth h
  · simp only [Ident.rewrite]
    split_ifs with h1 h2
    · have hq : Balanced q.toString := by rcases h1 with rfl | rfl | rfl <;> decide
      exact write_keepsDepth ((hq.append h).append hq)
    · exact write_keepsDepth (((by decide : Balanced "[").append h).append (by decide))
    · exact fun w hw => absurd hw (RW.not_runs_fail _ w)

theorem Ident.allKeepsDepth {l : List Ident} (h : ∀ i ∈ l, Balanced i.value) (ctx : Context) :
    RW.AllSat KeepsDepth (l.map (·.rewrite ctx)) := by
  simpa [RW.AllSat] using fun i hi => Ident.rewrite_keepsDepth (h i hi) ctx

theorem ObjectName.rewrite_keepsDepth {n : ObjectName} (h : ∀ s ∈ n.leaves, Balanced s)
    (ctx : Context) : (n.rewrite ctx).Sat KeepsDepth :=
  keepsDepth_displaySeparated (by decide)
    (Ident.allKeepsDepth (by simpa [ObjectName.leaves] using h) ctx)

theorem UnaryOperator.rewrite_keepsDepth (op : UnaryOperator) (ctx : Context) :
    (op.rewrite ctx).Sat KeepsDepth := by
  cases op <;> exact write_keepsDepth (by decide)

theorem BinaryOperator.rewrite_keepsDepth (op : BinaryOperator) (ctx : Context) :
    (op.rewrite ctx).Sat KeepsDepth := by
  cases op <;> exact write_keepsDepth (by decide)

theorem WindowFrameUnits.rewrite_keepsDepth (u : WindowFrameUnits) (ctx : Context) :
    (u.rewrite ctx).Sat KeepsDepth := by
  cases u <;> exact write_keepsDepth (by decide)

theorem WindowFrameBound.rewrite_keepsDepth (b : WindowFrameBound) (ctx : Context) :
    (b.rewrite ctx).Sat KeepsDepth := by
  rcases b with _ | (_ | n) | (_ | n) <;>
    exact write_keepsDepth (by first | decide | exact (balanced_toString n).append (by decide))

/-- `(n)` after a name: the digits hold no parenthesis. -/
theorem balanced_parenthesised (pre : String) (hpre : parenEffect pre.data = (0, 1)) (n : Nat) :
    Balanced (pre ++ toString n ++ ")") := by
  simp only [balanced_iff_parenEffect, String.data_append, parenEffect_append, hpre,
    (balanced_toString n).parenEffect]
  rfl

theorem formatTypeWithOptionalLength_keepsDepth {sqlType : String} (h : Balanced sqlType)
    (len : Option Nat) : (formatTypeWithOptionalLength sqlType len).Sat KeepsDepth := by
  refine keepsDepth_bind (write_keepsDepth h) ?_
  cases len with
  | none => exact pure_keepsDepth
  | some n => exact write_keepsDepth (balanced_parenthesised "(" rfl n)

theorem DataType.rewrite_keepsDepth {d : DataType} (h : ∀ s ∈ d.leaves, Balanced s)
    (ctx : Context) : (d.rewrite ctx).Sat KeepsDepth := by
  induction d with
  | decimal precision scale =>
    rcases scale with _ | s
    · exact formatTypeWithOptionalLength_keepsDepth (by decide) _
    · rcases precision with _ | p
      · exact fun w hw => absurd hw (RW.not_runs_fail _ w)
      · refine write_keepsDepth ?_
        simp only [balanced_iff_parenEffect, String.data_append, parenEffect_append,
          (balanced_toString p).parenEffect, (balanced_toString s).parenEffect]
        rfl
  | custom ty => exact ObjectName.rewrite_keepsDepth h ctx
  | char size | varchar size | float size =>
    exact formatTypeWithOptionalLength_keepsDepth (by decide) _
  | clob size | binary size | varbinary size | blob size =>
    exact write_keepsDepth (balanced_parenthesised _ (by rfl) size)
  | array ty ih => exact keepsDepth_bind (ih h) (write_keepsDepth (by decide))
  | _ => exact write_keepsDepth (by decide)

theorem allKeepsDepth_map_write {α : Type} {g : α → String} (h : ∀ a, Balanced (g a))
    (l : List α) : RW.AllSat KeepsDepth (l.map fun a => write (g a)) := by
  simpa [RW.AllSat] using fun a _ => write_keepsDepth (h a)

theorem keepsDepth_displayCommaSeparated {rs : List (RW Unit)} (hrs : RW.AllSat KeepsDepth rs) :
    (displayCommaSeparated rs).Sat KeepsDepth :=
  keepsDepth_displaySeparated (by decide) hrs

/-- The `WHEN … THEN …` loop of `CASE` keeps the depth when its conditions and results do. -/
theorem whenThens_zip_keepsDepth {l₁ l₂ : List (RW Unit)} (h₁ : RW.AllSat KeepsDepth l₁)
    (h₂ : RW.AllSat KeepsDepth l₂) : (whenThens (l₁.zip l₂)).Sat KeepsDepth := by
  induction l₁ generalizing l₂ with
  | nil => exact pure_keepsDepth
  | cons r l₁ ih =>
    cases l₂ with
    | nil => exact pure_keepsDepth
    | cons r' l₂ =>
      simp only [RW.allSat_cons] at h₁ h₂
      exact keepsDepth_bind (write_keepsDepth (by decide)) <| keepsDepth_bind h₁.1 <|
        keepsDepth_bind (write_keepsDepth (by decide)) <| keepsDepth_bind h₂.1 (ih h₁.2 h₂.2)

/-- A text that opens one parenthesis, then a run that closes it. -/
theorem open_keepsDepth {pre : String} (hpre : parenEffect pre.data = (0, 1))
    {f : Unit → RW Unit} (hf : (f ()).Sat (Closes 1)) : (write pre >>= f).Sat KeepsDepth := by
  simp only [RW.Sat, RW.forall_runs_bind, RW.runs_write, forall_eq', List.singleton_append,
    KeepsDepth, closes_cons, hpre]
  exact fun w hw => ⟨le_rfl, hf w hw⟩

theorem closes_bind {m : RW Unit} (hm : m.Sat KeepsDepth) {f : Unit → RW Unit} {n : Nat}
    (hf : (f ()).Sat (Closes n)) : (m >>= f).Sat (Closes n) := by
  simp only [RW.Sat, RW.forall_runs_bind]
  exact fun a ha b hb => (closes_append_keeps (hm a ha) n b).2 (hf b hb)

/-- A text that closes the one open parenthesis, then a run that keeps the depth. -/
theorem close_bind {post : String} (hpost : parenEffect post.data = (1, 0)) {f : Unit → RW Unit}
    (hf : (f ()).Sat KeepsDepth) : (write post >>= f).Sat (Closes 1) := by
  simp only [RW.Sat, RW.forall_runs_bind, RW.runs_write, forall_eq', List.singleton_append,
    closes_cons, hpost]
  exact fun w hw => ⟨le_rfl, hf w hw⟩

theorem close_write {post : String} (hpost : parenEffect post.data = (1, 0)) :
    (write post).Sat (Closes 1) := by
  simp [RW.Sat, closes_cons, closes_nil, hpost]

/-- A render between an opening text and the text that closes it. -/
theorem enclose_keepsDepth {pre post : String} (hpre : parenEffect pre.data = (0, 1))
    {m : RW Unit} (hm : m.Sat KeepsDepth) (hpost : parenEffect post.data = (1, 0)) :
    (do write pre; m; write post : RW Unit).Sat KeepsDepth :=
  open_keepsDepth hpre (closes_bind hm (close_write hpost))

/-! ## Expressions

Each arm follows its `do` block: `keepsDepth_bind` passes a piece that keeps the depth, and a
text that opens a parenthesis (`open_keepsDepth`) is followed by the pieces up to the `)` that
closes it (`closes_bind`, then `close_bind` or `close_write`). -/

section
variable {X : Foreign} {R : Renders X}

theorem WindowSpec.rewrite_keepsDepth_of (hR : R.Balanced) {partitionBy : List (Expr X)}
    {ctx : Context} (hp : RW.AllSat KeepsDepth (Expr.rewriteList R partitionBy ctx))
    (orderBy : List X.OrderByExpr) (windowFrame : Option WindowFrame) :
    (WindowSpec.rewrite R (.mk partitionBy orderBy windowFrame) ctx).Sat KeepsDepth := by
  have hP := keepsDepth_displayCommaSeparated hp
  have hO := keepsDepth_displayCommaSeparated
    (allKeepsDepth_map_write (hR.orderByExpr · ctx) orderBy)
  have hw : ∀ {s : String} {k : Unit → RW Unit}, Balanced s → (k ()).Sat KeepsDepth →
      (write s >>= k).Sat KeepsDepth := fun hs hk => keepsDepth_bind (write_keepsDepth hs) hk
  rcases partitionBy with _ | ⟨e, es⟩ <;> rcases orderBy with _ | ⟨o, os⟩ <;>
  simp only [WindowSpec.rewrite, List.isEmpty_nil, List.isEmpty_cons, Bool.not_true,
    Bool.not_false, Bool.false_eq_true, reduceIte, RW.pure_unit_bind]
  case' nil.cons => refine hw (by decide) (hw (by decide) (keepsDepth_bind hO ?_))
  case' cons.nil => refine hw (by decide) (keepsDepth_bind hP ?_)
  case' cons.cons =>
    refine hw (by decide) (keepsDepth_bind hP ?_)
    refine hw (by decide) (hw (by decide) (keepsDepth_bind hO ?_))
  -- the frame clause, after `delim`
  all_goals
    rcases windowFrame with _ | ⟨u, s, _ | b⟩
    · exact pure_keepsDepth
    · exact hw (by decide) <| keepsDepth_bind (u.rewrite_keepsDepth ctx) <|
        hw (by decide) (s.rewrite_keepsDepth ctx)
    · exact hw (by decide) <| keepsDepth_bind (u.rewrite_keepsDepth ctx) <|
        hw (by decide) <| keepsDepth_bind (s.rewrite_keepsDepth ctx) <|
        hw (by decide) (b.rewrite_keepsDepth ctx)

mutual
theorem Expr.rewrite_keepsDepth (hR : R.Balanced) : ∀ (e : Expr X) (ctx : Context),
    (∀ s ∈ e.leaves, Balanced s) → (Expr.rewrite R e ctx).Sat KeepsDepth
  | .identifier s, ctx, h => Ident.rewrite_keepsDepth (List.forall_mem_singleton.1 h) ctx
  | .mapAccess column key, ctx, h =>
    have h := List.forall_mem_append.1 h
    keepsDepth_bind (Expr.rewrite_keepsDepth hR column ctx h.1) <| write_keepsDepth <|
      ((show Balanced "[\"" by decide).append (List.forall_mem_singleton.1 h.2)).append (by decide)
  | .wildcard, _, _ => write_keepsDepth (by decide)
  | .qualifiedWildcard q, ctx, h =>
    keepsDepth_bind (keepsDepth_displaySeparated (by decide)
      (Ident.allKeepsDepth (List.forall_mem_map.1 h) ctx)) (write_keepsDepth (by decide))
  | .compoundIdentifier s, ctx, h =>
    keepsDepth_displaySeparated (by decide) (Ident.allKeepsDepth (List.forall_mem_map.1 h) ctx)
  | .isNull ast, ctx, h =>
    keepsDepth_bind (Expr.rewrite_keepsDepth hR ast ctx h) (write_keepsDepth (by decide))
  | .isNotNull ast, ctx, h =>
    keepsDepth_bind (Expr.rewrite_keepsDepth hR ast ctx h) (write_keepsDepth (by decide))
  | .inList expr list negated, ctx, h =>
    have h := List.forall_mem_append.1 h
    keepsDepth_bind (Expr.rewrite_keepsDepth hR expr ctx h.1) <|
      open_keepsDepth (by cases negated <;> rfl) <|
      closes_bind (keepsDepth_displayCommaSeparated (Expr.rewriteList_keepsDepth hR list ctx h.2))
        (close_write (by rfl))
  | .inSubquery expr subquery negated, ctx, h =>
    keepsDepth_bind (Expr.rewrite_keepsDepth hR expr ctx h) <|
      open_keepsDepth (by cases negated <;> rfl) <|
      closes_bind (write_keepsDepth (hR.query subquery ctx)) (close_write (by rfl))
  | .between expr negated low high, ctx, h =>
    have h := List.forall_mem_append.1 h
    have h' := List.forall_mem_append.1 h.1
    keepsDepth_bind (Expr.rewrite_keepsDepth hR expr ctx h'.1) <|
      keepsDepth_bind (write_keepsDepth (by cases negated <;> decide)) <|
      keepsDepth_bind (Expr.rewrite_keepsDepth hR low ctx h'.2) <|
      keepsDepth_bind (write_keepsDepth (by decide)) (Expr.rewrite_keepsDepth hR high ctx h.2)
  | .binaryOp left op right, ctx, h =>
    have h := List.forall_mem_append.1 h
    keepsDepth_bind (Expr.rewrite_keepsDepth hR left ctx h.1) <|
      keepsDepth_bind (write_keepsDepth (by decide)) <|
      keepsDepth_bind (BinaryOperator.rewrite_keepsDepth op ctx) <|
      keepsDepth_bind (write_keepsDepth (by decide)) (Expr.rewrite_keepsDepth hR right ctx h.2)
  | .unaryOp op expr, ctx, h => by
    simp only [Expr.rewrite]
    split
    · exact keepsDepth_bind (Expr.rewrite_keepsDepth hR expr ctx h)
        (UnaryOperator.rewrite_keepsDepth op ctx)
    · exact keepsDepth_bind (UnaryOperator.rewrite_keepsDepth op ctx) <|
        keepsDepth_bind (write_keepsDepth (by decide)) (Expr.rewrite_keepsDepth hR expr ctx h)
  | .cast expr dataType, ctx, h =>
    have h := List.forall_mem_append.1 h
    open_keepsDepth (by rfl) <| closes_bind (Expr.rewrite_keepsDepth hR expr ctx h.1) <|
      closes_bind (write_keepsDepth (by decide)) <|
      closes_bind (DataType.rewrite_keepsDepth h.2 ctx) (close_write (by rfl))
  | .extract field expr, ctx, h =>
    open_keepsDepth (by rfl) <| closes_bind (write_keepsDepth (hR.dateTimeField field ctx)) <|
      closes_bind (write_keepsDepth (by decide)) <|
      closes_bind (Expr.rewrite_keepsDepth hR expr ctx h) (close_write (by rfl))
  | .collate expr collation, ctx, h =>
    have h := List.forall_mem_append.1 h
    keepsDepth_bind (Expr.rewrite_keepsDepth hR expr ctx h.1) <|
      keepsDepth_bind (write_keepsDepth (by decide)) (ObjectName.rewrite_keepsDepth h.2 ctx)
  | .nested ast, ctx, h =>
    enclose_keepsDepth (by rfl) (Expr.rewrite_keepsDepth hR ast ctx h) (by rfl)
  | .value v, ctx, _ => write_keepsDepth (hR.value v ctx)
  | .typedString dataType value, ctx, h =>
    have h := List.forall_mem_append.1 h
    keepsDepth_bind (DataType.rewrite_keepsDepth h.1 ctx) <|
      keepsDepth_bind (write_keepsDepth (by decide)) <|
      keepsDepth_bind (write_keepsDepth (List.forall_mem_singleton.1 h.2).escapeSingleQuoteString)
        (write_keepsDepth (by decide))
  | .function fn, ctx, h => Function.rewrite_keepsDepth hR fn ctx h
  | .case operand conditions results elseResult, ctx, h =>
    have h := List.forall_mem_append.1 h
    have h' := List.forall_mem_append.1 h.1
    have h'' := List.forall_mem_append.1 h'.1
    keepsDepth_bind (write_keepsDepth (by decide)) <|
      keepsDepth_bind (Expr.rewriteOption_keepsDepth hR " " operand ctx (by decide) h''.1) <|
      keepsDepth_bind (whenThens_zip_keepsDepth
        (Expr.rewriteList_keepsDepth hR conditions ctx h''.2)
        (Expr.rewriteList_keepsDepth hR results ctx h'.2)) <|
      keepsDepth_bind (Expr.rewriteOption_keepsDepth hR " ELSE " elseResult ctx (by decide) h.2)
        (write_keepsDepth (by decide))
  | .exists s, ctx, _ => enclose_keepsDepth (by rfl) (write_keepsDepth (hR.query s ctx)) (by rfl)
  | .subquery s, ctx, _ =>
    enclose_keepsDepth (by rfl) (write_keepsDepth (hR.query s ctx)) (by rfl)
  | .listAgg listagg, ctx, h => ListAgg.rewrite_keepsDepth hR listagg ctx h
  | .substring expr substringFrom substringFor, ctx, h =>
    have h := List.forall_mem_append.1 h
    have h' := List.forall_mem_append.1 h.1
    open_keepsDepth (by rfl) <| closes_bind (Expr.rewrite_keepsDepth hR expr ctx h'.1) <|
      closes_bind (Expr.rewriteOption_keepsDepth hR " FROM " substringFrom ctx (by decide) h'.2) <|
      closes_bind (Expr.rewriteOption_keepsDepth hR " FOR " substringFor ctx (by decide) h.2)
        (close_write (by rfl))
  | .tryCast _ _, _, _ => pure_keepsDepth
  | .parameterMark _, _, _ => pure_keepsDepth

theorem Expr.rewriteList_keepsDepth (hR : R.Balanced) : ∀ (es : List (Expr X)) (ctx : Context),
    (∀ s ∈ Expr.leavesList es, Balanced s) → RW.AllSat KeepsDepth (Expr.rewriteList R es ctx)
  | [], _, _ => RW.allSat_nil _
  | e :: es, ctx, h => by
    rw [Expr.leavesList, List.forall_mem_append] at h
    exact (RW.allSat_cons _ _ _).2
      ⟨Expr.rewrite_keepsDepth hR e ctx h.1, Expr.rewriteList_keepsDepth hR es ctx h.2⟩

theorem Expr.rewriteOption_keepsDepth (hR : R.Balanced) :
    ∀ (keyword : String) (o : Option (Expr X)) (ctx : Context), Balanced keyword →
      (∀ s ∈ Expr.leavesOption o, Balanced s) →
        (Expr.rewriteOption R keyword o ctx).Sat KeepsDepth
  | _, none, _, _, _ => pure_keepsDepth
  | _, some e, ctx, hk, h =>
    keepsDepth_bind (write_keepsDepth hk) (Expr.rewrite_keepsDepth hR e ctx h)

theorem FunctionArg.rewrite_keepsDepth (hR : R.Balanced) : ∀ (a : FunctionArg X) (ctx : Context),
    (∀ s ∈ a.leaves, Balanced s) → (FunctionArg.rewrite R a ctx).Sat KeepsDepth
  | .named name arg, ctx, h => by
    rw [FunctionArg.leaves, List.forall_mem_cons] at h
    exact keepsDepth_bind (Ident.rewrite_keepsDepth h.1 ctx) <|
      keepsDepth_bind (write_keepsDepth (by decide)) (Expr.rewrite_keepsDepth hR arg ctx h.2)
  | .unnamed arg, ctx, h => Expr.rewrite_keepsDepth hR arg ctx h

theorem FunctionArg.rewriteList_keepsDepth (hR : R.Balanced) :
    ∀ (as : List (FunctionArg X)) (ctx : Context),
      (∀ s ∈ FunctionArg.leavesList as, Balanced s) →
      RW.AllSat KeepsDepth (FunctionArg.rewriteList R as ctx)
  | [], _, _ => RW.allSat_nil _
  | a :: as, ctx, h => by
    rw [FunctionArg.leavesList, List.forall_mem_append] at h
    exact (RW.allSat_cons _ _ _).2
      ⟨FunctionArg.rewrite_keepsDepth hR a ctx h.1,
        FunctionArg.rewriteList_keepsDepth hR as ctx h.2⟩

theorem Function.rewrite_keepsDepth (hR : R.Balanced) : ∀ (f : Function X) (ctx : Context),
    (∀ s ∈ f.leaves, Balanced s) → (Function.rewrite R f ctx).Sat KeepsDepth
  | .mk name args over distinct, ctx, h => by
    simp only [Function.leaves, List.forall_mem_append] at h
    exact keepsDepth_bind (ObjectName.rewrite_keepsDepth h.1.1 ctx) <|
      open_keepsDepth (by cases distinct <;> rfl) <|
      closes_bind (keepsDepth_displayCommaSeparated
        (FunctionArg.rewriteList_keepsDepth hR args ctx h.1.2)) <|
      close_bind (by rfl) (WindowSpec.rewriteOver_keepsDepth hR over ctx h.2)

theorem WindowSpec.rewriteOver_keepsDepth (hR : R.Balanced) :
    ∀ (o : Option (WindowSpec X)) (ctx : Context),
      (∀ s ∈ WindowSpec.leavesOption o, Balanced s) →
        (WindowSpec.rewriteOver R o ctx).Sat KeepsDepth
  | none, _, _ => pure_keepsDepth
  | some w, ctx, h =>
    enclose_keepsDepth (by rfl) (WindowSpec.rewrite_keepsDepth hR w ctx h) (by rfl)

theorem WindowSpec.rewrite_keepsDepth (hR : R.Balanced) : ∀ (w : WindowSpec X) (ctx : Context),
    (∀ s ∈ w.leaves, Balanced s) → (WindowSpec.rewrite R w ctx).Sat KeepsDepth
  | .mk partitionBy orderBy windowFrame, ctx, h =>
    WindowSpec.rewrite_keepsDepth_of hR (Expr.rewriteList_keepsDepth hR partitionBy ctx h) orderBy
      windowFrame

theorem ListAgg.rewrite_keepsDepth (hR : R.Balanced) : ∀ (l : ListAgg X) (ctx : Context),
    (∀ s ∈ l.leaves, Balanced s) → (ListAgg.rewrite R l ctx).Sat KeepsDepth
  | .mk distinct expr separator onOverflow withinGroup, ctx, h => by
    simp only [ListAgg.leaves, List.forall_mem_append] at h
    exact open_keepsDepth (by cases distinct <;> rfl) <|
      closes_bind (Expr.rewrite_keepsDepth hR expr ctx h.1.1) <|
      closes_bind (Expr.rewriteOption_keepsDepth hR ", " separator ctx (by decide) h.1.2) <|
      closes_bind (ListAggOnOverflow.rewriteOption_keepsDepth hR onOverflow ctx h.2) <|
      close_bind (by rfl) <| keepsDepth_when _ <|
        enclose_keepsDepth (by rfl) (keepsDepth_displayCommaSeparated <|
          allKeepsDepth_map_write (hR.orderByExpr · ctx) withinGroup) (by rfl)

theorem ListAggOnOverflow.rewrite_keepsDepth (hR : R.Balanced) :
    ∀ (o : ListAggOnOverflow X) (ctx : Context), (∀ s ∈ o.leaves, Balanced s) →
      (ListAggOnOverflow.rewrite R o ctx).Sat KeepsDepth
  | .error, _, _ => keepsDepth_bind (write_keepsDepth (by decide)) (write_keepsDepth (by decide))
  | .truncate filler withCount, ctx, h =>
    keepsDepth_bind (write_keepsDepth (by decide)) <|
      keepsDepth_bind (write_keepsDepth (by decide)) <|
      keepsDepth_bind (Expr.rewriteOption_keepsDepth hR " " filler ctx (by decide) h) <|
      keepsDepth_bind (by split <;> exact write_keepsDepth (by decide))
        (write_keepsDepth (by decide))

theorem ListAggOnOverflow.rewriteOption_keepsDepth (hR : R.Balanced) :
    ∀ (o : Option (ListAggOnOverflow X)) (ctx : Context),
      (∀ s ∈ ListAggOnOverflow.leavesOption o, Balanced s) →
        (ListAggOnOverflow.rewriteOption R o ctx).Sat KeepsDepth
  | none, _, _ => pure_keepsDepth
  | some o, ctx, h => ListAggOnOverflow.rewrite_keepsDepth hR o ctx h
end

end

/-! ## A grammar of balanced texts -/

/-- The grammar whose foreign nodes are given by balanced SQL text. -/
def Foreign.balancedText : Foreign :=
  ⟨{ s : String // Balanced s }, { s : String // Balanced s }, { s : String // Balanced s },
    { s : String // Balanced s }⟩

/-- Renders for `Foreign.balancedText`: a foreign node writes its own text. -/
def Renders.balancedText : Renders Foreign.balancedText where
  query q _ := q.1
  value v _ := v.1
  dateTimeField d _ := d.1
  orderByExpr o _ := o.1
  columnDef c _ := c.name.value
  tableConstraint _ _ := "UNIQUE (id)"
  alterTableOperation _ _ := "DROP COLUMN c"

theorem Renders.balancedText_balanced : Renders.balancedText.Balanced :=
  ⟨fun q _ => q.2, fun v _ => v.2, fun d _ => d.2, fun o _ => o.2⟩

section
variable {X : Foreign} {R : Renders X}

/-- **Balanced expressions.** When the texts an expression holds are balanced and the renders
of the nodes outside these files write balanced text, every run of `Expr::rewrite` writes
balanced text. -/
theorem renderPass_expr_balanced (hR : R.Balanced) (e : Expr X) (ctx : Context)
    (h : ∀ s ∈ e.leaves, Balanced s) (w : List String)
    (hw : (Expr.rewrite R e ctx).out = .ok w) :
    Balanced (String.join w) :=
  (Expr.rewrite_keepsDepth hR e ctx h w hw).balanced

end

/-- `a IN (SELECT (1))`: the subquery's own parentheses sit inside those of `IN`. -/
theorem renderPass_expr_balanced_inSubquery :
    (Expr.rewrite Renders.balancedText
        (.inSubquery (.identifier ⟨"a", none⟩) ⟨"SELECT (1)", by decide⟩ false) []).out =
        .ok ["a", " IN (", "SELECT (1)", ")"] ∧
      Balanced (String.join ["a", " IN (", "SELECT (1)", ")"]) :=
  ⟨by decide, renderPass_expr_balanced Renders.balancedText_balanced
    (.inSubquery (.identifier ⟨"a", none⟩) ⟨"SELECT (1)", by decide⟩ false) [] (by decide)
    ["a", " IN (", "SELECT (1)", ")"] (by decide)⟩

end Martlet
