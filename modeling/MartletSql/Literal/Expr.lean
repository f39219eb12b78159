import MartletSql.Literal
import MartletSql.Balance

/-!
# MartletSql — literals of expression renders

`showLike_literal` and `typedString_literal` read one literal back; this module reads the whole
text of an expression render. A run *reads* `l` when the literal rule closes every literal it
opens and finds the values `l`. Runs compose as the texts do: the literals of two runs written
one after the other are those of the first and then those of the second, unless the first ends
right after a closing quote and the second starts with a quote, which the rule reads as a
doubled quote.

* **`scanLiterals_append_guarded`** — the composition law at a seam the second text guards.
* **`Ident.rewrite_reads`** — an identifier quoted with `'` is written as a literal of its value.
* **`renderPass_expr_literals`** — every run of `Expr::rewrite` reads exactly `Expr.literals`:
  its single-quoted identifiers, its typed-string values and the literals of the renders of
  the nodes outside these files, in order, whenever the texts it writes unescaped hold no
  quote.
-/

namespace Martlet

/-- `s` holds no single quote. -/
def QuoteFree (s : String) : Prop := '\'' ∉ s.data

instance (s : String) : Decidable (QuoteFree s) := inferInstanceAs (Decidable (_ ∉ _))

/-- `s` starts with a single quote. -/
def startsQuote (s : String) : Bool := s.data.head?.any (· == '\'')

/-- The values of the literals a text reads as: those of a text that closes every literal, and
none for one that does not. -/
def textLiterals (s : String) : List String := (scanLiterals s).getD []

/-! ## The literal rule on appended texts -/

theorem scanChar_acc (p : ScanState) (acc : List String) (c : Char) :
    scanChar (p, acc) c = ((scanChar (p, []) c).1, acc ++ (scanChar (p, []) c).2) := by
  cases p <;> simp only [scanChar] <;> split <;> simp

/-- The values read so far are only ever added to. -/
theorem foldl_scanChar_acc (t : List Char) (p : ScanState) (acc : List String) :
    t.foldl scanChar (p, acc) =
      ((t.foldl scanChar (p, [])).1, acc ++ (t.foldl scanChar (p, [])).2) := by
  induction t generalizing p acc with
  | nil => simp
  | cons c t ih =>
    rw [List.foldl_cons, List.foldl_cons, scanChar_acc]
    generalize scanChar (p, []) c = r
    obtain ⟨q, e⟩ := r
    show List.foldl scanChar (q, acc ++ e) t =
      ((List.foldl scanChar (q, e) t).1, acc ++ (List.foldl scanChar (q, e) t).2)
    rw [ih q (acc ++ e), ih q e]
    simp

theorem quoteFree_append {a b : String} : QuoteFree (a ++ b) ↔ QuoteFree a ∧ QuoteFree b := by
  simp [QuoteFree]

theorem escapeSingleQuoteString_of_quoteFree {s : String} (h : QuoteFree s) :
    escapeSingleQuoteString s = s := by
  rcases s with ⟨l⟩
  simp only [QuoteFree] at h
  show String.mk _ = String.mk l
  congr 1
  induction l with
  | nil => rfl
  | cons c l ih =>
    simp only [List.mem_cons, not_or] at h
    simp [Ne.symm h.1, ih h.2]

theorem scanLiterals_of_quoteFree {s : String} (h : QuoteFree s) : scanLiterals s = some [] := by
  simp [scanLiterals, foldl_scanChar_outside h]

/-- **Composition.** When the second text does not start with a quote, the literals of two
texts written one after the other are those of the first and then those of the second. -/
theorem scanLiterals_append_guarded {a b : String} {la lb : List String}
    (ha : scanLiterals a = some la) (hb : scanLiterals b = some lb) (hs : startsQuote b = false) :
    scanLiterals (a ++ b) = some (la ++ lb) := by
  unfold scanLiterals at *
  rw [String.data_append, List.foldl_append]
  rcases hA : a.data.foldl scanChar (.outside, []) with ⟨_ | u | v, ea⟩ <;> rw [hA] at ha
  · cases ha
    rw [foldl_scanChar_acc]
    rcases hB : b.data.foldl scanChar (.outside, []) with ⟨_ | u | v, eb⟩ <;> rw [hB] at hb <;>
      simp_all
  · cases ha
  · cases ha
    rcases hd : b.data with _ | ⟨c, t⟩
    · simp_all [scanLiterals]
    · have hc : c ≠ '\'' := by simpa [startsQuote, hd] using hs
      simp only [hd, List.foldl_cons, scanChar, if_neg hc] at hb ⊢
      rw [foldl_scanChar_acc]
      rcases hB : t.foldl scanChar (.outside, []) with ⟨_ | u | w, eb⟩ <;> rw [hB] at hb <;>
        simp_all

/-- A text that ends outside any literal can be followed by anything. -/
theorem scanLiterals_append_of_outside {a b : String} {la lb : List String}
    (ha : a.data.foldl scanChar (.outside, []) = (.outside, la)) (hb : scanLiterals b = some lb) :
    scanLiterals (a ++ b) = some (la ++ lb) := by
  unfold scanLiterals at *
  rw [String.data_append, List.foldl_append, ha, foldl_scanChar_acc]
  rcases hB : b.data.foldl scanChar (.outside, []) with ⟨_ | u | v, eb⟩ <;> rw [hB] at hb <;>
    simp_all

theorem scanLiterals_quoteFree_append {k : String} (hk : QuoteFree k) (s : String) :
    scanLiterals (k ++ s) = scanLiterals s := by
  unfold scanLiterals
  rw [String.data_append, List.foldl_append, foldl_scanChar_outside hk]

theorem foldl_scanChar_inside {t : List Char} (h : '\'' ∉ t) (v : List Char) (ls : List String) :
    t.foldl scanChar (.inside v, ls) = (.inside (v ++ t), ls) := by
  induction t generalizing v with
  | nil => simp
  | cons c t ih =>
    simp only [List.mem_cons, not_or] at h
    simp [scanChar, Ne.symm h.1, ih h.2]

/-! ## Runs that read their literals -/

/-- The run closes every literal it opens, and `l` are their values in order. -/
def Reads (l : List String) (w : List String) : Prop := scanLiterals (String.join w) = some l

/-- The run reads `l` and does not start with a quote: a literal closed just before it stays
closed. -/
def ReadsG (l : List String) (w : List String) : Prop :=
  Reads l w ∧ startsQuote (String.join w) = false

/-- The run reads `l` and ends outside any literal: whatever follows it is read afresh. -/
def ReadsOut (l : List String) (w : List String) : Prop :=
  (String.join w).data.foldl scanChar (.outside, []) = (.outside, l)

theorem ReadsOut.reads {l w : List String} (h : ReadsOut l w) : Reads l w := by
  simp only [Reads, scanLiterals,
    show (String.join w).data.foldl scanChar (.outside, []) = (.outside, l) from h]

theorem reads_nil : Reads [] [] := rfl

theorem readsG_nil : ReadsG [] [] := ⟨rfl, rfl⟩

theorem readsOut_nil : ReadsOut [] [] := rfl

theorem startsQuote_append (a b : String) :
    startsQuote (a ++ b) = if a = "" then startsQuote b else startsQuote a := by
  split
  · subst_vars; simp
  · obtain ⟨c, cs, hc⟩ := List.exists_cons_of_ne_nil (mt String.ext (by simpa))
    simp [startsQuote, hc]

theorem startsQuote_of_quoteFree {s : String} (h : QuoteFree s) : startsQuote s = false := by
  rcases s with ⟨_ | ⟨c, t⟩⟩
  · rfl
  · simp only [QuoteFree, List.mem_cons, not_or] at h
    simp [startsQuote, Ne.symm h.1]

theorem quoteFree_join {w : List String} :
    QuoteFree (String.join w) ↔ ∀ s ∈ w, QuoteFree s := by
  induction w with
  | nil => simp [QuoteFree]
  | cons s w ih => rw [join_cons, quoteFree_append, ih, List.forall_mem_cons]

section
variable {m : RW Unit} {k : Unit → RW Unit} {la lb : List String}

theorem readsOut_write {s : String} (h : QuoteFree s) : (write s).Sat (ReadsOut []) := by
  simp [RW.Sat, ReadsOut, foldl_scanChar_outside h]

theorem readsG_write {s : String} (h : QuoteFree s) : (write s).Sat (ReadsG []) := by
  simp only [RW.Sat, RW.runs_write, forall_eq']
  exact ⟨by simpa [Reads] using scanLiterals_of_quoteFree h,
    by simpa using startsQuote_of_quoteFree h⟩

/-- A text written whole, such as the render of a node outside these files. -/
theorem reads_write_text {s : String} (h : (scanLiterals s).isSome) :
    (write s).Sat (Reads (textLiterals s)) := by
  obtain ⟨l, hl⟩ := Option.isSome_iff_exists.1 h
  simp [RW.Sat, Reads, textLiterals, hl]

theorem pure_readsG : (pure () : RW Unit).Sat (ReadsG []) := by
  simpa [RW.Sat] using readsG_nil

theorem reads_bind_guarded (hm : m.Sat (Reads la)) (hk : (k ()).Sat (ReadsG lb)) :
    (m >>= k).Sat (Reads (la ++ lb)) := by
  simp only [RW.Sat, RW.forall_runs_bind]
  exact fun a ha b hb => by
    simpa [Reads, join_append] using scanLiterals_append_guarded (hm a ha) (hk b hb).1 (hk b hb).2

theorem reads_of_readsOut (hm : m.Sat (ReadsOut la)) : m.Sat (Reads la) :=
  fun w hw => (hm w hw).reads

theorem readsOut_bind (hm : m.Sat (ReadsOut la)) (hk : (k ()).Sat (Reads lb)) :
    (m >>= k).Sat (Reads (la ++ lb)) := by
  simp only [RW.Sat, RW.forall_runs_bind]
  exact fun a ha b hb => by
    simpa [Reads, join_append] using scanLiterals_append_of_outside (hm a ha) (hk b hb)

theorem readsG_bind (hm : m.Sat (ReadsG la)) (hk : (k ()).Sat (ReadsG lb)) :
    (m >>= k).Sat (ReadsG (la ++ lb)) := by
  simp only [RW.Sat, RW.forall_runs_bind]
  refine fun a ha b hb => ⟨?_, ?_⟩
  · simpa [Reads, join_append] using
      scanLiterals_append_guarded (hm a ha).1 (hk b hb).1 (hk b hb).2
  · rw [join_append, startsQuote_append]
    split <;> simp [(hm a ha).2, (hk b hb).2]

/-- A quote-free keyword before a run adds no literal. -/
theorem keyword_bind_reads {kw : String} (hk : QuoteFree kw) (h : (k ()).Sat (Reads lb)) :
    (write kw >>= k).Sat (Reads lb) :=
  readsOut_bind (readsOut_write hk) h

/-- A quote-free keyword guards the run after it. -/
theorem keyword_bind_readsG {kw : String} (hk : QuoteFree kw) (hne : kw ≠ "")
    (h : (k ()).Sat (Reads lb)) : (write kw >>= k).Sat (ReadsG lb) := by
  simp only [RW.Sat, RW.forall_runs_bind, RW.runs_write, forall_eq', List.singleton_append]
  refine fun b hb => ⟨?_, ?_⟩
  · simpa [Reads, join_cons] using
      scanLiterals_append_of_outside (foldl_scanChar_outside hk []) (h b hb)
  · rw [join_cons, startsQuote_append, if_neg hne, startsQuote_of_quoteFree hk]

/-- A quote-free keyword after a run adds no literal. -/
theorem reads_bind_write {kw : String} (hm : m.Sat (Reads la)) (hk : QuoteFree kw) :
    (m >>= fun _ => write kw).Sat (Reads la) := by
  simp only [RW.Sat, RW.forall_runs_bind, RW.runs_write, forall_eq']
  exact fun a ha => by
    simpa [Reads, join_append] using scanLiterals_append_guarded (hm a ha)
      (scanLiterals_of_quoteFree hk) (startsQuote_of_quoteFree hk)

theorem readsG_bind_write {kw : String} (hm : m.Sat (ReadsG la)) (hk : QuoteFree kw) :
    (m >>= fun _ => write kw).Sat (ReadsG la) := by
  simpa only [List.append_nil] using readsG_bind hm (readsG_write hk)

theorem reads_bind_guarded_nil (hm : m.Sat (Reads la)) (hk : (k ()).Sat (ReadsG [])) :
    (m >>= k).Sat (Reads la) := by
  simpa only [List.append_nil] using reads_bind_guarded hm hk

theorem readsG_bind_nil (hm : m.Sat (ReadsG la)) (hk : (k ()).Sat (ReadsG [])) :
    (m >>= k).Sat (ReadsG la) := by
  simpa only [List.append_nil] using readsG_bind hm hk

/-- `when c t`, where `t` reads nothing unless `c` holds. -/
theorem readsG_when {c : Prop} [Decidable c] {t : RW Unit} (ht : t.Sat (ReadsG la))
    (hl : ¬c → la = []) : (when c t).Sat (ReadsG la) :=
  (RW.forall_runs_when c t _).2 ⟨fun _ => ht, fun hc => hl hc ▸ readsG_nil⟩

theorem readsG_forM {α : Type} {o : Option α} {f : α → RW Unit} {g : α → List String}
    (h : ∀ a ∈ o, (f a).Sat (ReadsG (g a))) : (o.forM f).Sat (ReadsG (o.elim [] g)) := by
  cases o with
  | none => exact pure_readsG
  | some a => exact h a rfl

end

/-! ## Separated lists -/

theorem forall₂_map_reads {α : Type} {l : List α} {f : α → RW Unit} {g : α → List String}
    (h : ∀ a ∈ l, (f a).Sat (Reads (g a))) :
    List.Forall₂ (fun r l => r.Sat (Reads l)) (l.map f) (l.map g) := by
  induction l with
  | nil => exact .nil
  | cons a l ih =>
    exact .cons (h a (List.mem_cons_self _ _)) (ih fun b hb => h b (List.mem_cons_of_mem _ hb))

theorem readsG_loop {sep : String} (hsep : QuoteFree sep) (hne : sep ≠ "")
    {rs : List (RW Unit)} {ls : List (List String)}
    (h : List.Forall₂ (fun r l => r.Sat (Reads l)) rs ls) :
    (displaySeparated.loop sep sep rs).Sat (ReadsG ls.flatten) := by
  induction h with
  | nil => exact pure_readsG
  | cons hr _ ih => exact keyword_bind_readsG hsep hne (reads_bind_guarded hr ih)

/-- **Separated lists.** With a quote-free separator, `DisplaySeparated` reads the literals of
its elements in order. -/
theorem reads_displaySeparated {sep : String} (hsep : QuoteFree sep) (hne : sep ≠ "")
    {rs : List (RW Unit)} {ls : List (List String)}
    (h : List.Forall₂ (fun r l => r.Sat (Reads l)) rs ls) :
    (displaySeparated rs sep).Sat (Reads ls.flatten) := by
  cases h with
  | nil => exact fun w hw => (pure_readsG w hw).1
  | cons hr hrs =>
    exact keyword_bind_reads (by decide) (reads_bind_guarded hr (readsG_loop hsep hne hrs))

/-! ## Identifiers, names and types -/

/-- The literal an identifier quoted with `'` is written as. -/
def Ident.literals (i : Ident) : List String := if i.quoteStyle = some '\'' then [i.value] else []

/-- `'v'`: a quote-free value between quotes is read as itself. -/
theorem scanLiterals_quote_quoteFree {v : String} (h : QuoteFree v) :
    scanLiterals ("'" ++ v ++ "'") = some [v] := by
  simpa [escapeSingleQuoteString_of_quoteFree h] using
    scanLiterals_quoted "" "" (by decide) (by decide) v

/-- **Quoted identifiers.** An identifier whose value holds no quote is written as a literal of
its value when it is quoted with `'`, and outside any literal otherwise. -/
theorem Ident.rewrite_reads {i : Ident} (h : QuoteFree i.value) (ctx : Context) :
    (i.rewrite ctx).Sat (Reads i.literals) := by
  rcases i with ⟨v, _ | q⟩
  · exact reads_of_readsOut (readsOut_write h)
  by_cases hq : q = '\''
  · subst hq
    simpa [RW.Sat, Reads, Ident.literals, show Ident.rewrite ⟨v, some '\''⟩ ctx =
      write ("'" ++ v ++ "'") from rfl] using scanLiterals_quote_quoteFree h
  · have hqs : QuoteFree q.toString := by simpa [QuoteFree, Char.toString, eq_comm] using hq
    rw [show Ident.literals ⟨v, some q⟩ = [] by simp [Ident.literals, hq]]
    simp only [Ident.rewrite]
    split_ifs
    · exact reads_of_readsOut
        (readsOut_write (quoteFree_append.2 ⟨quoteFree_append.2 ⟨hqs, h⟩, hqs⟩))
    · exact reads_of_readsOut
        (readsOut_write (quoteFree_append.2 ⟨quoteFree_append.2 ⟨by decide, h⟩, by decide⟩))
    · exact fun w hw => absurd hw (RW.not_runs_fail _ w)

/-- The literals of a name's parts quoted with `'`. -/
def ObjectName.literals (n : ObjectName) : List String := n.parts.flatMap Ident.literals

theorem ObjectName.rewrite_reads {n : ObjectName} (h : ∀ s ∈ n.leaves, QuoteFree s)
    (ctx : Context) :
    (n.rewrite ctx).Sat (Reads n.literals) :=
  reads_displaySeparated (by decide) (by decide) <| forall₂_map_reads fun i hi =>
    Ident.rewrite_reads (h _ (List.mem_map_of_mem _ hi)) ctx

/-- The literals of the names inside a type. -/
def DataType.literals : DataType → List String
  | .custom ty => ty.literals
  | .array ty => ty.literals
  | _ => []

theorem digitChar_ne_quote (k : Nat) : Nat.digitChar k ≠ '\'' := by
  rcases Nat.lt_or_ge k 16 with h | h
  · interval_cases k <;> decide
  · simp (disch := omega) only [Nat.digitChar, if_neg]
    decide

theorem quoteFree_toString (n : Nat) : QuoteFree (toString n) := fun hc => by
  rcases @mem_toDigitsCore 10 (n + 1) n [] _ hc with h | ⟨k, hk⟩
  · simp at h
  · exact digitChar_ne_quote k hk.symm

theorem formatTypeWithOptionalLength_reads {sqlType : String} (hs : QuoteFree sqlType)
    (len : Option Nat) : (formatTypeWithOptionalLength sqlType len).Sat (Reads []) :=
  readsOut_bind (readsOut_write hs) <| RW.sat_forM (fun n _ => reads_of_readsOut <|
    readsOut_write <| quoteFree_append.2
      ⟨quoteFree_append.2 ⟨by decide, quoteFree_toString n⟩, by decide⟩) reads_nil

theorem DataType.rewrite_reads {d : DataType} (h : ∀ s ∈ d.leaves, QuoteFree s)
    (ctx : Context) :
    (d.rewrite ctx).Sat (Reads d.literals) := by
  induction d with
  | custom ty => exact ObjectName.rewrite_reads h ctx
  | array ty ih => exact reads_bind_write (ih h) (by decide)
  | char size | varchar size | float size => exact formatTypeWithOptionalLength_reads (by decide) _
  | decimal precision scale =>
    cases scale with
    | some scale =>
      exact RW.sat_unwrap_bind fun p _ => reads_of_readsOut <| readsOut_write <|
        quoteFree_append.2 ⟨quoteFree_append.2 ⟨quoteFree_append.2 ⟨quoteFree_append.2
          ⟨by decide, quoteFree_toString p⟩, by decide⟩, quoteFree_toString scale⟩,
            by decide⟩
    | none => exact formatTypeWithOptionalLength_reads (by decide) _
  | clob size | binary size | varbinary size | blob size =>
    exact reads_of_readsOut <| readsOut_write <|
      quoteFree_append.2
        ⟨quoteFree_append.2 ⟨by decide, quoteFree_toString size⟩, by decide⟩
  | _ => exact reads_of_readsOut (readsOut_write (by decide))

/-! ## Literal blocks and loops -/

theorem pure_reads : (pure () : RW Unit).Sat (Reads []) := fun w hw => (pure_readsG w hw).1

theorem reads_of_readsG {m : RW Unit} {l : List String} (hm : m.Sat (ReadsG l)) : m.Sat (Reads l) :=
  fun w hw => (hm w hw).1

theorem sat_pure_bind {P : List String → Prop} {k : Unit → RW Unit} (hk : (k ()).Sat P) :
    (pure () >>= k).Sat P := by
  rw [RW.pure_unit_bind]
  exact hk

/-- A quote-free keyword ending in a quote, a value through the escaping routine, and the
closing quote: one literal, read back as the value. -/
theorem readsG_quoted (a : String) (ha : QuoteFree a) (hne : a ≠ "") {pre : String}
    (hpre : a ++ "'" = pre) (v : String) :
    (do write pre; write (escapeSingleQuoteString v); write "'" : RW Unit).Sat (ReadsG [v]) := by
  simp only [RW.Sat, RW.forall_runs_bind, RW.runs_write, forall_eq', List.singleton_append]
  subst hpre
  refine ⟨?_, ?_⟩
  · simpa [Reads, join_cons, String.append_assoc] using scanLiterals_quoted a "" ha (by decide) v
  · rw [join_cons, String.append_assoc, startsQuote_append, if_neg hne,
      startsQuote_of_quoteFree ha]

/-- The `WHEN … THEN …` loop of `CASE` reads the literals of each condition and then those of
its result. -/
theorem readsG_whenThens {rs rs' : List (RW Unit)} {ls ls' : List (List String)}
    (h : List.Forall₂ (fun r l => r.Sat (Reads l)) rs ls)
    (h' : List.Forall₂ (fun r l => r.Sat (Reads l)) rs' ls') :
    (whenThens (rs.zip rs')).Sat (ReadsG ((ls.zip ls').flatMap fun p => p.1 ++ p.2)) := by
  induction h generalizing rs' ls' with
  | nil => exact pure_readsG
  | cons hr _ ih =>
    cases h' with
    | nil => exact pure_readsG
    | cons hr' hrs' =>
      simpa only [List.zip_cons_cons, List.flatMap_cons, List.append_assoc] using
        keyword_bind_readsG (by decide) (by decide) <| reads_bind_guarded hr <|
          keyword_bind_readsG (by decide) (by decide) <| reads_bind_guarded hr' (ih hrs')

/-! ## Expressions -/

section
variable {X : Foreign}

mutual
/-- The texts an expression's render writes unescaped: identifier values, map keys and the
names inside its types, functions and collations. A typed-string value goes through the
escaping routine and is not among them. -/
def Expr.rawTexts : Expr X → List String
  | .identifier s => [s.value]
  | .mapAccess column key => column.rawTexts ++ [key]
  | .wildcard => []
  | .qualifiedWildcard q => q.map (·.value)
  | .compoundIdentifier s => s.map (·.value)
  | .isNull ast => ast.rawTexts
  | .isNotNull ast => ast.rawTexts
  | .inList expr list _ => expr.rawTexts ++ Expr.rawTextsList list
  | .inSubquery expr _ _ => expr.rawTexts
  | .between expr _ low high => expr.rawTexts ++ low.rawTexts ++ high.rawTexts
  | .binaryOp left _ right => left.rawTexts ++ right.rawTexts
  | .unaryOp _ expr => expr.rawTexts
  | .cast expr dataType => expr.rawTexts ++ dataType.leaves
  | .tryCast _ _ => []
  | .extract _ expr => expr.rawTexts
  | .collate expr collation => expr.rawTexts ++ collation.leaves
  | .nested ast => ast.rawTexts
  | .value _ => []
  | .typedString dataType _ => dataType.leaves
  | .function fn => fn.rawTexts
  | .case operand conditions results elseResult =>
    Expr.rawTextsOption operand ++ Expr.rawTextsList conditions ++ Expr.rawTextsList results ++
      Expr.rawTextsOption elseResult
  | .exists _ => []
  | .subquery _ => []
  | .listAgg listagg => listagg.rawTexts
  | .substring expr substringFrom substringFor =>
    expr.rawTexts ++ Expr.rawTextsOption substringFrom ++ Expr.rawTextsOption substringFor
  | .parameterMark _ => []

def Expr.rawTextsList : List (Expr X) → List String
  | [] => []
  | e :: es => e.rawTexts ++ Expr.rawTextsList es

def Expr.rawTextsOption : Option (Expr X) → List String
  | none => []
  | some e => e.rawTexts

def FunctionArg.rawTexts : FunctionArg X → List String
  | .named name arg => name.value :: arg.rawTexts
  | .unnamed arg => arg.rawTexts

def FunctionArg.rawTextsList : List (FunctionArg X) → List String
  | [] => []
  | a :: as => a.rawTexts ++ FunctionArg.rawTextsList as

def Function.rawTexts : Function X → List String
  | .mk name args over _ =>
    name.leaves ++ FunctionArg.rawTextsList args ++ WindowSpec.rawTextsOption over

def WindowSpec.rawTexts : WindowSpec X → List String
  | .mk partitionBy _ _ => Expr.rawTextsList partitionBy

def WindowSpec.rawTextsOption : Option (WindowSpec X) → List String
  | none => []
  | some w => w.rawTexts

def ListAgg.rawTexts : ListAgg X → List String
  | .mk _ expr separator onOverflow _ =>
    expr.rawTexts ++ Expr.rawTextsOption separator ++ ListAggOnOverflow.rawTextsOption onOverflow

def ListAggOnOverflow.rawTexts : ListAggOnOverflow X → List String
  | .error => []
  | .truncate filler _ => Expr.rawTextsOption filler

def ListAggOnOverflow.rawTextsOption : Option (ListAggOnOverflow X) → List String
  | none => []
  | some o => o.rawTexts
end

/-- The renders of the nodes outside these files close every literal they open. -/
structure Renders.Quoted (R : Renders X) : Prop where
  query : ∀ q ctx, (scanLiterals (R.query q ctx)).isSome
  value : ∀ v ctx, (scanLiterals (R.value v ctx)).isSome
  dateTimeField : ∀ f ctx, (scanLiterals (R.dateTimeField f ctx)).isSome
  orderByExpr : ∀ o ctx, (scanLiterals (R.orderByExpr o ctx)).isSome

variable (R : Renders X)

mutual
/-- The values of the literals an expression's render writes, in order: identifiers quoted
with `'`, typed-string values, and the literals in the texts of the nodes outside these files.
-/
def Expr.literals (ctx : Context) : Expr X → List String
  | .identifier s => s.literals
  | .mapAccess column _ => column.literals ctx
  | .wildcard => []
  | .qualifiedWildcard q => q.flatMap Ident.literals
  | .compoundIdentifier s => s.flatMap Ident.literals
  | .isNull ast => ast.literals ctx
  | .isNotNull ast => ast.literals ctx
  | .inList expr list _ => expr.literals ctx ++ (Expr.literalsList ctx list).flatten
  | .inSubquery expr subquery _ => expr.literals ctx ++ textLiterals (R.query subquery ctx)
  | .between expr _ low high => expr.literals ctx ++ (low.literals ctx ++ high.literals ctx)
  | .binaryOp left _ right => left.literals ctx ++ right.literals ctx
  | .unaryOp _ expr => expr.literals ctx
  | .cast expr dataType => expr.literals ctx ++ dataType.literals
  | .tryCast _ _ => []
  | .extract field expr => textLiterals (R.dateTimeField field ctx) ++ expr.literals ctx
  | .collate expr collation => expr.literals ctx ++ collation.literals
  | .nested ast => ast.literals ctx
  | .value v => textLiterals (R.value v ctx)
  | .typedString dataType value => dataType.literals ++ [value]
  | .function fn => fn.literals ctx
  | .case operand conditions results elseResult =>
    Expr.literalsOption ctx operand ++
      (((Expr.literalsList ctx conditions).zip (Expr.literalsList ctx results)).flatMap
        (fun p => p.1 ++ p.2) ++ Expr.literalsOption ctx elseResult)
  | .exists s => textLiterals (R.query s ctx)
  | .subquery s => textLiterals (R.query s ctx)
  | .listAgg listagg => listagg.literals ctx
  | .substring expr substringFrom substringFor =>
    expr.literals ctx ++
      (Expr.literalsOption ctx substringFrom ++ Expr.literalsOption ctx substringFor)
  | .parameterMark _ => []

/-- The literals of each expression of a slice. -/
def Expr.literalsList (ctx : Context) : List (Expr X) → List (List String)
  | [] => []
  | e :: es => e.literals ctx :: Expr.literalsList ctx es

def Expr.literalsOption (ctx : Context) : Option (Expr X) → List String
  | none => []
  | some e => e.literals ctx

def FunctionArg.literals (ctx : Context) : FunctionArg X → List String
  | .named name arg => name.literals ++ arg.literals ctx
  | .unnamed arg => arg.literals ctx

def FunctionArg.literalsList (ctx : Context) : List (FunctionArg X) → List (List String)
  | [] => []
  | a :: as => a.literals ctx :: FunctionArg.literalsList ctx as

def Function.literals (ctx : Context) : Function X → List String
  | .mk name args over _ =>
    name.literals ++
      ((FunctionArg.literalsList ctx args).flatten ++ WindowSpec.literalsOption ctx over)

def WindowSpec.literals (ctx : Context) : WindowSpec X → List String
  | .mk partitionBy orderBy _ =>
    (Expr.literalsList ctx partitionBy).flatten ++
      orderBy.flatMap fun o => textLiterals (R.orderByExpr o ctx)

def WindowSpec.literalsOption (ctx : Context) : Option (WindowSpec X) → List String
  | none => []
  | some w => w.literals ctx

def ListAgg.literals (ctx : Context) : ListAgg X → List String
  | .mk _ expr separator onOverflow withinGroup =>
    expr.literals ctx ++ (Expr.literalsOption ctx separator ++
      (ListAggOnOverflow.literalsOption ctx onOverflow ++
        withinGroup.flatMap fun o => textLiterals (R.orderByExpr o ctx)))

def ListAggOnOverflow.literals (ctx : Context) : ListAggOnOverflow X → List String
  | .error => []
  | .truncate filler _ => Expr.literalsOption ctx filler

def ListAggOnOverflow.literalsOption (ctx : Context) : Option (ListAggOnOverflow X) → List String
  | none => []
  | some o => o.literals ctx
end

theorem Expr.literalsList_nil (ctx : Context) : Expr.literalsList R ctx [] = [] := rfl

end

/-! ## Every expression render reads its literals

Each arm follows its `do` block as `Balance` does: `reads_bind_guarded` appends the literals of
the next piece when that piece starts with a keyword (`keyword_bind_readsG`), and a keyword at
the end (`reads_bind_write`) or in front (`keyword_bind_reads`) adds none. -/

section
variable {X : Foreign} {R : Renders X}

theorem WindowFrameUnits.rewrite_readsG (u : WindowFrameUnits) (ctx : Context) :
    (u.rewrite ctx).Sat (ReadsG []) :=
  readsG_write (by cases u <;> decide)

theorem WindowFrameBound.rewrite_readsG (b : WindowFrameBound) (ctx : Context) :
    (b.rewrite ctx).Sat (ReadsG []) := by
  rcases b with _ | (_ | n) | (_ | n)
  all_goals first
    | exact readsG_write (by decide)
    | exact readsG_write (quoteFree_append.2 ⟨quoteFree_toString n, by decide⟩)

/-- `WindowSpec::rewrite`, one case for each pair of present clauses: the `ORDER BY` keyword
guards the sort keys from the `PARTITION BY` expressions, and the frame clause after them reads
nothing. -/
theorem WindowSpec.rewrite_reads_of (hR : R.Quoted) {partitionBy : List (Expr X)} {ctx : Context}
    (hp : List.Forall₂ (fun r l => r.Sat (Reads l)) (Expr.rewriteList R partitionBy ctx)
      (Expr.literalsList R ctx partitionBy))
    (orderBy : List X.OrderByExpr) (windowFrame : Option WindowFrame) :
    (WindowSpec.rewrite R (.mk partitionBy orderBy windowFrame) ctx).Sat
      (Reads (WindowSpec.literals R ctx (.mk partitionBy orderBy windowFrame))) := by
  have hP : (displayCommaSeparated (Expr.rewriteList R partitionBy ctx)).Sat
      (Reads (Expr.literalsList R ctx partitionBy).flatten) :=
    reads_displaySeparated (by decide) (by decide) hp
  have hO : (displayCommaSeparated (orderBy.map fun o => write (R.orderByExpr o ctx))).Sat
      (Reads (orderBy.flatMap fun o => textLiterals (R.orderByExpr o ctx))) :=
    reads_displaySeparated (by decide) (by decide)
      (forall₂_map_reads fun o _ => reads_write_text (hR.orderByExpr o ctx))
  rcases partitionBy with _ | ⟨e, es⟩ <;> rcases orderBy with _ | ⟨o, os⟩ <;>
  simp only [WindowSpec.rewrite, WindowSpec.literals, List.isEmpty_nil, List.isEmpty_cons,
    Bool.not_true, Bool.not_false, Bool.false_eq_true, reduceIte, RW.pure_unit_bind,
    Expr.literalsList_nil, List.flatten_nil, List.flatMap_nil, List.nil_append, List.append_nil]
  case' nil.nil => refine reads_of_readsG ?_
  case' nil.cons =>
    refine keyword_bind_reads (by decide) (keyword_bind_reads (by decide) ?_)
    refine reads_bind_guarded_nil hO ?_
  case' cons.nil => refine keyword_bind_reads (by decide) (reads_bind_guarded_nil hP ?_)
  case' cons.cons =>
    refine keyword_bind_reads (by decide) (reads_bind_guarded hP ?_)
    refine keyword_bind_readsG (by decide) (by decide) (keyword_bind_reads (by decide) ?_)
    refine reads_bind_guarded_nil hO ?_
  -- the frame clause, after `delim`
  all_goals
    rcases windowFrame with _ | ⟨u, s, _ | b⟩
    · exact pure_readsG
    · exact readsG_bind_nil (readsG_write (by decide)) <| readsG_bind_nil (u.rewrite_readsG ctx) <|
        readsG_bind_nil (readsG_write (by decide)) (s.rewrite_readsG ctx)
    · exact readsG_bind_nil (readsG_write (by decide)) <| readsG_bind_nil (u.rewrite_readsG ctx) <|
        readsG_bind_nil (readsG_write (by decide)) <| readsG_bind_nil (s.rewrite_readsG ctx) <|
        readsG_bind_nil (readsG_write (by decide)) (b.rewrite_readsG ctx)

mutual
theorem Expr.rewrite_reads (hR : R.Quoted) : ∀ (e : Expr X) (ctx : Context),
    (∀ s ∈ e.rawTexts, QuoteFree s) → (Expr.rewrite R e ctx).Sat (Reads (e.literals R ctx))
  | .identifier s, ctx, h => Ident.rewrite_reads (List.forall_mem_singleton.1 h) ctx
  | .mapAccess column key, ctx, h =>
    have h := List.forall_mem_append.1 h
    reads_bind_write (Expr.rewrite_reads hR column ctx h.1) <| quoteFree_append.2
      ⟨quoteFree_append.2 ⟨by decide, List.forall_mem_singleton.1 h.2⟩, by decide⟩
  | .wildcard, _, _ => reads_of_readsOut (readsOut_write (by decide))
  | .qualifiedWildcard q, ctx, h =>
    reads_bind_write (reads_displaySeparated (by decide) (by decide) <|
      forall₂_map_reads fun i hi => Ident.rewrite_reads (List.forall_mem_map.1 h i hi) ctx)
      (by decide)
  | .compoundIdentifier s, ctx, h =>
    reads_displaySeparated (by decide) (by decide) <| forall₂_map_reads fun i hi =>
      Ident.rewrite_reads (List.forall_mem_map.1 h i hi) ctx
  | .isNull ast, ctx, h => reads_bind_write (Expr.rewrite_reads hR ast ctx h) (by decide)
  | .isNotNull ast, ctx, h => reads_bind_write (Expr.rewrite_reads hR ast ctx h) (by decide)
  | .inList expr list negated, ctx, h =>
    have h := List.forall_mem_append.1 h
    reads_bind_guarded (Expr.rewrite_reads hR expr ctx h.1) <|
      keyword_bind_readsG (by cases negated <;> decide) (by cases negated <;> decide) <|
      reads_bind_write (reads_displaySeparated (by decide) (by decide)
        (Expr.rewriteList_reads hR list ctx h.2)) (by decide)
  | .inSubquery expr subquery negated, ctx, h =>
    reads_bind_guarded (Expr.rewrite_reads hR expr ctx h) <|
      keyword_bind_readsG (by cases negated <;> decide) (by cases negated <;> decide) <|
      reads_bind_write (reads_write_text (hR.query subquery ctx)) (by decide)
  | .between expr negated low high, ctx, h =>
    have h := List.forall_mem_append.1 h
    have h' := List.forall_mem_append.1 h.1
    reads_bind_guarded (Expr.rewrite_reads hR expr ctx h'.1) <|
      keyword_bind_readsG (by cases negated <;> decide) (by cases negated <;> decide) <|
      reads_bind_guarded (Expr.rewrite_reads hR low ctx h'.2) <|
      keyword_bind_readsG (by decide) (by decide) (Expr.rewrite_reads hR high ctx h.2)
  | .binaryOp left op right, ctx, h =>
    have h := List.forall_mem_append.1 h
    reads_bind_guarded (Expr.rewrite_reads hR left ctx h.1) <|
      keyword_bind_readsG (by decide) (by decide) <| keyword_bind_reads (by cases op <;> decide) <|
      keyword_bind_reads (by decide) (Expr.rewrite_reads hR right ctx h.2)
  | .unaryOp op expr, ctx, h => by
    simp only [Expr.rewrite]
    split
    · exact reads_bind_write (Expr.rewrite_reads hR expr ctx h) (by cases op <;> decide)
    · exact keyword_bind_reads (by cases op <;> decide) <|
        keyword_bind_reads (by decide) (Expr.rewrite_reads hR expr ctx h)
  | .cast expr dataType, ctx, h =>
    have h := List.forall_mem_append.1 h
    keyword_bind_reads (by decide) <| reads_bind_guarded (Expr.rewrite_reads hR expr ctx h.1) <|
      keyword_bind_readsG (by decide) (by decide) <|
      reads_bind_write (DataType.rewrite_reads h.2 ctx) (by decide)
  | .extract field expr, ctx, h =>
    keyword_bind_reads (by decide) <|
      reads_bind_guarded (reads_write_text (hR.dateTimeField field ctx)) <|
      keyword_bind_readsG (by decide) (by decide) <|
      reads_bind_write (Expr.rewrite_reads hR expr ctx h) (by decide)
  | .collate expr collation, ctx, h =>
    have h := List.forall_mem_append.1 h
    reads_bind_guarded (Expr.rewrite_reads hR expr ctx h.1) <|
      keyword_bind_readsG (by decide) (by decide) (ObjectName.rewrite_reads h.2 ctx)
  | .nested ast, ctx, h =>
    keyword_bind_reads (by decide) (reads_bind_write (Expr.rewrite_reads hR ast ctx h) (by decide))
  | .value v, ctx, _ => reads_write_text (hR.value v ctx)
  | .typedString dataType value, ctx, h =>
    reads_bind_guarded (DataType.rewrite_reads h ctx)
      (readsG_quoted " " (by decide) (by decide) (by decide) value)
  | .function fn, ctx, h => Function.rewrite_reads hR fn ctx h
  | .case operand conditions results elseResult, ctx, h =>
    have h := List.forall_mem_append.1 h
    have h' := List.forall_mem_append.1 h.1
    have h'' := List.forall_mem_append.1 h'.1
    keyword_bind_reads (by decide) <|
      reads_bind_guarded (reads_of_readsG
        (Expr.rewriteOption_reads hR " " operand ctx (by decide) (by decide) h''.1)) <|
      readsG_bind (readsG_whenThens (Expr.rewriteList_reads hR conditions ctx h''.2)
        (Expr.rewriteList_reads hR results ctx h'.2)) <|
      readsG_bind_write
        (Expr.rewriteOption_reads hR " ELSE " elseResult ctx (by decide) (by decide) h.2)
        (by decide)
  | .exists s, ctx, _ =>
    keyword_bind_reads (by decide)
      (reads_bind_write (reads_write_text (hR.query s ctx)) (by decide))
  | .subquery s, ctx, _ =>
    keyword_bind_reads (by decide)
      (reads_bind_write (reads_write_text (hR.query s ctx)) (by decide))
  | .listAgg listagg, ctx, h => ListAgg.rewrite_reads hR listagg ctx h
  | .substring expr substringFrom substringFor, ctx, h =>
    have h := List.forall_mem_append.1 h
    have h' := List.forall_mem_append.1 h.1
    keyword_bind_reads (by decide) <| reads_bind_guarded (Expr.rewrite_reads hR expr ctx h'.1) <|
      readsG_bind
        (Expr.rewriteOption_reads hR " FROM " substringFrom ctx (by decide) (by decide) h'.2) <|
      readsG_bind_write
        (Expr.rewriteOption_reads hR " FOR " substringFor ctx (by decide) (by decide) h.2)
        (by decide)
  | .tryCast _ _, _, _ => pure_reads
  | .parameterMark _, _, _ => pure_reads

theorem Expr.rewriteList_reads (hR : R.Quoted) : ∀ (es : List (Expr X)) (ctx : Context),
    (∀ s ∈ Expr.rawTextsList es, QuoteFree s) →
      List.Forall₂ (fun r l => r.Sat (Reads l)) (Expr.rewriteList R es ctx)
        (Expr.literalsList R ctx es)
  | [], _, _ => .nil
  | e :: es, ctx, h =>
    have h := List.forall_mem_append.1 h
    .cons (Expr.rewrite_reads hR e ctx h.1) (Expr.rewriteList_reads hR es ctx h.2)

theorem Expr.rewriteOption_reads (hR : R.Quoted) :
    ∀ (keyword : String) (o : Option (Expr X)) (ctx : Context), QuoteFree keyword →
      keyword ≠ "" → (∀ s ∈ Expr.rawTextsOption o, QuoteFree s) →
        (Expr.rewriteOption R keyword o ctx).Sat (ReadsG (Expr.literalsOption R ctx o))
  | _, none, _, _, _, _ => pure_readsG
  | _, some e, ctx, hk, hne, h => keyword_bind_readsG hk hne (Expr.rewrite_reads hR e ctx h)

theorem FunctionArg.rewrite_reads (hR : R.Quoted) : ∀ (a : FunctionArg X) (ctx : Context),
    (∀ s ∈ a.rawTexts, QuoteFree s) →
      (FunctionArg.rewrite R a ctx).Sat (Reads (a.literals R ctx))
  | .named name arg, ctx, h =>
    have h := List.forall_mem_cons.1 h
    reads_bind_guarded (Ident.rewrite_reads h.1 ctx) <|
      keyword_bind_readsG (by decide) (by decide) (Expr.rewrite_reads hR arg ctx h.2)
  | .unnamed arg, ctx, h => Expr.rewrite_reads hR arg ctx h

theorem FunctionArg.rewriteList_reads (hR : R.Quoted) :
    ∀ (as : List (FunctionArg X)) (ctx : Context),
      (∀ s ∈ FunctionArg.rawTextsList as, QuoteFree s) →
      List.Forall₂ (fun r l => r.Sat (Reads l)) (FunctionArg.rewriteList R as ctx)
        (FunctionArg.literalsList R ctx as)
  | [], _, _ => .nil
  | a :: as, ctx, h =>
    have h := List.forall_mem_append.1 h
    .cons (FunctionArg.rewrite_reads hR a ctx h.1) (FunctionArg.rewriteList_reads hR as ctx h.2)

theorem Function.rewrite_reads (hR : R.Quoted) : ∀ (f : Function X) (ctx : Context),
    (∀ s ∈ f.rawTexts, QuoteFree s) →
      (Function.rewrite R f ctx).Sat (Reads (f.literals R ctx))
  | .mk name args over distinct, ctx, h =>
    have h := List.forall_mem_append.1 h
    have h' := List.forall_mem_append.1 h.1
    reads_bind_guarded (ObjectName.rewrite_reads h'.1 ctx) <|
      keyword_bind_readsG (by cases distinct <;> decide) (by cases distinct <;> decide) <|
      reads_bind_guarded (reads_displaySeparated (by decide) (by decide)
        (FunctionArg.rewriteList_reads hR args ctx h'.2)) <|
      keyword_bind_readsG (by decide) (by decide) (WindowSpec.rewriteOver_reads hR over ctx h.2)

theorem WindowSpec.rewriteOver_reads (hR : R.Quoted) :
    ∀ (o : Option (WindowSpec X)) (ctx : Context),
      (∀ s ∈ WindowSpec.rawTextsOption o, QuoteFree s) →
      (WindowSpec.rewriteOver R o ctx).Sat (Reads (WindowSpec.literalsOption R ctx o))
  | none, _, _ => pure_reads
  | some w, ctx, h =>
    keyword_bind_reads (by decide)
      (reads_bind_write (WindowSpec.rewrite_reads hR w ctx h) (by decide))

theorem WindowSpec.rewrite_reads (hR : R.Quoted) : ∀ (w : WindowSpec X) (ctx : Context),
    (∀ s ∈ w.rawTexts, QuoteFree s) →
      (WindowSpec.rewrite R w ctx).Sat (Reads (w.literals R ctx))
  | .mk partitionBy orderBy windowFrame, ctx, h =>
    WindowSpec.rewrite_reads_of hR (Expr.rewriteList_reads hR partitionBy ctx h) orderBy windowFrame

theorem ListAgg.rewrite_reads (hR : R.Quoted) : ∀ (l : ListAgg X) (ctx : Context),
    (∀ s ∈ l.rawTexts, QuoteFree s) → (ListAgg.rewrite R l ctx).Sat (Reads (l.literals R ctx))
  | .mk distinct expr separator onOverflow withinGroup, ctx, h =>
    have h := List.forall_mem_append.1 h
    have h' := List.forall_mem_append.1 h.1
    keyword_bind_reads (by cases distinct <;> decide) <|
      reads_bind_guarded (Expr.rewrite_reads hR expr ctx h'.1) <|
      readsG_bind (Expr.rewriteOption_reads hR ", " separator ctx (by decide) (by decide) h'.2) <|
      readsG_bind (ListAggOnOverflow.rewriteOption_reads hR onOverflow ctx h.2) <|
      keyword_bind_readsG (by decide) (by decide) <| reads_of_readsG <|
      readsG_when (keyword_bind_readsG (by decide) (by decide) <|
        reads_bind_write (reads_displaySeparated (by decide) (by decide) <|
          forall₂_map_reads fun o _ => reads_write_text (hR.orderByExpr o ctx)) (by decide))
        (by simp +contextual)

theorem ListAggOnOverflow.rewrite_reads (hR : R.Quoted) :
    ∀ (o : ListAggOnOverflow X) (ctx : Context), (∀ s ∈ o.rawTexts, QuoteFree s) →
      (ListAggOnOverflow.rewrite R o ctx).Sat (ReadsG (o.literals R ctx))
  | .error, _, _ =>
    keyword_bind_readsG (by decide) (by decide) (reads_of_readsG (readsG_write (by decide)))
  | .truncate filler withCount, ctx, h =>
    keyword_bind_readsG (by decide) (by decide) <| keyword_bind_reads (by decide) <|
      reads_of_readsG <|
      readsG_bind_nil (Expr.rewriteOption_reads hR " " filler ctx (by decide) (by decide) h) <|
      readsG_bind_write (by cases withCount <;> exact readsG_write (by decide)) (by decide)

theorem ListAggOnOverflow.rewriteOption_reads (hR : R.Quoted) :
    ∀ (o : Option (ListAggOnOverflow X)) (ctx : Context),
      (∀ s ∈ ListAggOnOverflow.rawTextsOption o, QuoteFree s) →
        (ListAggOnOverflow.rewriteOption R o ctx).Sat
          (ReadsG (ListAggOnOverflow.literalsOption R ctx o))
  | none, _, _ => pure_readsG
  | some o, ctx, h => ListAggOnOverflow.rewrite_reads hR o ctx h
end

end

/-- The grammar whose foreign nodes are given by SQL text that closes every literal it opens;
a query's text does not start with a quote. -/
def Foreign.quotedText : Foreign :=
  ⟨{ s : String // (scanLiterals s).isSome ∧ startsQuote s = false },
    { s : String // (scanLiterals s).isSome }, { s : String // (scanLiterals s).isSome },
    { s : String // (scanLiterals s).isSome }⟩

/-- Renders for `Foreign.quotedText`: a foreign node writes its own text; column definitions,
constraints and `ALTER TABLE` operations write a fixed clause. -/
def Renders.quotedText : Renders Foreign.quotedText where
  query q _ := q.1
  value v _ := v.1
  dateTimeField d _ := d.1
  orderByExpr o _ := o.1
  columnDef _ _ := "id INT"
  tableConstraint _ _ := "UNIQUE (id)"
  alterTableOperation _ _ := "DROP COLUMN c"

theorem Renders.quotedText_quoted : Renders.quotedText.Quoted :=
  ⟨fun q _ => q.2.1, fun v _ => v.2, fun d _ => d.2, fun o _ => o.2⟩

section
variable {X : Foreign} {R : Renders X}

/-- **Literals of expressions.** When the texts an expression writes unescaped hold no quote
and the renders of the nodes outside these files close every literal they open, the text of
every successful run of `Expr::rewrite` closes every literal it opens, and the values it reads
are `Expr.literals`: the single-quoted identifiers, the typed-string values exactly as they
are, whatever quotes they hold, and the literals of the foreign texts, in order. -/
theorem renderPass_expr_literals (hR : R.Quoted) (e : Expr X) (ctx : Context)
    (h : ∀ s ∈ e.rawTexts, QuoteFree s) (w : List String)
    (hw : (Expr.rewrite R e ctx).out = .ok w) :
    scanLiterals (String.join w) = some (e.literals R ctx) :=
  Expr.rewrite_reads hR e ctx h w hw

end

/-- `DATE 'it''s' = 'x'`: the typed string's quote is doubled and read back, and the identifier
quoted with `'` is read as a literal of its value. -/
theorem renderPass_expr_literals_typedString :
    (Expr.rewrite Renders.quotedText
        (.binaryOp (.typedString .date "it's") .eq (.identifier ⟨"x", some '\''⟩)) []).out =
        .ok ["DATE", " '", "it''s", "'", " ", "=", " ", "'x'"] ∧
      scanLiterals (String.join ["DATE", " '", "it''s", "'", " ", "=", " ", "'x'"]) =
        some ["it's", "x"] :=
  ⟨by decide, renderPass_expr_literals Renders.quotedText_quoted
    (.binaryOp (.typedString .date "it's") .eq (.identifier ⟨"x", some '\''⟩)) [] (by decide)
    ["DATE", " '", "it''s", "'", " ", "=", " ", "'x'"] (by decide)⟩

end Martlet
