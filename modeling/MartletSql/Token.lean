import MartletSql.Literal.Expr

/-!
# MartletSql — the token render

`Token::rewrite` writes the tokens `ColumnOption::DialectSpecific` carries. Unlike the renders
of the syntax tree, it writes the value of a string token without the escaping routine.

* **`scanLiterals_quoteCount`** — the quote count of the literal rule: a text whose literals
  close holds two quotes for each literal and two for each quote of a value, and no other.
* **`Token.rewrite_literal_iff`** — `Token::rewrite` writes a string token's value between
  its quotes as it is, without `escape_single_quote_string`: the text reads back as the
  token's value exactly when the value holds no quote. The quote count gives the converse.
-/

namespace Martlet

open RW

/-! ## The quote count of the literal rule -/

/-- The quotes a scan state stands for: an open literal's opening quote, two for each quote of
its value so far, and a closing quote just read. -/
def ScanState.quotes : ScanState → Nat
  | .outside => 0
  | .inside v => 2 * v.count '\'' + 1
  | .quote v => 2 * v.count '\'' + 2

/-- The quotes that stand for closed literals: two delimiters each, and two for each quote of a
value. -/
def literalQuotes (ls : List String) : Nat := (ls.map fun l => 2 * l.data.count '\'' + 2).sum

theorem literalQuotes_append_singleton (ls : List String) (v : List Char) :
    literalQuotes (ls ++ [⟨v⟩]) = literalQuotes ls + (2 * v.count '\'' + 2) := by
  simp [literalQuotes]

/-- One character adds one to the count when it is a quote, and nothing otherwise. -/
theorem scanChar_quotes (p : ScanState × List String) (c : Char) :
    (scanChar p c).1.quotes + literalQuotes (scanChar p c).2 =
      p.1.quotes + literalQuotes p.2 + if c == '\'' then 1 else 0 := by
  rcases p with ⟨_ | v | v, ls⟩ <;> by_cases hc : c = '\'' <;>
    simp [scanChar, hc, ScanState.quotes, literalQuotes_append_singleton, List.count_cons] <;>
    omega

theorem foldl_scanChar_quotes (t : List Char) (p : ScanState × List String) :
    (t.foldl scanChar p).1.quotes + literalQuotes (t.foldl scanChar p).2 =
      p.1.quotes + literalQuotes p.2 + t.count '\'' := by
  induction t generalizing p with
  | nil => rfl
  | cons c t ih => rw [List.foldl_cons, ih, scanChar_quotes, List.count_cons]; omega

/-- **The quote count.** Every quote of a text whose literals close is a delimiter or half of a
doubled quote. -/
theorem scanLiterals_quoteCount {s : String} {l : List String} (h : scanLiterals s = some l) :
    s.data.count '\'' = literalQuotes l := by
  have hq := foldl_scanChar_quotes s.data (.outside, [])
  unfold scanLiterals at h
  rcases hA : s.data.foldl scanChar (.outside, []) with ⟨_ | v | v, ls⟩ <;> rw [hA] at h hq <;>
    cases h
  · simpa [ScanState.quotes, literalQuotes] using hq.symm
  · rw [literalQuotes_append_singleton]
    simpa [ScanState.quotes, literalQuotes, Nat.add_comm] using hq.symm

/-- A value written between quotes after a quote-free text reads back as itself exactly when it
holds no quote: each quote of the value would have to be doubled. -/
theorem scanLiterals_quote_iff (k : String) (hk : QuoteFree k) (v : String) :
    scanLiterals (k ++ "'" ++ v ++ "'") = some [v] ↔ QuoteFree v := by
  refine ⟨fun h => List.count_eq_zero.1 ?_, fun h => ?_⟩
  · have hc := scanLiterals_quoteCount h
    simp [literalQuotes, List.count_eq_zero.2 hk] at hc
    omega
  · rw [String.append_assoc, String.append_assoc, scanLiterals_quoteFree_append hk,
      ← String.append_assoc]
    exact scanLiterals_quote_quoteFree h

/-! ## String tokens -/

/-- The value a string token carries: `'…'`, `N'…'` or `X'…'`. -/
def Token.literal : Token → Option String
  | .singleQuotedString s => some s
  | .nationalStringLiteral s => some s
  | .hexStringLiteral s => some s
  | _ => none

/-- The texts a token writes as they are, outside any string: a word's value, a number, a
character and the texts of a comment. -/
def Token.rawTexts : Token → List String
  | .word w => [w.value]
  | .number n _ => [n]
  | .char c => [c.toString]
  | .whitespace (.singleLineComment opener comment) => [opener, comment]
  | .whitespace (.multiLineComment s) => [s]
  | _ => []

theorem Token.literal_eq_some {t : Token} {v : String} :
    t.literal = some v ↔
      t = .singleQuotedString v ∨ t = .nationalStringLiteral v ∨ t = .hexStringLiteral v := by
  cases t <;> simp [Token.literal]

/-- A token that is not a string writes no quote once its raw texts hold none. -/
theorem Token.rewrite_quoteFree (ctx : Context) {t : Token} (ht : t.literal = none)
    (h : ∀ s ∈ t.rawTexts, QuoteFree s) {w : List String} (hw : (t.rewrite ctx).out = .ok w) :
    ∀ s ∈ w, QuoteFree s := by
  cases t with
  | singleQuotedString | nationalStringLiteral | hexStringLiteral => cases ht
  | word wd =>
    have hv : QuoteFree wd.value := by simpa [Token.rawTexts] using h
    rcases wd with ⟨v, _ | q⟩
    · simp only [Token.rewrite, Word.rewrite, out_write, Except.ok.injEq] at hw
      simpa [← hw] using hv
    · simp only [Token.rewrite, Word.rewrite] at hw
      split_ifs at hw with hq
      · rcases hq with rfl | rfl | rfl <;> simp [matchingEndQuote] at hw <;> subst hw <;>
          exact List.forall_mem_singleton.2 (quoteFree_append.2 ⟨quoteFree_append.2
            ⟨by decide, hv⟩, by decide⟩)
      · cases hw
  | number n l =>
    have hn : QuoteFree n := by simpa [Token.rawTexts] using h
    simp only [Token.rewrite, out_write, Except.ok.injEq] at hw
    subst hw
    exact List.forall_mem_singleton.2 (quoteFree_append.2 ⟨hn, by cases l <;> decide⟩)
  | char c =>
    simp only [Token.rewrite, out_write, Except.ok.injEq] at hw
    simpa [← hw, Token.rawTexts] using h
  | whitespace ws =>
    cases ws <;> simp only [Token.rewrite, Whitespace.rewrite, out_write, Except.ok.injEq] at hw <;>
      subst hw
    case singleLineComment => simpa [Token.rawTexts, quoteFree_append] using h
    case multiLineComment =>
      exact List.forall_mem_singleton.2 (quoteFree_append.2 ⟨quoteFree_append.2
        ⟨by decide, by simpa [Token.rawTexts] using h⟩, by decide⟩)
    all_goals decide
  | parameterMark _ =>
    simp only [Token.rewrite, out_pure, Except.ok.injEq] at hw
    simp [← hw]
  | _ => simp only [Token.rewrite, out_write, Except.ok.injEq] at hw; subst hw; decide

/-- **String tokens are written unescaped.** A token reads back as its string's value, and as
no literal when it is not a string, exactly when that value holds no quote. -/
theorem Token.rewrite_literal_iff (t : Token) (ctx : Context)
    (h : ∀ s ∈ t.rawTexts, QuoteFree s) (w : List String) (hw : (t.rewrite ctx).out = .ok w) :
    scanLiterals (String.join w) = some t.literal.toList ↔ ∀ s ∈ t.literal, QuoteFree s := by
  rcases hl : t.literal with _ | v
  · exact iff_of_true (scanLiterals_of_quoteFree
      (quoteFree_join.2 (Token.rewrite_quoteFree ctx hl h hw))) (by simp)
  · simp only [Option.toList_some, Option.mem_def, Option.some.injEq, forall_eq']
    obtain rfl | rfl | rfl := Token.literal_eq_some.1 hl <;>
      simp only [Token.rewrite, out_write, Except.ok.injEq] at hw <;> subst hw <;>
      rw [join_singleton]
    · exact scanLiterals_quote_iff "" (by decide) v
    · exact scanLiterals_quote_iff "N" (by decide) v
    · exact scanLiterals_quote_iff "X" (by decide) v

/-- `'it's'`: the token's quote closes the literal early, and the text ends inside another. -/
theorem Token.rewrite_literal_apostrophe :
    (Token.rewrite (.singleQuotedString "it's") []).out = .ok ["'it's'"] ∧
      scanLiterals "'it's'" = none ∧
      (scanLiterals (String.join ["'it's'"]) = some ["it's"] ↔ QuoteFree "it's") :=
  ⟨rfl, by decide, by simpa [Token.literal] using
    Token.rewrite_literal_iff (.singleQuotedString "it's") [] (by simp [Token.rawTexts]) _ rfl⟩

end Martlet
