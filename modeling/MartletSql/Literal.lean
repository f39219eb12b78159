import MartletSql.Rewrite.Statement

/-!
# MartletSql — single-quoted literals

SQL reads a string literal by one rule: outside a literal, `'` opens one; inside, `''` stands
for one quote and a lone `'` closes it. `scanLiterals` is that reading of a text: the values of
its literals in order, or `none` when the text ends inside one.

* **`foldl_scanChar_escape`** — inside a literal, `escapeSingleQuoteString s` reads back as
  exactly `s`: the escaping routine and the literal rule are inverse.
* **`scanLiterals_quoted`** — quote-free text, a literal written through the routine, and
  quote-free text read as that one literal.
* **`showLike_literal`**, **`typedString_literal`** — the two renders that route their literal
  through the routine read back as its value, whatever the value.
* **`createDatabase_location_unescaped`** — `CREATE DATABASE … LOCATION` writes its path
  between quotes as it is, so a path holding a quote leaves the text inside a literal.
-/

namespace Martlet

/-- Where a scan stands: outside any literal, inside one with the value read so far, or inside
one right after a quote, which a second quote doubles and anything else closes. -/
inductive ScanState where
  | outside
  | inside (value : List Char)
  | quote (value : List Char)
deriving DecidableEq, Repr

/-- One character of the scan, next to the values of the literals closed so far. -/
def scanChar : ScanState × List String → Char → ScanState × List String
  | (.outside, ls), c => (if c = '\'' then .inside [] else .outside, ls)
  | (.inside v, ls), c => (if c = '\'' then .quote v else .inside (v ++ [c]), ls)
  | (.quote v, ls), c =>
    if c = '\'' then (.inside (v ++ ['\'']), ls) else (.outside, ls ++ [⟨v⟩])

/-- The literals of a text in order, or `none` when the text ends inside one. -/
def scanLiterals (s : String) : Option (List String) :=
  match s.data.foldl scanChar (.outside, []) with
  | (.outside, ls) => some ls
  | (.inside _, _) => none
  | (.quote v, ls) => some (ls ++ [⟨v⟩])

/-! ## The escaping routine inverts the literal rule -/

/-- Quote-free text leaves a scan outside any literal. -/
theorem foldl_scanChar_outside {t : List Char} (h : '\'' ∉ t) (ls : List String) :
    t.foldl scanChar (.outside, ls) = (.outside, ls) := by
  induction t with
  | nil => rfl
  | cons c t ih =>
    simp only [List.mem_cons, not_or] at h
    simp [scanChar, Ne.symm h.1, ih h.2]

theorem escapeSingleQuoteString_data (s : String) :
    (escapeSingleQuoteString s).data = s.data.flatMap fun c => if c = '\'' then ['\'', '\''] else [c] :=
  rfl

/-- **The round trip.** Read inside a literal, the escaped text adds exactly the original
characters to the literal's value. -/
theorem foldl_scanChar_escape (s : List Char) (v : List Char) (ls : List String) :
    (s.flatMap fun c => if c = '\'' then ['\'', '\''] else [c]).foldl scanChar (.inside v, ls) =
      (.inside (v ++ s), ls) := by
  induction s generalizing v with
  | nil => simp
  | cons c s ih =>
    by_cases hc : c = '\''
    · subst hc
      simp [scanChar, ih]
    · simp [scanChar, hc, ih]

/-- A literal written through the escaping routine, between quote-free texts, is read back as
the one literal it holds. -/
theorem scanLiterals_quoted (a b : String) (ha : '\'' ∉ a.data) (hb : '\'' ∉ b.data)
    (v : String) :
    scanLiterals (a ++ "'" ++ escapeSingleQuoteString v ++ "'" ++ b) = some [v] := by
  unfold scanLiterals
  simp only [String.data_append, escapeSingleQuoteString_data, List.append_assoc,
    List.foldl_append, foldl_scanChar_outside ha]
  simp [scanChar, foldl_scanChar_escape]
  rcases hbd : b.data with _ | ⟨c, t⟩
  · simp [scanChar]
  · have hc : c ≠ '\'' := fun h => hb (by simp [hbd, h])
    have ht : '\'' ∉ t := fun h => hb (by simp [hbd, h])
    simp [scanChar, hc, foldl_scanChar_outside ht]

/-! ## The renders that escape -/

section
variable {X : Foreign} (R : Renders X)

/-- **`SHOW … LIKE`.** The pattern's literal reads back as the pattern, whatever it holds. -/
theorem showLike_literal (pattern : String) (ctx : Context) :
    (runOn "" (ShowStatementFilter.rewrite R (.like pattern) ctx)).map scanLiterals =
      .ok (some [pattern]) := by
  have h := scanLiterals_quoted "LIKE " "" (by decide) (by decide) pattern
  simp only [String.append_empty] at h
  simp [ShowStatementFilter.rewrite, Except.map, ← h, String.ext_iff]

/-- **Typed strings.** After a type whose text holds no quote, the value's literal reads back
as the value, whatever it holds. -/
theorem typedString_literal {dataType : DataType} {ctx : Context} {t : String}
    (hd : runOn "" (dataType.rewrite ctx) = .ok t) (ht : '\'' ∉ t.data) (value : String) :
    (runOn "" (Expr.rewrite R (.typedString dataType value) ctx)).map scanLiterals =
      .ok (some [value]) := by
  have h := scanLiterals_quoted (t ++ " ") "" (by simpa using ht) (by decide) value
  have e : t ++ " '" = t ++ " " ++ "'" := by rw [String.append_assoc]; rfl
  simp only [String.append_empty] at h
  simp [Expr.rewrite, hd, Except.map, e, h]

end

/-- `DATE 'it''s'` reads back as `it's`. -/
theorem typedString_literal_date :
    runOn "" (DataType.date.rewrite []) = .ok "DATE" ∧ '\'' ∉ "DATE".data ∧
      (runOn "" (Expr.rewrite Renders.text (.typedString .date "it's") [])).map scanLiterals =
        .ok (some ["it's"]) :=
  ⟨rfl, by decide,
    typedString_literal Renders.text (show runOn "" (DataType.date.rewrite []) = .ok "DATE" from rfl)
      (by decide) "it's"⟩

/-! ## A literal that does not escape -/

/-- **`CREATE DATABASE … LOCATION`.** The path is written between quotes as it is: with the
path `it's` the text ends inside a literal. -/
theorem createDatabase_location_unescaped :
    runOn "" (Statement.rewrite Renders.text
        (.createDatabase ⟨[⟨"a", none⟩]⟩ false (some "it's") none) []) =
      .ok "CREATE a LOCATION 'it's'" ∧
      scanLiterals "CREATE a LOCATION 'it's'" = none := by
  decide

end Martlet
