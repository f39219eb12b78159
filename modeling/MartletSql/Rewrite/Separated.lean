import MartletSql.Sink
import Mathlib.Data.List.Forall2
import Mathlib.Data.String.Basic

/-!
# MartletSql — separated lists

`DisplaySeparated` is the one list combinator of the Render Pass: `display_separated(slice,
sep)` and `display_comma_separated(slice)` build it, and every list the pass writes (columns,
arguments, `.`-joined names, space-joined words) goes through its `rewrite`.

The model takes the element renders `t.rewrite(f, ctx)` already applied, as a list of runs;
that is what lets the mutually recursive renders of `Rewrite.Expr` hand it their children.

`runOn_displaySeparated` is the list law: when the elements append `texts`, the combinator
appends exactly `String.intercalate sep texts` after whatever the buffer held. It is proved
from the fragment-level `out_displaySeparated`, which the later modules use.
-/

namespace Martlet

/-- `DisplaySeparated { slice, sep }.rewrite(f, ctx)`, given the element renders. -/
def displaySeparated (renders : List (RW Unit)) (sep : String) : RW Unit :=
  loop "" renders
where
  /-- The `for t in self.slice` loop: write `delim`, set it to `sep`, render `t`. -/
  loop (delim : String) : List (RW Unit) → RW Unit
    | [] => pure ()
    | r :: rs => do
      write delim
      r
      loop sep rs

@[simp] theorem displaySeparated_nil (sep : String) : displaySeparated [] sep = pure () := rfl

/-- `display_comma_separated(slice)`. -/
def displayCommaSeparated (renders : List (RW Unit)) : RW Unit :=
  displaySeparated renders ", "

/-- The fragments the loop appends when the elements append `texts`: the current `delim`, an
element's fragments, and `sep` in front of every later element. -/
def separatedFragments (sep : String) : String → List (List String) → List String
  | _, [] => []
  | delim, t :: ts => delim :: t ++ separatedFragments sep sep ts

/-! ## The list law -/

/-- The loop appends `delim`, then each element's fragments with `sep` between them. -/
theorem out_displaySeparated_loop {renders : List (RW Unit)} {texts : List (List String)}
    (h : List.Forall₂ (fun r w => r.out = .ok w) renders texts) (sep delim : String) :
    (displaySeparated.loop sep delim renders).out = .ok (separatedFragments sep delim texts) := by
  induction h generalizing delim with
  | nil => rfl
  | cons hr _ ih =>
    simp only [displaySeparated.loop, RW.out_bind, RW.out_write, hr, ih, separatedFragments]
    rfl

theorem out_displaySeparated {renders : List (RW Unit)} {texts : List (List String)}
    (h : List.Forall₂ (fun r w => r.out = .ok w) renders texts) (sep : String) :
    (displaySeparated renders sep).out = .ok (separatedFragments sep "" texts) :=
  out_displaySeparated_loop h sep ""

/-- Read backwards: every run of the loop is made of one run of each element. -/
theorem runs_displaySeparated_loop (sep delim : String) (rs : List (RW Unit)) (w : List String)
    (h : (displaySeparated.loop sep delim rs).Runs w) :
    ∃ texts, (∀ t ∈ texts, ∃ r ∈ rs, r.Runs t) ∧ w = separatedFragments sep delim texts := by
  induction rs generalizing delim w with
  | nil => exact ⟨[], by simp, ((RW.runs_pure w).1 h).symm⟩
  | cons r rs ih =>
    revert w
    simp only [displaySeparated.loop, RW.forall_runs_bind, RW.runs_write, forall_eq']
    intro a ha b hb
    obtain ⟨texts, hts, rfl⟩ := ih sep b hb
    refine ⟨a :: texts, ?_, rfl⟩
    intro t ht
    rcases List.mem_cons.1 ht with rfl | ht
    · exact ⟨r, List.mem_cons_self _ _, ha⟩
    · obtain ⟨r', hr', h'⟩ := hts t ht
      exact ⟨r', List.mem_cons_of_mem _ hr', h'⟩

theorem runs_displaySeparated {rs : List (RW Unit)} {sep : String} {w : List String}
    (h : (displaySeparated rs sep).Runs w) :
    ∃ texts, (∀ t ∈ texts, ∃ r ∈ rs, r.Runs t) ∧ w = separatedFragments sep "" texts :=
  runs_displaySeparated_loop sep "" rs w h

theorem intercalate_go (sep acc : String) (l : List String) :
    String.intercalate.go acc sep l = acc ++ String.join (l.map (sep ++ ·)) := by
  induction l generalizing acc with
  | nil => simp [String.intercalate.go, String.join]
  | cons a l ih =>
    simp only [String.intercalate.go, ih, String.ext_iff, String.data_append,
      String.data_join, List.map_cons, List.map_map, List.flatten_cons, List.append_assoc]

/-- Joined, the loop's fragments are the elements' texts with `delim` before the first and
`sep` before every later one. -/
theorem join_separatedFragments (sep delim : String) (texts : List (List String)) :
    String.join (separatedFragments sep delim texts) =
      match texts with
      | [] => ""
      | t :: ts => delim ++ String.join t ++ String.join (ts.map fun t => sep ++ String.join t) := by
  induction texts generalizing delim with
  | nil => rfl
  | cons t ts ih =>
    cases ts with
    | nil => simp [separatedFragments, String.ext_iff, String.data_join]
    | cons t' ts' =>
      have := ih sep
      simp only [separatedFragments, String.ext_iff, String.data_join, String.data_append,
        List.map_cons, List.map_append, List.flatten_cons, List.flatten_append, List.map_map]
        at this ⊢
      simp only [this, Function.comp_def, String.data_append, List.append_assoc]

theorem join_separatedFragments_intercalate (sep : String) (texts : List (List String)) :
    String.join (separatedFragments sep "" texts) = String.intercalate sep (texts.map String.join) := by
  rw [join_separatedFragments]
  rcases texts with _ | ⟨t, ts⟩
  · rfl
  · simp [String.intercalate, intercalate_go, List.map_map, Function.comp_def]

/-- **The list law.** When the element renders append `texts`, `DisplaySeparated` appends
exactly their `String.intercalate sep` to the buffer and leaves what it held in front. -/
theorem runOn_displaySeparated (renders : List (RW Unit)) (sep : String)
    (texts : List (List String)) (h : List.Forall₂ (fun r w => r.out = .ok w) renders texts)
    (f : String) :
    runOn f (displaySeparated renders sep) =
      .ok (f ++ String.intercalate sep (texts.map String.join)) := by
  simp only [runOn, out_displaySeparated h, Except.map, join_separatedFragments_intercalate]

/-- Two elements, the second of whose text holds the separator itself. -/
theorem runOn_displaySeparated_pair :
    runOn "f = " (displaySeparated [write "a", write "b, c"] ", ") = .ok "f = a, b, c" :=
  (runOn_displaySeparated [write "a", write "b, c"] ", " [["a"], ["b, c"]] (by simp) "f = ").trans
    rfl

/-- The list law for elements that are single writes, the common case of the renders of
nodes outside these files. -/
theorem runOn_displaySeparated_write {α : Type} (l : List α) (g : α → String) (sep f : String) :
    runOn f (displaySeparated (l.map fun a => write (g a)) sep) =
      .ok (f ++ String.intercalate sep (l.map g)) := by
  have h : List.Forall₂ (fun r w => RW.out r = .ok w) (l.map fun a => write (g a))
      (l.map fun a => [g a]) := by
    simp [List.forall₂_map_left_iff, List.forall₂_map_right_iff, List.forall₂_same]
  simp only [runOn, out_displaySeparated h, Except.map, join_separatedFragments_intercalate,
    List.map_map, Function.comp_def, join_singleton]

theorem intercalate_cons (sep s : String) (l : List String) :
    String.intercalate sep (s :: l) = s ++ String.join (l.map (sep ++ ·)) := by
  simp [String.intercalate, intercalate_go]

/-- Intercalating two non-empty lists puts one separator at the seam. -/
theorem intercalate_append (sep : String) {l₁ l₂ : List String} (h₁ : l₁ ≠ []) (h₂ : l₂ ≠ []) :
    String.intercalate sep (l₁ ++ l₂) =
      String.intercalate sep l₁ ++ sep ++ String.intercalate sep l₂ := by
  obtain ⟨s, l₁, rfl⟩ := List.exists_cons_of_ne_nil h₁
  obtain ⟨t, l₂, rfl⟩ := List.exists_cons_of_ne_nil h₂
  simp only [List.cons_append, intercalate_cons, List.map_append, List.map_cons, join_append,
    join_cons, String.append_assoc]

end Martlet
