import MartletSql.Ast
import Mathlib.Data.String.Basic
import Mathlib.Control.Combinators

/-!
# MartletSql — the output sink

Every `SQLReWrite::rewrite(&self, f: &mut String, ctx)` touches `f` only by appending to it:
through `write!`, `f.write_str`, or a child's `rewrite` on the same `f`. A render run is
therefore the list of fragments it appends, one per `write!`/`write_str`, or the panic that
aborts it. `RW` is that writer monad; `RW.out` reads a run's fragments back, and `runOn`
gives the Rust buffer after the call.

Writing to a `String` never fails, so the only way a run ends without `Ok` is a panic
(`RenderError.panic`).
-/

namespace Martlet

/-- The render context `&HashMap<String, String>`. -/
abbrev Context := List (String × String)

/-- How a render ends other than by returning `Ok`. -/
inductive RenderError where
  | panic (msg : String)
deriving DecidableEq, Repr

instance instDecidableEqExcept {ε α : Type} [DecidableEq ε] [DecidableEq α] :
    DecidableEq (Except ε α)
  | .error a, .error b => decidable_of_iff (a = b) (by simp)
  | .ok a, .ok b => decidable_of_iff (a = b) (by simp)
  | .error _, .ok _ => isFalse (by simp)
  | .ok _, .error _ => isFalse (by simp)

/-- A render run: the value it returns and the fragments it appended, or its panic. -/
def RW (α : Type) : Type := Except RenderError (α × List String)

namespace RW

protected def pure (a : α) : RW α := .ok (a, [])

/-- Run `m`, then `k` on its result; the fragments of both, in order. A panic stops the run. -/
protected def bind (m : RW α) (k : α → RW β) : RW β :=
  match m with
  | .error e => .error e
  | .ok (a, w) =>
    match k a with
    | .error e => .error e
    | .ok (b, w') => .ok (b, w ++ w')

instance : Monad RW where
  pure := RW.pure
  bind := RW.bind

/-- The fragments a run appends, or the panic that ends it. -/
def out (m : RW Unit) : Except RenderError (List String) :=
  match m with
  | .error e => .error e
  | .ok (_, w) => .ok w

end RW

/-- `write!(f, ..)` or `f.write_str(..)`: append one fragment. -/
def write (s : String) : RW Unit := .ok ((), [s])

/-- `panic!(msg)`, or an `unwrap` on `None`. -/
def fail (msg : String) : RW α := .error (.panic msg)

/-- The message of `Option::unwrap` on `None`. -/
def unwrapNone : String := "called `Option::unwrap()` on a `None` value"

/-- `o.unwrap()`: the value, or the panic of `Option::unwrap` on `None`. -/
def unwrap (o : Option α) : RW α :=
  match o with
  | some a => pure a
  | none => fail unwrapNone

/-- The buffer `f` after a render run that started on `f`. -/
def runOn (f : String) (m : RW Unit) : Except RenderError String :=
  m.out.map (f ++ String.join ·)

/-! ## Reading a run back -/

namespace RW

@[simp] theorem out_pure : (pure () : RW Unit).out = .ok [] := rfl

@[simp] theorem out_write (s : String) : (write s).out = .ok [s] := rfl

@[simp] theorem out_fail (msg : String) : (fail msg : RW Unit).out = .error (.panic msg) := rfl

/-- Sequencing appends the second run's fragments after the first's. -/
@[simp] theorem out_bind (m : RW Unit) (k : Unit → RW Unit) :
    (m >>= k).out = m.out.bind fun a => (k ()).out.map (a ++ ·) := by
  show (RW.bind m k).out = _
  rcases m with e | ⟨⟨⟩, w⟩
  · rfl
  · simp only [RW.bind]
    rcases k () with e | ⟨⟨⟩, w'⟩ <;> rfl

@[simp] theorem out_when (c : Prop) [Decidable c] (t : RW Unit) :
    (when c t).out = if c then t.out else .ok [] := by
  unfold when; split <;> rfl

@[simp] theorem forM_some (a : α) (k : α → RW Unit) : (some a).forM k = k a := rfl

@[simp] theorem forM_none (k : α → RW Unit) : (none : Option α).forM k = pure () := rfl

theorem pure_unit_bind (k : Unit → RW Unit) : (pure () : RW Unit) >>= k = k () := by
  show RW.bind (.ok ((), [])) k = k ()
  simp only [RW.bind]
  rcases k () with e | ⟨⟨⟩, w⟩ <;> rfl

@[simp] theorem unwrap_some_bind (a : α) (k : α → RW Unit) : unwrap (some a) >>= k = k a := by
  show RW.bind (.ok (a, [])) k = k a
  simp only [RW.bind]
  rcases k a with e | ⟨⟨⟩, w⟩ <;> rfl

@[simp] theorem unwrap_none_bind (k : α → RW Unit) : unwrap none >>= k = fail unwrapNone := rfl

/-! ## What every run appends

`m.Runs w`: the run of `m` returns `Ok` having appended `w`. A property of a render's output
is stated of every such run (`RW.Sat`); read backwards, a sequence's run is a run of each
part. -/

/-- The run of `m` returns `Ok` having appended the fragments `w`. -/
def Runs (m : RW Unit) (w : List String) : Prop := m.out = .ok w

@[simp] theorem runs_write (s : String) (w : List String) : (write s).Runs w ↔ [s] = w := by
  simp [Runs]

@[simp] theorem runs_pure (w : List String) : (pure () : RW Unit).Runs w ↔ [] = w := by
  simp [Runs]

@[simp] theorem not_runs_fail (msg : String) (w : List String) : ¬(fail msg : RW Unit).Runs w := by
  simp [Runs]

theorem forall_runs_bind (m : RW Unit) (k : Unit → RW Unit) (P : List String → Prop) :
    (∀ w, (m >>= k).Runs w → P w) ↔ ∀ a, m.Runs a → ∀ b, (k ()).Runs b → P (a ++ b) := by
  simp only [Runs, out_bind]
  rcases m.out with e | a
  · simp [Except.bind]
  · rcases (k ()).out with e | b <;> simp [Except.bind, Except.map]

theorem forall_runs_when (c : Prop) [Decidable c] (t : RW Unit) (P : List String → Prop) :
    (∀ w, (when c t).Runs w → P w) ↔ (c → ∀ w, t.Runs w → P w) ∧ (¬c → P []) := by
  by_cases hc : c <;> simp [Runs, hc]

theorem forall_runs_ite (c : Prop) [Decidable c] (a b : RW Unit) (P : List String → Prop) :
    (∀ w, (if c then a else b).Runs w → P w) ↔
      (c → ∀ w, a.Runs w → P w) ∧ (¬c → ∀ w, b.Runs w → P w) := by
  by_cases hc : c <;> simp [hc]

/-- Every run of `m` that returns `Ok` appends fragments with the property `P`. -/
def Sat (P : List String → Prop) (m : RW Unit) : Prop := ∀ w, m.Runs w → P w

theorem sat_when {P : List String → Prop} (c : Prop) [Decidable c] {t : RW Unit} (ht : t.Sat P)
    (h0 : P []) : (when c t).Sat P :=
  (forall_runs_when c t P).2 ⟨fun _ => ht, fun _ => h0⟩

theorem sat_forM {P : List String → Prop} {o : Option α} {k : α → RW Unit}
    (h : ∀ a ∈ o, (k a).Sat P) (h0 : P []) : (o.forM k).Sat P := by
  cases o with
  | none => simpa [Sat] using h0
  | some a => exact h a rfl

/-- `(← o.unwrap())`: a missing value fails, so only a present one is written. -/
theorem sat_unwrap_bind {P : List String → Prop} {o : Option α} {k : α → RW Unit}
    (h : ∀ a ∈ o, (k a).Sat P) : (unwrap o >>= k).Sat P := by
  cases o with
  | none => exact fun w hw => absurd hw (not_runs_fail _ w)
  | some a => simpa using h a rfl

/-- Every run of the list satisfies `P`. -/
def AllSat (P : List String → Prop) (rs : List (RW Unit)) : Prop := ∀ r ∈ rs, r.Sat P

@[simp] theorem allSat_nil (P : List String → Prop) : AllSat P [] := by simp [AllSat]

@[simp] theorem allSat_cons (P : List String → Prop) (r : RW Unit) (rs : List (RW Unit)) :
    AllSat P (r :: rs) ↔ r.Sat P ∧ AllSat P rs := by
  simp [AllSat]

theorem allSat_map {P : List String → Prop} {l : List α} {g : α → RW Unit}
    (h : ∀ a ∈ l, (g a).Sat P) : AllSat P (l.map g) := by
  simpa [AllSat] using h

end RW

/-! ## The buffer after a run

`runOn` turns the fragment calculus into the buffer's: a run appends to whatever `f` held,
and a sequence of runs appends their texts in order. -/

@[simp] theorem except_ok_bind {ε α β : Type} (a : α) (k : α → Except ε β) :
    (Except.ok a).bind k = k a := rfl

theorem join_append (a b : List String) : String.join (a ++ b) = String.join a ++ String.join b := by
  simp only [String.ext_iff, String.data_join, String.data_append, List.map_append,
    List.flatten_append]

theorem join_cons (s : String) (l : List String) : String.join (s :: l) = s ++ String.join l := by
  simp only [String.ext_iff, String.data_join, String.data_append, List.map_cons,
    List.flatten_cons]

@[simp] theorem join_nil : String.join [] = "" := rfl

@[simp] theorem join_singleton (s : String) : String.join [s] = s := by
  simp [String.join]

@[simp] theorem runOn_pure (f : String) : runOn f (pure ()) = .ok f := by
  simp [runOn, Except.map, String.join]

@[simp] theorem runOn_write (f s : String) : runOn f (write s) = .ok (f ++ s) := by
  simp [runOn, Except.map, String.join]

@[simp] theorem runOn_fail (f msg : String) : runOn f (fail msg) = .error (.panic msg) := rfl

@[simp] theorem runOn_when (f : String) (c : Prop) [Decidable c] (t : RW Unit) :
    runOn f (when c t) = if c then runOn f t else .ok f := by
  unfold when; split <;> simp

/-- **Runs compose on the buffer.** The second run starts on the buffer the first left. -/
@[simp] theorem runOn_bind (f : String) (m : RW Unit) (k : Unit → RW Unit) :
    runOn f (m >>= k) = (runOn f m).bind fun f' => runOn f' (k ()) := by
  simp only [runOn, RW.out_bind]
  rcases m.out with e | w
  · rfl
  · rcases (k ()).out with e | w'
    · rfl
    · simp only [Except.bind, Except.map, join_append, String.append_assoc]

end Martlet
