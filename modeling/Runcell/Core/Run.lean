import Mathlib.Logic.Basic

/-!
# Runcell — outcomes and effectful runs

The runtime's Rust code is written with `anyhow::Result` and the `?` operator, and a few
places abort with `todo!()` or `unwrap()`. A call of such code ends in one of three ways,
`Outcome.ok`, `Outcome.err` (the `anyhow::Error`, kept as its message) and `Outcome.panic`.

`Run σ α` is the shallow embedding of that code: a function of the state `σ` the code acts
on (a trace of performed effects, a host filesystem, a handler table) that returns the
outcome together with the state it leaves. The state is returned on *every* exit, so what a
call did before it failed stays observable: what a failed CLI command leaves on the host is
exactly that state.

Everything else in the development is written in `do` notation over `Run`, so a reader can
put each model next to its Rust function line by line.
-/

namespace Runcell

/-- How a call of the runtime's Rust code ends. -/
inductive Outcome (α : Type) where
  | ok (a : α)
  | err (e : String)
  | panic (msg : String)
deriving Repr, DecidableEq

/-- A `Result` as the outcome of a call. -/
def Outcome.ofExcept {α : Type} : Except String α → Outcome α
  | .ok a => .ok a
  | .error e => .err e

@[simp] theorem Outcome.ofExcept_ok {α : Type} (a : α) : Outcome.ofExcept (.ok a) = .ok a := rfl

@[simp] theorem Outcome.ofExcept_error {α : Type} (e : String) :
    (Outcome.ofExcept (.error e) : Outcome α) = .err e := rfl

/-- A computation over the state `σ`, ending with an `Outcome`. -/
def Run (σ α : Type) : Type := σ → Outcome α × σ

namespace Run

variable {σ α β : Type}

/-- `Ok(a)` without touching the state. -/
protected def pure (a : α) : Run σ α := fun s => (.ok a, s)

/-- Sequencing with `?`: an error or a panic of the first computation ends the whole
computation, in the state the first one left. -/
protected def bind (x : Run σ α) (f : α → Run σ β) : Run σ β := fun s =>
  match x s with
  | (.ok a, s') => f a s'
  | (.err e, s') => (.err e, s')
  | (.panic m, s') => (.panic m, s')

instance : Monad (Run σ) where
  pure := Run.pure
  bind := Run.bind

/-- `return Err(anyhow!(e))`. -/
def fail (e : String) : Run σ α := fun s => (.err e, s)

/-- `panic!(m)`, `todo!(m)`, `unwrap()` on `None`. -/
def abort (m : String) : Run σ α := fun s => (.panic m, s)

/-- `r?` for a `Result` computed without effects. -/
def ofExcept : Except String α → Run σ α
  | .ok a => Run.pure a
  | .error e => fail e

/-- `o.ok_or_else(|| anyhow!(e))?`. -/
def okOr (o : Option α) (e : String) : Run σ α := ofExcept (o.elim (.error e) .ok)

/-- Read the state: `&self`. -/
def get : Run σ σ := fun s => (.ok s, s)

/-- Update the state: a write through `&mut self`. -/
def modify (f : σ → σ) : Run σ Unit := fun s => (.ok (), f s)

/-- `r.unwrap()`: an error becomes a panic with the message of `Result::unwrap`. -/
def unwrap (x : Run σ α) : Run σ α := fun s =>
  match x s with
  | (.err e, s') => (.panic ("called `Result::unwrap()` on an `Err` value: " ++ e), s')
  | r => r

/-- `match r { Ok(a) => .., Err(e) => .. }` on the `Result` of a call: its error becomes a
value; a panic still ends the computation. -/
def attempt (x : Run σ α) : Run σ (Except String α) := fun s =>
  match x s with
  | (.ok a, s') => (.ok (.ok a), s')
  | (.err e, s') => (.ok (.error e), s')
  | (.panic m, s') => (.panic m, s')

/-- `r.context(msg)?` / `r.with_context(|| msg)?`: the error shows as `msg`, the outermost
context being what `anyhow` displays. -/
def context (msg : String) (x : Run σ α) : Run σ α := fun s =>
  match x s with
  | (.err _, s') => (.err msg, s')
  | r => r

@[simp] theorem pure_apply (a : α) (s : σ) : (pure a : Run σ α) s = (.ok a, s) := rfl

@[simp] theorem fail_apply (e : String) (s : σ) : (fail e : Run σ α) s = (.err e, s) := rfl

@[simp] theorem abort_apply (m : String) (s : σ) : (abort m : Run σ α) s = (.panic m, s) := rfl

@[simp] theorem get_apply (s : σ) : (get : Run σ σ) s = (.ok s, s) := rfl

@[simp] theorem modify_apply (f : σ → σ) (s : σ) : modify f s = (.ok (), f s) := rfl

theorem bind_apply (x : Run σ α) (f : α → Run σ β) (s : σ) :
    (x >>= f) s = match x s with
      | (.ok a, s') => f a s'
      | (.err e, s') => (.err e, s')
      | (.panic m, s') => (.panic m, s') := rfl

theorem bind_of_ok {x : Run σ α} {f : α → Run σ β} {s s' : σ} {a : α}
    (h : x s = (.ok a, s')) : (x >>= f) s = f a s' := by
  rw [bind_apply, h]

theorem bind_of_err {x : Run σ α} {f : α → Run σ β} {s s' : σ} {e : String}
    (h : x s = (.err e, s')) : (x >>= f) s = (.err e, s') := by
  rw [bind_apply, h]

@[simp] theorem pure_bind (a : α) (f : α → Run σ β) : (pure a >>= f) = f a := rfl

@[simp] theorem fail_bind (e : String) (f : α → Run σ β) : (fail e >>= f) = fail e := rfl

@[simp] theorem abort_bind (m : String) (f : α → Run σ β) : (abort m >>= f) = abort m := rfl

@[simp] theorem bind_pure_unit (x : Run σ Unit) : (x >>= fun _ => pure ()) = x := by
  funext s
  simp only [bind_apply]
  rcases x s with ⟨_ | _ | _, _⟩ <;> rfl

theorem bind_assoc {γ : Type} (x : Run σ α) (f : α → Run σ β) (g : β → Run σ γ) :
    (x >>= f) >>= g = x >>= fun a => f a >>= g := by
  funext s
  simp only [bind_apply]
  rcases x s with ⟨_ | _ | _, _⟩ <;> rfl

theorem context_apply (msg : String) (x : Run σ α) (s : σ) :
    context msg x s = match (x s).1 with
      | .err _ => (.err msg, (x s).2)
      | _ => x s := by
  simp only [context]
  rcases x s with ⟨_ | _ | _, _⟩ <;> rfl

/-- A sequence that returned `Ok` ran its first step to `Ok`. -/
theorem bind_eq_ok {x : Run σ α} {f : α → Run σ β} {s s' : σ} {b : β}
    (h : (x >>= f) s = (.ok b, s')) : ∃ a s₁, x s = (.ok a, s₁) ∧ f a s₁ = (.ok b, s') := by
  rw [bind_apply] at h
  rcases hx : x s with ⟨_ | _ | _, s₁⟩ <;> rw [hx] at h
  · exact ⟨_, _, rfl, h⟩
  · cases h
  · cases h

theorem context_eq_ok {msg : String} {x : Run σ α} {s s' : σ} {a : α}
    (h : context msg x s = (.ok a, s')) : x s = (.ok a, s') := by
  rw [context_apply] at h
  split at h
  · cases h
  · exact h

/-- `for a in l₁.iter().chain(l₂) { f(a)?; }` runs the two loops one after the other. -/
theorem forM_append (l₁ l₂ : List α) (f : α → Run σ PUnit) :
    (l₁ ++ l₂).forM f = l₁.forM f >>= fun _ => l₂.forM f := by
  induction l₁ with
  | nil => rfl
  | cons a l₁ ih =>
    show (f a >>= fun _ => (l₁ ++ l₂).forM f) = (f a >>= fun _ => l₁.forM f) >>= fun _ => l₂.forM f
    rw [ih, bind_assoc]

theorem forM_map {γ : Type} (l : List γ) (g : γ → α) (f : α → Run σ PUnit) :
    (l.map g).forM f = l.forM (f ∘ g) := by
  induction l with
  | nil => rfl
  | cons a l ih =>
    show (f (g a) >>= fun _ => (l.map g).forM f) = f (g a) >>= fun _ => l.forM (f ∘ g)
    rw [ih]

@[simp] theorem ofExcept_ok (a : α) : (ofExcept (.ok a) : Run σ α) = pure a := rfl

@[simp] theorem ofExcept_error (e : String) : (ofExcept (.error e) : Run σ α) = fail e := rfl

@[simp] theorem okOr_some (a : α) (e : String) : (okOr (some a) e : Run σ α) = pure a := rfl

@[simp] theorem okOr_none (e : String) : (okOr none e : Run σ α) = fail e := rfl

end Run

end Runcell
