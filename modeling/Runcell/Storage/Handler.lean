import Runcell.Core.HashMap

/-!
# Runcell — the storage handler manager

`StorageHandlerManager` of `storage/src/handler.rs` maps driver types to handlers. The
handler values are opaque here (`Arc<dyn StorageHandler>`, compared by identity), so the
manager is generic in their type `H`. `addHandler` is the `for` loop of `add_handler`,
written as structural recursion on the list of driver types: a type already present ends
the call with an error, leaving the types inserted by earlier rounds in place; `&mut self`
is the state of `Run`, so both exits return the table the loop left.

`afterCalls` runs a sequence of `add_handler` calls, each on the manager the previous one
left, whatever it returned. `STORAGE_HANDLERS` registers the four handlers of the crate and
unwraps each result.

Main results:

* `handler_addHandler` — one call never changes the handler of a registered type, on
  either exit of the loop.
* `handler_registration_permanent` — once `handler(t)` returns `h`, it returns `h` after
  every later call.
* `addHandler_contract` — a call succeeds exactly on new, pairwise distinct types; on an
  error the types before the colliding one stay inserted.
-/

namespace Runcell

/-- `StorageHandlerManager`: driver type to handler. -/
structure StorageHandlerManager (H : Type) where
  handlers : HashMap String H

namespace StorageHandlerManager

variable {H : Type}

/-- `StorageHandlerManager::new()`. -/
def new : StorageHandlerManager H := ⟨HashMap.empty⟩

/-- `add_handler(driver_types, handler)`. -/
def addHandler (driverTypes : List String) (handler : H) : Run (StorageHandlerManager H) Unit :=
  match driverTypes with
  | [] => pure ()
  | driverType :: rest => do
    let self ← Run.get
    if self.handlers.containsKey driverType then
      Run.fail ("Handler for " ++ driverType ++ " already registered")
    else
      Run.modify fun self => { self with handlers := self.handlers.insert driverType handler }
      addHandler rest handler

/-- `handler(driver_type)`. -/
def handler (self : StorageHandlerManager H) (driverType : String) : Option H :=
  self.handlers.get? driverType

/-- The manager after a sequence of `add_handler` calls, each result ignored. -/
def afterCalls (self : StorageHandlerManager H) (calls : List (List String × H)) :
    StorageHandlerManager H :=
  calls.foldl (fun self c => (addHandler c.1 c.2 self).2) self

-- ---------------------------------------------------------------------------
-- One round of the loop
-- ---------------------------------------------------------------------------

@[simp] theorem addHandler_nil (h : H) (self : StorageHandlerManager H) :
    addHandler [] h self = (.ok (), self) := rfl

theorem addHandler_cons (t : String) (ts : List String) (h : H) (self : StorageHandlerManager H) :
    addHandler (t :: ts) h self =
      if self.handlers.containsKey t then (.err ("Handler for " ++ t ++ " already registered"), self)
      else addHandler ts h ⟨self.handlers.insert t h⟩ := by
  simp only [addHandler, bind, Run.bind, Run.get_apply]
  split <;> rfl

@[simp] theorem handler_new (t : String) : (new : StorageHandlerManager H).handler t = none := rfl

theorem handler_insert (self : StorageHandlerManager H) (t t' : String) (h : H) :
    (⟨self.handlers.insert t h⟩ : StorageHandlerManager H).handler t' =
      if t = t' then some h else self.handler t' :=
  HashMap.get?_insert _ _ _ _

theorem containsKey_eq_isSome (self : StorageHandlerManager H) (t : String) :
    self.handlers.containsKey t = (self.handler t).isSome := rfl

-- ---------------------------------------------------------------------------
-- Registrations are permanent
-- ---------------------------------------------------------------------------

/-- A call never changes the handler of a type that is registered, whether the loop runs
to its end or stops at a type already present. -/
theorem handler_addHandler {self : StorageHandlerManager H} {t : String} {h : H}
    (hreg : self.handler t = some h) (ts : List String) (h' : H) :
    (addHandler ts h' self).2.handler t = some h := by
  induction ts generalizing self with
  | nil => exact hreg
  | cons t' ts ih =>
    rw [addHandler_cons]
    split
    · exact hreg
    · rename_i hfresh
      have hne : t' ≠ t := by
        rintro rfl
        simp [containsKey_eq_isSome, hreg] at hfresh
      exact ih (by rw [handler_insert, if_neg hne, hreg])

theorem afterCalls_append (self : StorageHandlerManager H) (cs₁ cs₂ : List (List String × H)) :
    afterCalls self (cs₁ ++ cs₂) = afterCalls (afterCalls self cs₁) cs₂ :=
  List.foldl_append _ _ _ _

/-- Over a whole sequence of calls from any manager. -/
theorem handler_afterCalls {self : StorageHandlerManager H} {t : String} {h : H}
    (hreg : self.handler t = some h) (cs : List (List String × H)) :
    (afterCalls self cs).handler t = some h := by
  induction cs generalizing self with
  | nil => exact hreg
  | cons c cs ih => exact ih (handler_addHandler hreg c.1 c.2)

/-- **Registrations are permanent.** Along any sequence of `add_handler` calls from
`StorageHandlerManager::new()`, whatever each call returns, once `handler(t)` gives `h` it
gives `h` after every later call. -/
theorem handler_registration_permanent (cs₁ cs₂ : List (List String × H)) (t : String) (h : H)
    (hreg : (afterCalls new cs₁).handler t = some h) :
    (afterCalls new (cs₁ ++ cs₂)).handler t = some h := by
  rw [afterCalls_append]
  exact handler_afterCalls hreg cs₂

/-- A registration of `local` survives a later call that fails on `local` after inserting
`block`. -/
theorem handler_registration_permanent_local :
    (afterCalls new [(["local"], 0)]).handler "local" = some 0 ∧
    (afterCalls new ([(["local"], 0)] ++ [(["block", "local"], 1)])).handler "local" = some 0 :=
  ⟨rfl, handler_registration_permanent [(["local"], 0)] [(["block", "local"], 1)] "local" 0 rfl⟩

-- ---------------------------------------------------------------------------
-- The exits of one call
-- ---------------------------------------------------------------------------

section Insert

variable {self : StorageHandlerManager H} {t : String} {h : H}

/-- Types free after registering a new `t` are free before it, and `t` is not one of them. -/
theorem free_of_free_insert {l : List String} (hnew : self.handler t = none)
    (hfr : ∀ t' ∈ l, (⟨self.handlers.insert t h⟩ : StorageHandlerManager H).handler t' = none) :
    t ∉ l ∧ ∀ t' ∈ t :: l, self.handler t' = none := by
  have hl : t ∉ l := fun hm => by simpa [handler_insert] using hfr t hm
  refine ⟨hl, fun t' ht' => ?_⟩
  rcases List.mem_cons.mp ht' with rfl | ht'
  · exact hnew
  · simpa [handler_insert, show t ≠ t' from fun he => hl (he ▸ ht')] using hfr t' ht'

/-- Registering `t`, then the types of `l`, registers the types of `t :: l`. -/
theorem handler_cons_of_insert {l : List String} {g : String → Option H}
    (hg : ∀ t', g t' = if t' ∈ l then some h
      else (⟨self.handlers.insert t h⟩ : StorageHandlerManager H).handler t') (t' : String) :
    g t' = if t' ∈ t :: l then some h else self.handler t' := by
  rw [hg, handler_insert]
  by_cases h₁ : t' ∈ l <;> by_cases h₂ : t = t' <;> simp [h₁, h₂, eq_comm]

end Insert

/-- Every call ends in one of two ways: all the types are new and pairwise distinct, and
each is added; or the loop stops at the first type that is registered, by the manager or by
an earlier round, with the types before it added. -/
theorem addHandler_result (ts : List String) (self : StorageHandlerManager H) (h : H) :
    (ts.Nodup ∧ (∀ t ∈ ts, self.handler t = none) ∧ (addHandler ts h self).1 = .ok () ∧
        ∀ t', (addHandler ts h self).2.handler t' = if t' ∈ ts then some h else self.handler t') ∨
    (∃ pre t post, ts = pre ++ t :: post ∧ pre.Nodup ∧ (∀ t' ∈ pre, self.handler t' = none) ∧
        (t ∈ pre ∨ (self.handler t).isSome) ∧
        (addHandler ts h self).1 = .err ("Handler for " ++ t ++ " already registered") ∧
        ∀ t', (addHandler ts h self).2.handler t' = if t' ∈ pre then some h else self.handler t') := by
  induction ts generalizing self with
  | nil => exact .inl ⟨List.nodup_nil, by simp, rfl, by simp⟩
  | cons t ts ih =>
    rw [addHandler_cons]
    by_cases hreg : self.handlers.containsKey t = true
    · refine .inr ⟨[], t, ts, rfl, List.nodup_nil, by simp, .inr ?_, by simp [hreg], by simp [hreg]⟩
      rwa [← containsKey_eq_isSome]
    · have hnew : self.handler t = none := by simpa [containsKey_eq_isSome] using hreg
      simp only [hreg, Bool.false_eq_true, if_false]
      rcases ih ⟨self.handlers.insert t h⟩ with
        ⟨hnd, hfr, hok, htab⟩ | ⟨pre, t₀, post, rfl, hnd, hfr, hcol, herr, htab⟩
      · -- every type was new
        obtain ⟨hts, hfr'⟩ := free_of_free_insert hnew hfr
        exact .inl ⟨List.nodup_cons.mpr ⟨hts, hnd⟩, hfr', hok, handler_cons_of_insert htab⟩
      · -- the loop stopped at `t₀`, which `t` may be
        obtain ⟨hpre, hfr'⟩ := free_of_free_insert hnew hfr
        refine .inr ⟨t :: pre, t₀, post, rfl, List.nodup_cons.mpr ⟨hpre, hnd⟩, hfr', ?_, herr,
          handler_cons_of_insert htab⟩
        rcases hcol with hcol | hcol
        · exact .inl (List.mem_cons_of_mem _ hcol)
        · rw [handler_insert] at hcol
          by_cases he : t = t₀
          · exact .inl (he ▸ List.mem_cons_self _ _)
          · exact .inr (by simpa [he] using hcol)

/-- **`add_handler` is not all-or-nothing.** For every manager, list of driver types and
handler: the call returns `Ok` exactly when the types are pairwise distinct and none is
registered, and then each of them, and nothing else, is mapped to the handler. Otherwise it
returns `Err` naming the first type of the list that is registered, by the manager or by an
earlier round of the loop, and the types before it stay inserted. It never panics. -/
theorem addHandler_contract (self : StorageHandlerManager H) (ts : List String) (h : H) :
    let r := addHandler ts h self
    (r.1 = .ok () ↔ ts.Nodup ∧ ∀ t ∈ ts, self.handler t = none) ∧
    (r.1 = .ok () → ∀ t, r.2.handler t = if t ∈ ts then some h else self.handler t) ∧
    (∀ e, r.1 = .err e → ∃ pre t post, ts = pre ++ t :: post ∧ pre.Nodup ∧
      (∀ t' ∈ pre, self.handler t' = none) ∧ (t ∈ pre ∨ (self.handler t).isSome) ∧
      e = "Handler for " ++ t ++ " already registered" ∧
      ∀ t', r.2.handler t' = if t' ∈ pre then some h else self.handler t') ∧
    (∀ msg, r.1 ≠ .panic msg) := by
  rcases addHandler_result ts self h with ⟨hnd, hfr, hok, htab⟩ | ⟨pre, t, post, hts, hnd, hfr, hcol, herr, htab⟩
  · exact ⟨iff_of_true hok ⟨hnd, hfr⟩, fun _ => htab, fun e he => by simp [hok] at he,
      fun msg => by simp [hok]⟩
  · refine ⟨iff_of_false (by simp [herr]) fun ⟨hnd', hfr'⟩ => ?_, fun hok => by simp [herr] at hok,
      fun e he => ⟨pre, t, post, hts, hnd, hfr, hcol, by simpa [herr] using he.symm, htab⟩,
      fun msg => by simp [herr]⟩
    rw [hts, List.nodup_append] at hnd'
    rcases hcol with hcol | hcol
    · exact hnd'.2.2 hcol (List.mem_cons_self _ _)
    · simp [hfr' t (hts ▸ List.mem_append_right _ (List.mem_cons_self _ _))] at hcol

/-- `block` is inserted, then `local`, registered before the call, ends it with an error:
the manager has changed although the call failed. -/
theorem addHandler_partial_on_error :
    let self := (addHandler ["local"] 0 (new : StorageHandlerManager Nat)).2
    let r := addHandler ["block", "local"] 1 self
    self.handler "block" = none ∧
    r.1 = .err "Handler for local already registered" ∧ r.2.handler "block" = some 1 :=
  ⟨rfl, rfl, rfl⟩

end StorageHandlerManager

-- ---------------------------------------------------------------------------
-- `STORAGE_HANDLERS`
-- ---------------------------------------------------------------------------

/-- The handlers of the crate. -/
inductive HandlerKind where
  | localHandler
  | blockHandler
  | overlayHandler
  | imagePullHandler
deriving Repr, DecidableEq

/-- `driver_types()` of each handler. -/
def HandlerKind.driverTypes : HandlerKind → List String
  | .localHandler => ["local"]
  | .blockHandler => ["block", "virtio-blk"]
  | .overlayHandler => ["overlay", "overlayfs"]
  | .imagePullHandler => ["image", "image-pull"]

/-- The handlers `STORAGE_HANDLERS` registers, in order. -/
def storageHandlerKinds : List HandlerKind :=
  [.localHandler, .blockHandler, .overlayHandler, .imagePullHandler]

open StorageHandlerManager in
/-- The initializer of `STORAGE_HANDLERS`, run from `StorageHandlerManager::new()`. -/
def storageHandlers : Outcome Unit × StorageHandlerManager HandlerKind :=
  storageHandlerKinds.forM (fun handler => Run.unwrap (addHandler handler.driverTypes handler)) new

/-- `STORAGE_HANDLERS` is built without a panic, to the driver types in registration order. -/
example :
    storageHandlers.1 = .ok () ∧
    storageHandlers.2.handlers.entries =
      [("local", .localHandler), ("block", .blockHandler), ("virtio-blk", .blockHandler),
       ("overlay", .overlayHandler), ("overlayfs", .overlayHandler),
       ("image", .imagePullHandler), ("image-pull", .imagePullHandler)] :=
  ⟨rfl, rfl⟩

end Runcell
