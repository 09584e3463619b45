import Runcell.Celler.Effects

/-!
# Runcell — `join_namespaces`, the parent side of the handshake

`joinNamespaces` is `join_namespaces` of `container/namespace.rs`, statement by statement:
four DATA messages (spec, process, state, cgroup manager), each serialized first and
acknowledged by the child except the last, then the uid/gid maps when a user namespace is
created, the cgroup `apply` and `set`, the `continue` signal, the prestart-hook exchange of
an init process, and the final read of "ready to exec".

`handshakeTrace` is the same protocol written as the list of effects the specification
describes, with the serialization of each document placed right before the DATA write that
carries its text. The refinement `joinNamespaces_eq_performAll` says that the code *is*
running that list until the first effect that does not succeed, on every world, for the
filesystem cgroup driver; everything else follows from the laws of `performAll`.

The call panics in three places: `todo!` for the systemd driver and the `unwrap` of the
downcast to the filesystem manager, both at step 7, and the deferred `close(fd).unwrap()`
of `write_mappings` at step 9, when the `close` of a map file fails.

Main results:

* `joinNamespaces_eq_performAll` — the code runs the canonical trace.
* `joinNamespaces_handshake` — with the filesystem driver, the effects performed are a
  prefix of the canonical trace; `Ok` exactly when all of it was performed and every effect
  succeeded; on `Err` the trace ends with the first failing effect; a panic exactly when it
  ends with a map write whose `close` failed, every effect before it having succeeded.
* `joinNamespaces_close_panics` — a user namespace whose uid map file fails to close: the
  call panics right after writing it.
* `joinNamespaces_panics` — over every input, the call panics exactly at those three places.
-/

namespace Runcell

/-- What `cm.as_any()` gives back, seen through `downcast_ref::<FsManager>()`: the
filesystem manager (as the document it serializes to) or another driver. -/
inductive AnyCgroup where
  | fs (m : Json)
  | other
deriving Repr

/-- A `dyn CgroupManager`: the result of `as_any()`; `apply` and `set` are effects. -/
structure CgroupManager where
  asAny : Except String AnyCgroup
deriving Repr

/-- The message of `todo!("systemd cgroup manager is not supported yet")`. -/
def systemdTodo : String := "not yet implemented: systemd cgroup manager is not supported yet"

/-- The message of `Option::unwrap` on `None`. -/
def unwrapNone : String := "called `Option::unwrap()` on a `None` value"

/-- `format!("/proc/{}/uid_map", pid)`. -/
def uidMapPath (pid : Int) : String := "/proc/" ++ toString pid ++ "/uid_map"

/-- `format!("/proc/{}/gid_map", pid)`. -/
def gidMapPath (pid : Int) : String := "/proc/" ++ toString pid ++ "/gid_map"

section JoinNamespaces

variable (w : World)

/-- `join_namespaces(logger, spec, p, cm, use_systemd_cgroup, st, pipe_w, pipe_r)`. -/
def joinNamespaces (spec : Spec) (p : Process) (cm : CgroupManager) (useSystemdCgroup : Bool)
    (st : Json) : Parent Unit := do
  let linux ← Run.okOr spec.linux "Spec didn't contain linux field"
  let res := linux.resources
  let userns := isUsernsEnabled linux
  -- steps 1-2: the OCI spec
  let specStr ← serialize w (.spec spec)
  writeAsync w .data specStr
  readAsync w
  -- steps 3-4: the process
  let processStr ← serialize w (.process p.oci)
  writeAsync w .data processStr
  readAsync w
  -- steps 5-6: the OCI state
  let stateStr ← serialize w (.state st)
  writeAsync w .data stateStr
  readAsync w
  -- step 7: the cgroup manager
  let cmStr ← if useSystemdCgroup then Run.abort systemdTodo else do
    let any ← Run.ofExcept cm.asAny
    match any with
    | .fs m => serialize w (.cgroupManager m)
    | .other => Run.abort unwrapNone
  writeAsync w .data cmStr
  -- step 8: the child has set up its user namespace
  readAsync w
  -- step 9: uid/gid maps
  if userns then
    let uidMappings := linux.uidMappings.getD []
    let gidMappings := linux.gidMappings.getD []
    writeMappingsCall w (uidMapPath p.pid) uidMappings
    writeMappingsCall w (gidMapPath p.pid) gidMappings
  -- steps 10-11: cgroups
  if res.isSome then
    perform w (.apply p.pid)
  if p.init && res.isSome then
    match res with
    | some r => perform w (.set r false)
    | none => Run.abort unwrapNone
  -- step 12: continue
  writeAsync w .success ""
  -- steps 13-15: prestart hooks
  if p.init then
    readAsync w
    if let some hooks := spec.hooks then
      perform w (.executeHooks (hooks.prestart.getD []) st)
    writeAsync w .success ""
  -- step 16: ready to exec
  readAsync w

end JoinNamespaces

/-- Steps 1 to 11 of the canonical handshake of the specification: the four documents, each
serialized right before the DATA write that carries its text and acknowledged except the
last, then the uid/gid maps and the cgroup calls. -/
def handshakeSetup (w : World) (spec : Spec) (linux : Linux) (p : Process) (m st : Json) :
    List Effect :=
  [.serialize (.spec spec), .write .data (w.payload (.spec spec)), .read,
   .serialize (.process p.oci), .write .data (w.payload (.process p.oci)), .read,
   .serialize (.state st), .write .data (w.payload (.state st)), .read,
   .serialize (.cgroupManager m), .write .data (w.payload (.cgroupManager m)), .read] ++
  (if isUsernsEnabled linux then
    [.writeMappings (uidMapPath p.pid) (linux.uidMappings.getD []),
     .writeMappings (gidMapPath p.pid) (linux.gidMappings.getD [])] else []) ++
  (match linux.resources with
    | some r => .apply p.pid :: (if p.init then [.set r false] else [])
    | none => [])

/-- Steps 13 to 15, for an init process only: wait for "ready for hooks", run the prestart
hooks when the spec has a `hooks` section, signal "hooks complete". -/
def handshakeHooks (spec : Spec) (p : Process) (st : Json) : List Effect :=
  if p.init then
    .read :: (match spec.hooks with
      | some hooks => [.executeHooks (hooks.prestart.getD []) st]
      | none => []) ++ [.write .success ""]
  else []

/-- The canonical handshake: setup, `continue` (step 12), the hook exchange, and the wait for
"ready to exec" (step 16). -/
def handshakeTrace (w : World) (spec : Spec) (linux : Linux) (p : Process) (m st : Json) :
    List Effect :=
  handshakeSetup w spec linux p m st ++ [.write .success ""] ++ handshakeHooks spec p st ++ [.read]

section Refinement

variable {w : World}

/-- **Refinement.** With the filesystem cgroup driver, `join_namespaces` runs the canonical
handshake until its first failing effect. -/
theorem joinNamespaces_eq_performAll {spec : Spec} {linux : Linux} (hlinux : spec.linux = some linux)
    (p : Process) {cm : CgroupManager} {m : Json} (hcm : cm.asAny = .ok (.fs m)) (st : Json) :
    joinNamespaces w spec p cm false st = performAll w (handshakeTrace w spec linux p m st) := by
  simp only [joinNamespaces, hlinux, hcm, Run.okOr_some, Run.ofExcept_ok, Run.pure_bind,
    Bool.false_eq_true, if_false, serialize_bind, handshakeTrace, handshakeSetup, handshakeHooks,
    writeAsync, readAsync, writeMappingsCall]
  cases isUsernsEnabled linux <;> cases hres : linux.resources <;> cases p.init <;>
    cases spec.hooks <;>
    simp only [Option.isSome_none, Option.isSome_some, Bool.and_true, Bool.and_false,
      Bool.false_eq_true, if_true, if_false, List.nil_append, List.cons_append,
      List.singleton_append, List.append_assoc, performAll_cons, performAll_nil, Run.bind_assoc,
      Run.pure_bind, Run.bind_pure_unit]

end Refinement

/-- **`join_namespaces` handshake law.** For every world, with a `linux` section and the
filesystem cgroup driver, the effects performed are a prefix of the canonical trace; the
call returns `Ok` exactly when the whole trace was performed with every effect succeeding;
on `Err` the trace ends with the first failing effect, every earlier one having succeeded;
and it panics exactly when the trace ends with a map write whose `close` failed, every
earlier effect having succeeded. -/
theorem joinNamespaces_handshake (w : World) {spec : Spec} {linux : Linux}
    (hlinux : spec.linux = some linux) (p : Process) {cm : CgroupManager} {m : Json}
    (hcm : cm.asAny = .ok (.fs m)) (st : Json) :
    let r := joinNamespaces w spec p cm false st []
    let T := handshakeTrace w spec linux p m st
    r.2 <+: T ∧
    (r.1 = .ok () ↔ r.2 = T ∧ AllOk w [] T) ∧
    (∀ err, r.1 = .err err →
      ∃ pre x, r.2 = pre ++ [x] ∧ AllOk w [] pre ∧ w.outcome pre x = .err err) ∧
    (∀ msg, r.1 = .panic msg ↔ ∃ pre path maps, r.2 = pre ++ [.writeMappings path maps] ∧
      AllOk w [] pre ∧ ClosePanics (w.sys pre) path maps [] msg) := by
  intro r T
  have hr : r = performAll w T [] := by
    simp only [r, T, joinNamespaces_eq_performAll hlinux p hcm st]
  rcases allOk_or_first_stop (w := w) [] T with hok | ⟨pre, x, post, hT, hpre, hx⟩
  · rw [hr, performAll_of_allOk hok]
    refine ⟨List.prefix_refl _, by simpa using hok, by simp, fun msg => ?_⟩
    -- every effect succeeded, so none ended in a panic
    refine iff_of_false (by simp) ?_
    rintro ⟨pre, path, maps, hT, -, hc⟩
    rw [show T = pre ++ [.writeMappings path maps] by simpa using hT, allOk_append, allOk_cons,
      List.nil_append, World.outcome_eq_panic.mpr ⟨_, _, rfl, hc⟩] at hok
    cases hok.2.1
  · have hnot := not_allOk_of_stop hx post
    rw [List.nil_append] at hx
    have hstop := performAll_of_stop hpre (by simpa using hx) post
    rw [← hT, List.nil_append] at hstop
    rw [hr, hstop]
    refine ⟨⟨post, by simp [hT]⟩, ?_, fun err herr => ⟨pre, x, rfl, hpre, herr⟩, fun msg => ?_⟩
    · rw [hT]
      simp [hx, hnot]
    · -- the trace ends with `x`, whose outcome is the call's
      constructor
      · intro h
        obtain ⟨path, maps, rfl, hc⟩ := World.outcome_eq_panic.mp h
        exact ⟨pre, path, maps, rfl, hpre, hc⟩
      · rintro ⟨pre', path, maps, he, -, hc⟩
        obtain ⟨rfl, hx'⟩ := List.append_inj' he rfl
        cases hx'
        exact World.outcome_eq_panic.mpr ⟨_, _, rfl, hc⟩

/-- The law at a user namespace with one uid and one gid mapping, in a world where every
effect succeeds but the `close` of each map file, which fails with `EIO`. -/
theorem joinNamespaces_handshake_userns :
    let linux : Linux := ⟨some [⟨0, 1000, 1⟩], some [⟨0, 1000, 1⟩], none, some [⟨.user, none⟩]⟩
    let spec : Spec := ⟨"1.0.0", none, none, none, some linux⟩
    let cm : CgroupManager := ⟨.ok (.fs .null)⟩
    let w : World := ⟨fun _ => .ok "{}", fun _ _ => .ok (), fun _ =>
      ⟨fun _ _ _ _ => .ok 3, fun _ _ d => .ok d.utf8ByteSize, fun _ _ => .error ⟨"EIO", "I/O error"⟩⟩⟩
    let p : Process := ⟨1, true, ⟨false, none⟩⟩
    spec.linux = some linux ∧ cm.asAny = .ok (.fs .null) ∧
    let r := joinNamespaces w spec p cm false .null []
    let T := handshakeTrace w spec linux p .null .null
    r.2 <+: T ∧
    (r.1 = .ok () ↔ r.2 = T ∧ AllOk w [] T) ∧
    (∀ err, r.1 = .err err →
      ∃ pre x, r.2 = pre ++ [x] ∧ AllOk w [] pre ∧ w.outcome pre x = .err err) ∧
    (∀ msg, r.1 = .panic msg ↔ ∃ pre path maps, r.2 = pre ++ [.writeMappings path maps] ∧
      AllOk w [] pre ∧ ClosePanics (w.sys pre) path maps [] msg) :=
  ⟨rfl, rfl, joinNamespaces_handshake _ rfl _ rfl _⟩

-- ---------------------------------------------------------------------------
-- Where the call panics
-- ---------------------------------------------------------------------------

/-- Steps 1 to 6: the spec, the process and the state, each serialized, written and
acknowledged. -/
def firstExchanges (w : World) (spec : Spec) (p : Process) (st : Json) : List Effect :=
  [.serialize (.spec spec), .write .data (w.payload (.spec spec)), .read,
   .serialize (.process p.oci), .write .data (w.payload (.process p.oci)), .read,
   .serialize (.state st), .write .data (w.payload (.state st)), .read]

theorem firstExchanges_noMapWrite (w : World) (spec : Spec) (p : Process) (st : Json) :
    ∀ e ∈ firstExchanges w spec p st, e.isMapWrite = false := by
  simp [firstExchanges, Effect.isMapWrite]

section Unsupported

variable {w : World} {spec : Spec} {linux : Linux}

/-- With the systemd driver, or a manager that is not the filesystem one, step 7 panics
after the first six steps. -/
theorem joinNamespaces_unsupported (hlinux : spec.linux = some linux) (p : Process)
    {cm : CgroupManager} {useSystemdCgroup : Bool} (st : Json) {msg : String}
    (hstop : useSystemdCgroup = true ∧ msg = systemdTodo ∨
      useSystemdCgroup = false ∧ cm.asAny = .ok .other ∧ msg = unwrapNone) :
    joinNamespaces w spec p cm useSystemdCgroup st =
      performAll w (firstExchanges w spec p st) >>= fun _ => Run.abort msg := by
  rcases hstop with ⟨rfl, rfl⟩ | ⟨rfl, hcm, rfl⟩ <;>
    simp [joinNamespaces, hlinux, firstExchanges, serialize_bind, writeAsync, readAsync,
      performAll_cons, Run.bind_assoc, *]

/-- When `as_any()` fails, its error ends step 7. -/
theorem joinNamespaces_asAny_error (hlinux : spec.linux = some linux) (p : Process)
    {cm : CgroupManager} {e : String} (hcm : cm.asAny = .error e) (st : Json) :
    joinNamespaces w spec p cm false st =
      performAll w (firstExchanges w spec p st) >>= fun _ => Run.fail e := by
  simp [joinNamespaces, hlinux, hcm, firstExchanges, serialize_bind, writeAsync, readAsync,
    performAll_cons, Run.bind_assoc]

end Unsupported

/-- **Where `join_namespaces` panics.** For every spec, process, cgroup manager, driver
flag, state and world: `join_namespaces` panics exactly when the spec has a `linux` section
and either the first six steps succeed and then the systemd driver is selected (the
`todo!`) or the manager is not the filesystem one (the `unwrap` of the failed downcast), or,
with the filesystem driver, a map write of the canonical trace is reached with every effect
before it having succeeded, and its `close(fd).unwrap()` panics. -/
theorem joinNamespaces_panics (w : World) (spec : Spec) (p : Process) (cm : CgroupManager)
    (useSystemdCgroup : Bool) (st : Json) (msg : String) :
    (joinNamespaces w spec p cm useSystemdCgroup st []).1 = .panic msg ↔
      ∃ linux, spec.linux = some linux ∧
        (AllOk w [] (firstExchanges w spec p st) ∧
          (useSystemdCgroup = true ∧ msg = systemdTodo ∨
            useSystemdCgroup = false ∧ cm.asAny = .ok .other ∧ msg = unwrapNone) ∨
        useSystemdCgroup = false ∧ ∃ m pre path maps post, cm.asAny = .ok (.fs m) ∧
          handshakeTrace w spec linux p m st = pre ++ .writeMappings path maps :: post ∧
          AllOk w [] pre ∧ ClosePanics (w.sys pre) path maps [] msg) := by
  cases hl : spec.linux with
  | none => simp [joinNamespaces, hl]
  | some linux =>
    simp only [Option.some.injEq, exists_eq_left']
    have hfirst := firstExchanges_noMapWrite w spec p st
    cases useSystemdCgroup with
    | true =>
      rw [joinNamespaces_unsupported hl p st (.inl ⟨rfl, rfl⟩),
        performAll_bind_eq_panic_of_noMapWrite hfirst]
      simp [eq_comm]
    | false =>
      cases hcm : cm.asAny with
      | error e =>
        rw [joinNamespaces_asAny_error hl p hcm st, performAll_bind_eq_panic_of_noMapWrite hfirst]
        simp
      | ok any =>
        cases any with
        | other =>
          rw [joinNamespaces_unsupported hl p st (.inr ⟨rfl, hcm, rfl⟩),
            performAll_bind_eq_panic_of_noMapWrite hfirst]
          simp [eq_comm]
        | fs m =>
          -- the canonical trace, stopped at a map write that panics
          rw [joinNamespaces_eq_performAll hl p hcm st, performAll_eq_panic]
          simp only [List.nil_append, World.outcome_eq_panic]
          constructor
          · rintro ⟨pre, _, post, hT, hpre, path, maps, rfl, hc⟩
            exact .inr ⟨trivial, m, pre, path, maps, post, rfl, hT, hpre, hc⟩
          · rintro (⟨-, ⟨⟨⟩, -⟩ | ⟨-, ⟨⟩, -⟩⟩ | ⟨-, m', pre, path, maps, post, ⟨⟩, hT, hpre, hc⟩)
            exact ⟨pre, _, post, hT, hpre, path, maps, rfl, hc⟩

/-- The systemd driver, with every effect succeeding: a panic after the first six steps. -/
theorem joinNamespaces_systemd_panics :
    let spec : Spec := ⟨"1.0.0", none, none, none, some ⟨none, none, none, none⟩⟩
    let cm : CgroupManager := ⟨.ok (.fs .null)⟩
    let w : World := ⟨fun _ => .ok "{}", fun _ _ => .ok (), fun _ =>
      ⟨fun _ _ _ _ => .ok 3, fun _ _ d => .ok d.utf8ByteSize, fun _ _ => .ok ()⟩⟩
    let p : Process := ⟨1, true, ⟨false, none⟩⟩
    joinNamespaces w spec p cm true .null [] =
      (.panic systemdTodo, firstExchanges w spec p .null) :=
  rfl

end Runcell
