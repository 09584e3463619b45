import Mathlib.Data.BitVec
import Runcell.Core.Run

/-!
# Runcell — the mounts of the storage crate

`parse_mount_flags`, `bind_mount` and `mount_device` of `storage/src/mount.rs`, over a host
whose state is the paths that exist, the mount table and the calls made.

`mount(2)` is the kernel's: `kernelMount` is what a successful call does to the table,
following `path_mount` of the kernel. `MS_REMOUNT` changes the read-only flag of the topmost
mount at the target, and fails with `EINVAL` where nothing is mounted; `MS_BIND` adds a
mount of the source with the read-only flag of the mount the source lies on, every other
flag but `MS_REC` being ignored then; a propagation type (`MS_SHARED`, `MS_PRIVATE`,
`MS_SLAVE`) changes the mount at the target and adds none; any other call adds a mount of
the file system type with its data. The table holds the mounts the crate makes, on a host
whose own mounts it does not list: a `MountWorld` says whether the mount a source lies on
is read-only, and when a call fails for a reason of the host, from the calls before it. A
failed call changes nothing.

Main results:

* `bindMount_table` — what `bind_mount` leaves in the table on each exit: on `Err` the table
  is unchanged, except when the read-only remount fails, which leaves the read-write bind.
* `mountDevice_call` — `mount_device` passes `parse_mount_flags(options)` as the flags and
  every option, recognised or not, in the data.
-/

namespace Runcell

-- ---------------------------------------------------------------------------
-- Flags
-- ---------------------------------------------------------------------------

/-- `nix::mount::MsFlags`: the `unsigned long` flags of `mount(2)`. -/
abbrev MsFlags := BitVec 64

/-- The flags the crate names (`priv` is `MS_PRIVATE`, `recursive` is `MS_REC`). -/
inductive MsFlag where
  | rdonly | nosuid | nodev | noexec | synchronous | remount | bind | recursive
  | priv | slave | shared
deriving Repr, DecidableEq

/-- The bit of each flag, as `<linux/mount.h>` numbers them. -/
def MsFlag.bit : MsFlag → Nat
  | .rdonly => 0
  | .nosuid => 1
  | .nodev => 2
  | .noexec => 3
  | .synchronous => 4
  | .remount => 5
  | .bind => 12
  | .recursive => 14
  | .priv => 18
  | .slave => 19
  | .shared => 20

/-- `MsFlags::MS_*`. -/
def MsFlag.val (f : MsFlag) : MsFlags := BitVec.twoPow 64 f.bit

/-- `flags.contains(f)`. -/
def MsFlags.has (flags : MsFlags) (f : MsFlag) : Bool := flags.getLsbD f.bit

@[simp] theorem MsFlags.has_or (a b : MsFlags) (f : MsFlag) : (a ||| b).has f = (a.has f || b.has f) := by
  simp [MsFlags.has]

@[simp] theorem MsFlags.has_zero (f : MsFlag) : MsFlags.has 0#64 f = false := by
  simp [MsFlags.has]

@[simp] theorem MsFlag.has_val (f g : MsFlag) : f.val.has g = decide (f = g) := by
  cases f <;> cases g <;> rfl

/-- The flags of one option: the arms of the `match` of `parse_mount_flags`. -/
def optionFlags (opt : String) : MsFlags :=
  if opt = "ro" ∨ opt = "readonly" then MsFlag.rdonly.val
  else if opt = "nosuid" then MsFlag.nosuid.val
  else if opt = "nodev" then MsFlag.nodev.val
  else if opt = "noexec" then MsFlag.noexec.val
  else if opt = "sync" then MsFlag.synchronous.val
  else if opt = "remount" then MsFlag.remount.val
  else if opt = "bind" then MsFlag.bind.val
  else if opt = "rbind" then MsFlag.bind.val ||| MsFlag.recursive.val
  else if opt = "private" then MsFlag.priv.val
  else if opt = "rprivate" then MsFlag.priv.val ||| MsFlag.recursive.val
  else if opt = "shared" then MsFlag.shared.val
  else if opt = "rshared" then MsFlag.shared.val ||| MsFlag.recursive.val
  else if opt = "slave" then MsFlag.slave.val
  else if opt = "rslave" then MsFlag.slave.val ||| MsFlag.recursive.val
  else 0

/-- `parse_mount_flags(options)`. -/
def parseMountFlags (options : List String) : MsFlags :=
  options.foldl (fun flags opt => flags ||| optionFlags opt) 0

theorem has_foldl_or (options : List String) (acc : MsFlags) (f : MsFlag) :
    (options.foldl (fun flags opt => flags ||| optionFlags opt) acc).has f =
      (acc.has f || options.any fun opt => (optionFlags opt).has f) := by
  induction options generalizing acc with
  | nil => simp
  | cons opt options ih => simp [ih, Bool.or_assoc]

/-- A flag is set exactly when one of the options sets it. -/
theorem parseMountFlags_has (options : List String) (f : MsFlag) :
    (parseMountFlags options).has f = options.any fun opt => (optionFlags opt).has f := by
  simp [parseMountFlags, has_foldl_or]

/-- Only `bind` and `rbind` set `MS_BIND`. -/
theorem optionFlags_has_bind (opt : String) :
    (optionFlags opt).has .bind = (opt == "bind" || opt == "rbind") := by
  simp only [optionFlags, apply_ite (MsFlags.has · .bind), MsFlag.has_val, MsFlags.has_or,
    MsFlags.has_zero, reduceCtorEq, decide_False, decide_True, Bool.or_false, Bool.false_or,
    ite_self]
  by_cases h : opt = "bind" <;> by_cases h' : opt = "rbind" <;> simp_all

/-- `MS_SHARED`, `MS_PRIVATE` or `MS_SLAVE`: a change of propagation type. -/
def MsFlags.propagation (flags : MsFlags) : Bool :=
  flags.has .shared || flags.has .priv || flags.has .slave

@[simp] theorem MsFlags.propagation_or (a b : MsFlags) :
    (a ||| b).propagation = (a.propagation || b.propagation) := by
  simp only [MsFlags.propagation, MsFlags.has_or]
  cases a.has .shared <;> cases a.has .priv <;> cases a.has .slave <;> simp

@[simp] theorem MsFlag.propagation_val (f : MsFlag) :
    f.val.propagation = (f == .shared || f == .priv || f == .slave) := by
  cases f <;> rfl

@[simp] theorem MsFlags.propagation_zero : MsFlags.propagation 0 = false := rfl

/-- `flags_to_propagation_type` of the kernel accepts the flags: one propagation type, and no
other flag but `MS_REC` (`MS_SILENT`, which the crate never sets, is not modelled). -/
def MsFlags.propagationOnly (flags : MsFlags) : Bool :=
  let t := flags &&& ~~~MsFlag.recursive.val
  t == MsFlag.shared.val || t == MsFlag.priv.val || t == MsFlag.slave.val

/-- The options that set a propagation type. -/
def propagationOptions : List String :=
  ["private", "rprivate", "shared", "rshared", "slave", "rslave"]

/-- The options that set `MS_REC`. -/
def recursiveOptions : List String := ["rbind", "rprivate", "rshared", "rslave"]

/-- Only the options of a propagation type set one. -/
theorem optionFlags_propagation {opt : String} (h : opt ∉ propagationOptions) :
    (optionFlags opt).propagation = false := by
  simp only [propagationOptions, List.mem_cons, List.mem_singleton, List.not_mem_nil, or_false,
    not_or] at h
  obtain ⟨h₁, h₂, h₃, h₄, h₅, h₆⟩ := h
  simp only [optionFlags, h₁, h₂, h₃, h₄, h₅, h₆, if_false, apply_ite MsFlags.propagation,
    MsFlags.propagation_or, MsFlag.propagation_val, MsFlags.propagation_zero]
  simp

/-- Options none of which is a propagation type set none. -/
theorem parseMountFlags_propagation {options : List String}
    (h : ∀ o ∈ options, o ∉ propagationOptions) : (parseMountFlags options).propagation = false := by
  have hf : ∀ o ∈ options, (optionFlags o).propagation = false := fun o ho =>
    optionFlags_propagation (h o ho)
  simp only [MsFlags.propagation, Bool.or_eq_false_iff] at hf ⊢
  simp only [parseMountFlags_has, List.any_eq_false, Bool.not_eq_true]
  exact ⟨⟨fun o ho => (hf o ho).1.1, fun o ho => (hf o ho).1.2⟩, fun o ho => (hf o ho).2⟩

/-- Only `remount` sets `MS_REMOUNT`. -/
theorem optionFlags_has_remount (opt : String) :
    (optionFlags opt).has .remount = (opt == "remount") := by
  simp only [optionFlags, apply_ite (MsFlags.has · .remount), MsFlag.has_val, MsFlags.has_or,
    MsFlags.has_zero, reduceCtorEq, decide_False, decide_True, Bool.or_false, ite_self]
  by_cases h : opt = "remount" <;> simp [h]

-- ---------------------------------------------------------------------------
-- The host and the kernel
-- ---------------------------------------------------------------------------

/-- A mount of the table: what `mount(2)` was given, and whether the mount is read-only. -/
structure MountEntry where
  source : Option String
  target : String
  fstype : Option String
  data : Option String
  readOnly : Bool
deriving Repr, DecidableEq

/-- A call of the crate whose outcome the host decides. -/
inductive MountCall where
  | createDirAll (path : String)
  | mount (source : Option String) (target : String) (fstype : Option String) (flags : MsFlags)
      (data : Option String)
deriving Repr, DecidableEq

/-- The host: the paths that exist, the mount table, the calls made. -/
structure MountHost where
  paths : List String
  table : List MountEntry
  calls : List MountCall

/-- What the host decides: whether a call fails, given the calls before it, and with what
error; and whether the mount the path of a source lies on is read-only, given the table. -/
structure MountWorld where
  fails : List MountCall → MountCall → Option String
  sourceReadOnly : List MountEntry → Option String → Bool

/-- `EINVAL`, as `nix` displays it. -/
def einval : String := "EINVAL: Invalid argument"

/-- The remount of the topmost mount at `target`; `none` when nothing is mounted there. -/
def remountTop (target : String) (ro : Bool) : List MountEntry → Option (List MountEntry)
  | [] => none
  | e :: es =>
    match remountTop target ro es with
    | some es' => some (e :: es')
    | none => if e.target = target then some ({ e with readOnly := ro } :: es) else none

/-- The topmost mount at `target`: the last one made there. -/
def topAt (target : String) : List MountEntry → Option MountEntry
  | [] => none
  | e :: es => (topAt target es).or (if e.target = target then some e else none)

theorem remountTop_eq_none {target : String} {ro : Bool} {table : List MountEntry} :
    remountTop target ro table = none ↔ topAt target table = none := by
  induction table with
  | nil => simp [remountTop, topAt]
  | cons e es ih =>
    simp only [remountTop, topAt]
    cases h : remountTop target ro es <;> simp_all [Option.or_eq_none]

/-- A remount changes the read-only flag of the topmost mount at the target. -/
theorem topAt_remountTop {target : String} {ro : Bool} {table table' : List MountEntry}
    (h : remountTop target ro table = some table') :
    topAt target table' = (topAt target table).map ({ · with readOnly := ro }) := by
  induction table generalizing table' with
  | nil => simp [remountTop] at h
  | cons e es ih =>
    simp only [remountTop] at h
    cases hr : remountTop target ro es with
    | some es' =>
      simp only [hr, Option.some.injEq] at h
      subst h
      have hne : topAt target es ≠ none := fun hn => by simp [remountTop_eq_none.mpr hn] at hr
      obtain ⟨x, hx⟩ := Option.ne_none_iff_exists'.mp hne
      simp [topAt, ih hr, hx]
    | none =>
      simp only [hr] at h
      split at h
      · simp only [Option.some.injEq] at h
        subst h
        simp_all [topAt, remountTop_eq_none.mp hr]
      · simp at h

/-- What a successful `mount(2)` does to the table: `path_mount` of the kernel, which
decides by the flags in this order. A remount changes the read-only flag of the topmost
mount at the target (`do_reconfigure_mnt` with `MS_BIND`, `do_remount` without). A bind adds
a mount of the source whose flags are those of the mount the source lies on, read-only when
`sourceRo` (`do_loopback`, `clone_mnt`). A propagation type changes the mount at the target,
which must be a mount, and the table does not record it (`do_change_type`). Any other call
adds a new mount (`do_new_mount`). Not modelled: a bind with `MS_REC` also copies the mounts
beneath the source (`copy_tree`), and `MS_MOVE`, which the crate never sets. -/
def kernelMount (sourceRo : Bool) (source : Option String) (target : String)
    (fstype : Option String) (flags : MsFlags) (data : Option String) (table : List MountEntry) :
    Except String (List MountEntry) :=
  if flags.has .remount then
    match remountTop target (flags.has .rdonly) table with
    | some table' => .ok table'
    | none => .error einval
  else if flags.has .bind then .ok (table ++ [⟨source, target, none, none, sourceRo⟩])
  else if flags.propagation then
    if flags.propagationOnly && (topAt target table).isSome then .ok table else .error einval
  else .ok (table ++ [⟨source, target, fstype, data, flags.has .rdonly⟩])

/-- `kernelMount` without `MS_REMOUNT`: a bind adds a mount of the source with the read-only
flag of the mount the source lies on. -/
theorem kernelMount_bind {sourceRo : Bool} {source : Option String} {target : String}
    {fstype : Option String} {flags : MsFlags} {data : Option String} (table : List MountEntry)
    (hr : flags.has .remount = false) (hb : flags.has .bind = true) :
    kernelMount sourceRo source target fstype flags data table =
      .ok (table ++ [⟨source, target, none, none, sourceRo⟩]) := by
  simp [kernelMount, hr, hb]

/-- A successful remount with `MS_RDONLY` leaves the topmost mount at the target read-only. -/
theorem topAt_kernelMount_remount {sourceRo : Bool} {source : Option String} {target : String}
    {fstype : Option String} {flags : MsFlags} {data : Option String}
    {table table' : List MountEntry} (hr : flags.has .remount = true)
    (hro : flags.has .rdonly = true)
    (h : kernelMount sourceRo source target fstype flags data table = .ok table') :
    ∃ m, topAt target table' = some m ∧ m.readOnly = true := by
  simp only [kernelMount, hr, hro, if_true] at h
  split at h
  · rename_i table'' hrm
    cases h
    obtain ⟨m, hm⟩ := Option.ne_none_iff_exists'.mp (show topAt target table ≠ none from
      fun hn => by simp [remountTop_eq_none.mpr hn] at hrm)
    exact ⟨_, by rw [topAt_remountTop hrm, hm]; rfl, rfl⟩
  · cases h

section Calls

variable (w : MountWorld)

/-- `Path::new(p).exists()`. -/
def mountPathExists (p : String) : Run MountHost Bool := fun h => (.ok (p ∈ h.paths), h)

/-- `std::fs::create_dir_all(p)`. -/
def mountCreateDirAll (p : String) : Run MountHost Unit := fun h =>
  let c := MountCall.createDirAll p
  match w.fails h.calls c with
  | some e => (.err e, { h with calls := h.calls ++ [c] })
  | none => (.ok (), { h with paths := h.paths ++ [p], calls := h.calls ++ [c] })

/-- `if !p.exists() { create_dir_all(p).with_context(..)? }`, the same in each function of
`mount.rs` but for the word naming the directory (`target`, `upper`, `work`). -/
def createDirIfMissing (what p : String) : Run MountHost Unit := do
  if !(← mountPathExists p) then
    Run.context ("Failed to create " ++ what ++ " directory: " ++ p) (mountCreateDirAll w p)

/-- `nix::mount::mount(source, target, fstype, flags, data)`. -/
def sysMount (source : Option String) (target : String) (fstype : Option String)
    (flags : MsFlags) (data : Option String) : Run MountHost Unit := fun h =>
  let c := MountCall.mount source target fstype flags data
  match w.fails h.calls c,
      kernelMount (w.sourceReadOnly h.table source) source target fstype flags data h.table with
  | some e, _ => (.err e, { h with calls := h.calls ++ [c] })
  | none, .error e => (.err e, { h with calls := h.calls ++ [c] })
  | none, .ok table => (.ok (), { h with table := table, calls := h.calls ++ [c] })

/-- `bind_mount(source, target, options)`. -/
def bindMount (source target : String) (options : List String) : Run MountHost Unit := do
  if !(← mountPathExists source) then
    Run.fail ("Source path does not exist: " ++ source)
  createDirIfMissing w "target" target
  let flags := MsFlag.bind.val ||| parseMountFlags options
  Run.context ("Failed to bind mount " ++ source ++ " to " ++ target)
    (sysMount w (some source) target none flags none)
  if options.any (fun o => o == "ro" || o == "readonly") then
    Run.context ("Failed to remount " ++ target ++ " as readonly")
      (sysMount w (some source) target none (flags ||| MsFlag.remount.val ||| MsFlag.rdonly.val)
        none)

/-- `mount_device(device, target, fstype, options)`. -/
def mountDevice (device target fstype : String) (options : List String) :
    Run MountHost Unit := do
  if !(← mountPathExists device) then
    Run.fail ("Device does not exist: " ++ device)
  createDirIfMissing w "target" target
  let flags := parseMountFlags options
  let data := if !options.isEmpty then some (",".intercalate options) else none
  Run.context ("Failed to mount " ++ device ++ " to " ++ target)
    (sysMount w (some device) target (some fstype) flags data)

-- ---------------------------------------------------------------------------
-- Steps that leave the table alone
-- ---------------------------------------------------------------------------

/-- `x` never panics and leaves the mount table as it found it, on every exit. -/
def TableKept {α : Type} (x : Run MountHost α) : Prop :=
  ∀ h, (x h).2.table = h.table ∧ ∀ m, (x h).1 ≠ .panic m

theorem tableKept_createDirIfMissing (what p : String) : TableKept (createDirIfMissing w what p) := by
  intro h
  simp only [createDirIfMissing, mountPathExists, bind, Run.bind]
  split
  · simp only [Run.context, mountCreateDirAll]
    cases w.fails h.calls (.createDirAll p) <;> simp
  · simp

/-- One `mount(2)`: `Ok` with the table the kernel makes, or `Err` with the table as it was. -/
theorem sysMount_cases (source : Option String) (target : String) (fstype : Option String)
    (flags : MsFlags) (data : Option String) (h : MountHost) :
    let r := sysMount w source target fstype flags data h
    r.2.calls = h.calls ++ [.mount source target fstype flags data] ∧
    ((r.1 = .ok () ∧ kernelMount (w.sourceReadOnly h.table source) source target fstype flags
        data h.table = .ok r.2.table) ∨
      ∃ e, r.1 = .err e ∧ r.2.table = h.table) := by
  simp only [sysMount]
  split <;> simp_all

theorem createDirIfMissing_calls (what p : String) (h : MountHost) :
    (createDirIfMissing w what p h).2.calls = h.calls ∨
      (createDirIfMissing w what p h).2.calls = h.calls ++ [.createDirAll p] := by
  simp only [createDirIfMissing, mountPathExists, bind, Run.bind]
  split
  · simp only [Run.context, mountCreateDirAll]
    cases w.fails h.calls (.createDirAll p) <;> simp
  · simp

/-- Every call `x` adds to the host's calls satisfies `P`, on every exit. -/
def CallsWithin (P : MountCall → Prop) {α : Type} (x : Run MountHost α) : Prop :=
  ∀ h, ∃ l, (x h).2.calls = h.calls ++ l ∧ ∀ c ∈ l, P c

namespace CallsWithin

variable {P : MountCall → Prop} {α β : Type}

theorem pure (a : α) : CallsWithin P (pure a : Run MountHost α) := fun _ => ⟨[], by simp⟩

theorem fail (e : String) : CallsWithin P (Run.fail e : Run MountHost α) := fun _ => ⟨[], by simp⟩

theorem bind {x : Run MountHost α} {f : α → Run MountHost β} (hx : CallsWithin P x)
    (hf : ∀ a, CallsWithin P (f a)) : CallsWithin P (x >>= f) := by
  intro h
  obtain ⟨l₁, h₁, p₁⟩ := hx h
  rw [Run.bind_apply]
  rcases hr : x h with ⟨_ | _ | _, h'⟩ <;> rw [hr] at h₁
  · obtain ⟨l₂, h₂, p₂⟩ := hf _ h'
    exact ⟨l₁ ++ l₂, by rw [h₂, h₁, List.append_assoc], fun c hc =>
      (List.mem_append.mp hc).elim (p₁ c) (p₂ c)⟩
  · exact ⟨l₁, h₁, p₁⟩
  · exact ⟨l₁, h₁, p₁⟩

theorem context (msg : String) {x : Run MountHost α} (hx : CallsWithin P x) :
    CallsWithin P (Run.context msg x) := by
  intro h
  rw [Run.context_apply]
  split <;> exact hx h

theorem ite {c : Prop} [Decidable c] {x y : Run MountHost α} (hx : CallsWithin P x)
    (hy : CallsWithin P y) : CallsWithin P (if c then x else y) := by
  split
  · exact hx
  · exact hy

theorem createDirIfMissing (what p : String) (hp : P (.createDirAll p)) :
    CallsWithin P (createDirIfMissing w what p) := by
  intro h
  rcases createDirIfMissing_calls w what p h with hc | hc
  · exact ⟨[], by simp [hc]⟩
  · exact ⟨_, hc, by simpa using hp⟩

theorem sysMount {source : Option String} {target : String} {fstype : Option String}
    {flags : MsFlags} {data : Option String} (hp : P (.mount source target fstype flags data)) :
    CallsWithin P (sysMount w source target fstype flags data) := fun h =>
  ⟨_, (sysMount_cases w source target fstype flags data h).1, by simpa using hp⟩

end CallsWithin

-- ---------------------------------------------------------------------------
-- `bind_mount`
-- ---------------------------------------------------------------------------

/-- The two `mount(2)` calls of `bind_mount`, from any host `h₁`. -/
theorem bindMount_mounts (source target : String) (options : List String) (h₁ : MountHost) :
    let flags := MsFlag.bind.val ||| parseMountFlags options
    let ro := options.any fun o => o == "ro" || o == "readonly"
    let r := (Run.context ("Failed to bind mount " ++ source ++ " to " ++ target)
        (sysMount w (some source) target none flags none) >>= fun _ =>
      if ro = true then Run.context ("Failed to remount " ++ target ++ " as readonly")
        (sysMount w (some source) target none (flags ||| MsFlag.remount.val ||| MsFlag.rdonly.val)
          none)
      else pure PUnit.unit) h₁
    (∀ m, r.1 ≠ .panic m) ∧
    (∀ e, r.1 = .err e → r.2.table = h₁.table ∨
      ro ∧ e = "Failed to remount " ++ target ++ " as readonly" ∧
        kernelMount (w.sourceReadOnly h₁.table (some source)) (some source) target none flags none
          h₁.table = .ok r.2.table) ∧
    (r.1 = .ok () → ro → ∃ m, topAt target r.2.table = some m ∧ m.readOnly) := by
  intro flags ro r
  obtain ⟨-, h1⟩ := sysMount_cases w (some source) target none flags none h₁
  rcases hx : sysMount w (some source) target none flags none h₁ with ⟨o, h₂⟩
  rw [hx] at h1
  rcases h1 with ⟨rfl, hk⟩ | ⟨e, rfl, ht⟩
  · -- the bind succeeded: the remount, if any, starts from the kernel's table
    have hr : r = (if ro = true then Run.context ("Failed to remount " ++ target ++ " as readonly")
        (sysMount w (some source) target none (flags ||| MsFlag.remount.val ||| MsFlag.rdonly.val)
          none)
      else pure PUnit.unit) h₂ := by simp only [r, Run.bind_apply, Run.context, hx]
    cases hro : ro
    · simp [hr, hro]
    · obtain ⟨-, h2⟩ := sysMount_cases w (some source) target none
        (flags ||| MsFlag.remount.val ||| MsFlag.rdonly.val) none h₂
      rcases h2 with ⟨ho, hk'⟩ | ⟨e, he, ht'⟩
      · simp only [hr, hro, if_true, Run.context_apply, ho]
        exact ⟨by simp, by simp, fun _ _ => topAt_kernelMount_remount (by simp) (by simp) hk'⟩
      · simp only [hr, hro, if_true, Run.context_apply, he]
        simp_all
  · -- the bind failed
    have hr : r = (.err ("Failed to bind mount " ++ source ++ " to " ++ target), h₂) := by
      simp only [r, Run.bind_apply, Run.context, hx]
    exact ⟨by simp [hr], fun _ _ => .inl (by simpa [hr] using ht), by simp [hr]⟩

/-- Without a `remount` option the first call of `bind_mount` is a plain bind. -/
theorem kernelMount_bindMount {options : List String} (h : "remount" ∉ options)
    (sourceRo : Bool) (source : Option String) (target : String) (table : List MountEntry) :
    kernelMount sourceRo source target none (MsFlag.bind.val ||| parseMountFlags options) none
      table = .ok (table ++ [⟨source, target, none, none, sourceRo⟩]) :=
  kernelMount_bind table
    (by simpa [parseMountFlags_has, optionFlags_has_remount] using
      fun o ho (hr : o = "remount") => h (hr ▸ ho))
    (by simp)

/-- **What `bind_mount` leaves in the table.** It never panics. On `Err` the table is as it
was, except when the options ask for a read-only mount and the remount fails: then the
table is the one the first call made, which without a `remount` option holds the new bind
of the source at the target, read-only exactly when the mount the source lies on is (and,
for a recursive bind, the copies of the mounts beneath the source, which the table does not
model). On `Ok` with `ro` or `readonly`, the topmost mount at the target is read-only. -/
theorem bindMount_table (source target : String) (options : List String) (h : MountHost) :
    let r := bindMount w source target options h
    let ro := options.any fun o => o == "ro" || o == "readonly"
    let sourceRo := w.sourceReadOnly h.table (some source)
    (∀ m, r.1 ≠ .panic m) ∧
    (∀ e, r.1 = .err e → r.2.table = h.table ∨
      ro ∧ e = "Failed to remount " ++ target ++ " as readonly" ∧
        kernelMount sourceRo (some source) target none
          (MsFlag.bind.val ||| parseMountFlags options) none h.table = .ok r.2.table ∧
        ("remount" ∉ options → (∀ o ∈ options, o ∉ recursiveOptions) →
          r.2.table = h.table ++ [⟨some source, target, none, none, sourceRo⟩])) ∧
    (r.1 = .ok () → ro → ∃ m, topAt target r.2.table = some m ∧ m.readOnly) := by
  intro r ro sourceRo
  simp only [r, bindMount, Run.bind_apply, mountPathExists]
  split
  · simp
  · rw [Run.pure_bind, Run.bind_apply]
    obtain ⟨ht₁, hp₁⟩ := tableKept_createDirIfMissing w "target" target h
    rcases hx : createDirIfMissing w "target" target h with ⟨_ | e | m, h₁⟩ <;>
      rw [hx] at ht₁ hp₁ <;> dsimp only at ht₁ hp₁ ⊢
    · obtain ⟨hp, he, ho⟩ := bindMount_mounts w source target options h₁
      refine ⟨hp, fun e hr => ?_, ho⟩
      rcases he e hr with ht | ⟨hro, hmsg, hkm⟩
      · exact .inl (ht.trans ht₁)
      · rw [ht₁] at hkm
        refine .inr ⟨hro, hmsg, hkm, fun hre _ => ?_⟩
        simpa [kernelMount_bindMount hre] using hkm.symm
    · simp [ht₁]
    · exact absurd rfl (hp₁ m)

/-- `bind_mount(source, target, ["ro"])` of a source on a read-write mount, where the remount
fails: the call returns `Err` and the read-write bind of `/src` stays mounted at `/dst`. -/
theorem bindMount_ro_remount_fails :
    let w : MountWorld := ⟨fun _ c => match c with
      | .mount _ _ _ flags _ => if flags.has .remount then some "EIO: I/O error" else none
      | _ => none, fun _ _ => false⟩
    let r := bindMount w "/src" "/dst" ["ro"] ⟨["/src", "/dst"], [], []⟩
    r.1 = .err "Failed to remount /dst as readonly" ∧
      r.2.table = [⟨some "/src", "/dst", none, none, false⟩] :=
  ⟨rfl, rfl⟩

-- ---------------------------------------------------------------------------
-- `mount_device`
-- ---------------------------------------------------------------------------

/-- **The call `mount_device` makes.** The calls it adds are at most a `create_dir_all` of
the target, then at most one `mount(2)`, which it always reaches on `Ok`; that call passes
`parse_mount_flags(options)` as the flags and the `,`-join of every option, recognised as a
flag or not, as the data (none for no options). -/
theorem mountDevice_call (device target fstype : String) (options : List String)
    (h : MountHost) :
    let r := mountDevice w device target fstype options h
    let c := MountCall.mount (some device) target (some fstype) (parseMountFlags options)
      (if !options.isEmpty then some (",".intercalate options) else none)
    ∃ l, r.2.calls = h.calls ++ l ∧ l.Sublist [.createDirAll target, c] ∧
      (r.1 = .ok () → c ∈ l) := by
  intro r c
  simp only [r, mountDevice, Run.bind_apply, mountPathExists]
  split
  · exact ⟨[], by simp⟩
  · rw [Run.pure_bind, Run.bind_apply]
    have hp₁ := (tableKept_createDirIfMissing w "target" target h).2
    have hc₁ := createDirIfMissing_calls w "target" target h
    rcases hx : createDirIfMissing w "target" target h with ⟨_ | e | m, h₁⟩ <;>
      rw [hx] at hc₁ hp₁ <;> dsimp only at hc₁ hp₁ ⊢
    · obtain ⟨hc, -⟩ := sysMount_cases w (some device) target (some fstype)
        (parseMountFlags options) (if !options.isEmpty then some (",".intercalate options) else none)
        h₁
      rw [Run.context_apply]
      rcases hc₁ with hc₁ | hc₁ <;> split <;> rw [hc, hc₁] <;> simp_all [c]
    · rcases hc₁ with hc₁ | hc₁ <;> rw [hc₁] <;> simp
    · exact absurd rfl (hp₁ m)

/-- `mount_device(.., ["ro"])` passes `ro` twice: as `MS_RDONLY` and as the data `"ro"`. -/
theorem mountDevice_ro_flag_and_data :
    let w : MountWorld := ⟨fun _ _ => none, fun _ _ => false⟩
    let r := mountDevice w "/dev/vda" "/mnt" "ext4" ["ro"] ⟨["/dev/vda", "/mnt"], [], []⟩
    r.1 = .ok () ∧
      r.2.calls = [.mount (some "/dev/vda") "/mnt" (some "ext4") (parseMountFlags ["ro"]) (some "ro")] ∧
      (parseMountFlags ["ro"]).has .rdonly = true :=
  ⟨rfl, rfl, rfl⟩

end Calls

end Runcell
