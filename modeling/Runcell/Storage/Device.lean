import Runcell.Cli.Host

/-!
# Runcell — cleaning up a storage device

`StorageDeviceGeneric::cleanup` of `storage/src/device.rs` removes the device's path when it
is an empty directory. A device without a path or with the empty one, and a path that does
not exist, are left alone; a regular file is kept (it is usually the target of a bind
mount); a directory with an entry is `directory is not empty when clean up storage`, and a
path that is neither a directory nor a file (a socket, a FIFO, a device node) is
`storage path {} is neither directory nor file`. Unmounting the path is a `TODO` of the
source, and is not done.

The host is what `cleanup` reads: the kind of each path that exists, by resolved path as in
`Cli/Host.lean` (the root is a directory), and the calls whose outcome the host decides,
`read_dir` and `remove_dir`. `remove_dir` of the root is refused with `EBUSY`.

Main results:

* `cleanup_frame` — a cleanup changes no path but the device's own, and that one only by
  removing it, when it was an empty directory and the cleanup returns `Ok`.
* `cleanup_ok_iff` — a cleanup returns `Ok` exactly when it leaves nothing to clean up: the
  device has no path or the empty one, or its path is gone or is a file.
* `cleanup_idempotent` — after a cleanup that returned `Ok`, a second one returns `Ok`,
  makes no call and changes nothing.
-/

namespace Runcell

/-- What `Path::is_dir` and `Path::is_file` tell of a path that exists. -/
inductive PathKind where
  | dir
  | file
  /-- Neither: a socket, a FIFO, a device node. -/
  | other
deriving Repr, DecidableEq

/-- A call of `cleanup` whose outcome the host decides. -/
inductive DeviceCall where
  | readDir (path : String)
  | removeDir (path : String)
deriving Repr, DecidableEq

/-- The host a device is cleaned up on: the kind of each path that exists but the root, by
resolved path, and the calls made. -/
structure DeviceHost where
  kinds : HashMap (List String) PathKind
  calls : List DeviceCall

/-- Whether a call fails, given the calls before it, and with what error. -/
structure DeviceWorld where
  fails : List DeviceCall → DeviceCall → Option String

/-- `EBUSY`, as `std::io::Error` displays it. -/
def ebusy : String := "Device or resource busy (os error 16)"

namespace DeviceHost

/-- The kind of a path, if it exists: the root is a directory. -/
def kindOf (h : DeviceHost) (p : List String) : Option PathKind :=
  if p = [] then some .dir else h.kinds.get? p

/-- Whether the directory `p` has an entry. -/
def hasEntries (h : DeviceHost) (p : List String) : Bool :=
  h.kinds.entries.any fun e => !e.1.isEmpty && e.1.dropLast == p

end DeviceHost

section Calls

variable (w : DeviceWorld)

/-- Make a call: it is recorded, and fails when the world says so. -/
def deviceCall (c : DeviceCall) : Run DeviceHost Unit := fun h =>
  match w.fails h.calls c with
  | some e => (.err e, { h with calls := h.calls ++ [c] })
  | none => (.ok (), { h with calls := h.calls ++ [c] })

/-- `Path::new(p).exists()`. -/
def devicePathExists (p : String) : Run DeviceHost Bool := fun h =>
  (.ok (h.kindOf (resolve p)).isSome, h)

/-- `Path::is_dir`. -/
def isDir (p : String) : Run DeviceHost Bool := fun h => (.ok (h.kindOf (resolve p) == some .dir), h)

/-- `Path::is_file`. -/
def isFile (p : String) : Run DeviceHost Bool := fun h =>
  (.ok (h.kindOf (resolve p) == some .file), h)

/-- `p.read_dir()?.next().is_none()`: whether the directory has no entry. -/
def readDirIsEmpty (p : String) : Run DeviceHost Bool := do
  deviceCall w (.readDir p)
  let h ← Run.get
  pure !(h.hasEntries (resolve p))

/-- `fs::remove_dir(p)`; the root cannot be removed. -/
def removeDir (p : String) : Run DeviceHost Unit := do
  deviceCall w (.removeDir p)
  if resolve p = [] then
    Run.fail ebusy
  Run.modify fun h => { h with kinds := h.kinds.filter fun e => e.1 != resolve p }

end Calls

/-- `StorageDeviceGeneric`: the path of the device, if it has one. -/
structure StorageDeviceGeneric where
  path : Option String
deriving Repr, DecidableEq

namespace StorageDeviceGeneric

/-- `StorageDeviceGeneric::new(path)`. -/
def new (path : String) : StorageDeviceGeneric := ⟨some path⟩

/-- `StorageDeviceGeneric::cleanup`. -/
def cleanup (w : DeviceWorld) (self : StorageDeviceGeneric) : Run DeviceHost Unit := do
  let some path := self.path | return
  if path.isEmpty then return
  if !(← devicePathExists path) then return
  if ← isDir path then
    let isEmpty ← readDirIsEmpty w path
    if !isEmpty then
      Run.fail "directory is not empty when clean up storage"
    removeDir w path
  else if ← isFile path then
    pure ()
  else
    Run.fail ("storage path " ++ path ++ " is neither directory nor file")

/-- Nothing is left for `cleanup` to do: the device has no path or the empty one, or its path
does not exist or is a file. -/
def Settled (self : StorageDeviceGeneric) (h : DeviceHost) : Prop :=
  match self.path with
  | none => True
  | some p => p.isEmpty = true ∨ h.kindOf (resolve p) = none ∨ h.kindOf (resolve p) = some .file

instance (self : StorageDeviceGeneric) (h : DeviceHost) : Decidable (self.Settled h) :=
  match self with
  | ⟨none⟩ => isTrue trivial
  | ⟨some _⟩ => inferInstanceAs (Decidable (_ ∨ _ ∨ _))

end StorageDeviceGeneric

-- ---------------------------------------------------------------------------
-- One step at a time
-- ---------------------------------------------------------------------------

section Steps

variable (w : DeviceWorld)

theorem readDirIsEmpty_apply (p : String) (h : DeviceHost) :
    readDirIsEmpty w p h = match w.fails h.calls (.readDir p) with
      | some e => (.err e, { h with calls := h.calls ++ [.readDir p] })
      | none => (.ok !(h.hasEntries (resolve p)), { h with calls := h.calls ++ [.readDir p] }) := by
  simp only [readDirIsEmpty, deviceCall, Run.bind_apply]
  cases w.fails h.calls (.readDir p) <;> rfl

theorem removeDir_apply (p : String) (h : DeviceHost) :
    removeDir w p h = match w.fails h.calls (.removeDir p) with
      | some e => (.err e, { h with calls := h.calls ++ [.removeDir p] })
      | none => if resolve p = [] then (.err ebusy, { h with calls := h.calls ++ [.removeDir p] })
        else (.ok (), ⟨h.kinds.filter (·.1 != resolve p), h.calls ++ [.removeDir p]⟩) := by
  simp only [removeDir, deviceCall, Run.bind_apply]
  cases w.fails h.calls (.removeDir p)
  · by_cases hr : resolve p = [] <;> simp [hr]
  · rfl

/-- Removing a path that is not the root takes it, and only it. -/
theorem kindOf_filter (h : DeviceHost) {p : List String} (hp : p ≠ []) (calls : List DeviceCall)
    (k : List String) :
    (⟨h.kinds.filter (·.1 != p), calls⟩ : DeviceHost).kindOf k = if k = p then none else h.kindOf k := by
  by_cases hk : k = p
  · subst hk
    simp [DeviceHost.kindOf, hp]
  · by_cases h0 : k = []
    · subst h0
      simp [DeviceHost.kindOf, hk]
    · simp only [DeviceHost.kindOf, HashMap.get?_filter, hk, h0, if_false]
      cases h.kinds.get? k <;> simp [hk]

end Steps

namespace StorageDeviceGeneric

variable (w : DeviceWorld)

theorem cleanup_of_settled {self : StorageDeviceGeneric} {h : DeviceHost} (hs : self.Settled h) :
    self.cleanup w h = (.ok (), h) := by
  rcases self with ⟨_ | p⟩
  · rfl
  · cases hp : p.isEmpty
    · rcases hs with hs | hk | hk
      · simp [hp] at hs
      · simp [cleanup, hp, devicePathExists, hk, Run.bind_apply]
      · simp [cleanup, hp, devicePathExists, isDir, isFile, hk, Run.bind_apply]
    · simp [cleanup, hp]

theorem cleanup_of_other {p : String} (hp : p.isEmpty = false) {h : DeviceHost}
    (hk : h.kindOf (resolve p) = some .other) :
    (mk (some p)).cleanup w h = (.err ("storage path " ++ p ++ " is neither directory nor file"), h) := by
  simp [cleanup, hp, devicePathExists, isDir, isFile, hk, Run.bind_apply]

theorem cleanup_of_dir {p : String} (hp : p.isEmpty = false) {h : DeviceHost}
    (hk : h.kindOf (resolve p) = some .dir) :
    (∃ e l, (mk (some p)).cleanup w h = (.err e, { h with calls := h.calls ++ l })) ∨
    (resolve p ≠ [] ∧ h.hasEntries (resolve p) = false ∧
      (mk (some p)).cleanup w h =
        (.ok (), ⟨h.kinds.filter (·.1 != resolve p), h.calls ++ [.readDir p, .removeDir p]⟩)) := by
  simp only [cleanup, hp, devicePathExists, isDir, hk, Run.bind_apply, readDirIsEmpty_apply,
    Bool.false_eq_true, if_false, Run.pure_apply, Option.isSome_some, Bool.not_true, beq_self_eq_true,
    if_true]
  cases hr : w.fails h.calls (.readDir p) with
  | some e => exact .inl ⟨e, [.readDir p], rfl⟩
  | none =>
    cases he : h.hasEntries (resolve p)
    · simp only [Bool.not_false, Bool.not_true, Bool.false_eq_true, if_false, Run.pure_bind,
        removeDir_apply]
      cases w.fails (h.calls ++ [.readDir p]) (.removeDir p) with
      | some e => exact .inl ⟨e, [.readDir p, .removeDir p], by simp⟩
      | none =>
        by_cases hroot : resolve p = []
        · exact .inl ⟨ebusy, [.readDir p, .removeDir p], by simp [hroot]⟩
        · exact .inr ⟨hroot, trivial, by simp [hroot]⟩
    · exact .inl ⟨_, [.readDir p], rfl⟩

/-- **What a cleanup does.** Where nothing is left to clean up, nothing; otherwise it fails
with every path as it was, or removes its own path, an empty directory other than the root. -/
theorem cleanup_cases (self : StorageDeviceGeneric) (h : DeviceHost) :
    (self.Settled h ∧ self.cleanup w h = (.ok (), h)) ∨
    (¬self.Settled h ∧ ∃ e l, self.cleanup w h = (.err e, { h with calls := h.calls ++ l })) ∨
    ∃ p, self.path = some p ∧ resolve p ≠ [] ∧ h.kindOf (resolve p) = some .dir ∧
      h.hasEntries (resolve p) = false ∧
      self.cleanup w h = (.ok (), ⟨h.kinds.filter (·.1 != resolve p), h.calls ++ [.readDir p, .removeDir p]⟩) := by
  by_cases hs : self.Settled h
  · exact .inl ⟨hs, cleanup_of_settled w hs⟩
  · rcases self with ⟨_ | p⟩
    · exact absurd trivial hs
    · have hp : p.isEmpty = false := by simpa using fun h => hs (.inl h)
      cases hk : h.kindOf (resolve p) with
      | none => exact absurd (.inr (.inl hk)) hs
      | some k =>
        cases k with
        | file => exact absurd (.inr (.inr hk)) hs
        | other => exact .inr (.inl ⟨hs, _, [], by simpa using cleanup_of_other w hp hk⟩)
        | dir =>
          rcases cleanup_of_dir w hp hk with he | ⟨hroot, hent, hc⟩
          · exact .inr (.inl ⟨hs, he⟩)
          · exact .inr (.inr ⟨p, rfl, hroot, hk, hent, hc⟩)

theorem settled_of_cleanup_ok {self : StorageDeviceGeneric} {h : DeviceHost}
    (hok : (self.cleanup w h).1 = .ok ()) : self.Settled (self.cleanup w h).2 := by
  rcases cleanup_cases w self h with ⟨hs, hc⟩ | ⟨-, e, l, hc⟩ | ⟨p, hpath, hroot, -, -, hc⟩
  · rwa [hc]
  · rw [hc] at hok
    cases hok
  · rw [hc]
    cases self
    cases hpath
    exact .inr (.inl (by simp [kindOf_filter _ hroot]))

theorem cleanup_ok_of_settled {self : StorageDeviceGeneric} {h : DeviceHost}
    (hs : self.Settled (self.cleanup w h).2) : (self.cleanup w h).1 = .ok () := by
  rcases cleanup_cases w self h with ⟨-, hc⟩ | ⟨hns, e, l, hc⟩ | ⟨p, -, -, -, -, hc⟩
  · rw [hc]
  · rw [hc] at hs ⊢
    exact absurd hs hns
  · rw [hc]

end StorageDeviceGeneric

open StorageDeviceGeneric

/-- **Cleanup removes only an empty directory, its own.** For every world, every device and
every host, a path's kind after a cleanup is what it was, except for the device's own path
when it was an empty directory: the cleanup then returned `Ok` and the path is gone. A file
is never removed, nor anything under a directory, and a failed cleanup changes no path. -/
theorem cleanup_frame (w : DeviceWorld) (self : StorageDeviceGeneric) (h : DeviceHost)
    (k : List String) :
    (self.cleanup w h).2.kindOf k = h.kindOf k ∨
    ∃ p, self.path = some p ∧ k = resolve p ∧ h.kindOf k = some .dir ∧ h.hasEntries k = false ∧
      (self.cleanup w h).1 = .ok () ∧ (self.cleanup w h).2.kindOf k = none := by
  rcases cleanup_cases w self h with ⟨-, hc⟩ | ⟨-, e, l, hc⟩ | ⟨p, hpath, hroot, hdir, hent, hc⟩
  · exact .inl (by rw [hc])
  · exact .inl (by rw [hc]; rfl)
  · rw [hc, kindOf_filter _ hroot]
    by_cases hk : k = resolve p
    · subst hk
      exact .inr ⟨p, hpath, rfl, hdir, hent, rfl, by simp⟩
    · exact .inl (by simp [hk])

/-- **Ok means done.** For every world, every device and every host, a cleanup returns `Ok`
exactly when it leaves nothing to clean up: the device has no path or the empty one, or its
path does not exist or is a file. -/
theorem cleanup_ok_iff (w : DeviceWorld) (self : StorageDeviceGeneric) (h : DeviceHost) :
    (self.cleanup w h).1 = .ok () ↔ self.Settled (self.cleanup w h).2 :=
  ⟨settled_of_cleanup_ok w, cleanup_ok_of_settled w⟩

/-- **Cleanup is idempotent.** For every world, every device and every host: after a cleanup
that returned `Ok`, a second cleanup of the device returns `Ok`, makes no call and changes
nothing. -/
theorem cleanup_idempotent (w : DeviceWorld) (self : StorageDeviceGeneric) (h : DeviceHost)
    (hok : (self.cleanup w h).1 = .ok ()) :
    self.cleanup w (self.cleanup w h).2 = (.ok (), (self.cleanup w h).2) :=
  cleanup_of_settled w (settled_of_cleanup_ok w hok)

/-- The empty directory `/mnt/dev` of a device: the first cleanup removes it, the second
finds nothing. -/
theorem cleanup_idempotent_empty_dir :
    let w : DeviceWorld := ⟨fun _ _ => none⟩
    let h : DeviceHost := ⟨HashMap.empty.insert ["mnt"] .dir |>.insert ["mnt", "dev"] .dir, []⟩
    ((StorageDeviceGeneric.new "/mnt/dev").cleanup w h).1 = .ok () ∧
      (StorageDeviceGeneric.new "/mnt/dev").cleanup w ((StorageDeviceGeneric.new "/mnt/dev").cleanup w h).2 =
        (.ok (), ((StorageDeviceGeneric.new "/mnt/dev").cleanup w h).2) :=
  ⟨rfl, cleanup_idempotent _ _ _ rfl⟩

end Runcell
