import Runcell.Core.HashMap
import Runcell.Oci.Spec

/-!
# Runcell — the host the CLI runs on

The `container` commands of the CLI act on a host: its filesystem, its process table, and
the runtime's own crates (`storage::image`, `celler::container`), which this repository does
not contain. `Host` is that state, and `HostWorld` answers every call whose outcome the CLI
cannot know in advance: which system calls and which calls into the other crates fail, with
what error, and what they return. Every theorem about the CLI holds for every world.

Paths are resolved as the kernel walks them (`resolve`): split at `/`, empty components and
`.` dropped, `..` taking one component off. The filesystem maps resolved paths to nodes;
`create_dir_all`, `remove_dir_all`, `Spec::save` and `read_dir` change or read it the way
the kernel does, when the world lets them succeed.
-/

namespace Runcell

-- ---------------------------------------------------------------------------
-- Paths
-- ---------------------------------------------------------------------------

/-- The kernel's step into one component of a path. -/
def enterComponent (dir : List String) (comp : List Char) : List String :=
  if comp = [] ∨ comp = ['.'] then dir
  else if comp = ['.', '.'] then dir.dropLast
  else dir ++ [String.mk comp]

/-- The kernel's path walk: the directory reached so far, the component being read, and the
rest of the path. -/
def walk (dir : List String) (comp : List Char) : List Char → List String
  | [] => enterComponent dir comp
  | '/' :: cs => walk (enterComponent dir comp) [] cs
  | c :: cs => walk dir (comp ++ [c]) cs

/-- The components of the directory or file a path names, from the root. -/
def resolve (p : String) : List String := walk [] [] p.toList

/-- A single component that names a child of the directory it is read in. -/
def NormalComponent (id : String) : Prop :=
  id ≠ "" ∧ id ≠ "." ∧ id ≠ ".." ∧ '/' ∉ id.toList

instance (id : String) : Decidable (NormalComponent id) :=
  inferInstanceAs (Decidable (_ ∧ _ ∧ _ ∧ _))

theorem walk_append_slash (dir : List String) (comp xs ys : List Char) :
    walk dir comp (xs ++ '/' :: ys) = walk (walk dir comp xs) [] ys := by
  induction xs generalizing dir comp with
  | nil => rfl
  | cons c xs ih =>
    by_cases hc : c = '/'
    · subst hc
      exact ih _ _
    · simp only [List.cons_append, walk, ih]

theorem walk_of_not_mem (dir : List String) (comp cs : List Char) (h : '/' ∉ cs) :
    walk dir comp cs = enterComponent dir (comp ++ cs) := by
  induction cs generalizing comp with
  | nil => simp [walk]
  | cons c cs ih =>
    have hc : c ≠ '/' := fun hc => h (hc ▸ List.mem_cons_self _ _)
    rw [walk.eq_def]
    simp only [hc, ih _ (fun hm => h (List.mem_cons_of_mem _ hm)), List.append_assoc,
      List.singleton_append]

/-- `format!("{}/{}", base, id)` names the component `id` read in `base`. -/
theorem resolve_slash (base id : String) (h : '/' ∉ id.toList) :
    resolve (base ++ "/" ++ id) = enterComponent (resolve base) id.toList := by
  have hl : (base ++ "/" ++ id).toList = base.toList ++ '/' :: id.toList := by simp
  rw [resolve, hl, walk_append_slash, walk_of_not_mem _ _ _ h, List.nil_append]
  rfl

theorem enterComponent_normal {id : String} (h : NormalComponent id) (dir : List String) :
    enterComponent dir id.toList = dir ++ [id] := by
  obtain ⟨h₀, h₁, h₂, -⟩ := h
  have hne : ∀ s : String, id ≠ s → id.toList ≠ s.toList := fun s hs he =>
    hs (String.ext (by simpa using he))
  rw [enterComponent, if_neg, if_neg (show id.toList ≠ ['.', '.'] from hne ".." h₂)]
  · rfl
  · rintro (he | he)
    · exact hne "" h₀ he
    · exact hne "." h₁ he

-- ---------------------------------------------------------------------------
-- The filesystem
-- ---------------------------------------------------------------------------

/-- Modelled from the spec: the persisted state file `<state_base>/<id>/state.json`
(`load_container_state` is not in the repository's sources), with the fields the CLI reads
and the init process's start time. -/
structure PersistedState where
  initProcessPid : Int
  initProcessStart : Nat
  created : Nat
  rootfs : String

/-- What a path of the filesystem holds. -/
inductive Node where
  | dir
  /-- A `config.json` written by `Spec::save`. -/
  | config (spec : Spec)
  /-- A `state.json` as the runtime persists it. -/
  | state (st : PersistedState)
  | other

/-- The filesystem: resolved path to node. -/
abbrev Fs := HashMap (List String) Node

/-- `create_dir_all` from the directory `dir`: each missing component becomes a directory. -/
def mkdirAllFrom (dir : List String) : List String → Fs → Fs
  | [], fs => fs
  | c :: cs, fs =>
    mkdirAllFrom (dir ++ [c]) cs (if fs.containsKey (dir ++ [c]) then fs else fs.insert (dir ++ [c]) .dir)

namespace Fs

/-- `create_dir_all(p)` on success. -/
def mkdirAll (fs : Fs) (p : List String) : Fs := mkdirAllFrom [] p fs

/-- Writing a whole file. -/
def write (fs : Fs) (p : List String) (n : Node) : Fs := fs.insert p n

/-- `remove_dir_all(p)` on success: `p` and everything under it. -/
def removeAll (fs : Fs) (p : List String) : Fs := fs.filter fun e => !(p.isPrefixOf e.1)

/-- `Path::exists`. -/
def existsPath (fs : Fs) (p : List String) : Bool := p.isEmpty || fs.containsKey p

/-- The names `read_dir(p)` lists, in the filesystem's order. -/
def children (fs : Fs) (p : List String) : List String :=
  fs.entries.filterMap fun e => if e.1.dropLast = p then e.1.getLast? else none

end Fs

theorem mkdirAllFrom_get? {fs : Fs} {k : List String} {n : Node} (h : fs.get? k = some n)
    (dir p : List String) : (mkdirAllFrom dir p fs).get? k = some n := by
  induction p generalizing dir fs with
  | nil => exact h
  | cons c cs ih =>
    apply ih
    split
    · exact h
    · rename_i hnew
      rw [HashMap.get?_insert, if_neg]
      · exact h
      · rintro rfl
        simp [HashMap.containsKey, h] at hnew

theorem mkdirAllFrom_get?_self (dir : List String) (c : String) (cs : List String) (fs : Fs) :
    ((mkdirAllFrom dir (c :: cs) fs).get? (dir ++ c :: cs)).isSome := by
  induction cs generalizing dir c fs with
  | nil =>
    simp only [mkdirAllFrom]
    split
    · assumption
    · simp
  | cons c' cs ih => simpa using ih (dir ++ [c]) c' _

/-- `create_dir_all` keeps every path that was there, with what it held. -/
theorem Fs.get?_mkdirAll {fs : Fs} {k : List String} {n : Node} (h : fs.get? k = some n)
    (p : List String) : (fs.mkdirAll p).get? k = some n :=
  mkdirAllFrom_get? h [] p

/-- After `create_dir_all(p)`, `p` is there. -/
theorem Fs.mkdirAll_get?_self (fs : Fs) {p : List String} (hp : p ≠ []) :
    ((fs.mkdirAll p).get? p).isSome := by
  obtain ⟨c, cs, rfl⟩ := List.exists_cons_of_ne_nil hp
  exact mkdirAllFrom_get?_self [] c cs fs

/-- After `create_dir_all(p)`, `Path::new(p).exists()`. -/
theorem Fs.existsPath_mkdirAll (fs : Fs) (p : List String) : (fs.mkdirAll p).existsPath p = true := by
  cases p with
  | nil => rfl
  | cons c cs =>
    simpa [existsPath, HashMap.containsKey] using Fs.mkdirAll_get?_self fs (List.cons_ne_nil c cs)

/-- Writing a file keeps every path that exists. -/
theorem Fs.existsPath_write {fs : Fs} {p : List String} (h : fs.existsPath p = true)
    (k : List String) (n : Node) : (fs.write k n).existsPath p = true := by
  simp only [existsPath, write, HashMap.containsKey, HashMap.get?_insert, Bool.or_eq_true] at h ⊢
  split <;> simp_all

theorem mkdirAllFrom_get?_cases (dir p : List String) (fs : Fs) (k : List String) :
    (mkdirAllFrom dir p fs).get? k = fs.get? k ∨ (mkdirAllFrom dir p fs).get? k = some .dir := by
  induction p generalizing dir fs with
  | nil => exact .inl rfl
  | cons c cs ih =>
    rw [mkdirAllFrom]
    rcases ih (dir ++ [c]) (if fs.containsKey (dir ++ [c]) then fs else fs.insert (dir ++ [c]) .dir)
      with h | h
    · rw [h]
      split
      · exact .inl rfl
      · rw [HashMap.get?_insert]
        split
        · exact .inr rfl
        · exact .inl rfl
    · exact .inr h

/-- `create_dir_all(p)` leaves each path as it was, or makes it a directory. -/
theorem Fs.get?_mkdirAll_cases (fs : Fs) (p k : List String) :
    (fs.mkdirAll p).get? k = fs.get? k ∨ (fs.mkdirAll p).get? k = some .dir :=
  mkdirAllFrom_get?_cases [] p fs k

theorem mkdirAllFrom_get?_of_not_prefix {k : List String} (dir p : List String) (fs : Fs)
    (hk : ¬k <+: dir ++ p) : (mkdirAllFrom dir p fs).get? k = fs.get? k := by
  induction p generalizing dir fs with
  | nil => rfl
  | cons c cs ih =>
    rw [mkdirAllFrom, ih _ _ (by simpa using hk)]
    split
    · rfl
    · rw [HashMap.get?_insert, if_neg]
      rintro rfl
      exact hk ⟨cs, by simp⟩

/-- `create_dir_all(p)` changes no path but `p` and its ancestors. -/
theorem Fs.get?_mkdirAll_of_not_prefix (fs : Fs) {p k : List String} (hk : ¬k <+: p) :
    (fs.mkdirAll p).get? k = fs.get? k :=
  mkdirAllFrom_get?_of_not_prefix [] p fs hk

/-- `remove_dir_all(p)` keeps exactly the paths outside `p`. -/
theorem Fs.get?_removeAll (fs : Fs) (p k : List String) :
    (fs.removeAll p).get? k = if p <+: k then none else fs.get? k := by
  rw [removeAll, HashMap.get?_filter]
  by_cases hp : p <+: k
  · have : p.isPrefixOf k = true := List.isPrefixOf_iff_prefix.mpr hp
    cases fs.get? k <;> simp [hp, this]
  · have : p.isPrefixOf k = false :=
      Bool.eq_false_iff.mpr fun h => hp (List.isPrefixOf_iff_prefix.mp h)
    cases fs.get? k <;> simp [hp, this]

/-- The filesystem is a tree: the parent of every path but the root's children is there. -/
def Fs.Closed (fs : Fs) : Prop := ∀ k c, (fs.get? (k ++ [c])).isSome → k = [] ∨ (fs.get? k).isSome

/-- In a tree, the parent of every path that holds a node exists. -/
theorem Fs.Closed.existsPath_parent {fs : Fs} (hc : fs.Closed) {p : List String} {c : String}
    (h : (fs.get? (p ++ [c])).isSome) : fs.existsPath p = true := by
  rcases hc p c h with rfl | hp
  · rfl
  · simp [existsPath, HashMap.containsKey, hp]

theorem Fs.closed_empty : Fs.Closed HashMap.empty := fun _ _ h => by simp at h

/-- A node added under a path that exists keeps the filesystem a tree. -/
theorem Fs.Closed.insert {fs : Fs} (hc : fs.Closed) {p : List String} (c : String)
    (hp : fs.existsPath p = true) (n : Node) : Fs.Closed (fs.insert (p ++ [c]) n) := by
  intro k c' hk
  simp only [HashMap.get?_insert] at hk ⊢
  split at hk
  · obtain ⟨rfl, -⟩ := List.append_inj' ‹p ++ [c] = k ++ [c']› rfl
    simpa [existsPath, HashMap.containsKey] using hp
  · rcases hc k c' hk with hk' | hk'
    · exact .inl hk'
    · exact .inr (by split <;> simp_all)

theorem mkdirAllFrom_closed (dir p : List String) {fs : Fs} (hc : fs.Closed)
    (hd : fs.existsPath dir = true) : (mkdirAllFrom dir p fs).Closed := by
  induction p generalizing dir fs with
  | nil => exact hc
  | cons c cs ih =>
    rw [mkdirAllFrom]
    split
    · exact ih _ hc (by simp [Fs.existsPath, *])
    · exact ih _ (hc.insert c hd _) (by simp [Fs.existsPath, HashMap.containsKey])

/-- `create_dir_all` keeps the filesystem a tree: it creates each missing ancestor first. -/
theorem Fs.Closed.mkdirAll {fs : Fs} (hc : fs.Closed) (p : List String) : (fs.mkdirAll p).Closed :=
  mkdirAllFrom_closed [] p hc rfl

theorem Fs.Closed.removeAll {fs : Fs} (hc : fs.Closed) (p : List String) :
    (fs.removeAll p).Closed := by
  intro k c hk
  rw [Fs.get?_removeAll] at hk ⊢
  split at hk
  · simp at hk
  · rename_i hp
    have hp' : ¬p <+: k := fun h => hp (h.trans (List.prefix_append _ _))
    simpa [hp'] using hc k c hk

/-- Nothing lies under `p` when `p` exists, as after `if p.exists() { remove_dir_all(p)? }`. -/
def Fs.Cleared (fs : Fs) (p : List String) : Prop :=
  fs.existsPath p = true → ∀ k, p <+: k → fs.get? k = none

theorem Fs.cleared_removeAll (fs : Fs) (p : List String) : (fs.removeAll p).Cleared p :=
  fun _ k hk => by rw [Fs.get?_removeAll, if_pos hk]

theorem Fs.Cleared.removeAll {fs : Fs} {p : List String} (hc : fs.Cleared p) (q : List String) :
    (fs.removeAll q).Cleared p := by
  intro he k hk
  rw [Fs.get?_removeAll]
  split
  · rfl
  · refine hc ?_ k hk
    simp only [existsPath, HashMap.containsKey, Bool.or_eq_true] at he ⊢
    rcases he with he | he
    · exact .inl he
    · rw [Fs.get?_removeAll] at he
      split at he
      · simp at he
      · exact .inr he

/-- `remove_dir_all(p)` changes nothing where nothing lies under `p`. -/
theorem Fs.removeAll_of_cleared {fs : Fs} {p : List String} (hc : ∀ k, p <+: k → fs.get? k = none) :
    fs.removeAll p = fs := by
  refine HashMap.ext_entries (List.filter_eq_self.mpr fun e he => ?_)
  have hget : fs.get? e.1 = some e.2 := (HashMap.get?_eq_some_iff _ _ _).mpr he
  by_cases hp : p <+: e.1
  · simp [hc _ hp] at hget
  · simpa using Bool.eq_false_iff.mpr fun h => hp (List.isPrefixOf_iff_prefix.mp h)

-- ---------------------------------------------------------------------------
-- The host and its world
-- ---------------------------------------------------------------------------

/-- `nix::sys::signal::Signal`, as far as the CLI sends one. -/
inductive Signal where
  | sigkill
deriving Repr, DecidableEq

/-- A call of the CLI whose outcome the host decides. -/
inductive HostCall where
  | pullAndExtract (image id : String)
  | createDirAll (path : String)
  | save (path : String)
  | readDir (path : String)
  | removeDirAll (path : String)
  | linuxContainerNew (id stateBase : String)
  | processNew (execId : String)
  | runContainer (id : String)
  | cleanupImage (id : String)
  | kill (pid : Int) (sig : Signal)
  | nsenter (args : List String)
deriving Repr, DecidableEq

/-- The host: its filesystem, its live processes (PID and start time), and the calls made. -/
structure Host where
  fs : Fs
  procs : List (Int × Nat)
  calls : List HostCall

/-- What the host answers: whether each call fails, given the calls before it, with what
error; the rootfs `pull_and_extract` extracts an image to; the exit code of `nsenter`. -/
structure HostWorld where
  fails : List HostCall → HostCall → Option String
  rootfs : String → String → String
  exitCode : List HostCall → Option Int

section Calls

variable (w : HostWorld)

/-- Make a call: it is recorded, and fails when the world says so. -/
def call (c : HostCall) : Run Host Unit := fun h =>
  match w.fails h.calls c with
  | some e => (.err e, { h with calls := h.calls ++ [c] })
  | none => (.ok (), { h with calls := h.calls ++ [c] })

/-- `fs::create_dir_all(p)`. -/
def createDirAll (p : String) : Run Host Unit := do
  call w (.createDirAll p)
  Run.modify fun h => { h with fs := h.fs.mkdirAll (resolve p) }

/-- `spec.save(p)`: `config.json` is written with the spec. -/
def saveSpec (p : String) (spec : Spec) : Run Host Unit := do
  call w (.save p)
  Run.modify fun h => { h with fs := h.fs.write (resolve p) (.config spec) }

/-- `fs::remove_dir_all(p)`. -/
def removeDirAll (p : String) : Run Host Unit := do
  call w (.removeDirAll p)
  Run.modify fun h => { h with fs := h.fs.removeAll (resolve p) }

/-- `fs::read_dir(p)`, each entry by its file name. -/
def readDir (p : String) : Run Host (List String) := do
  call w (.readDir p)
  let h ← Run.get
  pure (h.fs.children (resolve p))

/-- `storage::image::pull_and_extract(image, id)`: the path of the extracted rootfs. -/
def pullAndExtract (image id : String) : Run Host String := do
  call w (.pullAndExtract image id)
  pure (w.rootfs image id)

/-- `signal::kill(pid, sig)`. -/
def kill (pid : Int) (sig : Signal) : Run Host Unit := call w (.kill pid sig)

/-- `Command::new("nsenter").args(args).status()`: the exit code. -/
def nsenter (args : List String) : Run Host (Option Int) := do
  call w (.nsenter args)
  let h ← Run.get
  pure (w.exitCode h.calls)

end Calls

/-- `Path::new(p).exists()`. -/
def pathExists (p : String) : Run Host Bool := fun h => (.ok (h.fs.existsPath (resolve p)), h)

/-- Modelled from the spec: `is_process_running(pid)` (not in the repository's sources)
probes whether some live process has that PID. -/
def isProcessRunning (pid : Int) : Run Host Bool := fun h => (.ok (h.procs.any (·.1 == pid)), h)

/-- Modelled from the spec: `load_container_state(base, id)` (not in the repository's
sources) reads `<base>/<id>/state.json`. -/
def loadContainerState (base id : String) : Run Host PersistedState := fun h =>
  match h.fs.get? (resolve (base ++ "/" ++ id ++ "/state.json")) with
  | some (.state st) => (.ok st, h)
  | _ => (.err "No such file or directory (os error 2)", h)

end Runcell
