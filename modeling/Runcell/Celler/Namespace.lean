import Mathlib.Data.List.Forall2
import Mathlib.Data.String.Basic
import Runcell.Oci.Spec

/-!
# Runcell — namespace resolution

The first half of `container/namespace.rs`: the helpers that read the OCI namespace list
before a container starts.

* `updateNamespaces` points every entry with an unset path at the namespace of a running
  process (the sandbox case): `/proc/<pid>/ns/<name>`, the name taken from `TYPETONAME`.
* `isUsernsEnabled` decides whether the parent must write uid/gid maps.
* `getPidNamespace` finds the first `pid` entry and opens its path when it has one.

The namespace plan of the specification classifies an entry by the same "unset" test that
`updateNamespaces` applies: an absent *or empty* path means "create a new namespace"
(`entryAction`). The two queries test only for an absent path.

Main results:

* `updateNamespaces_contract` — error exactly without a `linux` section, the spec
  untouched then; otherwise the rewrite of each entry, a frame condition on the rest of the
  spec, and idempotence.
* `isUsernsEnabled_iff`, `getPidNamespace_eq` — what the two queries compute.
* `resolver_empty_path_divergence` — on an entry whose path is `""` the plan says "create"
  while `is_userns_enabled` creates no user namespace and `get_pid_namespace` opens `""`.
-/

namespace Runcell

-- ---------------------------------------------------------------------------
-- `update_namespaces`
-- ---------------------------------------------------------------------------

/-- `format!("/proc/{}/ns/{}", init_pid, name)`. -/
def nsPath (initPid : Int) (name : String) : String :=
  "/proc/" ++ toString initPid ++ "/ns/" ++ name

/-- `path.as_ref().is_none_or(|p| p.as_os_str().is_empty())`. -/
def pathUnset : Option String → Bool
  | none => true
  | some p => p.isEmpty

/-- The body of the loop of `update_namespaces`, on one entry. -/
def updateNamespace (initPid : Int) (ns : LinuxNamespace) : LinuxNamespace :=
  match typeToName ns.typ with
  | some name => if pathUnset ns.path then { ns with path := some (nsPath initPid name) } else ns
  | none => ns

/-- `update_namespaces(logger, spec, init_pid)`, acting on the `&mut Spec` it is given. -/
def updateNamespaces (initPid : Int) : Run Spec Unit := fun spec =>
  match spec.linux with
  | none => (.err "Spec didn't contain linux field", spec)
  | some linux =>
    (.ok (), { spec with
      linux := some { linux with namespaces := linux.namespaces.map (List.map (updateNamespace initPid)) } })

theorem nsPath_isEmpty (initPid : Int) (name : String) : (nsPath initPid name).isEmpty = false := by
  rw [Bool.eq_false_iff, ne_eq, String.isEmpty_iff]
  intro h
  have := congrArg String.length h
  simp only [nsPath, String.length_append] at this
  have h6 : "/proc/".length = 6 := rfl
  have h0 : "".length = 0 := rfl
  omega

@[simp] theorem updateNamespace_typ (initPid : Int) (ns : LinuxNamespace) :
    (updateNamespace initPid ns).typ = ns.typ := by
  unfold updateNamespace
  split
  · split <;> rfl
  · rfl

theorem updateNamespace_of_unset {initPid : Int} {ns : LinuxNamespace} {name : String}
    (hname : typeToName ns.typ = some name) (hunset : pathUnset ns.path = true) :
    updateNamespace initPid ns = { ns with path := some (nsPath initPid name) } := by
  simp [updateNamespace, hname, hunset]

theorem updateNamespace_of_not_unset {initPid : Int} {ns : LinuxNamespace}
    (h : typeToName ns.typ = none ∨ pathUnset ns.path = false) :
    updateNamespace initPid ns = ns := by
  rcases h with h | h <;> simp [updateNamespace, h]
  split <;> rfl

/-- After the rewrite an entry of a listed kind has a non-empty path, so rewriting again,
for any pid, changes nothing. -/
theorem updateNamespace_idem (initPid initPid' : Int) (ns : LinuxNamespace) :
    updateNamespace initPid' (updateNamespace initPid ns) = updateNamespace initPid ns := by
  cases hname : typeToName ns.typ with
  | none => simp [updateNamespace_of_not_unset (.inl hname)]
  | some name =>
    by_cases hunset : pathUnset ns.path = true
    · rw [updateNamespace_of_unset hname hunset]
      exact updateNamespace_of_not_unset (.inr (nsPath_isEmpty initPid name))
    · have hset : pathUnset ns.path = false := by simpa using hunset
      rw [@updateNamespace_of_not_unset initPid ns (.inr hset)]
      exact updateNamespace_of_not_unset (.inr hset)

theorem updateNamespaces_none {spec : Spec} (h : spec.linux = none) (initPid : Int) :
    updateNamespaces initPid spec = (.err "Spec didn't contain linux field", spec) := by
  simp [updateNamespaces, h]

theorem updateNamespaces_some {spec : Spec} {linux : Linux} (h : spec.linux = some linux)
    (initPid : Int) :
    updateNamespaces initPid spec = (.ok (), { spec with
      linux := some { linux with
        namespaces := linux.namespaces.map (List.map (updateNamespace initPid)) } }) := by
  simp [updateNamespaces, h]

/-- What the loop of `update_namespaces` does to one entry: the kind stays; an entry whose
kind has a name in `TYPETONAME` and whose path is unset gets `/proc/<pid>/ns/<name>`; any
other entry is left as it is. -/
def NamespaceRewritten (initPid : Int) (ns ns' : LinuxNamespace) : Prop :=
  ns'.typ = ns.typ ∧
  (∀ name, typeToName ns.typ = some name → pathUnset ns.path = true →
    ns'.path = some (nsPath initPid name)) ∧
  (typeToName ns.typ = none ∨ pathUnset ns.path = false → ns' = ns)

theorem namespaceRewritten_updateNamespace (initPid : Int) (ns : LinuxNamespace) :
    NamespaceRewritten initPid ns (updateNamespace initPid ns) :=
  ⟨updateNamespace_typ initPid ns,
    fun _ hname hunset => by rw [updateNamespace_of_unset hname hunset],
    updateNamespace_of_not_unset⟩

theorem forall₂_map_updateNamespace (initPid : Int) (nss : List LinuxNamespace) :
    List.Forall₂ (NamespaceRewritten initPid) nss (nss.map (updateNamespace initPid)) := by
  induction nss with
  | nil => exact .nil
  | cons ns nss ih => exact .cons (namespaceRewritten_updateNamespace initPid ns) ih

/-- **`update_namespaces` contract.** -/
theorem updateNamespaces_contract (spec : Spec) (initPid : Int) :
    ((∃ e, (updateNamespaces initPid spec).1 = .err e) ↔ spec.linux = none) ∧
    (spec.linux = none → (updateNamespaces initPid spec).2 = spec) ∧
    (∀ linux, spec.linux = some linux →
      (updateNamespaces initPid spec).1 = .ok () ∧
      ∃ nss' : Option (List LinuxNamespace),
        (updateNamespaces initPid spec).2 =
          { spec with linux := some { linux with namespaces := nss' } } ∧
        Option.Rel (List.Forall₂ (NamespaceRewritten initPid)) linux.namespaces nss') ∧
    (∀ initPid', (updateNamespaces initPid' (updateNamespaces initPid spec).2).2 =
      (updateNamespaces initPid spec).2) := by
  cases hlinux : spec.linux with
  | none => simp [updateNamespaces_none hlinux]
  | some linux =>
    have hupd := updateNamespaces_some hlinux initPid
    refine ⟨by simp [hupd], by simp, fun l hl => ?_, fun initPid' => ?_⟩
    · cases hl
      refine ⟨by rw [hupd], _, by rw [hupd], ?_⟩
      cases linux.namespaces with
      | none => exact .none
      | some nss => exact .some (forall₂_map_updateNamespace initPid nss)
    · rw [hupd, updateNamespaces_some rfl]
      cases linux.namespaces with
      | none => rfl
      | some nss => simp [Function.comp_def, updateNamespace_idem]

-- ---------------------------------------------------------------------------
-- The two queries of the resolver
-- ---------------------------------------------------------------------------

/-- What the namespace plan does with one entry. -/
inductive NsAction where
  | createNew
  | join (path : String)
deriving Repr, DecidableEq

/-- The plan's classification of an entry: an unset path creates, a path joins. -/
def entryAction (ns : LinuxNamespace) : NsAction :=
  if pathUnset ns.path then .createNew else .join (ns.path.getD "")

/-- `is_userns_enabled(linux)`. -/
def isUsernsEnabled (linux : Linux) : Bool :=
  (linux.namespaces.getD []).any fun ns => ns.typ.toString == "user" && ns.path.isNone

/-- `PidNs`: whether a PID namespace is requested, and the descriptor of the one to join. -/
structure PidNs where
  enabled : Bool
  fd : Option Int
deriving Repr, DecidableEq

/-- `get_pid_namespace(logger, linux)`. `openRdonly path` is the outcome of
`fcntl::open(path, O_RDONLY, Mode::empty())`: a descriptor or the errno's message. -/
def getPidNamespace (openRdonly : String → Except String Int) (linux : Linux) :
    Except String PidNs :=
  match (linux.namespaces.getD []).find? (fun ns => ns.typ.toString == "pid") with
  | none => .ok ⟨false, none⟩
  | some ns =>
    match ns.path with
    | none => .ok ⟨true, none⟩
    | some nsPath => (openRdonly nsPath).map fun fd => ⟨true, some fd⟩

/-- `get_namespaces(linux)`: a field-by-field copy of the namespace list. -/
def getNamespaces (linux : Linux) : List LinuxNamespace :=
  (linux.namespaces.getD []).map fun ns => { typ := ns.typ, path := ns.path }

@[simp] theorem getNamespaces_eq (linux : Linux) : getNamespaces linux = linux.namespaces.getD [] := by
  simp [getNamespaces]

/-- `is_userns_enabled` asks for a `user` entry with *no* path. -/
theorem isUsernsEnabled_iff (linux : Linux) :
    isUsernsEnabled linux = true ↔
      ∃ ns ∈ linux.namespaces.getD [], ns.typ = .user ∧ ns.path = none := by
  simp [isUsernsEnabled, List.any_eq_true, Option.isNone_iff_eq_none]

/-- `get_pid_namespace` decides on the first `pid` entry alone: no entry gives a disabled
namespace, no path a new one, and any path, the empty one included, is opened. -/
theorem getPidNamespace_eq (openRdonly : String → Except String Int) (linux : Linux) :
    getPidNamespace openRdonly linux =
      match (linux.namespaces.getD []).find? (fun ns => ns.typ = .pid) with
      | none => .ok ⟨false, none⟩
      | some ⟨_, none⟩ => .ok ⟨true, none⟩
      | some ⟨_, some p⟩ => (openRdonly p).map fun fd => ⟨true, some fd⟩ := by
  have hpred : (fun ns : LinuxNamespace => ns.typ.toString == "pid") =
      fun ns => decide (ns.typ = .pid) := by
    funext ns
    cases ns.typ <;> rfl
  rw [getPidNamespace, hpred]
  cases (linux.namespaces.getD []).find? (fun ns => decide (ns.typ = .pid)) with
  | none => rfl
  | some ns => rcases ns with ⟨_, _ | _⟩ <;> rfl

/-- The resolver and the plan disagree on entries whose path is present but empty: the plan
creates the namespace, `is_userns_enabled` reports no user namespace to create, and
`get_pid_namespace` opens the empty path instead of asking for a new PID namespace. -/
theorem resolver_empty_path_divergence :
    entryAction ⟨.user, some ""⟩ = .createNew ∧
    isUsernsEnabled ⟨none, none, none, some [⟨.user, some ""⟩]⟩ = false ∧
    entryAction ⟨.pid, some ""⟩ = .createNew ∧
    ∀ openRdonly : String → Except String Int,
      getPidNamespace openRdonly ⟨none, none, none, some [⟨.pid, some ""⟩]⟩ ≠ .ok ⟨true, none⟩ := by
  refine ⟨by decide, by decide, by decide, fun openRdonly => ?_⟩
  cases h : openRdonly "" <;> simp [getPidNamespace_eq, Except.map, h]

end Runcell
