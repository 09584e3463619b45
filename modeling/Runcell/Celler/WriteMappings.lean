import Runcell.Core.Text
import Runcell.Oci.Spec

/-!
# Runcell — `write_mappings`, the uid and gid map files

`write_mappings(logger, path, maps)` of `container/namespace.rs` composes one line
`container_id host_id size\n` per mapping whose size is not 0 and, when the text is not
empty, opens the map file write-only, writes the text with one `write`, and closes the
descriptor with `defer!(unistd::close(fd).unwrap())`.

The system calls are modelled with their outcomes taken from a `SysWorld`, each given the
calls made before it, so a theorem over all worlds covers every outcome of `open`, `write`
and `close`. The calls return their `Result` as a value: `?` turns a `nix` error into the
`anyhow` error by its `Display`, and `unwrap` panics with its `Debug`.

In `join_namespaces` the whole call is one effect, whose outcome is what `writeMappings`
returns on the system calls of the parent's world (`Runcell.Celler.Effects`):
`writeMappings_eq_panic` says when that is a panic (`ClosePanics`).

Main results:

* `decodeMappings_mappingData` — the text decodes back to the mappings of non-zero size,
  in order, and it is empty, with no system call made, exactly when every size is 0.
* `writeMappings_syscalls` — the calls made and the result, on every outcome of the three
  system calls.
-/

namespace Runcell

-- ---------------------------------------------------------------------------
-- The text
-- ---------------------------------------------------------------------------

/-- `format!("{} {} {}\n", m.container_id(), m.host_id(), m.size())`. -/
def mappingLine (m : LinuxIdMapping) : String :=
  toString m.containerId ++ " " ++ toString m.hostId ++ " " ++ toString m.size ++ "\n"

/-- The `data` of `write_mappings`: the lines of the mappings of non-zero size, joined. -/
def mappingData (maps : List LinuxIdMapping) : String :=
  String.join ((maps.filter fun m => m.size != 0).map mappingLine)

/-- A decimal `u32`. -/
def decimalU32 (cs : List Char) : Option UInt32 :=
  (decimalValue cs).bind fun n => if n < 2 ^ 32 then some (UInt32.ofNat n) else none

/-- A line read back: three decimal `u32` numbers separated by `' '`. -/
def decodeMappingLine (line : List Char) : Option LinuxIdMapping :=
  match line.splitOn ' ' with
  | [a, b, c] => do
    let containerId ← decimalU32 a
    let hostId ← decimalU32 b
    let size ← decimalU32 c
    pure ⟨containerId, hostId, size⟩
  | _ => none

/-- The text read back: lines at `'\n'`, the empty piece after the last one dropped, each
line read by `decodeMappingLine`. -/
def decodeMappings (data : String) : Option (List LinuxIdMapping) :=
  (data.toList.splitOn '\n').dropLast.mapM decodeMappingLine

theorem data_toString_uInt32 (x : UInt32) : (toString x).data = Nat.toDigits 10 x.toNat := rfl

theorem decimalU32_toDigits (x : UInt32) : decimalU32 (Nat.toDigits 10 x.toNat) = some x := by
  have hlt : x.toNat < 2 ^ 32 := x.toNat_lt
  simp only [decimalU32, decimalValue_toDigits, Option.some_bind, if_pos hlt, Option.some.injEq]
  exact UInt32.toNat.inj (UInt32.toNat_ofNat_of_lt hlt)

/-- The characters of a mapping's line before its newline: three numerals, two spaces. -/
def lineChars (m : LinuxIdMapping) : List Char :=
  Nat.toDigits 10 m.containerId.toNat ++ ' ' ::
    (Nat.toDigits 10 m.hostId.toNat ++ ' ' :: Nat.toDigits 10 m.size.toNat)

theorem data_mappingLine (m : LinuxIdMapping) : (mappingLine m).data = lineChars m ++ ['\n'] := by
  simp [mappingLine, lineChars, data_toString_uInt32]

/-- A line splits at its two spaces into the three numerals. -/
theorem splitOn_lineChars (m : LinuxIdMapping) :
    (lineChars m).splitOn ' ' = [Nat.toDigits 10 m.containerId.toNat,
      Nat.toDigits 10 m.hostId.toNat, Nat.toDigits 10 m.size.toNat] := by
  have hsp : ∀ n, ' ' ∉ Nat.toDigits 10 n := not_mem_toDigits rfl
  rw [lineChars, splitOn_append_cons (hsp _), splitOn_append_cons (hsp _),
    splitOn_of_not_mem (hsp _)]

theorem newline_not_mem_lineChars (m : LinuxIdMapping) : '\n' ∉ lineChars m := by
  have hnl : ∀ n, '\n' ∉ Nat.toDigits 10 n := not_mem_toDigits rfl
  simp [lineChars, hnl]

-- ---------------------------------------------------------------------------
-- The system calls
-- ---------------------------------------------------------------------------

/-- `nix::errno::Errno`: its name, which `{:?}` prints, and its description. -/
structure Errno where
  name : String
  desc : String
deriving Repr, DecidableEq

/-- `{}` of an `Errno`, the text of the `anyhow` error `?` makes of it. -/
def Errno.display (e : Errno) : String := e.name ++ ": " ++ e.desc

/-- `OFlag::O_WRONLY`. -/
def oWronly : Nat := 1

/-- `Mode::empty()`. -/
def modeEmpty : Nat := 0

/-- A system call of `write_mappings`. -/
inductive Syscall where
  | openFile (path : String) (flags mode : Nat)
  | write (fd : Int) (data : String)
  | close (fd : Int)
deriving Repr, DecidableEq

/-- The outcome of each system call, given the calls before it: the descriptor `open`
returns, the byte count `write` returns, or the error. -/
structure SysWorld where
  openFile : List Syscall → String → Nat → Nat → Except Errno Int
  write : List Syscall → Int → String → Except Errno Nat
  close : List Syscall → Int → Except Errno Unit

/-- `r?` on a `nix` result. -/
def nixTry {σ α : Type} (r : Except Errno α) : Run σ α := Run.ofExcept (r.mapError Errno.display)

/-- `r.unwrap()` on a `nix` result. -/
def nixUnwrap {σ α : Type} (r : Except Errno α) : Run σ α :=
  Run.unwrap (Run.ofExcept (r.mapError Errno.name))

section Calls

variable (w : SysWorld)

/-- `fcntl::open(path, flags, mode)`. -/
def sysOpen (path : String) (flags mode : Nat) : Run (List Syscall) (Except Errno Int) :=
  fun tr => (.ok (w.openFile tr path flags mode), tr ++ [.openFile path flags mode])

/-- `unistd::write(fd, data.as_bytes())`. -/
def sysWrite (fd : Int) (data : String) : Run (List Syscall) (Except Errno Nat) :=
  fun tr => (.ok (w.write tr fd data), tr ++ [.write fd data])

/-- `unistd::close(fd)`. -/
def sysClose (fd : Int) : Run (List Syscall) (Except Errno Unit) :=
  fun tr => (.ok (w.close tr fd), tr ++ [.close fd])

/-- `write_mappings(logger, path, maps)`. The deferred `close(fd).unwrap()` runs when the
block is left, after the `write` whether that succeeded or not; the `write`'s `?` takes
effect after it. -/
def writeMappings (path : String) (maps : List LinuxIdMapping) : Run (List Syscall) Unit := do
  let data := mappingData maps
  if !data.isEmpty then
    let fd ← nixTry (← sysOpen w path oWronly modeEmpty)
    let written ← sysWrite w fd data
    nixUnwrap (← sysClose w fd)
    let _ ← nixTry written
  pure ()

end Calls

-- ---------------------------------------------------------------------------
-- The system calls made
-- ---------------------------------------------------------------------------

/-- `write_mappings` on every outcome of its three calls. -/
theorem writeMappings_apply (w : SysWorld) (path : String) (maps : List LinuxIdMapping)
    (tr : List Syscall) :
    writeMappings w path maps tr =
      if (mappingData maps).isEmpty then (.ok (), tr) else
      match w.openFile tr path oWronly modeEmpty with
      | .error e => (.err e.display, tr ++ [.openFile path oWronly modeEmpty])
      | .ok fd =>
        let tr₁ := tr ++ [.openFile path oWronly modeEmpty]
        (match w.close (tr₁ ++ [.write fd (mappingData maps)]) fd,
            w.write tr₁ fd (mappingData maps) with
          | .error e, _ => .panic ("called `Result::unwrap()` on an `Err` value: " ++ e.name)
          | .ok (), .error e => .err e.display
          | .ok (), .ok _ => .ok (),
          tr₁ ++ [.write fd (mappingData maps), .close fd]) := by
  cases h : (mappingData maps).isEmpty
  · cases ho : w.openFile tr path oWronly modeEmpty with
    | error e => simp [writeMappings, h, bind, Run.bind, sysOpen, ho, nixTry, Except.mapError]
    | ok fd =>
      cases hwr : w.write (tr ++ [.openFile path oWronly modeEmpty]) fd (mappingData maps) <;>
        cases hcl : w.close (tr ++ [.openFile path oWronly modeEmpty,
          .write fd (mappingData maps)]) fd <;>
        simp [writeMappings, h, bind, Run.bind, sysOpen, sysWrite, sysClose, ho, hwr, hcl, nixTry,
          nixUnwrap, Except.mapError, Run.unwrap]
  · simp [writeMappings, h]

/-- **The system calls of `write_mappings`.** With an empty text nothing is called and the
result is `Ok`. Otherwise, for every outcome of the three calls: the map file is opened
once, write-only; after a successful `open` the whole text is written with one `write` and
the descriptor is closed once, and after a failed one nothing else is called; the result is
`Ok` exactly when the `open`, the `write` and the `close` succeed, whatever byte count the
`write` returned; it is an error exactly when the `open` fails, or the `write` fails and the
`close` succeeds; and it is a panic exactly when the `close` fails. -/
theorem writeMappings_syscalls (w : SysWorld) (path : String) (maps : List LinuxIdMapping)
    (tr : List Syscall) :
    let data := mappingData maps
    let r := writeMappings w path maps tr
    let o := Syscall.openFile path oWronly modeEmpty
    let tr₁ := tr ++ [o]
    (data.isEmpty = true → r = (.ok (), tr)) ∧
    (data.isEmpty = false →
      r.2 = tr ++ o :: (match w.openFile tr path oWronly modeEmpty with
        | .error _ => []
        | .ok fd => [.write fd data, .close fd]) ∧
      (r.1 = .ok () ↔ ∃ fd n, w.openFile tr path oWronly modeEmpty = .ok fd ∧
        w.write tr₁ fd data = .ok n ∧ w.close (tr₁ ++ [.write fd data]) fd = .ok ()) ∧
      (∀ err, r.1 = .err err ↔ ∃ e, err = e.display ∧
        (w.openFile tr path oWronly modeEmpty = .error e ∨
          ∃ fd, w.openFile tr path oWronly modeEmpty = .ok fd ∧ w.write tr₁ fd data = .error e ∧
            w.close (tr₁ ++ [.write fd data]) fd = .ok ())) ∧
      (∀ msg, r.1 = .panic msg ↔ ∃ fd e, w.openFile tr path oWronly modeEmpty = .ok fd ∧
        w.close (tr₁ ++ [.write fd data]) fd = .error e ∧
        msg = "called `Result::unwrap()` on an `Err` value: " ++ e.name)) := by
  dsimp only
  refine ⟨fun h => by simp [writeMappings_apply, h], fun h => ?_⟩
  simp only [writeMappings_apply, h, Bool.false_eq_true, if_false]
  cases ho : w.openFile tr path oWronly modeEmpty with
  | error e => simp [eq_comm]
  | ok fd =>
    cases hwr : w.write (tr ++ [.openFile path oWronly modeEmpty]) fd (mappingData maps) <;>
      cases hcl : w.close (tr ++ [.openFile path oWronly modeEmpty, .write fd (mappingData maps)]) fd <;>
      simp [hwr, hcl, eq_comm]

/-- A non-empty text; a world whose `write` reports one byte written, and one whose `close`
fails with `EIO`: the first call returns `Ok`, the second panics. -/
theorem writeMappings_short_write_ok_close_panics :
    let maps : List LinuxIdMapping := [⟨0, 1000, 1⟩]
    let short : SysWorld := ⟨fun _ _ _ _ => .ok 3, fun _ _ _ => .ok 1, fun _ _ => .ok ()⟩
    let badClose : SysWorld := ⟨fun _ _ _ _ => .ok 3, fun _ _ d => .ok d.utf8ByteSize,
      fun _ _ => .error ⟨"EIO", "I/O error"⟩⟩
    1 < (mappingData maps).utf8ByteSize ∧
    (writeMappings short "/proc/1/uid_map" maps []).1 = .ok () ∧
    (writeMappings badClose "/proc/1/uid_map" maps []).1 =
      .panic "called `Result::unwrap()` on an `Err` value: EIO" :=
  ⟨by decide, rfl, rfl⟩

/-- The deferred `close(fd).unwrap()` of `write_mappings` panics: the text is not empty,
the `open` gave a descriptor, and its `close`, after the `write`, failed with the `Errno`
whose name the message shows. -/
def ClosePanics (w : SysWorld) (path : String) (maps : List LinuxIdMapping) (tr : List Syscall)
    (msg : String) : Prop :=
  (mappingData maps).isEmpty = false ∧ ∃ fd e, w.openFile tr path oWronly modeEmpty = .ok fd ∧
    w.close (tr ++ [.openFile path oWronly modeEmpty, .write fd (mappingData maps)]) fd =
      .error e ∧ msg = "called `Result::unwrap()` on an `Err` value: " ++ e.name

/-- `write_mappings` panics exactly when its `close` fails. -/
theorem writeMappings_eq_panic (w : SysWorld) (path : String) (maps : List LinuxIdMapping)
    (tr : List Syscall) (msg : String) :
    (writeMappings w path maps tr).1 = .panic msg ↔ ClosePanics w path maps tr msg := by
  rw [writeMappings_apply, ClosePanics]
  cases (mappingData maps).isEmpty
  · cases w.openFile tr path oWronly modeEmpty with
    | error e => simp
    | ok fd =>
      cases hwr : w.write (tr ++ [.openFile path oWronly modeEmpty]) fd (mappingData maps) <;>
        cases hcl : w.close (tr ++ [.openFile path oWronly modeEmpty, .write fd (mappingData maps)]) fd <;>
        simp [hwr, hcl, eq_comm]
  · simp

-- ---------------------------------------------------------------------------
-- The text decodes back
-- ---------------------------------------------------------------------------

/-- The text, as characters: each line's characters, then its newline. -/
theorem data_mappingData (maps : List LinuxIdMapping) :
    (mappingData maps).data =
      (((maps.filter fun m => m.size != 0).map lineChars).map (· ++ ['\n'])).flatten := by
  simp [mappingData, List.map_map, Function.comp_def, data_mappingLine]

theorem mappingData_isEmpty (maps : List LinuxIdMapping) :
    (mappingData maps).isEmpty = true ↔ ∀ m ∈ maps, m.size = 0 := by
  rw [String.isEmpty_iff, String.ext_iff, data_mappingData]
  simp only [List.flatten_eq_nil_iff, List.forall_mem_map, List.append_eq_nil, List.cons_ne_nil,
    and_false, List.mem_filter, and_imp, bne_iff_ne, ne_eq, imp_false, not_and, not_not]

theorem decodeMappingLine_lineChars (m : LinuxIdMapping) :
    decodeMappingLine (lineChars m) = some m := by
  simp only [decodeMappingLine, splitOn_lineChars, decimalU32_toDigits]
  rfl

theorem mapM_decodeMappingLine (l : List LinuxIdMapping) :
    (l.map lineChars).mapM decodeMappingLine = some l := by
  induction l with
  | nil => rfl
  | cons m l ih =>
    rw [List.map_cons, List.mapM_cons, decodeMappingLine_lineChars, ih]
    rfl

/-- **The text decodes back.** For every list of mappings, the text `write_mappings`
composes reads back, line by line, as the mappings of non-zero size in their order; and it
is empty exactly when every size is 0, and then no system call is made. -/
theorem decodeMappings_mappingData (maps : List LinuxIdMapping) :
    decodeMappings (mappingData maps) = some (maps.filter fun m => m.size != 0) ∧
    ((mappingData maps).isEmpty = true ↔ ∀ m ∈ maps, m.size = 0) ∧
    ∀ w path tr, (writeMappings w path maps tr).2 = tr ↔ ∀ m ∈ maps, m.size = 0 := by
  refine ⟨?_, mappingData_isEmpty maps, fun w path tr => ?_⟩
  · rw [decodeMappings, String.toList, data_mappingData,
      splitOn_flatten_terminated fun l hl => ?_, List.dropLast_concat, mapM_decodeMappingLine]
    obtain ⟨m, -, rfl⟩ := List.mem_map.mp hl
    exact newline_not_mem_lineChars m
  · rw [← mappingData_isEmpty, writeMappings_apply]
    cases h : (mappingData maps).isEmpty
    · cases w.openFile tr path oWronly modeEmpty <;> simp
    · simp

end Runcell
