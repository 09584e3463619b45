import Runcell.Core.Text

/-!
# Runcell — `is_mounted` and the text of `/proc/mounts`

`is_mounted(path)` of `storage/src/mount.rs` reads `/proc/mounts`, splits it into lines with
`str::lines`, each line into fields with `str::split_whitespace`, and answers whether some
line has `path` as its second field. The kernel writes one line per mount,
`device mount-point type options 0 0`, with space, tab, line feed and backslash inside a
field written as the octal escapes `\040`, `\011`, `\012`, `\134`.

`is_mounted` compares `path` with the field as written, escapes and all, and never undoes
them. So it answers for the escaped mount point: a mount point with one of the four
characters is not found under its own name, and its escaped spelling is found although no
such path is mounted. Rust's `split_whitespace` also splits at whitespace the kernel does not
escape (`\r`, U+00A0, …), which `oneWord` rules out for the fields before the mount point.

Main results:

* `lines_procMounts` — `str::lines` gives back the lines the kernel wrote.
* `isMounted_procMounts` — `is_mounted(path)` is whether `path` is the escaped mount point of
  a mount; for a path free of the four characters, whether it is a mount point.
-/

namespace Runcell

-- ---------------------------------------------------------------------------
-- Rust's text functions
-- ---------------------------------------------------------------------------

/-- `char::is_whitespace`: Unicode's `White_Space`. -/
def isRustWhitespace (c : Char) : Bool :=
  c = ' ' || (0x09 ≤ c.toNat && c.toNat ≤ 0x0d) || c.toNat = 0x85 || c.toNat = 0xa0 ||
    c.toNat = 0x1680 || (0x2000 ≤ c.toNat && c.toNat ≤ 0x200a) || c.toNat = 0x2028 ||
    c.toNat = 0x2029 || c.toNat = 0x202f || c.toNat = 0x205f || c.toNat = 0x3000

/-- `s.split_whitespace()`: `s.split(char::is_whitespace)` without the empty pieces. -/
def splitWhitespace (s : List Char) : List (List Char) :=
  (s.splitOnP isRustWhitespace).filter fun p => !p.isEmpty

/-- A line that a `\n` ends loses a `\r` before it. -/
def stripCr (l : List Char) : List Char := if l.getLast? = some '\r' then l.dropLast else l

/-- `s.lines()`: the pieces between line feeds, each without a `\r` before its line feed,
and no empty piece after a final line feed. -/
def lines (s : List Char) : List (List Char) :=
  let ps := s.splitOn '\n'
  ps.dropLast.map stripCr ++
    match ps.getLast? with
    | some [] => []
    | some p => [p]
    | none => []

/-- `is_mounted(path)`, given what reading `/proc/mounts` returned. -/
def isMounted (mounts : Except String String) (path : String) : Except String Bool := do
  let mounts ← match mounts with
    | .ok s => pure s
    | .error _ => throw "Failed to read /proc/mounts"
  pure <| (lines mounts.data).any fun line =>
    let parts := splitWhitespace line
    decide (parts.length ≥ 2) && parts.getD 1 [] == path.data

-- ---------------------------------------------------------------------------
-- The kernel's text
-- ---------------------------------------------------------------------------

/-- The escape the kernel writes for a character of a field of `/proc/mounts`: `mangle` and
`seq_path` of `show_vfsmnt` (`fs/proc_namespace.c`, not in the repository's sources) escape
space, tab, line feed and backslash as three octal digits. -/
def mangleChar (c : Char) : List Char :=
  if c = ' ' then "\\040".data
  else if c = '\t' then "\\011".data
  else if c = '\n' then "\\012".data
  else if c = '\\' then "\\134".data
  else [c]

/-- A field as the kernel writes it. -/
def mangle (s : String) : List Char := s.data.flatMap mangleChar

/-- A mount as `/proc/mounts` shows it: the fields `show_vfsmnt` writes. -/
structure ProcMount where
  device : String
  mountPoint : String
  fstype : String
  options : String
deriving Repr, DecidableEq

/-- The line `show_vfsmnt` writes for a mount, without its line feed: the four fields,
escaped, then `0 0`. -/
def mountLine (e : ProcMount) : List Char :=
  mangle e.device ++ ' ' :: (mangle e.mountPoint ++ ' ' :: (mangle e.fstype ++ ' ' ::
    (mangle e.options ++ " 0 0".data)))

/-- The text of `/proc/mounts` for a mount table: one line per mount. -/
def procMounts (table : List ProcMount) : String :=
  ⟨(table.map fun e => mountLine e ++ ['\n']).flatten⟩

/-- A field the kernel writes as one word: not empty, and with no whitespace but what it
escapes. -/
def oneWord (s : String) : Bool :=
  !s.isEmpty && s.data.all fun c => !isRustWhitespace c || c = ' ' || c = '\t' || c = '\n'

/-- A character the kernel writes as it is. -/
def plainChar (c : Char) : Bool := !(c = ' ' || c = '\t' || c = '\n' || c = '\\')

/-- A path with none of the characters the kernel escapes. -/
def plainPath (s : String) : Bool := s.data.all plainChar

-- ---------------------------------------------------------------------------
-- Escapes
-- ---------------------------------------------------------------------------

theorem mangleChar_of_plain {c : Char} (h : plainChar c = true) : mangleChar c = [c] := by
  simp only [plainChar, Bool.not_eq_true', Bool.or_eq_false_iff, decide_eq_false_iff_not] at h
  simp [mangleChar, h]

theorem mangleChar_of_not_plain {c : Char} (h : plainChar c = false) :
    ∃ r, mangleChar c = '\\' :: r := by
  simp only [plainChar, Bool.not_eq_false', Bool.or_eq_true, decide_eq_true_eq] at h
  unfold mangleChar
  rcases h with ((rfl | rfl) | rfl) | rfl <;> exact ⟨_, rfl⟩

/-- What the kernel writes for a field: its plain characters, and the characters of the
escapes. -/
theorem mem_mangle {s : String} {x : Char} (hx : x ∈ mangle s) :
    x ∈ s.data ∧ plainChar x = true ∨ x ∈ ['\\', '0', '1', '2', '3', '4'] := by
  obtain ⟨c, hc, hxc⟩ := List.mem_flatMap.mp hx
  cases hp : plainChar c
  · have hsub : ∀ y ∈ mangleChar c, y ∈ ['\\', '0', '1', '2', '3', '4'] := by
      unfold mangleChar
      split_ifs <;> first | decide | simp_all [plainChar]
    exact .inr (hsub x hxc)
  · rw [mangleChar_of_plain hp, List.mem_singleton] at hxc
    exact .inl ⟨hxc ▸ hc, hxc ▸ hp⟩

theorem newline_not_mem_mangle (s : String) : '\n' ∉ mangle s := fun h => by
  rcases mem_mangle h with ⟨-, hp⟩ | he
  · exact absurd hp (by decide)
  · exact absurd he (by decide)

/-- A one-word field is written without whitespace. -/
theorem whitespace_not_mem_mangle {s : String} (hs : oneWord s = true) {x : Char}
    (hx : x ∈ mangle s) : isRustWhitespace x = false := by
  rcases mem_mangle hx with ⟨hc, hp⟩ | he
  · simp only [oneWord, Bool.and_eq_true, List.all_eq_true] at hs
    have := hs.2 x hc
    simp only [plainChar, Bool.not_eq_true', Bool.or_eq_false_iff, decide_eq_false_iff_not] at hp
    simp_all
  · simp only [List.mem_cons, List.mem_singleton, List.not_mem_nil, or_false] at he
    rcases he with rfl | rfl | rfl | rfl | rfl | rfl <;> rfl

theorem mangle_ne_nil {s : String} (hs : s ≠ "") : mangle s ≠ [] := by
  obtain ⟨c, cs, hcs⟩ := List.exists_cons_of_ne_nil (fun h => hs (String.ext h))
  simp only [mangle, hcs, List.flatMap_cons, ne_eq, List.append_eq_nil, not_and]
  intro h
  unfold mangleChar at h
  split_ifs at h

theorem flatMap_mangleChar_eq (cs : List Char) {ps : List Char} (hp : ps.all plainChar) :
    cs.flatMap mangleChar = ps ↔ cs = ps := by
  induction cs generalizing ps with
  | nil => simp [eq_comm]
  | cons c cs ih =>
    cases hc : plainChar c
    · obtain ⟨r, hr⟩ := mangleChar_of_not_plain hc
      simp only [List.flatMap_cons, hr, List.cons_append]
      constructor <;> rintro rfl <;> simp_all [plainChar]
    · cases ps with
      | nil => simp [mangleChar_of_plain hc]
      | cons p ps =>
        simp only [List.all_cons, Bool.and_eq_true] at hp
        simp [mangleChar_of_plain hc, ih hp.2]

/-- A plain path is written as it is, and only a plain field is written as a plain path. -/
theorem mangle_eq_data {s path : String} (hp : plainPath path = true) :
    mangle s = path.data ↔ s = path := by
  rw [mangle, flatMap_mangleChar_eq _ hp]
  exact ⟨String.ext, congrArg String.data⟩

-- ---------------------------------------------------------------------------
-- Lines and fields
-- ---------------------------------------------------------------------------

theorem newline_not_mem_mountLine (e : ProcMount) : '\n' ∉ mountLine e := by
  simp only [mountLine, List.mem_append, List.mem_cons, newline_not_mem_mangle, false_or,
    or_false]
  decide

theorem stripCr_mountLine (e : ProcMount) : stripCr (mountLine e) = mountLine e := by
  have : (mountLine e).getLast? = some '0' := by
    simp [mountLine, List.getLast?_append, List.getLast?_cons]
  simp [stripCr, this]

/-- **The lines of `/proc/mounts`.** -/
theorem lines_procMounts (table : List ProcMount) :
    lines (procMounts table).data = table.map mountLine := by
  have h := splitOn_flatten_terminated (c := '\n') (L := table.map mountLine)
    (by simpa using fun e _ => newline_not_mem_mountLine e)
  simp only [List.map_map] at h
  simp only [lines, procMounts, Function.comp_def] at h ⊢
  rw [h]
  simp [List.map_map, Function.comp_def, stripCr_mountLine]

/-- The first two fields of a line whose device and mount point are one word each. -/
theorem splitWhitespace_mountLine (e : ProcMount) (hd : oneWord e.device = true)
    (hm : oneWord e.mountPoint = true) :
    ∃ rest, splitWhitespace (mountLine e) = mangle e.device :: mangle e.mountPoint :: rest := by
  have hne : ∀ {s : String}, oneWord s = true → s ≠ "" := fun hs he => by
    subst he
    exact absurd hs (by decide)
  have hsep : isRustWhitespace ' ' = true := rfl
  unfold splitWhitespace mountLine
  rw [List.splitOnP_first _ _ (fun x hx => by simp [whitespace_not_mem_mangle hd hx]) _ hsep,
    List.splitOnP_first _ _ (fun x hx => by simp [whitespace_not_mem_mangle hm hx]) _ hsep]
  simp [List.filter_cons, List.isEmpty_iff, mangle_ne_nil (hne hd), mangle_ne_nil (hne hm)]

-- ---------------------------------------------------------------------------
-- `is_mounted`
-- ---------------------------------------------------------------------------

/-- **`is_mounted` against `/proc/mounts`.** For a mount table whose devices and mount
points are each written as one word, `is_mounted(path)` is whether `path` is the escaped
mount point of some mount; for a path with no space, tab, line feed or backslash, whether it
is the mount point of some mount. -/
theorem isMounted_procMounts (table : List ProcMount) (path : String)
    (h : ∀ e ∈ table, oneWord e.device = true ∧ oneWord e.mountPoint = true) :
    isMounted (.ok (procMounts table)) path =
        .ok (table.any fun e => mangle e.mountPoint == path.data) ∧
      (plainPath path = true →
        (isMounted (.ok (procMounts table)) path = .ok true ↔ ∃ e ∈ table, e.mountPoint = path)) := by
  have heq : isMounted (.ok (procMounts table)) path =
      .ok (table.any fun e => mangle e.mountPoint == path.data) := by
    show Except.ok ((lines (procMounts table).data).any _) = _
    rw [lines_procMounts]
    congr 1
    induction table with
    | nil => rfl
    | cons e es ih =>
      simp only [List.mem_cons, forall_eq_or_imp] at h
      obtain ⟨rest, hr⟩ := splitWhitespace_mountLine e h.1.1 h.1.2
      simp [hr, ← ih h.2]
  refine ⟨heq, fun hp => ?_⟩
  rw [heq]
  simp [mangle_eq_data hp]

/-- A mount table with a space in a mount point is one `isMounted_procMounts` covers. -/
theorem isMounted_procMounts_disk :
    let table : List ProcMount := [⟨"/dev/sda1", "/mnt/my disk", "ext4", "rw"⟩]
    (∀ e ∈ table, oneWord e.device = true ∧ oneWord e.mountPoint = true) ∧
      isMounted (.ok (procMounts table)) "/mnt/my\\040disk" =
        .ok (table.any fun e => mangle e.mountPoint == "/mnt/my\\040disk".data) ∧
      (plainPath "/mnt/my\\040disk" = true →
        (isMounted (.ok (procMounts table)) "/mnt/my\\040disk" = .ok true ↔
          ∃ e ∈ table, e.mountPoint = "/mnt/my\\040disk")) :=
  have h : ∀ e ∈ [(⟨"/dev/sda1", "/mnt/my disk", "ext4", "rw"⟩ : ProcMount)],
      oneWord e.device = true ∧ oneWord e.mountPoint = true := by decide
  ⟨h, isMounted_procMounts _ "/mnt/my\\040disk" h⟩

/-- `/mnt/my disk` is mounted, and `is_mounted("/mnt/my disk")` returns `false`, while
`is_mounted("/mnt/my\\040disk")` returns `true`. -/
theorem isMounted_space_in_mount_point :
    let table : List ProcMount := [⟨"/dev/sda1", "/mnt/my disk", "ext4", "rw"⟩]
    isMounted (.ok (procMounts table)) "/mnt/my disk" = .ok false ∧
      isMounted (.ok (procMounts table)) "/mnt/my\\040disk" = .ok true :=
  ⟨rfl, rfl⟩

end Runcell
