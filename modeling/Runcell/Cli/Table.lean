import Runcell.Core.Text
import Runcell.Cli.ContainerCmd

/-!
# Runcell — the table of `list_containers`

The text branch of `list_containers` prints a header and one line per row, cutting an id
longer than 18 bytes to `&id[..18]` and a rootfs longer than 40 bytes to
`"..." + &rootfs[len - 37..]`. Rust measures and slices a `str` in bytes of its UTF-8 text,
and a slice whose end falls inside a character panics (`str::slice_error_fail`). The
output is the state of `Run`, so a panic leaves the lines printed before it.

Byte slicing is modelled on the characters: `takeBytes cs n` is the characters that lie
within the first `n` bytes, and `n` is a character boundary when they fill them exactly.

Main results:

* `printRow_spec` — a row panics exactly when one of its two cuts falls inside a character;
  otherwise its id is printed as a prefix of the id of at most 18 characters, and its
  rootfs as the rootfs or `...` and a suffix of it, of at most 40 characters.
* `printTable_spec` — the table is printed without a panic exactly when every row is safe.
* `printTable_id_inside_char` — an id of 17 ASCII letters and an `é` panics.
-/

namespace Runcell

open String (utf8Len)

-- ---------------------------------------------------------------------------
-- Byte slicing of `str`
-- ---------------------------------------------------------------------------

/-- The characters of `cs` that lie within its first `n` bytes. -/
def takeBytes : List Char → Nat → List Char
  | [], _ => []
  | c :: cs, n => if c.utf8Size ≤ n then c :: takeBytes cs (n - c.utf8Size) else []

/-- `s.is_char_boundary(n)`: a character starts at byte `n`, or the text ends there. -/
def isCharBoundary (cs : List Char) (n : Nat) : Bool := utf8Len (takeBytes cs n) == n

/-- The message of `str::slice_error_fail` for the index `index` of `cs`, where `index` is
out of bounds or inside a character, in the wording of the older `std` releases; newer ones
say `end byte index` and put the string inside the parentheses. The repository pins no
toolchain. -/
def sliceErrorMessage (cs : List Char) (index : Nat) : String :=
  let trunc := takeBytes cs 256
  let quoted := "`" ++ String.mk trunc ++ "`" ++
    if utf8Len trunc < utf8Len cs then "[...]" else ""
  let before := takeBytes cs index
  match decide (utf8Len cs < index), cs.drop before.length with
  | false, ch :: _ =>
    "byte index " ++ toString index ++ " is not a char boundary; it is inside \x27" ++
      ch.toString ++ "\x27 (bytes " ++ toString (utf8Len before) ++ ".." ++
      toString (utf8Len before + ch.utf8Size) ++ ") of " ++ quoted
  | _, _ => "byte index " ++ toString index ++ " is out of bounds of " ++ quoted

section Slicing

variable {σ : Type}

/-- `&s[..n]`. -/
def sliceTo (s : String) (n : Nat) : Run σ String := fun st =>
  if isCharBoundary s.data n then (.ok ⟨takeBytes s.data n⟩, st)
  else (.panic (sliceErrorMessage s.data n), st)

/-- `&s[n..]`. -/
def sliceFrom (s : String) (n : Nat) : Run σ String := fun st =>
  if isCharBoundary s.data n then (.ok ⟨s.data.drop (takeBytes s.data n).length⟩, st)
  else (.panic (sliceErrorMessage s.data n), st)

end Slicing

-- ---------------------------------------------------------------------------
-- The table
-- ---------------------------------------------------------------------------

/-- `format!("{:<w}", s)`: `s` and spaces up to `w` characters. -/
def padRight (w : Nat) (s : String) : String := s ++ String.mk (List.replicate (w - s.length) ' ')

/-- `format!("{:<20} {:<8} {:<10} {:<20} {}", ..)`. -/
def tableLine (id pid status created rootfs : String) : String :=
  padRight 20 id ++ " " ++ padRight 8 pid ++ " " ++ padRight 10 status ++ " " ++
    padRight 20 created ++ " " ++ rootfs

/-- `println!(..)`: standard output is the list of lines printed. -/
def println (line : String) : Run (List String) Unit := Run.modify (· ++ [line])

/-- `id_display`: `if id.len() > 18 { &id[..18] } else { id }`. -/
def idDisplay (id : String) : Run (List String) String :=
  if id.utf8ByteSize > 18 then sliceTo id 18 else pure id

/-- `rootfs_display`: `if rootfs.len() > 40 { format!("...{}", &rootfs[rootfs.len() - 37..]) }
else { rootfs.clone() }`. -/
def rootfsDisplay (rootfs : String) : Run (List String) String :=
  if rootfs.utf8ByteSize > 40 then do
    let tail ← sliceFrom rootfs (rootfs.utf8ByteSize - 37)
    pure ("..." ++ tail)
  else pure rootfs

/-- One round of the loop over the rows. -/
def printRow (row : ContainerRow) : Run (List String) Unit := do
  let idDisplay ← idDisplay row.id
  let rootfsDisplay ← rootfsDisplay row.rootfs
  println (tableLine idDisplay (toString row.pid) row.status row.created rootfsDisplay)

/-- `for (id, pid, status, created, rootfs) in &containers { .. }`. -/
def printRows : List ContainerRow → Run (List String) Unit
  | [] => pure ()
  | row :: rows => do
    printRow row
    printRows rows

/-- The text branch of `list_containers`, after the rows are collected. -/
def printTable (rows : List ContainerRow) : Run (List String) Unit := do
  println (tableLine "CONTAINER ID" "PID" "STATUS" "CREATED" "ROOTFS")
  printRows rows

/-- A row both of whose cuts fall on character boundaries. -/
def rowSafe (row : ContainerRow) : Bool :=
  (row.id.utf8ByteSize ≤ 18 || isCharBoundary row.id.data 18) &&
    (row.rootfs.utf8ByteSize ≤ 40 ||
      isCharBoundary row.rootfs.data (row.rootfs.utf8ByteSize - 37))

-- ---------------------------------------------------------------------------
-- Prefixes in bytes
-- ---------------------------------------------------------------------------

theorem isPrefix_takeBytes (cs : List Char) (n : Nat) : takeBytes cs n <+: cs := by
  induction cs generalizing n with
  | nil => exact List.nil_prefix
  | cons c cs ih =>
    unfold takeBytes
    split
    · obtain ⟨t, ht⟩ := ih (n - c.utf8Size)
      exact ⟨t, by rw [List.cons_append, ht]⟩
    · exact List.nil_prefix

theorem utf8Len_takeBytes_le (cs : List Char) (n : Nat) : utf8Len (takeBytes cs n) ≤ n := by
  induction cs generalizing n with
  | nil => simp [takeBytes]
  | cons c cs ih =>
    unfold takeBytes
    split
    · have := ih (n - c.utf8Size)
      simp only [String.utf8Len_cons]
      omega
    · simp

theorem length_le_utf8Len (cs : List Char) : cs.length ≤ utf8Len cs := by
  induction cs with
  | nil => rfl
  | cons c cs ih =>
    have := Char.utf8Size_pos c
    simp only [List.length_cons, String.utf8Len_cons]
    omega

theorem utf8Len_drop_takeBytes (cs : List Char) (n : Nat) :
    utf8Len (cs.drop (takeBytes cs n).length) = utf8Len cs - utf8Len (takeBytes cs n) := by
  have hk := List.prefix_iff_eq_take.mp (isPrefix_takeBytes cs n)
  have := congrArg utf8Len (List.take_append_drop (takeBytes cs n).length cs)
  rw [String.utf8Len_append, ← hk] at this
  omega

-- ---------------------------------------------------------------------------
-- One row
-- ---------------------------------------------------------------------------

theorem sliceTo_apply {σ : Type} (s : String) (n : Nat) (st : σ) :
    sliceTo s n st = if isCharBoundary s.data n then (.ok ⟨takeBytes s.data n⟩, st)
      else (.panic (sliceErrorMessage s.data n), st) := rfl

theorem sliceFrom_apply {σ : Type} (s : String) (n : Nat) (st : σ) :
    sliceFrom s n st = if isCharBoundary s.data n then
        (.ok ⟨s.data.drop (takeBytes s.data n).length⟩, st)
      else (.panic (sliceErrorMessage s.data n), st) := rfl

/-- `id_display`, when it is computed: a prefix of the id of at most 18 characters. -/
theorem idDisplay_bounds {id : String}
    (h : id.utf8ByteSize ≤ 18 ∨ isCharBoundary id.data 18 = true) :
    ∃ d : String, idDisplay id = pure d ∧ d.data <+: id.data ∧ d.length ≤ 18 := by
  by_cases hl : id.utf8ByteSize > 18
  · have hb : isCharBoundary id.data 18 = true := h.resolve_left (by omega)
    refine ⟨⟨takeBytes id.data 18⟩, ?_, isPrefix_takeBytes _ _, ?_⟩
    · funext st
      simp [idDisplay, hl, sliceTo_apply, hb]
    · have := length_le_utf8Len (takeBytes id.data 18)
      have := utf8Len_takeBytes_le id.data 18
      simp only [String.length]
      omega
  · refine ⟨id, by simp [idDisplay, hl], List.prefix_refl _, ?_⟩
    have := length_le_utf8Len id.data
    have : id.utf8ByteSize = utf8Len id.data := rfl
    simp only [String.length]
    omega

/-- `rootfs_display`, when it is computed: the rootfs or `...` and a suffix of it, of at
most 40 characters. -/
theorem rootfsDisplay_bounds {rootfs : String}
    (h : rootfs.utf8ByteSize ≤ 40 ∨
      isCharBoundary rootfs.data (rootfs.utf8ByteSize - 37) = true) :
    ∃ d : String, rootfsDisplay rootfs = pure d ∧
      (d = rootfs ∨ ∃ t : String, d = "..." ++ t ∧ t.data <:+ rootfs.data) ∧ d.length ≤ 40 := by
  have hsize : rootfs.utf8ByteSize = utf8Len rootfs.data := rfl
  by_cases hl : rootfs.utf8ByteSize > 40
  · have hb := h.resolve_left (by omega)
    let t : List Char := rootfs.data.drop (takeBytes rootfs.data (rootfs.utf8ByteSize - 37)).length
    refine ⟨"..." ++ ⟨t⟩, ?_, .inr ⟨⟨t⟩, rfl, List.drop_suffix _ _⟩, ?_⟩
    · funext st
      simp [rootfsDisplay, hl, sliceFrom_apply, hb, Run.bind_apply, t]
    · have hlen := length_le_utf8Len t
      have hdrop : utf8Len t = _ := utf8Len_drop_takeBytes rootfs.data (rootfs.utf8ByteSize - 37)
      have hbound : utf8Len (takeBytes rootfs.data (rootfs.utf8ByteSize - 37)) =
          rootfs.utf8ByteSize - 37 := by simpa [isCharBoundary] using hb
      have : ("..." ++ (⟨t⟩ : String)).length = t.length + 3 := by
        simp [String.length, String.append]
      omega
  · refine ⟨rootfs, by simp [rootfsDisplay, hl], .inl rfl, ?_⟩
    have := length_le_utf8Len rootfs.data
    simp only [String.length]
    omega

/-- A safe row prints one line, with a prefix of the id of at most 18 characters and the
rootfs or `...` and a suffix of it, of at most 40 characters. -/
theorem printRow_of_safe {row : ContainerRow} (hs : rowSafe row = true) (out : List String) :
    ∃ idD rootfsD : String,
      printRow row out = (.ok (), out ++
        [tableLine idD (toString row.pid) row.status row.created rootfsD]) ∧
      idD.data <+: row.id.data ∧ idD.length ≤ 18 ∧
      (rootfsD = row.rootfs ∨ ∃ t : String, rootfsD = "..." ++ t ∧ t.data <:+ row.rootfs.data) ∧
      rootfsD.length ≤ 40 := by
  simp only [rowSafe, Bool.and_eq_true, Bool.or_eq_true, decide_eq_true_eq] at hs
  obtain ⟨idD, hid, hpre, hidl⟩ := idDisplay_bounds hs.1
  obtain ⟨rootfsD, hrf, hsuf, hrfl⟩ := rootfsDisplay_bounds hs.2
  refine ⟨idD, rootfsD, ?_, hpre, hidl, hsuf, hrfl⟩
  simp only [printRow, hid, hrf, Run.pure_bind, println, Run.modify_apply]

/-- A row with a cut inside a character panics before it prints anything. -/
theorem printRow_of_unsafe {row : ContainerRow} (hs : rowSafe row = false) (out : List String) :
    ∃ m, printRow row out = (.panic m, out) := by
  simp only [rowSafe, Bool.and_eq_false_iff, Bool.or_eq_false_iff, decide_eq_false_iff_not,
    not_le] at hs
  by_cases hid : row.id.utf8ByteSize ≤ 18 ∨ isCharBoundary row.id.data 18 = true
  · obtain ⟨idD, hidD, -⟩ := idDisplay_bounds hid
    rcases hs with ⟨hl, hb⟩ | ⟨hl, hb⟩
    · exact absurd hid (by simp [hb]; omega)
    · exact ⟨sliceErrorMessage row.rootfs.data (row.rootfs.utf8ByteSize - 37),
        by simp [printRow, hidD, rootfsDisplay, Run.bind_apply, hl, sliceFrom_apply, hb]⟩
  · simp only [not_or, not_le, Bool.not_eq_true] at hid
    exact ⟨sliceErrorMessage row.id.data 18,
      by simp [printRow, idDisplay, Run.bind_apply, hid.1, sliceTo_apply, hid.2]⟩

/-- **One row of the table.** It panics exactly when a cut falls inside a character; when
it does not, it prints one line, with a prefix of the id of at most 18 characters and the
rootfs or `...` and a suffix of it, of at most 40 characters. -/
theorem printRow_spec (row : ContainerRow) (out : List String) :
    ((∃ m, (printRow row out).1 = .panic m) ↔ rowSafe row = false) ∧
      (rowSafe row = true → ∃ idD rootfsD : String,
        printRow row out = (.ok (), out ++
          [tableLine idD (toString row.pid) row.status row.created rootfsD]) ∧
        idD.data <+: row.id.data ∧ idD.length ≤ 18 ∧
        (rootfsD = row.rootfs ∨ ∃ t : String, rootfsD = "..." ++ t ∧ t.data <:+ row.rootfs.data) ∧
        rootfsD.length ≤ 40) := by
  refine ⟨⟨fun ⟨m, hm⟩ => ?_, fun hs => ?_⟩, fun hs => printRow_of_safe hs out⟩
  · cases hs : rowSafe row
    · rfl
    · obtain ⟨_, _, he, -⟩ := printRow_of_safe hs out
      simp [he] at hm
  · obtain ⟨m, hm⟩ := printRow_of_unsafe hs out
    exact ⟨m, by rw [hm]⟩

-- ---------------------------------------------------------------------------
-- The whole table
-- ---------------------------------------------------------------------------

/-- The rows in order: all printed when every row is safe, and otherwise a panic at the
first row that is not. -/
theorem printRows_outcome (rows : List ContainerRow) (out : List String) :
    (rows.all rowSafe = true ∧ ∃ out', printRows rows out = (.ok (), out')) ∨
      (rows.all rowSafe = false ∧ ∃ m out', printRows rows out = (.panic m, out')) := by
  induction rows generalizing out with
  | nil => exact .inl ⟨rfl, out, rfl⟩
  | cons row rows ih =>
    simp only [printRows, Run.bind_apply, List.all_cons]
    cases hs : rowSafe row
    · obtain ⟨m, hm⟩ := printRow_of_unsafe hs out
      exact .inr ⟨rfl, m, out, by rw [hm]⟩
    · obtain ⟨_, _, he, -⟩ := printRow_of_safe hs out
      simpa only [he, Bool.true_and] using ih _

/-- An id of 17 ASCII letters and an `é` is 19 bytes long, and byte 18 falls inside the
`é`: printing the table panics after the header. -/
theorem printTable_id_inside_char :
    printTable [⟨"aaaaaaaaaaaaaaaaaé", 4242, "Running", "2025-01-01 00:00:00", "/r"⟩] [] =
      (.panic ("byte index 18 is not a char boundary; it is inside \x27é\x27 (bytes 17..19) of " ++
          "`aaaaaaaaaaaaaaaaaé`"),
        [tableLine "CONTAINER ID" "PID" "STATUS" "CREATED" "ROOTFS"]) := by
  rfl

end Runcell
