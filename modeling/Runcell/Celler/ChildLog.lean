import Mathlib.Data.List.Basic
import Runcell.Storage.MountTable

/-!
# Runcell — forwarding the child's log

`setup_child_logger` of `container/namespace.rs` spawns a task that reads the child's log
pipe line by line (`BufReader::lines` of Tokio) and logs each line; it logs a last record
and stops at the end of the pipe, and at the first error.

`next_line` reads up to and with the next line feed (`read_line`), fails with `InvalidData`
when what it read is not UTF-8, cuts off the line feed and a `\r` before it, and returns
`None` when nothing was left to read. The pipe is modelled as the bytes the child wrote,
each a character or a byte of no valid character (`LogByte`), then its end: EOF, or a read
error. A line feed is byte 10 and never part of a longer character, so the pipe splits into
lines the same way in bytes and here.

Main results:

* `setupChildLogger_round_trip` — the lines a child writes, each ended by a line feed, are
  forwarded as they were written, then the end of the pipe; a read error loses only the
  line it interrupts.
* `setupChildLogger_stops_at_invalid` — a line that is not UTF-8 stops the forwarding:
  nothing after it is forwarded, whatever follows.
-/

namespace Runcell

/-- A byte of the child's log pipe, as UTF-8 decoding sees it: a character, or a byte of no
valid character. -/
inductive LogByte where
  | char (c : Char)
  | invalid
deriving Repr, DecidableEq

/-- How the pipe ends after its bytes: EOF once the child closes it, or a read error (as
`{:?}` prints it). -/
inductive LogEnd where
  | eof
  | error (e : String)
deriving Repr, DecidableEq

/-- What the child wrote to the pipe, and how the pipe ends. -/
structure LogStream where
  data : List LogByte
  ending : LogEnd
deriving Repr, DecidableEq

/-- What `lines.next_line()` returns. -/
inductive NextLine where
  | line (s : String)
  | error (e : String)
  | eof
deriving Repr, DecidableEq

/-- The `InvalidData` error of `read_line`, as `{:?}` prints it in the older Tokio releases;
newer ones wrap the `FromUtf8Error` instead. The repository pins no version of Tokio. -/
def invalidUtf8 : String :=
  "Custom \x7b kind: InvalidData, error: \"stream did not contain valid UTF-8\" \x7d"

/-- The characters of some bytes, when they are UTF-8. -/
def decodeLog : List LogByte → Option (List Char)
  | [] => some []
  | .char c :: bs => (decodeLog bs).map (c :: ·)
  | .invalid :: _ => none

/-- A line `read_line` read, without its line feed: `next_line` cuts off a `\r` before the
line feed, and fails when the line is not UTF-8. -/
def readLine (seg : List LogByte) (terminated : Bool) : NextLine :=
  match decodeLog seg with
  | some cs => .line ⟨if terminated then stripCr cs else cs⟩
  | none => .error invalidUtf8

/-- `lines.next_line()` on what is left of the pipe: the result, and what is left after it. -/
def nextLine (ending : LogEnd) (data : List LogByte) : NextLine × List LogByte :=
  match data.span (· != .char '\n') with
  | (seg, _ :: rest) => (readLine seg true, rest)
  | (seg, []) =>
    match ending with
    | .error e => (.error e, [])
    | .eof => if seg.isEmpty then (.eof, []) else (readLine seg false, [])

/-- What is left of the pipe holds a line feed, first after a piece without one, or none. -/
theorem logBytes_cases (data : List LogByte) :
    (∃ seg rest, LogByte.char '\n' ∉ seg ∧ data = seg ++ .char '\n' :: rest) ∨
      LogByte.char '\n' ∉ data := by
  induction data with
  | nil => exact .inr (List.not_mem_nil _)
  | cons b bs ih =>
    by_cases hb : b = .char '\n'
    · exact .inl ⟨[], bs, List.not_mem_nil _, by rw [hb]; rfl⟩
    · rcases ih with ⟨seg, rest, hseg, rfl⟩ | hn
      · exact .inl ⟨b :: seg, rest, by simp [hseg, Ne.symm hb], rfl⟩
      · exact .inr (by simp [hn, Ne.symm hb])

theorem bne_newline_of_not_mem {seg : List LogByte} (hseg : LogByte.char '\n' ∉ seg) :
    ∀ b ∈ seg, (b != LogByte.char '\n') = true := fun _ hb => bne_iff_ne.mpr fun h => hseg (h ▸ hb)

theorem nextLine_terminated (ending : LogEnd) {seg : List LogByte} (hseg : LogByte.char '\n' ∉ seg)
    (rest : List LogByte) : nextLine ending (seg ++ .char '\n' :: rest) = (readLine seg true, rest) := by
  have hp := bne_newline_of_not_mem hseg
  simp [nextLine, List.span_eq_take_drop, List.takeWhile_append_of_pos hp,
    List.dropWhile_append_of_pos hp]

theorem nextLine_unterminated (ending : LogEnd) {seg : List LogByte}
    (hseg : LogByte.char '\n' ∉ seg) :
    nextLine ending seg = match ending with
      | .error e => (.error e, [])
      | .eof => if seg.isEmpty then (.eof, []) else (readLine seg false, []) := by
  have hp := bne_newline_of_not_mem hseg
  simp only [nextLine, List.span_eq_take_drop, List.takeWhile_eq_self_iff.mpr hp,
    List.dropWhile_eq_nil_iff.mpr hp]

theorem nextLine_length {ending : LogEnd} {data rest : List LogByte} {s : String}
    (h : nextLine ending data = (.line s, rest)) : rest.length < data.length := by
  rcases logBytes_cases data with ⟨seg, rest', hseg, rfl⟩ | hn
  · rw [nextLine_terminated ending hseg] at h
    obtain ⟨-, rfl⟩ := Prod.mk.inj_iff.mp h
    simp only [List.length_append, List.length_cons]
    omega
  · rw [nextLine_unterminated ending hn] at h
    cases ending with
    | error e => cases h
    | eof =>
      cases data with
      | nil => cases h
      | cons _ _ =>
        obtain ⟨-, rfl⟩ := Prod.mk.inj_iff.mp h
        simp

/-- What the task logs: a line, a read error, or the end of the pipe. -/
inductive ChildLog where
  | line (s : String)
  | readError (e : String)
  | logEnd
deriving Repr, DecidableEq

/-- The message of a record. -/
def ChildLog.message : ChildLog → String
  | .line s => s
  | .readError e => "read child process log error: " ++ e
  | .logEnd => "read child process log end"

/-- The `loop` of the task, over what is left of the pipe. -/
def childLogLoop (ending : LogEnd) (data : List LogByte) : List ChildLog :=
  match h : nextLine ending data with
  | (.error e, _) => [.readError e]
  | (.line line, rest) =>
    have : rest.length < data.length := nextLine_length h
    .line line :: childLogLoop ending rest
  | (.eof, _) => [.logEnd]
termination_by data.length

/-- `setup_child_logger(fd, child_logger)`: the records the task logs. -/
def setupChildLogger (s : LogStream) : List ChildLog := childLogLoop s.ending s.data

-- ---------------------------------------------------------------------------
-- One round of the loop
-- ---------------------------------------------------------------------------

theorem childLogLoop_of_line {ending : LogEnd} {data rest : List LogByte} {l : String}
    (h : nextLine ending data = (.line l, rest)) :
    childLogLoop ending data = .line l :: childLogLoop ending rest := by
  rw [childLogLoop]
  split <;> simp_all

theorem childLogLoop_of_error {ending : LogEnd} {data : List LogByte} {e : String}
    (h : (nextLine ending data).1 = .error e) : childLogLoop ending data = [.readError e] := by
  rw [childLogLoop]
  split <;> simp_all

theorem childLogLoop_of_eof {ending : LogEnd} {data : List LogByte}
    (h : (nextLine ending data).1 = .eof) : childLogLoop ending data = [.logEnd] := by
  rw [childLogLoop]
  split <;> simp_all

-- ---------------------------------------------------------------------------
-- What the child writes
-- ---------------------------------------------------------------------------

/-- The bytes of a line the child writes, and its line feed. -/
def encodeLine (l : String) : List LogByte := l.data.map .char ++ [.char '\n']

/-- A line that reads back as it was written: no line feed in it, and no `\r` at its end. -/
def PlainLine (l : String) : Prop := '\n' ∉ l.data ∧ l.data.getLast? ≠ some '\r'

instance : DecidablePred PlainLine := fun _ => inferInstanceAs (Decidable (_ ∧ _))

theorem decodeLog_map_char (cs : List Char) : decodeLog (cs.map .char) = some cs := by
  induction cs with
  | nil => rfl
  | cons c cs ih => simp [decodeLog, ih]

theorem decodeLog_of_invalid {bs : List LogByte} (h : LogByte.invalid ∈ bs) : decodeLog bs = none := by
  induction bs with
  | nil => cases h
  | cons b bs ih =>
    cases b with
    | invalid => rfl
    | char c => simp [decodeLog, ih (by simpa using h)]

theorem nextLine_encodeLine (ending : LogEnd) {l : String} (hl : PlainLine l) (rest : List LogByte) :
    nextLine ending (encodeLine l ++ rest) = (.line l, rest) := by
  have hseg : LogByte.char '\n' ∉ l.data.map LogByte.char := by simpa using hl.1
  rw [encodeLine, List.append_assoc, List.singleton_append, nextLine_terminated ending hseg]
  simp [readLine, decodeLog_map_char, stripCr, hl.2]

/-- The lines a child wrote, each read back in one round of the loop. -/
theorem childLogLoop_encode (ending : LogEnd) {ls : List String} (hls : ∀ l ∈ ls, PlainLine l)
    (rest : List LogByte) :
    childLogLoop ending (ls.flatMap encodeLine ++ rest) = ls.map .line ++ childLogLoop ending rest := by
  induction ls with
  | nil => rfl
  | cons l ls ih =>
    rw [List.flatMap_cons, List.append_assoc,
      childLogLoop_of_line (nextLine_encodeLine ending (hls l (.head _)) _),
      ih fun l' h => hls l' (.tail _ h)]
    rfl

/-- **Lines come through as written.** For every list of lines with no line feed in them and
no `\r` at their end, written by the child each with its line feed: when the child closes
the pipe, the task logs the lines in order, then the end of the pipe; when a read fails
instead, after any bytes with no line feed, it logs the lines, then the error. -/
theorem setupChildLogger_round_trip (ls : List String) (hls : ∀ l ∈ ls, PlainLine l)
    (tail : List LogByte) (htail : LogByte.char '\n' ∉ tail) (e : String) :
    setupChildLogger ⟨ls.flatMap encodeLine, .eof⟩ = ls.map .line ++ [.logEnd] ∧
    setupChildLogger ⟨ls.flatMap encodeLine ++ tail, .error e⟩ = ls.map .line ++ [.readError e] := by
  constructor
  · have hend : childLogLoop .eof [] = [.logEnd] := childLogLoop_of_eof rfl
    simpa [setupChildLogger, hend] using childLogLoop_encode .eof hls []
  · rw [setupChildLogger, childLogLoop_encode _ hls,
      childLogLoop_of_error (by rw [nextLine_unterminated _ htail])]

/-- Two lines of the init process, then the pipe closed; and a read failing in a third. -/
theorem setupChildLogger_round_trip_two :
    (∀ l ∈ ["starting", "exec /bin/sh"], PlainLine l) ∧ LogByte.char '\n' ∉ [LogByte.char 'x'] ∧
    setupChildLogger ⟨["starting", "exec /bin/sh"].flatMap encodeLine, .eof⟩ =
      ["starting", "exec /bin/sh"].map .line ++ [.logEnd] ∧
    setupChildLogger ⟨["starting", "exec /bin/sh"].flatMap encodeLine ++ [.char 'x'], .error "EIO"⟩ =
      ["starting", "exec /bin/sh"].map .line ++ [.readError "EIO"] :=
  ⟨by decide, by decide, setupChildLogger_round_trip _ (by decide) _ (by decide) _⟩

/-- **A line that is not UTF-8 ends the forwarding.** For every list of lines the child
wrote, followed by a line with a byte of no valid character: the task logs the lines before
it, then the `InvalidData` error, and nothing after it, whatever follows in the pipe and
however the pipe ends. -/
theorem setupChildLogger_stops_at_invalid (ls : List String) (hls : ∀ l ∈ ls, PlainLine l)
    (bad : List LogByte) (hbad : LogByte.invalid ∈ bad) (hnl : LogByte.char '\n' ∉ bad)
    (rest : List LogByte) (ending : LogEnd) :
    setupChildLogger ⟨ls.flatMap encodeLine ++ (bad ++ .char '\n' :: rest), ending⟩ =
      ls.map .line ++ [.readError invalidUtf8] := by
  rw [setupChildLogger, childLogLoop_encode _ hls, childLogLoop_of_error]
  rw [nextLine_terminated _ hnl, readLine, decodeLog_of_invalid hbad]

/-- A bad byte in the second line: the third line is not forwarded. -/
theorem setupChildLogger_stops_at_invalid_second :
    (∀ l ∈ ["starting"], PlainLine l) ∧ LogByte.invalid ∈ [LogByte.char 'a', .invalid] ∧
    LogByte.char '\n' ∉ [LogByte.char 'a', .invalid] ∧
    setupChildLogger ⟨["starting"].flatMap encodeLine ++
        ([.char 'a', .invalid] ++ .char '\n' :: encodeLine "ready"), .eof⟩ =
      ["starting"].map .line ++ [.readError invalidUtf8] :=
  ⟨by decide, by decide, by decide, setupChildLogger_stops_at_invalid _ (by decide) _ (by decide)
    (by decide) _ _⟩

end Runcell
