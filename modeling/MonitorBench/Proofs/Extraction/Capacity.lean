import Mathlib.Order.Bounds.Basic
import MonitorBench.Proofs.Extraction.Sinks

/-!
# Records on a device that fills up

A device takes bytes in parts as it takes them in one piece: up to the first fault nothing is lost
between the parts, and after it nothing is taken (`Device.write_append`). So the rows of the records
that a corpus yields leave on a device of limited capacity the bytes that fit, wherever the limit
falls: inside a character, before a line feed, or between two rows. An extraction that is cut off
there ends in the fault of the device, and every other one ends as if there were no limit
(`extract_limited`).
-/

set_option autoImplicit false

namespace MonitorBench

namespace Device

/-- Nothing can always be written. -/
theorem write_nil (device : Device) : device.write [] = (device, none) := by
  rw [write]
  split <;> simp

/-- Bytes are taken in parts, and the second part only when the first was taken whole. -/
theorem write_append (device : Device) (bytes more : Bytes) :
    device.write (bytes ++ more) =
      match device.write bytes with
      | (after, some fault) => (after, some fault)
      | (after, none) => after.write more := by
  obtain ⟨taken, capacity⟩ := device
  cases capacity with
  | none => simp [write]
  | some capacity =>
    by_cases full : capacity - taken.length < bytes.length
    · have also : capacity - taken.length < (bytes ++ more).length := by
        rw [List.length_append]
        omega
      have kept : (bytes ++ more).take (capacity - taken.length) =
          bytes.take (capacity - taken.length) :=
        List.take_append_of_le_length (Nat.le_of_lt full)
      simp only [write, if_pos full, if_pos also, kept]
    · have fits : bytes.length ≤ capacity - taken.length := Nat.le_of_not_lt full
      have whole : bytes.take (capacity - taken.length) = bytes := List.take_of_length_le fits
      have room : capacity - (taken ++ bytes).length = capacity - taken.length - bytes.length := by
        rw [List.length_append]
        omega
      have more_full : capacity - taken.length < (bytes ++ more).length ↔
          capacity - taken.length - bytes.length < more.length := by
        rw [List.length_append]
        omega
      simp only [write, if_neg full, whole, room, more_full, List.take_append, List.append_assoc]

/-- What an empty device of a capacity takes. -/
theorem write_limited (limit : Nat) (bytes : Bytes) :
    ({ capacity := some limit } : Device).write bytes =
      ({ taken := bytes.take limit, capacity := some limit },
        if limit < bytes.length then some .deviceFull else none) := by
  simp [write]

/-- An empty device takes bytes whole exactly when they fit. -/
theorem length_le_of_write {limit : Nat} {bytes : Bytes} {after : Device}
    (h : ({ capacity := some limit } : Device).write bytes = (after, none)) :
    bytes.length ≤ limit := by
  rw [write_limited, Prod.mk.injEq] at h
  by_contra larger
  rw [if_pos (Nat.lt_of_not_le larger)] at h
  cases h.2

/-- A write that fails has more bytes than there is room for. -/
theorem lt_length_of_write {limit : Nat} {bytes : Bytes} {after : Device} {fault : FileFault}
    (h : ({ capacity := some limit } : Device).write bytes = (after, some fault)) :
    limit < bytes.length := by
  rw [write_limited, Prod.mk.injEq] at h
  by_contra fits
  rw [if_neg fits] at h
  cases h.2

end Device

namespace Extraction

variable {out after last : RecordDevice} {record : Record} {records : List Record} {fault : Fault}

/-- A record that is taken was written whole, and is counted. -/
theorem written_of_took (took : recordWriter.accept out record = (after, none)) :
    out.device.write (rowBytes record) = (after.device, none) ∧
      after.written = out.written + 1 := by
  simp only [recordWriter] at took
  rcases wrote : out.device.write (rowBytes record) with ⟨device, _ | reason⟩
  · simp only [wrote, Prod.mk.injEq, and_true] at took
    rw [← took]
    exact ⟨rfl, rfl⟩
  · simp [wrote] at took

/-- A record that is refused was written in part, and is not counted. -/
theorem written_of_refused (refusal : recordWriter.accept out record = (after, some fault)) :
    ∃ reason, fault = .file reason ∧
      out.device.write (rowBytes record) = (after.device, some reason) ∧
      after.written = out.written := by
  simp only [recordWriter] at refusal
  rcases wrote : out.device.write (rowBytes record) with ⟨device, _ | reason⟩
  · simp [wrote] at refusal
  · simp only [wrote, Prod.mk.injEq, Option.some.injEq] at refusal
    obtain ⟨rfl, rfl⟩ := refusal
    exact ⟨reason, rfl, rfl, rfl⟩

/-- When the records were taken, their rows were written as in one piece. -/
theorem Sink.Takes.written (h : recordWriter.Takes out records last) :
    out.device.write (records.flatMap rowBytes) = (last.device, none) ∧
      last.written = out.written + records.length := by
  induction h with
  | nil => exact ⟨Device.write_nil _, rfl⟩
  | @cons out between last record records took rest ih =>
    obtain ⟨wrote, counted⟩ := written_of_took took
    obtain ⟨wrote_rest, counted_rest⟩ := ih
    refine ⟨?_, ?_⟩
    · rw [List.flatMap_cons, Device.write_append, wrote]
      exact wrote_rest
    · rw [counted_rest, counted, List.length_cons]
      omega

/-! ## How many rows fit -/

section Fitting

variable {limit : Nat}

/-- Fewer rows take no more room. -/
theorem length_rows_take_le {count more : Nat} (h : count ≤ more) (records : List Record) :
    ((records.take count).flatMap rowBytes).length ≤
      ((records.take more).flatMap rowBytes).length := by
  obtain ⟨rest, split⟩ := List.take_prefix_take_left (l := records) h
  rw [← split, List.flatMap_append, List.length_append]
  exact Nat.le_add_right _ _

/-- When all rows fit, as many fit as there are. -/
theorem isGreatest_of_fits (fits : (records.flatMap rowBytes).length ≤ limit) :
    IsGreatest {count | count ≤ records.length ∧
      ((records.take count).flatMap rowBytes).length ≤ limit} records.length := by
  refine ⟨⟨Nat.le_refl _, ?_⟩, fun count possible => possible.1⟩
  rw [List.take_length]
  exact fits

/-- When some rows fit, but not with the next one, no more of them fit. -/
theorem isGreatest_of_overfull {before rest : List Record}
    (split : records = before ++ record :: rest)
    (fits : (before.flatMap rowBytes).length ≤ limit)
    (overfull : limit < ((before ++ [record]).flatMap rowBytes).length) :
    IsGreatest {count | count ≤ records.length ∧
      ((records.take count).flatMap rowBytes).length ≤ limit} before.length := by
  have among : records.take before.length = before := by
    rw [split]
    exact List.take_left
  have among_next : records.take (before.length + 1) = before ++ [record] := by
    rw [split, ← List.singleton_append, ← List.append_assoc]
    exact List.take_left' (by simp)
  refine ⟨⟨?_, ?_⟩, ?_⟩
  · rw [split, List.length_append]
    exact Nat.le_add_right _ _
  · rw [among]
    exact fits
  · rintro count ⟨-, possible⟩
    by_contra more
    have longer := length_rows_take_le (Nat.lt_of_not_le more) records
    rw [among_next] at longer
    omega

end Fitting

/-- Written to a device that takes a number of bytes and no more, the records of a corpus leave there
the first bytes of their rows, as many as it takes. The rows that are counted are as many of the
first ones as fit whole. The extraction ends in the fault of the device when the rows do not all
fit, and otherwise as when all records are kept, be it in a summary or at a line of the corpus. -/
theorem extract_limited (settings : ExtractionSettings) (lines : List String) (limit : Nat) :
    let records := (extractAll settings lines).1
    let full := records.flatMap rowBytes
    let ended := extract settings recordWriter { device := { capacity := some limit } } lines
    ended.1.device.taken = full.take limit ∧
      IsGreatest {count | count ≤ records.length ∧
        ((records.take count).flatMap rowBytes).length ≤ limit} ended.1.written ∧
      ended.2 = if limit < full.length then .error (.file .deviceFull)
        else (extractAll settings lines).2 := by
  intro records full ended
  cases extract_fares settings recordWriter { device := { capacity := some limit } } lines with
  | @taken last takes ends =>
    have is_last : ended = (last, (extractAll settings lines).2) := ends
    obtain ⟨wrote, counted⟩ := takes.written
    have fits : full.length ≤ limit := Device.length_le_of_write wrote
    rw [Nat.zero_add] at counted
    rw [Device.write_limited, Prod.mk.injEq] at wrote
    rw [is_last]
    refine ⟨?_, ?_, ?_⟩
    · rw [← wrote.1]
    · rw [counted]
      exact isGreatest_of_fits fits
    · rw [if_neg (Nat.not_lt.mpr fits)]
  | @refused before rest record between after fault passed behind line split takes refusal place
      source ends =>
    have halts := ends behind
    rw [← place] at halts
    have is_after : ended = (after, .error fault) := halts
    obtain ⟨wrote, counted⟩ := takes.written
    obtain ⟨reason, rfl, wrote_part, not_counted⟩ := written_of_refused refusal
    rw [counted, Nat.zero_add] at not_counted
    -- what was taken of the refused row is taken of the rows up to it, and of all rows
    have wrote_rows : ({ capacity := some limit } : Device).write
        ((before ++ [record]).flatMap rowBytes) = (after.device, some reason) := by
      rw [List.flatMap_append, Device.write_append, wrote, List.flatMap_singleton]
      exact wrote_part
    have wrote_all : ({ capacity := some limit } : Device).write full =
        (after.device, some reason) := by
      have rows : full = (before ++ [record]).flatMap rowBytes ++ rest.flatMap rowBytes := by
        simp [full, records, split]
      rw [rows, Device.write_append, wrote_rows]
    have overfull : limit < full.length := Device.lt_length_of_write wrote_all
    rw [Device.write_limited, if_pos overfull, Prod.mk.injEq, Option.some.injEq] at wrote_all
    rw [is_after]
    refine ⟨?_, ?_, ?_⟩
    · rw [← wrote_all.1]
    · rw [not_counted]
      exact isGreatest_of_overfull split (Device.length_le_of_write wrote)
        (Device.lt_length_of_write wrote_rows)
    · rw [if_pos overfull, wrote_all.2]

/-- A limit inside a character cuts the row there; one at the end of the last row that is yielded
leaves it to the corpus how the extraction ends. -/
example :
    extract {} recordWriter { device := { capacity := some 1 } } ["PATTERN: é", "- p", "- q"] =
        ({ device := { taken := [0xC3], capacity := some 1 } }, .error (.file .deviceFull)) ∧
      extract {} recordWriter { device := { capacity := some 9 } } ["PATTERN: é", "- p", "- q"] =
        ({ device := { taken := Text.bytes "é, 2, p\n", capacity := some 9 }, written := 1 },
          .error (.line (.propertyWithoutHeader 3))) := by
  exact ⟨rfl, rfl⟩

end Extraction

end MonitorBench
