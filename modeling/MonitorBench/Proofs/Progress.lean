import MonitorBench.Progress
import MonitorBench.Proofs.Text.Runs

/-!
# When a report is made, and when it fails

A report comes before the items at positive multiples of the interval, which is never taken for
zero; so before a number of items there are as many reports as the interval goes into the last
index (`length_due`). It is one write to the progress output, so it fails only when the output is
full, and never when the output takes as much as is written to it.
-/

set_option autoImplicit false

namespace MonitorBench

namespace Device

variable {device after : Device} {bytes : Bytes} {fault : FileFault}

/-- An output without a limit takes everything, and stays without a limit. -/
theorem write_unlimited (h : device.capacity = none) (bytes : Bytes) :
    (device.write bytes).2 = none ∧ (device.write bytes).1.capacity = none := by
  simp [write, h]

/-- What keeps an output from taking all bytes is that it is full. -/
theorem fault_of_write (h : device.write bytes = (after, some fault)) : fault = .deviceFull := by
  rw [write] at h
  split at h
  next => cases h
  next =>
    simp only [Prod.mk.injEq] at h
    split at h
    · exact (Option.some.inj h.2).symm
    · cases h.2

end Device

namespace ProgressPlan

variable {plan : ProgressPlan} {out after : Device} {fault : FileFault} {index : Nat}

/-- Reports are at least one item apart. -/
theorem stride_pos (plan : ProgressPlan) : 0 < plan.stride :=
  Nat.lt_of_lt_of_le Nat.zero_lt_one (Nat.le_max_left 1 _)

/-- A report is due at the multiples of the stride, the first item left out. -/
theorem isDue_iff : plan.isDue index = true ↔ 0 < index ∧ plan.stride ∣ index := by
  unfold isDue
  simp [Nat.pos_iff_ne_zero, Nat.dvd_iff_mod_eq_zero]

/-- Of the indices below a number, as many are due as positive multiples of the interval are among
them. -/
theorem length_due (plan : ProgressPlan) (count : Nat) :
    ((List.range count).filter plan.isDue).length = (count - 1) / plan.stride := by
  induction count with
  | zero => simp
  | succ count ih =>
    rw [List.range_succ, List.filter_append, List.length_append, ih, Nat.add_sub_cancel]
    cases count with
    | zero => simp [isDue]
    | succ last =>
      -- the quotient grows at the multiples of the interval
      have quotient : (last + 1) / plan.stride =
          last / plan.stride + if plan.stride ∣ last + 1 then 1 else 0 := Nat.succ_div
      rw [Nat.add_sub_cancel, quotient]
      by_cases multiple : plan.stride ∣ last + 1
      · have due : plan.isDue (last + 1) = true := isDue_iff.mpr ⟨Nat.succ_pos last, multiple⟩
        simp [due, multiple]
      · have not_due : plan.isDue (last + 1) = false := by
          rw [← Bool.not_eq_true, isDue_iff]
          exact fun due => multiple due.2
        simp [not_due, multiple]

/-- The line of a report. -/
def line (plan : ProgressPlan) (index : Nat) : String :=
  "Progress: " ++ Text.natural index ++ "/" ++ Text.natural plan.total ++ "."

/-- A report is its line and a newline. -/
theorem report_eq (plan : ProgressPlan) (index : Nat) :
    plan.report index = plan.line index ++ "\n" := by
  have ending : ".\n" = "." ++ "\n" := rfl
  simp only [report, line, ending, String.append_assoc]

/-- A report is one line, and does not end in what could belong to its end. -/
theorem line_plain (plan : ProgressPlan) (index : Nat) :
    '\n' ∉ (plan.line index).toList ∧ (plan.line index).toList.getLast? = some '.' := by
  have digits (n : Nat) : '\n' ∉ (Text.natural n).toList := by
    intro bad
    rw [Text.natural, String.toList_ofList] at bad
    exact absurd (Text.isDigit_of_mem_digits n bad) (by decide)
  constructor
  · simp [line, digits]
  · rw [line, String.toList_append, List.getLast?_append]
    rfl

/-- To an output without a limit every report can be made. -/
theorem beforeItem_unlimited (plan : ProgressPlan) (h : out.capacity = none) (index : Nat) :
    (plan.beforeItem out index).2 = none ∧ (plan.beforeItem out index).1.capacity = none := by
  rw [beforeItem]
  split
  next => exact Device.write_unlimited h _
  next => exact ⟨rfl, h⟩

/-- A report that is due is all that is added to the output. -/
theorem beforeItem_taken (unlimited : out.capacity = none) (index : Nat) :
    (plan.beforeItem out index).1.taken =
      out.taken ++ if plan.isDue index then Text.bytes (plan.line index ++ "\n") else [] := by
  unfold beforeItem
  rw [← report_eq]
  split
  next => simp [Device.write, unlimited]
  next => simp

/-- A report cannot be made only when the output is full. -/
theorem fault_of_beforeItem (h : plan.beforeItem out index = (after, some fault)) :
    fault = .deviceFull := by
  rw [beforeItem] at h
  split at h
  next => exact Device.fault_of_write h
  next => cases h

end ProgressPlan

end MonitorBench
