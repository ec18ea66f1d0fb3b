import Mathlib.Data.List.Nodup
import SchemeCheck.Coverage.Report
import SchemeCheck.Proofs.Dict
import SchemeCheck.Proofs.Text.Order
set_option autoImplicit false

namespace SchemeCheck.Coverage

theorem mem_missing_iff {minimal : List Text} {s : TextSet} {t : Text} :
    t ∈ minimal.filter (!s.contains ·) ↔ t ∈ minimal ∧ t ∉ s.toList := by
  rw [List.mem_filter, TextSet.toList, Dict.mem_keys_iff, Bool.not_eq_true', Bool.not_eq_true]

theorem mem_covered_iff {minimal : List Text} {s : TextSet} {t : Text} :
    t ∈ s.toList.filter minimal.contains ↔ t ∈ minimal ∧ t ∈ s.toList := by
  rw [List.mem_filter, List.contains_iff_mem, and_comm]

end SchemeCheck.Coverage
