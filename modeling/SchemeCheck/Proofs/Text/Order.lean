import SchemeCheck.Dict
set_option autoImplicit false

namespace SchemeCheck.Text

theorem append_lt_append_iff (start a b : Text) : start ++ a < start ++ b ↔ a < b := by
  induction start with
  | nil => rfl
  | cons c start ih =>
    rw [List.cons_append, List.cons_append, List.cons_lt_cons_iff, ih]
    simp

theorem nodup_of_ascending {texts : List Text} (h : texts.Pairwise (· < ·)) : texts.Nodup := by
  refine h.imp ?_
  rintro a b lt rfl
  exact List.lt_irrefl a lt

theorem pairwise_mergeSort (texts : List Text) :
    (texts.mergeSort fun a b => decide (¬ b < a)).Pairwise fun a b => ¬ b < a := by
  refine (List.pairwise_mergeSort ?_ ?_ texts).imp fun le => of_decide_eq_true le
  · intro a b c ab bc
    rw [decide_eq_true_eq, List.not_lt] at ab bc ⊢
    exact List.le_trans ab bc
  · intro a b
    rw [Bool.or_eq_true, decide_eq_true_eq, decide_eq_true_eq, List.not_lt, List.not_lt]
    exact List.le_total a b

end SchemeCheck.Text
