import Watchgate.Store.Requests
import Watchgate.Proofs.Checks

/-!
# What columns hold

A column of texts holds texts or nothing, so a row that was written once is written again as it
stands.
-/

namespace Watchgate

namespace Store.Column

theorem checked_ok {n m : Int} (h : checked n = .ok m) : m = n := by
  unfold checked at h
  split at h
  · exact (Except.ok.inj h).symm
  · cases h

/-- A column of texts holds nothing but texts. -/
theorem text_ok {v w : Value} (h : text v = .ok w) : w = .null ∨ ∃ s, w = .text s := by
  cases v with
  | null => exact .inl (Except.ok.inj h).symm
  | bool b => exact .inr ⟨_, (Except.ok.inj h).symm⟩
  | int n =>
    obtain ⟨m, -, hm⟩ := ok_of_map h
    exact .inr ⟨_, hm.symm⟩
  | real x => exact .inr ⟨_, (Except.ok.inj h).symm⟩
  | text s => exact .inr ⟨s, (Except.ok.inj h).symm⟩
  | list items => cases h
  | map entries => cases h

theorem requiredText_ok {v w : Value} (h : requiredText v = .ok w) :
    text v = .ok w ∧ ∃ s, w = .text s := by
  obtain ⟨u, hu, h⟩ := ok_of_bind h
  rcases text_ok hu with rfl | ⟨s, rfl⟩
  · cases h
  · obtain rfl := pure_ok h
    exact ⟨hu, s, rfl⟩

/-- Whether a column of texts keeps a value as a certain text. -/
def keepsAs (v : Value) (s : String) : Bool :=
  match text v with
  | .ok (.text t) => t = s
  | _ => false

theorem keepsAs_of_text {v : Value} {s t : String} (h : text v = .ok (.text t)) :
    keepsAs v s = decide (t = s) := by
  unfold keepsAs
  rw [h]

@[simp] theorem text_text (s : String) : text (.text s) = .ok (.text s) := rfl

/-- Stored values that are the same are equal. -/
theorem eq_of_same {v w : Value} (h : same v w = true) : v = w := by
  cases v <;> cases w <;> simp_all [same]

end Store.Column

end Watchgate
