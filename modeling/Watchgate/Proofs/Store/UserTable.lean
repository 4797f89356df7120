import Watchgate.Proofs.Store.Columns
import Watchgate.Proofs.Store.Upsert
import Watchgate.Store.Quotas

/-!
# The table of users

Storing a user adds a row or replaces the one with its id, so a user who is stored stays stored.
Requests are counted and made for stored users only.
-/

namespace Watchgate.Store

open Calendar

/-- A user with this id is stored. -/
def Knows (s : Store) (userId : Int) : Prop := ∃ u, s.getUser userId = .ok (some u)

theorem knows_iff {s : Store} {userId : Int} :
    s.Knows userId ↔ Column.checked userId = .ok userId ∧ ∃ u ∈ s.users, u.id = userId := by
  constructor
  · rintro ⟨u, h⟩
    obtain ⟨n, hn, hfound⟩ := ok_of_bind h
    obtain rfl := Column.checked_ok hn
    have hfound := pure_ok hfound
    exact ⟨hn, u, List.mem_of_find?_eq_some hfound, by simpa using List.find?_some hfound⟩
  · rintro ⟨hn, u, hu, hid⟩
    have hsome : (s.users.find? (·.id = userId)).isSome := by
      rw [List.find?_isSome]
      exact ⟨u, hu, by simpa using hid⟩
    obtain ⟨found, hfound⟩ := Option.isSome_iff_exists.1 hsome
    refine ⟨found, ?_⟩
    unfold getUser
    rw [hn]
    exact congrArg Except.ok hfound

theorem Knows.of_users {s s' : Store} {userId : Int} (h : s.Knows userId)
    (hsame : s'.users = s.users) : s'.Knows userId := by
  rw [knows_iff] at h ⊢
  rwa [hsame]

theorem Knows.putUser {s s' : Store} {userId id : Int} {name flag : Value} (h : s.Knows userId)
    (hput : s.putUser id name flag = .ok ((), s')) : s'.Knows userId := by
  obtain ⟨known, -, hput⟩ := ok_of_bind hput
  obtain ⟨name, -, hput⟩ := ok_of_bind hput
  obtain ⟨flag, -, hput⟩ := ok_of_bind hput
  obtain ⟨-, rfl⟩ := Prod.mk.inj (pure_ok hput)
  obtain ⟨hn, u, hu, hid⟩ := knows_iff.1 h
  have hkey : ∀ u : User, decide (u.id = id) = true ↔ u.id = (User.mk id name flag).id :=
    fun _ => decide_eq_true_iff
  have hkept : userId ∈ (upsert (·.id = id) (User.mk id name flag) s.users).map User.id :=
    (mem_keys_upsert hkey).2 (.inr (hid ▸ List.mem_map_of_mem hu))
  obtain ⟨u', hu', hid'⟩ := List.mem_map.1 hkept
  exact knows_iff.2 ⟨hn, u', hu', hid'⟩

theorem knows_of_requireUser {s : Store} {userId : Int} {u : User}
    (h : requireUser userId s = .ok u) : s.Knows userId := by
  obtain ⟨found, hfound, h⟩ := ok_of_bind h
  cases found with
  | none => cases h
  | some u => exact ⟨u, hfound⟩

/-- Counting a request of a stored user for a known type of content appends a row. -/
theorem Knows.putUsage {s : Store} {userId : Int} (h : s.Knows userId) (contentType : String)
    (date : Date) : s.putUsage userId (.text contentType) date
      = .ok ((), { s with usage := s.usage ++ [⟨userId, contentType, date⟩] }) := by
  obtain ⟨u, hu⟩ := h
  have huser : requireUser userId s = .ok u := by
    unfold requireUser
    rw [hu]
    rfl
  unfold Store.putUsage
  rw [huser]
  rfl

end Watchgate.Store
