import Mathlib.Data.List.Basic
import Mathlib.Data.List.Induction
import Mathlib.Data.List.Nodup

/-!
# Lists without repetitions

`List.eraseDups` keeps the first of equal entries, as `tuple(dict.fromkeys(...))` does.
-/

namespace Sastsimi.Lib

variable {α : Type} [BEq α] [LawfulBEq α]

theorem nodup_eraseDups {entries : List α} : entries.eraseDups.Nodup := by
  induction entries using List.reverseRecOn with
  | nil => simp
  | append_singleton entries entry ih =>
      rw [List.eraseDups_append]
      apply List.Nodup.append ih
      · by_cases known : entry ∈ entries <;> simp [List.removeAll, List.eraseDups_cons, known]
      · intro other earlier later
        by_cases known : entry ∈ entries
        · simp [List.removeAll, known] at later
        · simp only [List.removeAll, List.mem_eraseDups] at later earlier
          simp_all

theorem eraseDups_of_nodup {entries : List α} (distinct : entries.Nodup) :
    entries.eraseDups = entries := by
  induction entries using List.reverseRecOn with
  | nil => simp
  | append_singleton entries entry ih =>
      obtain ⟨distinctEntries, -, apart⟩ := List.nodup_append.1 distinct
      have new : entry ∉ entries := fun known => apart entry known entry (by simp) rfl
      rw [List.eraseDups_append, ih distinctEntries]
      simp [List.removeAll, List.eraseDups_cons, new]

/-- Entries that are all there already add nothing. -/
theorem eraseDups_append_of_subset {entries more : List α} (distinct : entries.Nodup)
    (known : more ⊆ entries) : (entries ++ more).eraseDups = entries := by
  have nothing : more.removeAll entries = [] := by
    rw [List.removeAll, List.filter_eq_nil_iff]
    intro entry member
    simpa using known member
  rw [List.eraseDups_append, eraseDups_of_nodup distinct, nothing, List.eraseDups_nil,
    List.append_nil]

theorem prefix_eraseDups {entries more : List α} (distinct : entries.Nodup) :
    entries <+: (entries ++ more).eraseDups := by
  rw [List.eraseDups_append, eraseDups_of_nodup distinct]
  exact List.prefix_append entries _

end Sastsimi.Lib
