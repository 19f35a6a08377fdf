import Sastsimi.Contracts.CanonicalForm
import Sastsimi.Lib.JsonDecoding

/-!
# Loading canonical bytes

`json.loads` of the canonical bytes of a value returns its canonical form, when the interpreter
admits the integers and the nesting of the value.
-/

namespace Sastsimi.Contracts

open Sastsimi.Lib Json Grammar

section Loads

variable {limits : Limits} {policy : SetListPolicy} {value form : Json} {path : List String}

/-- An interpreter loads a value: it converts its integers, and the value nests within its limit. -/
structure Loadable (limits : Limits) (value : Json) : Prop where
  readable : value.readable limits = true
  within : value.written.nesting ≤ limits.nesting
  unique : value.uniqueKeys = true

/-- A form has the integers of its value. -/
theorem form_readable (computed : canonicalForm policy path value = .ok form)
    (readable : value.readable limits = true) : form.readable limits = true := by
  induction value using byParts generalizing path form with
  | float digits => cases computed
  | arr items ih =>
      obtain ⟨forms, mapped, -, rfl⟩ := canonicalForm_arr.1 computed
      apply readable_arr.2
      intro form member
      obtain ⟨item, inside, found⟩ := exists_of_mem_forms mapped (arrange_perm.subset member)
      exact ih item inside found (readable_arr.1 readable item inside)
  | obj fields ih =>
      obtain ⟨forms, mapped, rfl⟩ := canonicalForm_obj.1 computed
      apply readable_obj.2
      intro form member
      have listed := (List.mem_insertionSort _).1 member
      obtain ⟨field, inside, found⟩ := exists_of_mem_forms mapped listed
      exact ih field inside (fieldForm_ok found).2 (readable_obj.1 readable field inside)
  | _ =>
      cases computed
      exact readable

/-- A form nests as deep as its value. -/
theorem form_within {bound : Nat} (computed : canonicalForm policy path value = .ok form)
    (within : value.written.nesting ≤ bound) : form.written.nesting ≤ bound := by
  induction value using byParts generalizing path form bound with
  | float digits => cases computed
  | arr items ih =>
      obtain ⟨forms, mapped, -, rfl⟩ := canonicalForm_arr.1 computed
      rw [written, writtenItems_eq, Value.nesting] at within
      obtain ⟨inner, rfl⟩ := Nat.exists_eq_succ_of_ne_zero (Nat.ne_of_gt (Nat.zero_lt_of_lt within))
      have each := nestingItems_le.1 (Nat.le_of_succ_le_succ within)
      rw [List.forall_mem_map] at each
      rw [written, writtenItems_eq, Value.nesting]
      apply Nat.succ_le_succ
      rw [nestingItems_le, List.forall_mem_map]
      intro form member
      obtain ⟨item, inside, found⟩ := exists_of_mem_forms mapped (arrange_perm.subset member)
      exact ih item inside found (each item inside)
  | obj fields ih =>
      obtain ⟨forms, mapped, rfl⟩ := canonicalForm_obj.1 computed
      rw [written, writtenFields_eq, Value.nesting] at within
      obtain ⟨inner, rfl⟩ := Nat.exists_eq_succ_of_ne_zero (Nat.ne_of_gt (Nat.zero_lt_of_lt within))
      have each := nestingFields_le.1 (Nat.le_of_succ_le_succ within)
      rw [List.forall_mem_map] at each
      rw [written, writtenFields_eq, Value.nesting]
      apply Nat.succ_le_succ
      rw [nestingFields_le, List.forall_mem_map]
      intro form member
      have listed := (List.mem_insertionSort _).1 member
      obtain ⟨field, inside, found⟩ := exists_of_mem_forms mapped listed
      exact ih field inside (fieldForm_ok found).2 (each field inside)
  | _ =>
      cases computed
      exact within

/-- Loading the canonical bytes of a value returns its form: the value up to the order of members
and policy lists, with the same bytes again. -/
theorem loads_canonicalBytes {bytes : List Char} (loadable : Loadable limits value)
    (succeeds : canonicalBytes policy value = .ok bytes) :
    ∃ form, decode limits bytes = some form ∧ canonicalForm policy [] value = .ok form ∧
      reordered (IsPolicyList policy) [] value form ∧ canonicalBytes policy form = .ok bytes := by
  obtain ⟨form, computed, rfl, inOrder⟩ := form_of_canonicalBytes succeeds
  have loaded : decode limits form.text = some form :=
    decode_text (form_readable computed loadable.readable) (form_tree _ loadable.unique computed).2
      (form_within computed loadable.within)
  have again := form_again _ computed inOrder
  have bytes : canonicalBytes policy form = .ok form.text := by
    rw [canonicalBytes_eq, again]
    rfl
  exact ⟨form, loaded, computed, reordered_of_form _ computed again, bytes⟩

end Loads

namespace Concrete

/-- An interpreter with a limit on digits and on nesting. -/
def interpreter : Limits where
  converts := fun digits => decide (digits.length ≤ 4300)
  nesting := 1000

theorem report_loadable : Loadable interpreter report.value where
  readable := by decide
  within := by decide
  unique := by decide

/-- The bytes of the report are loaded in the order of its policy lists. -/
theorem report_loads :
    ∃ form, Grammar.decode interpreter reportBytes = some form ∧
      canonicalForm tagsPolicy [] report.value = .ok form ∧
      reordered (IsPolicyList tagsPolicy) [] report.value form ∧
      canonicalBytes tagsPolicy form = .ok reportBytes :=
  loads_canonicalBytes report_loadable report_succeeds

end Concrete

end Sastsimi.Contracts
