import Sastsimi.Contracts.RedactionGuard

/-!
# Lines of a redacted source

A source that is redacted before it is paged keeps its line breaks, one by one: what replaces a
match ends with the breaks of the match, and neither the sandbox path nor its marker has one.
-/

namespace Sastsimi.Contracts

open Sastsimi.Lib Regex

/-! ## Breaks -/

/-- The line breaks of a text in their order. -/
def breaks (text : List Char) : List Char := text.filter isBreak

theorem breaks_marker (category : Category) : breaks category.marker.toList = [] := by
  cases category <;> decide

/-- What replaces a match has the breaks of the match. -/
theorem breaks_replacement (category : Category) (found : List Char) :
    breaks (replacement true category found) = breaks found := by
  have marker := breaks_marker category
  simp only [breaks] at marker
  simp [breaks, replacement, marker]

/-- Replacing a text without breaks by another one keeps the breaks. -/
theorem breaks_replaceAll {old new : String} (oldPlain : breaks old.toList = [])
    (newPlain : breaks new.toList = []) (value : List Char) :
    breaks (replaceAll old new value) = breaks value := by
  apply sub_filter
  intro text found
  rw [found_literal found]
  exact newPlain.trans oldPlain.symm

theorem breaks_protect (value : List Char) :
    breaks (protectSafeSandboxPaths value) = breaks value :=
  breaks_replaceAll (by decide) (by decide) value

theorem breaks_restore (value : List Char) :
    breaks (restoreSafeSandboxPaths value) = breaks value :=
  breaks_replaceAll (by decide) (by decide) value

theorem breaks_rules (rules : List (Regex × Category)) (state : List Char × List Category) :
    breaks (rules.foldl (applyRule true) state).1 = breaks state.1 := by
  induction rules generalizing state with
  | nil => rfl
  | cons rule rest ih =>
      rw [List.foldl_cons, ih]
      exact sub_filter fun text _ => breaks_replacement rule.2 text

section Lines

variable [Unicode]

/-- A text that is redacted line by line keeps its breaks. -/
theorem replaceString_breaks {value redacted : List Char} {categories : List Category}
    (returned : replaceString true value = .ok (redacted, categories)) :
    breaks redacted = breaks value := by
  rw [replaceString] at returned
  split at returned
  · cases returned
  · have kept := breaks_rules rules (protectSafeSandboxPaths value, [])
    generalize rules.foldl (applyRule true) (protectSafeSandboxPaths value, []) = state
      at kept returned
    obtain ⟨result, found⟩ := state
    obtain ⟨rfl, -⟩ := Prod.mk.inj (Except.ok.inj returned)
    rw [breaks_restore]
    exact kept.trans (breaks_protect value)

/-- A redacted source keeps the numbers of its line breaks. -/
theorem replaceString_counts {value redacted : List Char} {categories : List Category}
    (returned : replaceString true value = .ok (redacted, categories)) :
    value.count '\r' = redacted.count '\r' ∧ value.count '\n' = redacted.count '\n' := by
  have same := replaceString_breaks returned
  have counts : ∀ character, isBreak character = true →
      value.count character = redacted.count character := by
    intro character isBreak
    calc value.count character
        = (breaks value).count character := (List.count_filter isBreak).symm
      _ = (breaks redacted).count character := by rw [same]
      _ = redacted.count character := List.count_filter isBreak
  exact ⟨counts _ rfl, counts _ rfl⟩

/-- How the redaction of a source ends. -/
structure KeepsLines (interpreter : Interpreter) (value : List Char) : Prop where
  /-- The checks on the numbers of line breaks never fail. -/
  counts : ∀ redacted categories, replaceString true value = .ok (redacted, categories) →
    value.count '\r' = redacted.count '\r' ∧ value.count '\n' = redacted.count '\n'
  /-- A source that is accepted keeps its line breaks. -/
  breaks : ∀ result, redactUntrustedTextPreservingLines interpreter value = .ok result →
    breaks result.data = breaks value
  /-- Redacting it again changes nothing. -/
  stable : ∀ result, redactUntrustedTextPreservingLines interpreter value = .ok result →
    ∃ categories, replaceString false result.data = .ok (result.data, categories)
  /-- It shows nothing that is guarded. -/
  clean : ∀ result, redactUntrustedTextPreservingLines interpreter value = .ok result →
    Clean interpreter (.str (String.ofList result.data))

/-- A source that was accepted is one that was redacted, redacts to itself and passes the guard. -/
theorem preservingLines_ok {interpreter : Interpreter} {value : List Char}
    {result : RedactionResult}
    (returned : redactUntrustedTextPreservingLines interpreter value = .ok result) :
    ∃ categories others, replaceString true value = .ok (result.data, categories)
      ∧ replaceString false result.data = .ok (result.data, others)
      ∧ hasSensitiveData interpreter result.data = .ok false := by
  obtain ⟨⟨redacted, categories⟩, first, returned⟩ := except_bind_ok returned
  obtain ⟨-, returned⟩ := raiseIf_bind_ok.1 returned
  obtain ⟨-, returned⟩ := raiseIf_bind_ok.1 returned
  obtain ⟨⟨again, others⟩, second, returned⟩ := except_bind_ok returned
  obtain ⟨stable, returned⟩ := raiseIf_bind_ok.1 returned
  obtain ⟨⟨⟩, passed, returned⟩ := except_bind_ok returned
  cases returned
  rw [not_not.1 stable] at second
  exact ⟨categories, others, first, second, refuseSensitive_ok passed⟩

/-- Every source keeps its lines. -/
theorem keepsLines (interpreter : Interpreter) (value : List Char) :
    KeepsLines interpreter value := by
  constructor
  · intro redacted categories returned
    exact replaceString_counts returned
  · intro result returned
    obtain ⟨categories, -, first, -⟩ := preservingLines_ok returned
    exact replaceString_breaks first
  · intro result returned
    obtain ⟨-, others, -, second, -⟩ := preservingLines_ok returned
    exact ⟨others, second⟩
  · intro result returned
    obtain ⟨-, -, -, -, passed⟩ := preservingLines_ok returned
    exact clean_of_hasSensitiveString passed

end Lines

end Sastsimi.Contracts
