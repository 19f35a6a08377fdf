import Sastsimi.Discovery.Review

/-!
# Validated answers

An answer that passes the validation has one row for each candidate that was sent, and decides
each of them.
-/

namespace Sastsimi.Discovery

open Sastsimi.Lib Sastsimi.Runtime Sastsimi.Contracts

variable {value : List (String × Json)} {row : Json} {rows : List Json}
  {expected actual candidateIds : List String} {decision : Decision} {output : List Decision}

/-- The id that a row of an answer names. -/
def namedId (row : Json) : Option String := (row.get? "candidate_id").bind Json.str?

/-- What a validated row says. -/
structure Decision.Valid (decision : Decision) : Prop where
  status : decision.status ∈ decisions
  reason : isBlank decision.reason = false
  evidence : isBlank decision.evidence = false

/-- An answer with one valid row for each candidate, in any order. -/
structure NamesExactly (value : List (String × Json)) (candidateIds : List String)
    (output : List Decision) : Prop where
  rows : ∃ rows, value.lookup "decisions" = some (.arr rows) ∧
    (rows.map namedId).Perm (candidateIds.map some)
  ids : output.map (·.candidateId) = candidateIds
  valid : ∀ decision ∈ output, decision.Valid

theorem statusOf_ok {status : Option Json} {text : String}
    (found : statusOf status = .ok (some text)) : text ∈ decisions := by
  unfold statusOf at found
  split at found
  · cases found
  · cases found
  · rename_i status
    by_cases listed : status ∈ decisions
    · rw [if_pos listed] at found
      cases found
      exact listed
    · rw [if_neg listed] at found
      cases found
  · cases found

theorem proseOf_some {field : Option Json} {text : String} (found : proseOf field = some text) :
    isBlank text = false := by
  unfold proseOf at found
  obtain ⟨prose, -, kept⟩ := Option.bind_eq_some_iff.1 found
  split at kept
  · cases kept
  · cases kept
    rename_i filled
    simpa using filled

/-- A row that passes names a candidate that no row before names. -/
theorem readRow_ok (read : readRow expected actual row = .ok (.ok decision)) :
    namedId row = some decision.candidateId ∧ decision.candidateId ∈ expected ∧
      decision.candidateId ∉ actual ∧ decision.Valid := by
  unfold readRow at read
  split at read
  · rename_i fields
    simp only at read
    split at read
    · cases read
    · rename_i candidateId named
      split at read
      · cases read
      · rename_i known
        rw [not_or, not_not] at known
        obtain ⟨status, ofStatus, rest⟩ := except_bind_ok read
        split at rest
        · rename_i text reason evidence isReason isEvidence
          cases rest
          exact ⟨named, known.1, known.2, statusOf_ok ofStatus, proseOf_some isReason,
            proseOf_some isEvidence⟩
        · cases rest
  · cases read

/-- The rows that pass name distinct candidates. -/
theorem readRows_ok {before : List Decision}
    (distinct : (before.map (·.candidateId)).Nodup)
    (read : readRows expected before rows = .ok (.ok output)) :
    ∃ more, output = before ++ more ∧
      rows.map namedId = more.map (fun decision => some decision.candidateId) ∧
      (output.map (·.candidateId)).Nodup ∧
      ∀ decision ∈ more, decision.candidateId ∈ expected ∧ decision.Valid := by
  induction rows generalizing before with
  | nil =>
      cases read
      exact ⟨[], by simp, rfl, distinct, by simp⟩
  | cons row rest ih =>
      rw [readRows] at read
      obtain ⟨first, ofRow, continued⟩ := except_bind_ok read
      cases first with
      | error reason => cases continued
      | ok decision =>
          obtain ⟨named, known, fresh, valid⟩ := readRow_ok ofRow
          have distinctNext : ((before ++ [decision]).map (·.candidateId)).Nodup := by
            rw [List.map_append, List.map_singleton]
            exact List.nodup_append.2 ⟨distinct, by simp, by
              intro left member right last same
              rw [List.mem_singleton] at last
              exact fresh (last ▸ same ▸ member)⟩
          obtain ⟨more, rfl, names, distinctOutput, all⟩ := ih distinctNext continued
          refine ⟨decision :: more, by simp, ?_, distinctOutput, ?_⟩
          · rw [List.map_cons, List.map_cons, named, names]
          · exact List.forall_mem_cons.2 ⟨⟨known, valid⟩, all⟩

/-- The items that are looked up by their keys. -/
theorem map_filterMap_find {α κ : Type} [DecidableEq κ] {key : α → κ} {items : List α}
    {keys : List κ} (known : ∀ value ∈ keys, value ∈ items.map key) :
    (keys.filterMap fun value => items.find? fun item => key item = value).map key = keys := by
  induction keys with
  | nil => rfl
  | cons first rest ih =>
      obtain ⟨head, tail⟩ := List.forall_mem_cons.1 known
      obtain ⟨item, inside, isFirst⟩ := List.mem_map.1 head
      have isKnown : (items.find? fun item => key item = first).isSome = true :=
        List.find?_isSome.2 ⟨item, inside, decide_eq_true isFirst⟩
      obtain ⟨chosen, isChosen⟩ := Option.isSome_iff_exists.1 isKnown
      have keyOfChosen : key chosen = first := by simpa using List.find?_some isChosen
      rw [List.filterMap_cons, isChosen, List.map_cons, keyOfChosen, ih tail]

/-- A validated answer names exactly the candidates that were sent, each once. -/
theorem validate_ok (distinct : candidateIds.Nodup)
    (validated : validate value candidateIds = .ok (.ok output)) :
    NamesExactly value candidateIds output := by
  unfold validate at validated
  split at validated
  · rename_i rows found
    split at validated
    · cases validated
    · obtain ⟨first, read, continued⟩ := except_bind_ok validated
      cases first with
      | error reason => cases continued
      | ok read' =>
          simp only at continued
          split at continued
          · rename_i complete
            cases continued
            obtain ⟨more, isMore, names, distinctIds, all⟩ := readRows_ok (by simp) read
            rw [List.nil_append] at isMore
            subst isMore
            have same : (read'.map (·.candidateId)).Perm candidateIds := by
              rw [List.perm_ext_iff_of_nodup distinctIds distinct]
              intro candidateId
              constructor
              · intro member
                obtain ⟨decision, inside, rfl⟩ := List.mem_map.1 member
                exact (all decision inside).1
              · exact complete candidateId
            refine ⟨⟨rows, found, ?_⟩, ?_, ?_⟩
            · rw [names]
              simpa [List.map_map, Function.comp_def] using same.map some
            · exact map_filterMap_find complete
            · intro decision member
              obtain ⟨candidateId, -, chosen⟩ := List.mem_filterMap.1 member
              exact (all decision (List.mem_of_find?_eq_some chosen)).2
          · cases continued
  · cases validated

end Sastsimi.Discovery
