import Mathlib.Algebra.BigOperators.Group.List.Basic

/-!
# Programs that may raise

Conditions that raise, sequences of such programs, and loops that carry a state through a list.
What one turn of a loop adds to the state, and what one turn keeps, holds of the whole loop when
it returns.
-/

namespace Sastsimi.Lib

/-- Raise when a condition holds. -/
def raiseIf {ε : Type} (condition : Prop) [Decidable condition] (reason : ε) : Except ε Unit :=
  if condition then .error reason else .ok ()

@[simp] theorem raiseIf_ok {ε : Type} {condition : Prop} [Decidable condition] {reason : ε}
    {result : Unit} : raiseIf condition reason = .ok result ↔ ¬ condition := by
  unfold raiseIf
  split <;> simp_all

/-- A check that raises does so for its reason, when its condition holds. -/
theorem raised_of_raiseIf {ε : Type} {condition : Prop} [Decidable condition] {reason other : ε}
    (raised : raiseIf condition reason = .error other) : other = reason ∧ condition := by
  unfold raiseIf at raised
  split at raised
  · rename_i holds
    cases raised
    exact ⟨rfl, holds⟩
  · cases raised

/-- The value, or raise when there is none. -/
def required {ε α : Type} (value : Option α) (reason : ε) : Except ε α :=
  match value with
  | some value => .ok value
  | none => .error reason

@[simp] theorem required_ok {ε α : Type} {value : Option α} {reason : ε} {result : α} :
    required value reason = .ok result ↔ value = some result := by
  cases value <;> simp [required]

/-- Run a check only when it applies. -/
def checkIf {ε : Type} (applies : Prop) [Decidable applies] (check : Except ε Unit) :
    Except ε Unit :=
  if applies then check else .ok ()

@[simp] theorem checkIf_ok {ε : Type} {applies : Prop} [Decidable applies]
    {check : Except ε Unit} {result : Unit} :
    checkIf applies check = .ok result ↔ (applies → check = .ok ()) := by
  unfold checkIf
  split <;> simp_all

/-! ## Sequences -/

/-- A program that returns ran its first part and then the rest. -/
theorem except_bind_ok {ε α β : Type} {program : Except ε α} {next : α → Except ε β}
    {value : β} (returned : (program >>= next) = .ok value) :
    ∃ first, program = .ok first ∧ next first = .ok value := by
  cases program with
  | error reason => simp [bind, Except.bind] at returned
  | ok first => exact ⟨first, rfl, returned⟩

/-- A program that raises does so in its first part or in the rest. -/
theorem except_bind_error {ε α β : Type} {program : Except ε α} {next : α → Except ε β}
    {reason : ε} (raised : (program >>= next) = .error reason) :
    program = .error reason ∨ ∃ first, program = .ok first ∧ next first = .error reason := by
  cases program with
  | error other =>
      cases raised
      exact .inl rfl
  | ok first => exact .inr ⟨first, rfl, raised⟩

/-- A mapped program returns what it computes from the value of the program. -/
theorem except_map_ok {ε α β : Type} {program : Except ε α} {compute : α → β} {value : β}
    (returned : compute <$> program = .ok value) :
    ∃ first, program = .ok first ∧ compute first = value := by
  cases program with
  | error reason => cases returned
  | ok first => exact ⟨first, rfl, Except.ok.inj returned⟩

theorem raiseIf_bind_ok {ε α : Type} {condition : Prop} [Decidable condition] {reason : ε}
    {next : Unit → Except ε α} {value : α} :
    (raiseIf condition reason >>= next) = .ok value ↔ ¬ condition ∧ next () = .ok value := by
  unfold raiseIf
  split <;> simp_all [bind, Except.bind]

/-! ## Loops -/

/-- A loop that only checks returns when every item passes. -/
theorem forM_ok {ε α : Type} {check : α → Except ε Unit} {items : List α}
    (checked : forM items check = .ok ()) : ∀ item ∈ items, check item = .ok () := by
  induction items with
  | nil => exact fun _ member => absurd member List.not_mem_nil
  | cons first rest ih =>
      rw [List.forM_cons] at checked
      obtain ⟨_, head, tail⟩ := except_bind_ok checked
      intro item member
      rcases List.mem_cons.1 member with rfl | later
      · exact head
      · exact ih tail item later

/-- A loop that collects values returns those of its items. -/
theorem mem_mapM_ok {ε α β : Type} {compute : α → Except ε β} {items : List α}
    {results : List β} (computed : items.mapM compute = .ok results) (result : β) :
    result ∈ results ↔ ∃ item ∈ items, compute item = .ok result := by
  induction items generalizing results with
  | nil =>
      cases computed
      simp
  | cons first rest ih =>
      rw [List.mapM_cons] at computed
      obtain ⟨head, found, continued⟩ := except_bind_ok computed
      obtain ⟨tail, others, last⟩ := except_bind_ok continued
      cases last
      rw [List.mem_cons, ih others, List.exists_mem_cons_iff, found, Except.ok.injEq, eq_comm]

/-- A loop that collects values returns only when every item has one. -/
theorem mapM_ok_value {ε α β : Type} {compute : α → Except ε β} {items : List α}
    {results : List β} (computed : items.mapM compute = .ok results) {item : α}
    (member : item ∈ items) : ∃ result, compute item = .ok result := by
  induction items generalizing results with
  | nil => exact absurd member List.not_mem_nil
  | cons first rest ih =>
      rw [List.mapM_cons] at computed
      obtain ⟨head, found, continued⟩ := except_bind_ok computed
      obtain ⟨tail, others, -⟩ := except_bind_ok continued
      rcases List.mem_cons.1 member with rfl | later
      · exact ⟨head, found⟩
      · exact ih others later

/-- A loop whose every item has a value collects them in order. -/
theorem mapM_of_ok {ε α β : Type} {compute : α → Except ε β} {value : α → β} {items : List α}
    (computed : ∀ item ∈ items, compute item = .ok (value item)) :
    items.mapM compute = .ok (items.map value) := by
  induction items with
  | nil => rfl
  | cons first rest ih =>
      obtain ⟨head, tail⟩ := List.forall_mem_cons.1 computed
      rw [List.mapM_cons, head, ih tail]
      rfl

/-- A loop that collects values collects the ones its items determine. -/
theorem mapM_ok_eq {ε α β : Type} {compute : α → Except ε β} {value : α → β} {items : List α}
    {results : List β} (determined : ∀ item result, compute item = .ok result → result = value item)
    (computed : items.mapM compute = .ok results) : results = items.map value := by
  induction items generalizing results with
  | nil =>
      cases computed
      rfl
  | cons first rest ih =>
      rw [List.mapM_cons] at computed
      obtain ⟨head, found, continued⟩ := except_bind_ok computed
      obtain ⟨tail, others, last⟩ := except_bind_ok continued
      cases last
      rw [List.map_cons, determined first head found, ih others]

/-- A loop that collects values returns them where every item has one. -/
theorem mapM_ok_iff {ε α β : Type} {compute : α → Except ε β} {items : List α}
    {results : List β} :
    items.mapM compute = .ok results ↔ items.map compute = results.map .ok := by
  induction items generalizing results with
  | nil =>
      rw [List.mapM_nil, List.map_nil, eq_comm (a := []), List.map_eq_nil_iff]
      simp [pure, Except.pure, eq_comm]
  | cons first rest ih =>
      rw [List.mapM_cons, List.map_cons]
      cases found : compute first with
      | error reason =>
          simp only [bind, Except.bind, reduceCtorEq, false_iff]
          intro same
          cases results <;> simp at same
      | ok value =>
          cases results with
          | nil =>
              simp only [bind, Except.bind, List.map_nil, reduceCtorEq, iff_false]
              cases rest.mapM compute <;> simp [pure, Except.pure]
          | cons result others =>
              rw [List.map_cons, List.cons.injEq, ← ih, Except.ok.injEq]
              simp only [bind, Except.bind]
              cases rest.mapM compute <;> simp [pure, Except.pure]

/-- A loop that collects values pairs each item with its value. -/
theorem forall₂_of_mapM {ε α β : Type} {compute : α → Except ε β} {items : List α}
    {results : List β} (computed : items.mapM compute = .ok results) :
    List.Forall₂ (fun item result => compute item = .ok result) items results := by
  induction items generalizing results with
  | nil =>
      cases computed
      exact .nil
  | cons first rest ih =>
      rw [List.mapM_cons] at computed
      obtain ⟨head, found, continued⟩ := except_bind_ok computed
      obtain ⟨tail, others, last⟩ := except_bind_ok continued
      cases last
      exact .cons found (ih others)

/-- Items whose computed values are changed have values themselves. -/
theorem map_ok_of_changed {ε α β γ : Type} {compute : α → Except ε β} {change : β → γ}
    {items : List α} {results : List γ}
    (changed : (items.map fun item => (compute item).map change) = results.map .ok) :
    ∃ values : List β, items.map compute = values.map .ok ∧ values.map change = results := by
  induction items generalizing results with
  | nil =>
      cases results with
      | nil => exact ⟨[], rfl, rfl⟩
      | cons result others => cases changed
  | cons first rest ih =>
      cases results with
      | nil => cases changed
      | cons result others =>
          rw [List.map_cons, List.map_cons, List.cons.injEq] at changed
          obtain ⟨values, computed, same⟩ := ih changed.2
          obtain ⟨value, found, rfl⟩ := except_map_ok changed.1
          exact ⟨value :: values, by rw [List.map_cons, List.map_cons, found, computed],
            by rw [List.map_cons, same]⟩

/-- Items with the same computed values are related when values determine the relation. -/
theorem forall₂_of_map_ok {ε α β : Type} {compute : α → Except ε β} {relation : α → α → Prop}
    {items others : List α} {results : List β} (computed : items.map compute = results.map .ok)
    (same : items.map compute = others.map compute)
    (related : ∀ item ∈ items, ∀ other result, compute item = .ok result →
      compute other = .ok result → relation item other) : List.Forall₂ relation items others := by
  induction items generalizing others results with
  | nil =>
      cases others with
      | nil => exact .nil
      | cons other others => cases same
  | cons first rest ih =>
      cases others with
      | nil => cases same
      | cons other others =>
          cases results with
          | nil => cases computed
          | cons result results =>
              rw [List.map_cons, List.map_cons, List.cons.injEq] at computed same
              refine .cons (related first List.mem_cons_self other result computed.1
                (same.1 ▸ computed.1)) (ih computed.2 same.2 ?_)
              exact fun item member => related item (List.mem_cons_of_mem _ member)

/-- A traversal that finds every value returns those of its items. -/
theorem mem_mapM_some {α β : Type} {compute : α → Option β} {items : List α} {results : List β}
    (computed : items.mapM compute = some results) (result : β) :
    result ∈ results ↔ ∃ item ∈ items, compute item = some result := by
  induction items generalizing results with
  | nil =>
      cases computed
      simp
  | cons first rest ih =>
      simp only [List.mapM_cons, bind, Option.bind_eq_some_iff] at computed
      obtain ⟨head, found, tail, others, last⟩ := computed
      cases last
      rw [List.mem_cons, ih others, List.exists_mem_cons_iff, found, Option.some.injEq, eq_comm]

/-- A program that raises for one reason only. -/
def RaisesOnly {ε α : Type} (reason : ε) (program : Except ε α) : Prop :=
  ∀ other, program = .error other → other = reason

/-- A program that does not return raises for its only reason. -/
theorem RaisesOnly.raises {ε α : Type} {reason : ε} {program : Except ε α}
    (only : RaisesOnly reason program) (fails : ∀ value, program ≠ .ok value) :
    program = .error reason := by
  cases found : program with
  | ok value => exact absurd found (fails value)
  | error other => rw [only other found]

theorem RaisesOnly.bind {ε α β : Type} {reason : ε} {program : Except ε α}
    {next : α → Except ε β} (only : RaisesOnly reason program)
    (rest : ∀ value, RaisesOnly reason (next value)) : RaisesOnly reason (program >>= next) := by
  intro other raised
  rcases except_bind_error raised with first | ⟨value, -, later⟩
  · exact only other first
  · exact rest value other later

theorem RaisesOnly.mapM {ε α β : Type} {reason : ε} {compute : α → Except ε β}
    (only : ∀ item, RaisesOnly reason (compute item)) (items : List α) :
    RaisesOnly reason (items.mapM compute) := by
  induction items with
  | nil => exact fun other raised => nomatch raised
  | cons first rest ih =>
      rw [List.mapM_cons]
      refine (only first).bind fun head => ih.bind fun tail => ?_
      exact fun other raised => nomatch raised

/-- A program that raises for allowed reasons only. -/
def RaisesWithin {ε α : Type} (allowed : ε → Prop) (program : Except ε α) : Prop :=
  ∀ reason, program = .error reason → allowed reason

theorem RaisesWithin.ok {ε α : Type} {allowed : ε → Prop} (value : α) :
    RaisesWithin allowed (.ok value : Except ε α) := fun _ raised => nomatch raised

theorem RaisesWithin.bind {ε α β : Type} {allowed : ε → Prop} {program : Except ε α}
    {next : α → Except ε β} (first : RaisesWithin allowed program)
    (rest : ∀ value, program = .ok value → RaisesWithin allowed (next value)) :
    RaisesWithin allowed (program >>= next) := by
  intro reason raised
  rcases except_bind_error raised with early | ⟨value, ran, later⟩
  · exact first reason early
  · exact rest value ran reason later

theorem RaisesWithin.mapError {ε δ α : Type} {allowed : δ → Prop} {program : Except ε α}
    {change : ε → δ} (each : ∀ reason, allowed (change reason)) :
    RaisesWithin allowed (program.mapError change) := by
  intro reason raised
  cases program with
  | ok value => cases raised
  | error original =>
      cases raised
      exact each original

theorem RaisesWithin.required {ε α : Type} {allowed : ε → Prop} {value : Option α} {reason : ε}
    (fine : allowed reason) : RaisesWithin allowed (required value reason) := by
  intro other raised
  cases value with
  | none =>
      cases raised
      exact fine
  | some found => cases raised

theorem RaisesWithin.raiseIf {ε : Type} {allowed : ε → Prop} {condition : Prop}
    [Decidable condition] {reason : ε} (fine : allowed reason) :
    RaisesWithin allowed (raiseIf condition reason) := by
  intro other raised
  unfold Lib.raiseIf at raised
  split at raised
  · cases raised
    exact fine
  · cases raised

theorem RaisesWithin.mapM {ε α β : Type} {allowed : ε → Prop} {compute : α → Except ε β}
    {items : List α} (each : ∀ item ∈ items, RaisesWithin allowed (compute item)) :
    RaisesWithin allowed (items.mapM compute) := by
  induction items with
  | nil => exact .ok []
  | cons first rest ih =>
      rw [List.mapM_cons]
      apply (each first List.mem_cons_self).bind
      intro head _
      apply (ih fun item member => each item (List.mem_cons_of_mem _ member)).bind
      intro tail _
      exact .ok (head :: tail)

/-- A loop that collects values raises where the value of an item does. -/
theorem mapM_error {ε α β : Type} {compute : α → Except ε β} {items : List α} {reason : ε}
    (raised : items.mapM compute = .error reason) :
    ∃ item ∈ items, compute item = .error reason := by
  have within : RaisesWithin (fun reason => ∃ item ∈ items, compute item = .error reason)
      (items.mapM compute) :=
    RaisesWithin.mapM fun item member reason failed => ⟨item, member, failed⟩
  exact within reason raised

variable {σ ε α : Type} {step : σ → α → Except ε σ} {items : List α} {state after : σ}

theorem RaisesWithin.foldlM {allowed : ε → Prop}
    (each : ∀ state, ∀ item ∈ items, RaisesWithin allowed (step state item)) :
    RaisesWithin allowed (items.foldlM step state) := by
  induction items generalizing state with
  | nil => exact .ok state
  | cons item rest ih =>
      rw [List.foldlM_cons]
      apply (each state item List.mem_cons_self).bind
      intro next _
      exact ih fun state other member => each state other (List.mem_cons_of_mem _ member)

/-- A loop over one more item is a turn and a loop over the rest. -/
theorem foldlM_cons_ok {item : α} (looped : (item :: items).foldlM step state = .ok after) :
    ∃ next, step state item = .ok next ∧ items.foldlM step next = .ok after := by
  rw [List.foldlM_cons] at looped
  exact except_bind_ok looped

/-- A loop raises for the reason that its turns raise for. -/
theorem RaisesOnly.foldlM {reason : ε} (only : ∀ state item, RaisesOnly reason (step state item)) :
    RaisesOnly reason (items.foldlM step state) := by
  induction items generalizing state with
  | nil => exact fun other raised => nomatch raised
  | cons item rest ih =>
      rw [List.foldlM_cons]
      exact (only state item).bind fun next => ih

/-- When every turn adds its item's share to what is marked, the loop adds the shares of all
items. -/
theorem foldlM_adds (marked : σ → Prop) {adds : α → Prop}
    (turn : ∀ {state item next}, item ∈ items → step state item = .ok next →
      (marked next ↔ marked state ∨ adds item))
    (looped : items.foldlM step state = .ok after) :
    marked after ↔ marked state ∨ ∃ item ∈ items, adds item := by
  induction items generalizing state with
  | nil =>
      have unchanged : state = after := by simpa [pure, Except.pure] using looped
      simp [unchanged]
  | cons item rest ih =>
      obtain ⟨next, turned, continued⟩ := foldlM_cons_ok looped
      rw [ih (fun member => turn (List.mem_cons_of_mem _ member)) continued,
        turn List.mem_cons_self turned, or_assoc]
      simp

/-- What every turn keeps holds after the loop. -/
theorem foldlM_keeps {holds : σ → Prop}
    (turn : ∀ {state item next}, item ∈ items → step state item = .ok next → holds state →
      holds next)
    (looped : items.foldlM step state = .ok after) (initially : holds state) : holds after := by
  induction items generalizing state with
  | nil =>
      have unchanged : state = after := by simpa [pure, Except.pure] using looped
      exact unchanged ▸ initially
  | cons item rest ih =>
      obtain ⟨next, turned, continued⟩ := foldlM_cons_ok looped
      exact ih (fun member => turn (List.mem_cons_of_mem _ member)) continued
        (turn List.mem_cons_self turned initially)

/-- When every turn adds its item's share to a measure, the loop adds the sum of the shares. -/
theorem foldlM_measure {μ : Type} [AddMonoid μ] (measure : σ → μ) {share : α → μ}
    {holds : σ → Prop}
    (turn : ∀ {state item next}, item ∈ items → step state item = .ok next → holds state →
      holds next ∧ measure next = measure state + share item)
    (looped : items.foldlM step state = .ok after) (initially : holds state) :
    measure after = measure state + (items.map share).sum := by
  induction items generalizing state with
  | nil =>
      have unchanged : state = after := by simpa [pure, Except.pure] using looped
      rw [unchanged, List.map_nil, List.sum_nil, add_zero]
  | cons item rest ih =>
      obtain ⟨next, turned, continued⟩ := foldlM_cons_ok looped
      obtain ⟨kept, added⟩ := turn List.mem_cons_self turned initially
      rw [ih (fun member => turn (List.mem_cons_of_mem _ member)) continued kept, added,
        List.map_cons, List.sum_cons, add_assoc]

end Sastsimi.Lib
