import Sastsimi.Storage.BudgetRows

/-!
# Conservation of the budget

What open reservations request and what the ledger debits never exceeds the limit of the run's
profile by more than the committed overruns, whatever calls have been made.  The invariant is
kept by every write, and every call is a sequence of writes.
-/

namespace Sastsimi.Storage

open Lib Sastsimi.Runtime

variable [ContentHash] {retiring : Bool} {before after : Store}

namespace Store

variable (store : Store)

/-! ## Totals -/

/-- What a row of `budget_reservations` holds back in an analysis. -/
def heldUnits (analysisId : String) (field : UnitField) (row : ReservationRow) : Nat :=
  if row.analysisId = analysisId ∧ row.status = .reserved then row.payload.requestedUnits.get field
  else 0

/-- What the open reservations of an analysis request. -/
def reservedTotal (analysisId : String) (field : UnitField) : Nat :=
  store.reservations.total (heldUnits analysisId field)

/-- What a row of `budget_ledger_entries` debits in an analysis. -/
def debitedUnits (analysisId : String) (field : UnitField) (row : LedgerRow) : Nat :=
  if row.analysisId = analysisId then row.payload.actualUnits.get field else 0

/-- What the ledger entries of an analysis debit. -/
def debitedTotal (analysisId : String) (field : UnitField) : Nat :=
  store.ledger.total (debitedUnits analysisId field)

/-- What a reservation requested. -/
def requestedOf (reservationId : String) (field : UnitField) : Nat :=
  ((store.reservations.find reservationId).map fun row => row.payload.requestedUnits.get field).getD 0

/-- What a ledger row debits beyond its reservation. -/
def overrunUnits (analysisId : String) (field : UnitField) (row : LedgerRow) : Nat :=
  if row.analysisId = analysisId then
    row.payload.actualUnits.get field - store.requestedOf row.reservationId field
  else 0

/-- What the ledger entries of an analysis debit beyond their reservations. -/
def overrunTotal (analysisId : String) (field : UnitField) : Nat :=
  store.ledger.total (store.overrunUnits analysisId field)

/-- The units in use are within limits, up to the overruns. -/
def Within (analysisId : String) (limit : UnitField → Nat) : Prop :=
  ∀ field, store.reservedTotal analysisId field + store.debitedTotal analysisId field
    ≤ limit field + store.overrunTotal analysisId field

variable {store}

omit [ContentHash] in
/-- The units `available` adds up are the totals. -/
theorem totalUnits_used (analysisId : String) (field : UnitField) :
    totalUnits field (store.usedUnits analysisId none)
      = store.reservedTotal analysisId field + store.debitedTotal analysisId field := by
  have unfiltered : (store.reservedRows analysisId).filter
      (fun row => decide (some row.payload.reservationId ≠ none)) = store.reservedRows analysisId := by
    simp
  rw [totalUnits, usedUnits, unfiltered, List.map_append, List.sum_append, List.map_map,
    List.map_map, reservedRows, ledgerRows, sum_filter, sum_filter]
  simp only [Function.comp_def, decide_eq_true_eq]
  rfl

end Store

/-! ## The ledger -/

/-- The columns of a ledger row repeat its entry, which is recorded and settles a committed
reservation. -/
structure LedgerHolds (store : Store) (row : LedgerRow) : Prop where
  analysis : row.payload.metadata.analysisId = row.analysisId
  sequence : row.payload.sequence = row.sequence
  recorded : store.resolve (reference (.ledgerEntry row.payload)) = .ok (.ledgerEntry row.payload)
  committed : ∃ reservation, store.reservations.find row.reservationId = some reservation
    ∧ reservation.status = .committed ∧ reservation.analysisId = row.analysisId
    ∧ reservation.payload.ledgerEntryRef = some (reference (.ledgerEntry row.payload))

/-- What the ledger holds in every reached store. -/
structure LedgerInvariant (store : Store) : Prop where
  rows : ∀ row ∈ store.ledger.rows, LedgerHolds store row
  once : (store.ledger.rows.map LedgerRow.reservationId).Nodup
  covered : ∀ row ∈ store.reservations.rows, row.status = .committed →
    row.reservationId ∈ store.ledger.rows.map LedgerRow.reservationId
  numbered : ∀ analysisId, (store.ledgerRows analysisId).map LedgerRow.sequence
    = List.range' 1 (store.ledgerRows analysisId).length

omit [ContentHash] in
/-- The largest number of a consecutive ledger is its length. -/
theorem foldl_max_range' (count : Nat) : (List.range' 1 count).foldl max 0 = count := by
  induction count with
  | zero => rfl
  | succ count ih =>
      rw [List.range'_concat, List.foldl_append, ih]
      simp only [List.foldl_cons, List.foldl_nil]
      omega

/-- An entry with the next number continues the numbering of its analysis. -/
theorem LedgerInvariant.numbered_commit (ledger : LedgerInvariant before) {reservationId : String}
    {entry : BudgetLedgerEntry}
    (appended : after.ledger.rows = before.ledger.rows ++ [Store.ledgerRow reservationId entry])
    (numbered : entry.sequence =
      ((before.ledgerRows entry.metadata.analysisId).map fun row => row.payload.sequence).foldl
        max 0 + 1) (analysisId : String) :
    (after.ledgerRows analysisId).map LedgerRow.sequence
      = List.range' 1 (after.ledgerRows analysisId).length := by
  have earlier := ledger.numbered analysisId
  have filtered : after.ledgerRows analysisId
      = before.ledgerRows analysisId ++
        if entry.metadata.analysisId = analysisId then [Store.ledgerRow reservationId entry]
        else [] := by
    rw [Store.ledgerRows, appended, List.filter_append, Store.ledgerRows, List.filter_cons,
      List.filter_nil]
    by_cases own : entry.metadata.analysisId = analysisId <;> simp [Store.ledgerRow, own]
  rw [filtered]
  split
  · rename_i own
    subst own
    have columns : (before.ledgerRows entry.metadata.analysisId).map
        (fun row => row.payload.sequence)
        = (before.ledgerRows entry.metadata.analysisId).map LedgerRow.sequence := by
      apply List.map_congr_left
      intro row member
      exact (ledger.rows row (List.mem_filter.1 member).1).sequence
    rw [columns, earlier, foldl_max_range'] at numbered
    rw [List.map_append, List.length_append, earlier, List.length_singleton, List.range'_concat]
    simp [Store.ledgerRow, numbered, Nat.add_comm]
  · rw [List.append_nil]
    exact earlier

section Step

variable (hold : RowsHold before) (ledger : LedgerInvariant before) (written : Written retiring before after)

include hold written

/-- An entry still settles its reservation after a write. -/
theorem LedgerHolds.step {row : LedgerRow} (holds : LedgerHolds before row) :
    LedgerHolds after row := by
  obtain ⟨reservation, found, committed, analysis, named⟩ := holds.committed
  obtain ⟨later, stored, change⟩ := written.write.find_of hold found
  have settled : reservation.payload.status ≠ .reserved := by
    rw [(hold reservation (Table.find_eq_some.1 found).1).status, committed]
    decide
  obtain ⟨payload, status⟩ := change.keeps.settled settled
  exact
    { analysis := holds.analysis
      sequence := holds.sequence
      recorded := written.grows.resolve holds.recorded
      committed := ⟨later, stored, status.trans committed,
        change.keeps.analysisId.trans analysis, payload ▸ named⟩ }

include ledger

/-- A committed reservation has an entry after a write. -/
theorem LedgerInvariant.covered_step :
    ∀ row ∈ after.reservations.rows, row.status = .committed →
      row.reservationId ∈ after.ledger.rows.map LedgerRow.reservationId := by
  have grown : ∀ {reservationId : String},
      reservationId ∈ before.ledger.rows.map LedgerRow.reservationId →
      reservationId ∈ after.ledger.rows.map LedgerRow.reservationId := by
    intro reservationId member
    cases written.write with
    | commit _ _ _ _ _ _ _ _ _ _ _ _ inserted =>
        rw [(Table.insert_eq_some.1 inserted).2, List.map_append]
        exact List.mem_append_left _ member
    | keep _ same | reserve _ _ _ _ _ _ same | claim _ _ _ _ same | release _ _ _ _ _ _ _ same
    | retire _ _ _ _ _ _ _ same => rwa [same]
  intro later member committed
  rcases written.write.row_of hold member with ⟨row, stored, change⟩ | ⟨_, _, _, _, new, rfl, _⟩
  · rw [change.keeps.reservationId]
    cases change with
    | same unchanged => exact grown (ledger.covered row stored (unchanged ▸ committed))
    | claim opened claimed =>
        subst claimed
        exact absurd (opened.symm.trans committed) (by decide)
    | release _ _ released _ closed | retire _ _ _ released closed =>
        subst closed
        exact absurd (released.symm.trans committed) (by decide)
    | commit _ _ _ debited _ => exact debited
  · exact absurd (new.opened.symm.trans committed) (by decide)

theorem LedgerInvariant.step : LedgerInvariant after := by
  have kept : ∀ row ∈ before.ledger.rows, LedgerHolds after row :=
    fun row member => (ledger.rows row member).step hold written
  have covered := ledger.covered_step hold written
  cases written.write with
  | keep _ same | reserve _ _ _ _ _ _ same | claim _ _ _ _ same | release _ _ _ _ _ _ _ same
  | retire _ _ _ _ _ _ _ same =>
      exact
        { rows := by rwa [same]
          once := by rw [same]; exact ledger.once
          covered := covered
          numbered := by
            intro analysisId
            rw [Store.ledgerRows, same]
            exact ledger.numbered analysisId }
  | commit row entry current found fresh valid committed named recorded analysis numbered
      reservations inserted =>
      have appended := (Table.insert_eq_some.1 inserted).2
      have holds := hold row (Table.find_eq_some.1 found).1
      have within : entry.metadata.analysisId = row.analysisId := analysis.trans holds.analysis
      have located : after.reservations.find row.reservationId = some (row.finalized current) := by
        rw [reservations, hold.find_closed found valid, if_pos rfl]
      have debited : LedgerHolds after (Store.ledgerRow row.reservationId entry) :=
        { analysis := rfl
          sequence := rfl
          recorded := recorded
          committed := ⟨_, located, committed, within.symm, named⟩ }
      have unsettled : row.reservationId ∉ before.ledger.rows.map LedgerRow.reservationId := by
        intro member
        obtain ⟨other, stored, same⟩ := List.mem_map.1 member
        have absent := List.find?_eq_none.1 fresh other stored
        simp [same] at absent
      refine
        { rows := ?_
          once := ?_
          covered := covered
          numbered := ?_ }
      · intro other member
        rw [appended, List.mem_append, List.mem_singleton] at member
        rcases member with old | new
        · exact kept other old
        · exact new ▸ debited
      · rw [appended, List.map_append, List.nodup_append]
        refine ⟨ledger.once, by simp, ?_⟩
        intro first member second last same
        rw [List.map_singleton, List.mem_singleton] at last
        have own : second = row.reservationId := last
        exact unsettled (own ▸ same ▸ member)
      · intro analysisId
        exact ledger.numbered_commit appended numbered analysisId

/-! ## Conservation -/

omit ledger in
/-- No write changes what a reservation requested. -/
theorem Written.requestedOf {reservationId : String} {row : ReservationRow}
    (found : before.reservations.find reservationId = some row) (field : UnitField) :
    after.requestedOf reservationId field = before.requestedOf reservationId field := by
  obtain ⟨later, stored, change⟩ := written.write.find_of hold found
  rw [Store.requestedOf, Store.requestedOf, stored, found, Option.map_some, Option.map_some,
    change.keeps.requestedUnits]

/-- The overruns of the earlier entries stay. -/
theorem Written.overrunUnits (analysisId : String) (field : UnitField) :
    before.ledger.total (after.overrunUnits analysisId field)
      = before.overrunTotal analysisId field := by
  apply Table.total_congr
  intro row member
  obtain ⟨reservation, found, _⟩ := (ledger.rows row member).committed
  rw [Store.overrunUnits, Store.overrunUnits, written.requestedOf hold found]

/-- A write that holds back no more and debits nothing stays within limits. -/
theorem Written.within_same {analysisId : String} {limit : UnitField → Nat}
    (same : after.ledger = before.ledger)
    (less : ∀ field, after.reservedTotal analysisId field ≤ before.reservedTotal analysisId field)
    (within : before.Within analysisId limit) : after.Within analysisId limit := by
  intro field
  have earlier := within field
  have smaller := less field
  have overruns := written.overrunUnits hold ledger analysisId field
  rw [Store.overrunTotal, Store.debitedTotal, same, overruns]
  rw [Store.debitedTotal] at earlier
  omega

omit ledger written in
/-- A settled reservation holds nothing back any more. -/
theorem RowsHold.closed_total {row : ReservationRow} {current : BudgetReservation}
    (found : before.reservations.find row.reservationId = some row)
    (valid : validateReservationRevision row.payload current = .ok ()) (analysisId : String)
    (field : UnitField) :
    (before.closedRows current).total (Store.heldUnits analysisId field)
      + Store.heldUnits analysisId field row = before.reservedTotal analysisId field := by
  have named : current.reservationId = row.reservationId :=
    (validateReservationRevision_ok valid).2.2.1.trans
      (hold row (Table.find_eq_some.1 found).1).identified
  have settled : Store.heldUnits analysisId field (row.finalized current) = 0 := by
    rw [Store.heldUnits, if_neg]
    exact fun holding => (validateReservationRevision_ok valid).2.1 holding.2
  have replaced : (before.closedRows current).total (Store.heldUnits analysisId field)
      + Store.heldUnits analysisId field row = before.reservations.total
        (Store.heldUnits analysisId field) + Store.heldUnits analysisId field (row.finalized current) :=
    Table.total_update_one found (by simp [named]) _
  rw [settled, Nat.add_zero] at replaced
  exact replaced

/-- A commit moves what was held back to the debits, and debits the overrun beyond it. -/
theorem Written.within_commit {analysisId : String} {limit : UnitField → Nat}
    {row : ReservationRow} {entry : BudgetLedgerEntry} {current : BudgetReservation}
    (found : before.reservations.find row.reservationId = some row)
    (valid : validateReservationRevision row.payload current = .ok ())
    (analysis : entry.metadata.analysisId = row.payload.metadata.analysisId)
    (reservations : after.reservations = before.closedRows current)
    (inserted : before.ledger.insert (Store.ledgerRow row.reservationId entry) = some after.ledger)
    (within : before.Within analysisId limit) : after.Within analysisId limit := by
  intro field
  have earlier := within field
  have holds := hold row (Table.find_eq_some.1 found).1
  have own : entry.metadata.analysisId = row.analysisId := analysis.trans holds.analysis
  have opened : row.status = .reserved :=
    holds.status.symm.trans (validateReservationRevision_ok valid).1
  have reserved := hold.closed_total found valid analysisId field
  have debited : after.debitedTotal analysisId field = before.debitedTotal analysisId field
      + Store.debitedUnits analysisId field (Store.ledgerRow row.reservationId entry) :=
    Table.total_insert inserted _
  have overrun : after.overrunTotal analysisId field
      = before.ledger.total (after.overrunUnits analysisId field)
        + after.overrunUnits analysisId field (Store.ledgerRow row.reservationId entry) :=
    Table.total_insert inserted _
  have requested : after.requestedOf row.reservationId field
      = row.payload.requestedUnits.get field := by
    rw [written.requestedOf hold found, Store.requestedOf, found]
    rfl
  rw [written.overrunUnits hold ledger] at overrun
  rw [Store.reservedTotal, reservations, debited, overrun]
  simp only [Store.heldUnits, Store.debitedUnits, Store.overrunUnits, Store.ledgerRow, own,
    opened, requested, and_true] at reserved ⊢
  split
  · rename_i same
    rw [if_pos same] at reserved
    omega
  · rename_i differs
    rw [if_neg differs] at reserved
    omega

/-- A write keeps the units in use within limits, when an admission fits into what they leave. -/
theorem Written.within {analysisId : String} {limit : UnitField → Nat}
    (fits : ∀ {evidence reservation work action}, Admission before evidence reservation work action →
      reservation.metadata.analysisId = analysisId → ∀ field,
      reservation.requestedUnits.get field ≤ limit field
        - (before.reservedTotal analysisId field + before.debitedTotal analysisId field))
    (within : before.Within analysisId limit) : after.Within analysisId limit := by
  cases written.write with
  | keep reservations same =>
      apply written.within_same hold ledger same _ within
      intro field
      rw [Store.reservedTotal, reservations, Store.reservedTotal]
  | reserve evidence reservation work action admission inserted same =>
      intro field
      have earlier := within field
      have overruns := written.overrunUnits hold ledger analysisId field
      have reserved : after.reservedTotal analysisId field
          = before.reservedTotal analysisId field + Store.heldUnits analysisId field
            (Store.newReservation evidence reservation work action) :=
        Table.total_insert inserted _
      rw [reserved, Store.overrunTotal, Store.debitedTotal, same, overruns]
      rw [Store.debitedTotal] at earlier
      rw [Store.heldUnits]
      split
      · rename_i own
        have fitted : (Store.newReservation evidence reservation work action).payload.requestedUnits.get
            field ≤ _ := fits admission own.1 field
        rw [Store.debitedTotal] at fitted
        omega
      · omega
  | claim row found opened reservations same =>
      apply written.within_same hold ledger same _ within
      intro field
      have claimed : (before.reservations.update
          (fun other => decide (other.reservationId = row.reservationId))
          (fun other => other.withClaim true)
          (fun other => other.withClaim_reservationId true)).total
          (Store.heldUnits analysisId field) = before.reservedTotal analysisId field :=
        Table.total_update fun _ _ _ => rfl
      rw [Store.reservedTotal, reservations]
      exact Nat.le_of_eq claimed
  | release row current found unclaimed valid released reservations same =>
      apply written.within_same hold ledger same _ within
      intro field
      have closed := hold.closed_total found valid analysisId field
      rw [Store.reservedTotal, reservations]
      omega
  | retire _ row current found valid released reservations same =>
      apply written.within_same hold ledger same _ within
      intro field
      have closed := hold.closed_total found valid analysisId field
      have cleared : after.reservations.total (Store.heldUnits analysisId field)
          = (before.closedRows current).total (Store.heldUnits analysisId field) := by
        rw [reservations]
        exact Table.total_update fun _ _ _ => rfl
      rw [Store.reservedTotal, cleared]
      omega
  | commit row entry current found fresh valid committed named recorded analysis numbered
      reservations inserted =>
      exact written.within_commit hold ledger found valid analysis reservations inserted within

end Step

/-- The units in use are within the limits of the run's profile, up to the overruns. -/
def Conserved (store : Store) : Prop :=
  ∀ analysisId profile, store.runProfile analysisId = .ok profile →
    store.Within analysisId profile.limit

/-- An analysis without a profile has no reservation and no entry. -/
theorem within_idle (hold : RowsHold before) (ledger : LedgerInvariant before)
    {analysisId : String} (idle : ∀ profile, before.runProfile analysisId ≠ .ok profile)
    (limit : UnitField → Nat) : before.Within analysisId limit := by
  have unreserved : ∀ row ∈ before.reservations.rows, row.analysisId ≠ analysisId := by
    intro row member same
    obtain ⟨profile, limited⟩ := (hold row member).limited
    exact idle profile (same ▸ limited)
  have undebited : ∀ row ∈ before.ledger.rows, row.analysisId ≠ analysisId := by
    intro row member same
    obtain ⟨reservation, found, _, analysis, _⟩ := (ledger.rows row member).committed
    exact unreserved reservation (Table.find_eq_some.1 found).1 (analysis.trans same)
  intro field
  have reserved : before.reservedTotal analysisId field = before.reservations.total fun _ => 0 :=
    Table.total_congr fun row member => if_neg fun held => unreserved row member held.1
  have debited : before.debitedTotal analysisId field = before.ledger.total fun _ => 0 :=
    Table.total_congr fun row member => if_neg (undebited row member)
  rw [reserved, debited]
  simp [Table.total]

/-- Every write conserves the budget. -/
theorem Written.conserved (hold : RowsHold before) (ledger : LedgerInvariant before)
    (written : Written retiring before after) (conserved : Conserved before) : Conserved after := by
  intro analysisId profile limited
  have within : before.Within analysisId profile.limit := by
    by_cases earlier : ∃ earlier, before.runProfile analysisId = .ok earlier
    · obtain ⟨named, stored⟩ := earlier
      have same := (written.grows.runProfile stored).symm.trans limited
      cases same
      exact conserved analysisId _ stored
    · exact within_idle hold ledger (fun profile stored => earlier ⟨profile, stored⟩) _
  refine written.within hold ledger ?_ within
  intro evidence reservation work action admission own field
  obtain ⟨admitting, stored, fits⟩ := admission.fits
  rw [own] at stored fits
  have same := (written.grows.runProfile stored).symm.trans limited
  cases same
  rw [← Store.totalUnits_used]
  exact fits field

/-- The ledger and the totals of every reached store. -/
structure BudgetInvariant (store : Store) : Prop where
  ledger : LedgerInvariant store
  conserved : Conserved store

theorem reached_budget (events : List BudgetEvent) : BudgetInvariant (reached events) := by
  apply reached_keeps events
  · intro before after hold written holds
    exact ⟨holds.ledger.step hold written, written.conserved hold holds.ledger holds.conserved⟩
  · constructor
    · exact
        { rows := fun _ member => absurd member List.not_mem_nil
          once := List.nodup_nil
          covered := fun _ member => absurd member List.not_mem_nil
          numbered := fun _ => rfl }
    · intro analysisId profile _ field
      exact Nat.zero_le _

/-! ## Runs -/

theorem reached_append (events more : List BudgetEvent) :
    reached (events ++ more) = runCalls perform (reached events) more :=
  runCalls_append

/-- A row stays along every run, with what it reserved, and is settled at most once. -/
theorem reached_find (events more : List BudgetEvent) {reservationId : String}
    {row : ReservationRow}
    (found : (reached events).reservations.find reservationId = some row) :
    ∃ later, (reached (events ++ more)).reservations.find reservationId = some later
      ∧ RowKeeps row later := by
  rw [reached_append]
  have hold := reached_rowsHold events
  exact (runCalls_writes more hold).find_of hold found

/-- An event keeps the claim of a row, unless it retires the row's undispatched request. -/
theorem perform_claimed (event : BudgetEvent) (hold : RowsHold before) {reservationId : String}
    {row : ReservationRow} (found : before.reservations.find reservationId = some row)
    (claimed : row.claimed = true) :
    (∃ later, (perform before event).1.reservations.find reservationId = some later
        ∧ later.claimed = true)
      ∨ ∃ stamps work, event = .call (.retireUndispatched stamps work)
        ∧ Undispatched before work row := by
  cases event with
  | elsewhere change keeps =>
      refine .inl ⟨row, ?_, claimed⟩
      rw [perform, (keeps before).reservations]
      exact found
  | call call =>
      rw [perform]
      split
      · rename_i ran
        rcases BudgetCall.run_keeps ran with writes | ⟨stamps, work, rfl, retired⟩
        · exact .inl (writes.claimed hold found claimed)
        · obtain ⟨later, stored, cause⟩ := (Store.retireUndispatched_ok hold retired).settled found
          rcases cause with rfl | ⟨shown, _⟩
          · exact .inl ⟨_, stored, claimed⟩
          · exact .inr ⟨stamps, work, rfl, shown⟩
      · exact .inl ⟨row, found, claimed⟩

/-- A claimed row is released only by a retirement that finds its request undispatched. -/
theorem runCalls_retired (more : List BudgetEvent) (hold : RowsHold before)
    {reservationId : String} {row last : ReservationRow}
    (found : before.reservations.find reservationId = some row) (claimed : row.claimed = true)
    (reached : (runCalls perform before more).reservations.find reservationId = some last)
    (released : last.status = .released) :
    ∃ first stamps work rest between, more = first ++ .call (.retireUndispatched stamps work) :: rest
      ∧ (runCalls perform before first).reservations.find reservationId = some between
      ∧ Undispatched (runCalls perform before first) work between := by
  induction more generalizing before row with
  | nil =>
      rw [runCalls, found] at reached
      cases reached
      exact absurd released ((hold _ (Table.find_eq_some.1 found).1).unreleased claimed)
  | cons event rest ih =>
      rcases perform_claimed event hold found claimed with
        ⟨later, stored, kept⟩ | ⟨stamps, work, same, shown⟩
      · have next := (perform_writes event hold).rowsHold hold
        obtain ⟨first, stamps, work, others, between, split, located, shown⟩ :=
          ih next stored kept reached
        exact ⟨event :: first, stamps, work, others, between, by rw [split]; rfl, located, shown⟩
      · exact ⟨[], stamps, work, rest, row, by rw [same]; rfl, found, shown⟩

/-- A reservation is committed exactly when one ledger entry settles it. -/
theorem LedgerInvariant.count (ledger : LedgerInvariant before) {row : ReservationRow}
    (member : row ∈ before.reservations.rows) :
    row.status = .committed ↔
      (before.ledger.rows.map LedgerRow.reservationId).count row.reservationId = 1 := by
  constructor
  · intro committed
    exact List.count_eq_one_of_mem ledger.once (ledger.covered row member committed)
  · intro one
    have present : row.reservationId ∈ before.ledger.rows.map LedgerRow.reservationId :=
      List.count_pos_iff.1 (by omega)
    obtain ⟨entry, stored, same⟩ := List.mem_map.1 present
    obtain ⟨reservation, found, committed, _⟩ := (ledger.rows entry stored).committed
    have named := Table.find_eq_some.1 found
    rw [← Table.eq_of_key named.1 member (named.2.trans same)]
    exact committed

/-! ## The budget of an analysis -/

/-- What holds of the budget in a store that transactions reached, and of every call on it. -/
structure BudgetKept (events : List BudgetEvent) : Prop where
  /-- Requests and debits stay within the limit, up to the committed overruns. -/
  conserved : ∀ analysisId profile, (reached events).runProfile analysisId = .ok profile →
    ∀ field, (reached events).reservedTotal analysisId field
        + (reached events).debitedTotal analysisId field
      ≤ profile.limit field + (reached events).overrunTotal analysisId field
  /-- A reservation is committed exactly when it has one ledger entry. -/
  committed : ∀ row ∈ (reached events).reservations.rows, row.status = .committed ↔
    ((reached events).ledger.rows.map LedgerRow.reservationId).count row.reservationId = 1
  /-- A reservation keeps its units, and once settled its status and its payload. -/
  settled : ∀ more reservationId row,
    (reached events).reservations.find reservationId = some row →
    ∃ later, (reached (events ++ more)).reservations.find reservationId = some later
      ∧ later.payload.requestedUnits = row.payload.requestedUnits
      ∧ (row.status ≠ .reserved → later.status = row.status ∧ later.payload = row.payload)
  /-- The entries of an analysis are numbered from one. -/
  numbered : ∀ analysisId, ((reached events).ledgerRows analysisId).map LedgerRow.sequence
    = List.range' 1 ((reached events).ledgerRows analysisId).length
  /-- What is available is what the units in use leave of the limit. -/
  available : ∀ ref analysisId remaining,
    (reached events).available ref analysisId = .ok remaining →
    ∃ profile, (reached events).runProfile analysisId = .ok profile
      ∧ ∀ field, remaining.availableUnits.get field = profile.limit field
        - ((reached events).reservedTotal analysisId field
          + (reached events).debitedTotal analysisId field)
  /-- A released reservation that was claimed was found undispatched by a retirement. -/
  retired : ∀ more reservationId row later,
    (reached events).reservations.find reservationId = some row → row.claimed = true →
    (reached (events ++ more)).reservations.find reservationId = some later →
    later.status = .released →
    ∃ first stamps work rest between,
      more = first ++ .call (.retireUndispatched stamps work) :: rest
      ∧ (reached (events ++ first)).reservations.find reservationId = some between
      ∧ Undispatched (reached (events ++ first)) work between
  /-- A call that raises changes nothing. -/
  raised : ∀ call reason, (perform (reached events) (.call call)).2 = .error reason →
    (perform (reached events) (.call call)).1 = reached events

/-- The budget of every analysis is kept along every sequence of transactions. -/
theorem budget_kept (events : List BudgetEvent) : BudgetKept events where
  conserved := (reached_budget events).conserved
  committed _ member := (reached_budget events).ledger.count member
  settled := by
    intro more reservationId row found
    obtain ⟨later, stored, keeps⟩ := reached_find events more found
    refine ⟨later, stored, keeps.requestedUnits, ?_⟩
    intro closed
    have status := (reached_rowsHold events row (Table.find_eq_some.1 found).1).status
    exact (keeps.settled (status ▸ closed)).symm
  numbered := (reached_budget events).ledger.numbered
  available := by
    intro ref analysisId remaining answered
    obtain ⟨profile, executed, _, units⟩ := Store.available_ok answered
    refine ⟨profile, Store.execution_ok executed, ?_⟩
    intro field
    rw [units, Store.totalUnits_used]
  retired := by
    intro more reservationId row later found claimed stored released
    rw [reached_append] at stored
    obtain ⟨first, stamps, work, rest, between, split, located, shown⟩ :=
      runCalls_retired more (reached_rowsHold events) found claimed stored released
    refine ⟨first, stamps, work, rest, between, split, ?_⟩
    rw [reached_append]
    exact ⟨located, shown⟩
  raised := by
    intro call reason raised
    rw [perform] at raised ⊢
    split at raised
    · cases raised
    · rfl

end Sastsimi.Storage
