import Mathlib.Data.List.Induction
import Sastsimi.Reporting.FindingGroups

/-!
# Finding groups are classes of flows

The group key of a finding with an anchor determines the anchor, and the key of one without
determines its display id.  The two levels of buckets therefore file every finding under its own
key, and the groups are the classes of the findings, in an order that only the display ids decide.
-/

namespace Sastsimi.Reporting

open Sastsimi.Lib Sastsimi.Runtime

/-- Two findings have the same proven flow. -/
structure SameFlow (first second : VerifiedFindingMember) : Prop where
  proven : first.anchor ≠ none
  anchor : first.anchor = second.anchor
  workspace : first.workspaceId = second.workspaceId
  commit : first.commitId = second.commitId

/-- The groups of a projection hold every member once, and two members together exactly when they
have the same proven flow. -/
structure GroupsByFlow (members : List VerifiedFindingMember)
    (projection : FindingGroupProjection) : Prop where
  once : (projection.groups.flatMap (·.members)).Perm members
  together : ∀ first ∈ members, ∀ second ∈ members, first ≠ second →
    ((∃ group ∈ projection.groups, first ∈ group.members ∧ second ∈ group.members) ↔
      SameFlow first second)

/-! ## Encoded flows -/

theorem dumps_inj {value other : Json} (integral : value.integral = true)
    (integral' : other.integral = true) (same : dumps value = dumps other) :
    value.sorted = other.sorted := by
  refine Json.canonical_inj (?_ : value.canonical = some (dumps value)) ?_
  · rw [Json.canonical, if_pos integral, dumps]
  · rw [Json.canonical, if_pos integral', same, dumps]

namespace FlowAnchor

variable {anchor other : FlowAnchor}

/-- The anchor without its trace. -/
def base (anchor : FlowAnchor) : FlowAnchor := { anchor with traceNodes := [] }

theorem eq_of_base (same : anchor.base = other.base) (traces : anchor.traceNodes = other.traceNodes) :
    anchor = other := by
  cases anchor
  cases other
  simp_all [base]

/-- The fields of an anchor except its trace. -/
def baseDict (anchor : FlowAnchor) : List (String × Json) := anchor.asdict.take 13

theorem popTraceNodes_asdict : popTraceNodes anchor.asdict = anchor.baseDict := rfl

theorem keyFlow_get? {name : String} (differs : name ≠ "trace_nodes") :
    (Json.obj (keyFlow anchor)).get? name = (Json.obj anchor.baseDict).get? name := by
  rw [keyFlow]
  split
  · rfl
  · have whole : anchor.asdict =
        anchor.baseDict ++ [("trace_nodes", .arr (anchor.traceNodes.map .str))] := rfl
    have apart : (name == "trace_nodes") = false := by simpa using differs
    rw [whole, Json.get?, Json.get?, List.lookup_append, List.lookup_cons, apart]
    simp

theorem keyFlow_trace :
    (Json.obj (keyFlow anchor)).get? "trace_nodes" =
      if anchor.traceNodes = [] then none else some (.arr (anchor.traceNodes.map .str)) := by
  rw [keyFlow]
  split <;> rfl

/-- The fields determine the anchor up to its trace. -/
theorem base_of_fields
    (fields : ∀ name, name ≠ "trace_nodes" → ((Json.obj anchor.baseDict).get? name).map Json.sorted =
      ((Json.obj other.baseDict).get? name).map Json.sorted) : anchor.base = other.base := by
  have route := Json.str_inj (fields "route" (by decide))
  have function := Json.str_inj (fields "function" (by decide))
  have sourceFile := Json.str_inj (fields "source_file" (by decide))
  have sourceLine := Json.int_inj (fields "source_line" (by decide))
  have sourceAccess := Json.str_inj (fields "source_access" (by decide))
  have sourceKey := Json.str_inj (fields "source_key" (by decide))
  have defUseNodes := Json.strs_inj (fields "def_use_nodes" (by decide))
  have sinkFile := Json.str_inj (fields "sink_file" (by decide))
  have sinkLine := Json.int_inj (fields "sink_line" (by decide))
  have sinkCallee := Json.str_inj (fields "sink_callee" (by decide))
  have sinkArgument := Json.int_inj (fields "sink_argument" (by decide))
  have branchNodes := Json.strs_inj (fields "branch_nodes" (by decide))
  have cwe := Json.str_inj (fields "cwe" (by decide))
  simp [base, *]

theorem baseDict_integral (anchor : FlowAnchor) :
    (Json.obj anchor.baseDict).integral = true := by
  rw [Json.integral, Json.integralFields_eq]
  simp [baseDict, asdict, Json.integral, Json.integralItems_str]

theorem keyFlow_integral (anchor : FlowAnchor) : (Json.obj (keyFlow anchor)).integral = true := by
  rw [keyFlow]
  split
  · exact baseDict_integral anchor
  · rw [Json.integral, Json.integralFields_eq]
    simp [asdict, Json.integral, Json.integralItems_str]

/-- The flow that a group key hashes determines the anchor. -/
theorem keyFlow_inj
    (same : Option.map Json.sorted (some (.obj (keyFlow anchor))) =
      Option.map Json.sorted (some (.obj (keyFlow other)))) : anchor = other := by
  have fields := Json.field_of_sorted (Option.some.inj same)
  apply eq_of_base
  · apply base_of_fields
    intro name differs
    have field := fields name
    rwa [keyFlow_get? differs, keyFlow_get? differs] at field
  · have traces := fields "trace_nodes"
    rw [keyFlow_trace, keyFlow_trace] at traces
    split at traces <;> split at traces
    · simp_all
    · cases traces
    · cases traces
    · exact Json.strs_inj traces

end FlowAnchor

/-! ## Group keys -/

section Keys

variable {sha256 : List Char → String} {first second : VerifiedFindingMember}

theorem groupFields_integral (member : VerifiedFindingMember) :
    (Json.obj (groupFields member)).integral = true := by
  rw [Json.integral, Json.integralFields_eq, groupFields]
  cases member.anchor with
  | none => simp [commonFields, Json.integral]
  | some anchor =>
      have flow := FlowAnchor.keyFlow_integral anchor
      rw [Json.integral] at flow
      simp [commonFields, flow, Json.integral]

theorem groupFields_scope (member : VerifiedFindingMember) :
    (Json.obj (groupFields member)).get? "workspace_id" = some (.str member.workspaceId) ∧
      (Json.obj (groupFields member)).get? "commit_id" = some (.str member.commitId) := by
  rw [groupFields]
  cases member.anchor <;> exact ⟨rfl, rfl⟩

theorem groupFields_flow (member : VerifiedFindingMember) :
    (Json.obj (groupFields member)).get? "flow" =
      member.anchor.map fun anchor => .obj (keyFlow anchor) := by
  rw [groupFields]
  cases member.anchor <;> rfl

theorem groupFields_alone {member : VerifiedFindingMember} (alone : member.anchor = none) :
    (Json.obj (groupFields member)).get? "singleton_display_id" = some (.str member.displayId) := by
  rw [groupFields, alone]
  rfl

/-- Two findings share a group key only with one flow, or without anchors and with one id. -/
theorem groupKey_inj (injective : Function.Injective sha256)
    (same : groupKey sha256 first = groupKey sha256 second) :
    SameFlow first second ∨ first.displayId = second.displayId := by
  have sorted := dumps_inj (groupFields_integral first) (groupFields_integral second)
    (injective same)
  have fields := Json.field_of_sorted sorted
  have workspace := fields "workspace_id"
  have commit := fields "commit_id"
  have flow := fields "flow"
  rw [(groupFields_scope first).1, (groupFields_scope second).1] at workspace
  rw [(groupFields_scope first).2, (groupFields_scope second).2] at commit
  rw [groupFields_flow, groupFields_flow] at flow
  cases proven : first.anchor with
  | none =>
      cases other : second.anchor with
      | none =>
          have ids := fields "singleton_display_id"
          rw [groupFields_alone proven, groupFields_alone other] at ids
          exact .inr (Json.str_inj ids)
      | some anchor => simp [proven, other] at flow
  | some anchor =>
      cases other : second.anchor with
      | none => simp [proven, other] at flow
      | some found =>
          rw [proven, other] at flow
          have anchors := FlowAnchor.keyFlow_inj flow
          refine .inl ⟨?_, ?_, Json.str_inj workspace, Json.str_inj commit⟩
          · simp [proven]
          · rw [proven, other, anchors]

/-- Findings of one analysis with the same flow have one group key. -/
theorem SameFlow.groupKey (same : SameFlow first second)
    (analysis : first.analysisId = second.analysisId) :
    groupKey sha256 first = groupKey sha256 second := by
  have legacy : legacyIdentity first = legacyIdentity second := by
    rw [legacyIdentity, legacyIdentity, same.anchor]
  have common : commonFields first = commonFields second := by
    rw [commonFields, commonFields, legacy, analysis, same.workspace, same.commit]
  have fields : groupFields first = groupFields second := by
    rw [groupFields, groupFields, common, same.anchor]
    cases found : second.anchor with
    | none => exact absurd (same.anchor.trans found) same.proven
    | some anchor => rfl
  rw [Reporting.groupKey, Reporting.groupKey, fields]

/-- The text that a flow is filed under. -/
def flowText (member : VerifiedFindingMember) : List Char :=
  match member.anchor with
  | none => []
  | some anchor => dumps (baseFields member anchor)

theorem baseFields_integral (member : VerifiedFindingMember) (anchor : FlowAnchor) :
    (baseFields member anchor).integral = true := by
  have flow : Json.integralFields (popTraceNodes anchor.asdict) = true :=
    FlowAnchor.baseDict_integral anchor
  rw [baseFields, Json.integral, Json.integralFields_eq]
  simp [flow, Json.integral]

/-- Findings filed under one text with the same trace have the same flow. -/
theorem sameFlow_of_flowText (proven : first.anchor ≠ none) (proven' : second.anchor ≠ none)
    (texts : flowText first = flowText second) (traces : traceNodes first = traceNodes second) :
    SameFlow first second := by
  obtain ⟨anchor, found⟩ := Option.ne_none_iff_exists'.1 proven
  obtain ⟨other, found'⟩ := Option.ne_none_iff_exists'.1 proven'
  rw [flowText, flowText, found, found'] at texts
  rw [traceNodes, traceNodes, found, found'] at traces
  have fields := Json.field_of_sorted
    (dumps_inj (baseFields_integral first anchor) (baseFields_integral second other) texts)
  have flow := Json.field_of_sorted (Option.some.inj (fields "flow"))
  have anchors : anchor = other :=
    FlowAnchor.eq_of_base (FlowAnchor.base_of_fields fun name _ => flow name) traces
  refine ⟨proven, ?_, Json.str_inj (fields "workspace_id"), Json.str_inj (fields "commit_id")⟩
  rw [found, found', anchors]

end Keys

/-! ## Filing -/

section Filing

variable {sha256 : List Char → String} {members items entries : List VerifiedFindingMember}
  {buckets : GroupBuckets}

/-- What a finding is checked by. -/
def identityOf (member : VerifiedFindingMember) : String × String :=
  (member.analysisId, member.displayId)

/-- The state of the loop after some members. -/
structure Filed (sha256 : List Char → String) (members : List VerifiedFindingMember)
    (state : Filing) : Prop where
  display : ∀ pair, pair ∈ state.byDisplay ↔ pair ∈ members.map identityOf
  alone : Grouped (groupKey sha256) (members.filter fun member => member.anchor.isNone)
    state.buckets
  flows : Grouped flowText (members.filter fun member => member.anchor.isSome) state.flowBuckets

/-- One turn files a member whose id is new. -/
theorem fileMember_ok {state : Filing} {member : VerifiedFindingMember}
    (filed : Filed sha256 members state) (new : identityOf member ∉ members.map identityOf) :
    ∃ after, fileMember sha256 state member = .ok after ∧
      Filed sha256 (members ++ [member]) after := by
  have fresh : ¬ (member.analysisId, member.displayId) ∈ state.byDisplay :=
    fun known => new ((filed.display _).1 known)
  have display : ∀ pair, pair ∈ (member.analysisId, member.displayId) :: state.byDisplay ↔
      pair ∈ (members ++ [member]).map identityOf := by
    intro pair
    rw [List.mem_cons, filed.display, List.map_append, List.mem_append, List.map_singleton,
      List.mem_singleton, or_comm]
    rfl
  cases proven : member.anchor with
  | none =>
      refine ⟨{ state with
        byDisplay := (member.analysisId, member.displayId) :: state.byDisplay
        buckets := Bucket.extend (groupKey sha256 member) [member] (by simp) state.buckets },
        ?_, display, ?_, ?_⟩
      · rw [fileMember, proven]
        exact raiseIf_bind_ok.2 ⟨fresh, rfl⟩
      · have alone := filed.alone.extend [member] (by simp)
          fun item isMember => by rw [List.mem_singleton.1 isMember]
        simpa [List.filter_append, proven] using alone
      · simpa [List.filter_append, proven] using filed.flows
  | some anchor =>
      refine ⟨{ state with
        byDisplay := (member.analysisId, member.displayId) :: state.byDisplay
        flowBuckets := Bucket.extend (dumps (baseFields member anchor)) [member] (by simp)
          state.flowBuckets }, ?_, display, ?_, ?_⟩
      · rw [fileMember, proven]
        refine raiseIf_bind_ok.2 ⟨fresh, ?_⟩
        rw [flowWithoutTraceIdentity, proven]
        rfl
      · simpa [List.filter_append, proven] using filed.alone
      · have isFlow : ∀ item ∈ [member], flowText item = dumps (baseFields member anchor) :=
          fun item isMember => by rw [List.mem_singleton.1 isMember, flowText, proven]
        have flow := filed.flows.extend [member] (by simp) isFlow
        simpa [List.filter_append, proven] using flow

/-- Members with distinct ids are all filed. -/
theorem filed_members (sha256 : List Char → String)
    (distinct : (members.map identityOf).Nodup) :
    ∃ filed, members.foldlM (fileMember sha256) {} = .ok filed ∧ Filed sha256 members filed := by
  induction members using List.reverseRecOn with
  | nil => exact ⟨{}, rfl, by simp, Grouped.nil, Grouped.nil⟩
  | append_singleton members member ih =>
      rw [List.map_append, List.nodup_append] at distinct
      obtain ⟨state, looped, filed⟩ := ih distinct.1
      have new : identityOf member ∉ members.map identityOf :=
        fun known => distinct.2.2 _ known _ (by simp) rfl
      obtain ⟨after, turned, filedAfter⟩ := fileMember_ok filed new
      refine ⟨after, ?_, filedAfter⟩
      rw [List.foldlM_append, looped]
      change List.foldlM (fileMember sha256) state [member] = _
      rw [List.foldlM_cons, turned]
      rfl

/-- Members of one group key join their class. -/
theorem grouped_fileFlow (grouped : Grouped (groupKey sha256) items buckets)
    (entries : List VerifiedFindingMember)
    (same : ∀ first ∈ entries, ∀ second ∈ entries,
      groupKey sha256 first = groupKey sha256 second) :
    Grouped (groupKey sha256) (items ++ entries) (fileFlow sha256 buckets entries) := by
  rw [Reporting.fileFlow]
  split
  · rename_i filled
    exact grouped.extend _ filled fun item member => same item member _ (List.head_mem filled)
  · rename_i empty
    rwa [not_not.1 empty, List.append_nil]

/-- Lists of members, each of one group key, join their classes. -/
theorem grouped_fileFlows {parts : List (List VerifiedFindingMember)}
    (grouped : Grouped (groupKey sha256) items buckets)
    (same : ∀ part ∈ parts, ∀ first ∈ part, ∀ second ∈ part,
      groupKey sha256 first = groupKey sha256 second) :
    Grouped (groupKey sha256) (items ++ parts.flatten) (parts.foldl (fileFlow sha256) buckets) := by
  induction parts generalizing items buckets with
  | nil => rwa [List.flatten_nil, List.append_nil]
  | cons part rest ih =>
      have turned := grouped_fileFlow grouped _ (same part List.mem_cons_self)
      have filed := ih turned fun other member => same other (List.mem_cons_of_mem _ member)
      rwa [List.append_assoc] at filed

/-- Members of one flow text. -/
structure OneFlow (entries : List VerifiedFindingMember) : Prop where
  proven : ∀ member ∈ entries, member.anchor ≠ none
  text : ∀ first ∈ entries, ∀ second ∈ entries, flowText first = flowText second
  analysis : ∀ first ∈ entries, ∀ second ∈ entries, first.analysisId = second.analysisId

/-- Members of one flow text with the same trace have one group key. -/
theorem OneFlow.groupKey (flow : OneFlow entries) {first second : VerifiedFindingMember}
    (member : first ∈ entries) (member' : second ∈ entries)
    (traces : traceNodes first = traceNodes second) :
    groupKey sha256 first = groupKey sha256 second :=
  (sameFlow_of_flowText (flow.proven first member) (flow.proven second member')
    (flow.text first member second member') traces).groupKey
      (flow.analysis first member second member')

theorem tracedBuckets_grouped (entries : List VerifiedFindingMember) :
    Grouped traceNodes (entries.filter fun member => traceNodes member ≠ [])
      (tracedBuckets entries) :=
  Grouped.nil.append

/-- The classes of a flow join the buckets. -/
theorem grouped_fileEntries (grouped : Grouped (groupKey sha256) items buckets)
    (flow : OneFlow entries) :
    ∃ more, more.Perm entries ∧
      Grouped (groupKey sha256) (items ++ more) (fileEntries sha256 buckets entries) := by
  have classes := tracedBuckets_grouped entries
  have homogeneous : ∀ part ∈ (tracedBuckets entries).map Bucket.items, ∀ first ∈ part,
      ∀ second ∈ part, groupKey sha256 first = groupKey sha256 second := by
    intro part member first filed second filed'
    obtain ⟨bucket, stored, rfl⟩ := List.mem_map.1 member
    have here := classes.key_of_mem stored filed
    have there := classes.key_of_mem stored filed'
    exact flow.groupKey (List.mem_of_mem_filter here.1) (List.mem_of_mem_filter there.1)
      (here.2.trans there.2.symm)
  have traced := grouped_fileFlows grouped homogeneous
  have untraced := grouped_fileFlow traced (entries.filter fun member => traceNodes member = [])
    (by
      intro first filed second filed'
      obtain ⟨stored, empty⟩ := List.mem_filter.1 filed
      obtain ⟨stored', empty'⟩ := List.mem_filter.1 filed'
      exact flow.groupKey stored stored'
        ((of_decide_eq_true empty).trans (of_decide_eq_true empty').symm))
  rw [List.append_assoc] at untraced
  refine ⟨_, ?_, by rwa [Reporting.fileEntries, ← List.foldl_map]⟩
  have others : (entries.filter fun member => traceNodes member = []) =
      entries.filter fun member => !decide (traceNodes member ≠ []) :=
    List.filter_congr fun member _ => by simp
  rw [← List.flatMap_def, others]
  exact (classes.perm.append_right _).trans (List.filter_append_perm _ _)

/-- The classes of all flows join the buckets. -/
theorem grouped_fileAll {flows : List (List VerifiedFindingMember)}
    (grouped : Grouped (groupKey sha256) items buckets) (each : ∀ entries ∈ flows, OneFlow entries) :
    ∃ more, more.Perm flows.flatten ∧
      Grouped (groupKey sha256) (items ++ more) (flows.foldl (fileEntries sha256) buckets) := by
  induction flows generalizing items buckets with
  | nil => exact ⟨[], .nil, by rwa [List.append_nil]⟩
  | cons entries rest ih =>
      obtain ⟨first, moved, turned⟩ := grouped_fileEntries grouped (each entries List.mem_cons_self)
      obtain ⟨others, rearranged, filed⟩ :=
        ih turned fun other member => each other (List.mem_cons_of_mem _ member)
      rw [List.append_assoc] at filed
      exact ⟨_, moved.append rearranged, filed⟩

/-- After both levels of buckets the members are filed under their group keys. -/
theorem Filed.grouped {state : Filing} (filed : Filed sha256 members state)
    (analysis : ∀ first ∈ members, ∀ second ∈ members, first.analysisId = second.analysisId) :
    ∃ processed, processed.Perm members ∧ Grouped (groupKey sha256) processed
      ((state.flowBuckets.map (·.items)).foldl (fileEntries sha256) state.buckets) := by
  have each : ∀ entries ∈ state.flowBuckets.map (·.items), OneFlow entries := by
    intro entries member
    obtain ⟨bucket, stored, rfl⟩ := List.mem_map.1 member
    have known : ∀ item ∈ bucket.items,
        (item ∈ members ∧ item.anchor.isSome = true) ∧ flowText item = bucket.key := by
      intro item filedItem
      have found := filed.flows.key_of_mem stored filedItem
      exact ⟨List.mem_filter.1 found.1, found.2⟩
    constructor
    · intro item filedItem
      exact Option.isSome_iff_ne_none.1 (known item filedItem).1.2
    · intro first here second there
      exact (known first here).2.trans (known second there).2.symm
    · intro first here second there
      exact analysis first (known first here).1.1 second (known second there).1.1
  obtain ⟨more, moved, grouped⟩ := grouped_fileAll filed.alone each
  refine ⟨_, ?_, grouped⟩
  have flows : more.Perm (members.filter fun member => member.anchor.isSome) := by
    rw [← List.flatMap_def] at moved
    exact moved.trans filed.flows.perm
  have others : (members.filter fun member => member.anchor.isSome) =
      members.filter fun member => !member.anchor.isNone :=
    List.filter_congr fun member _ => by simp
  rw [others] at flows
  exact (flows.append_left _).trans (List.filter_append_perm _ _)

end Filing

/-! ## Groups -/

section Groups

variable {sha256 : List Char → String} {members items others : List VerifiedFindingMember}

theorem displayOrder_id (displayId : String) : (ofLex (displayOrder displayId)).2 = displayId := by
  unfold displayOrder
  split
  · split <;> rfl
  · rfl

theorem displayOrder_injective : Function.Injective displayOrder := by
  intro first second same
  rw [← displayOrder_id first, same, displayOrder_id]

/-- Members with distinct ids have one order. -/
theorem orderedMembers_congr (same : items.Perm others)
    (distinct : (items.map (·.displayId)).Nodup) :
    orderedMembers items = orderedMembers others := by
  have sorted : ∀ entries : List VerifiedFindingMember, (orderedMembers entries).Pairwise
      fun left right => displayOrder left.displayId ≤ displayOrder right.displayId := by
    intro entries
    exact List.pairwise_insertionSort _ _
  have moved : (orderedMembers items).Perm (orderedMembers others) :=
    (List.perm_insertionSort _ _).trans (same.trans (List.perm_insertionSort _ _).symm)
  apply List.Perm.eq_of_pairwise _ (sorted items) (sorted others) moved
  intro left right member member' less more
  have known : left ∈ items := (List.perm_insertionSort _ _).subset member
  have known' : right ∈ items :=
    same.symm.subset ((List.perm_insertionSort _ _).subset member')
  exact List.inj_on_of_nodup_map distinct known known'
    (displayOrder_injective (le_antisymm less more))

theorem members_findingGroup {bucket : Bucket String VerifiedFindingMember} :
    (findingGroup bucket).members.Perm bucket.items := List.perm_insertionSort _ _

/-- Buckets of one key with the same members have one group. -/
theorem findingGroup_congr {left right : Bucket String VerifiedFindingMember}
    (key : left.key = right.key) (same : left.items.Perm right.items)
    (distinct : (left.items.map (·.displayId)).Nodup) :
    findingGroup left = findingGroup right := by
  have ordered := orderedMembers_congr same distinct
  simp only [findingGroup, key, ordered]

/-- The representative of a group is a member of it. -/
theorem representative_mem (bucket : Bucket String VerifiedFindingMember) :
    ∃ member ∈ bucket.items, (findingGroup bucket).representativeId = member.displayId :=
  ⟨_, (List.perm_insertionSort _ _).subset (List.head_mem (orderedMembers_filled bucket.filled)),
    rfl⟩

/-- The groups of buckets in the order of their representatives. -/
def orderedGroups (buckets : GroupBuckets) : List FindingGroup :=
  (buckets.map findingGroup).insertionSort fun left right =>
    displayOrder left.representativeId ≤ displayOrder right.representativeId

theorem distinct_bucket {buckets : GroupBuckets} {bucket : Bucket String VerifiedFindingMember}
    (grouped : Grouped (groupKey sha256) items buckets)
    (distinct : (items.map (·.displayId)).Nodup) (member : bucket ∈ buckets) :
    (bucket.items.map (·.displayId)).Nodup := by
  rw [grouped.entries bucket member]
  exact distinct.sublist (List.filter_sublist.map _)

/-- The groups do not depend on the order of the members. -/
theorem orderedGroups_congr {buckets buckets' : GroupBuckets}
    (grouped : Grouped (groupKey sha256) items buckets)
    (grouped' : Grouped (groupKey sha256) others buckets') (same : items.Perm others)
    (distinct : (items.map (·.displayId)).Nodup) :
    orderedGroups buckets = orderedGroups buckets' := by
  have moved : (buckets.map findingGroup).Perm (buckets'.map findingGroup) :=
    grouped.map_perm grouped' same fun left member right _ key entries =>
      findingGroup_congr key entries (distinct_bucket grouped distinct member)
  have sorted : ∀ entries : GroupBuckets, (orderedGroups entries).Pairwise
      fun left right => displayOrder left.representativeId ≤ displayOrder right.representativeId :=
    fun _ => List.pairwise_insertionSort _ _
  apply List.Perm.eq_of_pairwise _ (sorted buckets) (sorted buckets')
    ((List.perm_insertionSort _ _).trans (moved.trans (List.perm_insertionSort _ _).symm))
  intro left right member member' less more
  obtain ⟨first, stored, rfl⟩ :=
    List.mem_map.1 ((List.perm_insertionSort _ _).subset member)
  obtain ⟨second, stored', rfl⟩ :=
    List.mem_map.1 ((List.perm_insertionSort _ _).subset member')
  -- groups with one representative are of one bucket
  obtain ⟨front, filed, represents⟩ := representative_mem first
  obtain ⟨other, filed', represents'⟩ := representative_mem second
  have inFirst := grouped.key_of_mem stored filed
  have inSecond := grouped'.key_of_mem stored' filed'
  have equal : front = other := by
    apply List.inj_on_of_nodup_map distinct inFirst.1 (same.symm.subset inSecond.1)
    rw [← represents, ← represents']
    exact displayOrder_injective (le_antisymm less more)
  have key : first.key = second.key := by rw [← inFirst.2, equal, inSecond.2]
  apply findingGroup_congr key _ (distinct_bucket grouped distinct stored)
  rw [grouped.entries first stored, grouped'.entries second stored', key]
  exact ofKey_perm same

/-- The groups hold every member once. -/
theorem orderedGroups_members {buckets : GroupBuckets}
    (grouped : Grouped (groupKey sha256) items buckets) :
    ((orderedGroups buckets).flatMap (·.members)).Perm items := by
  have sorted : ((orderedGroups buckets).flatMap (·.members)).Perm
      ((buckets.map findingGroup).flatMap (·.members)) :=
    (List.perm_insertionSort _ _).flatMap_right _
  have whole : ((buckets.map findingGroup).flatMap (·.members)).Perm
      (buckets.flatMap Bucket.items) := by
    rw [List.flatMap_map]
    exact List.Perm.flatMap_left _ fun bucket _ => members_findingGroup
  exact sorted.trans (whole.trans grouped.perm)

/-- Two members are in one group exactly when they have one group key. -/
theorem orderedGroups_together {buckets : GroupBuckets} {first second : VerifiedFindingMember}
    (grouped : Grouped (groupKey sha256) items buckets) (member : first ∈ items)
    (member' : second ∈ items) :
    (∃ group ∈ orderedGroups buckets, first ∈ group.members ∧ second ∈ group.members) ↔
      groupKey sha256 first = groupKey sha256 second := by
  constructor
  · rintro ⟨group, stored, here, there⟩
    obtain ⟨bucket, filed, rfl⟩ := List.mem_map.1 ((List.perm_insertionSort _ _).subset stored)
    have first := grouped.key_of_mem filed (members_findingGroup.subset here)
    have second := grouped.key_of_mem filed (members_findingGroup.subset there)
    exact first.2.trans second.2.symm
  · intro key
    obtain ⟨bucket, filed, isKey⟩ := List.mem_map.1 (grouped.complete first member)
    have entries := grouped.entries bucket filed
    refine ⟨findingGroup bucket,
      (List.perm_insertionSort _ _).symm.subset (List.mem_map_of_mem filed), ?_, ?_⟩
    · apply members_findingGroup.symm.subset
      rw [entries, mem_ofKey]
      exact ⟨member, isKey.symm⟩
    · apply members_findingGroup.symm.subset
      rw [entries, mem_ofKey]
      exact ⟨member', key.symm.trans isKey.symm⟩

end Groups

/-! ## The projection -/

section Projection

variable {sha256 : List Char → String} {members : List VerifiedFindingMember}

/-- The projection of buckets. -/
def projectionOf (buckets : GroupBuckets) (count : Nat) : FindingGroupProjection where
  groups := orderedGroups buckets
  rawCount := count
  visibleGroupCount := (orderedGroups buckets).length
  undeterminedCount :=
    (orderedGroups buckets).countP fun group => group.status = .groupingUndetermined

/-- Members of one analysis with distinct ids have a projection, whose buckets are their
classes. -/
theorem groupVerifiedFindings_ok (sha256 : List Char → String)
    (oneAnalysis : ∀ first ∈ members, ∀ second ∈ members, first.analysisId = second.analysisId)
    (distinct : (members.map (·.displayId)).Nodup) :
    ∃ processed buckets, processed.Perm members ∧ Grouped (groupKey sha256) processed buckets ∧
      groupVerifiedFindings sha256 members = .ok (projectionOf buckets members.length) := by
  have identities : (members.map identityOf).Nodup := by
    have display : (members.map identityOf).map Prod.snd = members.map (·.displayId) := by
      rw [List.map_map]
      rfl
    exact List.Nodup.of_map Prod.snd (display ▸ distinct)
  obtain ⟨state, looped, filed⟩ := filed_members sha256 identities
  obtain ⟨processed, moved, grouped⟩ := filed.grouped oneAnalysis
  refine ⟨processed, _, moved, grouped, ?_⟩
  rw [groupVerifiedFindings, looped]
  rfl

/-- With an injective hash the groups of the findings of one analysis with distinct ids are the
classes of their proven flows, and the projection is the same for every order of the findings. -/
theorem groupVerifiedFindings_partition (injective : Function.Injective sha256)
    (oneAnalysis : ∀ first ∈ members, ∀ second ∈ members, first.analysisId = second.analysisId)
    (distinct : (members.map (·.displayId)).Nodup) :
    ∃ projection, groupVerifiedFindings sha256 members = .ok projection ∧
      GroupsByFlow members projection ∧
      ∀ others, others.Perm members → groupVerifiedFindings sha256 others = .ok projection := by
  obtain ⟨processed, buckets, moved, grouped, returned⟩ :=
    groupVerifiedFindings_ok sha256 oneAnalysis distinct
  have distinctProcessed : (processed.map (·.displayId)).Nodup :=
    (moved.map _).nodup_iff.2 distinct
  refine ⟨_, returned, ⟨?_, ?_⟩, ?_⟩
  · exact (orderedGroups_members grouped).trans moved
  · intro first member second member' differs
    rw [projectionOf, orderedGroups_together grouped (moved.symm.subset member)
      (moved.symm.subset member')]
    constructor
    · intro key
      rcases groupKey_inj injective key with flow | display
      · exact flow
      · exact absurd (List.inj_on_of_nodup_map distinct member member' display) differs
    · exact fun flow => flow.groupKey (oneAnalysis first member second member')
  · intro others same
    have distinctOthers : (others.map (·.displayId)).Nodup := (same.map _).nodup_iff.2 distinct
    obtain ⟨processed', buckets', moved', grouped', returned'⟩ :=
      groupVerifiedFindings_ok sha256
        (fun first member second member' =>
          oneAnalysis first (same.subset member) second (same.subset member')) distinctOthers
    have groups : orderedGroups buckets = orderedGroups buckets' :=
      orderedGroups_congr grouped grouped' (moved.trans (same.symm.trans moved'.symm))
        distinctProcessed
    rw [returned', projectionOf, projectionOf, groups, same.length_eq]

end Projection

end Sastsimi.Reporting

namespace Sastsimi.Reporting.Concrete

open Sastsimi.Lib Sastsimi.Runtime

/-- A reference to an artifact. -/
def artifact (hash : String) : StoredDataRef :=
  ⟨hash, "artifact", hash, "workspace-1", "commit-1", none⟩

/-- A command flow from a request argument. -/
def commandFlow (traceNodes : List String) : FlowAnchor where
  route := "/run"
  function := "run"
  sourceFile := "app.py"
  sourceLine := 3
  sourceAccess := "request.args"
  sourceKey := "name"
  defUseNodes := ["name@3"]
  sinkFile := "app.py"
  sinkLine := 5
  sinkCallee := "os.system"
  sinkArgument := 0
  branchNodes := []
  cwe := "CWE-78"
  traceNodes := traceNodes

/-- A finding with a flow anchor or none. -/
def finding (displayId : String) (anchor : Option FlowAnchor) : VerifiedFindingMember where
  analysisId := "analysis-1"
  workspaceId := "workspace-1"
  commitId := "commit-1"
  displayId := displayId
  findingRef := artifact displayId
  hypothesisId := displayId
  validatedPocRef := artifact "poc"
  proposalRef := artifact "proposal"
  cweRef := artifact "cwe"
  candidateIds := []
  candidateOrigins := []
  scopeStatus := "IN_SCOPE"
  anchor := anchor

/-- Two findings of one flow, one of the same flow with a trace, and one without anchor. -/
def mixedFindings : List VerifiedFindingMember :=
  [finding "F-2" (some (commandFlow [])), finding "F-10" none,
    finding "F-1" (some (commandFlow [])), finding "F-3" (some (commandFlow ["call@4"]))]

/-- Traced, untraced and anchorless findings are grouped by their flows. -/
theorem mixedFindings_partition :
    ∃ projection, groupVerifiedFindings String.ofList mixedFindings = .ok projection ∧
      GroupsByFlow mixedFindings projection ∧
      ∀ others, others.Perm mixedFindings →
        groupVerifiedFindings String.ofList others = .ok projection :=
  groupVerifiedFindings_partition (fun _ _ => String.ofList_injective) (by decide) (by decide)

end Sastsimi.Reporting.Concrete
