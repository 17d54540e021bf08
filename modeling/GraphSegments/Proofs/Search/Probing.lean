import GraphSegments.Proofs.Search.Modes
import GraphSegments.Proofs.Table.Writing

/-!
Probing makes no difference to what a search finds, as long as every criterion that matches by its
rows is also found by its probe. Without folds that is so for every table. A fold reads columns
instead of the rows that are probed, so with folds it is so for the rows of objects, and for
criteria that say the same of both.
-/

namespace GraphSegments
open Results Dialogue UriSet

/-! What matches a container has rows for the criteria that are probed. -/

section Rows

variable {scope : LeafScope} {patterns : Patterns} {records : List Record} {uri : String}

/-- The rows that satisfy a criterion are among those for which its probe asks. -/
theorem Criterion.isFound_of_leaf {fold : Option Fold} {criterion : Criterion}
    (matching : (Reading.ofRecords scope patterns records).leaf fold criterion uri) :
    criterion.IsFound patterns records := by
  obtain ⟨condition, compiled, record, member, same, holds⟩ := matching
  intro probe asked
  refine ⟨uri, record, member, same, ?_⟩
  obtain ⟨demand, demanded, composed⟩ := bind_eq_ok.1 compiled
  obtain rfl := Except.ok.inj composed
  rw [Condition.holds_all] at holds
  cases criterion with
  | property criterion =>
    obtain rfl := Except.ok.inj asked
    rw [Condition.holds_all]
    intro part listed
    obtain rfl := List.mem_singleton.1 listed
    exact holds _ (by simp [subject])
  | type criterion =>
    obtain ⟨wanted, made, asked⟩ := bind_eq_ok.1 asked
    obtain rfl := Except.ok.inj asked
    obtain ⟨again, remade, demanded⟩ := bind_eq_ok.1 demanded
    obtain rfl := Except.ok.inj demanded
    obtain rfl := Except.ok.inj (made.symm.trans remade)
    rw [Condition.holds_all]
    exact fun part listed => holds part (by simp_all [subject])

/-- What is asked for along with a fold satisfies the fold. -/
theorem Criterion.selects_fold_of_leaf {fold : Fold} {criterion : Criterion}
    (matching : (Reading.ofRecords scope patterns records).leaf (some fold) criterion uri) :
    fold.condition.Selects patterns records uri := by
  obtain ⟨condition, compiled, record, member, same, holds⟩ := matching
  obtain ⟨demand, demanded, composed⟩ := bind_eq_ok.1 compiled
  obtain rfl := Except.ok.inj composed
  rw [Condition.holds_all] at holds
  exact ⟨record, member, same, holds _ (by simp)⟩

theorem Element.matches_of_matchesAll {reading : Reading} {folding : Bool} {fold : Option Fold}
    {elements : List Element} {element : Element} {start place : Nat}
    (listed : (element, place) ∈ elements.zipIdx start)
    (uncovered : fold.any (·.covers place) = false)
    (every : Element.MatchesAll reading folding fold uri start elements) :
    element.Matches reading folding fold uri := by
  induction elements generalizing start with
  | nil => exact absurd listed List.not_mem_nil
  | cons first rest ih =>
    rw [List.zipIdx_cons] at listed
    rcases List.mem_cons.1 listed with same | later
    · obtain ⟨rfl, rfl⟩ := Prod.mk.inj same
      exact every.1 uncovered
    · exact ih later every.2

/-- Where a fold is used something satisfies it, by itself or along with another criterion. -/
theorem Container.selects_fold {folding : Bool} {elements : List Element} {fold : Fold}
    (used : Fold.used folding ⟨.and, elements⟩ = some fold)
    (matching : Container.Matches (.ofRecords scope patterns records) folding
      ⟨.and, elements⟩ uri) :
    fold.condition.Selects patterns records uri := by
  obtain ⟨-, every, alone⟩ := matching
  obtain ⟨-, -, criteria, rfl, -⟩ := Fold.merges_of_used used
  rw [used] at every alone
  cases carried : Element.carriesAny folding (some fold) 0 (criteria.map .leaf) with
  | false => exact alone fold rfl carried
  | true =>
    obtain ⟨x, present, uncovered, positive⟩ := Element.carriesAny_leaves.1 carried
    have here := Element.matchesAll_leaves.1 every x present (by simpa using uncovered)
    simp only [Criterion.Matches, positive, Bool.false_eq_true, ite_false] at here
    exact Criterion.selects_fold_of_leaf here

/-- What the fold of a container does not cover has a row that satisfies it. -/
theorem Container.isFound_of_uncovered {folding : Bool} {elements : List Element}
    (matching : Container.Matches (.ofRecords scope patterns records) folding ⟨.and, elements⟩ uri)
    {criterion : Criterion} {place : Nat} (listed : (.leaf criterion, place) ∈ elements.zipIdx)
    (uncovered : (Fold.used folding ⟨.and, elements⟩).any (·.covers place) = false)
    (positive : criterion.isSetNegation = false) : criterion.IsFound patterns records := by
  obtain ⟨-, every, -⟩ := matching
  have here := Element.matches_of_matchesAll listed uncovered every
  simp only [Element.Matches, Criterion.Matches, positive, Bool.false_eq_true, ite_false] at here
  exact Criterion.isFound_of_leaf here

end Rows

/-- Without folds every table can be relied on: a criterion that matches has a row that satisfies
it, which is one for which its probe asks. -/
theorem SegmentScope.trusts_of_unfolded {scope : SegmentScope} {patterns : Patterns}
    {records : List Record} {p : List Element → Prop} (unfolded : scope.folding = false) :
    scope.Trusts (.ofRecords scope.toLeafScope patterns records) patterns records p := by
  intro _ elements _ uri _ matching criterion member
  obtain ⟨listed, -, positive⟩ := Container.mem_probes member
  obtain ⟨place, listed⟩ := exists_place listed
  refine Container.isFound_of_uncovered matching listed ?_ positive
  rw [unfolded, Fold.used_unfolded, Option.any_none]

/-! Rows that objects are written as. -/

section Written

variable {patterns : Patterns} {records : List Record}

/-- What passes a test of the channel has a channel. A list that names nothing tests nothing. -/
theorem Fold.exists_channel {filter : ChannelFilter} {row : Row}
    (named : filter.comparator = .noneOf → filter.uris ≠ [])
    (holds : (channelCondition filter).holds patterns records (.ofRow row) = true) :
    ∃ channel, row.channel = some channel := by
  have filled : (Record.ofRow row).cell .channel ≠ .null := by
    unfold channelCondition at holds
    dsimp only at holds
    split at holds
    next => exact (Condition.tests_oneOf _).cell_ne_null holds
    next none =>
      exact (Condition.tests_noneOf _ (by simpa using named none)).cell_ne_null holds
    next => exact (Condition.tests_compare .ne _).cell_ne_null holds
    next => exact (Condition.tests_compare .eq _).cell_ne_null holds
  rw [Record.cell_channel] at filled
  cases channel : row.channel with
  | none => simp [channel] at filled
  | some sent => exact ⟨sent, rfl⟩

theorem Fold.exists_instant {comparison : Comparison} {param : Param} {row : Row}
    (holds : (Condition.compare (.plain .tstamp) comparison param).holds patterns records
      (.ofRow row) = true) : ∃ instant, row.tstamp = some instant := by
  have filled := (Condition.tests_compare comparison param).cell_ne_null holds
  rw [Record.cell_tstamp] at filled
  cases tstamp : row.tstamp with
  | none => simp [tstamp] at filled
  | some instant => exact ⟨instant, rfl⟩

/-- Whether the probe of a criterion asks for what a fold takes the criterion to say: of the
registered types both admit the same, the property is looked for under its own name, and a list of
channels names a channel. -/
def Criterion.IsProbedAsFolded (registry : Registry) : Criterion → Prop
  | type criterion => ∀ type, (registry.class? type).isSome = true →
      (criterion.isInclusive = true ↔ type ∈ criterion.types) →
      (criterion.isInclusive = true ↔ type ∈ criterion.compared)
  | property criterion => criterion.property ∈ criterion.names.map versionless ∧
      (criterion.comparator = .noneOf → criterion.values.filterMap (·.text?) ≠ [])

/-- What a row of an object tells of a criterion, its probe finds in the rows of that object. -/
theorem Criterion.isFound_of_echoes {registry : Registry} {objects : List GraphObject}
    {rows : List Row} (written : GraphObject.allToRows registry objects = .ok rows)
    {criterion : Criterion} (alike : criterion.IsProbedAsFolded registry) {row : Row}
    (member : row ∈ rows) (echoes : criterion.Echoes patterns (rows.map .ofRow) (.ofRow row)) :
    criterion.IsFound patterns (rows.map .ofRow) := by
  obtain ⟨object, listed, own, wrote, mine⟩ := (GraphObject.mem_allToRows written).1 member
  obtain ⟨-, vitaltype, tstamp, channel⟩ := GraphObject.repeated_of_mem_toRows wrote mine
  have present {other : Row} (among : other ∈ own) : other ∈ rows :=
    (GraphObject.mem_allToRows written).2 ⟨object, listed, own, wrote, among⟩
  intro probe asked
  cases criterion with
  | type criterion =>
    obtain ⟨condition, made, -⟩ := bind_eq_ok.1 asked
    rw [probeCondition_type made] at asked
    obtain rfl := Except.ok.inj asked
    obtain ⟨other, among, named⟩ := GraphObject.exists_vitaltype_row wrote
    obtain ⟨-, same, -⟩ := GraphObject.repeated_of_mem_toRows wrote among
    refine ⟨other.uri, Condition.selects_rows.2 ⟨other, present among, rfl, ?_⟩⟩
    simp only [Condition.holds_all, List.mem_cons, List.not_mem_nil, or_false, forall_eq_or_imp,
      forall_eq, criterion.holds_condition made,
      Condition.holds_columnIs .name rfl (Record.cell_name _)]
    refine ⟨named, ?_⟩
    have told : _ ↔ row.vitaltype ∈ criterion.types := echoes_type.1 echoes
    change _ ↔ other.vitaltype ∈ criterion.compared
    rw [same]
    rw [vitaltype] at told
    exact alike _ (GraphObject.exists_ontology_of_toRows wrote).1 told
  | property criterion =>
    obtain rfl := Except.ok.inj asked
    obtain ⟨named, operands⟩ := alike
    have found {other : Row} (among : other ∈ own) (same : other.name = criterion.property) :
        ∃ uri,
          (Condition.all [criterion.nameCondition]).Selects patterns (rows.map .ofRow) uri := by
      refine ⟨other.uri, Condition.selects_rows.2 ⟨other, present among, rfl, ?_⟩⟩
      simp only [Condition.holds_all, List.mem_cons, List.not_mem_nil, or_false, forall_eq,
        criterion.holds_nameCondition]
      change other.name ∈ _
      rwa [same]
    obtain ⟨echo, told, holds⟩ := echoes
    rcases echo?_property told with ⟨same, -, rfl⟩ | ⟨same, _, _, -, -, rfl⟩
    · obtain ⟨sent, some⟩ := Fold.exists_channel operands holds
      obtain ⟨other, among, name⟩ := GraphObject.exists_channel_row wrote (channel ▸ some)
      exact found among (name.trans same.symm)
    · obtain ⟨instant, some⟩ := Fold.exists_instant holds
      obtain ⟨other, among, name⟩ := GraphObject.exists_timestamp_row wrote (tstamp ▸ some)
      exact found among (name.trans same.symm)

/-- Whether the criteria that are probed although a fold covers them are probed as they are
folded. -/
def Container.ProbesAsFolded (registry : Registry) (elements : List Element) : Prop :=
  ∀ fold, Fold.used true ⟨.and, elements⟩ = some fold →
    ∀ criterion place, (Element.leaf criterion, place) ∈ elements.zipIdx →
      fold.covers place = true → criterion ∈ Container.probes ⟨.and, elements⟩ →
      criterion.IsProbedAsFolded registry

/-- With folds the rows of objects can be relied on where criteria are probed as they are folded. -/
theorem SegmentScope.trusts_of_written {scope : SegmentScope} {registry : Registry}
    {objects : List GraphObject} {rows : List Row}
    (written : GraphObject.allToRows registry objects = .ok rows) (folded : scope.folding = true) :
    scope.Trusts (.ofRecords scope.toLeafScope patterns (rows.map .ofRow)) patterns
      (rows.map .ofRow) (Container.ProbesAsFolded registry) := by
  intro _ elements alike uri _ matching criterion member
  rw [folded] at matching
  obtain ⟨listed, -, positive⟩ := Container.mem_probes member
  obtain ⟨place, listed⟩ := exists_place listed
  cases covered : (Fold.used true ⟨.and, elements⟩).any (·.covers place) with
  | false => exact Container.isFound_of_uncovered matching listed covered positive
  | true =>
    obtain ⟨fold, used, covers⟩ := Option.any_eq_true _ _ |>.1 covered
    obtain ⟨row, among, -, holds⟩ :=
      Condition.selects_rows.1 (Container.selects_fold used matching)
    have probed := alike fold used criterion place listed covers member
    obtain ⟨-, -, criteria, rfl, merges⟩ := Fold.merges_of_used used
    have placed : (criterion, place) ∈ criteria.zipIdx := by
      simpa [List.mem_zipIdx_iff_getElem?] using listed
    exact Criterion.isFound_of_echoes written probed among
      ((merges.holds _ _ _).1 holds _ placed covers)

end Written

end GraphSegments
