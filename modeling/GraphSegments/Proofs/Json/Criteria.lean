import GraphSegments.Json.Criteria
import GraphSegments.Proofs.Json.Shapes
import GraphSegments.Proofs.Objects.Comparisons

/-!
Values, objects and criteria are read back from JSON as they were written, however deep containers
stand in one another, as long as no value is a floating-point number.
-/

namespace GraphSegments
open Json

theorem ValueKind.ofJson?_toJson (kind : ValueKind) : ofJson? kind.toJson = some kind :=
  oneOf?_text (by decide) kind.mem_all

theorem Truth.ofJson?_toJson (truth : Truth) : ofJson? truth.toJson = some truth :=
  oneOf?_text (by decide) (by cases truth <;> decide)

theorem Comparator.ofJson?_toJson (comparator : Comparator) :
    ofJson? comparator.toJson = some comparator :=
  oneOf?_text (by decide) comparator.mem_all

theorem Connective.ofJson?_toJson (connective : Connective) :
    ofJson? connective.toJson = some connective :=
  oneOf?_text (by decide) (by cases connective <;> decide)

namespace Value

theorem int64?_int (n : Int64) : int64? (.int n.toInt) = some n := by
  have read : asInt? (-Nat.pow 2 63) (Nat.pow 2 63 - 1) (.int n.toInt) = some n.toInt :=
    asInt?_int n.le_toInt (Int.le_sub_one_of_lt n.toInt_lt)
  rw [int64?, read, Option.map_some, Int64.ofInt_toInt]

/-- What an exact value holds is read back by its kind. -/
theorem ofContent?_content {value : Value} (exact : value.kind.isExact = true) :
    ofContent? value.kind value.content = some value := by
  cases value with
  | boolean truth => rfl
  | date n | long n => exact congrArg (Option.map _) (int64?_int n)
  | double x | float x | geolocation x => cases exact
  | integer n =>
    have read : asInt? (-Nat.pow 2 31) (Nat.pow 2 31 - 1) (.int n.toInt) = some n.toInt :=
      asInt?_int n.le_toInt (Int.le_sub_one_of_lt n.toInt_lt)
    change (asInt? (-Nat.pow 2 31) (Nat.pow 2 31 - 1) (.int n.toInt)).map _ = _
    rw [read, Option.map_some, Int32.ofInt_toInt]
  | other text | string text | uri text => rfl
  | truth truth => exact congrArg (Option.map _) truth.ofJson?_toJson

theorem ofJson?_toJson {value : Value} (exact : value.kind.isExact = true) :
    ofJson? value.toJson = some value := by
  have read : fields? ["kind", "value"] 0 value.toJson =
      some [some value.kind.toJson, some value.content] := fields?_object (by simp) 0
  rw [ofJson?, read]
  change (ValueKind.ofJson? value.kind.toJson).bind _ = _
  rw [ValueKind.ofJson?_toJson]
  exact ofContent?_content exact

end Value

theorem PropertyValue.ofJson?_toJson {held : PropertyValue}
    (exact : ∀ value ∈ held.values, value.kind.isExact = true) :
    ofJson? held.toJson = some held := by
  cases held with
  | single value =>
    exact congrArg (Option.map _) (Value.ofJson?_toJson (exact value (List.mem_singleton_self _)))
  | multi values =>
    exact congrArg (Option.map _) (asList?_list fun value listed =>
      Value.ofJson?_toJson (exact value listed))

theorem Operand.ofJson?_toJson {operand : Operand}
    (exact : ∀ value ∈ operand.values, value.kind.isExact = true) :
    ofJson? operand.toJson = some operand := by
  cases operand with
  | single value =>
    exact congrArg (Option.map _) (Value.ofJson?_toJson (exact value (List.mem_singleton_self _)))
  | list values =>
    exact congrArg (Option.map _) (asList?_list fun value listed =>
      Value.ofJson?_toJson (exact value listed))

namespace PropertyCriterion

/-- An operand that is missing is written as null, and no operand is. -/
theorem optional_operand {criterion : PropertyCriterion}
    (exact : ∀ value ∈ criterion.values, value.kind.isExact = true) :
    optional Operand.ofJson? (some (ofOption Operand.toJson criterion.operand)) =
      some criterion.operand := by
  obtain ⟨property, comparator, operand, negated, expand, expanded⟩ := criterion
  cases operand with
  | none => rfl
  | some operand =>
    have read : Operand.ofJson? operand.toJson = some operand := Operand.ofJson?_toJson exact
    cases operand <;> exact congrArg (Option.map some) read

theorem ofJson?_toJson {criterion : PropertyCriterion}
    (exact : ∀ value ∈ criterion.values, value.kind.isExact = true) :
    ofJson? criterion.toJson = some criterion := by
  have read : fields?
      ["property", "comparator", "value", "negated", "expand_property", "expanded"] 1
        criterion.toJson =
      some [some (.text criterion.property), some criterion.comparator.toJson,
        some (ofOption Operand.toJson criterion.operand), some (.bool criterion.negated),
        some (.bool criterion.expand), some (ofTexts criterion.expanded)] :=
    fields?_object (by simp) 1
  have operand := optional_operand exact
  rw [ofJson?, read]
  simp [required, asText?, asBool?, Comparator.ofJson?_toJson, asList?_ofTexts, operand]

end PropertyCriterion

theorem TypeCriterion.ofJson?_toJson (criterion : TypeCriterion) :
    ofJson? criterion.toJson = some criterion := by
  have read : fields? ["types", "comparator", "expand_types", "negated"] 0 criterion.toJson =
      some [some (ofTexts criterion.types), some criterion.comparator.toJson,
        some (.bool criterion.expand), some (.bool criterion.negated)] :=
    fields?_object (by simp) 0
  rw [ofJson?, read]
  simp [required, asBool?, Comparator.ofJson?_toJson, asList?_ofTexts]

/-- The values that a criterion compares with. Types are none. -/
def Criterion.values : Criterion → List Value
  | .property criterion => criterion.values
  | .type _ => []

theorem Criterion.ofJson?_toJson {criterion : Criterion}
    (exact : ∀ value ∈ criterion.values, value.kind.isExact = true) :
    ofJson? criterion.toJson = some criterion := by
  cases criterion with
  | property criterion =>
    exact congrArg (Option.map _) (PropertyCriterion.ofJson?_toJson exact)
  | type criterion => exact congrArg (Option.map _) criterion.ofJson?_toJson

mutual

/-- The values that the criteria of an element compare with, in order. -/
def Element.values : Element → List Value
  | .leaf criterion => criterion.values
  | .nested _ elements => Element.valuesOfAll elements

def Element.valuesOfAll : List Element → List Value
  | [] => []
  | element :: rest => element.values ++ Element.valuesOfAll rest

end

/-- The values that the criteria of a container compare with, in order. -/
def Container.values (container : Container) : List Value :=
  Element.valuesOfAll container.elements

namespace Container

/-- A container is read back one step after its elements are. -/
theorem within?_record {steps : Nat} (connective : Connective) {items : List Json}
    {elements : List Element} (read : items.mapM (elementWithin? steps) = some elements) :
    within? (steps + 1) (record connective items) = some ⟨connective, elements⟩ := by
  have fields : fields? ["kind", "elements"] 0 (record connective items) =
      some [some connective.toJson, some (.list items)] := fields?_object (by simp) 0
  rw [within?, fields]
  change (Connective.ofJson? connective.toJson).bind _ = _
  rw [Connective.ofJson?_toJson]
  change (items.mapM (elementWithin? steps)).bind _ = _
  rw [read]
  rfl

theorem depth_record (connective : Connective) (items : List Json) :
    (record connective items).depth = depthItems items + 2 := by
  simp [record, Connective.toJson, depth, depthEntries]

mutual

/-- An element is read back by as many steps as it is deep. -/
theorem elementWithin?_toJson {steps : Nat} (element : Element)
    (exact : ∀ value ∈ element.values, value.kind.isExact = true)
    (enough : element.toJson.depth ≤ steps) :
    elementWithin? steps element.toJson = some element := by
  match element with
  | .leaf criterion =>
    rw [elementWithin?]
    exact congrArg (Option.map _) (Criterion.ofJson?_toJson exact)
  | .nested connective elements =>
    have outer : (Element.nested connective elements).toJson.depth =
        depthItems (Element.toJsonAll elements) + 3 := by
      simp [Element.toJson, depth, depthEntries, depth_record]
    obtain ⟨inner, rfl⟩ : ∃ inner, steps = inner + 2 := ⟨steps - 2, by omega⟩
    have read : (Element.toJsonAll elements).mapM (elementWithin? inner) = some elements :=
      mapM_elementWithin?_toJsonAll elements exact (by omega)
    rw [elementWithin?]
    exact congrArg (Option.map _) (within?_record connective read)

theorem mapM_elementWithin?_toJsonAll {steps : Nat} (elements : List Element)
    (exact : ∀ value ∈ Element.valuesOfAll elements, value.kind.isExact = true)
    (enough : depthItems (Element.toJsonAll elements) ≤ steps) :
    (Element.toJsonAll elements).mapM (elementWithin? steps) = some elements := by
  match elements with
  | [] => rfl
  | element :: rest =>
    obtain ⟨here, later⟩ := Nat.max_le.1 enough
    obtain ⟨own, others⟩ := List.forall_mem_append.1 exact
    rw [Element.toJsonAll, List.mapM_cons, elementWithin?_toJson element own here,
      mapM_elementWithin?_toJsonAll rest others later]
    rfl

end

/-- A container is read back. -/
theorem ofJson?_toJson {container : Container}
    (exact : ∀ value ∈ container.values, value.kind.isExact = true) :
    ofJson? container.toJson = some container := by
  rw [ofJson?, toJson, depth_record]
  exact within?_record _ (mapM_elementWithin?_toJsonAll _ exact (Nat.le_succ _))

end Container

namespace GraphObject

/-- The values that an object holds, property by property. -/
def values (object : GraphObject) : List Value :=
  object.properties.entries.flatMap fun entry => entry.2.values

/-- An object is read back. -/
theorem ofJson?_toJson {object : GraphObject}
    (exact : ∀ value ∈ object.values, value.kind.isExact = true) :
    ofJson? object.toJson = some object := by
  have fields : fields? ["uri", "vitaltype", "types", "properties"] 0 object.toJson =
      some [some (.text object.uri), some (.text object.vitaltype), some (ofTexts object.types),
        some (.object (object.properties.entries.map fun entry => (entry.1, entry.2.toJson)))] :=
    fields?_object (by simp) 0
  have each : ∀ entry ∈ object.properties.entries,
      entry? (entry.1, entry.2.toJson) = some (entry.1, entry.2) := by
    intro entry listed
    have read : PropertyValue.ofJson? entry.2.toJson = some entry.2 :=
      PropertyValue.ofJson?_toJson fun value held =>
        exact value (List.mem_flatMap.2 ⟨entry, listed, held⟩)
    rw [ entry?, read]
    rfl
  have properties : properties?
      (.object (object.properties.entries.map fun entry => (entry.1, entry.2.toJson))) =
        some object.properties := by
    rw [properties?, mapM_map_eq_some each, Option.map_some]
    exact congrArg some ((congrArg _ (List.map_id _)).trans object.properties.ofList_entries)
  rw [ofJson?, fields]
  simp [required, asText?, asList?_ofTexts, properties]

end GraphObject

/-- Criteria and objects stay as they are in JSON: a container of any depth and width is read back
from what it is written as, and so is an object, unless one of their values is a double, a float or
a point. -/
theorem json_keeps_exact_values (container : Container) (object : GraphObject) :
    ((∀ value ∈ container.values, value.kind.isExact = true) →
      Container.ofJson? container.toJson = some container) ∧
    ((∀ value ∈ object.values, value.kind.isExact = true) →
      GraphObject.ofJson? object.toJson = some object) :=
  ⟨Container.ofJson?_toJson, GraphObject.ofJson?_toJson⟩

/-- A container in a container, next to criteria with one operand, with a list of them and with
none, and an object whose only property has several values. -/
theorem json_keeps_exact_values_nested :
    let named : PropertyCriterion :=
      ⟨"urn:p:name", .eq, some (.single (.string "null")), true, false, []⟩
    let counted : PropertyCriterion :=
      ⟨"urn:p:count", .oneOf, some (.list [.integer 3, .long 4]), false, true, ["urn:p:count"]⟩
    let held : PropertyCriterion := ⟨"urn:p:held", .present, none, false, false, []⟩
    let container : Container :=
      ⟨.and, [.leaf (.property named), .leaf (.type (.oneOf ["urn:t"])),
        .nested .or [.leaf (.property counted), .nested .and [], .leaf (.property held)]]⟩
    let object : GraphObject := ⟨"urn:a", "urn:t", ["urn:t"],
      .ofList [("urn:p:state", .multi [.truth .mu, .uri "urn:b", .date 0, .boolean false])]⟩
    Container.ofJson? container.toJson = some container ∧
      GraphObject.ofJson? object.toJson = some object := by
  intro named counted held container object
  have kept := json_keeps_exact_values container object
  exact ⟨kept.1 (by decide), kept.2 (by decide)⟩

end GraphSegments
