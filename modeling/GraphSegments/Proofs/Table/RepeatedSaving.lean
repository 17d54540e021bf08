import GraphSegments.Proofs.Table.Resaving
import Mathlib.Logic.Relation

/-!
Saving an object again and again. Nothing changes after the first time, unless what is stored still
has a version to take off: it is one version at a time that writing takes off.
-/

namespace GraphSegments
open Results VersionedUri

theorem GraphObject.storedValue_eq_self_iff {value : Value} :
    storedValue value = value ↔ ∀ uri ∈ value.uri?, versionless uri = uri := by
  cases value <;> simp [storedValue, Value.uri?]

namespace GraphObject

/-- The names under which an object is written and the URIs among its values, as it spells them. -/
def spellings (object : GraphObject) (ontology : OntologyDef) : List String :=
  (object.entries ontology).flatMap fun (name, held) =>
    held.values.flatMap fun value => name :: value.uri?.toList

/-- What is written has no version left exactly if its spelling had one at most. -/
theorem isCurrent_rowOfValue (registry : Registry) (object : GraphObject) (name : String)
    (held : PropertyValue) (value : Value) :
    (rowOfValue registry object name held value).IsCurrent ↔
      ∀ uri ∈ name :: value.uri?.toList, ¬ IsVersionedTwice uri := by
  have stored : (rowOfValue registry object name held value).value = value.written.1 :=
    congrArg Prod.fst (stored_rowOfValue registry object name held value)
  rw [Row.IsCurrent, stored, storedValue_eq_self_iff, Value.uri?_written, List.forall_mem_cons]
  refine and_congr versionless_versionless_iff ?_
  simp only [Option.mem_def, Option.map_eq_some_iff, forall_exists_index, and_imp,
    forall_apply_eq_imp_iff₂, Option.mem_toList, versionless_versionless_iff]

/-- The rows of an object are in the current vocabulary exactly if nothing that is written is
spelled with two versions. -/
theorem isCurrent_toRows_iff {registry : Registry} {object : GraphObject} {ontology : OntologyDef}
    {rows : List Row} (written : object.toRows registry = .ok rows)
    (described : object.ontology? registry = some ontology) :
    (∀ row ∈ rows, row.IsCurrent) ↔
      ∀ uri ∈ object.spellings ontology, ¬ IsVersionedTwice uri := by
  obtain ⟨-, other, same, rfl⟩ := toRows_eq_ok.1 written
  obtain rfl := Option.some.inj (described.symm.trans same)
  constructor
  · intro current uri listed
    obtain ⟨⟨name, held⟩, entry, listed⟩ := List.mem_flatMap.1 listed
    obtain ⟨value, member, listed⟩ := List.mem_flatMap.1 listed
    have row := mem_rowsOfEntry.2
      ⟨value, member, Eq.refl (rowOfValue registry object name held value)⟩
    exact (isCurrent_rowOfValue registry object name held value).1
      (current _ (List.mem_flatMap.2 ⟨_, entry, row⟩)) uri listed
  · intro once row listed
    obtain ⟨⟨name, held⟩, entry, listed⟩ := List.mem_flatMap.1 listed
    obtain ⟨value, member, rfl⟩ := mem_rowsOfEntry.1 listed
    refine (isCurrent_rowOfValue registry object name held value).2 fun uri spelled => ?_
    exact once uri (List.mem_flatMap.2 ⟨_, entry, List.mem_flatMap.2 ⟨value, member, spelled⟩⟩)

end GraphObject

/-- With what an object is read and saved again. -/
structure Session where
  registry : Registry
  options : ReadOptions

namespace Session

/-- The rows of an object are read, and the object is saved again as other rows. -/
def Resaves (session : Session) (before after : List Row) : Prop :=
  ∃ decoded : DecodedObject,
    DecodedObject.ofRows session.registry session.options before = .ok (some decoded) ∧
      decoded.object.toRows session.registry = .ok after

/-- An object is read and saved again in one of several sessions. -/
def ResavedIn (sessions : List Session) (before after : List Row) : Prop :=
  ∃ session ∈ sessions, session.Resaves before after

/-- The rows of an object that is read and saved again, unless that fails. -/
def resaved? (session : Session) (rows : List Row) : Option (List Row) :=
  (DecodedObject.ofRows session.registry session.options rows).toOption.join.bind fun decoded =>
    (decoded.object.toRows session.registry).toOption

theorem resaves_iff {session : Session} {before after : List Row} :
    session.Resaves before after ↔ session.resaved? before = some after := by
  unfold resaved?
  rw [Option.bind_eq_some_iff]
  refine exists_congr fun decoded => and_congr ?_ toOption_eq_some_iff.symm
  rw [Option.join_eq_some_iff, toOption_eq_some_iff]

theorem resaves_getD {session : Session} {before : List Row}
    (resaved : (session.resaved? before).isSome = true) :
    session.Resaves before ((session.resaved? before).getD []) := by
  obtain ⟨after, resaved⟩ := Option.isSome_iff_exists.1 resaved
  rw [resaved, Option.getD_some]
  exact resaves_iff.2 resaved

/-- What stays stored however often an object is read and saved again. -/
structure KeepsStored (sessions : List Session) (before after : List Row) : Prop where
  repeated : ∀ earlier ∈ before, ∀ later ∈ after,
    later.uri = earlier.uri ∧ later.vitaltype = earlier.vitaltype
  /-- No name is new. -/
  names : ∀ later ∈ after, ∃ earlier ∈ before, earlier.name = later.name
  /-- A name is lost only where nothing is enforced. -/
  lost : ∀ earlier ∈ before, (∃ later ∈ after, later.name = earlier.name) ∨
    Vocabulary.isStructural earlier.name = false ∧
      ∃ session ∈ sessions, session.options.enforcement = .lenient
  /-- No type is new or lost, and none is repeated. -/
  types : Row.uris Vocabulary.types after = (Row.uris Vocabulary.types before).eraseDups
  /-- Under every other name are the URIs that were there. -/
  uris : ∀ later ∈ after, later.name ≠ Vocabulary.types →
    Row.uris later.name after = Row.uris later.name before

section Kept

variable {sessions : List Session} {before between after : List Row}

theorem KeepsStored.trans (first : KeepsStored sessions before between)
    (second : KeepsStored sessions between after) : KeepsStored sessions before after where
  repeated earlier listed later listed' := by
    obtain ⟨row, member, -⟩ := second.names later listed'
    obtain ⟨uri, vitaltype⟩ := first.repeated earlier listed row member
    obtain ⟨uri', vitaltype'⟩ := second.repeated row member later listed'
    exact ⟨uri'.trans uri, vitaltype'.trans vitaltype⟩
  names later listed := by
    obtain ⟨row, member, same⟩ := second.names later listed
    obtain ⟨earlier, listed, same'⟩ := first.names row member
    exact ⟨earlier, listed, same'.trans same⟩
  lost earlier listed := by
    rcases first.lost earlier listed with ⟨row, member, same⟩ | lost
    · rw [← same]
      exact second.lost row member
    · exact .inr lost
  types := by
    rw [second.types, first.types, Lists.eraseDups_of_nodup (Lists.nodup_eraseDups _)]
  uris later listed other := by
    obtain ⟨row, member, same⟩ := second.names later listed
    rw [second.uris later listed other, ← same, first.uris row member (same ▸ other)]

/-- What stays stored stays in the current vocabulary. -/
theorem KeepsStored.isCurrent (kept : KeepsStored sessions before after)
    (current : ∀ row ∈ before, row.IsCurrent) : ∀ row ∈ after, row.IsCurrent := by
  intro row listed
  refine ⟨?_, GraphObject.storedValue_eq_self_iff.2 fun uri own => ?_⟩
  · obtain ⟨earlier, member, same⟩ := kept.names row listed
    rw [← same]
    exact (current earlier member).1
  · have stored : uri ∈ Row.uris row.name after :=
      List.mem_filterMap.2 ⟨row, Row.mem_named.2 ⟨listed, rfl⟩, own⟩
    have before : uri ∈ Row.uris row.name before := by
      by_cases type : row.name = Vocabulary.types
      · rw [type, kept.types, List.mem_eraseDups] at stored
        rwa [type]
      · rwa [kept.uris row listed type] at stored
    exact Row.versionless_of_mem_uris current before

end Kept

/-- Rows of an object in the current vocabulary. In all sessions the class of the object belongs to
the ontology with which it was written. -/
structure IsSettled (sessions : List Session) (rows : List Row) : Prop where
  current : ∀ row ∈ rows, row.IsCurrent
  written : ∃ (writer : Registry) (object : GraphObject), object.toRows writer = .ok rows ∧
    ∀ session ∈ sessions, (object.ontology? session.registry).map (versionless ·.uri) =
      (object.ontology? writer).map (versionless ·.uri)

section Run

variable {sessions : List Session} (plain : ∀ session ∈ sessions, session.registry.HasPlainDomains)
  {before after : List Row} (settled : IsSettled sessions before)
include plain settled

/-- Being saved once more keeps what is stored. -/
theorem IsSettled.step {session : Session} (known : session ∈ sessions)
    (resaved : session.Resaves before after) :
    KeepsStored sessions before after ∧ IsSettled sessions after := by
  obtain ⟨writer, object, written, agree⟩ := settled.written
  obtain ⟨decoded, read, resaved⟩ := resaved
  have domains := plain session known
  have alike := (GraphObject.exists_reading domains written settled.current read).1
  have keeps := GraphObject.keepsVocabulary_of_resaved domains written settled.current read resaved
  have ontology :=
    (GraphObject.uris_hasOntologyIri_iff domains written settled.current read resaved).2
      (agree session known)
  have kept : KeepsStored sessions before after :=
    { repeated := keeps.repeated
      names := keeps.names
      lost := fun earlier listed => (keeps.lost earlier listed).imp_right
        fun lost => ⟨lost.2.1, session, known, lost.1⟩
      types := keeps.types
      uris := fun later listed other => by
        by_cases iri : later.name = Vocabulary.hasOntologyIri
        · rw [iri, ontology]
        · exact keeps.uris later listed other iri }
  refine ⟨kept, kept.isCurrent settled.current, session.registry, decoded.object, resaved, ?_⟩
  intro other listed
  rw [alike.ontology?, alike.ontology?, agree other listed, agree session known]

/-- However often an object is saved again, what is stored is kept. -/
theorem IsSettled.run
    (resaved : Relation.TransGen (ResavedIn sessions) before after) :
    KeepsStored sessions before after ∧ IsSettled sessions after := by
  induction resaved with
  | single once =>
    obtain ⟨session, known, resaved⟩ := once
    exact settled.step plain known resaved
  | tail _ last ih =>
    obtain ⟨session, known, resaved⟩ := last
    obtain ⟨kept, settled⟩ := ih
    exact (settled.step plain known resaved).imp_left kept.trans

end Run

/-- Taking a version off leaves none, and an object keeps the names, types and URIs with which it is
stored however often it is read and saved again, exactly if there are no two versions to take off:
in the URI, and in what the object is written with. -/
theorem resaving_is_stable :
    (∀ uri, ((ofUri (versionless uri)).version = none ↔ ¬ IsVersionedTwice uri) ∧
      (versionless (versionless uri) = versionless uri ↔ ¬ IsVersionedTwice uri)) ∧
    ∀ (writer : Registry) (object : GraphObject) (ontology : OntologyDef) (rows : List Row),
      object.toRows writer = .ok rows → object.ontology? writer = some ontology →
      ((∀ row ∈ rows, row.IsCurrent) ↔
        ∀ uri ∈ object.spellings ontology, ¬ IsVersionedTwice uri) ∧
      ∀ sessions : List Session, (∀ uri ∈ object.spellings ontology, ¬ IsVersionedTwice uri) →
        (∀ session ∈ sessions, session.registry.HasPlainDomains ∧
          (object.ontology? session.registry).map (versionless ·.uri) =
            some (versionless ontology.uri)) →
        ∀ again, Relation.TransGen (ResavedIn sessions) rows again →
          KeepsStored sessions rows again := by
  refine ⟨fun uri => ⟨version_versionless_iff, versionless_versionless_iff⟩, ?_⟩
  intro writer object ontology rows written described
  have current := GraphObject.isCurrent_toRows_iff written described
  refine ⟨current, fun sessions once known again resaved => ?_⟩
  have settled : IsSettled sessions rows :=
    ⟨current.2 once, writer, object, written, fun session listed => by
      rw [(known session listed).2, described]
      rfl⟩
  exact (settled.run (fun session listed => (known session listed).1) resaved).1

/-- An object with versions in its property and its values is saved again twice, the first time by
reading it in the older version of its ontology. -/
theorem resaving_is_stable_older :
    let newest : ClassDef := ⟨"urn:app#C", none, "urn:app", false⟩
    let writer := ((Registry.core.addOntology ⟨"urn:app", ⟨1, 0, 0⟩, none, []⟩).addClass
      newest).addProperty ⟨"urn:base#p", .uri, true, none, "urn:base"⟩
    let registry := ((((Registry.core.addOntology ⟨"urn:app", ⟨2, 0, 0⟩, none, []⟩).addOlder
      ⟨"urn:app", ⟨1, 0, 0⟩, none, ["urn:base_v0_5_0"]⟩).addClass newest).addClass
        ⟨"urn:app_v1_0_0#C", none, "urn:app", false⟩).addProperty
          ⟨"urn:base_v0_5_0#p", .uri, true, none, "urn:base"⟩
    let sessions : List Session := [⟨registry, ⟨.strict, true, false, .inline⟩⟩]
    let object : GraphObject := ⟨"urn:a", "urn:app_v1_0_0#C", ["urn:app_v1_0_0#C", "urn:base#B"],
      (∅ : Dictionary PropertyValue).insert "urn:base_v0_4_0#p"
        (.multi [.uri "urn:base_v0_5_0#x", .uri "urn:other_v1"])⟩
    let ontology : OntologyDef := ⟨"urn:app", ⟨1, 0, 0⟩, none, []⟩
    let rows := (object.toRows writer).toOption.getD []
    object.toRows writer = .ok rows ∧ object.ontology? writer = some ontology ∧
      (∀ uri ∈ object.spellings ontology, ¬ IsVersionedTwice uri) ∧
      ∃ once twice, ResavedIn sessions rows once ∧ ResavedIn sessions once twice ∧
        KeepsStored sessions rows once ∧ KeepsStored sessions rows twice := by
  intro newest writer registry sessions object ontology rows
  have written : object.toRows writer = .ok rows := eq_ok_getD (by decide +kernel) []
  have described : object.ontology? writer = some ontology := by decide +kernel
  have spelled : ∀ uri ∈ object.spellings ontology, ¬ IsVersionedTwice uri := by decide +kernel
  have kept := ((resaving_is_stable.2 writer object ontology rows written described).2 sessions
    spelled (by decide +kernel))
  let session : Session := ⟨registry, ⟨.strict, true, false, .inline⟩⟩
  let once := (session.resaved? rows).getD []
  let twice := (session.resaved? once).getD []
  have first : ResavedIn sessions rows once :=
    ⟨session, List.mem_singleton_self _, resaves_getD (by decide +kernel)⟩
  have second : ResavedIn sessions once twice :=
    ⟨session, List.mem_singleton_self _, resaves_getD (by decide +kernel)⟩
  exact ⟨written, described, spelled, once, twice, first, second, kept once (.single first),
    kept twice (.tail (.single first) second)⟩

/-- Of two versions one is left, which is taken off when the object is saved again. Nor are the
names kept where an older ontology has no name or that of something in another one, where
properties are left out, and where a type is repeated. -/
theorem versions_come_off_one_by_one :
    let doubled := "urn:a_v1_0_0_v2_0_0#x"
    let object (name : String) : GraphObject := ⟨"urn:x", "urn:C", ["urn:C"],
      (∅ : Dictionary PropertyValue).insert name (.single (.integer 1))⟩
    let registry (domain : String) := (Registry.core.addOntology
      ⟨domain, ⟨1, 0, 0⟩, none, []⟩).addClass ⟨"urn:C", none, domain, false⟩
    let strict : ReadOptions := ⟨.strict, true, false, .inline⟩
    let changes (registry : Registry) (options : ReadOptions) (object : GraphObject) :=
      ∃ before after, object.toRows registry = .ok before ∧
        Resaves ⟨registry, options⟩ before after ∧ after.map (·.name) ≠ before.map (·.name)
    versionless doubled = "urn:a_v1_0_0#x" ∧
      (ofUri (versionless doubled)).version = some ⟨1, 0, 0⟩ ∧
      versionless (versionless doubled) ≠ versionless doubled ∧
      changes (registry "urn:app") strict (object doubled) ∧
      (∀ domain ∈ ["", "urn:a#b"], changes ((registry domain).addOlder
        ⟨domain, ⟨1, 0, 0⟩, none, []⟩) strict (object (domain ++ "#p"))) ∧
      changes (registry "urn:app") ⟨.lenient, false, false, .inline⟩ (object "urn:a#x") ∧
      changes (registry "urn:app") strict
        { object "urn:a#x" with types := ["urn:C", "urn:C"] } := by
  intro doubled object registry strict changes
  have changed {registry : Registry} {options : ReadOptions} {object : GraphObject}
      (different : ((object.toRows registry).toOption.any fun before =>
        (resaved? ⟨registry, options⟩ before).any fun after =>
          after.map (·.name) != before.map (·.name)) = true) : changes registry options object := by
    obtain ⟨before, written, different⟩ := (Option.any_eq_true _ _).1 different
    obtain ⟨after, resaved, different⟩ := (Option.any_eq_true _ _).1 different
    exact ⟨before, after, eq_ok_of_toOption written, resaves_iff.2 resaved, bne_iff_ne.1 different⟩
  refine ⟨by decide, by decide +kernel, by decide +kernel, changed (by decide +kernel), ?_,
    changed (by decide +kernel), changed (by decide +kernel)⟩
  intro domain listed
  rcases List.mem_pair.1 listed with rfl | rfl
  · exact changed (by decide +kernel)
  · exact changed (by decide +kernel)

end Session

end GraphSegments
