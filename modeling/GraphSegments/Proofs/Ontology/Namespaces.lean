import GraphSegments.Proofs.Ontology.Imports

/-!
The namespaces of older versions. Each carries its version after an underscore, and no name to
which the store gives a meaning has one. So a URI that is moved to an older namespace is never one
of these names, whatever ontologies are loaded.
-/

namespace GraphSegments

namespace Text

/-- What is cut off stands after the mark, so the mark is there. -/
theorem mem_of_cutLast? {mark : Char} {more chars : List Char} {parts : List Char × List Char}
    (cut : cutLast? (mark :: more) chars = some parts) : mark ∈ chars := by
  induction chars generalizing parts with
  | nil => cases cut
  | cons c rest ih =>
    cases later : cutLast? (mark :: more) rest with
    | some parts => exact List.mem_cons_of_mem c (ih later)
    | none =>
      simp only [cutLast?, later, strip?] at cut
      split at cut
      next same => exact List.mem_cons.2 (.inl same)
      next => cases cut

theorem subset_of_cutFirst? {mark : Char} {chars before after : List Char}
    (cut : cutFirst? mark chars = some (before, after)) : before ⊆ chars := by
  induction chars generalizing before with
  | nil => cases cut
  | cons c rest ih =>
    unfold cutFirst? at cut
    split at cut
    next =>
      obtain ⟨rfl, rfl⟩ := Prod.mk.inj (Option.some.inj cut)
      exact List.nil_subset _
    next =>
      obtain ⟨⟨earlier, _⟩, found, same⟩ := Option.map_eq_some_iff.1 cut
      obtain ⟨rfl, rfl⟩ := Prod.mk.inj same
      exact List.cons_subset_cons c (ih found)

end Text

/-- Whether a URI has the mark after which a namespace names its version. -/
def IsDated (uri : String) : Prop := '_' ∈ uri.toList

instance (uri : String) : Decidable (IsDated uri) := inferInstanceAs (Decidable ('_' ∈ uri.toList))

namespace VersionedUri

theorem mem_of_splitNamespace? {space : List Char} {split : List Char × Version}
    (found : splitNamespace? space = some split) : '_' ∈ space := by
  unfold splitNamespace? at found
  split at found
  next => cases found
  next base suffix cut => exact Text.mem_of_cutLast? cut

/-- A URI that names a version has the mark. -/
theorem isDated_of_version {uri : String} {version : Version}
    (named : (ofUri uri).version = some version) : IsDated uri := by
  unfold ofUri at named
  split at named
  next space fragment cut =>
    split at named
    next base version split =>
      exact Text.subset_of_cutFirst? cut (mem_of_splitNamespace? split)
    next => cases named
  next =>
    split at named
    next base version split => exact mem_of_splitNamespace? split
    next => cases named

end VersionedUri

theorem isDated_append (start : String) {rest : String} (dated : IsDated rest) :
    IsDated (start ++ rest) := by
  rw [IsDated, String.toList_append]
  exact List.mem_append_right _ dated

theorem IsDated.append {start : String} (dated : IsDated start) (rest : String) :
    IsDated (start ++ rest) := by
  rw [IsDated, String.toList_append]
  exact List.mem_append_left _ dated

theorem Version.isDated_suffix (version : Version) : IsDated version.suffix := by
  have start : IsDated "_v" := by decide
  unfold suffix
  exact ((((start.append _).append _).append _).append _).append _

/-- No name with a meaning of its own has the mark. -/
theorem Vocabulary.not_isDated {name : String} (structural : isStructural name = true) :
    ¬ IsDated name := by
  have all : ∀ name ∈ Vocabulary.structural, '_' ∉ name.toList := by decide +kernel
  exact all name (List.contains_iff_mem.1 structural)

/-- Namespaces by the current one, each of another version. -/
def AreDated (namespaces : Dictionary String) : Prop :=
  ∀ current older, namespaces.find? current = some older → IsDated older

/-- The older namespaces of a domain are its own one and imports, each of which names its version. -/
theorem Registry.areDated_olderNamespaces? {registry : Registry} {domain : String}
    {version : Version} {namespaces : Dictionary String}
    (known : registry.olderNamespaces? domain version = some namespaces) :
    AreDated namespaces := by
  intro current older found
  obtain ⟨ontology, loaded, -⟩ := Option.map_eq_some_iff.1 known
  rcases isVersionOf_of_find? loaded known found with ⟨-, rfl⟩ | ⟨-, imported⟩
  · exact isDated_append domain version.isDated_suffix
  · obtain ⟨version, named⟩ := Option.isSome_iff_exists.1 (Bool.and_eq_true_iff.1 imported).1
    exact VersionedUri.isDated_of_version named

/-- A URI stays where it is or moves to one of the older namespaces. -/
theorem AreDated.toOlder_eq_self_or {namespaces : Dictionary String} (dated : AreDated namespaces)
    (uri : String) :
    toOlder namespaces.entries uri = uri ∨ IsDated (toOlder namespaces.entries uri) := by
  have each : ∀ entry ∈ namespaces.entries, IsDated entry.2 := fun entry listed =>
    dated entry.1 entry.2 (Dictionary.find?_eq_some.2 listed)
  generalize namespaces.entries = entries at each
  induction entries with
  | nil => exact .inl rfl
  | cons entry rest ih =>
    obtain ⟨first, others⟩ := List.forall_mem_cons.1 each
    unfold toOlder
    split
    next => exact .inr ((first.append "#").append _)
    next => exact ih others

end GraphSegments
