import GraphSegments.Proofs.Ontology.Imports
import GraphSegments.Proofs.Text.Suffixes

/-!
URIs moved to older namespaces. A name in a domain is moved to the namespace that goes together with
that domain, and taking the version off brings it back. The namespace of a domain is that of the
last import of it that is followed, so it is its own one unless another version is imported.
-/

namespace GraphSegments

variable {namespaces : Dictionary String} {domain older uri : String}

/-- A name in a domain does not fit a namespace that comes before the domain. -/
theorem not_lt_of_append_fragment {current fragment rest : String} (plain : '#' ∉ domain.toList)
    (same : domain ++ "#" ++ fragment = current ++ "#" ++ rest) : ¬ current < domain := by
  have same : domain.toList ++ '#' :: fragment.toList = current.toList ++ '#' :: rest.toList := by
    simpa using congrArg String.toList same
  have start : domain.toList <+: current.toList := by
    rcases List.append_eq_append_iff.1 same with ⟨more, whole, -⟩ | ⟨more, whole, cut⟩
    · exact ⟨more, whole.symm⟩
    · cases more with
      | nil => exact ⟨[], by simpa using whole⟩
      | cons c more =>
        obtain ⟨rfl, -⟩ := List.cons.inj cut
        exact absurd (whole ▸ by simp) plain
  exact fun before => List.not_lt.2 start.le (String.lt_iff.1 before)

/-- A name in a domain is moved to the namespace that goes together with the domain: no namespace
before it fits. -/
theorem toOlder_append_fragment (plain : '#' ∉ domain.toList)
    (known : namespaces.find? domain = some older) (fragment : String) :
    toOlder namespaces.entries (domain ++ "#" ++ fragment) = older ++ "#" ++ fragment := by
  have listed := Dictionary.find?_eq_some.1 known
  obtain ⟨entries, ascending⟩ := namespaces
  change (domain, older) ∈ entries at listed
  show toOlder entries _ = _
  induction entries with
  | nil => exact absurd listed List.not_mem_nil
  | cons entry rest ih =>
    obtain ⟨below, ascending⟩ := List.pairwise_cons.1 ascending
    rcases List.mem_cons.1 listed with rfl | later
    · have fits : Text.stripText? (domain ++ "#") (domain ++ "#" ++ fragment) = some fragment :=
        Text.stripText?_eq_some_iff.2 rfl
      simp only [toOlder, fits]
    · have misses : Text.stripText? (entry.1 ++ "#") (domain ++ "#" ++ fragment) = none := by
        rw [Option.eq_none_iff_forall_ne_some]
        intro left fits
        exact not_lt_of_append_fragment plain (Text.stripText?_eq_some_iff.1 fits) (below _ later)
      simp only [toOlder, misses]
      exact ih ascending (Dictionary.find?_eq_some.2 later) later

/-- Older namespaces from which the version comes off again. -/
def AreUndone (namespaces : Dictionary String) : Prop :=
  ∀ current older, namespaces.find? current = some older → versionless older = current

/-- Taking the version off undoes the move to an older namespace. -/
theorem AreUndone.versionless_toOlder (undone : AreUndone namespaces)
    (current : versionless uri = uri) :
    versionless (toOlder namespaces.entries uri) = uri := by
  have each : ∀ entry ∈ namespaces.entries, versionless entry.2 = entry.1 := fun entry listed =>
    undone entry.1 entry.2 (Dictionary.find?_eq_some.2 listed)
  generalize namespaces.entries = entries at each
  induction entries with
  | nil => exact current
  | cons entry rest ih =>
    obtain ⟨undone, others⟩ := List.forall_mem_cons.1 each
    unfold toOlder
    split
    next fragment fits =>
      calc
        versionless (entry.2 ++ "#" ++ fragment) = versionless entry.2 ++ "#" ++ fragment := by
          rw [versionless, VersionedUri.ofUri_append_fragment]
          rfl
        _ = entry.1 ++ "#" ++ fragment := by rw [undone]
        _ = uri := (Text.stripText?_eq_some_iff.1 fits).symm
    next => exact ih others

namespace Registry

variable {registry : Registry} {version : Version} {ontology : OntologyDef}

/-- Older ontologies and their imports have names, which are no names of something in them. -/
def HasPlainNames (registry : Registry) : Prop :=
  ∀ ontology ∈ registry.older, ontology.uri ≠ "" ∧ '#' ∉ ontology.uri.toList ∧
    ∀ importUri ∈ ontology.imports, '#' ∉ importUri.toList

instance (registry : Registry) : Decidable registry.HasPlainNames :=
  inferInstanceAs (Decidable (∀ ontology ∈ registry.older, _ ∧ _ ∧ _))

/-- Older ontologies have names, which are no names of something in them. -/
def HasPlainDomains (registry : Registry) : Prop :=
  ∀ ontology ∈ registry.older, ontology.uri ≠ "" ∧ '#' ∉ ontology.uri.toList

instance (registry : Registry) : Decidable registry.HasPlainDomains :=
  inferInstanceAs (Decidable (∀ ontology ∈ registry.older, _ ∧ _))

theorem HasPlainNames.hasPlainDomains (plain : registry.HasPlainNames) :
    registry.HasPlainDomains :=
  fun ontology listed => ⟨(plain ontology listed).1, (plain ontology listed).2.1⟩

/-- Older namespaces are versions of what they go together with. -/
theorem HasPlainDomains.areUndone (plain : registry.HasPlainDomains)
    (known : registry.olderNamespaces? domain version = some namespaces) :
    AreUndone namespaces := by
  intro current older found
  obtain ⟨ontology, loaded, -⟩ := Option.map_eq_some_iff.1 known
  rcases isVersionOf_of_find? loaded known found with ⟨rfl, rfl⟩ | ⟨-, named⟩
  · have own : ontology.uri = current ∧ ontology.version = version := by
      simpa using List.find?_some loaded
    obtain ⟨left, whole⟩ := plain ontology (List.mem_of_find?_eq_some loaded)
    rw [own.1] at left whole
    rw [versionless, VersionedUri.ofUri_suffix left whole]
  · simpa using (Bool.and_eq_true_iff.1 named).2

/-- The import of a domain that is followed last, if there is one. -/
def lastImport? (registry : Registry) (ontology : OntologyDef) (domain : String) : Option String :=
  (registry.followedFrom ontology).reverse.find? (isVersionOf domain)

/-- A domain goes together with its own version, and all of its names are moved there, exactly if the
last import of the domain that is followed, if there is any, is spelled like that version. So it
does where no import that is reached names the domain in another way. -/
theorem own_namespace_is_kept_iff (loaded : registry.older? domain version = some ontology)
    (plain : '#' ∉ domain.toList) :
    ∃ namespaces, registry.olderNamespaces? domain version = some namespaces ∧
      (namespaces.find? domain = some (domain ++ version.suffix) ↔
        ∀ last ∈ registry.lastImport? ontology domain, last = domain ++ version.suffix) ∧
      ((∀ fragment, toOlder namespaces.entries (domain ++ "#" ++ fragment) =
          domain ++ version.suffix ++ "#" ++ fragment) ↔
        ∀ last ∈ registry.lastImport? ontology domain, last = domain ++ version.suffix) ∧
      ((∀ importUri, registry.Reaches ontology importUri → isVersionOf domain importUri = true →
          importUri = domain ++ version.suffix) →
        ∀ last ∈ registry.lastImport? ontology domain, last = domain ++ version.suffix) := by
  have known := olderNamespaces?_eq loaded
  have found := find?_olderNamespaces loaded known domain
  rw [if_pos rfl, ← lastImport?] at found
  generalize (registry.followedFrom ontology).foldl record _ = namespaces at known found
  have kept : namespaces.find? domain = some (domain ++ version.suffix) ↔
      ∀ last ∈ registry.lastImport? ontology domain, last = domain ++ version.suffix := by
    rw [found]
    cases registry.lastImport? ontology domain <;> simp
  have there : ∃ older, namespaces.find? domain = some older := by
    rw [found]
    cases registry.lastImport? ontology domain <;> simp
  obtain ⟨older, there⟩ := there
  refine ⟨namespaces, known, kept, ?_, ?_⟩
  · rw [← kept, there, Option.some_inj]
    simp only [toOlder_append_fragment plain there]
    constructor
    · intro moved
      have alike : older ++ "#" = domain ++ version.suffix ++ "#" := by
        simpa only [String.append_empty] using moved ""
      exact (String.append_left_inj "#").1 alike
    · rintro rfl fragment
      rfl
  · intro own last followed
    have visited := List.mem_reverse.1 (List.mem_of_find?_eq_some followed)
    exact own last ((mem_followedFrom (List.mem_of_find?_eq_some loaded)).1 visited)
      (List.find?_some followed)

theorem own_namespace_is_kept_iff_entangled :
    let ontology : OntologyDef := ⟨"urn:app", ⟨1, 0, 0⟩, none,
      ["urn:base_v0_5_0", "urn:plain", "urn:base_v0_5_0", "urn:app_v1_0_0"]⟩
    let own := "urn:app" ++ (⟨1, 0, 0⟩ : Version).suffix
    entangled.older? "urn:app" ⟨1, 0, 0⟩ = some ontology ∧ '#' ∉ "urn:app".toList ∧
      entangled.lastImport? ontology "urn:app" = some "urn:app_v1_0_0" ∧
      ∃ namespaces, entangled.olderNamespaces? "urn:app" ⟨1, 0, 0⟩ = some namespaces ∧
        (namespaces.find? "urn:app" = some own ↔
          ∀ last ∈ entangled.lastImport? ontology "urn:app", last = own) ∧
        ((∀ fragment, toOlder namespaces.entries ("urn:app" ++ "#" ++ fragment) =
            own ++ "#" ++ fragment) ↔
          ∀ last ∈ entangled.lastImport? ontology "urn:app", last = own) ∧
        ((∀ importUri, entangled.Reaches ontology importUri →
            isVersionOf "urn:app" importUri = true → importUri = own) →
          ∀ last ∈ entangled.lastImport? ontology "urn:app", last = own) := by
  intro ontology own
  have loaded : entangled.older? "urn:app" ⟨1, 0, 0⟩ = some ontology := by decide +kernel
  have plain : '#' ∉ "urn:app".toList := by decide
  exact ⟨loaded, plain, by decide +kernel, own_namespace_is_kept_iff loaded plain⟩

/-- A domain that imports itself in another version goes together with that version. -/
theorem imported_version_takes_domain :
    let registry : Registry := ⟨[], [⟨"urn:app", ⟨1, 0, 0⟩, none, ["urn:app_v0_9_0"]⟩], [], []⟩
    '#' ∉ "urn:app".toList ∧ (registry.older? "urn:app" ⟨1, 0, 0⟩).isSome = true ∧
      ∃ namespaces, registry.olderNamespaces? "urn:app" ⟨1, 0, 0⟩ = some namespaces ∧
        namespaces.find? "urn:app" = some "urn:app_v0_9_0" ∧
        namespaces.find? "urn:app" ≠ some ("urn:app" ++ (⟨1, 0, 0⟩ : Version).suffix) ∧
        toOlder namespaces.entries "urn:app#x" = "urn:app_v0_9_0#x" := by
  intro registry
  refine ⟨by decide, by decide +kernel, (registry.olderNamespaces? "urn:app" ⟨1, 0, 0⟩).getD ∅, ?_⟩
  exact ⟨by decide +kernel, by decide +kernel, by decide +kernel, by decide +kernel⟩

end Registry

end GraphSegments
