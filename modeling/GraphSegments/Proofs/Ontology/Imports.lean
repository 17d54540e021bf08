import GraphSegments.Proofs.Dictionaries
import GraphSegments.Proofs.Text.Suffixes
import Mathlib.Algebra.Order.BigOperators.Group.Finset
import Mathlib.Logic.Relation

/-!
Imports of older ontologies. Following them is one thing and recording them another: the imports
that are followed come one after the other, and each that names a version of a domain is recorded as
the older namespace of that domain, in place of the one recorded before. All imports are followed,
because each pending one takes a step and each ontology brings its imports once.
-/

namespace GraphSegments

/-- Whether a URI is that of a domain in some version. -/
def isVersionOf (domain uri : String) : Bool :=
  (VersionedUri.ofUri uri).version.isSome && versionless uri == domain

namespace Registry

variable {registry : Registry} {steps : Nat} {pending seen : List String} {importUri : String}

/-- The imports to which an import leads on: those of the older ontology that it names, if that is
loaded. -/
def importsOf (registry : Registry) (importUri : String) : List String :=
  match VersionedUri.ofUri importUri with
  | ⟨_, none⟩ => []
  | ⟨domain, some version⟩ => ((registry.older? domain version).map (·.imports)).getD []

/-- The imports that are followed, one after the other. -/
def followed (registry : Registry) : Nat → List String → List String → List String
  | 0, _, _ => []
  | _, [], _ => []
  | steps + 1, importUri :: pending, seen =>
    if seen.contains importUri then registry.followed steps pending seen
    else importUri ::
      registry.followed steps ((registry.importsOf importUri).reverse ++ pending) (importUri :: seen)

/-- The older namespaces with the one that an import names, if it names any. -/
def record (found : Dictionary String) (importUri : String) : Dictionary String :=
  if (VersionedUri.ofUri importUri).version.isSome then found.insert (versionless importUri) importUri
  else found

/-- Following imports records those that are followed. -/
theorem followImports_eq_foldl (registry : Registry) (steps : Nat) (pending seen : List String)
    (found : Dictionary String) :
    registry.followImports steps pending seen found =
      (registry.followed steps pending seen).foldl record found := by
  induction steps generalizing pending seen found with
  | zero => rfl
  | succ steps ih =>
    cases pending with
    | nil => rfl
    | cons importUri pending =>
      rw [followImports, followed]
      by_cases old : seen.contains importUri = true
      · rw [if_pos old, if_pos old, ih]
      · rw [if_neg old, if_neg old, List.foldl_cons, record, importsOf, versionless]
        cases taken : VersionedUri.ofUri importUri with
        | mk domain version? =>
          cases version? with
          | none => simp [ih]
          | some version => simp [ih]

/-- What is recorded of a domain is the last import that names it. -/
theorem find?_foldl_record (visited : List String) (found : Dictionary String) (domain : String) :
    (visited.foldl record found).find? domain =
      (visited.reverse.find? (isVersionOf domain)).or (found.find? domain) := by
  induction visited generalizing found with
  | nil => rfl
  | cons importUri rest ih =>
    have one : (record found importUri).find? domain =
        ([importUri].find? (isVersionOf domain)).or (found.find? domain) := by
      unfold record isVersionOf
      by_cases versioned : (VersionedUri.ofUri importUri).version.isSome = true
      · by_cases same : versionless importUri = domain <;> simp [versioned, same]
      · simp [versioned]
    rw [List.foldl_cons, ih, one, List.reverse_cons, List.find?_append, Option.or_assoc]

section Ends

open scoped BigOperators

/-- All imports of older ontologies. -/
def olderImports (registry : Registry) : List String := registry.older.flatMap (·.imports)

theorem importSteps_eq (registry : Registry) :
    registry.importSteps = (registry.olderImports.length + 1) * (registry.olderImports.length + 1) := by
  have count (ontologies : List OntologyDef) (start : Nat) :
      ontologies.foldl (fun count ontology => count + ontology.imports.length) start =
        start + (ontologies.flatMap (·.imports)).length := by
    induction ontologies generalizing start with
    | nil => rfl
    | cons ontology rest ih =>
      rw [List.foldl_cons, ih, List.flatMap_cons, List.length_append, Nat.add_assoc]
  rw [importSteps, count, Nat.zero_add]
  rfl

theorem sublist_olderImports {ontology : OntologyDef} (listed : ontology ∈ registry.older) :
    ontology.imports.Sublist registry.olderImports := by
  rw [olderImports, List.flatMap_def]
  exact List.sublist_flatten_of_mem (List.mem_map_of_mem listed)

/-- The number of steps that are left: one for each pending import and for each that those not seen
yet bring. -/
def stepsLeft (registry : Registry) (pending seen : List String) : Nat :=
  pending.length +
    ∑ importUri ∈ registry.olderImports.toFinset \ seen.toFinset, (registry.importsOf importUri).length

theorem importsOf_sublist (registry : Registry) (importUri : String) :
    (registry.importsOf importUri).Sublist registry.olderImports := by
  unfold importsOf
  split
  next => exact List.nil_sublist _
  next domain version _ =>
    cases loaded : registry.older? domain version with
    | none => exact List.nil_sublist _
    | some ontology => exact sublist_olderImports (List.mem_of_find?_eq_some loaded)

theorem stepsLeft_cons (importUri : String) (pending seen : List String) :
    registry.stepsLeft (importUri :: pending) seen = registry.stepsLeft pending seen + 1 := by
  rw [stepsLeft, stepsLeft, List.length_cons]
  omega

/-- What an import brings was counted before. -/
theorem stepsLeft_of_new (known : importUri ∈ registry.olderImports) (new : importUri ∉ seen) :
    registry.stepsLeft ((registry.importsOf importUri).reverse ++ pending) (importUri :: seen) =
      registry.stepsLeft pending seen := by
  have counted : importUri ∈ registry.olderImports.toFinset \ seen.toFinset := by
    simpa using ⟨known, new⟩
  rw [stepsLeft, stepsLeft, List.toFinset_cons, Finset.sdiff_insert,
    ← Finset.add_sum_erase _ _ counted, List.length_append, List.length_reverse]
  omega

theorem eq_nil_of_stepsLeft (none : registry.stepsLeft pending seen ≤ 0) : pending = [] := by
  rw [← List.length_eq_zero_iff]
  unfold stepsLeft at none
  omega

/-- Each of the different imports brings at most all of them. -/
theorem stepsLeft_le_importSteps (within : pending.length ≤ registry.olderImports.length) :
    registry.stepsLeft pending [] ≤ registry.importSteps := by
  generalize total : registry.olderImports.length = all at within
  have brought : ∑ importUri ∈ registry.olderImports.toFinset \ [].toFinset,
      (registry.importsOf importUri).length ≤ all * all := by
    calc
      _ ≤ (registry.olderImports.toFinset \ [].toFinset).card • all :=
        Finset.sum_le_card_nsmul _ _ _ fun importUri _ =>
          total ▸ (registry.importsOf_sublist importUri).length_le
      _ ≤ all * all := Nat.mul_le_mul_right all <| total ▸
        (Finset.card_le_card Finset.sdiff_subset).trans (List.toFinset_card_le _)
  rw [importSteps_eq, stepsLeft, total, Nat.add_mul, Nat.mul_add]
  omega

end Ends

theorem subset_of_new (known : pending ⊆ registry.olderImports) :
    (registry.importsOf importUri).reverse ++ pending ⊆ registry.olderImports :=
  List.append_subset.2
    ⟨List.reverse_subset.2 (registry.importsOf_sublist importUri).subset, known⟩

section Followed

variable (known : pending ⊆ registry.olderImports)
  (enough : registry.stepsLeft pending seen ≤ steps)
include known enough

/-- With as many steps as are left, more of them change nothing. -/
theorem followed_of_enough {more : Nat} (within : steps ≤ more) :
    registry.followed more pending seen = registry.followed steps pending seen := by
  induction steps generalizing pending seen more with
  | zero =>
    rw [eq_nil_of_stepsLeft enough]
    cases more <;> rfl
  | succ steps ih =>
    obtain ⟨more, rfl⟩ : ∃ rest, more = rest + 1 := ⟨more - 1, by omega⟩
    cases pending with
    | nil => rfl
    | cons importUri pending =>
      obtain ⟨here, later⟩ := List.cons_subset.1 known
      have enough := Nat.le_of_succ_le_succ (stepsLeft_cons importUri pending seen ▸ enough)
      rw [followed, followed]
      by_cases old : importUri ∈ seen
      · rw [if_pos (by simpa using old), if_pos (by simpa using old)]
        exact ih later enough (by omega)
      · rw [← stepsLeft_of_new here old] at enough
        rw [if_neg (by simpa using old), if_neg (by simpa using old)]
        exact congrArg _ (ih (subset_of_new later) enough (by omega))

/-- Every pending import is followed unless it was before, and so is what it brings. -/
theorem followed_closed :
    (∀ importUri ∈ pending, importUri ∈ seen ∨ importUri ∈ registry.followed steps pending seen) ∧
      ∀ importUri ∈ registry.followed steps pending seen,
        ∀ next ∈ registry.importsOf importUri,
          next ∈ seen ∨ next ∈ registry.followed steps pending seen := by
  induction steps generalizing pending seen with
  | zero =>
    rw [eq_nil_of_stepsLeft enough]
    simp [followed]
  | succ steps ih =>
    cases pending with
    | nil => simp [followed]
    | cons importUri pending =>
      obtain ⟨here, later⟩ := List.cons_subset.1 known
      have enough := Nat.le_of_succ_le_succ (stepsLeft_cons importUri pending seen ▸ enough)
      rw [followed]
      by_cases old : importUri ∈ seen
      · rw [if_pos (by simpa using old)]
        obtain ⟨looked, closed⟩ := ih later enough
        exact ⟨List.forall_mem_cons.2 ⟨.inl old, looked⟩, closed⟩
      · rw [← stepsLeft_of_new here old] at enough
        rw [if_neg (by simpa using old)]
        obtain ⟨looked, closed⟩ := ih (subset_of_new later) enough
        generalize registry.followed steps _ (importUri :: seen) = rest at looked closed
        have shift {other : String} (found : other ∈ importUri :: seen ∨ other ∈ rest) :
            other ∈ seen ∨ other ∈ importUri :: rest := by
          simp only [List.mem_cons] at found ⊢
          tauto
        refine ⟨List.forall_mem_cons.2 ⟨.inr List.mem_cons_self, fun other member => ?_⟩,
          List.forall_mem_cons.2 ⟨fun next brought => ?_, fun other member next brought => ?_⟩⟩
        · exact shift (looked other (List.mem_append_right _ member))
        · exact shift (looked next (List.mem_append_left _ (List.mem_reverse.2 brought)))
        · exact shift (closed other member next brought)

end Followed

/-- An import leads to another one through the imports of loaded ontologies. -/
def Leads (registry : Registry) : String → String → Prop :=
  Relation.ReflTransGen fun importUri next => next ∈ registry.importsOf importUri

theorem leads_of_mem_followed (visited : importUri ∈ registry.followed steps pending seen) :
    ∃ first ∈ pending, registry.Leads first importUri := by
  induction steps generalizing pending seen with
  | zero => cases visited
  | succ steps ih =>
    cases pending with
    | nil => cases visited
    | cons current pending =>
      rw [followed] at visited
      split at visited
      next =>
        obtain ⟨first, listed, chain⟩ := ih visited
        exact ⟨first, List.mem_cons_of_mem current listed, chain⟩
      next =>
        rcases List.mem_cons.1 visited with rfl | visited
        · exact ⟨importUri, List.mem_cons_self, .refl⟩
        · obtain ⟨first, listed, chain⟩ := ih visited
          rcases List.mem_append.1 listed with brought | waiting
          · exact ⟨current, List.mem_cons_self, .head (List.mem_reverse.1 brought) chain⟩
          · exact ⟨first, List.mem_cons_of_mem current waiting, chain⟩


/-- The imports that are followed from an older ontology. -/
def followedFrom (registry : Registry) (ontology : OntologyDef) : List String :=
  registry.followed registry.importSteps ontology.imports.reverse []

/-- The imports of an older ontology, and those to which they lead. -/
def Reaches (registry : Registry) (ontology : OntologyDef) (importUri : String) : Prop :=
  ∃ first ∈ ontology.imports, registry.Leads first importUri

section Loaded

variable {domain : String} {version : Version} {ontology : OntologyDef}

theorem known_and_enough (listed : ontology ∈ registry.older) :
    ontology.imports.reverse ⊆ registry.olderImports ∧
      registry.stepsLeft ontology.imports.reverse [] ≤ registry.importSteps := by
  have own := sublist_olderImports listed
  refine ⟨List.reverse_subset.2 own.subset, stepsLeft_le_importSteps ?_⟩
  rw [List.length_reverse]
  exact own.length_le

/-- Exactly the imports that are reached are followed. -/
theorem mem_followedFrom (listed : ontology ∈ registry.older) :
    importUri ∈ registry.followedFrom ontology ↔ registry.Reaches ontology importUri := by
  constructor
  · intro visited
    obtain ⟨first, own, chain⟩ := leads_of_mem_followed visited
    exact ⟨first, List.mem_reverse.1 own, chain⟩
  · rintro ⟨first, own, chain⟩
    obtain ⟨known, enough⟩ := known_and_enough listed
    obtain ⟨looked, closed⟩ := followed_closed known enough
    induction chain with
    | refl => exact (looked first (List.mem_reverse.2 own)).resolve_left List.not_mem_nil
    | tail _ brought ih => exact (closed _ ih _ brought).resolve_left List.not_mem_nil

/-- The older namespaces of a domain are there if that version of it is loaded: its own, and those
that the imports record. -/
theorem olderNamespaces?_eq (loaded : registry.older? domain version = some ontology) :
    registry.olderNamespaces? domain version = some ((registry.followedFrom ontology).foldl record
      ((∅ : Dictionary String).insert domain (domain ++ version.suffix))) := by
  rw [olderNamespaces?, loaded, Option.map_some, followImports_eq_foldl]
  rfl

/-- A domain goes together with the last import that names it, or else with its own version. -/
theorem find?_olderNamespaces (loaded : registry.older? domain version = some ontology)
    {namespaces : Dictionary String}
    (known : registry.olderNamespaces? domain version = some namespaces) (key : String) :
    namespaces.find? key = ((registry.followedFrom ontology).reverse.find? (isVersionOf key)).or
      (if domain = key then some (domain ++ version.suffix) else none) := by
  obtain rfl := Option.some.inj ((olderNamespaces?_eq loaded).symm.trans known)
  rw [find?_foldl_record, Dictionary.find?_insert, Dictionary.find?_empty]

/-- A namespace that goes together with a domain is an import that names it, or else the own version
of the domain that is asked for. -/
theorem isVersionOf_of_find? (loaded : registry.older? domain version = some ontology)
    {namespaces : Dictionary String}
    (known : registry.olderNamespaces? domain version = some namespaces) {key older : String}
    (found : namespaces.find? key = some older) :
    (key = domain ∧ older = domain ++ version.suffix) ∨
      (registry.Reaches ontology older ∧ isVersionOf key older = true) := by
  rw [find?_olderNamespaces loaded known, Option.or_eq_some_iff] at found
  rcases found with last | ⟨-, own⟩
  · right
    have visited := List.mem_reverse.1 (List.mem_of_find?_eq_some last)
    exact ⟨(mem_followedFrom (List.mem_of_find?_eq_some loaded)).1 visited, List.find?_some last⟩
  · left
    split at own
    next same => exact ⟨same.symm, (Option.some.inj own).symm⟩
    next => cases own

/-- The older namespaces of a domain are its own one and those of its import tree. -/
structure CoversImports (registry : Registry) (domain : String) (version : Version)
    (ontology : OntologyDef) (namespaces : Dictionary String) : Prop where
  keys : ∀ key, key ∈ namespaces.keys ↔
    key = domain ∨ ∃ importUri, registry.Reaches ontology importUri ∧
      isVersionOf key importUri = true
  values : ∀ key older, namespaces.find? key = some older →
    (key = domain ∧ older = domain ++ version.suffix) ∨
      (registry.Reaches ontology older ∧ isVersionOf key older = true)
  /-- Following the imports comes to an end: more steps find nothing else. -/
  ends : ∀ steps, registry.importSteps ≤ steps →
    registry.followImports steps ontology.imports.reverse []
      ((∅ : Dictionary String).insert domain (domain ++ version.suffix)) = namespaces

/-- Whatever is imported, an older version that is loaded has its older namespaces, and they cover
its import tree. -/
theorem older_namespaces_cover_imports
    (loaded : registry.older? domain version = some ontology) :
    ∃ namespaces, registry.olderNamespaces? domain version = some namespaces ∧
      registry.CoversImports domain version ontology namespaces := by
  have listed : ontology ∈ registry.older := List.mem_of_find?_eq_some loaded
  refine ⟨_, olderNamespaces?_eq loaded, ?_⟩
  constructor
  case keys =>
    intro key
    rw [Dictionary.mem_keys, ← Option.isSome_iff_exists,
      find?_olderNamespaces loaded (olderNamespaces?_eq loaded), Option.isSome_or,
      Bool.or_eq_true, List.find?_isSome]
    simp only [List.mem_reverse, mem_followedFrom listed]
    by_cases own : domain = key
    · simp [own]
    · simp [own, Ne.symm own]
  case values =>
    intro key older found
    exact isVersionOf_of_find? loaded (olderNamespaces?_eq loaded) found
  case ends =>
    intro steps more
    obtain ⟨known, enough⟩ := known_and_enough listed
    rw [followImports_eq_foldl, followed_of_enough known enough more]
    rfl

/-- Versions of two domains that import each other, one of them also itself, an unversioned one,
one that is not loaded, and one of them twice. -/
def entangled : Registry where
  ontologies := []
  older :=
    [⟨"urn:app", ⟨1, 0, 0⟩, none,
      ["urn:base_v0_5_0", "urn:plain", "urn:base_v0_5_0", "urn:app_v1_0_0"]⟩,
      ⟨"urn:base", ⟨0, 5, 0⟩, none, ["urn:app_v1_0_0", "urn:gone_v2_0_0"]⟩]
  classes := []
  properties := []

theorem older_namespaces_cover_imports_entangled :
    let ontology : OntologyDef := ⟨"urn:app", ⟨1, 0, 0⟩, none,
      ["urn:base_v0_5_0", "urn:plain", "urn:base_v0_5_0", "urn:app_v1_0_0"]⟩
    entangled.older? "urn:app" ⟨1, 0, 0⟩ = some ontology ∧
      (entangled.olderNamespaces? "urn:app" ⟨1, 0, 0⟩).map (·.entries) =
        some [("urn:app", "urn:app_v1_0_0"), ("urn:base", "urn:base_v0_5_0"),
          ("urn:gone", "urn:gone_v2_0_0")] ∧
      ∃ namespaces, entangled.olderNamespaces? "urn:app" ⟨1, 0, 0⟩ = some namespaces ∧
        entangled.CoversImports "urn:app" ⟨1, 0, 0⟩ ontology namespaces := by
  intro ontology
  have loaded : entangled.older? "urn:app" ⟨1, 0, 0⟩ = some ontology := by decide +kernel
  exact ⟨loaded, by decide +kernel, older_namespaces_cover_imports loaded⟩

end Loaded

end Registry

end GraphSegments
