import GraphSegments.Proofs.Text.Versions

/-!
What a version at the end of a namespace is spelled like, and what is left of a URI when it is taken
off. It is one version that comes off, so the namespace that is left may end in another one.
-/

namespace GraphSegments

namespace Version

variable {version : Version} {suffix : List Char}

/-- A version as the end of a namespace spells it. Numbers may have zeros and a plus sign in front,
so a version has many spellings. -/
def IsSpelled (version : Version) (suffix : List Char) : Prop :=
  ∃ major minor patch : List Char,
    suffix = '_' :: 'v' :: (major ++ '_' :: (minor ++ '_' :: patch)) ∧
    Text.boundedNat? (Nat.pow 2 32) major = some version.major.toNat ∧
    Text.boundedNat? (Nat.pow 2 32) minor = some version.minor.toNat ∧
    Text.boundedNat? (Nat.pow 2 32) patch = some version.patch.toNat

/-- A version is spelled behind the letter `v`, with its numbers joined. -/
theorem isSpelled_iff : version.IsSpelled suffix ↔
    ∃ chars, suffix = '_' :: 'v' :: chars ∧ version.IsJoined '_' chars := by
  simp only [IsSpelled, boundedNat?_component]
  constructor
  · rintro ⟨major, minor, patch, same, numerals⟩
    exact ⟨_, same, major, minor, patch, rfl, numerals⟩
  · rintro ⟨_, same, major, minor, patch, rfl, numerals⟩
    exact ⟨major, minor, patch, same, numerals⟩

theorem isSpelled_suffix (version : Version) : version.IsSpelled version.suffix.toList :=
  isSpelled_iff.2 ⟨_, version.toList_suffix, version.isJoined_toDigits '_'⟩

theorem IsSpelled.ne_nil (spelled : version.IsSpelled suffix) : suffix ≠ [] := by
  obtain ⟨_, rfl, -⟩ := isSpelled_iff.1 spelled
  simp

theorem IsSpelled.not_mem_hash (spelled : version.IsSpelled suffix) : '#' ∉ suffix := by
  obtain ⟨chars, rfl, joined⟩ := isSpelled_iff.1 spelled
  simp [joined.not_mem (c := '#') (by decide) (by decide) (by decide)]

end Version

namespace VersionedUri

variable {uri : String} {version : Version} {base suffix rest : List Char}

/-- A version comes off a namespace where it is spelled at its end and something is left. -/
theorem splitNamespace?_eq_some_iff {space : List Char} :
    splitNamespace? space = some (base, version) ↔
      base ≠ [] ∧ ∃ suffix, version.IsSpelled suffix ∧ space = base ++ suffix := by
  constructor
  · intro split
    unfold splitNamespace? at split
    split at split
    next => cases split
    next before after cut =>
      split at split
      next found made =>
        obtain ⟨left, same⟩ := Option.ite_none_left_eq_some.1 split
        obtain ⟨rfl, rfl⟩ := Prod.mk.inj (Option.some.inj same)
        have joined := (Version.ofPieces?_pieces (by decide) (by decide)).1 made
        exact ⟨by simpa using left, _, Version.isSpelled_iff.2 ⟨_, rfl, joined⟩,
          Text.eq_append_of_cutLast? cut⟩
      next => cases split
  · intro stated
    obtain ⟨left, suffix, spelled, rfl⟩ := stated
    obtain ⟨chars, rfl, joined⟩ := Version.isSpelled_iff.1 spelled
    -- no letter follows, so the last mark in the namespace is the one of this version
    have free : 'v' ∉ chars := joined.not_mem (by decide) (by decide) (by decide)
    rw [splitNamespace?, Text.cutLast?_append base (by decide) free]
    simp only [(Version.ofPieces?_pieces (by decide) (by decide)).2 joined, List.isEmpty_iff, left,
      if_false]

/-- A namespace without fragment is taken apart as a whole. -/
theorem ofUri_of_plain (plain : '#' ∉ uri.toList) :
    ofUri uri = match splitNamespace? uri.toList with
      | some (base, version) => ⟨String.ofList base, some version⟩
      | none => ⟨uri, none⟩ := by
  unfold ofUri
  split
  next found => exact absurd ((Text.cutFirst?_eq_none plain).symm.trans found) (by simp)
  next => rfl

/-- What follows a namespace: nothing, or something that begins with `#`. -/
def IsBehind (rest : List Char) : Prop := ∀ c ∈ rest.head?, c = '#'

/-- A URI is taken apart as its namespace is. -/
theorem ofUri_append (plain : '#' ∉ base) (behind : IsBehind rest)
    (whole : uri.toList = base ++ rest) :
    ofUri uri = match splitNamespace? base with
      | some (left, version) => ⟨String.ofList (left ++ rest), some version⟩
      | none => ⟨uri, none⟩ := by
  cases rest with
  | nil =>
    rw [List.append_nil] at whole
    simp only [List.append_nil, ← whole]
    exact ofUri_of_plain (whole ▸ plain)
  | cons mark rest =>
    obtain rfl := behind mark rfl
    cases split : splitNamespace? base <;>
      simp only [ofUri, whole, Text.cutFirst?_append plain, split]

/-- The namespace of a URI and what follows it. -/
theorem exists_append (uri : String) :
    ∃ base rest, '#' ∉ base ∧ IsBehind rest ∧ uri.toList = base ++ rest := by
  by_cases listed : '#' ∈ uri.toList
  · obtain ⟨base, rest, whole, plain⟩ := List.eq_append_cons_of_mem listed
    exact ⟨base, '#' :: rest, plain, fun c first => (Option.some.inj first).symm, whole⟩
  · exact ⟨uri.toList, [], listed, fun c first => absurd first (by simp), (List.append_nil _).symm⟩

/-- The name of something in a namespace is taken apart as the namespace is. -/
theorem ofUri_append_fragment (space fragment : String) :
    ofUri (space ++ "#" ++ fragment) =
      ⟨(ofUri space).versionless ++ "#" ++ fragment, (ofUri space).version⟩ := by
  obtain ⟨base, rest, plain, behind, whole⟩ := exists_append space
  have longer : (space ++ "#" ++ fragment).toList = base ++ (rest ++ '#' :: fragment.toList) := by
    simp [whole]
  have further : IsBehind (rest ++ '#' :: fragment.toList) := by
    intro c first
    cases rest with
    | nil => exact (Option.some.inj first).symm
    | cons mark rest => exact behind c first
  rw [ofUri_append plain further longer, ofUri_append plain behind whole]
  cases splitNamespace? base with
  | none => rfl
  | some split =>
    have joined : String.ofList (split.1 ++ (rest ++ '#' :: fragment.toList)) =
        String.ofList (split.1 ++ rest) ++ "#" ++ fragment := by
      simp [← String.toList_inj]
    simp only [joined]

/-- A URI has one namespace. -/
theorem append_inj {other later : List Char} (plain : '#' ∉ base) (behind : IsBehind rest)
    (plain' : '#' ∉ other) (behind' : IsBehind later) (same : base ++ rest = other ++ later) :
    base = other ∧ rest = later := by
  have own {base rest : List Char} (plain : '#' ∉ base) (behind : IsBehind rest) :
      (base ++ rest).takeWhile (· != '#') = base := by
    have all : ∀ c ∈ base, (c != '#') = true := fun c listed => by
      simpa using fun equal : c = '#' => plain (equal ▸ listed)
    rw [List.takeWhile_append_of_pos all]
    cases rest with
    | nil => simp
    | cons mark rest => simp [behind mark rfl]
  have bases : base = other := by
    rw [← own plain behind, same, own plain' behind']
  exact ⟨bases, List.append_cancel_left (bases ▸ same)⟩

/-- A version that is spelled at the end of the namespace is the one that comes off. -/
theorem ofUri_of_spelled (left : base ≠ []) (plain : '#' ∉ base)
    (spelled : version.IsSpelled suffix) (behind : IsBehind rest)
    (whole : uri.toList = base ++ suffix ++ rest) :
    ofUri uri = ⟨String.ofList (base ++ rest), some version⟩ := by
  have split : splitNamespace? (base ++ suffix) = some (base, version) :=
    splitNamespace?_eq_some_iff.2 ⟨left, suffix, spelled, rfl⟩
  have space : '#' ∉ base ++ suffix := by simp [plain, spelled.not_mem_hash]
  rw [ofUri_append space behind whole, split]

/-- A domain with the suffix of a version is that domain in that version. -/
theorem ofUri_suffix {domain : String} (left : domain ≠ "") (plain : '#' ∉ domain.toList)
    (version : Version) : ofUri (domain ++ version.suffix) = ⟨domain, some version⟩ := by
  have whole : (domain ++ version.suffix).toList = domain.toList ++ version.suffix.toList ++ [] := by
    rw [String.toList_append, List.append_nil]
  rw [ofUri_of_spelled (by simpa using left) plain version.isSpelled_suffix
    (fun c first => absurd first (by simp)) whole, List.append_nil, String.ofList_toList]

/-- A version that is found is spelled at the end of the namespace. -/
theorem exists_spelled_of_version (found : (ofUri uri).version = some version) :
    ∃ base suffix rest, base ≠ [] ∧ '#' ∉ base ∧ version.IsSpelled suffix ∧ IsBehind rest ∧
      uri.toList = base ++ suffix ++ rest := by
  obtain ⟨space, rest, plain, behind, whole⟩ := exists_append uri
  rw [ofUri_append plain behind whole] at found
  split at found
  next base version' split =>
    obtain rfl := Option.some.inj found
    obtain ⟨left, suffix, spelled, rfl⟩ := splitNamespace?_eq_some_iff.1 split
    exact ⟨base, suffix, rest, left, fun listed => plain (List.mem_append_left _ listed), spelled,
      behind, whole⟩
  next => cases found

theorem ofUri_of_version_eq_none (none : (ofUri uri).version = none) :
    ofUri uri = ⟨uri, .none⟩ := by
  obtain ⟨space, rest, plain, behind, whole⟩ := exists_append uri
  rw [ofUri_append plain behind whole] at none ⊢
  split
  next split =>
    rw [split] at none
    cases none
  next => rfl

/-- Two versions at the end of the namespace, one directly behind the other. -/
def IsVersionedTwice (uri : String) : Prop :=
  ∃ (base earlier later rest : List Char) (first second : Version), base ≠ [] ∧ '#' ∉ base ∧
    first.IsSpelled earlier ∧ second.IsSpelled later ∧ IsBehind rest ∧
    uri.toList = base ++ earlier ++ later ++ rest

end VersionedUri

open VersionedUri

section Versionless

variable {uri : String}

theorem versionless_eq_self_iff : versionless uri = uri ↔ (ofUri uri).version = none := by
  constructor
  · intro same
    cases found : (ofUri uri).version with
    | none => rfl
    | some version =>
      obtain ⟨base, suffix, rest, left, plain, spelled, behind, whole⟩ :=
        exists_spelled_of_version found
      rw [versionless, ofUri_of_spelled left plain spelled behind whole] at same
      have lengths := congrArg (fun text => text.toList.length) same
      simp only [String.toList_ofList, whole, List.length_append] at lengths
      have some := List.length_pos_iff.2 spelled.ne_nil
      omega
  · intro none
    rw [versionless, ofUri_of_version_eq_none none]

/-- What is left when a version is taken off has a version exactly if there were two. -/
theorem version_versionless_iff :
    (ofUri (versionless uri)).version = none ↔ ¬ IsVersionedTwice uri := by
  constructor
  · intro none twice
    obtain ⟨base, earlier, later, rest, first, second, left, plain, spelled, spelled', behind,
      whole⟩ := twice
    have inner : '#' ∉ base ++ earlier := by simp [plain, spelled.not_mem_hash]
    have off : versionless uri = String.ofList (base ++ earlier ++ rest) := by
      rw [versionless, ofUri_of_spelled (by simp [left]) inner spelled' behind whole]
    have once : (versionless uri).toList = base ++ earlier ++ rest := by
      rw [off, String.toList_ofList]
    have found := ofUri_of_spelled left plain spelled behind once
    rw [found] at none
    cases none
  · intro once
    rw [Option.eq_none_iff_forall_ne_some]
    intro first found
    cases last : (ofUri uri).version with
    | none =>
      rw [versionless, ofUri_of_version_eq_none last] at found
      exact absurd (last.symm.trans found) (by simp)
    | some second =>
      obtain ⟨base, later, rest, left, plain, spelled, behind, whole⟩ :=
        exists_spelled_of_version last
      rw [versionless, ofUri_of_spelled left plain spelled behind whole] at found
      obtain ⟨base', earlier, rest', left', plain', spelled', behind', whole'⟩ :=
        exists_spelled_of_version found
      rw [String.toList_ofList] at whole'
      have inner : '#' ∉ base' ++ earlier := by simp [plain', spelled'.not_mem_hash]
      obtain ⟨rfl, rfl⟩ := append_inj plain behind inner behind' whole'
      exact once ⟨base', earlier, later, rest, first, second, left', plain', spelled', spelled,
        behind, whole⟩

/-- Taking the version off twice is taking it off once, unless there are two. -/
theorem versionless_versionless_iff :
    versionless (versionless uri) = versionless uri ↔ ¬ IsVersionedTwice uri :=
  versionless_eq_self_iff.trans version_versionless_iff

instance (uri : String) : Decidable (IsVersionedTwice uri) :=
  decidable_of_iff (versionless (versionless uri) ≠ versionless uri)
    (versionless_versionless_iff.not.trans not_not)

end Versionless

/-- What is written of a version is read back. Its suffix comes off every namespace to which it was
put, whatever that namespace ends in, and it is read from its own text. A text is read as the version
exactly if it is one of its dotted texts, so what is read has a text that is read in the same way. -/
theorem Version.texts_read_back (version : Version) :
    (∀ base : String, base ≠ "" → '#' ∉ base.toList →
      ofUri (base ++ version.suffix) = ⟨base, some version⟩ ∧
      ∀ fragment : String, ofUri (base ++ version.suffix ++ "#" ++ fragment) =
        ⟨base ++ "#" ++ fragment, some version⟩) ∧
      Version.read version.text = .ok version ∧
      (∀ raw, Version.read raw = .ok version ↔ version.IsWritten raw) ∧
      ∀ raw found, Version.read raw = .ok found → Version.read found.text = .ok found := by
  refine ⟨fun base left plain => ?_, version.read_text, fun raw => Version.read_eq_ok_iff,
    fun raw found _ => found.read_text⟩
  have whole := ofUri_suffix left plain version
  refine ⟨whole, fun fragment => ?_⟩
  rw [ofUri_append_fragment, whole]

/-- The base ends in a version and in the letter that begins another one, and the fragment has marks
of its own. The text that is read has white space around it, zeros and signs. -/
theorem Version.texts_read_back_misleading :
    let base := "urn:app_v1_v0_9_0_v"
    let version : Version := ⟨2, 0, 4294967295⟩
    base ≠ "" ∧ '#' ∉ base.toList ∧
      ofUri "urn:app_v1_v0_9_0_v_v2_0_4294967295#x_v3_0_0#y" =
        ⟨"urn:app_v1_v0_9_0_v#x_v3_0_0#y", some version⟩ ∧
      Version.read " +02.000.+4294967295\n" = .ok version ∧
      Version.read version.text = .ok version := by
  intro base version
  have left : base ≠ "" := by decide
  have plain : '#' ∉ base.toList := by decide
  obtain ⟨suffixes, -, -, texts⟩ := Version.texts_read_back version
  have read : Version.read " +02.000.+4294967295\n" = .ok version := by decide +kernel
  refine ⟨left, plain, ?_, read, texts _ version read⟩
  have whole : base ++ version.suffix ++ "#" ++ "x_v3_0_0#y" =
      "urn:app_v1_v0_9_0_v_v2_0_4294967295#x_v3_0_0#y" := by decide +kernel
  have rest : base ++ "#" ++ "x_v3_0_0#y" = "urn:app_v1_v0_9_0_v#x_v3_0_0#y" := by decide +kernel
  rw [← whole, (suffixes base left plain).2, rest]

end GraphSegments
