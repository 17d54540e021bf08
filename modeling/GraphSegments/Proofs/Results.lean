/-!
Results that are a value or an error, one after the other.
-/

namespace GraphSegments.Results

universe u v

variable {ε : Type u} {α β : Type v}

@[simp] theorem ok_bind (value : α) (next : α → Except ε β) :
    Except.ok value >>= next = next value := rfl

@[simp] theorem error_bind (error : ε) (next : α → Except ε β) :
    Except.error error >>= next = Except.error error := rfl

@[simp] theorem map_ok (f : α → β) (value : α) :
    f <$> (Except.ok value : Except ε α) = .ok (f value) := rfl

@[simp] theorem map_error (f : α → β) (error : ε) :
    f <$> (Except.error error : Except ε α) = .error error := rfl

/-- Two results in a row succeed only if both do. -/
theorem bind_eq_ok {result : Except ε α} {next : α → Except ε β} {value : β} :
    result >>= next = .ok value ↔ ∃ first, result = .ok first ∧ next first = .ok value := by
  cases result with
  | error error => simp
  | ok first => simp

theorem map_eq_ok {result : Except ε α} {f : α → β} {value : β} :
    result.map f = .ok value ↔ ∃ first, result = .ok first ∧ f first = value := by
  cases result with
  | error error => simp [Except.map]
  | ok first => simp [Except.map]

/-- A check goes through if what it looks for is not there. -/
theorem check_eq_ok {bad : Prop} [Decidable bad] {error : ε} {next : Except ε α} {value : α} :
    (if bad then .error error else next) = .ok value ↔ ¬ bad ∧ next = .ok value := by
  by_cases found : bad <;> simp [found]

/-- What goes by one part of a result goes by what that part is. -/
theorem bind_ok_eq_map {result : Except ε α} {f : α → β} {part : Except ε β}
    (same : result.map f = part) {γ : Type v} (g : β → γ) :
    (result >>= fun value => .ok (g (f value))) = part.map g := by
  rw [← same]
  cases result <;> rfl

theorem toOption_eq_some_iff {result : Except ε α} {value : α} :
    result.toOption = some value ↔ result = .ok value := by
  cases result with
  | error error => simp [Except.toOption]
  | ok first => simp [Except.toOption]

theorem eq_ok_of_toOption {result : Except ε α} {value : α}
    (read : result.toOption = some value) : result = .ok value :=
  toOption_eq_some_iff.1 read

theorem eq_ok_getD {result : Except ε α} (read : result.toOption.isSome = true) (other : α) :
    result = .ok (result.toOption.getD other) := by
  obtain ⟨value, read⟩ := Option.isSome_iff_exists.1 read
  rw [read, eq_ok_of_toOption read, Option.getD_some]

/-- All results in a row succeed only if each of them does. -/
theorem mapM_eq_ok {f : α → Except ε β} {items : List α} {values : List β} :
    items.mapM f = .ok values ↔ items.map f = values.map .ok := by
  induction items generalizing values with
  | nil =>
    have none : ([].mapM f : Except ε (List β)) = .ok [] := rfl
    rw [none, Except.ok.injEq]
    cases values <;> simp
  | cons item rest ih =>
    rw [List.mapM_cons, bind_eq_ok]
    constructor
    · intro ran
      obtain ⟨first, here, ran⟩ := ran
      obtain ⟨others, later, same⟩ := bind_eq_ok.1 ran
      obtain rfl : first :: others = values := Except.ok.inj same
      rw [List.map_cons, List.map_cons, here, ih.1 later]
    · intro same
      cases values with
      | nil => cases same
      | cons first others =>
        obtain ⟨here, later⟩ := List.cons.inj same
        refine ⟨first, here, ?_⟩
        rw [ih.2 later]
        rfl

theorem exists_of_mapM {f : α → Except ε β} {items : List α} {values : List β}
    (ran : items.mapM f = .ok values) {item : α} (listed : item ∈ items) :
    ∃ value ∈ values, f item = .ok value := by
  obtain ⟨value, member, same⟩ := List.mem_map.1 (mapM_eq_ok.1 ran ▸ List.mem_map_of_mem listed)
  exact ⟨value, member, same.symm⟩

theorem exists_of_mem_mapM {f : α → Except ε β} {items : List α} {values : List β}
    (ran : items.mapM f = .ok values) {value : β} (member : value ∈ values) :
    ∃ item ∈ items, f item = .ok value := by
  have among : Except.ok value ∈ items.map f := by
    rw [mapM_eq_ok.1 ran]
    exact List.mem_map_of_mem member
  exact List.mem_map.1 among

theorem exists_mapM {f : α → Except ε β} {items : List α}
    (each : ∀ item ∈ items, ∃ value, f item = .ok value) : ∃ values, items.mapM f = .ok values := by
  induction items with
  | nil => exact ⟨[], rfl⟩
  | cons item rest ih =>
    obtain ⟨here, later⟩ := List.forall_mem_cons.1 each
    obtain ⟨value, first⟩ := here
    obtain ⟨values, others⟩ := ih later
    exact ⟨value :: values, by rw [List.mapM_cons, first, ok_bind, others]; rfl⟩

/-- The values of results in a row are those of the results that succeed. -/
theorem eq_filterMap_of_mapM {f : α → Except ε β} {items : List α} {values : List β}
    (ran : items.mapM f = .ok values) : values = items.filterMap fun item => (f item).toOption := by
  have all := congrArg (List.filterMap Except.toOption) (mapM_eq_ok.1 ran)
  rw [List.filterMap_map, List.filterMap_map] at all
  exact (List.filterMap_some.symm.trans all.symm : values = _)

end GraphSegments.Results
