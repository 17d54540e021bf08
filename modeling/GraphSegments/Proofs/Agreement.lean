import GraphSegments.Proofs.Results

/-!
Two results that come to related values, or to none in both cases, and results that come to the
values of others where these are admitted.
-/

namespace GraphSegments.Results

variable {ε α β γ δ : Type} {related : α → β → Prop} {further : γ → δ → Prop}

/-- Two results that have related values, or fail both, be it with different errors. -/
def Agree (related : α → β → Prop) : Except ε α → Except ε β → Prop
  | .ok first, .ok second => related first second
  | .error _, .error _ => True
  | _, _ => False

theorem agree_self (result : Except ε α) : Agree (· = ·) result result := by
  cases result with
  | error error => trivial
  | ok value => exact rfl

theorem agree_of_eq_ok {first : Except ε α} {second : Except ε β}
    (both : (∃ a, first = .ok a) ↔ ∃ b, second = .ok b)
    (alike : ∀ a b, first = .ok a → second = .ok b → related a b) : Agree related first second := by
  cases first <;> cases second
  · trivial
  · simp at both
  · simp at both
  · exact alike _ _ rfl rfl

theorem Agree.eq_ok {first : Except ε α} {value : α}
    (agree : Agree (· = ·) first (.ok value : Except ε α)) : first = .ok value := by
  cases first with
  | error error => cases agree
  | ok found => exact congrArg Except.ok agree

theorem Agree.mono {weaker : α → β → Prop} {first : Except ε α} {second : Except ε β}
    (agree : Agree related first second) (weakened : ∀ a b, related a b → weaker a b) :
    Agree weaker first second := by
  cases first <;> cases second
  · exact agree
  · cases agree
  · cases agree
  · exact weakened _ _ agree

theorem Agree.bind {first : Except ε α} {second : Except ε β} {next : α → Except ε γ}
    {later : β → Except ε δ} (agree : Agree related first second)
    (continued : ∀ a b, related a b → Agree further (next a) (later b)) :
    Agree further (first >>= next) (second >>= later) := by
  cases first <;> cases second
  · exact agree
  · cases agree
  · cases agree
  · exact continued _ _ agree

/-- A result that has the value of another one if something is admitted, and fails otherwise. -/
def Restricts (admitted : Prop) (first second : Except ε α) : Prop :=
  ∀ value, first = .ok value ↔ second = .ok value ∧ admitted

theorem restricts_self {admitted : Prop} (always : admitted) (result : Except ε α) :
    Restricts admitted result result :=
  fun _ => (and_iff_left always).symm

theorem restricts_error (admitted : Prop) (first second : ε) :
    Restricts admitted (.error first : Except ε α) (.error second) := by
  simp [Restricts]

theorem Restricts.of_iff {admitted other : Prop} {first second : Except ε α}
    (restricts : Restricts admitted first second) (same : admitted ↔ other) :
    Restricts other first second :=
  fun value => (restricts value).trans (and_congr_right fun _ => same)

theorem Restricts.bind {admitted further : Prop} {first second : Except ε α}
    {next later : α → Except ε γ} (restricts : Restricts admitted first second)
    (continued : ∀ value, Restricts further (next value) (later value)) :
    Restricts (admitted ∧ further) (first >>= next) (second >>= later) := by
  intro value
  simp only [bind_eq_ok]
  constructor
  · intro ran
    obtain ⟨between, one, two⟩ := ran
    obtain ⟨one, admitted⟩ := (restricts between).1 one
    obtain ⟨two, further⟩ := (continued between value).1 two
    exact ⟨⟨between, one, two⟩, admitted, further⟩
  · intro ran
    obtain ⟨⟨between, one, two⟩, admitted, further⟩ := ran
    exact ⟨between, (restricts between).2 ⟨one, admitted⟩,
      (continued between value).2 ⟨two, further⟩⟩

/-- A result fails exactly if the one that it restricts does, or it is not admitted. -/
theorem Restricts.error_iff {admitted : Prop} {first second : Except ε α}
    (restricts : Restricts admitted first second) :
    (∃ error, first = .error error) ↔ (∃ error, second = .error error) ∨ ¬ admitted := by
  have fails (result : Except ε α) :
      (∃ error, result = .error error) ↔ ¬ ∃ value, result = .ok value := by
    cases result <;> simp
  have values : (∃ value, first = .ok value) ↔ (∃ value, second = .ok value) ∧ admitted := by
    rw [← exists_and_right]
    exact exists_congr restricts
  rw [fails, fails, values, Classical.not_and_iff_not_or_not]

end GraphSegments.Results
