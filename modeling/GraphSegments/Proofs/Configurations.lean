import GraphSegments.Configuration
import GraphSegments.Proofs.Results

/-!
Configurations that a store can be opened with. Some connections are left when all transactions
that can be live are, and what the tables are called can stand in a statement as it is. The check
compares the two bounds of the pool where both are said, so a maximum that is left open is not
looked at.
-/

namespace GraphSegments.Configuration
open Results

variable {config : Configuration}

/-- The most connections, if that is said. -/
def statedMax? (config : Configuration) : Option UInt32 := config.pool.bind (·.maxConnections)

/-- The connections that are opened at least, if that is said. -/
def statedMin? (config : Configuration) : Option UInt32 := config.pool.bind (·.minConnections)

theorem poolMax_of_stated {most : UInt32} (stated : config.statedMax? = some most) :
    config.poolMax = most.toNat := by
  rw [poolMax, ← statedMax?, stated]
  rfl

theorem poolMax_of_open (left : config.statedMax? = none) : config.poolMax = defaultPoolMax := by
  rw [poolMax, ← statedMax?, left]
  rfl

theorem poolMax_lt (config : Configuration) : config.poolMax < UInt32.size := by
  cases stated : config.statedMax? with
  | none =>
    rw [poolMax_of_open stated]
    decide
  | some most =>
    rw [poolMax_of_stated stated]
    exact most.toNat_lt

/-- A machine word holds what the transactions are counted by on the way. -/
theorem poolMax_mul_lt (config : Configuration) : config.poolMax * 4 < UInt64.size := by
  calc config.poolMax * 4 < UInt32.size * 4 :=
      Nat.mul_lt_mul_of_pos_right config.poolMax_lt (by decide)
    _ ≤ UInt64.size := by decide

/-- Two connections are enough for a transaction beside other work. -/
theorem transactionLimit_lt (room : config.transactionLimit ≠ 0) :
    config.transactionLimit < config.poolMax := by
  unfold transactionLimit at room ⊢
  omega

theorem transactionLimit_ne_zero_iff : config.transactionLimit ≠ 0 ↔ 2 ≤ config.poolMax := by
  unfold transactionLimit
  omega

/-- A pool is only looked at where the most connections are said. -/
theorem validatePool_eq_ok_iff {pool : PoolSettings} :
    config.validatePool pool = .ok () ↔ ∀ most ∈ pool.maxConnections,
      most ≠ 0 ∧ config.transactionLimit ≠ 0 ∧ ∀ least ∈ pool.minConnections, least ≤ most := by
  unfold validatePool
  cases pool.maxConnections with
  | none => simp
  | some most =>
    simp only [check_eq_ok]
    cases pool.minConnections <;> simp

/-- What a configuration has to be like for a store to be opened with it. -/
theorem validate_eq_ok_iff :
    config.validate = .ok () ↔
      (config.start ≠ "" ∧ ∀ c ∈ config.start.toList, isIdentifierChar c = true) ∧
      (∀ pool ∈ config.pool, config.validatePool pool = .ok ()) ∧
      ∀ url ∈ config.database.url?, Text.allBlank url = false := by
  have named : ¬ (config.start.isEmpty || !config.start.toList.all isIdentifierChar) = true ↔
      config.start ≠ "" ∧ ∀ c ∈ config.start.toList, isIdentifierChar c = true := by
    simp
  have pooled : config.pool.forM config.validatePool = .ok () ↔
      ∀ pool ∈ config.pool, config.validatePool pool = .ok () := by
    cases config.pool with
    | none => exact iff_of_true rfl (by simp)
    | some pool => simp [Option.forM]
  have reached : ¬ config.database.url?.any Text.allBlank = true ↔
      ∀ url ∈ config.database.url?, Text.allBlank url = false := by
    cases config.database.url? <;> simp
  rw [← named, ← pooled, ← reached, validate]
  dsimp only
  rw [error_bind, check_eq_ok, bind_eq_ok]
  refine and_congr_right fun _ => ?_
  constructor
  · intro ran
    obtain ⟨_, left, right⟩ := ran
    exact ⟨left, (check_eq_ok.1 right).1⟩
  · intro both
    exact ⟨(), both.1, check_eq_ok.2 ⟨both.2, rfl⟩⟩

/-- A database in a file has no URL to check. -/
theorem validate_of_file {path : Option String} {pool : PoolSettings}
    (file : config.database = .sqlite path) (pooled : config.pool = some pool)
    (named : config.start ≠ "") (plain : config.start.toList.all isIdentifierChar = true)
    (bounded : config.validatePool pool = .ok ()) : config.validate = .ok () := by
  refine validate_eq_ok_iff.2 ⟨⟨named, List.all_eq_true.1 plain⟩, fun other there => ?_,
    fun url reached => ?_⟩
  · obtain rfl := Option.some.inj (pooled.symm.trans there)
    exact bounded
  · rw [file] at reached
    cases reached

/-- What tables are called in a store that can be opened needs no marks. -/
theorem isIdentifierChar_of_validate (valid : config.validate = .ok ()) :
    ∀ c ∈ config.start.toList, isIdentifierChar c = true := (validate_eq_ok_iff.1 valid).1.2

/-- The characters of identifiers are letters and digits of ASCII, and the low line. -/
theorem isIdentifierChar_iff {c : Char} :
    isIdentifierChar c = true ↔
      'a' ≤ c ∧ c ≤ 'z' ∨ 'A' ≤ c ∧ c ≤ 'Z' ∨ '0' ≤ c ∧ c ≤ '9' ∨ c = '_' := by
  have between (first last : Char) :
      (decide (first ≤ c) && decide (c ≤ last)) = true ↔ first ≤ c ∧ c ≤ last := by
    rw [Bool.and_eq_true, decide_eq_true_iff, decide_eq_true_iff]
  have upper : c.isUpper = true ↔ 'A' ≤ c ∧ c ≤ 'Z' := decide_eq_true_iff
  have lower : c.isLower = true ↔ 'a' ≤ c ∧ c ≤ 'z' := between 'a' 'z'
  have digit : c.isDigit = true ↔ '0' ≤ c ∧ c ≤ '9' := between '0' '9'
  have parts : isIdentifierChar c = (c.isUpper || c.isLower || c.isDigit || c == '_') := rfl
  rw [parts, Bool.or_eq_true, Bool.or_eq_true, Bool.or_eq_true, beq_iff_eq, upper, lower, digit,
    or_comm (a := 'A' ≤ c ∧ c ≤ 'Z'), or_assoc, or_assoc]

/-- An accepted pool has room for a transaction and for work outside of transactions. -/
theorem transactionLimit_bounds (valid : config.validate = .ok ()) :
    1 ≤ config.transactionLimit ∧ config.transactionLimit < config.poolMax := by
  have room : config.transactionLimit ≠ 0 := by
    cases stated : config.statedMax? with
    | none =>
      rw [transactionLimit_ne_zero_iff, poolMax_of_open stated]
      decide
    | some most =>
      obtain ⟨pool, there, said⟩ := Option.bind_eq_some_iff.1 stated
      have checked := (validate_eq_ok_iff.1 valid).2.1 pool there
      exact (validatePool_eq_ok_iff.1 checked most said).2.1
  exact ⟨Nat.one_le_iff_ne_zero.2 room, transactionLimit_lt room⟩

/-- Of an accepted pool the bounds are in order where both are said. -/
theorem statedMin_le {most least : UInt32} (valid : config.validate = .ok ())
    (upper : config.statedMax? = some most) (lower : config.statedMin? = some least) :
    least ≤ most := by
  obtain ⟨pool, there, said⟩ := Option.bind_eq_some_iff.1 upper
  have checked := (validate_eq_ok_iff.1 valid).2.1 pool there
  refine (validatePool_eq_ok_iff.1 checked most said).2.2 least ?_
  rw [statedMin?, there] at lower
  exact lower

/-- With an accepted configuration a store can be used: a connection always remains for work
outside of transactions, and its tables have proper names. The connections that are opened at least
are not more than there can be, exactly unless the maximum is left open and its default is less than
the minimum. -/
theorem accepted_is_usable (valid : config.validate = .ok ()) :
    (1 ≤ config.transactionLimit ∧ config.transactionLimit < config.poolMax) ∧
      (config.start ≠ "" ∧ ∀ c ∈ config.start.toList,
        'a' ≤ c ∧ c ≤ 'z' ∨ 'A' ≤ c ∧ c ≤ 'Z' ∨ '0' ≤ c ∧ c ≤ '9' ∨ c = '_') ∧
      ((∀ least ∈ config.statedMin?, least.toNat ≤ config.poolMax) ↔
        config.statedMax?.isSome = true ∨
          ∀ least ∈ config.statedMin?, least.toNat ≤ defaultPoolMax) := by
  have named := (validate_eq_ok_iff.1 valid).1
  refine ⟨transactionLimit_bounds valid,
    ⟨named.1, fun c member => isIdentifierChar_iff.1 (named.2 c member)⟩, ?_⟩
  cases stated : config.statedMax? with
  | none => simp [poolMax_of_open stated]
  | some most =>
    refine iff_of_true (fun least lower => ?_) (.inl rfl)
    rw [poolMax_of_stated stated]
    exact statedMin_le valid stated lower

/-- The smallest pool that is accepted, all of it opened at once. -/
theorem accepted_is_usable_two :
    let pool : PoolSettings := ⟨some 2, some 2, none, none, none⟩
    let config : Configuration := ⟨.sqlite none, some pool, some "graph_1", none, none, none⟩
    config.validate = .ok () ∧ config.transactionLimit = 1 ∧ config.poolMax = 2 ∧
      ∀ least ∈ config.statedMin?, least.toNat ≤ config.poolMax := by
  intro pool config
  have bounded : config.validatePool pool = .ok () := by
    refine validatePool_eq_ok_iff.2 fun most upper => ?_
    obtain rfl := Option.some.inj upper
    refine ⟨by decide, by decide, fun least lower => ?_⟩
    obtain rfl := Option.some.inj lower
    exact Nat.le_refl 2
  have valid : config.validate = .ok () :=
    validate_of_file rfl rfl (by decide) (by decide) bounded
  exact ⟨valid, by decide, by decide, (accepted_is_usable valid).2.2.2 (.inl rfl)⟩

/-- A pool that opens eleven connections at least and says nothing of the most is accepted, and
there can be ten. -/
theorem open_maximum_is_not_compared :
    let pool : PoolSettings := ⟨none, some 11, none, none, none⟩
    let config : Configuration := ⟨.sqlite none, some pool, none, none, none, none⟩
    config.validate = .ok () ∧ config.statedMin? = some 11 ∧
      ¬ ∀ least ∈ config.statedMin?, least.toNat ≤ config.poolMax := by
  intro pool config
  have ten : ¬ (11 : UInt32).toNat ≤ config.poolMax := by decide
  have valid : config.validate = .ok () := validate_of_file rfl rfl (by decide) (by decide) rfl
  exact ⟨valid, rfl, fun bounded => ten (bounded 11 rfl)⟩

end GraphSegments.Configuration
