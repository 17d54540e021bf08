import GraphSegments.Proofs.Sql.Placeholders

/-!
The parameters of a statement in the dialects. They stand in the order of the condition, whatever
order a dialect writes the sides of a comparison in. PostgreSQL's two dialects write the same text,
and lose a parameter with each comparison within texts.
-/

namespace GraphSegments

namespace Piece

@[simp] theorem params_append (first second : List Piece) :
    params (first ++ second) = params first ++ params second := by
  induction first with
  | nil => rfl
  | cons piece rest ih => cases piece <;> simp [params, ih]

theorem params_list (given : List Param) : params (list given) = given := by
  unfold list
  induction given with
  | nil => rfl
  | cons param rest ih =>
    cases rest with
    | nil => rfl
    | cons next rest => exact congrArg (param :: ·) ih

end Piece

namespace Phrase

/-- The parameters of a phrase, in the order of the text. -/
def params (phrase : Phrase) : List Param := Piece.params phrase.pieces

theorem params_parenthesized (phrase : Phrase) :
    Piece.params phrase.parenthesized = phrase.params := by
  simp [parenthesized, Piece.params, params]

theorem params_join (connective : Connective) (a b : Phrase) :
    (join connective a b).params = a.params ++ b.params := by
  have left : Piece.params (a.left connective) = a.params := by
    unfold Phrase.left
    split
    next => rfl
    next => exact params_parenthesized a
  have right : Piece.params b.right = b.params := by
    unfold Phrase.right
    split
    next => rfl
    next => exact params_parenthesized b
  rw [params, join, Piece.params_append, Piece.params, left, right]

theorem params_joinAll (connective : Connective) (phrases : List Phrase) :
    (joinAll connective phrases).params = phrases.flatMap params := by
  cases phrases with
  | nil => rfl
  | cons first rest =>
    dsimp only [joinAll]
    induction rest generalizing first with
    | nil => exact (List.append_nil _).symm
    | cons next rest ih =>
      rw [List.foldl_cons, ih, List.flatMap_cons, params_join, List.flatMap_cons, List.flatMap_cons,
        List.append_assoc]

end Phrase

/-- The parameters of a membership. Two numbers stand for an empty list. -/
def Condition.members (empty : Int × Int) (params : List Param) : List Param :=
  if params.isEmpty then [.i32 (some empty.1), .i32 (some empty.2)] else params

namespace Condition

mutual

/-- The parameters of a condition, in order; `loses` tells whether comparisons within texts lose
what they look for. -/
def params (loses : Bool) : Condition → List Param
  | .compare _ _ param => [param]
  | .oneOf _ params => members (1, 2) params
  | .noneOf _ params => members (1, 1) params
  | .present _ | .never => []
  | .locate _ needle => (if loses then [] else [needle]) ++ [.i32 (some 0)]
  | .matchesPattern _ pattern => if loses then [] else [pattern]
  | .among inner | .notAmong inner => inner.params loses
  | .all conditions | .any conditions => paramsAll loses conditions

def paramsAll (loses : Bool) : List Condition → List Param
  | [] => []
  | condition :: rest => condition.params loses ++ paramsAll loses rest

end

mutual

/-- One parameter is lost for each comparison within texts. -/
theorem length_params (condition : Condition) :
    (condition.params false).length = (condition.params true).length + condition.searches := by
  match condition with
  | .compare .. | .oneOf .. | .noneOf .. | .present _ | .never | .locate .. | .matchesPattern .. =>
    rfl
  | .among inner | .notAmong inner => exact length_params inner
  | .all conditions | .any conditions => exact length_paramsAll conditions

theorem length_paramsAll (conditions : List Condition) :
    (paramsAll false conditions).length =
      (paramsAll true conditions).length + searchesAll conditions := by
  match conditions with
  | [] => rfl
  | condition :: rest =>
    rw [paramsAll, paramsAll, searchesAll, List.length_append, List.length_append,
      length_params condition, length_paramsAll rest]
    omega

end

mutual

theorem params_eq_of_searches (condition : Condition) (none : condition.searches = 0) :
    condition.params true = condition.params false := by
  match condition with
  | .compare .. | .oneOf .. | .noneOf .. | .present _ | .never => rfl
  | .locate .. | .matchesPattern .. => cases none
  | .among inner | .notAmong inner => exact params_eq_of_searches inner none
  | .all conditions | .any conditions => exact paramsAll_eq_of_searches conditions none

theorem paramsAll_eq_of_searches (conditions : List Condition) (none : searchesAll conditions = 0) :
    paramsAll true conditions = paramsAll false conditions := by
  match conditions with
  | [] => rfl
  | condition :: rest =>
    obtain ⟨first, others⟩ := Nat.add_eq_zero_iff.1 none
    rw [paramsAll, paramsAll, params_eq_of_searches condition first,
      paramsAll_eq_of_searches rest others]

end

/-- The parameters are the same whether or not comparisons within texts lose theirs exactly if there
are none. -/
theorem params_eq_iff (condition : Condition) (first second : Bool) :
    condition.params first = condition.params second ↔ first = second ∨ condition.searches = 0 := by
  have differ : condition.params true = condition.params false ↔ condition.searches = 0 := by
    refine ⟨fun same => ?_, params_eq_of_searches condition⟩
    have lengths := condition.length_params
    rw [same] at lengths
    omega
  cases first <;> cases second <;> simp [differ, eq_comm (a := condition.params false)]

end Condition

namespace Dialect

variable {dialect : Dialect} {table : String}

theorem params_membership (column : Column) (word : String) (empty : Int × Int)
    (params : List Param) :
    Piece.params (dialect.membership column word empty params) =
      Condition.members empty params := by
  unfold membership Condition.members
  split
  next => rfl
  next => simp [Piece.params, Piece.params_list]

mutual

/-- The parameters of a printed condition are those of the condition. -/
theorem params_phrase (condition : Condition) :
    (dialect.phrase table condition).params = condition.params dialect.isPostgres := by
  match condition with
  | .compare .. | .present _ | .never => rfl
  | .oneOf column params => exact params_membership column "IN" (1, 2) params
  | .noneOf column params => exact params_membership column "NOT IN" (1, 1) params
  | .locate term needle => cases dialect <;> rfl
  | .matchesPattern term pattern => cases dialect <;> rfl
  | .among inner | .notAmong inner =>
    have same := params_phrase inner
    rw [Phrase.params] at same
    simp [phrase, subquery, Phrase.params, Piece.params, same, Condition.params]
  | .all conditions => exact (Phrase.params_joinAll _ _).trans (params_phrases conditions)
  | .any conditions => exact (Phrase.params_joinAll _ _).trans (params_phrases conditions)

theorem params_phrases (conditions : List Condition) :
    (dialect.phrases table conditions).flatMap Phrase.params =
      Condition.paramsAll dialect.isPostgres conditions := by
  match conditions with
  | [] => rfl
  | condition :: rest =>
    rw [phrases, List.flatMap_cons, params_phrase condition, params_phrases rest,
      Condition.paramsAll]

end

/-! PostgreSQL's dialects write the same. -/

mutual

theorem phrase_redshift (condition : Condition) :
    redshift.phrase table condition = postgres.phrase table condition := by
  match condition with
  | .compare .. | .oneOf .. | .noneOf .. | .present _ | .never | .locate .. | .matchesPattern .. =>
    rfl
  | .among inner => exact congrArg (postgres.subquery table "IN") (phrase_redshift inner)
  | .notAmong inner => exact congrArg (postgres.subquery table "NOT IN") (phrase_redshift inner)
  | .all conditions => exact congrArg (Phrase.joinAll .and) (phrases_redshift conditions)
  | .any conditions => exact congrArg (Phrase.joinAll .or) (phrases_redshift conditions)

theorem phrases_redshift (conditions : List Condition) :
    redshift.phrases table conditions = postgres.phrases table conditions := by
  match conditions with
  | [] => rfl
  | condition :: rest =>
    exact congrArg₂ List.cons (phrase_redshift condition) (phrases_redshift rest)

end

end Dialect

namespace Piece

theorem withPlaceholders_redshift (number : Nat) (pieces : List Piece) :
    withPlaceholders .redshift number pieces = withPlaceholders .postgres number pieces := by
  induction pieces generalizing number with
  | nil => rfl
  | cons piece rest ih =>
    cases piece with
    | fixed text => exact congrArg (text :: ·) (ih number)
    | slot param => exact congrArg (placeholder .postgres number :: ·) (ih (number + 1))

end Piece

namespace Select

theorem text_redshift (select : Select) : select.text .redshift = select.text .postgres := by
  obtain ⟨distinct, columns, table, filter, ordered, page⟩ := select
  have pieces : Dialect.redshift.selectPieces ⟨distinct, columns, table, filter, ordered, page⟩ =
      Dialect.postgres.selectPieces ⟨distinct, columns, table, filter, ordered, page⟩ := by
    cases filter with
    | none => rfl
    | some condition =>
      have same : Dialect.redshift.phrase table condition =
          Dialect.postgres.phrase table condition := Dialect.phrase_redshift condition
      simp only [Dialect.selectPieces, same]
      rfl
  rw [text, text, pieces, Piece.sql, Piece.sql, Piece.withPlaceholders_redshift]

/-- Two dialects bind the same parameters exactly if both lose those of comparisons within texts,
neither does, or there are none. -/
theorem params_eq_iff (select : Select) {condition : Condition}
    (filter : select.filter = some condition) (first second : Dialect) :
    select.params first = select.params second ↔
      first.isPostgres = second.isPostgres ∨ condition.searches = 0 := by
  rw [← condition.params_eq_iff]
  obtain ⟨distinct, columns, table, filtered, ordered, page⟩ := select
  obtain rfl : filtered = some condition := filter
  have own (dialect : Dialect) : Piece.params (dialect.phrase table condition).pieces =
      condition.params dialect.isPostgres := Dialect.params_phrase condition
  have order (dialect : Dialect) : Piece.params (if ordered then [Piece.fixed
      (" ORDER BY " ++ dialect.column .uri ++ " ASC")] else []) = [] := by
    cases ordered <;> rfl
  simp only [params, Dialect.selectPieces, Piece.params_append, Piece.params, own, order,
    List.append_nil, List.append_cancel_right_eq]

end Select

end GraphSegments
