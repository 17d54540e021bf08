import GraphSegments.Proofs.Text.Versions
import GraphSegments.Sql.Printer

/-!
What the text of a statement shows of its parameters: that they are there, and nothing else. The
text has a placeholder for each parameter, and PostgreSQL's has two more for each comparison within
texts, whose sides it has lost.
-/

namespace GraphSegments

/-! The text of a condition is that of the condition whose parameters are blank. -/

/-- A parameter that stands for all others. -/
def Param.blank : Param := .bool none

namespace Piece

/-- The piece without what its parameter is. -/
def blank : Piece → Piece
  | fixed text => fixed text
  | slot _ => slot .blank

theorem withPlaceholders_blank (dialect : Dialect) (number : Nat) (pieces : List Piece) :
    withPlaceholders dialect number (pieces.map blank) =
      withPlaceholders dialect number pieces := by
  induction pieces generalizing number with
  | nil => rfl
  | cons piece rest ih => cases piece <;> simp [blank, withPlaceholders, ih]

theorem sql_eq_of_blank {dialect : Dialect} {first second : List Piece}
    (same : first.map blank = second.map blank) : sql dialect first = sql dialect second := by
  rw [sql, sql, ← withPlaceholders_blank, same, withPlaceholders_blank]

theorem blank_separated (separator : String) (parts : List (List Piece)) :
    (separated separator parts).map blank = separated separator (parts.map (List.map blank)) := by
  induction parts with
  | nil => rfl
  | cons part rest ih =>
    cases rest with
    | nil => rfl
    | cons next rest =>
      rw [separated.eq_3 _ _ _ (by simp), List.map_append, List.map_cons, ih]
      rfl

end Piece

namespace Phrase

/-- The phrase without what its parameters are. -/
def blank (phrase : Phrase) : Phrase := ⟨phrase.kind, phrase.pieces.map Piece.blank⟩

theorem blank_parenthesized (phrase : Phrase) :
    phrase.parenthesized.map Piece.blank = phrase.blank.parenthesized := by
  simp [parenthesized, blank, Piece.blank]

theorem blank_join (connective : Connective) (a b : Phrase) :
    (join connective a b).blank = join connective a.blank b.blank := by
  have left : (a.left connective).map Piece.blank = a.blank.left connective := by
    unfold Phrase.left
    change _ = if a.kind = .plain ∨ a.kind = .tree connective then _ else _
    split
    next => rfl
    next => exact blank_parenthesized a
  have right : b.right.map Piece.blank = b.blank.right := by
    unfold Phrase.right
    change _ = if b.kind = .plain then _ else _
    split
    next => rfl
    next => exact blank_parenthesized b
  simp only [join, blank, List.map_append, List.map_cons, Piece.blank] at left right ⊢
  rw [left, right]

theorem blank_joinAll (connective : Connective) (phrases : List Phrase) :
    (joinAll connective phrases).blank = joinAll connective (phrases.map blank) := by
  cases phrases with
  | nil => rfl
  | cons first rest =>
    change (rest.foldl (join connective) first).blank =
      (rest.map blank).foldl (join connective) first.blank
    induction rest generalizing first with
    | nil => rfl
    | cons next rest ih => rw [List.foldl_cons, ih, blank_join, List.map_cons, List.foldl_cons]

end Phrase

namespace Condition

mutual

/-- The condition without what its parameters are. -/
def blank : Condition → Condition
  | .compare term comparison _ => .compare term comparison .blank
  | .oneOf column params => .oneOf column (List.replicate params.length .blank)
  | .noneOf column params => .noneOf column (List.replicate params.length .blank)
  | .present column => .present column
  | .never => .never
  | .locate term _ => .locate term .blank
  | .matchesPattern term _ => .matchesPattern term .blank
  | .among inner => .among inner.blank
  | .notAmong inner => .notAmong inner.blank
  | .all conditions => .all (blankAll conditions)
  | .any conditions => .any (blankAll conditions)

def blankAll : List Condition → List Condition
  | [] => []
  | condition :: rest => condition.blank :: blankAll rest

end

theorem blankAll_eq_map (conditions : List Condition) :
    blankAll conditions = conditions.map blank := by
  induction conditions with
  | nil => rfl
  | cons condition rest ih => rw [blankAll, ih, List.map_cons]

end Condition

namespace Dialect

variable {dialect : Dialect} {table : String}

theorem blank_membership (column : Column) (word : String) (empty : Int × Int)
    (params : List Param) :
    (dialect.membership column word empty (List.replicate params.length .blank)).map Piece.blank =
      (dialect.membership column word empty params).map Piece.blank := by
  cases params with
  | nil => rfl
  | cons param rest =>
    simp [membership, Piece.list, Piece.blank_separated, Piece.blank, List.replicate_succ,
      Function.comp_def, List.map_const']

mutual

theorem blank_phrase (condition : Condition) :
    (dialect.phrase table condition.blank).blank = (dialect.phrase table condition).blank := by
  match condition with
  | .compare .. | .present _ | .never => rfl
  | .oneOf column params =>
    exact congrArg (Phrase.mk .plain) (blank_membership column "IN" (1, 2) params)
  | .noneOf column params =>
    exact congrArg (Phrase.mk .plain) (blank_membership column "NOT IN" (1, 1) params)
  | .locate term needle => cases dialect <;> rfl
  | .matchesPattern term pattern => cases dialect <;> rfl
  | .among inner =>
    have same := congrArg Phrase.pieces (blank_phrase inner)
    simp only [Phrase.blank] at same
    simp [Condition.blank, phrase, subquery, Phrase.blank, same]
  | .notAmong inner =>
    have same := congrArg Phrase.pieces (blank_phrase inner)
    simp only [Phrase.blank] at same
    simp [Condition.blank, phrase, subquery, Phrase.blank, same]
  | .all conditions =>
    rw [Condition.blank, phrase, phrase, Phrase.blank_joinAll, Phrase.blank_joinAll,
      blank_phrases conditions]
  | .any conditions =>
    rw [Condition.blank, phrase, phrase, Phrase.blank_joinAll, Phrase.blank_joinAll,
      blank_phrases conditions]

theorem blank_phrases (conditions : List Condition) :
    (dialect.phrases table (Condition.blankAll conditions)).map Phrase.blank =
      (dialect.phrases table conditions).map Phrase.blank := by
  match conditions with
  | [] => rfl
  | condition :: rest =>
    rw [Condition.blankAll, phrases, phrases, List.map_cons, List.map_cons, blank_phrase condition,
      blank_phrases rest]

end

end Dialect

namespace Select

/-- The text that the database gets. -/
def text (dialect : Dialect) (select : Select) : String :=
  Piece.sql dialect (dialect.selectPieces select)

/-- The parameters that the database gets with it. -/
def params (dialect : Dialect) (select : Select) : List Param :=
  Piece.params (dialect.selectPieces select)

/-- Conditions that differ in nothing but their parameters make the same text. -/
theorem text_eq_of_blank (dialect : Dialect) (select : Select) {first second : Condition}
    (same : first.blank = second.blank) :
    text dialect { select with filter := some first } =
      text dialect { select with filter := some second } := by
  have pieces : (dialect.phrase select.table first).pieces.map Piece.blank =
      (dialect.phrase select.table second).pieces.map Piece.blank := by
    have phrases : (dialect.phrase select.table first).blank =
        (dialect.phrase select.table second).blank := by
      rw [← Dialect.blank_phrase, same, Dialect.blank_phrase]
    exact congrArg Phrase.pieces phrases
  apply Piece.sql_eq_of_blank
  simp only [Dialect.selectPieces, List.map_append, List.map_cons, pieces]

end Select

/-! How many placeholders a text has. -/

/-- The places of a text that a database takes for a parameter, be it by a number or not. -/
def placeholdersIn (text : String) : Nat := text.toList.countP fun c => c == '?' || c == '$'

@[simp] theorem placeholdersIn_append (a b : String) :
    placeholdersIn (a ++ b) = placeholdersIn a + placeholdersIn b := by
  rw [placeholdersIn, String.toList_append, List.countP_append]
  rfl

theorem placeholdersIn_toString (number : Nat) : placeholdersIn (toString number) = 0 := by
  have digits : (toString number).toList = Nat.toDigits 10 number := by simp [toString]
  rw [placeholdersIn, digits, List.countP_eq_zero]
  intro c listed mark
  have digit := Nat.isDigit_of_mem_toDigits (by decide) (by decide) listed
  rcases (by simpa using mark : c = '?' ∨ c = '$') with rfl | rfl <;> exact absurd digit (by decide)

namespace Piece

theorem placeholdersIn_placeholder (dialect : Dialect) (number : Nat) :
    placeholdersIn (placeholder dialect number) = 1 := by
  unfold placeholder
  split
  next =>
    rw [placeholdersIn_append, placeholdersIn_toString]
    rfl
  next => rfl

/-- The placeholders that stand in the fixed texts. -/
def unbound : List Piece → Nat
  | [] => 0
  | fixed text :: rest => placeholdersIn text + unbound rest
  | slot _ :: rest => unbound rest

@[simp] theorem unbound_append (first second : List Piece) :
    unbound (first ++ second) = unbound first + unbound second := by
  induction first with
  | nil => simp [unbound]
  | cons piece rest ih => cases piece <;> simp [unbound, ih, Nat.add_assoc]

/-- The text has a placeholder for each parameter, besides those of the fixed texts. -/
theorem placeholdersIn_sql (dialect : Dialect) (pieces : List Piece) :
    placeholdersIn (sql dialect pieces) = (params pieces).length + unbound pieces := by
  suffices placed : ∀ number,
      placeholdersIn (String.join (withPlaceholders dialect number pieces)) =
        (params pieces).length + unbound pieces from placed 1
  induction pieces with
  | nil => exact fun _ => rfl
  | cons piece rest ih =>
    intro number
    cases piece with
    | fixed text =>
      rw [withPlaceholders, String.join_cons, placeholdersIn_append, ih, params, unbound]
      omega
    | slot param =>
      rw [withPlaceholders, String.join_cons, placeholdersIn_append, ih,
        placeholdersIn_placeholder, params, unbound, List.length_cons]
      omega

theorem unbound_list (params : List Param) : unbound (list params) = 0 := by
  unfold list
  induction params with
  | nil => rfl
  | cons param rest ih =>
    cases rest with
    | nil => rfl
    | cons next rest => exact (Nat.zero_add _).trans ih

end Piece

namespace Phrase

/-- The placeholders that stand in the fixed texts. -/
def unbound (phrase : Phrase) : Nat := Piece.unbound phrase.pieces

theorem unbound_parenthesized (phrase : Phrase) :
    Piece.unbound phrase.parenthesized = phrase.unbound := by
  rw [parenthesized, List.cons_append, Piece.unbound, Piece.unbound_append]
  exact Nat.zero_add _

theorem unbound_join (connective : Connective) (a b : Phrase) :
    (join connective a b).unbound = a.unbound + b.unbound := by
  have left : Piece.unbound (a.left connective) = a.unbound := by
    unfold Phrase.left
    split
    next => rfl
    next => exact unbound_parenthesized a
  have right : Piece.unbound b.right = b.unbound := by
    unfold Phrase.right
    split
    next => rfl
    next => exact unbound_parenthesized b
  have word : placeholdersIn (word connective) = 0 := by cases connective <;> rfl
  rw [unbound, join, Piece.unbound_append, Piece.unbound, left, right, word, Nat.zero_add]

theorem unbound_joinAll (connective : Connective) (phrases : List Phrase) :
    (joinAll connective phrases).unbound = (phrases.map unbound).sum := by
  cases phrases with
  | nil => cases connective <;> rfl
  | cons first rest =>
    dsimp only [joinAll]
    induction rest generalizing first with
    | nil => exact (Nat.add_zero _).symm
    | cons next rest ih =>
      rw [List.foldl_cons, ih, List.map_cons, List.sum_cons, unbound_join, Nat.add_assoc]
      rfl

end Phrase

namespace Condition

mutual

/-- How many comparisons within texts a condition has. -/
def searches : Condition → Nat
  | .locate .. | .matchesPattern .. => 1
  | .among inner | .notAmong inner => inner.searches
  | .all conditions | .any conditions => searchesAll conditions
  | .compare .. | .oneOf .. | .noneOf .. | .present _ | .never => 0

def searchesAll : List Condition → Nat
  | [] => 0
  | condition :: rest => condition.searches + searchesAll rest

end

end Condition

namespace Dialect

/-- The placeholders that a dialect leaves behind in each comparison within texts. -/
def lost (dialect : Dialect) : Nat := if dialect.isPostgres then 2 else 0

variable {dialect : Dialect} {table : String}

theorem placeholdersIn_identifier (plain : placeholdersIn table = 0) :
    placeholdersIn (dialect.identifier table) = 0 := by
  rw [placeholdersIn, List.countP_eq_zero] at plain ⊢
  have mark : ¬ ((dialect.identifierMark == '?' || dialect.identifierMark == '$') = true) := by
    cases dialect <;> decide
  intro c listed
  rw [identifier, String.toList_ofList] at listed
  simp only [List.cons_append, List.mem_cons, List.mem_append, List.mem_flatMap, List.not_mem_nil,
    or_false] at listed
  rcases listed with rfl | ⟨inner, inside, doubled⟩ | rfl
  · exact mark
  · have same : c = inner := by
      split at doubled <;> simpa using doubled
    exact same ▸ plain inner inside
  · exact mark

theorem placeholdersIn_column (column : Column) : placeholdersIn (dialect.column column) = 0 := by
  have label : placeholdersIn column.label = 0 := by
    cases column with
    | value kind multi => cases kind <;> cases multi <;> decide +kernel
    | _ => decide +kernel
  exact placeholdersIn_identifier label

theorem placeholdersIn_term (term : Term) : placeholdersIn (dialect.term term) = 0 := by
  cases term with
  | plain column => exact placeholdersIn_column column
  | lowered column =>
    rw [term, placeholdersIn_append, placeholdersIn_append, placeholdersIn_column]
    rfl

theorem placeholdersIn_symbol (comparison : Comparison) : placeholdersIn comparison.symbol = 0 := by
  cases comparison <;> rfl

theorem unbound_membership (column : Column) {word : String} (plain : placeholdersIn word = 0)
    (empty : Int × Int) (params : List Param) :
    Piece.unbound (dialect.membership column word empty params) = 0 := by
  have fixed : placeholdersIn " " = 0 ∧ placeholdersIn " (" = 0 ∧ placeholdersIn ")" = 0 ∧
      placeholdersIn " = " = 0 := by decide
  cases params with
  | nil => rfl
  | cons param rest =>
    simp [membership, Piece.unbound, Piece.unbound_list, placeholdersIn_column, plain, fixed]

theorem placeholdersIn_selectObjects (plain : placeholdersIn table = 0) :
    placeholdersIn (dialect.selectObjects table) = 0 := by
  have fixed : placeholdersIn "SELECT DISTINCT " = 0 ∧ placeholdersIn " FROM " = 0 := by decide
  unfold selectObjects
  simp only [placeholdersIn_append, fixed, placeholdersIn_column, placeholdersIn_identifier plain]

theorem unbound_subquery (plain : placeholdersIn table = 0) {word : String}
    (own : placeholdersIn word = 0) (inner : Phrase) :
    (dialect.subquery table word inner).unbound = inner.unbound := by
  have opening : placeholdersIn (dialect.column .uri ++ " " ++ word ++ " (" ++
      dialect.selectObjects table ++ " WHERE ") = 0 := by
    have fixed : placeholdersIn " " = 0 ∧ placeholdersIn " (" = 0 ∧
        placeholdersIn " WHERE " = 0 := by decide
    simp only [placeholdersIn_append, fixed, placeholdersIn_column,
      placeholdersIn_selectObjects plain, own]
  have closing : Piece.unbound [.fixed ")"] = 0 := by decide
  rw [Phrase.unbound, subquery, List.cons_append, Piece.unbound, opening, Piece.unbound_append,
    closing, Nat.zero_add]
  rfl

mutual

theorem unbound_phrase (plain : placeholdersIn table = 0) (condition : Condition) :
    (dialect.phrase table condition).unbound = dialect.lost * condition.searches := by
  match condition with
  | .compare term comparison param =>
    have space : placeholdersIn " " = 0 := by decide
    simp [phrase, Phrase.unbound, Piece.unbound, placeholdersIn_term, placeholdersIn_symbol, space,
      Condition.searches]
  | .oneOf column params => exact unbound_membership column (by decide) _ params
  | .noneOf column params => exact unbound_membership column (by decide) _ params
  | .present column =>
    have word : placeholdersIn " IS NOT NULL" = 0 := by decide
    simp [phrase, Phrase.unbound, Piece.unbound, placeholdersIn_column, word, Condition.searches]
  | .never => rfl
  | .locate term needle =>
    have fixed : placeholdersIn "(instr(" = 0 ∧ placeholdersIn ", " = 0 ∧
        placeholdersIn ")) > " = 0 ∧ placeholdersIn "(LOCATE(" = 0 ∧
        placeholdersIn "(strpos(?, ?)) > " = 2 := by decide
    cases dialect <;>
      simp [phrase, locate, Phrase.unbound, Piece.unbound, placeholdersIn_term, fixed,
        Condition.searches, lost, isPostgres]
  | .matchesPattern term pattern =>
    have fixed : placeholdersIn " REGEXP " = 0 ∧ placeholdersIn "? ~ ?" = 2 := by decide
    cases dialect <;>
      simp [phrase, matchesPattern, Phrase.unbound, Piece.unbound, placeholdersIn_term, fixed,
        Condition.searches, lost, isPostgres]
  | .among inner | .notAmong inner =>
    exact (unbound_subquery plain (by decide) _).trans (unbound_phrase plain inner)
  | .all conditions => exact (Phrase.unbound_joinAll _ _).trans (unbound_phrases plain conditions)
  | .any conditions => exact (Phrase.unbound_joinAll _ _).trans (unbound_phrases plain conditions)

theorem unbound_phrases (plain : placeholdersIn table = 0) (conditions : List Condition) :
    ((dialect.phrases table conditions).map Phrase.unbound).sum =
      dialect.lost * Condition.searchesAll conditions := by
  match conditions with
  | [] => rfl
  | condition :: rest =>
    rw [phrases, List.map_cons, List.sum_cons, unbound_phrase plain condition,
      unbound_phrases plain rest, Condition.searchesAll, Nat.mul_add]

end

end Dialect

/-- The text that asks for objects has a placeholder for each parameter, and those that its
comparisons within texts leave behind. -/
theorem Select.placeholdersIn_text (dialect : Dialect) {table : String}
    (plain : placeholdersIn table = 0) (condition : Condition) (distinct : Bool)
    (page : Option (Nat × Nat)) :
    let select : Select := ⟨distinct, [.uri], table, some condition, false, page⟩
    placeholdersIn (select.text dialect) =
      (select.params dialect).length + dialect.lost * condition.searches := by
  intro select
  have own : (dialect.phrase table condition).unbound = dialect.lost * condition.searches :=
    Dialect.unbound_phrase plain condition
  have fixed : placeholdersIn "" = 0 ∧ placeholdersIn "SELECT " = 0 ∧
      placeholdersIn "SELECT DISTINCT " = 0 ∧ placeholdersIn " FROM " = 0 ∧
      placeholdersIn " WHERE " = 0 ∧ placeholdersIn " LIMIT " = 0 ∧
      placeholdersIn " OFFSET " = 0 := by decide
  rw [text, params, Piece.placeholdersIn_sql, ← own]
  congr 1
  cases distinct <;> cases page <;>
    simp [select, Dialect.selectPieces, Piece.unbound, Dialect.placeholdersIn_column,
      Dialect.placeholdersIn_identifier plain, fixed, Phrase.unbound]

end GraphSegments
