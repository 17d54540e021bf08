import GraphSegments.Proofs.Dictionaries
import GraphSegments.Proofs.Results
import GraphSegments.Table.Reading

/-!
Grouping the rows of an object by property. It succeeds exactly if they are rows of one object and
no property is single in one of several rows, and then it gives the rows of every property in their
order.
-/

namespace GraphSegments
open Results

namespace Row

/-- Two rows of one property of an object are both multi-valued. -/
def Coherent (rows : List Row) : Prop :=
  rows.Pairwise fun a b => a.uri = b.uri → a.name = b.name → a.multi = true ∧ b.multi = true

theorem coherent_concat {rows : List Row} {row : Row} :
    Coherent (rows ++ [row]) ↔ Coherent rows ∧ ∀ other ∈ rows, other.uri = row.uri →
      other.name = row.name → other.multi = true ∧ row.multi = true := by
  simp [Coherent, List.pairwise_append]

/-- The rows of one property. -/
def named (name : String) (rows : List Row) : List Row := rows.filter fun row => row.name == name

theorem mem_named {name : String} {rows : List Row} {row : Row} :
    row ∈ named name rows ↔ row ∈ rows ∧ row.name = name := by
  simp [named]

theorem named_concat (name : String) (rows : List Row) (row : Row) :
    named name (rows ++ [row]) =
      if row.name = name then named name rows ++ [row] else named name rows := by
  by_cases same : row.name = name <;> simp [named, List.filter_append, same]

end Row

namespace PropertyRows

/-- The rows of one property taken together, if there are any. -/
def ofRows? : List Row → Option PropertyRows
  | [] => none
  | first :: rest =>
    some ⟨first.external, first.multi, (first :: rest).map fun row => (row.value, row.fullText)⟩

theorem ofRows?_eq_none {rows : List Row} : ofRows? rows = none ↔ rows = [] := by
  cases rows <;> simp [ofRows?]

theorem values_ofRows? {rows : List Row} {together : PropertyRows}
    (made : ofRows? rows = some together) :
    together.values = rows.map fun row => (row.value, row.fullText) := by
  cases rows with
  | nil => exact absurd made (by simp [ofRows?])
  | cons first rest =>
    obtain rfl := Option.some.inj made
    rfl

/-- One more row of a property goes to the end. -/
theorem ofRows?_concat {rows : List Row} {together : PropertyRows}
    (made : ofRows? rows = some together) (row : Row) :
    ofRows? (rows ++ [row]) =
      some { together with values := together.values ++ [(row.value, row.fullText)] } := by
  cases rows with
  | nil => exact absurd made (by simp [ofRows?])
  | cons first rest =>
    obtain rfl := Option.some.inj made
    simp [ofRows?]

/-- What is known of an object after some of its rows. -/
structure Stands (uri : String) (seen : List Row) (grouped : Dictionary PropertyRows) : Prop where
  uris : ∀ row ∈ seen, row.uri = uri
  coherent : Row.Coherent seen
  found : ∀ name, grouped.find? name = ofRows? (Row.named name seen)

theorem stands_start (uri : String) : Stands uri [] ∅ where
  uris := by simp
  coherent := List.Pairwise.nil
  found name := rfl

section Add

variable {uri : String} {seen : List Row} {grouped next : Dictionary PropertyRows} {row : Row}
  (stands : Stands uri seen grouped)
include stands

/-- A property that several rows have is known as multi-valued only if all of them are. -/
theorem Stands.multi_of_known {known : PropertyRows} (there : grouped.find? row.name = some known)
    (multi : known.multi = true) : ∀ other ∈ seen, other.name = row.name → other.multi = true := by
  intro other member same
  rw [stands.found] at there
  have listed := Row.mem_named.2 ⟨member, same⟩
  cases rows : Row.named row.name seen with
  | nil => exact absurd (rows ▸ listed) List.not_mem_nil
  | cons first rest =>
    rw [rows] at there listed
    obtain rfl := Option.some.inj there
    rcases List.mem_cons.1 listed with rfl | later
    · exact multi
    · have coherent : Row.Coherent (Row.named row.name seen) := stands.coherent.filter _
      rw [rows] at coherent
      have mine {row' : Row} (inside : row' ∈ first :: rest) :
          row' ∈ seen ∧ row'.name = row.name := Row.mem_named.1 (rows ▸ inside)
      obtain ⟨firstSeen, firstNamed⟩ := mine List.mem_cons_self
      exact ((List.pairwise_cons.1 coherent).1 other later
        ((stands.uris _ firstSeen).trans (stands.uris _ member).symm)
        (firstNamed.trans same.symm)).2

/-- A row is added only if it is one of the object and agrees with the rows of its property. -/
theorem Stands.add (added : PropertyRows.add uri grouped row = .ok next) :
    Stands uri (seen ++ [row]) next := by
  unfold PropertyRows.add at added
  split at added
  next => exact absurd added (by simp)
  next mine =>
    have mine : row.uri = uri := by simpa using mine
    have uris : ∀ other ∈ seen ++ [row], other.uri = uri := by
      intro other member
      rcases List.mem_append.1 member with earlier | last
      · exact stands.uris other earlier
      · exact (List.mem_singleton.1 last) ▸ mine
    split at added
    next unknown =>
      obtain rfl := Except.ok.inj added
      have none : Row.named row.name seen = [] := by rwa [stands.found, ofRows?_eq_none] at unknown
      refine ⟨uris, Row.coherent_concat.2 ⟨stands.coherent, ?_⟩, ?_⟩
      · intro other member _ same
        exact absurd (none ▸ Row.mem_named.2 ⟨member, same⟩) List.not_mem_nil
      · intro name
        rw [Dictionary.find?_insert, Row.named_concat]
        split
        next same => simp [← same, none, ofRows?]
        next => exact stands.found name
    next known there =>
      split at added
      next => exact absurd added (by simp)
      next alike =>
        split at added
        next => exact absurd added (by simp)
        next multi =>
          obtain rfl := Except.ok.inj added
          have multi : row.multi = true := by simpa using multi
          have alike : known.multi = row.multi := by simpa using alike
          refine ⟨uris, Row.coherent_concat.2 ⟨stands.coherent, ?_⟩, ?_⟩
          · intro other member _ same
            exact ⟨stands.multi_of_known there (alike.trans multi) other member same, multi⟩
          · intro name
            rw [Dictionary.find?_insert, Row.named_concat]
            split
            next same =>
              rw [stands.found, same] at there
              exact (ofRows?_concat there row).symm
            next => exact stands.found name

theorem Stands.exists_add (mine : row.uri = uri) (coherent : Row.Coherent (seen ++ [row])) :
    ∃ next, PropertyRows.add uri grouped row = .ok next := by
  unfold PropertyRows.add
  rw [if_neg (by simpa using mine)]
  cases there : grouped.find? row.name with
  | none => exact ⟨_, rfl⟩
  | some known =>
    have agrees := (Row.coherent_concat.1 coherent).2
    rw [stands.found] at there
    cases rows : Row.named row.name seen with
    | nil => exact absurd (rows ▸ there) (by simp [ofRows?])
    | cons first rest =>
      rw [rows] at there
      obtain rfl := Option.some.inj there
      obtain ⟨listed, same⟩ := Row.mem_named.1 (rows ▸ List.mem_cons_self)
      obtain ⟨known, multi⟩ := agrees first listed ((stands.uris _ listed).trans mine.symm) same
      simp [known, multi]

end Add

/-- A row is among those of a property that is known. -/
theorem Stands.exists_grouped {uri : String} {rows : List Row} {grouped : Dictionary PropertyRows}
    (stands : Stands uri rows grouped) {row : Row} (listed : row ∈ rows) :
    ∃ together, (row.name, together) ∈ grouped.entries := by
  have named := Row.mem_named.2 ⟨listed, rfl⟩
  have known : ofRows? (Row.named row.name rows) ≠ none := fun none =>
    absurd (ofRows?_eq_none.1 none ▸ named) List.not_mem_nil
  obtain ⟨together, found⟩ := Option.ne_none_iff_exists'.1 known
  exact ⟨together, Dictionary.find?_eq_some.1 ((stands.found _).trans found)⟩

section Known

variable {uri name : String} {rows : List Row} {grouped : Dictionary PropertyRows}
  {together : PropertyRows} (stands : Stands uri rows grouped)
  (listed : (name, together) ∈ grouped.entries)
include stands listed

theorem Stands.ofRows?_named : ofRows? (Row.named name rows) = some together :=
  (stands.found name).symm.trans (Dictionary.find?_eq_some.2 listed)

/-- A property that is known has rows, the first of which says whether it is registered. -/
theorem Stands.named_eq_cons :
    ∃ row rest, Row.named name rows = row :: rest ∧ row.external = together.external := by
  have made := stands.ofRows?_named listed
  cases named : Row.named name rows with
  | nil => exact absurd (named ▸ made) (by simp [ofRows?])
  | cons row rest =>
    rw [named] at made
    exact ⟨row, rest, rfl, Option.some.inj made ▸ rfl⟩

theorem Stands.values_ne_nil : together.values ≠ [] := by
  obtain ⟨row, rest, named, -⟩ := stands.named_eq_cons listed
  rw [values_ofRows? (stands.ofRows?_named listed), named]
  exact List.cons_ne_nil _ _

theorem Stands.exists_row : ∃ row ∈ rows, row.name = name ∧ row.external = together.external := by
  obtain ⟨row, rest, named, external⟩ := stands.named_eq_cons listed
  obtain ⟨inside, same⟩ := Row.mem_named.1 (named ▸ List.mem_cons_self)
  exact ⟨row, inside, same, external⟩

/-- The stored values of a property are those of its rows. -/
theorem Stands.values :
    together.values = (Row.named name rows).map fun row => (row.value, row.fullText) :=
  values_ofRows? (stands.ofRows?_named listed)

end Known

/-- What a grouping has gone through is known of the object. -/
theorem Stands.addAll {uri : String} {seen : List Row} {grouped last : Dictionary PropertyRows}
    (stands : Stands uri seen grouped) {rows : List Row}
    (added : rows.foldlM (PropertyRows.add uri) grouped = .ok last) :
    Stands uri (seen ++ rows) last := by
  induction rows generalizing seen grouped with
  | nil =>
    obtain rfl := Except.ok.inj added
    simpa using stands
  | cons row rest ih =>
    rw [List.foldlM_cons] at added
    obtain ⟨next, one, others⟩ := bind_eq_ok.1 added
    simpa using ih (stands.add one) others

theorem Stands.exists_addAll {uri : String} {seen : List Row} {grouped : Dictionary PropertyRows}
    (stands : Stands uri seen grouped) {rows : List Row} (mine : ∀ row ∈ rows, row.uri = uri)
    (coherent : Row.Coherent (seen ++ rows)) :
    ∃ last, rows.foldlM (PropertyRows.add uri) grouped = .ok last := by
  induction rows generalizing seen grouped with
  | nil => exact ⟨grouped, rfl⟩
  | cons row rest ih =>
    have here : Row.Coherent (seen ++ [row]) := by
      refine List.Pairwise.sublist ?_ coherent
      simp
    obtain ⟨next, added⟩ := stands.exists_add (mine row List.mem_cons_self) here
    obtain ⟨last, others⟩ := ih (stands.add added)
      (fun other member => mine other (List.mem_cons_of_mem _ member)) (by simpa using coherent)
    exact ⟨last, by rw [List.foldlM_cons, added, ok_bind, others]⟩

/-- Rows are grouped exactly if they are coherent rows of one object, and then every property has
its rows. -/
theorem group_eq_ok {uri : String} {rows : List Row} {grouped : Dictionary PropertyRows} :
    group uri rows = .ok grouped ↔ Stands uri rows grouped := by
  constructor
  · intro made
    simpa using (stands_start uri).addAll made
  · intro stands
    obtain ⟨made, same⟩ := (stands_start uri).exists_addAll stands.uris (by simpa using stands.coherent)
    have other : Stands uri rows made := by simpa using (stands_start uri).addAll same
    have alike : made = grouped :=
      Dictionary.ext fun name => (other.found name).trans (stands.found name).symm
    exact alike ▸ same

theorem exists_group {uri : String} {rows : List Row} (mine : ∀ row ∈ rows, row.uri = uri)
    (coherent : Row.Coherent rows) : ∃ grouped, group uri rows = .ok grouped :=
  (stands_start uri).exists_addAll mine (by simpa using coherent)

end PropertyRows

end GraphSegments
