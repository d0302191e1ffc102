import Mathlib.Data.List.TakeWhile

/-!
# Query strings

A list of parameters written as one text: one separator stands between two
parameters and another one between a name and its value.  Nothing is escaped,
so a text is read back only if the names and values avoid the separators.
-/

namespace MoonlightAddon

namespace Query

variable {α : Type}

/-- A name and its value. -/
abbrev Parameter (α : Type) := List α × List α

/-- What stands between two parameters, and between a name and its value. -/
structure Separators (α : Type) where
  between : α
  within : α
  distinct : between ≠ within

namespace Separators

variable (separators : Separators α)

def renderParameter (parameter : Parameter α) : List α :=
  parameter.1 ++ separators.within :: parameter.2

def render (parameters : List (Parameter α)) : List α :=
  [separators.between].intercalate
    (parameters.map separators.renderParameter)

/-- A parameter that is read as it was written. -/
structure Plain (parameter : Parameter α) : Prop where
  name : separators.between ∉ parameter.1 ∧ separators.within ∉ parameter.1
  value : separators.between ∉ parameter.2

variable {separators}

theorem between_notMem_renderParameter {parameter : Parameter α}
    (plain : separators.Plain parameter) :
    separators.between ∉ separators.renderParameter parameter := by
  simp only [renderParameter, List.mem_append, List.mem_cons, not_or]
  exact ⟨plain.name.1, separators.distinct, plain.value⟩

theorem mem_render {parameters : List (Parameter α)} {item : α}
    (inside : item ∈ separators.render parameters) :
    item = separators.between ∨ item = separators.within ∨
      ∃ parameter ∈ parameters, item ∈ parameter.1 ∨ item ∈ parameter.2 := by
  induction parameters with
  | nil => cases inside
  | cons first rest induction =>
      have split : item ∈ separators.renderParameter first ∨
          item = separators.between ∨ item ∈ separators.render rest := by
        cases rest with
        | nil => exact .inl (by simpa [render] using inside)
        | cons second rest =>
            simpa [render, List.intercalate_cons_cons, or_assoc] using inside
      obtain here | between | later := split
      · simp only [renderParameter, List.mem_append, List.mem_cons] at here
        obtain name | within | value := here
        · exact .inr (.inr ⟨first, List.mem_cons_self, .inl name⟩)
        · exact .inr (.inl within)
        · exact .inr (.inr ⟨first, List.mem_cons_self, .inr value⟩)
      · exact .inl between
      · obtain between | within | ⟨parameter, member, found⟩ := induction later
        · exact .inl between
        · exact .inr (.inl within)
        · exact .inr (.inr ⟨parameter, List.mem_cons_of_mem _ member, found⟩)

end Separators

variable [DecidableEq α]

/-- The text before the first mark, and what follows the mark. -/
def cut (mark : α) (text : List α) : List α × List α :=
  (text.takeWhile (· ≠ mark), (text.dropWhile (· ≠ mark)).drop 1)

section Cut

variable {mark item : α} {text before after : List α}

theorem cut_append_cons (absent : mark ∉ before) :
    cut mark (before ++ mark :: after) = (before, after) := by
  have avoids : ∀ item ∈ before, decide (item ≠ mark) = true := by
    intro item member
    exact decide_eq_true (ne_of_mem_of_not_mem member absent)
  rw [cut, List.takeWhile_append_of_pos avoids,
    List.dropWhile_append_of_pos avoids]
  simp

theorem cut_of_notMem (absent : mark ∉ text) : cut mark text = (text, []) := by
  have avoids : ∀ item ∈ text, decide (item ≠ mark) = true := by
    intro item member
    exact decide_eq_true (ne_of_mem_of_not_mem member absent)
  rw [cut, List.takeWhile_eq_self_iff.mpr avoids,
    List.dropWhile_eq_nil_iff.mpr avoids]
  rfl

/-- Once the mark has come, what is cut off in front stays the same. -/
theorem cut_append_of_mem (present : mark ∈ text) (more : List α) :
    cut mark (text ++ more) = ((cut mark text).1, (cut mark text).2 ++ more) := by
  obtain ⟨before, after, rfl, absent⟩ := List.eq_append_cons_of_mem present
  rw [List.append_assoc, List.cons_append, cut_append_cons absent,
    cut_append_cons absent]

theorem mem_of_mem_cut_snd (member : item ∈ (cut mark text).2) :
    item ∈ text :=
  (List.dropWhile_suffix _).subset (List.mem_of_mem_drop member)

/-- A cut takes out one mark at most. -/
theorem length_le_of_cut (mark : α) (text : List α) :
    text.length ≤ (cut mark text).1.length + 1 + (cut mark text).2.length := by
  by_cases present : mark ∈ text
  · obtain ⟨before, after, rfl, absent⟩ := List.eq_append_cons_of_mem present
    rw [cut_append_cons absent, List.length_append, List.length_cons,
      Nat.add_right_comm, Nat.add_assoc]
  · rw [cut_of_notMem present]
    exact Nat.le_add_right _ 1

end Cut

namespace Separators

variable (separators : Separators α)

/-- Split at every separator between parameters, and cut each piece at its
first separator within. -/
def parse (query : List α) : List (Parameter α) :=
  (query.splitOn separators.between).map (cut separators.within)

variable {separators}

theorem cut_renderParameter {parameter : Parameter α}
    (plain : separators.Plain parameter) :
    cut separators.within (separators.renderParameter parameter) = parameter :=
  cut_append_cons plain.name.2

/-- Plain parameters are read back. -/
theorem parse_render {parameters : List (Parameter α)}
    (nonempty : parameters ≠ [])
    (plain : ∀ parameter ∈ parameters, separators.Plain parameter) :
    separators.parse (separators.render parameters) = parameters := by
  have pieces : (separators.render parameters).splitOn separators.between =
      parameters.map separators.renderParameter := by
    apply List.splitOn_intercalate
    · simp only [List.forall_mem_map]
      intro parameter member
      exact between_notMem_renderParameter (plain parameter member)
    · simpa using nonempty
  rw [parse, pieces, List.map_map]
  have same : ∀ parameter ∈ parameters,
      (cut separators.within ∘ separators.renderParameter) parameter =
        id parameter :=
    fun parameter member => cut_renderParameter (plain parameter member)
  rw [List.map_congr_left same, List.map_id]

/-- What follows a separator is read on its own. -/
theorem parse_append_cons (first second : List α) :
    separators.parse (first ++ separators.between :: second) =
      separators.parse first ++ separators.parse second := by
  rw [parse, List.splitOn_append_cons_self, List.map_append]
  rfl

theorem mem_splitOn {mark : α} {text piece : List α}
    (member : piece ∈ text.splitOn mark) :
    mark ∉ piece ∧ ∀ item ∈ piece, item ∈ text := by
  induction text generalizing piece with
  | nil => simp_all
  | cons head rest induction =>
      rw [List.splitOn_cons_eq_if_modifyHead] at member
      by_cases here : head = mark
      · simp only [here, BEq.rfl, ↓reduceIte, List.mem_cons] at member
        obtain rfl | member := member
        · simp
        · obtain ⟨absent, inside⟩ := induction member
          exact ⟨absent, fun item found => List.mem_cons_of_mem _ (inside item found)⟩
      · obtain ⟨first, others, pieces⟩ :=
          List.exists_cons_of_ne_nil (List.splitOn_ne_nil mark rest)
        simp only [pieces, beq_iff_eq, here, ↓reduceIte, List.modifyHead_cons,
          List.mem_cons] at member
        obtain rfl | member := member
        · obtain ⟨absent, inside⟩ := @induction first (by simp [pieces])
          grind
        · obtain ⟨absent, inside⟩ := @induction piece (by simp [pieces, member])
          exact ⟨absent, fun item found => List.mem_cons_of_mem _ (inside item found)⟩

section Parsed

variable {query : List α} {parameter : Parameter α} {item : α}

theorem between_notMem_of_parse (member : parameter ∈ separators.parse query) :
    separators.between ∉ parameter.2 := by
  obtain ⟨piece, split, rfl⟩ := List.mem_map.mp member
  exact fun inside => (mem_splitOn split).1 (mem_of_mem_cut_snd inside)

theorem mem_of_parse (member : parameter ∈ separators.parse query)
    (inside : item ∈ parameter.2) : item ∈ query := by
  obtain ⟨piece, split, rfl⟩ := List.mem_map.mp member
  exact (mem_splitOn split).2 item (mem_of_mem_cut_snd inside)

end Parsed

theorem length_le_renderParameter (piece : List α) :
    piece.length ≤
      (separators.renderParameter (cut separators.within piece)).length := by
  have bound := length_le_of_cut separators.within piece
  simp only [renderParameter, List.length_append, List.length_cons]
  omega

/-- No text is longer than what it is read as. -/
theorem length_le_render_parse (query : List α) :
    query.length ≤ (separators.render (separators.parse query)).length := by
  suffices longer : ∀ pieces : List (List α),
      ([separators.between].intercalate pieces).length ≤
        (separators.render (pieces.map (cut separators.within))).length by
    have bound := longer (query.splitOn separators.between)
    rwa [List.intercalate_splitOn] at bound
  intro pieces
  induction pieces with
  | nil => exact Nat.le_refl 0
  | cons first rest induction =>
      have bound := @length_le_renderParameter α _ separators first
      cases rest with
      | nil => simpa [render] using bound
      | cons second rest =>
          simp only [render, List.map_cons, List.intercalate_cons_cons,
            List.length_append] at induction ⊢
          omega

end Separators

/-- The value of the only parameter of this name. -/
def only (name : List α) (parameters : List (Parameter α)) : Option (List α) :=
  match parameters.filter (·.1 = name) with
  | [parameter] => some parameter.2
  | _ => none

section Only

variable {name : List α} {first second : List (Parameter α)}

theorem only_append_of_absent
    (absent : ∀ parameter ∈ first, parameter.1 ≠ name) :
    only name (first ++ second) = only name second := by
  have empty : first.filter (·.1 = name) = [] := by
    simpa [List.filter_eq_nil_iff] using absent
  rw [only, List.filter_append, empty, List.nil_append]
  rfl

/-- A parameter that is there twice has no value. -/
theorem only_append_of_present {parameter : Parameter α}
    (present : parameter ∈ first) (named : parameter.1 = name)
    {value : List α} (other : only name second = some value) :
    only name (first ++ second) = none := by
  have one : 0 < (first.filter (·.1 = name)).length :=
    List.length_pos_of_mem
      (List.mem_filter.mpr ⟨present, decide_eq_true named⟩)
  have two : 0 < (second.filter (·.1 = name)).length := by
    cases found : second.filter (·.1 = name) with
    | nil => simp [only, found] at other
    | cons parameter rest => exact Nat.succ_pos _
  rw [only, List.filter_append]
  split
  · rename_i single
    have count := congrArg List.length single
    simp only [List.length_append, List.length_cons, List.length_nil] at count
    omega
  · rfl

end Only

/-- The separators of a URL's query. -/
def urlSeparators : Separators Char where
  between := '&'
  within := '='
  distinct := by decide

/-- The query of a URL: what stands between its first `?` and its fragment. -/
def part (url : List Char) : List Char :=
  (cut '?' (cut '#' url).1).2

section Part

variable {text query : List Char}

theorem part_append_cons (plain : '?' ∉ text ∧ '#' ∉ text)
    (unbroken : '#' ∉ query) : part (text ++ '?' :: query) = query := by
  have whole : '#' ∉ text ++ '?' :: query := by
    simp [plain.2, unbroken]
  rw [part, cut_of_notMem whole, cut_append_cons plain.1]

/-- A query that has begun goes on until a fragment begins. -/
theorem part_append (begun : '?' ∈ text) (unbroken : '#' ∉ text)
    {more : List Char} (further : '#' ∉ more) :
    part (text ++ more) = part text ++ more := by
  have whole : '#' ∉ text ++ more := by
    simp [unbroken, further]
  rw [part, part, cut_of_notMem whole, cut_of_notMem unbroken,
    cut_append_of_mem begun]

/-- Once the fragment has begun the query is over. -/
theorem part_append_of_fragment (begun : '#' ∈ text) (more : List Char) :
    part (text ++ more) = part text := by
  rw [part, part, cut_append_of_mem begun]

theorem fragment_notMem_part (url : List Char) : '#' ∉ part url := by
  intro inside
  have kept := List.mem_takeWhile_imp (mem_of_mem_cut_snd inside)
  simp at kept

end Part

end Query

end MoonlightAddon
