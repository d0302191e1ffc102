import MoonlightAddon.Core.Wire

/-!
# XML elements

`xml_tag` searches the text of a host twice.  What it returns is what stands
between the first opening tag and the first closing tag after that.
-/

namespace MoonlightAddon

/-- `value` is the text of the first element `tag`. -/
def FirstElement (xml tag value : Text) : Prop :=
  ∃ before after,
    xml = before ++ openTag tag ++ (value ++ closeTag tag ++ after) ∧
      Text.FirstAt (openTag tag) before (value ++ closeTag tag ++ after) ∧
      Text.FirstAt (closeTag tag) value []

/-- The tag is not opened, or not closed after it was opened first. -/
def NoElement (xml tag : Text) : Prop :=
  ¬ openTag tag <:+: xml ∨
    ∃ before rest, xml = before ++ openTag tag ++ rest ∧
      Text.FirstAt (openTag tag) before rest ∧ ¬ closeTag tag <:+: rest

section

variable {xml tag value : Text}

theorem element_eq_some_iff :
    element xml tag = some value ↔ FirstElement xml tag value := by
  constructor
  · intro found
    obtain ⟨⟨before, rest⟩, opened, closing⟩ := Option.bind_eq_some_iff.mp found
    obtain ⟨⟨inner, after⟩, closed, same⟩ := Option.map_eq_some_iff.mp closing
    obtain rfl : inner = value := same
    obtain ⟨split, first⟩ := Text.splitFirst_eq_some_iff.mp opened
    obtain ⟨rfl, closes⟩ := Text.splitFirst_eq_some_iff.mp closed
    exact ⟨before, after, split, first, Text.firstAt_iff.mp closes⟩
  · rintro ⟨before, after, split, first, closes⟩
    have opened := Text.splitFirst_eq_some_iff.mpr ⟨split, first⟩
    have closed : Text.splitFirst (closeTag tag)
        (value ++ closeTag tag ++ after) = some (value, after) :=
      Text.splitFirst_eq_some_iff.mpr ⟨rfl, Text.firstAt_iff.mpr closes⟩
    simp only [element, opened, closed, Option.bind_some, Option.map_some]

theorem element_eq_none_iff : element xml tag = none ↔ NoElement xml tag := by
  unfold element NoElement
  cases opened : Text.splitFirst (openTag tag) xml with
  | none =>
      have unopened := Text.splitFirst_eq_none_iff.mp opened
      exact iff_of_true rfl (.inl unopened)
  | some pair =>
      obtain ⟨before, rest⟩ := pair
      obtain ⟨split, first⟩ := Text.splitFirst_eq_some_iff.mp opened
      rw [Option.bind_some, Option.map_eq_none_iff,
        Text.splitFirst_eq_none_iff]
      constructor
      · intro unclosed
        exact .inr ⟨before, rest, split, first, unclosed⟩
      · rintro (unopened | ⟨other, more, again, firstAgain, unclosed⟩)
        · exact absurd ⟨before, rest, split.symm⟩ unopened
        · have same := Text.splitFirst_eq_some_iff.mpr ⟨again, firstAgain⟩
          obtain ⟨_, rfl⟩ := Prod.mk.inj (Option.some.inj
            (opened.symm.trans same))
          exact unclosed

/-- A value without `<` behind a text that does not open the tag. -/
theorem firstElement_of_plain (plainTag : '<' ∉ tag) {before : Text}
    (unopened : ¬ openTag tag <:+: before) (plain : '<' ∉ value)
    (after : Text) :
    FirstElement (before ++ openTag tag ++ (value ++ closeTag tag ++ after))
      tag value := by
  have absent : Text.contains before (openTag tag) = false := by
    rw [Text.contains, Text.splitFirst_eq_none_iff.mpr unopened]
    rfl
  have single : '<' ∉ tag ++ lit ">" := by
    simp [plainTag, lit]
  have opened := Text.splitFirst_of_absent single absent
    (value ++ closeTag tag ++ after)
  rw [← List.append_assoc] at opened
  exact ⟨before, after, rfl, (Text.splitFirst_eq_some_iff.mp opened).2,
    Text.firstAt_of_notMem plain⟩

end

/-- `xml_tag` always returns, and its result is the text of the first element
if there is one. -/
structure ExtractsElement (xml tag : Text) : Prop where
  returns : ∃ result, xmlTag xml tag = .ok result
  found : ∀ value, xmlTag xml tag = .ok (some value) ↔
    FirstElement xml tag value
  missing : xmlTag xml tag = .ok none ↔ NoElement xml tag
  plain : ∀ before value after, ¬ openTag tag <:+: before → '<' ∉ value →
    xml = before ++ openTag tag ++ (value ++ closeTag tag ++ after) →
      xmlTag xml tag = .ok (some value)

theorem xml_tag_exact (xml : Text) {tag : Text}
    (plainTag : '<' ∉ tag ∧ '>' ∉ tag) : ExtractsElement xml tag := by
  constructor
  · exact ⟨_, xmlTag_eq xml tag⟩
  · intro value
    rw [xmlTag_eq, Outcome.ok.injEq]
    exact element_eq_some_iff
  · rw [xmlTag_eq, Outcome.ok.injEq]
    exact element_eq_none_iff
  · rintro before value after unopened plain rfl
    rw [xmlTag_eq, Outcome.ok.injEq]
    exact element_eq_some_iff.mpr
      (firstElement_of_plain plainTag.1 unopened plain after)

/-- The answer of a host that is not paired. -/
theorem xml_tag_exact_paired :
    ExtractsElement (lit "<root><paired>0</paired></root>") (lit "paired") :=
  xml_tag_exact _ (by decide)

end MoonlightAddon
