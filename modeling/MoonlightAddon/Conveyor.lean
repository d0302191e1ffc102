import Mathlib.Data.List.Infix

/-!
# Channels whose sender may be taken away

A first-in first-out channel between a producer and a consumer.  The producer
goes on submitting when its sender is gone; what was sent until then is
delivered in order.
-/

namespace MoonlightAddon

/-- What was delivered and what still waits are the images of what was sent,
which is all that was submitted as long as the sender is installed. -/
def Conveyor {α β : Type*} (image : α → β) (submitted : List α)
    (delivered waiting : List β) (installed : Prop) : Prop :=
  ∃ sent, sent <+: submitted ∧ delivered ++ waiting = sent.map image ∧
    (installed → sent = submitted)

namespace Conveyor

variable {α β : Type*} {image : α → β} {submitted : List α}
  {delivered waiting : List β} {installed : Prop}

theorem empty : Conveyor image [] [] [] installed :=
  ⟨[], List.prefix_refl [], rfl, fun _ => rfl⟩

/-- A submission through the installed sender waits behind the others. -/
theorem submit (conveyor : Conveyor image submitted delivered waiting installed)
    (present : installed) (item : α) :
    Conveyor image (submitted ++ [item]) delivered (waiting ++ [image item])
      installed := by
  obtain ⟨sent, _, balance, complete⟩ := conveyor
  obtain rfl := complete present
  refine ⟨sent ++ [item], List.prefix_refl _, ?_, fun _ => rfl⟩
  rw [← List.append_assoc, balance, List.map_append, List.map_singleton]

/-- A submission without a sender is lost, with all that follow it. -/
theorem miss (conveyor : Conveyor image submitted delivered waiting installed)
    (absent : ¬ installed) (item : α) :
    Conveyor image (submitted ++ [item]) delivered waiting installed := by
  obtain ⟨sent, begins, balance, _⟩ := conveyor
  exact ⟨sent, begins.trans (List.prefix_append _ _), balance,
    fun present => absurd present absent⟩

theorem deliver {item : β}
    (conveyor : Conveyor image submitted delivered (item :: waiting) installed) :
    Conveyor image submitted (delivered ++ [item]) waiting installed := by
  obtain ⟨sent, begins, balance, complete⟩ := conveyor
  refine ⟨sent, begins, ?_, complete⟩
  rw [List.append_assoc, List.singleton_append, balance]

theorem remove {still : Prop}
    (conveyor : Conveyor image submitted delivered waiting installed)
    (kept : still → installed) :
    Conveyor image submitted delivered waiting still := by
  obtain ⟨sent, begins, balance, complete⟩ := conveyor
  exact ⟨sent, begins, balance, fun present => complete (kept present)⟩

/-- A sender may be installed before the first submission. -/
theorem install {now : Prop}
    (conveyor : Conveyor image [] delivered waiting installed) :
    Conveyor image [] delivered waiting now := by
  obtain ⟨sent, begins, balance, _⟩ := conveyor
  exact ⟨sent, begins, balance, fun _ => List.prefix_nil.mp begins⟩

theorem delivered_begins
    (conveyor : Conveyor image submitted delivered waiting installed) :
    delivered <+: submitted.map image := by
  obtain ⟨sent, begins, balance, _⟩ := conveyor
  have sent_begins : delivered <+: sent.map image :=
    balance ▸ List.prefix_append delivered waiting
  exact sent_begins.trans (begins.map image)

theorem submitted_of_waiting
    (conveyor : Conveyor image submitted delivered waiting installed)
    {item : β} (member : item ∈ waiting) :
    ∃ source ∈ submitted, image source = item := by
  obtain ⟨sent, begins, balance, _⟩ := conveyor
  have imaged : item ∈ sent.map image :=
    balance ▸ List.mem_append_right delivered member
  obtain ⟨source, found, rfl⟩ := List.mem_map.mp imaged
  exact ⟨source, begins.subset found, rfl⟩

end Conveyor

end MoonlightAddon
