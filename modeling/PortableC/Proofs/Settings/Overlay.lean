import Mathlib.Data.List.Induction
import PortableC.Settings

namespace PortableC

/-! Settings in layers.

It does not matter in which order layers are put together, as long as each stays where it is, and
settings that leave everything open are no layer at all.  So any number of layers comes to one:
for each part the uppermost layer that sets it has its way, and the signatures of all layers are
listed from the bottom up.
-/

namespace Settings

variable {α : Type} {part : Settings → Option α} {layers : List Settings} {value : α}

theorem overlay_assoc (lower middle upper : Settings) :
    (lower.overlay middle).overlay upper = lower.overlay (middle.overlay upper) := by
  simp only [overlay, Option.or_assoc, List.append_assoc]

theorem open_overlay (settings : Settings) : overlay {} settings = settings := by
  simp only [overlay, Option.or_none, List.nil_append]

theorem overlay_open (settings : Settings) : settings.overlay {} = settings := by
  simp only [overlay, Option.none_or, List.append_nil]

theorem overlayAll_concat (layers : List Settings) (layer : Settings) :
    overlayAll (layers ++ [layer]) = (overlayAll layers).overlay layer :=
  List.foldl_append

/-- A part of settings that a layer may set or leave open. -/
structure IsPart (part : Settings → Option α) : Prop where
  start : part {} = none
  overlay : ∀ lower upper : Settings, part (lower.overlay upper) = (part upper).or (part lower)

/-- Among the layers, the uppermost one that sets a part gives its value. -/
structure UppermostWins (part : Settings → Option α) (layers : List Settings) : Prop where
  value : ∀ value, part (overlayAll layers) = some value ↔
    ∃ below layer above, layers = below ++ layer :: above ∧ part layer = some value ∧
      ∀ upper ∈ above, part upper = none
  unset : part (overlayAll layers) = none ↔ ∀ layer ∈ layers, part layer = none

/-- Seen from above, the first layer that sets the part. -/
theorem IsPart.overlayAll_eq (isPart : IsPart part) (layers : List Settings) :
    part (overlayAll layers) = layers.reverse.findSome? part := by
  induction layers using List.reverseRecOn with
  | nil => exact isPart.start
  | append_singleton layers layer induction =>
      rw [overlayAll_concat, isPart.overlay, induction, List.reverse_concat, List.findSome?_cons]
      cases part layer <;> rfl

theorem IsPart.uppermostWins (isPart : IsPart part) (layers : List Settings) :
    UppermostWins part layers where
  value value := by
    rw [isPart.overlayAll_eq, List.findSome?_eq_some_iff]
    constructor
    · intro found
      obtain ⟨above, layer, below, cut, sets, unset⟩ := found
      refine ⟨below.reverse, layer, above.reverse, ?_, sets, ?_⟩
      · rw [← List.reverse_reverse layers, cut]
        simp
      · intro upper member
        exact unset upper (List.mem_reverse.mp member)
    · intro found
      obtain ⟨below, layer, above, cut, sets, unset⟩ := found
      refine ⟨above.reverse, layer, below.reverse, ?_, sets, ?_⟩
      · rw [cut]
        simp
      · intro upper member
        exact unset upper (List.mem_reverse.mp member)
  unset := by
    rw [isPart.overlayAll_eq, List.findSome?_eq_none_iff]
    simp only [List.mem_reverse]

theorem signatures_overlayAll (layers : List Settings) :
    (overlayAll layers).signatures = layers.flatMap (·.signatures) := by
  induction layers using List.reverseRecOn with
  | nil => rfl
  | append_singleton layers layer induction =>
      rw [overlayAll_concat, List.flatMap_append, ← induction, List.flatMap_singleton]
      rfl

/-- Layers may be put together in any grouping, and one that leaves everything open changes
nothing.  Of any number of layers, the uppermost that sets a part gives its value, and the
signatures of all of them follow one another. -/
theorem layers_compose :
    (∀ lower middle upper : Settings,
      (lower.overlay middle).overlay upper = lower.overlay (middle.overlay upper)) ∧
    (∀ settings : Settings, overlay {} settings = settings ∧ settings.overlay {} = settings) ∧
    ∀ layers : List Settings,
      UppermostWins (·.toolchain) layers ∧ UppermostWins (·.dialect) layers ∧
      UppermostWins (·.allocator) layers ∧ UppermostWins (·.handle) layers ∧
      UppermostWins (·.guard) layers ∧ UppermostWins (·.banner) layers ∧
      (overlayAll layers).signatures = layers.flatMap (·.signatures) := by
  refine ⟨overlay_assoc, fun settings => ⟨open_overlay settings, overlay_open settings⟩, ?_⟩
  intro layers
  have toolchain : IsPart (·.toolchain) := ⟨rfl, fun _ _ => rfl⟩
  have dialect : IsPart (·.dialect) := ⟨rfl, fun _ _ => rfl⟩
  have allocator : IsPart (·.allocator) := ⟨rfl, fun _ _ => rfl⟩
  have handle : IsPart (·.handle) := ⟨rfl, fun _ _ => rfl⟩
  have guard : IsPart (·.guard) := ⟨rfl, fun _ _ => rfl⟩
  have banner : IsPart (·.banner) := ⟨rfl, fun _ _ => rfl⟩
  exact ⟨toolchain.uppermostWins layers, dialect.uppermostWins layers,
    allocator.uppermostWins layers, handle.uppermostWins layers, guard.uppermostWins layers,
    banner.uppermostWins layers, signatures_overlayAll layers⟩

end Settings

end PortableC
