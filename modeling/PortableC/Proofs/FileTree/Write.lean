import PortableC.FileTree
import PortableC.Proofs.Checks

namespace PortableC

/-! Writing changes what stands at one location, and nothing else. -/

namespace FileTree

variable {tree after : FileTree} {location other : Location} {node : FileNode}
variable {path text : String}

/-- The entry with another node, if it is the one of the location. -/
def replaced (location : Location) (node : FileNode) (entry : Location × FileNode) :
    Location × FileNode :=
  if entry.1 == location then (location, node) else entry

theorem replaced_fst (entry : Location × FileNode) :
    (replaced location node entry).1 = entry.1 := by
  rw [replaced]
  split
  next here => exact (beq_iff_eq.mp here).symm
  next => rfl

theorem find?_replaced (entries : List (Location × FileNode)) :
    (entries.map (replaced location node)).find? (·.1 == other) =
      (entries.find? (·.1 == other)).map (replaced location node) := by
  have same : ((·.1 == other) ∘ replaced location node) = (·.1 == other) := by
    funext entry
    rw [Function.comp_apply, replaced_fst]
  rw [List.find?_map, same]

theorem set_eq (tree : FileTree) (location : Location) (node : FileNode) :
    tree.set location node =
      { nodes := if tree.nodes.any (·.1 == location) then tree.nodes.map (replaced location node)
          else tree.nodes ++ [(location, node)] } := by
  rw [set]
  split <;> rfl

theorem node?_set_self (named : location.names ≠ []) :
    (tree.set location node).node? location = some node := by
  rw [node?, if_neg named, set_eq]
  by_cases listed : tree.nodes.any (·.1 == location)
  · obtain ⟨entry, found⟩ :=
      Option.isSome_iff_exists.mp (List.find?_isSome.mpr (List.any_eq_true.mp listed))
    have here : (entry.1 == location) = true := by simpa using List.find?_some found
    rw [if_pos listed, find?_replaced, found, Option.map_some, Option.map_some, replaced,
      if_pos here]
  · have absent : tree.nodes.find? (·.1 == location) = none := by
      rw [List.find?_eq_none]
      exact fun entry member here => listed (List.any_eq_true.mpr ⟨entry, member, here⟩)
    rw [if_neg listed, List.find?_append, absent, Option.none_or, List.find?_singleton,
      if_pos (beq_self_eq_true location), Option.map_some]

theorem node?_set_other (apart : other ≠ location) :
    (tree.set location node).node? other = tree.node? other := by
  rw [node?, node?, set_eq]
  by_cases anchored : other.names = []
  · rw [if_pos anchored, if_pos anchored]
  · rw [if_neg anchored, if_neg anchored]
    refine congrArg _ ?_
    by_cases listed : tree.nodes.any (·.1 == location)
    · rw [if_pos listed, find?_replaced]
      cases found : tree.nodes.find? (·.1 == other) with
      | none => rfl
      | some entry =>
          have there : entry.1 = other := by simpa using List.find?_some found
          have elsewhere : ¬(entry.1 == location) = true := by
            rw [there, beq_iff_eq]
            exact apart
          rw [Option.map_some, replaced, if_neg elsewhere]
    · have elsewhere : ¬(location == other) = true := by
        rw [beq_iff_eq]
        exact apart.symm
      rw [if_neg listed, List.find?_append, List.find?_singleton, if_neg elsewhere,
        Option.or_none]

theorem enter_eq_ok_iff : tree.enter location = .ok () ↔ tree.node? location = some .directory := by
  rw [enter]
  split <;> simp_all

/-- No step of a path starts from what is no directory, so the path leads where it led before. -/
theorem follow_set {start : Location} {steps : List (List Char)} {reached : Location}
    (noDirectory : tree.node? location ≠ some .directory)
    (followed : tree.follow start steps = .ok reached) :
    (tree.set location node).follow start steps = .ok reached := by
  induction steps generalizing start with
  | nil => exact followed
  | cons step rest induction =>
      rw [follow] at followed ⊢
      obtain ⟨⟨⟩, entered, others⟩ := bind_eq_ok_iff.mp followed
      have isDirectory := enter_eq_ok_iff.mp entered
      have apart : start ≠ location := by
        rintro rfl
        exact noDirectory isDirectory
      refine bind_eq_ok_iff.mpr ⟨(), enter_eq_ok_iff.mpr ?_, ?_⟩
      · rw [node?_set_other apart, isDirectory]
      · split at others
        next => cases others
        next fits => rw [if_neg fits, induction others]

/-- What a path must be, and where it must lead, for a text to be written there. -/
theorem writeText_eq_ok_iff : tree.writeText path text = .ok after ↔
    checkPath path = .ok () ∧ Path.endsInSlash path = false ∧
      ∃ location, tree.follow (.start path) (Path.steps path) = .ok location ∧
        tree.node? location ≠ some .directory ∧
        tree.set location (.file (.text text)) = after := by
  rw [writeText, bind_eq_ok_iff]
  constructor
  · rintro ⟨⟨⟩, checked, written⟩
    split at written
    next => cases written
    next noSlash =>
      obtain ⟨location, followed, set⟩ := bind_eq_ok_iff.mp written
      refine ⟨checked, Bool.eq_false_iff.mpr noSlash, location, followed, ?_⟩
      split at set
      next => cases set
      next noDirectory => exact ⟨noDirectory, Except.ok.inj set⟩
  · rintro ⟨checked, slash, location, followed, noDirectory, rfl⟩
    refine ⟨(), checked, ?_⟩
    rw [if_neg (Bool.eq_false_iff.mp slash)]
    refine bind_eq_ok_iff.mpr ⟨location, followed, ?_⟩
    split
    next isDirectory => exact absurd isDirectory noDirectory
    next => rfl

theorem names_of_noDirectory (noDirectory : tree.node? location ≠ some .directory) :
    location.names ≠ [] := by
  intro anchored
  rw [node?, if_pos anchored] at noDirectory
  exact noDirectory rfl

/-- The text stands where the path leads, and all other locations are left alone. -/
theorem writeText_at (written : tree.writeText path text = .ok after) :
    ∃ location, tree.follow (.start path) (Path.steps path) = .ok location ∧
      after.node? location = some (.file (.text text)) ∧
      ∀ other, other ≠ location → after.node? other = tree.node? other := by
  obtain ⟨_, _, location, followed, noDirectory, rfl⟩ := writeText_eq_ok_iff.mp written
  exact ⟨location, followed, node?_set_self (names_of_noDirectory noDirectory),
    fun _ => node?_set_other⟩

/-- A text that was written is read back. -/
theorem readText_writeText (written : tree.writeText path text = .ok after) :
    after.readText path = .ok text := by
  obtain ⟨checked, slash, location, followed, noDirectory, rfl⟩ := writeText_eq_ok_iff.mp written
  rw [readText, checked]
  refine bind_eq_ok_iff.mpr ⟨(), rfl, bind_eq_ok_iff.mpr ⟨location, ?_, ?_⟩⟩
  · exact follow_set noDirectory followed
  · rw [node?_set_self (names_of_noDirectory noDirectory)]
    simp only [slash, Bool.false_eq_true, if_false]

end FileTree

end PortableC
