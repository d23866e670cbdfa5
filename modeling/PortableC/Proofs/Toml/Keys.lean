import Mathlib.Data.List.Nodup
import PortableC.Toml.Document

namespace PortableC.Toml

/-! No key of a document comes twice.

Whatever an expression does to a table, it adds a key that was not there, gives a key another
value, or moves a key to the end.
-/

namespace Entries

variable {entries after : Entries} {key : String} {value : Value}

def keys (entries : Entries) : List String :=
  entries.map (·.1)

def Distinct (entries : Entries) : Prop :=
  entries.keys.Nodup

theorem keys_append (front back : Entries) : keys (front ++ back) = keys front ++ keys back :=
  List.map_append

theorem value?_eq_none_iff : entries.value? key = none ↔ key ∉ entries.keys := by
  rw [value?, Option.map_eq_none_iff, List.find?_eq_none, keys, List.mem_map]
  constructor
  · intro absent found
    obtain ⟨entry, listed, same⟩ := found
    exact absent entry listed (beq_iff_eq.mpr same)
  · intro absent entry listed same
    exact absent ⟨entry, listed, beq_iff_eq.mp same⟩

theorem Distinct.concat (distinct : Distinct entries) (absent : key ∉ entries.keys) :
    Distinct (entries ++ [(key, value)]) := by
  rw [Distinct, keys_append]
  refine List.nodup_append.mpr ⟨distinct, List.nodup_singleton key, ?_⟩
  intro one listed other isKey same
  have isNew : other = key := List.mem_singleton.mp isKey
  rw [same, isNew] at listed
  exact absent listed

theorem keys_replace (entries : Entries) (key : String) (value : Value) :
    (entries.replace key value).keys = entries.keys := by
  rw [keys, replace, List.map_map]
  refine List.map_congr_left fun entry _ => ?_
  simp only [Function.comp_apply]
  split
  next same => exact (beq_iff_eq.mp same).symm
  next => rfl

theorem Distinct.replace (distinct : Distinct entries) (key : String) (value : Value) :
    Distinct (entries.replace key value) := by
  rw [Distinct, keys_replace]
  exact distinct

theorem Distinct.erase_concat (distinct : Distinct entries) (key : String) (value : Value) :
    Distinct (entries.erase key ++ [(key, value)]) := by
  apply Distinct.concat
  · exact (List.filter_sublist.map _).nodup distinct
  · intro listed
    obtain ⟨entry, kept, same⟩ := List.mem_map.mp listed
    exact absurd same (bne_iff_ne.mp (List.mem_filter.mp kept).2)

/-- A change that does not make any key come twice. -/
def KeepsDistinct (change : Origin → Entries → Option Entries) : Prop :=
  ∀ origin entries after, change origin entries = some after → Distinct entries → Distinct after

theorem keepsDistinct_addEntry (dotted : Bool) (key : String) (value : Value) :
    KeepsDistinct (addEntry dotted key value) := by
  intro origin entries after changed distinct
  unfold addEntry at changed
  split at changed
  · cases changed
  · split at changed
    · cases changed
    next absent =>
      cases changed
      apply distinct.concat
      rw [← value?_eq_none_iff]
      simpa using absent

theorem keepsDistinct_openTable (key : String) : KeepsDistinct (openTable key) := by
  intro origin entries after changed distinct
  unfold openTable at changed
  split at changed
  next absent =>
    cases changed
    exact distinct.concat (value?_eq_none_iff.mp absent)
  next =>
    cases changed
    exact distinct.erase_concat key _
  next => cases changed

theorem keepsDistinct_openElement (key : String) : KeepsDistinct (openElement key) := by
  intro origin entries after changed distinct
  unfold openElement at changed
  split at changed
  next absent =>
    cases changed
    exact distinct.concat (value?_eq_none_iff.mp absent)
  next =>
    cases changed
    exact distinct.replace key _
  next => cases changed

/-- A change further down gives one key another value, or adds it. -/
theorem keepsDistinct_modifyAt (made : Origin) (enter : Origin → Bool)
    {change : Origin → Entries → Option Entries} (keeps : KeepsDistinct change)
    (path : List String) : KeepsDistinct (modifyAt made enter change path) := by
  intro origin entries after changed distinct
  cases path with
  | nil => exact keeps origin entries after changed distinct
  | cons key path =>
      unfold modifyAt at changed
      split at changed
      next absent =>
        obtain ⟨child, _, same⟩ := Option.bind_eq_some_iff.mp changed
        cases same
        exact distinct.concat (value?_eq_none_iff.mp absent)
      next =>
        split at changed
        · obtain ⟨child, _, same⟩ := Option.bind_eq_some_iff.mp changed
          cases same
          exact distinct.replace key _
        · cases changed
      next =>
        split at changed
        · cases changed
        · obtain ⟨element, _, same⟩ := Option.bind_eq_some_iff.mp changed
          cases same
          exact distinct.replace key _
      next => cases changed

theorem Distinct.addPair {path : List String} (distinct : Distinct entries)
    (added : entries.addPair path value = some after) : Distinct after := by
  unfold Entries.addPair at added
  split at added
  · cases added
  · exact keepsDistinct_modifyAt _ _ (keepsDistinct_addEntry _ _ _) _ _ _ _ added distinct

theorem Distinct.modifyUnderHeader {change : Origin → Entries → Option Entries}
    {path : List String} (distinct : Distinct entries) (keeps : KeepsDistinct change)
    (changed : entries.modifyUnderHeader change path = some after) : Distinct after :=
  keepsDistinct_modifyAt _ _ keeps path _ _ _ changed distinct

end Entries

open Entries (Distinct)

theorem Draft.distinct_add {draft after : Draft} {expression : Expression}
    (distinct : Distinct draft.entries) (added : draft.add expression = some after) :
    Distinct after.entries := by
  cases expression with
  | pair path value =>
      obtain ⟨entries, changed, same⟩ := Option.bind_eq_some_iff.mp added
      cases same
      exact distinct.modifyUnderHeader (fun _ _ _ added kept => kept.addPair added) changed
  | header path =>
      obtain ⟨⟨front, key⟩, _, others⟩ := Option.bind_eq_some_iff.mp added
      obtain ⟨entries, changed, same⟩ := Option.bind_eq_some_iff.mp others
      cases same
      exact distinct.modifyUnderHeader (Entries.keepsDistinct_openTable key) changed
  | elementHeader path =>
      obtain ⟨⟨front, key⟩, _, others⟩ := Option.bind_eq_some_iff.mp added
      obtain ⟨entries, changed, same⟩ := Option.bind_eq_some_iff.mp others
      cases same
      exact distinct.modifyUnderHeader (Entries.keepsDistinct_openElement key) changed

theorem Draft.distinct_addAll {expressions : List Expression} {draft after : Draft}
    (distinct : Distinct draft.entries) (added : expressions.foldlM Draft.add draft = some after) :
    Distinct after.entries := by
  induction expressions generalizing draft with
  | nil =>
      cases added
      exact distinct
  | cons expression expressions induction =>
      rw [List.foldlM_cons] at added
      obtain ⟨next, first, others⟩ := Option.bind_eq_some_iff.mp added
      exact induction (Draft.distinct_add distinct first) others

theorem distinct_parse? {text : String} {entries : Entries}
    (parsed : parse? text = some entries) : Distinct entries := by
  obtain ⟨expressions, _, others⟩ := Option.bind_eq_some_iff.mp parsed
  obtain ⟨draft, added, same⟩ := Option.bind_eq_some_iff.mp others
  cases same
  have start : Distinct ({} : Draft).entries := List.nodup_nil
  exact Draft.distinct_addAll start added

end PortableC.Toml
