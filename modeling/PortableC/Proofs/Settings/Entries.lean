import Mathlib.Data.List.Induction
import PortableC.Proofs.Checks
import PortableC.Proofs.Toml.Keys
import PortableC.Settings.Document

namespace PortableC

/-! Which documents are settings.

Each of seven keys asks for a value of one kind.  Entries with distinct keys are settings when
every key is one of the seven and has a value of its kind, in whatever order they come.  The
entries are looked at one after the other, so the first that does not fit is what is wrong with
any others.
-/

open Toml (Entries Value)
open Toml.Entries (Distinct)

/-- What is listed in a value, as far as it is a sequence.  Tables that headers open one after the
other are one. -/
def Toml.Value.listed? : Value → Option (List Value)
  | .array items => some items
  | .tables elements => some (elements.map (.table .header))
  | _ => none

namespace Settings

variable {entries others : Entries} {entry : String × Value} {key text : String} {value : Value}
  {kind : ExpectedKind} {misfit : Misfit} {settings other after : Settings}

/-- The keys that settings have, with what their values have to be. -/
def documentedKeys : List (String × ExpectedKind) :=
  [("toolchain", .string), ("dialect", .string), ("allocator", .string),
    ("opaque-fn-ref", .boolean), ("header-guard", .string), ("banner", .boolean),
    ("fn-refs", .sequence)]

/-- A message on an unknown key lists the same keys. -/
theorem map_fst_documentedKeys : documentedKeys.map (·.1) = settingsKeys :=
  rfl

/-- The values of a kind.  The sequence that is expected is one of strings. -/
inductive Fits : ExpectedKind → Value → Prop
  | string (text : String) : Fits .string (.string text)
  | boolean (enabled : Bool) : Fits .boolean (.boolean enabled)
  | sequence {value : Value} {texts : List String}
      (listed : value.listed? = some (texts.map .string)) : Fits .sequence value

/-- An entry with a known key and a value of the kind that the key asks for. -/
def Documented (entry : String × Value) : Prop :=
  ∃ kind, (entry.1, kind) ∈ documentedKeys ∧ Fits kind entry.2

/-- A value that is no string where one should be. -/
def NotString (value : Value) (misfit : Misfit) : Prop :=
  (∀ text, value ≠ .string text) ∧ misfit = .wrongKind value.shape .string

/-- What is wrong with a value.  In a sequence it is the first item that is no string. -/
inductive Unfit : ExpectedKind → Value → Misfit → Prop
  | string {value : Value} {misfit : Misfit} (unlike : NotString value misfit) :
      Unfit .string value misfit
  | boolean {value : Value} (unlike : ∀ enabled, value ≠ .boolean enabled) :
      Unfit .boolean value (.wrongKind value.shape .boolean)
  | sequence {value : Value} (unlike : value.listed? = none) :
      Unfit .sequence value (.wrongKind value.shape .sequence)
  | item {value : Value} {items : List Value} {misfit : Misfit}
      (listed : value.listed? = some items) (first : FirstFailure NotString items misfit) :
      Unfit .sequence value misfit

/-- What is wrong with an entry. -/
inductive Offends : String × Value → Misfit → Prop
  | unknownKey {key : String} {value : Value} (unknown : ∀ kind, (key, kind) ∉ documentedKeys) :
      Offends (key, value) (.unknownKey key)
  | value {key : String} {kind : ExpectedKind} {value : Value} {misfit : Misfit}
      (known : (key, kind) ∈ documentedKeys) (unfit : Unfit kind value misfit) :
      Offends (key, value) misfit

/-- Settings with exactly what entries give: a key that is not there leaves its part open, or the
list of signatures empty. -/
structure GivenBy (entries : Entries) (settings : Settings) : Prop where
  toolchain : ∀ name, settings.toolchain = some name ↔ ("toolchain", .string name) ∈ entries
  dialect : ∀ name, settings.dialect = some name ↔ ("dialect", .string name) ∈ entries
  allocator : ∀ name, settings.allocator = some name ↔ ("allocator", .string name) ∈ entries
  handle : ∀ enabled,
    settings.handle = some enabled ↔ ("opaque-fn-ref", .boolean enabled) ∈ entries
  guard : ∀ name, settings.guard = some name ↔ ("header-guard", .string name) ∈ entries
  banner : ∀ enabled, settings.banner = some enabled ↔ ("banner", .boolean enabled) ∈ entries
  signatures : ∀ value, ("fn-refs", value) ∈ entries →
    value.listed? = some (settings.signatures.map .string)
  noSignatures : "fn-refs" ∉ entries.keys → settings.signatures = []

/-! Values. -/

theorem asString_eq_ok_iff : value.asString = .ok text ↔ value = .string text := by
  cases value <;> simp [Value.asString]

theorem asString_eq_error_iff_notString :
    value.asString = .error misfit ↔ NotString value misfit := by
  cases value <;> simp [Value.asString, NotString, eq_comm]

theorem asString_eq_error_iff : value.asString = .error misfit ↔ Unfit .string value misfit := by
  rw [asString_eq_error_iff_notString]
  exact ⟨.string, fun (.string unlike) => unlike⟩

theorem asBoolean_eq_ok_iff {enabled : Bool} :
    value.asBoolean = .ok enabled ↔ value = .boolean enabled := by
  cases value <;> simp [Value.asBoolean]

theorem asBoolean_eq_error_iff : value.asBoolean = .error misfit ↔ Unfit .boolean value misfit := by
  constructor
  · intro failed
    cases value
    case boolean => cases failed
    all_goals
      cases failed
      exact .boolean nofun
  · intro unfit
    cases unfit with
    | boolean unlike =>
        cases value
        case boolean enabled => exact absurd rfl (unlike enabled)
        all_goals rfl

/-- A sequence is read item by item. -/
theorem asStrings_eq (value : Value) :
    value.asStrings = match value.listed? with
      | some items => items.mapM Value.asString
      | none => .error (.wrongKind value.shape .sequence) := by
  cases value
  case tables elements =>
    change _ = (elements.map (.table .header)).mapM Value.asString
    rw [List.mapM_map]
    rfl
  all_goals rfl

theorem mapM_asString_eq_ok_iff {items : List Value} {texts : List String} :
    items.mapM Value.asString = .ok texts ↔ items = texts.map .string := by
  rw [mapM_eq_ok_iff]
  induction items generalizing texts with
  | nil => cases texts <;> simp
  | cons item items induction =>
      cases texts with
      | nil => simp
      | cons text texts => simp [induction, asString_eq_ok_iff]

theorem asStrings_eq_ok_iff {texts : List String} :
    value.asStrings = .ok texts ↔ value.listed? = some (texts.map .string) := by
  rw [asStrings_eq]
  cases value.listed? with
  | none => simp
  | some items => simp [mapM_asString_eq_ok_iff]

theorem asStrings_eq_error_iff :
    value.asStrings = .error misfit ↔ Unfit .sequence value misfit := by
  rw [asStrings_eq]
  cases listed : value.listed? with
  | none =>
      constructor
      · intro failed
        cases failed
        exact .sequence listed
      · intro unfit
        cases unfit with
        | sequence => rfl
        | item found => cases listed.symm.trans found
  | some items =>
      refine (FirstFailure.mapM_iff fun _ _ => asString_eq_error_iff_notString).trans ?_
      constructor
      · intro first
        exact .item listed first
      · intro unfit
        cases unfit with
        | sequence unlike => cases listed.symm.trans unlike
        | item found first =>
            obtain rfl := Option.some.inj (listed.symm.trans found)
            exact first

theorem fits_iff_of_reading {α : Type} {reading : Except Misfit α}
    (passes : Fits kind value ↔ ∃ found, reading = .ok found)
    (fails : ∀ misfit, reading = .error misfit ↔ Unfit kind value misfit) :
    Fits kind value ↔ ∀ misfit, ¬ Unfit kind value misfit := by
  rw [passes, exists_ok_iff]
  exact forall_congr' fun misfit => not_congr (fails misfit)

/-- A value is of a kind when nothing is wrong with it. -/
theorem fits_iff : Fits kind value ↔ ∀ misfit, ¬ Unfit kind value misfit := by
  cases kind with
  | string =>
      apply fits_iff_of_reading _ fun _ => asString_eq_error_iff
      constructor
      · intro fits
        cases fits with
        | string text => exact ⟨text, rfl⟩
      · intro read
        obtain ⟨text, read⟩ := read
        rw [asString_eq_ok_iff.mp read]
        exact .string text
  | boolean =>
      apply fits_iff_of_reading _ fun _ => asBoolean_eq_error_iff
      constructor
      · intro fits
        cases fits with
        | boolean enabled => exact ⟨enabled, rfl⟩
      · intro read
        obtain ⟨enabled, read⟩ := read
        rw [asBoolean_eq_ok_iff.mp read]
        exact .boolean enabled
  | sequence =>
      apply fits_iff_of_reading _ fun _ => asStrings_eq_error_iff
      constructor
      · intro fits
        cases fits with
        | sequence listed => exact ⟨_, asStrings_eq_ok_iff.mpr listed⟩
      · intro read
        obtain ⟨texts, read⟩ := read
        exact .sequence (asStrings_eq_ok_iff.mp read)

/-! Entries. -/

theorem setKey_of_known (known : (key, kind) ∈ documentedKeys) :
    settings.setKey key value = .error misfit ↔ Unfit kind value misfit := by
  simp only [documentedKeys, List.mem_cons, Prod.mk.injEq, List.not_mem_nil, or_false] at known
  rcases known with ⟨rfl, rfl⟩ | ⟨rfl, rfl⟩ | ⟨rfl, rfl⟩ | ⟨rfl, rfl⟩ | ⟨rfl, rfl⟩ | ⟨rfl, rfl⟩ |
    ⟨rfl, rfl⟩
  · exact bind_ok_eq_error_iff.trans asString_eq_error_iff
  · exact bind_ok_eq_error_iff.trans asString_eq_error_iff
  · exact bind_ok_eq_error_iff.trans asString_eq_error_iff
  · exact bind_ok_eq_error_iff.trans asBoolean_eq_error_iff
  · exact bind_ok_eq_error_iff.trans asString_eq_error_iff
  · exact bind_ok_eq_error_iff.trans asBoolean_eq_error_iff
  · exact bind_ok_eq_error_iff.trans asStrings_eq_error_iff

theorem setKey_of_unknown (unknown : ∀ kind, (key, kind) ∉ documentedKeys) :
    settings.setKey key value = .error (.unknownKey key) := by
  unfold setKey
  split
  case h_8 => rfl
  all_goals simp [documentedKeys] at unknown

/-- What is wrong with an entry does not depend on the settings that it comes upon. -/
theorem setKey_eq_error_iff :
    settings.setKey key value = .error misfit ↔ Offends (key, value) misfit := by
  constructor
  · intro failed
    by_cases known : ∃ kind, (key, kind) ∈ documentedKeys
    · obtain ⟨kind, listed⟩ := known
      exact .value listed ((setKey_of_known listed).mp failed)
    · have unknown := not_exists.mp known
      cases (setKey_of_unknown unknown).symm.trans failed
      exact .unknownKey unknown
  · intro offends
    cases offends with
    | unknownKey unknown => exact setKey_of_unknown unknown
    | value known unfit => exact (setKey_of_known known).mpr unfit

theorem documented_iff : Documented entry ↔ ∀ misfit, ¬ Offends entry misfit := by
  obtain ⟨key, value⟩ := entry
  constructor
  · intro documented misfit offends
    obtain ⟨kind, known, fits⟩ := documented
    have failed : setKey {} key value = .error misfit := setKey_eq_error_iff.mpr offends
    exact fits_iff.mp fits misfit ((setKey_of_known known).mp failed)
  · intro sound
    by_cases known : ∃ kind, (key, kind) ∈ documentedKeys
    · obtain ⟨kind, listed⟩ := known
      exact ⟨kind, listed, fits_iff.mpr fun misfit unfit => sound misfit (.value listed unfit)⟩
    · exact absurd (.unknownKey (not_exists.mp known)) (sound _)

/-- An entry with a new key gives one part its value, and the other parts have theirs from the
entries in front of it. -/
theorem GivenBy.setKey (given : GivenBy entries settings) (absent : key ∉ entries.keys)
    (set : settings.setKey key value = .ok after) : GivenBy (entries ++ [(key, value)]) after := by
  have fresh (value : Value) : (key, value) ∉ entries := fun listed =>
    absent (List.mem_map_of_mem listed)
  unfold Settings.setKey at set
  split at set
  case h_8 => cases set
  case h_7 =>
    obtain ⟨texts, read, same⟩ := bind_eq_ok_iff.mp set
    cases same
    have listed := asStrings_eq_ok_iff.mp read
    constructor <;> simp [given.toolchain, given.dialect, given.allocator, given.handle,
      given.guard, given.banner, fresh, listed, Entries.keys]
  -- The other keys take a single string or boolean.
  all_goals
    obtain ⟨found, read, same⟩ := bind_eq_ok_iff.mp set
    cases same
    first | obtain rfl := asString_eq_ok_iff.mp read | obtain rfl := asBoolean_eq_ok_iff.mp read
    constructor
    case signatures => simpa using given.signatures
    case noSignatures => simpa [Entries.keys] using given.noSignatures
    all_goals simp [given.toolchain, given.dialect, given.allocator, given.handle,
      given.guard, given.banner, fresh, eq_comm]

/-- What entries give is all that settings hold. -/
theorem GivenBy.eq (given : GivenBy entries settings) (too : GivenBy entries other) :
    settings = other := by
  have toolchain := Option.ext fun name => (given.toolchain name).trans (too.toolchain name).symm
  have dialect := Option.ext fun name => (given.dialect name).trans (too.dialect name).symm
  have allocator := Option.ext fun name => (given.allocator name).trans (too.allocator name).symm
  have handle := Option.ext fun enabled => (given.handle enabled).trans (too.handle enabled).symm
  have guard := Option.ext fun name => (given.guard name).trans (too.guard name).symm
  have banner := Option.ext fun enabled => (given.banner enabled).trans (too.banner enabled).symm
  have signatures : settings.signatures = other.signatures := by
    by_cases listed : "fn-refs" ∈ entries.keys
    · obtain ⟨⟨key, value⟩, member, isKey⟩ := List.mem_map.mp listed
      obtain rfl : key = "fn-refs" := isKey
      have same := (given.signatures value member).symm.trans (too.signatures value member)
      exact List.map_injective_iff.mpr (fun _ _ => Value.string.inj) (Option.some.inj same)
    · rw [given.noSignatures listed, too.noSignatures listed]
  cases settings
  cases other
  simp only [Settings.mk.injEq]
  exact ⟨toolchain, dialect, allocator, handle, guard, banner, signatures⟩

theorem GivenBy.perm (given : GivenBy entries settings) (same : others.Perm entries) :
    GivenBy others settings where
  toolchain name := (given.toolchain name).trans same.mem_iff.symm
  dialect name := (given.dialect name).trans same.mem_iff.symm
  allocator name := (given.allocator name).trans same.mem_iff.symm
  handle enabled := (given.handle enabled).trans same.mem_iff.symm
  guard name := (given.guard name).trans same.mem_iff.symm
  banner enabled := (given.banner enabled).trans same.mem_iff.symm
  signatures value member := given.signatures value (same.mem_iff.mp member)
  noSignatures absent := given.noSignatures (mt (same.map _).mem_iff.mpr absent)

/-! Documents. -/

theorem ofEntries_concat (entries : Entries) (key : String) (value : Value) :
    ofEntries (entries ++ [(key, value)]) =
      ofEntries entries >>= fun settings => settings.setKey key value := by
  rw [ofEntries, List.foldlM_append, ofEntries]
  simp only [List.foldlM_cons, List.foldlM_nil, bind_pure]

theorem givenBy_of_ofEntries (distinct : Distinct entries)
    (made : ofEntries entries = .ok settings) : GivenBy entries settings := by
  induction entries using List.reverseRecOn generalizing settings with
  | nil =>
      cases made
      constructor <;> simp
  | append_singleton entries entry induction =>
      obtain ⟨key, value⟩ := entry
      rw [ofEntries_concat] at made
      obtain ⟨before, madeBefore, set⟩ := bind_eq_ok_iff.mp made
      rw [Toml.Entries.Distinct, Toml.Entries.keys_append] at distinct
      obtain ⟨distinctBefore, _, apart⟩ := List.nodup_append.mp distinct
      apply (induction distinctBefore madeBefore).setKey _ set
      intro listed
      exact apart key listed key (List.mem_singleton.mpr rfl) rfl

theorem ofEntries_eq_error_iff :
    ofEntries entries = .error misfit ↔ FirstFailure Offends entries misfit := by
  apply FirstFailure.foldlM_iff
  intro settings entry misfit
  exact setKey_eq_error_iff

theorem exists_ofEntries_iff :
    (∃ settings, ofEntries entries = .ok settings) ↔ ∀ entry ∈ entries, Documented entry := by
  rw [exists_ok_iff]
  simp only [documented_iff, ne_eq, ofEntries_eq_error_iff, FirstFailure.not_iff]

theorem ofEntries_perm (distinct : Distinct entries) (same : others.Perm entries)
    (made : ofEntries entries = .ok settings) : ofEntries others = .ok settings := by
  have documented := exists_ofEntries_iff.mp ⟨settings, made⟩
  obtain ⟨settingsToo, madeToo⟩ := exists_ofEntries_iff.mpr fun entry member =>
    documented entry (same.mem_iff.mp member)
  have distinctToo : Distinct others := (same.map _).nodup_iff.mpr distinct
  have given := (givenBy_of_ofEntries distinct made).perm same
  rw [madeToo, (givenBy_of_ofEntries distinctToo madeToo).eq given]

theorem ofText_eq_ok_iff (parsed : Toml.parse? text = some entries) :
    ofText text = .ok settings ↔ ofEntries entries = .ok settings := by
  rw [ofText, parsed]
  cases made : ofEntries entries <;> simp [made]

theorem ofText_eq_error_iff {error : Error} (parsed : Toml.parse? text = some entries) :
    ofText text = .error error ↔
      ∃ misfit, ofEntries entries = .error misfit ∧ error = .settingsMisfit misfit := by
  rw [ofText, parsed]
  cases made : ofEntries entries <;> simp [made, eq_comm]

/-- Entries with distinct keys, which are those that any document has, are settings when each of
them is documented.  The settings are what the entries give, in whatever order they stand.
Otherwise the first entry that offends is reported, with the first thing wrong with it. -/
theorem decoded_iff_documented :
    (∀ entries, Distinct entries →
      ((∃ settings, ofEntries entries = .ok settings) ↔ ∀ entry ∈ entries, Documented entry) ∧
      (∀ settings, ofEntries entries = .ok settings → GivenBy entries settings ∧
        ∀ others : Entries, others.Perm entries → ofEntries others = .ok settings) ∧
      ∀ misfit, ofEntries entries = .error misfit ↔ FirstFailure Offends entries misfit) ∧
    ∀ text entries, Toml.parse? text = some entries → Distinct entries ∧
      (∀ settings, ofText text = .ok settings ↔ ofEntries entries = .ok settings) ∧
      ∀ error, ofText text = .error error ↔
        ∃ misfit, ofEntries entries = .error misfit ∧ error = .settingsMisfit misfit := by
  constructor
  · intro entries distinct
    refine ⟨exists_ofEntries_iff, fun settings made => ?_, fun _ => ofEntries_eq_error_iff⟩
    exact ⟨givenBy_of_ofEntries distinct made, fun _ same => ofEntries_perm distinct same made⟩
  · intro text entries parsed
    have distinct := Toml.distinct_parse? parsed
    exact ⟨distinct, fun _ => ofText_eq_ok_iff parsed, fun _ => ofText_eq_error_iff parsed⟩

/-- A document that may be shuffled, and one whose first mistake is far inside a list and comes
before a key that does not exist. -/
theorem decoded_iff_documented_mistaken :
    let text := "fn-refs = [\"i32(i32)\", 'void()']\nbanner = false\ntoolchain = \"gcc-9\"\n"
    let entries : Entries :=
      [("fn-refs", .array [.string "i32(i32)", .string "void()"]), ("banner", .boolean false),
        ("toolchain", .string "gcc-9")]
    let settings : Settings :=
      { toolchain := some "gcc-9", banner := some false, signatures := ["i32(i32)", "void()"] }
    let mistaken := "allocator = \"malloc\"\nfn-refs = [\"void()\", 5, true]\nbaner = false\n"
    ofText text = .ok settings ∧ ofEntries entries.reverse = .ok settings ∧
      GivenBy entries settings ∧
      ofText mistaken = .error (.settingsMisfit (.wrongKind (.integer 5) .string)) := by
  intro text entries settings mistaken
  obtain ⟨lists, texts⟩ := decoded_iff_documented
  have parsed : Toml.parse? text = some entries := by
    unfold text entries
    rfl
  obtain ⟨distinct, accepted, _⟩ := texts text entries parsed
  have made : ofEntries entries = .ok settings := rfl
  obtain ⟨_, shuffled, _⟩ := lists entries distinct
  obtain ⟨given, anyOrder⟩ := shuffled settings made
  let flawed : Entries :=
    [("allocator", .string "malloc"),
      ("fn-refs", .array [.string "void()", .integer 5, .boolean true]),
      ("baner", .boolean false)]
  have parsedToo : Toml.parse? mistaken = some flawed := by
    unfold mistaken flawed
    rfl
  obtain ⟨distinctToo, _, refused⟩ := texts mistaken flawed parsedToo
  obtain ⟨_, _, first⟩ := lists flawed distinctToo
  have fits : Documented ("allocator", .string "malloc") := ⟨.string, by decide, .string _⟩
  have noString : NotString (.integer 5) (.wrongKind (.integer 5) .string) := ⟨nofun, rfl⟩
  have item : FirstFailure NotString [.string "void()", .integer 5, .boolean true]
      (.wrongKind (.integer 5) .string) :=
    .later (fun _ unlike => unlike.1 _ rfl) (.here noString)
  have failed : ofEntries flawed = .error (.wrongKind (.integer 5) .string) :=
    (first _).mpr (.later (documented_iff.mp fits) (.here (.value (by decide) (.item rfl item))))
  exact ⟨(accepted settings).mpr made, anyOrder _ entries.reverse_perm, given,
    (refused _).mpr ⟨_, failed, rfl⟩⟩

end Settings

end PortableC
