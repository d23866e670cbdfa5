import PortableC.Compiler
import PortableC.Proofs.Checks
import PortableC.Proofs.Decimal.Numeral
import PortableC.Proofs.Text.Trim

namespace PortableC

/-! Which texts name a compiler.

A text is looked up in small letters and without the blanks around it.  A few names stand for a
compiler as they are; the others give the version of a GNU compiler, with a plus sign or zeros in
front of it.  Nothing else is a name, and what is no name is refused the way it was given.
-/

namespace Compiler

variable {name text : String} {numeral chars : List Char} {major : UInt32} {compiler : Compiler}
  {error : Error}

/-- What is looked up for a text. -/
def lookedUp (text : String) : String :=
  (Text.trimmed text).map Char.toLower

def plainNames : List String :=
  ["msvc", "cl", "gnu", "gcc", "clang"]

/-- A name that gives the version of a GNU compiler. -/
def Versioned (name : String) (major : UInt32) : Prop :=
  ∃ family sign digits, (family = "gnu-" ∨ family = "gcc-") ∧ (sign = "" ∨ sign = "+") ∧
    Decimal.Numeral digits major.toNat ∧ name.toList = family.toList ++ (sign.toList ++ digits)

/-- What each name stands for. -/
inductive Named : String → Compiler → Prop
  | msvc {name : String} (isMsvc : name = "msvc" ∨ name = "cl") : Named name .msvc
  | gnu {name : String} (isGnu : name = "gnu" ∨ name = "gcc") : Named name (.gnu 3)
  | clang : Named "clang" (.gnu 4)
  | version {name : String} {major : UInt32} (versioned : Versioned name major) :
      Named name (.gnu major)

/-! Versions. -/

theorem readMajor_iff :
    (Decimal.readBelow? UInt32.size numeral).map UInt32.ofNat = some major ↔
      ∃ sign digits, (sign = "" ∨ sign = "+") ∧ numeral = sign.toList ++ digits ∧
        Decimal.Numeral digits major.toNat := by
  constructor
  · intro read
    obtain ⟨value, found, same⟩ := Option.map_eq_some_iff.mp read
    obtain ⟨sign, digits, isSign, cut, written, below⟩ := Decimal.readBelow?_eq_some_iff.mp found
    have counted : major.toNat = value := by
      rw [← same]
      exact UInt32.toNat_ofNat_of_lt below
    exact ⟨sign, digits, isSign, cut, counted ▸ written⟩
  · intro given
    obtain ⟨sign, digits, isSign, cut, written⟩ := given
    have read : Decimal.readBelow? UInt32.size numeral = some major.toNat :=
      Decimal.readBelow?_eq_some_iff.mpr ⟨sign, digits, isSign, cut, written, major.toNat_lt⟩
    rw [read, Option.map_some, UInt32.ofNat_toNat]

theorem versionedMajor?_eq_some_iff :
    versionedMajor? name.toList = some major ↔ Versioned name major := by
  constructor
  · intro read
    unfold versionedMajor? at read
    split at read
    · next numeral whole =>
        obtain ⟨sign, digits, isSign, cut, written⟩ := readMajor_iff.mp read
        refine ⟨"gnu-", sign, digits, .inl rfl, isSign, written, ?_⟩
        rw [whole, cut]
        rfl
    · next numeral whole =>
        obtain ⟨sign, digits, isSign, cut, written⟩ := readMajor_iff.mp read
        refine ⟨"gcc-", sign, digits, .inr rfl, isSign, written, ?_⟩
        rw [whole, cut]
        rfl
    · cases read
  · intro versioned
    obtain ⟨family, sign, digits, isFamily, isSign, written, whole⟩ := versioned
    have read := readMajor_iff.mpr ⟨sign, digits, isSign, rfl, written⟩
    rw [whole]
    rcases isFamily with isGnu | isGcc
    · rw [isGnu]
      exact read
    · rw [isGcc]
      exact read

/-- No plain name has a hyphen. -/
theorem Versioned.not_plain (versioned : Versioned name major) : name ∉ plainNames := by
  intro plain
  have unhyphened : ∀ plain ∈ plainNames, '-' ∉ plain.toList := by decide
  apply unhyphened name plain
  obtain ⟨family, sign, digits, isFamily, isSign, written, whole⟩ := versioned
  rw [whole]
  apply List.mem_append_left
  rcases isFamily with isGnu | isGcc
  · rw [isGnu]
    decide
  · rw [isGcc]
    decide

/-! Looking up. -/

theorem ofLowerCase?_eq_some_iff : ofLowerCase? name = some compiler ↔ Named name compiler := by
  constructor
  · intro found
    unfold ofLowerCase? at found
    split at found
    · cases found
      exact .msvc (.inl rfl)
    · cases found
      exact .msvc (.inr rfl)
    · cases found
      exact .gnu (.inl rfl)
    · cases found
      exact .gnu (.inr rfl)
    · cases found
      exact .clang
    · obtain ⟨major, read, rfl⟩ := Option.map_eq_some_iff.mp found
      exact .version (versionedMajor?_eq_some_iff.mp read)
  · intro named
    cases named with
    | msvc isMsvc =>
        rcases isMsvc with rfl | rfl <;> rfl
    | gnu isGnu =>
        rcases isGnu with rfl | rfl <;> rfl
    | clang => rfl
    | version versioned =>
        have read := versionedMajor?_eq_some_iff.mpr versioned
        have other := versioned.not_plain
        simp only [plainNames, List.mem_cons, List.not_mem_nil, or_false, not_or] at other
        unfold ofLowerCase?
        split
        case h_6 => rw [read, Option.map_some]
        all_goals simp at other

theorem parse_eq_ok_iff : parse text = .ok compiler ↔ Named (lookedUp text) compiler := by
  rw [← ofLowerCase?_eq_some_iff, parse, lookedUp]
  cases ofLowerCase? ((Text.trimmed text).map Char.toLower) <;> simp

theorem parse_eq_error_iff :
    parse text = .error error ↔
      (∀ compiler, ¬ Named (lookedUp text) compiler) ∧ error = .unknownToolchain text := by
  simp only [← ofLowerCase?_eq_some_iff, parse, lookedUp]
  cases ofLowerCase? ((Text.trimmed text).map Char.toLower) <;> simp [eq_comm]

/-! Supported toolchains. -/

theorem exists_toolchain_gnu_iff :
    (∃ toolchain, (Compiler.gnu major).toolchain = .ok toolchain) ↔ 3 ≤ major := by
  unfold toolchain leastGnuMajor
  by_cases recent : 3 ≤ major
  · simp [recent]
  · simp [recent]

theorem exists_supported_iff :
    (∃ compiler, Named name compiler ∧ ∃ toolchain, compiler.toolchain = .ok toolchain) ↔
      name ∈ plainNames ∨ ∃ major, 3 ≤ major ∧ Versioned name major := by
  constructor
  · intro supported
    obtain ⟨compiler, named, resolves⟩ := supported
    cases named with
    | msvc isMsvc =>
        left
        rcases isMsvc with rfl | rfl <;> decide
    | gnu isGnu =>
        left
        rcases isGnu with rfl | rfl <;> decide
    | clang =>
        left
        decide
    | @version _ major versioned =>
        right
        exact ⟨major, exists_toolchain_gnu_iff.mp resolves, versioned⟩
  · intro known
    rcases known with plain | ⟨major, recent, versioned⟩
    · simp only [plainNames, List.mem_cons, List.not_mem_nil, or_false] at plain
      have gnu (major : UInt32) (recent : 3 ≤ major) := exists_toolchain_gnu_iff.mpr recent
      rcases plain with isMsvc | isCl | isGnu | isGcc | isClang
      · exact ⟨.msvc, .msvc (.inl isMsvc), .msvc, rfl⟩
      · exact ⟨.msvc, .msvc (.inr isCl), .msvc, rfl⟩
      · exact ⟨.gnu 3, .gnu (.inl isGnu), gnu 3 (by decide)⟩
      · exact ⟨.gnu 3, .gnu (.inr isGcc), gnu 3 (by decide)⟩
      · exact ⟨.gnu 4, isClang ▸ .clang, gnu 4 (by decide)⟩
    · exact ⟨.gnu major, .version versioned, exists_toolchain_gnu_iff.mpr recent⟩

theorem parse_supported_iff :
    (∃ toolchain, parse text >>= Compiler.toolchain = .ok toolchain) ↔
      lookedUp text ∈ plainNames ∨ ∃ major, 3 ≤ major ∧ Versioned (lookedUp text) major := by
  rw [← exists_supported_iff]
  simp only [bind_eq_ok_iff, parse_eq_ok_iff]
  exact ⟨fun ⟨toolchain, compiler, named, resolved⟩ => ⟨compiler, named, toolchain, resolved⟩,
    fun ⟨compiler, named, toolchain, resolved⟩ => ⟨toolchain, compiler, named, resolved⟩⟩

/-! Spellings. -/

/-- The characters that a look-up leaves alone. -/
def isKept (char : Char) : Bool :=
  !Text.isBlank char && char.toLower == char

theorem lookedUp_eq_self (kept : text.toList.all isKept = true) : lookedUp text = text := by
  have each : ∀ char ∈ text.toList, Text.isBlank char = false ∧ char.toLower = char := by
    intro char member
    simpa [isKept] using List.all_eq_true.mp kept char member
  have visible := Text.trim_of_visible fun char member => (each char member).1
  have small := List.map_congr_left fun char member => (each char member).2
  apply String.toList_injective
  rw [lookedUp, String.toList_map, Text.toList_trimmed, visible]
  exact small.trans (List.map_id _)

theorem isKept_of_isDigit {digit : Char} (isDigit : digit.isDigit = true) :
    isKept digit = true := by
  have visible : Text.isBlank digit = false := by
    apply Text.isBlank_of_isAlphanum
    rw [Char.isAlphanum, isDigit, Bool.or_true]
  have small : digit.toLower = digit := by
    unfold Char.toLower
    split
    next upper =>
      simp [Char.isDigit, UInt32.le_iff_toNat_le] at isDigit upper
      omega
    next => rfl
  rw [isKept, visible, small, beq_self_eq_true]
  rfl

theorem toList_spelling_gnu (major : UInt32) :
    (Compiler.gnu major).spelling.toList = "gnu-".toList ++ Nat.toDigits 10 major.toNat := by
  have digits : (toString major.toNat).toList = Nat.toDigits 10 major.toNat := by
    rw [Nat.toString_eq_ofList_toDigits, String.toList_ofList]
  rw [spelling, String.toList_append, digits]

theorem lookedUp_spelling_gnu (major : UInt32) :
    lookedUp (Compiler.gnu major).spelling = (Compiler.gnu major).spelling := by
  apply lookedUp_eq_self
  rw [toList_spelling_gnu, List.all_append, Bool.and_eq_true]
  refine ⟨by decide, List.all_eq_true.mpr fun digit member => isKept_of_isDigit ?_⟩
  exact (Decimal.numeral_toDigits major.toNat).decimal digit member

theorem versioned_spelling (major : UInt32) : Versioned (Compiler.gnu major).spelling major :=
  ⟨"gnu-", "", Nat.toDigits 10 major.toNat, .inl rfl, .inl rfl, Decimal.numeral_toDigits _,
    toList_spelling_gnu major⟩

theorem parse_spelling_unknown :
    parse Compiler.unknown.spelling = .error (.unknownToolchain "unknown") := by
  decide +kernel

theorem parse_spelling_iff : parse compiler.spelling = .ok compiler ↔ compiler ≠ .unknown := by
  cases compiler with
  | msvc => exact iff_of_true (by decide +kernel) nofun
  | gnu major =>
      refine iff_of_true (parse_eq_ok_iff.mpr ?_) nofun
      rw [lookedUp_spelling_gnu]
      exact .version (versioned_spelling major)
  | unknown =>
      rw [parse_spelling_unknown]
      exact iff_of_false nofun fun known => known rfl

/-- A text is read as a compiler exactly when it is one of its names, and any other text is
refused and shown as it is.  The numerals of a version are its digits, behind any number of zeros.
Reading undoes writing, except that no name is written for an unknown compiler.  A supported
toolchain comes of the plain names and of the versions from 3 on. -/
theorem parse_iff_named :
    (∀ text compiler, parse text = .ok compiler ↔ Named (lookedUp text) compiler) ∧
    (∀ text error, parse text = .error error ↔
      (∀ compiler, ¬ Named (lookedUp text) compiler) ∧ error = .unknownToolchain text) ∧
    (∀ digits value, Decimal.Numeral digits value ↔
      ∃ count, digits = List.replicate count '0' ++ Nat.toDigits 10 value) ∧
    (∀ compiler : Compiler, parse compiler.spelling = .ok compiler ↔ compiler ≠ .unknown) ∧
    parse Compiler.unknown.spelling = .error (.unknownToolchain "unknown") ∧
    ∀ text, (∃ toolchain, parse text >>= Compiler.toolchain = .ok toolchain) ↔
      lookedUp text ∈ plainNames ∨ ∃ major, 3 ≤ major ∧ Versioned (lookedUp text) major :=
  ⟨fun _ _ => parse_eq_ok_iff, fun _ _ => parse_eq_error_iff, fun _ _ => Decimal.numeral_iff,
    fun _ => parse_spelling_iff, parse_spelling_unknown, fun _ => parse_supported_iff⟩

example : parse "\tGCC-+0012 " = .ok (.gnu 12) := by
  decide +kernel

end Compiler

end PortableC
