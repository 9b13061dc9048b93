/-
**Base URLs and versions.** `core/src/urls.rs`: a caller's base URL carries the host and the path prefix,
and `with_version` puts the version behind it.

* `trailingVersionSegment` — the parser of the last segment, written by hand;
* `versionSegment` — the regular expression of the official SDKs it stands for;
* `withVersion_exact` — the bases refused are those the expression matches at the end, the refusal names the
  segment and the prefix, and no URL is given two versions.

Texts are lists of characters where they are cut; a character that is not ASCII has no digit among its
bytes, so the byte test of the source is a test of characters.
-/

import Mathlib.Computability.RegularExpressions
import Mathlib.Data.List.DropRight
import Mathlib.Tactic.FinCases
import Mathlib.Tactic.IntervalCases
import FugleMarketdata.Errors
import FugleMarketdata.Lib.Cutting

namespace FugleMarketdata.Urls

open Errors Cutting RegularExpression

/-! ### The source's functions -/

/-- The trailing `/vMAJOR.MINOR` segment of `s`, if it has one. -/
def trailingVersionSegment (s : List Char) : Option (List Char) := do
  let slash ← rfind '/' s
  let segment := s.drop slash
  let body ← segment.dropPrefix? ['/', 'v']
  let (major, minor) ← splitOnce '.' body
  let numeric := fun part : List Char => !part.isEmpty && part.all Char.isDigit
  if numeric major && numeric minor then some segment else none

/-- How a binding words the refusal: the option's name, and the sentence that ends the message. -/
structure BaseUrlWording where
  option : String
  versionHint : String
  deriving DecidableEq, Repr

/-- The message of a base that already ends in the version segment `existing`. -/
def BaseUrlWording.refusal (wording : BaseUrlWording) (existing pathPrefix : String) : String :=
  wording.option ++ " must not include a version segment (found '" ++ existing ++
    "'). Pass the host and path prefix only: '" ++ pathPrefix ++ "'." ++
    (if wording.versionHint = "" then "" else " " ++ wording.versionHint)

def withVersionWorded (base version : String) (wording : BaseUrlWording) :
    Except MarketDataError String :=
  let trimmed := base.toList.rdropWhile (· = '/')
  match trailingVersionSegment trimmed with
  | some existing =>
    let pathPrefix := trimmed.take (trimmed.length - existing.length)
    .error (.configError (wording.refusal (String.ofList existing) (String.ofList pathPrefix)))
  | none => .ok (String.ofList trimmed ++ "/" ++ version)

/-- `base` with the version behind it, in Rust's terms. -/
def withVersion (base version hint : String) : Except MarketDataError String :=
  withVersionWorded base version { option := "base_url", versionHint := hint }

/-! ### The regular expression -/

/-- `[0-9]`. -/
def digit : RegularExpression Char :=
  ['0', '1', '2', '3', '4', '5', '6', '7', '8', '9'].foldr (fun c rest => char c + rest) 0

/-- `[0-9]+`. -/
def digits : RegularExpression Char := digit * digit.star

/-- `v[0-9]+\.[0-9]+`. -/
def versionForm : RegularExpression Char := char 'v' * digits * char '.' * digits

/-- `/v[0-9]+\.[0-9]+`. -/
def versionSegment : RegularExpression Char := char '/' * versionForm

/-- `/v[0-9]+\.[0-9]+$` matches the text: the text ends with a segment of that form. -/
def EndsInVersion (text : List Char) : Prop :=
  ∃ pathPrefix segment, text = pathPrefix ++ segment ∧ segment ∈ versionSegment.matches'

/-- One digit or more. -/
def Numeric (part : List Char) : Prop := part ≠ [] ∧ ∀ c ∈ part, c.isDigit = true

theorem mem_charset (charset : List Char) {text : List Char} :
    text ∈ (charset.foldr (fun c rest => char c + rest) 0).matches' ↔ ∃ c ∈ charset, text = [c] := by
  induction charset with
  | nil => exact ⟨fun member => member.elim, fun ⟨c, member, _⟩ => by cases member⟩
  | cons first rest ih =>
    rw [List.foldr_cons, matches'_add, Language.mem_add, ih, List.exists_mem_cons_iff]
    rfl

theorem isDigit_iff (c : Char) :
    c.isDigit = true ↔ c ∈ ['0', '1', '2', '3', '4', '5', '6', '7', '8', '9'] := by
  constructor
  · intro isDigit
    obtain ⟨low, high⟩ : 48 ≤ c.toNat ∧ c.toNat ≤ 57 := by
      simpa [Char.isDigit, UInt32.le_iff_toNat_le] using isDigit
    rw [← Char.ofNat_toNat c]
    generalize c.toNat = code at low high
    interval_cases code <;> decide
  · intro member
    fin_cases member <;> rfl

theorem mem_digit {text : List Char} : text ∈ digit.matches' ↔ ∃ c, c.isDigit = true ∧ text = [c] := by
  rw [digit, mem_charset]
  exact exists_congr fun c => and_congr_left fun _ => (isDigit_iff c).symm

theorem mem_star_digit {text : List Char} :
    text ∈ digit.star.matches' ↔ ∀ c ∈ text, c.isDigit = true := by
  rw [matches'_star, Language.mem_kstar]
  constructor
  · rintro ⟨parts, rfl, each⟩ c member
    obtain ⟨part, inParts, inPart⟩ := List.mem_flatten.mp member
    obtain ⟨only, isDigit, rfl⟩ := mem_digit.mp (each part inParts)
    exact List.mem_singleton.mp inPart ▸ isDigit
  · intro each
    refine ⟨text.map fun c => [c], by rw [← List.flatMap_def, List.flatMap_singleton'],
      fun part member => ?_⟩
    obtain ⟨c, inText, rfl⟩ := List.mem_map.mp member
    exact mem_digit.mpr ⟨c, each c inText, rfl⟩

theorem mem_digits {text : List Char} : text ∈ digits.matches' ↔ Numeric text := by
  rw [digits, matches'_mul, Language.mem_mul]
  constructor
  · rintro ⟨first, single, rest, more, rfl⟩
    obtain ⟨c, isDigit, rfl⟩ := mem_digit.mp single
    refine ⟨List.cons_ne_nil c rest, fun other member => ?_⟩
    rcases List.mem_cons.mp member with rfl | later
    · exact isDigit
    · exact mem_star_digit.mp more other later
  · rintro ⟨nonempty, each⟩
    cases text with
    | nil => exact absurd rfl nonempty
    | cons c rest =>
      exact ⟨[c], mem_digit.mpr ⟨c, each c List.mem_cons_self, rfl⟩, rest,
        mem_star_digit.mpr fun other member => each other (List.mem_cons_of_mem c member), rfl⟩

theorem mem_versionForm {text : List Char} : text ∈ versionForm.matches' ↔
    ∃ major minor, text = 'v' :: major ++ '.' :: minor ∧ Numeric major ∧ Numeric minor := by
  simp only [versionForm, matches'_mul, Language.mem_mul, mem_digits]
  constructor
  · rintro ⟨_, ⟨_, ⟨_, rfl, major, numeric, rfl⟩, _, rfl, rfl⟩, minor, numericToo, rfl⟩
    exact ⟨major, minor, by simp, numeric, numericToo⟩
  · rintro ⟨major, minor, rfl, numeric, numericToo⟩
    exact ⟨_, ⟨_, ⟨['v'], rfl, major, numeric, rfl⟩, ['.'], rfl, rfl⟩, minor, numericToo, by simp⟩

theorem mem_versionSegment {text : List Char} :
    text ∈ versionSegment.matches' ↔ ∃ body ∈ versionForm.matches', text = '/' :: body := by
  rw [versionSegment, matches'_mul, Language.mem_mul]
  constructor
  · rintro ⟨_, rfl, body, form, rfl⟩
    exact ⟨body, form, rfl⟩
  · rintro ⟨body, form, rfl⟩
    exact ⟨['/'], rfl, body, form, rfl⟩

/-! ### The parser is the expression -/

theorem Numeric.not_mem {part : List Char} (numeric : Numeric part) {c : Char}
    (other : c.isDigit = false) : c ∉ part := by
  intro member
  rw [numeric.2 c member] at other
  cases other

/-- A version has no slash in it. -/
theorem slash_not_mem {text : List Char} (form : text ∈ versionForm.matches') : '/' ∉ text := by
  obtain ⟨major, minor, rfl, numeric, numericToo⟩ := mem_versionForm.mp form
  have majorClean : '/' ∉ major := numeric.not_mem rfl
  have minorClean : '/' ∉ minor := numericToo.not_mem rfl
  simp [majorClean, minorClean]

theorem numeric_iff (part : List Char) :
    (!part.isEmpty && part.all Char.isDigit) = true ↔ Numeric part := by
  simp [Numeric]

/-- **The parser finds the segment the expression matches**, and no other. -/
theorem trailingVersionSegment_eq_some {text segment : List Char} :
    trailingVersionSegment text = some segment ↔
      ∃ pathPrefix, text = pathPrefix ++ segment ∧ segment ∈ versionSegment.matches' := by
  constructor
  · intro found
    simp only [trailingVersionSegment, Option.bind_eq_bind, Option.bind_eq_some_iff] at found
    obtain ⟨slash, -, body, dropped, ⟨major, minor⟩, cut, found⟩ := found
    obtain ⟨both, same⟩ := Option.ite_none_right_eq_some.mp found
    cases same
    obtain ⟨numeric, numericToo⟩ := Bool.and_eq_true_iff.mp both
    obtain ⟨start, whole, same⟩ := List.dropPrefix?_eq_some_iff.mp dropped
    obtain ⟨rfl, -⟩ := splitOnce_eq_some.mp cut
    rw [beq_iff_eq] at same
    refine ⟨text.take slash, (List.take_append_drop slash text).symm, mem_versionSegment.mpr
      ⟨'v' :: major ++ '.' :: minor, mem_versionForm.mpr ⟨major, minor, rfl,
        (numeric_iff major).mp numeric, (numeric_iff minor).mp numericToo⟩, ?_⟩⟩
    rw [whole, same]
    rfl
  · rintro ⟨pathPrefix, rfl, matched⟩
    obtain ⟨body, form, rfl⟩ := mem_versionSegment.mp matched
    have clean := slash_not_mem form
    obtain ⟨major, minor, rfl, numeric, numericToo⟩ := mem_versionForm.mp form
    have dropped : List.dropPrefix? ('/' :: ('v' :: major ++ '.' :: minor)) ['/', 'v'] =
        some (major ++ '.' :: minor) :=
      List.dropPrefix?_eq_some_iff.mpr ⟨['/', 'v'], rfl, beq_self_eq_true _⟩
    have cut := splitOnce_append (numeric.not_mem (c := '.') rfl) minor
    simp only [trailingVersionSegment, Option.bind_eq_bind, rfind_append pathPrefix clean,
      Option.bind_some, List.drop_left, dropped, cut, (numeric_iff major).mpr numeric,
      (numeric_iff minor).mpr numericToo, Bool.and_self, if_true]

theorem trailingVersionSegment_eq_none {text : List Char} :
    trailingVersionSegment text = none ↔ ¬ EndsInVersion text := by
  rw [← not_iff_not, not_not, ← ne_eq, Option.ne_none_iff_exists']
  constructor
  · rintro ⟨segment, found⟩
    obtain ⟨pathPrefix, whole, matched⟩ := trailingVersionSegment_eq_some.mp found
    exact ⟨pathPrefix, segment, whole, matched⟩
  · rintro ⟨pathPrefix, segment, whole, matched⟩
    exact ⟨segment, trailingVersionSegment_eq_some.mpr ⟨pathPrefix, whole, matched⟩⟩

/-! ### Joining -/

section Joining

variable (base version : String) (wording : BaseUrlWording)

/-- The base with its trailing slashes removed. -/
def trimmed : List Char := base.toList.rdropWhile (· = '/')

theorem trimmed_spec : ∃ slashes, base.toList = trimmed base ++ List.replicate slashes '/' := by
  have slashes : ∀ c ∈ base.toList.rtakeWhile (· = '/'), c = '/' := by
    intro c member
    exact of_decide_eq_true (List.mem_rtakeWhile_imp (p := fun c => decide (c = '/')) member)
  refine ⟨(base.toList.rtakeWhile (· = '/')).length, ?_⟩
  rw [← List.eq_replicate_of_mem slashes, trimmed, List.rdropWhile_append_rtakeWhile]

theorem trimmed_getLast? : (trimmed base).getLast? ≠ some '/' := by
  intro slash
  obtain ⟨start, whole⟩ := List.getLast?_eq_some_iff.mp slash
  have still := List.rdropWhile_idempotent (· = '/') base.toList
  rw [trimmed] at whole
  rw [whole, List.rdropWhile_concat_pos _ _ _ (by decide)] at still
  have shorter := (List.rdropWhile_prefix (· = '/') start).length_le
  rw [still, List.length_append, List.length_singleton] at shorter
  omega

variable {base} in
/-- The slashes behind a text that does not end with one. -/
theorem trimmed_eq {text : List Char} {slashes : Nat}
    (whole : base.toList = text ++ List.replicate slashes '/') (solid : text.getLast? ≠ some '/') :
    trimmed base = text := by
  rw [trimmed, whole]
  clear whole
  induction slashes with
  | zero =>
    rw [List.replicate_zero, List.append_nil, List.rdropWhile_eq_self_iff]
    intro nonempty last
    exact solid (by rw [List.getLast?_eq_some_getLast nonempty, of_decide_eq_true last])
  | succ slashes ih =>
    rw [List.replicate_succ', ← List.append_assoc,
      List.rdropWhile_concat_pos _ _ _ (by decide), ih]

variable {base}

theorem withVersionWorded_of_matches {pathPrefix segment : List Char}
    (ends : trimmed base = pathPrefix ++ segment) (matched : segment ∈ versionSegment.matches') :
    withVersionWorded base version wording = .error (.configError
      (wording.refusal (String.ofList segment) (String.ofList pathPrefix))) := by
  have found := trailingVersionSegment_eq_some.mpr ⟨pathPrefix, ends, matched⟩
  have before : (trimmed base).take ((trimmed base).length - segment.length) = pathPrefix := by
    rw [ends, List.length_append, Nat.add_sub_cancel, List.take_left]
  rw [trimmed] at found before
  simp only [withVersionWorded, found, before]

theorem withVersionWorded_of_not_matches (plain : ¬ EndsInVersion (trimmed base)) :
    withVersionWorded base version wording = .ok (String.ofList (trimmed base) ++ "/" ++ version) := by
  have none := trailingVersionSegment_eq_none.mpr plain
  rw [trimmed] at none
  simp only [withVersionWorded, none, trimmed]

theorem withVersionWorded_error_iff :
    (∃ refused, withVersionWorded base version wording = .error refused) ↔ EndsInVersion (trimmed base) := by
  constructor
  · rintro ⟨refused, failed⟩
    by_contra plain
    rw [withVersionWorded_of_not_matches version wording plain] at failed
    cases failed
  · rintro ⟨pathPrefix, segment, ends, matched⟩
    exact ⟨_, withVersionWorded_of_matches version wording ends matched⟩

/-- A URL with a version behind it is not given another. -/
theorem versioned_refused {url : String} (joined : withVersionWorded base version wording = .ok url)
    (form : version.toList ∈ versionForm.matches') (more : Nat) (other : String)
    (otherWording : BaseUrlWording) :
    ∃ refused, withVersionWorded (url ++ String.ofList (List.replicate more '/')) other otherWording =
      .error refused := by
  have plain : ¬ EndsInVersion (trimmed base) := by
    intro ends
    obtain ⟨refused, failed⟩ := (withVersionWorded_error_iff version wording).mpr ends
    rw [failed] at joined
    cases joined
  rw [withVersionWorded_of_not_matches version wording plain] at joined
  cases joined
  have solid : (trimmed base ++ '/' :: version.toList).getLast? ≠ some '/' := by
    -- the last character is the version's, and a version has no slash
    obtain ⟨major, minor, written, -⟩ := mem_versionForm.mp form
    have last : (trimmed base ++ '/' :: version.toList).getLast? = version.toList.getLast? := by
      rw [written, List.getLast?_append_of_ne_nil _ (List.cons_ne_nil _ _), List.cons_append,
        List.getLast?_cons_cons]
    rw [last]
    exact fun slash => slash_not_mem form (List.mem_of_getLast? slash)
  have whole : (String.ofList (trimmed base) ++ "/" ++ version ++
      String.ofList (List.replicate more '/')).toList =
        (trimmed base ++ '/' :: version.toList) ++ List.replicate more '/' := by simp
  refine (withVersionWorded_error_iff other otherWording).mpr ?_
  rw [trimmed_eq whole solid]
  exact ⟨_, _, rfl, mem_versionSegment.mpr ⟨_, form, rfl⟩⟩

end Joining

/-- **`with_version` accepts exactly the unversioned bases.** -/
theorem withVersion_exact (base version hint : String) :
    (∃ slashes, base.toList = trimmed base ++ List.replicate slashes '/') ∧
      (trimmed base).getLast? ≠ some '/' ∧
      ((∃ refused, withVersion base version hint = .error refused) ↔ EndsInVersion (trimmed base)) ∧
      (∀ pathPrefix segment, trimmed base = pathPrefix ++ segment → segment ∈ versionSegment.matches' →
        withVersion base version hint = .error (.configError (BaseUrlWording.refusal
          { option := "base_url", versionHint := hint } (String.ofList segment)
          (String.ofList pathPrefix)))) ∧
      (¬ EndsInVersion (trimmed base) →
        withVersion base version hint = .ok (String.ofList (trimmed base) ++ "/" ++ version)) ∧
      ∀ url, withVersion base version hint = .ok url → version.toList ∈ versionForm.matches' →
        ∀ more other otherHint, ∃ refused,
          withVersion (url ++ String.ofList (List.replicate more '/')) other otherHint = .error refused :=
  ⟨trimmed_spec base, trimmed_getLast? base, withVersionWorded_error_iff version _,
    fun _ _ ends matched => withVersionWorded_of_matches version _ ends matched,
    withVersionWorded_of_not_matches version _,
    fun _ joined form more other _ => versioned_refused version _ joined form more other _⟩

/-- A base with a version is refused by name, and one without is given a version once. -/
theorem withVersion_exact_md :
    withVersion "wss://h/md/v2.11//" "v1.0" "" = .error (.configError
      ("base_url must not include a version segment (found '/v2.11'). " ++
        "Pass the host and path prefix only: 'wss://h/md'.")) ∧
      withVersion "wss://h/md" "v1.0" "" = .ok "wss://h/md/v1.0" ∧
      ∃ refused, withVersion ("wss://h/md/v1.0" ++ String.ofList (List.replicate 2 '/')) "v1.1" "" =
        .error refused := by
  have plain : ¬ EndsInVersion (trimmed "wss://h/md") :=
    trailingVersionSegment_eq_none.mp (by decide)
  have form : "v1.0".toList ∈ versionForm.matches' :=
    mem_versionForm.mpr ⟨['1'], ['0'], rfl, (numeric_iff _).mp rfl, (numeric_iff _).mp rfl⟩
  have other : "/v2.11".toList ∈ versionSegment.matches' :=
    mem_versionSegment.mpr ⟨"v2.11".toList, mem_versionForm.mpr
      ⟨['2'], ['1', '1'], rfl, (numeric_iff _).mp rfl, (numeric_iff _).mp rfl⟩, rfl⟩
  obtain ⟨-, -, -, refuses, -⟩ := withVersion_exact "wss://h/md/v2.11//" "v1.0" ""
  obtain ⟨-, -, -, -, accepts, once⟩ := withVersion_exact "wss://h/md" "v1.0" ""
  exact ⟨refuses "wss://h/md".toList "/v2.11".toList (by decide) other, accepts plain,
    once _ (accepts plain) form 2 "v1.1" ""⟩

end FugleMarketdata.Urls
