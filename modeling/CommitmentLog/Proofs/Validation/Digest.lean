import CommitmentLog.Proofs.Hex
import CommitmentLog.Validation.Submitted

/-!
# Submitted digests

A digest may be submitted as a text of sixty-four to sixty-six characters.  The bounds leave little of what a
digest may look like elsewhere: behind a marker there is no room for blanks, and without a marker there is
room for two.
-/

set_option autoImplicit false

namespace CommitmentLog

namespace Hex

variable {text : List Char} {bytes : Bytes}

/-- The texts by which a digest may be submitted: its digits behind a marker or without one, or its digits
without a marker and with two blanks at most, which stand between bytes or at either end. -/
def Submits (text : List Char) (bytes : Bytes) : Prop :=
  bytes.length = digestLength ∧
    ((∃ marker ∈ markers, ∃ digits, text = marker ++ digits ∧
        digits.map Char.toLower = ofBytes bytes) ∨
      Spells text bytes ∧ text.countP isBlank ≤ 2)

theorem length_of_digits (digits : text.map Char.toLower = ofBytes bytes) :
    text.length = 2 * bytes.length := by
  rw [← length_ofBytes, ← digits, List.length_map]

/-- Where there are no blanks, a text that spells bytes is made of their digits alone. -/
theorem Spells.digits_of_full (spells : Spells text bytes) (full : text.length ≤ 2 * bytes.length) :
    text.map Char.toLower = Hex.ofBytes bytes := by
  have length := spells.length_eq
  have none : text.countP isBlank = 0 := by omega
  have kept : (text.filter fun character => !isBlank character) = text := by
    rw [List.filter_eq_self]
    intro character member
    simpa using List.countP_eq_zero.mp none character member
  have digits := spells.digitsOf_eq
  rwa [digitsOf, kept] at digits

theorem length_of_mem_markers {marker : List Char} (known : marker ∈ markers) :
    marker = [] ∨ marker.length = 2 := by
  simp only [markers, List.mem_cons, List.not_mem_nil, or_false] at known
  rcases known with rfl | rfl | rfl
  · exact Or.inl rfl
  · exact Or.inr rfl
  · exact Or.inr rfl

theorem submits_iff (text : List Char) (bytes : Bytes) :
    Submits text bytes ↔
      Submitted.digestBounds.1 ≤ text.length ∧ text.length ≤ Submitted.digestBounds.2 ∧
        readDigest text = .ok bytes := by
  simp only [readDigest_eq_ok_iff, Denotes, Submits, digestLength, Submitted.digestBounds]
  constructor
  · rintro ⟨whole, ⟨marker, known, digits, rfl, written⟩ | ⟨spells, few⟩⟩
    · have spells := Spells.of_digits written
      have length := length_of_digits written
      have front := length_of_mem_markers known
      refine ⟨?_, ?_, whole, marker, known, digits, rfl, spells⟩ <;> grind
    · have length := spells.length_eq
      exact ⟨by omega, by omega, whole, [], by decide, text, rfl, spells⟩
  · rintro ⟨lower, upper, whole, marker, known, body, rfl, spells⟩
    refine ⟨whole, ?_⟩
    have length := spells.length_eq
    rw [List.length_append] at lower upper
    rcases length_of_mem_markers known with rfl | front
    · exact Or.inr ⟨spells, by simp at upper ⊢; omega⟩
    · exact Or.inl ⟨marker, known, body, rfl, spells.digits_of_full (by omega)⟩

end Hex

namespace Submitted

theorem digest_eq_ok_iff (value : Json) (submitted : DigestText) :
    digest value = .ok submitted ↔
      value = .string submitted.text ∧ Hex.Submits submitted.text.toList submitted.bytes := by
  rw [Hex.submits_iff, String.length_toList]
  constructor
  · intro accepted
    cases value with
    | string text =>
        simp only [digest] at accepted
        split at accepted
        case isTrue => cases accepted
        case isFalse long =>
          split at accepted
          case isTrue => cases accepted
          case isFalse short =>
            split at accepted
            case h_1 => cases accepted
            case h_2 bytes read =>
              cases accepted
              exact ⟨rfl, Nat.not_lt.mp long, Nat.not_lt.mp short, read⟩
    | _ => cases accepted
  · rintro ⟨rfl, lower, upper, read⟩
    simp only [digest, if_neg (Nat.not_lt.mpr lower), if_neg (Nat.not_lt.mpr upper), read]

theorem field_eq_ok_iff {α : Type} (name : String) (read : Json → Except IssueKind α) (value : Json)
    (result : α) :
    field name read value = .ok result ↔
      ∃ content, value.field? name = some content ∧ read content = .ok result := by
  rw [field]
  cases found : value.field? name with
  | none => simp
  | some content => cases answered : read content <;> simp [Except.mapError, answered]

theorem isObject_of_field? {value content : Json} {name : String}
    (found : value.field? name = some content) : isObject value = true := by
  cases value with
  | object fields => rfl
  | _ => cases found

theorem digestField_eq_ok_iff (name : String) (value : Json) (submitted : DigestText) :
    field name digest value = .ok submitted ↔
      value.field? name = some (.string submitted.text) ∧
        Hex.Submits submitted.text.toList submitted.bytes := by
  simp only [field_eq_ok_iff, digest_eq_ok_iff]
  constructor
  · rintro ⟨content, found, rfl, submits⟩
    exact ⟨found, submits⟩
  · rintro ⟨found, submits⟩
    exact ⟨_, found, rfl, submits⟩

theorem commitment_eq_ok_iff (value : Json) (submitted : DigestText) :
    commitment value = .ok submitted ↔
      value.field? commitmentField = some (.string submitted.text) ∧
        Hex.Submits submitted.text.toList submitted.bytes := by
  rw [← digestField_eq_ok_iff, commitment]
  cases accepted : field commitmentField digest value with
  | error issue => cases isObject value <;> simp [Except.mapError]
  | ok read =>
      obtain ⟨content, found, _⟩ := (field_eq_ok_iff _ _ _ _).mp accepted
      simp [isObject_of_field? found, Except.mapError]

theorem confirmation_eq_ok_iff (value : Json) (submitted : SubmittedConfirmation) :
    confirmation value = .ok submitted ↔
      (value.field? rootField = some (.string submitted.root.text) ∧
        Hex.Submits submitted.root.text.toList submitted.root.bytes) ∧
      field minedAtField time value = .ok submitted.minedAt := by
  rw [← digestField_eq_ok_iff, confirmation]
  cases accepted : field rootField digest value with
  | error issue =>
      cases isObject value <;> cases field minedAtField time value <;> simp
  | ok root =>
      obtain ⟨content, found, _⟩ := (field_eq_ok_iff _ _ _ _).mp accepted
      rw [if_pos (isObject_of_field? found)]
      cases field minedAtField time value with
      | error issue => simp
      | ok minedAt =>
          cases submitted
          simp

/-- A digest is read from exactly the texts that spell thirty-two bytes behind a marker or without one, and
from what is written of it.  Texts of the same digest have the same digits, blanks and cases apart.  What may
be submitted as a commitment, or as the root of a confirmation, are its digits behind a marker or without one,
or without a marker and with two blanks at most. -/
theorem digest_language :
    (∀ text bytes, Hex.readDigest text = .ok bytes ↔ Hex.Denotes text bytes) ∧
    (∀ bytes : Bytes, bytes.length = Hex.digestLength →
      Hex.readDigest (Hex.prefixed bytes).toList = .ok bytes) ∧
    (∀ first second firstBytes secondBytes, Hex.readDigest first = .ok firstBytes →
      Hex.readDigest second = .ok secondBytes →
      (firstBytes = secondBytes ↔
        Hex.digitsOf (Hex.dropMarker first) = Hex.digitsOf (Hex.dropMarker second))) ∧
    (∀ value submitted, commitment value = .ok submitted ↔
      value.field? commitmentField = some (.string submitted.text) ∧
        Hex.Submits submitted.text.toList submitted.bytes) ∧
    ∀ value submitted, confirmation value = .ok submitted ↔
      (value.field? rootField = some (.string submitted.root.text) ∧
        Hex.Submits submitted.root.text.toList submitted.root.bytes) ∧
      field minedAtField time value = .ok submitted.minedAt :=
  ⟨Hex.readDigest_eq_ok_iff, fun _ => Hex.readDigest_prefixed,
    fun _ _ _ _ => Hex.eq_iff_digitsOf_eq, commitment_eq_ok_iff, confirmation_eq_ok_iff⟩

def capitals : List Char :=
  '0' :: 'X' :: (List.replicate Hex.digestLength ['A', 'B']).flatten

def loose : List Char :=
  '\n' :: (List.replicate Hex.digestLength ['a', 'B']).flatten ++ [' ']

theorem digest_language_loose :
    let bytes : Bytes := List.replicate Hex.digestLength 0xab
    let submitted : DigestText := { text := String.ofList loose, bytes }
    Hex.readDigest capitals = .ok bytes ∧ Hex.readDigest loose = .ok bytes ∧
      Hex.digitsOf (Hex.dropMarker capitals) = Hex.digitsOf (Hex.dropMarker loose) ∧
      Hex.readDigest (Hex.prefixed bytes).toList = .ok bytes ∧
      commitment (.object [(some commitmentField, .string submitted.text)]) = .ok submitted := by
  intro bytes submitted
  obtain ⟨_, written, sameDigits, commitments, _⟩ := digest_language
  have capitalsRead : Hex.readDigest capitals = .ok bytes := by rfl
  have looseRead : Hex.readDigest loose = .ok bytes := by rfl
  have submits : Hex.Submits submitted.text.toList bytes := by
    rw [String.toList_ofList, Hex.submits_iff]
    exact ⟨by decide, by decide, looseRead⟩
  exact ⟨capitalsRead, looseRead, (sameDigits _ _ _ _ capitalsRead looseRead).mp rfl,
    written bytes rfl, (commitments _ submitted).mpr ⟨rfl, submits⟩⟩

end Submitted

end CommitmentLog
