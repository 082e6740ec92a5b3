import CommitmentLog.Hex
import Mathlib.Data.List.Basic

/-!
# The language of hexadecimal texts

A text spells bytes if it is made of pairs of adjacent digits, one pair for each byte and in either case, and
of blanks that stand before a pair or at the end.  `Spells` says this by itself and takes the digits of a byte
from the writer; `decode` reads exactly these texts.  A digest is read behind a marker or without one.  Two
digests are the same if their digits are, because the writer gives different bytes different digits.
-/

set_option autoImplicit false

namespace CommitmentLog.Hex

/-! ## Digits -/

theorem toNat_digit {value : Nat} (small : value < 16) :
    (digit value).toNat = if value < 10 then 48 + value else 87 + value := by
  revert value
  decide

theorem digit_injective {first second : Nat} (firstSmall : first < 16) (secondSmall : second < 16)
    (same : digit first = digit second) : first = second := by
  have numbers := congrArg Char.toNat same
  rw [toNat_digit firstSmall, toNat_digit secondSmall] at numbers
  grind

theorem toNat_toLower (character : Char) :
    character.toLower.toNat =
      if 65 ≤ character.toNat ∧ character.toNat ≤ 90 then character.toNat + 32
      else character.toNat := by
  have capital : (character.val ≥ 'A'.val ∧ character.val ≤ 'Z'.val) ↔
      65 ≤ character.toNat ∧ character.toNat ≤ 90 := by
    rw [ge_iff_le, UInt32.le_iff_toNat_le, UInt32.le_iff_toNat_le]
    exact Iff.rfl
  unfold Char.toLower
  split
  case isTrue large =>
    have bounds := capital.mp large
    have below : character.toNat + 32 < 2 ^ 32 := by omega
    have shifted : (character.val + ('a'.val - 'A'.val)).toNat = character.toNat + 32 := by
      rw [UInt32.toNat_add]
      exact Nat.mod_eq_of_lt below
    rw [if_pos bounds]
    exact shifted
  case isFalse small => rw [if_neg fun bounds => small (capital.mpr bounds)]

theorem between_iff (low high character : Char) :
    low ≤ character ∧ character ≤ high ↔
      low.toNat ≤ character.toNat ∧ character.toNat ≤ high.toNat := by
  rw [Char.le_def, Char.le_def, UInt32.le_iff_toNat_le, UInt32.le_iff_toNat_le]
  exact Iff.rfl

theorem digitValue?_eq_some_iff (character : Char) (value : Nat) :
    digitValue? character = some value ↔ value < 16 ∧ character.toLower = digit value := by
  have written : ∀ small : value < 16, character.toLower = digit value ↔
      character.toLower.toNat = if value < 10 then 48 + value else 87 + value := by
    intro small
    rw [← toNat_digit small, Char.toNat_inj]
  rw [and_congr_right written, toNat_toLower]
  simp only [digitValue?, between_iff, Char.reduceToNat]
  grind

theorem toNat_le_of_isBlank {character : Char} (blank : isBlank character = true) :
    character.toNat ≤ 32 := by
  simp only [isBlank, Bool.or_eq_true, decide_eq_true_eq] at blank
  rcases blank with ((((rfl | rfl) | rfl) | rfl) | rfl) | rfl <;> decide

theorem digitValue?_of_isBlank {character : Char} (blank : isBlank character = true) :
    digitValue? character = none := by
  have low := toNat_le_of_isBlank blank
  simp only [digitValue?, between_iff, Char.reduceToNat]
  grind

theorem toNat_lt_of_digitValue? {character : Char} {value : Nat}
    (digit : digitValue? character = some value) : character.toNat < 128 := by
  simp only [digitValue?, between_iff, Char.reduceToNat] at digit
  grind

/-! ## The digits of a byte -/

theorem digits_iff (high low : Char) (byte : UInt8) :
    [high.toLower, low.toLower] = ofByte byte ↔
      ∃ upper lower, digitValue? high = some upper ∧ digitValue? low = some lower ∧
        byte = UInt8.ofNat (16 * upper + lower) := by
  have bounded := byte.toNat_lt
  simp only [ofByte, List.cons.injEq, and_true]
  constructor
  · intro written
    refine ⟨byte.toNat / 16, byte.toNat % 16, ?_, ?_, ?_⟩
    · exact (digitValue?_eq_some_iff _ _).mpr ⟨by omega, written.1⟩
    · exact (digitValue?_eq_some_iff _ _).mpr ⟨by omega, written.2⟩
    · rw [Nat.div_add_mod, UInt8.ofNat_toNat]
  · rintro ⟨upper, lower, highDigit, lowDigit, rfl⟩
    obtain ⟨upperSmall, highWritten⟩ := (digitValue?_eq_some_iff _ _).mp highDigit
    obtain ⟨lowerSmall, lowWritten⟩ := (digitValue?_eq_some_iff _ _).mp lowDigit
    have value : (UInt8.ofNat (16 * upper + lower)).toNat = 16 * upper + lower :=
      UInt8.toNat_ofNat_of_lt' (by simp only [UInt8.size]; omega)
    rw [value, highWritten, lowWritten]
    exact ⟨congrArg digit (by omega), congrArg digit (by omega)⟩

theorem toLower_digit {value : Nat} (small : value < 16) : (digit value).toLower = digit value := by
  rw [← Char.toNat_inj, toNat_toLower, toNat_digit small]
  grind

theorem map_toLower_ofByte (byte : UInt8) : (ofByte byte).map Char.toLower = ofByte byte := by
  have bounded := byte.toNat_lt
  simp only [ofByte, List.map_cons, List.map_nil]
  rw [toLower_digit (by omega), toLower_digit (by omega)]

theorem ofByte_injective {first second : UInt8} (same : ofByte first = ofByte second) :
    first = second := by
  have firstBounded := first.toNat_lt
  have secondBounded := second.toNat_lt
  simp only [ofByte, List.cons.injEq, and_true] at same
  have upper := digit_injective (by omega) (by omega) same.1
  have lower := digit_injective (by omega) (by omega) same.2
  exact UInt8.toNat_inj.mp (by omega)

theorem length_ofBytes (bytes : Bytes) : (ofBytes bytes).length = 2 * bytes.length := by
  induction bytes with
  | nil => rfl
  | cons byte rest inductionHypothesis =>
      simp only [ofBytes] at inductionHypothesis
      simp [ofBytes, ofByte, inductionHypothesis]
      omega

theorem ofBytes_injective {first second : Bytes} (same : ofBytes first = ofBytes second) :
    first = second := by
  induction first generalizing second with
  | nil =>
      cases second with
      | nil => rfl
      | cons byte rest => simp [ofBytes, ofByte] at same
  | cons byte rest inductionHypothesis =>
      cases second with
      | nil => simp [ofBytes, ofByte] at same
      | cons other more =>
          simp only [ofBytes, List.flatMap_cons] at same
          have apart := List.append_inj same (by simp [ofByte])
          rw [ofByte_injective apart.1, inductionHypothesis apart.2]

/-! ## Texts that spell bytes -/

/-- A text spells bytes: it is made of the two adjacent digits of each byte, in either case, and of blanks
before them and behind the last. -/
inductive Spells : List Char → Bytes → Prop where
  | nil : Spells [] []
  | blank {character : Char} {text : List Char} {bytes : Bytes} (blank : isBlank character = true)
      (spells : Spells text bytes) : Spells (character :: text) bytes
  | byte {high low : Char} {byte : UInt8} {text : List Char} {bytes : Bytes}
      (digits : [high.toLower, low.toLower] = ofByte byte) (spells : Spells text bytes) :
      Spells (high :: low :: text) (byte :: bytes)

/-- What is left of a text without its blanks, in lower case. -/
def digitsOf (text : List Char) : List Char :=
  (text.filter fun character => !isBlank character).map Char.toLower

namespace Spells

variable {text : List Char} {bytes : Bytes}

theorem not_isBlank_of_digits {high low : Char} {byte : UInt8}
    (digits : [high.toLower, low.toLower] = ofByte byte) :
    isBlank high = false ∧ isBlank low = false := by
  obtain ⟨upper, lower, highDigit, lowDigit, _⟩ := (digits_iff high low byte).mp digits
  constructor
  · refine Bool.eq_false_iff.mpr fun blank => ?_
    simp [digitValue?_of_isBlank blank] at highDigit
  · refine Bool.eq_false_iff.mpr fun blank => ?_
    simp [digitValue?_of_isBlank blank] at lowDigit

theorem digitsOf_eq (spells : Spells text bytes) : digitsOf text = ofBytes bytes := by
  induction spells with
  | nil => rfl
  | blank blank _ inductionHypothesis => simpa [digitsOf, blank] using inductionHypothesis
  | byte digits _ inductionHypothesis =>
      obtain ⟨highFilled, lowFilled⟩ := not_isBlank_of_digits digits
      simp only [digitsOf, ofBytes] at inductionHypothesis
      simp [digitsOf, ofBytes, highFilled, lowFilled, inductionHypothesis, ← digits]

theorem length_eq (spells : Spells text bytes) :
    text.length = 2 * bytes.length + text.countP isBlank := by
  induction spells with
  | nil => rfl
  | blank blank _ inductionHypothesis =>
      simp only [List.length_cons, List.countP_cons, blank, if_true]
      omega
  | byte digits _ inductionHypothesis =>
      obtain ⟨highFilled, lowFilled⟩ := not_isBlank_of_digits digits
      simp only [List.length_cons, List.countP_cons, highFilled, lowFilled, Bool.false_eq_true,
        if_false]
      omega

theorem ascii (spells : Spells text bytes) : ∀ character ∈ text, character.toNat < 128 := by
  induction spells with
  | nil => simp
  | blank blank _ inductionHypothesis =>
      have low := toNat_le_of_isBlank blank
      exact List.forall_mem_cons.mpr ⟨by omega, inductionHypothesis⟩
  | byte digits _ inductionHypothesis =>
      obtain ⟨upper, lower, highDigit, lowDigit, _⟩ := (digits_iff _ _ _).mp digits
      exact List.forall_mem_cons.mpr ⟨toNat_lt_of_digitValue? highDigit,
        List.forall_mem_cons.mpr ⟨toNat_lt_of_digitValue? lowDigit, inductionHypothesis⟩⟩

theorem of_digits (digits : text.map Char.toLower = ofBytes bytes) : Spells text bytes := by
  induction bytes generalizing text with
  | nil =>
      have empty : text = [] := List.map_eq_nil_iff.mp digits
      exact empty ▸ .nil
  | cons byte rest inductionHypothesis =>
      match text, digits with
      | high :: low :: text, digits =>
          simp only [ofBytes, List.flatMap_cons, List.map_cons, ofByte, List.cons_append,
            List.nil_append, List.cons.injEq] at digits
          obtain ⟨highWritten, lowWritten, behind⟩ := digits
          refine .byte ?_ (inductionHypothesis behind)
          rw [ofByte, highWritten, lowWritten]
      | [_], digits => simp [ofBytes, ofByte] at digits
      | [], digits => simp [ofBytes, ofByte] at digits

theorem ofBytes (bytes : Bytes) : Spells (ofBytes bytes) bytes := by
  apply of_digits
  rw [Hex.ofBytes, List.map_flatMap]
  exact List.flatMap_congr fun byte _ => map_toLower_ofByte byte

end Spells

/-! ## Reading -/

theorem scan_eq_ok_iff (position : Nat) (text : List Char) (bytes : Bytes) :
    scan position text = .ok bytes ↔ Spells text bytes := by
  constructor
  · intro read
    fun_induction scan position text generalizing bytes with
    | case1 =>
        cases read
        exact .nil
    | case2 _ _ _ blank inductionHypothesis => exact .blank blank (inductionHypothesis bytes read)
    | case3 | case4 | case5 | case6 => cases read
    | case7 _ _ _ upper _ _ highDigit lower lowDigit _ scanned inductionHypothesis =>
        cases read
        have digits := (digits_iff _ _ _).mpr ⟨upper, lower, highDigit, lowDigit, rfl⟩
        exact .byte digits (inductionHypothesis _ scanned)
  · intro spells
    induction spells generalizing position with
    | nil => rfl
    | blank blank _ inductionHypothesis =>
        rw [scan.eq_def]
        simp [blank, inductionHypothesis]
    | byte digits _ inductionHypothesis =>
        obtain ⟨upper, lower, highDigit, lowDigit, rfl⟩ := (digits_iff _ _ _).mp digits
        have filled := (Spells.not_isBlank_of_digits digits).1
        rw [scan.eq_def]
        simp [filled, highDigit, lowDigit, inductionHypothesis]

theorem firstBeyondAscii?_eq_none {text : List Char}
    (ascii : ∀ character ∈ text, character.toNat < 128) (position : Nat) :
    firstBeyondAscii? position text = none := by
  induction text generalizing position with
  | nil => rfl
  | cons character rest inductionHypothesis =>
      obtain ⟨here, behind⟩ := List.forall_mem_cons.mp ascii
      rw [firstBeyondAscii?, if_pos here, inductionHypothesis behind]

theorem decode_eq_ok_iff (text : List Char) (bytes : Bytes) :
    decode text = .ok bytes ↔ Spells text bytes := by
  constructor
  · intro read
    unfold decode at read
    split at read
    · cases read
    · exact (scan_eq_ok_iff 0 text bytes).mp read
  · intro spells
    rw [decode, firstBeyondAscii?_eq_none spells.ascii]
    exact (scan_eq_ok_iff 0 text bytes).mpr spells

/-! ## Markers -/

def markers : List (List Char) :=
  [[], ['0', 'x'], ['0', 'X']]

theorem exists_marker (text : List Char) : ∃ marker ∈ markers, text = marker ++ dropMarker text := by
  unfold dropMarker
  split
  · exact ⟨['0', 'x'], by decide, rfl⟩
  · exact ⟨['0', 'X'], by decide, rfl⟩
  · exact ⟨[], by decide, rfl⟩

/-- A digit is not followed by anything but a digit, so no text that spells bytes begins with a marker. -/
theorem Spells.second_digit {first second : Char} {rest : List Char} {bytes : Bytes}
    (spells : Spells (first :: second :: rest) bytes) (filled : isBlank first = false) :
    digitValue? second ≠ none := by
  cases spells with
  | blank blank _ => simp [filled] at blank
  | byte digits _ =>
      obtain ⟨_, _, _, lowDigit, _⟩ := (digits_iff _ _ _).mp digits
      simp [lowDigit]

theorem Spells.dropMarker_eq {text : List Char} {bytes : Bytes} (spells : Spells text bytes) :
    dropMarker text = text := by
  unfold dropMarker
  split
  case h_1 => exact absurd rfl (spells.second_digit rfl)
  case h_2 => exact absurd rfl (spells.second_digit rfl)
  case h_3 => rfl

theorem dropMarker_append {marker body : List Char} {bytes : Bytes} (known : marker ∈ markers)
    (spells : Spells body bytes) : dropMarker (marker ++ body) = body := by
  simp only [markers, List.mem_cons, List.not_mem_nil, or_false] at known
  rcases known with rfl | rfl | rfl
  · exact spells.dropMarker_eq
  · rfl
  · rfl

/-! ## Digests -/

/-- A text denotes a digest: thirty-two bytes are spelled behind a marker or without one. -/
def Denotes (text : List Char) (bytes : Bytes) : Prop :=
  bytes.length = digestLength ∧ ∃ marker ∈ markers, ∃ body, text = marker ++ body ∧ Spells body bytes

theorem readDigest_eq_ok_iff_spells (text : List Char) (bytes : Bytes) :
    readDigest text = .ok bytes ↔ Spells (dropMarker text) bytes ∧ bytes.length = digestLength := by
  rw [← decode_eq_ok_iff, readDigest]
  cases decode (dropMarker text) with
  | error reason => simp
  | ok read =>
      simp only [Except.ok.injEq]
      grind

theorem readDigest_eq_ok_iff (text : List Char) (bytes : Bytes) :
    readDigest text = .ok bytes ↔ Denotes text bytes := by
  rw [readDigest_eq_ok_iff_spells, and_comm, Denotes, and_congr_right_iff]
  intro _
  constructor
  · intro spells
    obtain ⟨marker, known, split⟩ := exists_marker text
    exact ⟨marker, known, _, split, spells⟩
  · rintro ⟨marker, known, body, rfl, spells⟩
    rw [dropMarker_append known spells]
    exact spells

theorem readDigest_prefixed {bytes : Bytes} (whole : bytes.length = digestLength) :
    readDigest (prefixed bytes).toList = .ok bytes := by
  rw [readDigest_eq_ok_iff, prefixed, String.toList_ofList]
  exact ⟨whole, ['0', 'x'], by decide, ofBytes bytes, rfl, .ofBytes bytes⟩

theorem eq_iff_digitsOf_eq {first second : List Char} {firstBytes secondBytes : Bytes}
    (firstRead : readDigest first = .ok firstBytes) (secondRead : readDigest second = .ok secondBytes) :
    firstBytes = secondBytes ↔
      digitsOf (dropMarker first) = digitsOf (dropMarker second) := by
  rw [((readDigest_eq_ok_iff_spells _ _).mp firstRead).1.digitsOf_eq,
    ((readDigest_eq_ok_iff_spells _ _).mp secondRead).1.digitsOf_eq]
  exact ⟨congrArg ofBytes, ofBytes_injective⟩

end CommitmentLog.Hex
