import CommitmentLog.Counters
import Mathlib.Data.List.Basic

/-!
# What the counters show

A sample is shown for every count that is not zero, under its name and labels.  The failures of appends are
shown by the code of their category, and since no two categories have the same code, the sample of a code
counts the refusals with this code.
-/

set_option autoImplicit false

namespace CommitmentLog

theorem Category.code_injective {first second : Category} (same : first.code = second.code) :
    first = second := by
  cases first <;> cases second <;> first | rfl | exact absurd same (by decide)

namespace Counters

/-! ## Tallies -/

theorem mem_tally_iff {α : Type} [DecidableEq α] (events : List α) (event : α) (value : Nat) :
    (event, value) ∈ tally events ↔ event ∈ events ∧ value = events.count event := by
  induction events generalizing event value with
  | nil => simp [tally]
  | cons first rest inductionHypothesis =>
      rw [tally]
      cases found : (tally rest).find? fun entry => entry.1 = first with
      | none =>
          have absent : first ∉ rest := by
            intro member
            have entry := (inductionHypothesis first _).mpr ⟨member, rfl⟩
            exact List.find?_eq_none.mp found _ entry (decide_eq_true rfl)
          simp only [List.mem_cons, Prod.mk.injEq, inductionHypothesis]
          by_cases same : event = first
          · simp [same, absent, List.count_eq_zero.mpr absent]
          · simp [same, List.count_cons_of_ne (Ne.symm same)]
      | some entry =>
          have named : entry.1 = first := by simpa using List.find?_some found
          have present : first ∈ rest :=
            named ▸ ((inductionHypothesis entry.1 entry.2).mp (List.mem_of_find?_eq_some found)).1
          simp only [List.mem_map, Prod.exists, inductionHypothesis]
          by_cases same : event = first
          · -- The entry of the event is the one that has been raised.
            rw [same, List.count_cons_self]
            constructor
            · rintro ⟨other, count, ⟨_, rfl⟩, equal⟩
              split at equal
              case isTrue here =>
                cases equal
                exact ⟨List.mem_cons_self, by rw [here]⟩
              case isFalse elsewhere => exact absurd (congrArg Prod.fst equal) elsewhere
            · rintro ⟨_, rfl⟩
              exact ⟨first, _, ⟨present, rfl⟩, if_pos rfl⟩
          · rw [List.count_cons_of_ne (Ne.symm same)]
            constructor
            · rintro ⟨other, count, ⟨member, rfl⟩, equal⟩
              split at equal
              case isTrue here => exact absurd ((congrArg Prod.fst equal).symm.trans here) same
              case isFalse elsewhere =>
                cases equal
                exact ⟨List.mem_cons_of_mem _ member, rfl⟩
            · rintro ⟨member, rfl⟩
              exact ⟨event, _, ⟨(List.mem_cons.mp member).resolve_left same, rfl⟩, if_neg same⟩

/-! ## Samples -/

variable {counters : Counters}

theorem mem_samples_iff {sample : Sample} :
    sample ∈ counters.samples ↔ sample.value ≠ 0 ∧
      ((∃ category ∈ counters.refused,
          sample = ⟨"rootledger_append_failures_total", [("reason", category.code)],
            counters.refused.count category⟩) ∨
        (∃ label ∈ counters.requests,
          sample = ⟨"rootledger_requests_total",
            [("method", label.method), ("path", label.path), ("status", toString label.status)],
            counters.requests.count label⟩) ∨
        sample = ⟨"rootledger_append_seconds_count", [], counters.measured⟩ ∨
        sample = ⟨"rootledger_identities_appended_total", [], counters.appended⟩ ∨
        sample = ⟨"rootledger_roots_mined_total", [], counters.mined⟩) := by
  simp only [samples, List.mem_mergeSort, List.mem_filter, List.mem_append, List.mem_map, Prod.exists,
    mem_tally_iff, List.mem_cons, List.not_mem_nil, or_false, bne_iff_ne, or_assoc]
  rw [and_comm]
  simp only [and_assoc, exists_and_left, exists_eq_left, @eq_comm _ sample]

/-- The value that is shown under a name and labels, and zero if nothing is. -/
def shown (counters : Counters) (name : String) (labels : List (String × String)) : Nat :=
  ((counters.samples.find? fun sample => sample.name = name ∧ sample.labels = labels).map
    (·.value)).getD 0

theorem shown_eq {name : String} {labels : List (String × String)} {value : Nat}
    (only : ∀ sample ∈ counters.samples, sample.name = name → sample.labels = labels →
      sample.value = value)
    (listed : value ≠ 0 → ⟨name, labels, value⟩ ∈ counters.samples) :
    counters.shown name labels = value := by
  rw [shown]
  cases found : counters.samples.find? fun sample => sample.name = name ∧ sample.labels = labels with
  | none =>
      by_contra nonzero
      have differs := List.find?_eq_none.mp found _ (listed (Ne.symm nonzero))
      exact differs (by simp)
  | some sample =>
      obtain ⟨named, labelled⟩ : sample.name = name ∧ sample.labels = labels := by
        simpa using List.find?_some found
      exact only sample (List.mem_of_find?_eq_some found) named labelled

theorem shown_plain {name : String} {value : Nat}
    (plain : (name, value) ∈
      [("rootledger_append_seconds_count", counters.measured),
       ("rootledger_identities_appended_total", counters.appended),
       ("rootledger_roots_mined_total", counters.mined)]) : counters.shown name [] = value := by
  simp only [List.mem_cons, List.not_mem_nil, or_false, Prod.mk.injEq] at plain
  apply shown_eq
  · intro sample member named unlabelled
    obtain ⟨_, ⟨_, _, rfl⟩ | ⟨_, _, rfl⟩ | rfl | rfl | rfl⟩ := mem_samples_iff.mp member
    · cases unlabelled
    · cases unlabelled
    all_goals rcases plain with ⟨rfl, rfl⟩ | ⟨rfl, rfl⟩ | ⟨rfl, rfl⟩ <;> simp at named ⊢
  · intro nonzero
    rcases plain with ⟨rfl, rfl⟩ | ⟨rfl, rfl⟩ | ⟨rfl, rfl⟩ <;>
      exact mem_samples_iff.mpr ⟨nonzero, by simp⟩

theorem shown_failures (counters : Counters) (reason : String) :
    counters.shown "rootledger_append_failures_total" [("reason", reason)] =
      counters.refused.countP fun category => category.code = reason := by
  have counted {category : Category} (coded : category.code = reason) :
      (counters.refused.countP fun other => other.code = reason) =
        counters.refused.count category := by
    rw [List.count]
    apply List.countP_congr
    intro other _
    simp only [decide_eq_true_eq, beq_iff_eq, ← coded]
    exact ⟨Category.code_injective, congrArg Category.code⟩
  apply shown_eq
  · intro sample member named labelled
    obtain ⟨_, ⟨category, _, rfl⟩ | ⟨_, _, rfl⟩ | rfl | rfl | rfl⟩ := mem_samples_iff.mp member
    · have coded : category.code = reason := by simpa using labelled
      exact (counted coded).symm
    all_goals simp at named
  · intro nonzero
    obtain ⟨category, member, coded⟩ := List.countP_pos_iff.mp (Nat.pos_of_ne_zero nonzero)
    refine mem_samples_iff.mpr ⟨nonzero, Or.inl ⟨category, member, ?_⟩⟩
    rw [counted (of_decide_eq_true coded), of_decide_eq_true coded]

end Counters

end CommitmentLog
