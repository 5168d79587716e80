import DqScoring.Common.EvidencePayload
import DqScoring.Store.AssessmentStore

/-!
# The evidence of an assessment

`_insert_quality_results` gives each result what the earlier ones leave of the budget. A
payload fits into it, or it has no key and is stored as NULL, which is why the sum of what is
stored stays within the budget although the loop counts two bytes for each empty payload.
-/

namespace DqScoring

variable {σ π : Type}

/-- The payload of each result, none where it is stored as NULL. -/
def storedPayloads (prepare : Option (List σ) → Option String → ℕ → π) (isEmpty : π → Bool)
    (encodedSize : π → ℕ) (totalEvidenceBytes : ℕ) :
    List (Option (List σ) × Option String) → List (Option π)
  | [] => []
  | (samples, errorMessage) :: results =>
    -- what the results before have left
    let remBudget := maxEvidenceBytes - totalEvidenceBytes
    let evPayload := prepare samples errorMessage (min maxEvidenceBytes remBudget)
    (if isEmpty evPayload then none else some evPayload) ::
      storedPayloads prepare isEmpty encodedSize
        (totalEvidenceBytes + encodedSize evPayload) results

/-- The rows of the store hold these payloads. -/
theorem resultRows_evidencePayload {α : Type} (rt : StoreRuntime) (a : ImmutableAssessment α)
    (rulesetId : Option Uuid) (usedBytes : ℕ) (results : List (QualityRuleResult α)) :
    (resultRows rt a rulesetId usedBytes results).map (·.evidencePayload) =
      storedPayloads rt.prepareBoundedEvidencePayload EvidencePayload.isEmpty rt.encodedSize
        usedBytes (results.map fun r => (r.evidenceSamples, r.errorMessage)) := by
  induction results generalizing usedBytes with
  | nil => rfl
  | cons r rs ih =>
    rw [resultRows, List.map_cons, ih, List.map_cons, storedPayloads]
    rfl

/-- What is stored stays within what is left, whatever the number of results. -/
theorem sum_storedPayloads_le {prepare : Option (List σ) → Option String → ℕ → π}
    {isEmpty : π → Bool} {encodedSize : π → ℕ}
    (h_fits : ∀ samples errorMessage maxBytes,
      isEmpty (prepare samples errorMessage maxBytes) = true ∨
        encodedSize (prepare samples errorMessage maxBytes) ≤ maxBytes)
    (totalEvidenceBytes : ℕ) (results : List (Option (List σ) × Option String)) :
    ((storedPayloads prepare isEmpty encodedSize totalEvidenceBytes results).map fun p =>
      (p.map encodedSize).getD 0).sum ≤ maxEvidenceBytes - totalEvidenceBytes := by
  induction results generalizing totalEvidenceBytes with
  | nil => exact Nat.zero_le _
  | cons r rs ih =>
    obtain ⟨samples, errorMessage⟩ := r
    rw [storedPayloads]
    generalize h_payload : prepare samples errorMessage
      (min maxEvidenceBytes (maxEvidenceBytes - totalEvidenceBytes)) = payload
    have h_payload_fits := h_fits samples errorMessage
      (min maxEvidenceBytes (maxEvidenceBytes - totalEvidenceBytes))
    rw [h_payload] at h_payload_fits
    have h_rest := ih (totalEvidenceBytes + encodedSize payload)
    rw [List.map_cons, List.sum_cons]
    split
    · show 0 + _ ≤ _
      omega
    · next h_some =>
      have h_size := h_payload_fits.resolve_left h_some
      show encodedSize payload + _ ≤ _
      omega

namespace UnicodeTables

variable (k : UnicodeTables)

/-- The payload of a result in the store. -/
def resultPayload (samples : Option (List EvidenceRow)) (errorMessage : Option String)
    (maxBytes : ℕ) : BoundedPayload :=
  k.prepareBoundedEvidencePayload samples errorMessage maxEvidenceRowsPerResult maxBytes

theorem resultPayload_fits (samples : Option (List EvidenceRow)) (errorMessage : Option String)
    (maxBytes : ℕ) : (k.resultPayload samples errorMessage maxBytes).isEmpty = true ∨
      (k.resultPayload samples errorMessage maxBytes).encodedSize ≤ maxBytes := by
  by_cases h_max : maxBytes < 2
  · refine Or.inl ?_
    rw [resultPayload, prepareBoundedEvidencePayload, if_pos h_max]
    rfl
  · exact Or.inr (prepareBoundedEvidencePayload_spec k samples errorMessage (by decide)
      (Nat.le_of_not_lt h_max)).1

theorem evidence_bounded :
    (∀ samples errorMessage maxBytes, 2 ≤ maxBytes →
      (k.resultPayload samples errorMessage maxBytes).encodedSize ≤ maxBytes ∧
        ∃ n ≤ maxEvidenceRowsPerResult,
          (k.resultPayload samples errorMessage maxBytes).evidenceSamples.getD [] =
            ((samples.getD []).take n).map k.redactSampleRow) ∧
      ∀ results, ((storedPayloads k.resultPayload BoundedPayload.isEmpty
        BoundedPayload.encodedSize 0 results).map fun p =>
          (p.map BoundedPayload.encodedSize).getD 0).sum ≤ maxEvidenceBytes := by
  refine ⟨fun samples errorMessage maxBytes h_max => ?_, fun results => ?_⟩
  · obtain ⟨h_size, h_begins⟩ :=
      prepareBoundedEvidencePayload_spec k samples errorMessage
        (show 0 < maxEvidenceRowsPerResult by decide) h_max
    rw [List.prefix_iff_eq_take, ← List.map_take, List.take_take] at h_begins
    exact ⟨h_size, _, Nat.min_le_right _ _, h_begins⟩
  · exact sum_storedPayloads_le k.resultPayload_fits 0 results

/-- With thirty bytes there is no room for the sample, but for the message. -/
theorem evidence_bounded_thirty :
    (asciiTables.resultPayload (some [[("driver_name", .str "Carol")]]) (some "late")
      30).encodedSize
      ≤ 30 :=
  ((evidence_bounded asciiTables).1 (some [[("driver_name", .str "Carol")]]) (some "late") 30
    (by decide)).1

end UnicodeTables

end DqScoring
