import DqScoring.Compute.Partition
import DqScoring.Compute.TextRuleCompiler
import DqScoring.Framework.BoundedCache

/-!
# The caches of the spelling checks

A worker keeps the evaluators of the last digests, and an evaluator the words it has looked up.
`Sound` is what one word preserves of an evaluator and `Holds` what one call preserves of a
worker; with them a cached label is the label of a fresh evaluator (`spellLabels_eq`).
-/

namespace DqScoring

open Framework

variable {δ : Type}

/-! ### Evaluators with a cache -/

/-- `_cache_capacity`. -/
def cacheCapacity : ℕ := 4096

/-- A spelling evaluator with the words it has looked up, the oldest use first. -/
structure CachedEvaluator where
  evaluator : SpellingEvaluator
  cache : List (String × Bool) := []

namespace CachedEvaluator

/-- Whether a word is known, from the cache where it is there. -/
def isKnown (e : CachedEvaluator) (token : String) : Except PyError Bool × CachedEvaluator :=
  match e.cache.lookup token with
  | some known => (.ok known, { e with cache := moveToEnd token e.cache })
  | none =>
    match DqScoring.isKnown token e.evaluator.dictionaries with
    | .ok known => (.ok known, { e with cache := insertEvicting cacheCapacity token known e.cache })
    | .error err => (.error err, e)

/-- The loop over the words, with the cache. -/
def evaluateTokens (e : CachedEvaluator) : List String → Except PyError CellLabel × CachedEvaluator
  | [] => (.ok .passed, e)
  | token :: tokens =>
    if e.evaluator.acceptedTerms.contains token then e.evaluateTokens tokens
    else
      match e.isKnown token with
      | (.ok true, e') => e'.evaluateTokens tokens
      -- the words that follow are not looked up
      | (.ok false, e') => (.ok .failed, e')
      | (.error err, e') => (.error err, e')

/-- `SpellingEvaluator.evaluate`, with the cache. -/
def evaluate (spelling : Spelling) (e : CachedEvaluator) (value : Option String) :
    Except PyError CellLabel × CachedEvaluator :=
  match value with
  | none => (.ok .missing, e)
  | some text =>
    -- blank cells and cells without words never reach the caches
    if pyStrip text = "" then (.ok .missing, e)
    else
      match tokenizeForSpelling spelling text with
      | [] => (.ok .notApplicable, e)
      | tokens => e.evaluateTokens tokens

/-- The cache holds what the dictionaries say, and not too much. -/
structure Sound (e : CachedEvaluator) : Prop where
  entries : Caches (fun token known =>
    DqScoring.isKnown token e.evaluator.dictionaries = .ok known) e.cache
  bounded : e.cache.length ≤ cacheCapacity

/-- What a use of an evaluator gives: the result without the cache, and a sound evaluator with
the same dictionaries and terms. -/
structure Agrees {β : Type} (e : CachedEvaluator) (plain : Except PyError β)
    (cached : Except PyError β × CachedEvaluator) : Prop where
  result : cached.1 = plain
  evaluator : cached.2.evaluator = e.evaluator
  sound : cached.2.Sound

/-- A fresh cache is sound. -/
theorem sound_fresh (evaluator : SpellingEvaluator) : Sound { evaluator } :=
  ⟨caches_nil, Nat.zero_le _⟩

variable {e : CachedEvaluator}

/-- The cached lookup answers as the dictionaries do and keeps the cache sound. -/
theorem Sound.isKnown (h : e.Sound) (token : String) :
    Agrees e (DqScoring.isKnown token e.evaluator.dictionaries) (e.isKnown token) := by
  unfold CachedEvaluator.isKnown
  cases h_lookup : e.cache.lookup token with
  | some known =>
    exact {
      result := (h.entries.lookup h_lookup).symm
      evaluator := rfl
      sound := ⟨h.entries.moveToEnd token, (length_moveToEnd_le token _).trans h.bounded⟩ }
  | none =>
    cases h_known : DqScoring.isKnown token e.evaluator.dictionaries with
    | ok known =>
      exact {
        result := rfl
        evaluator := rfl
        sound := ⟨h.entries.insertEvicting h_known cacheCapacity,
          length_insertEvicting_le (by decide) h.bounded token known⟩ }
    | error err => exact ⟨rfl, rfl, h⟩

/-- The loop over the tokens answers as without the cache; the induction is on the tokens.
-/
theorem Sound.evaluateTokens (h : e.Sound) (tokens : List String) :
    Agrees e (e.evaluator.evaluateTokens tokens) (e.evaluateTokens tokens) := by
  induction tokens generalizing e with
  | nil => exact ⟨rfl, rfl, h⟩
  | cons token tokens ih =>
    rw [CachedEvaluator.evaluateTokens, SpellingEvaluator.evaluateTokens]
    split
    case isTrue => exact ih h
    case isFalse =>
      have h_known := h.isKnown token
      generalize e.isKnown token = cached at h_known
      obtain ⟨result, e'⟩ := cached
      obtain ⟨h_result, h_evaluator, h_sound⟩ := h_known
      rw [← show result = _ from h_result]
      cases result with
      | error err => exact ⟨rfl, h_evaluator, h_sound⟩
      | ok known =>
        cases known with
        | false => exact ⟨rfl, h_evaluator, h_sound⟩
        | true =>
          -- the rest is read with the same dictionaries and terms
          have h_rest := ih h_sound
          rw [show e'.evaluator = e.evaluator from h_evaluator] at h_rest
          exact ⟨h_rest.result, h_rest.evaluator.trans h_evaluator, h_rest.sound⟩

/-- **The cache of an evaluator does not show.** -/
theorem Sound.evaluate (h : e.Sound) (spelling : Spelling) (value : Option String) :
    Agrees e (e.evaluator.evaluate spelling value) (e.evaluate spelling value) := by
  unfold CachedEvaluator.evaluate SpellingEvaluator.evaluate
  cases value with
  | none => exact ⟨rfl, rfl, h⟩
  | some text =>
    dsimp only
    split
    case isTrue => exact ⟨rfl, rfl, h⟩
    case isFalse =>
      cases tokenizeForSpelling spelling text with
      | nil => exact ⟨rfl, rfl, h⟩
      | cons token tokens => exact h.evaluateTokens (token :: tokens)

end CachedEvaluator

/-! ### Workers -/

/-- The number of evaluators that a worker keeps. -/
def workerCapacity : ℕ := 3

/-- `_WORKER_SPELLING_CACHE`: the evaluators by digest, the first created first. -/
abbrev SpellingWorker := List (String × CachedEvaluator)

/-- The arguments of a call. -/
structure SpellCall where
  value : Option String
  bundle : List DictionaryFile
  digest : String
  acceptedTerms : List String

/-- `_spell_label`, with the caches. -/
def cachedSpellLabel (rt : Runtime δ) (worker : SpellingWorker) (call : SpellCall) :
    Except PyError CellLabel × SpellingWorker :=
  match worker.lookup call.digest with
  | some e =>
    let (label, e') := e.evaluate rt.spelling call.value
    (label, replaceValue call.digest e' worker)
  | none =>
    match SpellingDictionaryManager.createEvaluatorFromBundle rt.spelling call.bundle
        call.acceptedTerms with
    | .error err => (.error err, worker)
    | .ok evaluator =>
      let (label, e') := CachedEvaluator.evaluate rt.spelling { evaluator } call.value
      -- the evaluator is in the cache before it is used
      (label, replaceValue call.digest e'
        (insertEvicting workerCapacity call.digest { evaluator } worker))

/-- The labels of a sequence of calls. -/
def spellLabels (rt : Runtime δ) : SpellingWorker → List SpellCall →
    List (Except PyError CellLabel) × SpellingWorker
  | worker, [] => ([], worker)
  | worker, call :: calls =>
    let (label, worker') := cachedSpellLabel rt worker call
    let (labels, worker'') := spellLabels rt worker' calls
    (label :: labels, worker'')

/-- What a worker holds: sound evaluators of the contents that the digests stand for, and not
too many. -/
structure Holds (rt : Runtime δ) (contents : String → List DictionaryFile × List String)
    (worker : SpellingWorker) : Prop where
  entries : Caches (fun digest e =>
    SpellingDictionaryManager.createEvaluatorFromBundle rt.spelling (contents digest).1
        (contents digest).2 = .ok e.evaluator ∧ e.Sound) worker
  bounded : worker.length ≤ workerCapacity

section Worker

variable {rt : Runtime δ} {contents : String → List DictionaryFile × List String}
  {worker : SpellingWorker}

theorem holds_nil : Holds rt contents [] := ⟨caches_nil, Nat.zero_le _⟩

/-- A call gives the label of a fresh evaluator and leaves a worker that holds what it should. -/
theorem Holds.call (h : Holds rt contents worker) {call : SpellCall}
    (h_call : contents call.digest = (call.bundle, call.acceptedTerms)) :
    (cachedSpellLabel rt worker call).1 =
        spellLabel rt call.bundle call.acceptedTerms call.value ∧
      Holds rt contents (cachedSpellLabel rt worker call).2 := by
  unfold cachedSpellLabel spellLabel
  cases h_lookup : worker.lookup call.digest with
  | some e =>
    obtain ⟨h_created, h_sound⟩ := h.entries.lookup h_lookup
    have h_agrees := h_sound.evaluate rt.spelling call.value
    have h_fresh : SpellingDictionaryManager.createEvaluatorFromBundle rt.spelling call.bundle
        call.acceptedTerms = .ok e.evaluator := by rwa [h_call] at h_created
    rw [h_fresh]
    refine ⟨h_agrees.result, ?_, ?_⟩
    · exact h.entries.replaceValue ⟨h_created.trans (congrArg _ h_agrees.evaluator.symm),
        h_agrees.sound⟩
    · exact (length_replaceValue call.digest _ worker).trans_le h.bounded
  | none =>
    dsimp only
    cases h_fresh : SpellingDictionaryManager.createEvaluatorFromBundle rt.spelling call.bundle
        call.acceptedTerms with
    | error err => exact ⟨rfl, h⟩
    | ok evaluator =>
      have h_created : SpellingDictionaryManager.createEvaluatorFromBundle rt.spelling
          (contents call.digest).1 (contents call.digest).2 = .ok evaluator := by
        rwa [h_call]
      have h_sound := CachedEvaluator.sound_fresh evaluator
      have h_agrees := h_sound.evaluate rt.spelling call.value
      refine ⟨h_agrees.result, ?_, ?_⟩
      · refine Caches.replaceValue ?_ ⟨h_created.trans (congrArg _ h_agrees.evaluator.symm),
          h_agrees.sound⟩
        exact h.entries.insertEvicting ⟨h_created, h_sound⟩ workerCapacity
      · rw [length_replaceValue]
        exact length_insertEvicting_le (by decide) h.bounded call.digest _

/-- A sequence of calls answers as without caches; the induction is on the calls. -/
theorem Holds.calls (h : Holds rt contents worker) {calls : List SpellCall}
    (h_calls : ∀ call ∈ calls, contents call.digest = (call.bundle, call.acceptedTerms)) :
    (spellLabels rt worker calls).1 =
        calls.map (fun call => spellLabel rt call.bundle call.acceptedTerms call.value) ∧
      Holds rt contents (spellLabels rt worker calls).2 := by
  induction calls generalizing worker with
  | nil => exact ⟨rfl, h⟩
  | cons call calls ih =>
    obtain ⟨h_label, h_worker⟩ := h.call (h_calls call List.mem_cons_self)
    obtain ⟨h_labels, h_rest⟩ := ih h_worker fun other h_other =>
      h_calls other (List.mem_cons_of_mem call h_other)
    refine ⟨?_, h_rest⟩
    show (cachedSpellLabel rt worker call).1 ::
      (spellLabels rt (cachedSpellLabel rt worker call).2 calls).1 = _
    rw [h_label, h_labels, List.map_cons]

end Worker

/-- **The caches do not show**: where a digest stands for its dictionaries and terms, every label
of a sequence of calls is that of a fresh evaluator, and after each call neither cache exceeds
its capacity. -/
theorem spellLabels_transparent (rt : Runtime δ)
    (contents : String → List DictionaryFile × List String) (calls : List SpellCall)
    (h : ∀ call ∈ calls, contents call.digest = (call.bundle, call.acceptedTerms)) :
    (spellLabels rt [] calls).1 =
        calls.map (fun call => spellLabel rt call.bundle call.acceptedTerms call.value) ∧
      ∀ done, done <+: calls →
        (spellLabels rt [] done).2.length ≤ 3 ∧
          ∀ entry ∈ (spellLabels rt [] done).2, entry.2.cache.length ≤ 4096 := by
  refine ⟨(holds_nil.calls h).1, fun done h_done => ?_⟩
  have h_holds := ((holds_nil : Holds rt contents []).calls fun call h_call =>
    h call (h_done.subset h_call)).2
  exact ⟨h_holds.bounded, fun entry h_entry => (h_holds.entries entry h_entry).2.bounded⟩

/-- A call of a digest for a value. -/
def termCall (digest term value : String) : SpellCall :=
  { value := some value, bundle := [], digest, acceptedTerms := [term] }

/-- Calls with four digests, the first of which comes again at the end. -/
def fourDigests : List SpellCall := [
  termCall "d1" "pos" "pos", termCall "d2" "qr" "pos", termCall "d3" "qr" "qr",
  termCall "d4" "pos" "qr", termCall "d1" "pos" "pos"]

/-- What their digests stand for. -/
def termContents (digest : String) : List DictionaryFile × List String :=
  ([], [if digest = "d1" ∨ digest = "d4" then "pos" else "qr"])

/-- The fourth digest takes the place of the first, which the last call loads again. -/
theorem spellLabels_transparent_fourDigests :
    (spellLabels literalRuntime [] fourDigests).1 =
        [.ok .passed, .ok .failed, .ok .passed, .ok .failed, .ok .passed] ∧
      (spellLabels literalRuntime [] (fourDigests.take 4)).2.map Prod.fst = ["d2", "d3", "d4"] ∧
      (spellLabels literalRuntime [] fourDigests).2.map Prod.fst = ["d3", "d4", "d1"] := by
  have h_contents : ∀ call ∈ fourDigests,
      termContents call.digest = (call.bundle, call.acceptedTerms) := by
    intro call h_call
    simp only [fourDigests, List.mem_cons, List.not_mem_nil, or_false] at h_call
    rcases h_call with rfl | rfl | rfl | rfl | rfl <;> rfl
  refine ⟨?_, by decide +kernel, by decide +kernel⟩
  rw [(spellLabels_transparent literalRuntime termContents fourDigests h_contents).1]
  rfl

end DqScoring
