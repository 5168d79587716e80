import DqScoring.Common.RuleParameters
import DqScoring.Common.StructuredValues

/-!
# Spelling dictionaries

`adapters/compute/spelling_dictionary.py`: the words of a text, what a spelling evaluator
says of it, and the manager of the dictionaries of the manifest. `Spelling` holds what
comes from the Unicode tables and from the Hunspell library. A lookup can raise; the
evaluators' caches of earlier lookups do not show.
-/

namespace DqScoring

/-- A verified pair of dictionary files. -/
structure DictionaryFile where
  affSha256 : String
  dicSha256 : String
  affBytes : List UInt8
  dicBytes : List UInt8

/-- A loaded dictionary, as its lookup. -/
abbrev SpellingDictionary := String → Except PyError Bool

/-- Unicode tables and the dictionary loader. -/
structure Spelling where
  /-- `unicodedata.normalize("NFC", text).casefold()`. -/
  normalize : String → String
  /-- The major category of a character. -/
  category : Char → Char
  /-- `Dictionary.from_files`. -/
  fromFiles : DictionaryFile → Except PyError SpellingDictionary

/-! ### Words -/

/-- The loop of `tokenize_for_spelling`, with the word read so far. -/
def tokenLoop (category : Char → Char) : List Char → List Char → List String
  | word, [] => if word.isEmpty then [] else [String.ofList word]
  | word, c :: cs =>
    let letterNext := match cs with
      | next :: _ => category next == 'L'
      | [] => false
    -- an apostrophe belongs to a word between two letters
    let internalApostrophe := c.toNat == 39 && !word.isEmpty && letterNext
    if category c == 'L' || (category c == 'M' && !word.isEmpty) || internalApostrophe then
      tokenLoop category (word ++ [c]) cs
    else if word.isEmpty then tokenLoop category [] cs
    else String.ofList word :: tokenLoop category [] cs

/-- `tokenize_for_spelling`: the words of a text, normalized. -/
def tokenizeForSpelling (spelling : Spelling) (text : String) : List String :=
  tokenLoop spelling.category [] (spelling.normalize text).toList

/-! ### Evaluators -/

/-- A spelling evaluator. -/
structure SpellingEvaluator where
  dictionaries : List SpellingDictionary
  acceptedTerms : List String

/-- Some dictionary knows the word; later dictionaries are not asked. -/
def isKnown (token : String) : List SpellingDictionary → Except PyError Bool
  | [] => .ok false
  | lookup :: dictionaries => do
    if ← lookup token then return true
    isKnown token dictionaries

namespace SpellingEvaluator

/-- The constructor, with the accepted terms normalized. -/
def create (spelling : Spelling) (dictionaries : List SpellingDictionary)
    (acceptedTerms : List String) : SpellingEvaluator where
  dictionaries
  acceptedTerms := acceptedTerms.map spelling.normalize

/-- The loop over the words: the first unknown word fails the text. -/
def evaluateTokens (e : SpellingEvaluator) : List String → Except PyError CellLabel
  | [] => .ok .passed
  | token :: tokens =>
    if e.acceptedTerms.contains token then e.evaluateTokens tokens
    else do
      if ← isKnown token e.dictionaries then e.evaluateTokens tokens
      else return .failed

/-- `SpellingEvaluator.evaluate`. -/
def evaluate (spelling : Spelling) (e : SpellingEvaluator) (value : Option String) :
    Except PyError CellLabel :=
  match value with
  | none => .ok .missing
  | some text =>
    if pyStrip text = "" then .ok .missing
    else
      -- only what is left after the exclusions is looked up
      match tokenizeForSpelling spelling text with
      | [] => .ok .notApplicable
      | tokens => e.evaluateTokens tokens

end SpellingEvaluator

/-! ### The manager -/

/-- The dictionaries of the manifest, once verified. -/
structure SpellingDictionaryManager where
  configured : Bool
  revision : Option String
  verifiedFiles : List (String × List DictionaryFile)

namespace SpellingDictionaryManager

/-- The languages a rule asks for. -/
def languages (language : String) : List String :=
  if language = "vi-en" then ["vi", "en"] else [language]

/-- `get_bundle`. -/
def getBundle (m : SpellingDictionaryManager) (revision language : String) :
    Except PyError (List DictionaryFile) :=
  -- the revision is pinned, another one is not served
  if m.configured = false ∨ m.revision ≠ some revision then
    .error (.valueError ("Dictionary revision '" ++ revision ++ "' is unavailable"))
  else do
    let bundles ← (languages language).mapM fun l =>
      match m.verifiedFiles.lookup l with
      | some files => .ok files
      | none => .error (.valueError ("Language '" ++ l ++ "' is not configured in manifest"))
    return bundles.flatten

/-- `get_digests`. -/
def getDigests (m : SpellingDictionaryManager) (revision language : String) :
    Except PyError DictionaryDigests := do
  -- raises where a language is not configured, so each language below is
  let _ ← m.getBundle revision language
  return (languages language).map fun l =>
    (l, ((m.verifiedFiles.lookup l).getD []).map fun file =>
      [("aff_sha256", file.affSha256), ("dic_sha256", file.dicSha256)])

/-- `create_evaluator_from_bundle`. -/
def createEvaluatorFromBundle (spelling : Spelling) (bundle : List DictionaryFile)
    (acceptedTerms : List String) : Except PyError SpellingEvaluator := do
  let dictionaries ← bundle.mapM spelling.fromFiles
  return .create spelling dictionaries acceptedTerms

/-- `create_evaluator`. -/
def createEvaluator (spelling : Spelling) (m : SpellingDictionaryManager)
    (revision language : String) (acceptedTerms : List String) :
    Except PyError SpellingEvaluator := do
  let bundle ← m.getBundle revision language
  createEvaluatorFromBundle spelling bundle acceptedTerms

end SpellingDictionaryManager

end DqScoring
