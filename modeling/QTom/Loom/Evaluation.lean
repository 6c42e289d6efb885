import QTom.Loom.Ledger
import QTom.Router.Score

/- Evaluation fixtures (`loom_model.rs`) and their ledger. Scores and temperatures are
   f32 values. A score is checked against the range 0 to 1 as `contains` does, so a NaN
   is refused; a temperature is not checked. -/
namespace QTom.Loom
open QTom.Lib QTom.Router
variable {F : Type}

structure EvaluatorConfig (F : Type) where
  model : String
  rubricVersion : String
  promptVersion : String
  scoringSchemaVersion : String
  temperature : F
  seed : Option Nat
  deriving DecidableEq, Repr

structure EvaluationFixture (F : Type) where
  evaluationId : Nat
  evaluator : EvaluatorConfig F
  taskId : Nat
  artifactRefs : List Nat
  score : F
  rationale : String
  deriving DecidableEq, Repr

section
variable [F32 F]

/-- `(0.0..=1.0).contains(&score)`. -/
def unitScore (score : F) : Bool :=
  (F32.lt F32.zero score || F32.eq F32.zero score) && (F32.lt score F32.one || F32.eq score F32.one)

def ensureUnitScore (score : F) : Except LoomModelError Unit :=
  if unitScore score then .ok ()
  else .error (.invalidNumericField "score" "must be between 0 and 1")

theorem ensureUnitScore_ok_iff {score : F} : ensureUnitScore score = .ok () ↔ unitScore score = true := by
  unfold ensureUnitScore
  split <;> simp_all

def EvaluationFixture.new (evaluationId : Nat) (evaluator : EvaluatorConfig F) (taskId : Nat)
    (artifactRefs : List Nat) (score : F) (rationale : String) :
    Except LoomModelError (EvaluationFixture F) := do
  ensureNotEmptyCollection "artifact_refs" artifactRefs
  ensureUnitScore score
  ensureNotEmpty "rationale" rationale
  return { evaluationId, evaluator, taskId, artifactRefs, score, rationale }

theorem EvaluationFixture.new_ok_iff {evaluationId : Nat} {evaluator : EvaluatorConfig F}
    {taskId : Nat} {artifactRefs : List Nat} {score : F} {rationale : String}
    {fixture : EvaluationFixture F} :
    new evaluationId evaluator taskId artifactRefs score rationale = .ok fixture ↔
      (artifactRefs ≠ [] ∧ unitScore score = true ∧ isBlank rationale = false) ∧
        fixture = ⟨evaluationId, evaluator, taskId, artifactRefs, score, rationale⟩ := by
  unfold new
  rw [then_ok_iff, then_ok_iff, then_ok_iff, ensureNotEmptyCollection_ok_iff,
    ensureUnitScore_ok_iff, ensureNotEmpty_ok_iff]
  simp only [pure, Except.pure, Except.ok.injEq, and_assoc, eq_comm (a := fixture)]

end

/-! The ledger. -/

def validateUniqueEvaluationIds (fixtures : List (EvaluationFixture F)) : Except LoomModelError Unit :=
  validateUnique EvaluationFixture.evaluationId .duplicateEvaluationId fixtures

def writeEvaluationFixturesJsonl (codec : Codec (EvaluationFixture F)) (file : File)
    (fixtures : List (EvaluationFixture F)) : Except LoomModelError Unit × File :=
  writeLedger validateUniqueEvaluationIds codec file fixtures

def readEvaluationFixturesJsonl (codec : Codec (EvaluationFixture F)) (path : String) (file : File) :
    Except LoomModelError (List (EvaluationFixture F)) :=
  readLedger validateUniqueEvaluationIds codec path file

def appendEvaluationFixtureJsonl (codec : Codec (EvaluationFixture F)) (path : String) (file : File)
    (fixture : EvaluationFixture F) : Except LoomModelError Unit × File :=
  appendLedger validateUniqueEvaluationIds codec path file fixture

end QTom.Loom
