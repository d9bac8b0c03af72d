import AidnSpec.Base.Decimal
import AidnSpec.Base.Schema
import Mathlib.Algebra.GroupWithZero.Nat

/-!
# Charges and quotes of a rate card

`pricing/models.py:23–116`, `pricing/charges.py` and `pricing/quotes.py`. What a charge and a quote
do not read of a component (its accounting mode, its authority, its qualifiers) is left out, and the
hash of the card is a text.
-/

namespace AidnSpec.Pricing

open Base List

inductive BillingDimension where
  | requestCount | inputTokens | cachedInputTokens | outputTokens | textInputCharacters
  | audioInputMilliseconds | audioOutputMilliseconds | imageInputCount | imageOutputCount
  | imageInputPixels | imageOutputPixels | imageInputTokens | imageOutputTokens
  | videoInputMilliseconds | videoOutputMilliseconds | idleMilliseconds

namespace BillingDimension

def toText : BillingDimension → String
  | requestCount => "request_count"
  | inputTokens => "input_tokens"
  | cachedInputTokens => "cached_input_tokens"
  | outputTokens => "output_tokens"
  | textInputCharacters => "text_input_characters"
  | audioInputMilliseconds => "audio_input_milliseconds"
  | audioOutputMilliseconds => "audio_output_milliseconds"
  | imageInputCount => "image_input_count"
  | imageOutputCount => "image_output_count"
  | imageInputPixels => "image_input_pixels"
  | imageOutputPixels => "image_output_pixels"
  | imageInputTokens => "image_input_tokens"
  | imageOutputTokens => "image_output_tokens"
  | videoInputMilliseconds => "video_input_milliseconds"
  | videoOutputMilliseconds => "video_output_milliseconds"
  | idleMilliseconds => "idle_milliseconds"

def ofText (text : String) : Option BillingDimension :=
  [requestCount, inputTokens, cachedInputTokens, outputTokens, textInputCharacters,
    audioInputMilliseconds, audioOutputMilliseconds, imageInputCount, imageOutputCount,
    imageInputPixels, imageOutputPixels, imageInputTokens, imageOutputTokens,
    videoInputMilliseconds, videoOutputMilliseconds, idleMilliseconds].find? (·.toText == text)

end BillingDimension

inductive RateKind where
  | fixed
  | metered
  deriving DecidableEq

inductive UnavailableValuePolicy where
  | requestRejectedBeforeExecution
  | fixedFallback
  | observableFallback
  | partialCharge
  | zeroVariableComponent
  | forcedSettlementReview
  deriving DecidableEq

structure RateComponent where
  componentId : String
  dimension : BillingDimension
  kind : RateKind := .metered
  unitPrice : ℕ
  unitDivisor : ℕ := 1
  sourceValueScale : ℕ := 1
  rounding : Rounding := .down
  unavailableValuePolicy : UnavailableValuePolicy := .requestRejectedBeforeExecution
  divisor_pos : 0 < unitDivisor := by decide
  scale_pos : 0 < sourceValueScale := by decide
  fixed_counts : kind = .fixed →
    dimension = .requestCount ∧ unitDivisor = 1 ∧ sourceValueScale = 1 := by decide

structure RateChargeComponent where
  componentId : String
  dimension : BillingDimension
  measuredValue : ℕ
  normalizedValue : ℕ
  unitPrice : ℕ
  unitDivisor : ℕ
  charge : ℕ

def divide (value divisor : ℕ) (rounding : Rounding) : ℕ := roundRatio value divisor rounding

def componentCharge (component : RateComponent) (measuredValue : ℕ) : RateChargeComponent where
  componentId := component.componentId
  dimension := component.dimension
  measuredValue := measuredValue
  normalizedValue := measuredValue * component.sourceValueScale
  unitPrice := component.unitPrice
  unitDivisor := component.unitDivisor
  charge := divide (measuredValue * component.sourceValueScale * component.unitPrice)
    component.unitDivisor component.rounding

/-- `usage.get(dimension)`. -/
def measured (usage : Fields) (dimension : BillingDimension) : PyValue :=
  PyValue.get usage dimension.toText

/-- The two checks of a measured value. -/
def checkedValue (subject : String) (dimension : BillingDimension) : PyValue → Except PyError ℕ
  | .int n =>
    if n < 0 then raiseValue (subject ++ " cannot be negative: " ++ dimension.toText)
    else .ok n.toNat
  | _ => raiseValue (subject ++ " must be an integer: " ++ dimension.toText)

/-- The accumulators of the loop over the components. -/
structure Quoted where
  known : List RateChargeComponent := []
  missing : List BillingDimension := []

/-- One pass of the loop over the components. -/
def Quoted.add (usage : Fields) (quoted : Quoted) (component : RateComponent) :
    Except PyError Quoted :=
  let charged (value : ℕ) : Quoted :=
    { quoted with known := quoted.known ++ [componentCharge component value] }
  if component.kind = .fixed then .ok (charged 1)
  else
    match measured usage component.dimension with
    | .none => .ok { quoted with missing := quoted.missing ++ [component.dimension] }
    | value => do
      let value ← checkedValue "Quote Usage dimension" component.dimension value
      return charged value

/-- A usage that keeps what another one measures. -/
def Extends (usage later : Fields) : Prop :=
  ∀ dimension, measured usage dimension ≠ .none →
    measured later dimension = measured usage dimension

/-- A usage that measures at least as much in every dimension. -/
def Rises (usage later : Fields) : Prop :=
  ∀ dimension n, measured usage dimension = .int n →
    ∃ n', n ≤ n' ∧ measured later dimension = .int n'

variable {usage later : Fields} {card : RateCardV2} {component : RateComponent}
  {components : List RateComponent} {quoted next : Quoted}
  {breakdown breakdown' : List RateChargeComponent} {dimension : BillingDimension}
  {subject : String} {value : PyValue} {m n : ℕ}

end AidnSpec.Pricing
