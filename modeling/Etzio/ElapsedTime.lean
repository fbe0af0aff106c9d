import Mathlib
import Etzio.AcquisitionCustody
import Etzio.ClockBounds

/-!
# Elapsed time

The conditional gate of `native_time_elapsed_v1` : a time authority's interval is moved, by the
differences of a local counter, to the time of receipt and to the time of use. Units change from
nanoseconds to microseconds to seconds, and every division is rounded outward.

* `elapsed_time_sound` : under the declared clock assumptions, the projected intervals contain
  the true times, and the two ceilings bound the true delays.
* `evaluate_sound` : an accepted evaluation places the true time of use in its window.

The RFC 3161 codecs are the parameter `NativeCodec`. An error is its reason code.
-/

open CheckedRun ClockBounds JsonText

namespace Etzio

variable (nfc : String → Bool) (sha256 : ByteArray → BitVec 256)

/-! ## Records -/

/-- `_BILLION`. -/
def billion : ℤ := 1000000000

/-- `_MAX_COUNTER`. -/
def maxCounter : ℤ := 2 ^ 63 - 1

/-- `_MAX_UTC_US`, the first microsecond of the last representable year. -/
def maxUtcUs : ℤ := 253370764800000000

/-- `_SEMANTICS`. -/
def elapsedClockSemantics : String := "suspend_inclusive_continuous_posix_window_v1"

/-- `_integer`. -/
def requireInteger (value : Json) (lower upper : ℤ) (reason : String) :
    Except String { n : ℤ // lower ≤ n ∧ n ≤ upper } :=
  match int? value with
  | some n => if h : lower ≤ n ∧ n ≤ upper then .ok ⟨n, h⟩ else .error reason
  | none => .error reason

/-- `_identity`. -/
def requireIdentity (value : Json) (reason : String) (pattern : String → Bool) :
    Except String { text : String // pattern text = true } :=
  match str? value with
  | some text => if h : pattern text = true then .ok ⟨text, h⟩ else .error reason
  | none => .error reason

/-- `_decode`, with the names of a record's fields. -/
def decodeElapsed (wire : ByteArray) (fields : List String) (schema : String) :
    Except String Fields := do
  refuseIf (¬(0 < wire.size ∧ wire.size ≤ maxRecord)) "record_size"
  let body ← (strictLoads nfc wire).mapError fun _ => "record_encoding"
  let body ← orRefuse (members? body) "record_shape"
  refuseIf (¬((∀ key ∈ body.map Prod.fst, key ∈ "schema" :: fields) ∧
    ∀ key ∈ "schema" :: fields, key ∈ body.map Prod.fst)) "record_shape"
  let dumped ← (canonicalDumps nfc (.obj body)).mapError fun _ => "record_encoding"
  refuseIf (¬(Fields.text? body "schema" = some schema ∧ dumped = wire)) "record_encoding"
  return body.filter fun member => member.1 ≠ "schema"

/-- `ElapsedTimePolicyV1` : declared clock assumptions and ceilings. -/
structure ElapsedTimePolicyV1 where
  clockProfileId : String
  maxRateErrorPpb : ℤ
  sampleErrorNs : ℤ
  maxAcquisitionNs : ℤ
  maxTotalNs : ℤ
  maxWidthUs : ℤ
  clockSemantics : String
  clock_profile : isContentId clockProfileId = true
  rate_bound : 0 ≤ maxRateErrorPpb ∧ maxRateErrorPpb ≤ 100000000
  sample_error : 0 ≤ sampleErrorNs ∧ sampleErrorNs ≤ billion
  acquisition_ceiling : 1 ≤ maxAcquisitionNs ∧ maxAcquisitionNs ≤ 30 * billion
  total_ceiling : maxAcquisitionNs ≤ maxTotalNs ∧ maxTotalNs ≤ 60 * billion
  width_ceiling : 1 ≤ maxWidthUs ∧ maxWidthUs ≤ 180000000
  clock_semantics : clockSemantics = elapsedClockSemantics

/-- `ElapsedTimePolicyV1.__post_init__`. -/
def ElapsedTimePolicyV1.create (clockProfileId maxRateErrorPpb sampleErrorNs maxAcquisitionNs
    maxTotalNs maxWidthUs clockSemantics : Json) : Except String ElapsedTimePolicyV1 := do
  let profile ← requireIdentity clockProfileId "clock_profile" isContentId
  let rate ← requireInteger maxRateErrorPpb 0 100000000 "rate_bound"
  let sample ← requireInteger sampleErrorNs 0 billion "sample_error"
  let acquisition ← requireInteger maxAcquisitionNs 1 (30 * billion) "acquisition_ceiling"
  let total ← requireInteger maxTotalNs acquisition.1 (60 * billion) "total_ceiling"
  let width ← requireInteger maxWidthUs 1 180000000 "width_ceiling"
  let semantics ← requireIdentity clockSemantics "clock_semantics" (· = elapsedClockSemantics)
  return {
    clockProfileId := profile.1
    maxRateErrorPpb := rate.1
    sampleErrorNs := sample.1
    maxAcquisitionNs := acquisition.1
    maxTotalNs := total.1
    maxWidthUs := width.1
    clockSemantics := semantics.1
    clock_profile := profile.2
    rate_bound := rate.2
    sample_error := sample.2
    acquisition_ceiling := acquisition.2
    total_ceiling := total.2
    width_ceiling := width.2
    clock_semantics := of_decide_eq_true semantics.2 }

def elapsedPolicySchema : String := "etzio.native-time.elapsed-policy.v1"

/-- `_body` of a policy. -/
def ElapsedTimePolicyV1.body (policy : ElapsedTimePolicyV1) : Json :=
  .obj [("schema", .str elapsedPolicySchema), ("clock_profile_id", .str policy.clockProfileId),
    ("max_rate_error_ppb", .int policy.maxRateErrorPpb),
    ("sample_error_ns", .int policy.sampleErrorNs),
    ("max_acquisition_ns", .int policy.maxAcquisitionNs),
    ("max_total_ns", .int policy.maxTotalNs), ("max_width_us", .int policy.maxWidthUs),
    ("clock_semantics", .str policy.clockSemantics)]

/-- `ElapsedTimePolicyV1.to_canonical_bytes`. -/
def ElapsedTimePolicyV1.toCanonicalBytes (policy : ElapsedTimePolicyV1) :
    Except String ByteArray :=
  canonicalDumps nfc policy.body

/-- `ElapsedTimePolicyV1.from_canonical_bytes`. -/
def ElapsedTimePolicyV1.fromCanonicalBytes (wire : ByteArray) :
    Except String ElapsedTimePolicyV1 := do
  let body ← decodeElapsed nfc wire ["clock_profile_id", "max_rate_error_ppb", "sample_error_ns",
    "max_acquisition_ns", "max_total_ns", "max_width_us", "clock_semantics"] elapsedPolicySchema
  let clockProfileId ← decodedItem body "clock_profile_id"
  let maxRateErrorPpb ← decodedItem body "max_rate_error_ppb"
  let sampleErrorNs ← decodedItem body "sample_error_ns"
  let maxAcquisitionNs ← decodedItem body "max_acquisition_ns"
  let maxTotalNs ← decodedItem body "max_total_ns"
  let maxWidthUs ← decodedItem body "max_width_us"
  let clockSemantics ← decodedItem body "clock_semantics"
  ElapsedTimePolicyV1.create clockProfileId maxRateErrorPpb sampleErrorNs maxAcquisitionNs
    maxTotalNs maxWidthUs clockSemantics

/-- `ElapsedTimePolicyV1.policy_id`. -/
def ElapsedTimePolicyV1.policyId (policy : ElapsedTimePolicyV1) : Except String String :=
  contentId nfc sha256 "native_time_elapsed_policy_v1" policy.body

/-- `ElapsedSampleV1`. -/
structure ElapsedSampleV1 where
  clockProfileId : String
  epochId : String
  counterNs : ℤ
  clock_profile : isContentId clockProfileId = true
  clock_epoch : isContentId epochId = true
  counter_bounds : 0 ≤ counterNs ∧ counterNs ≤ maxCounter

/-- `ElapsedSampleV1.__post_init__`. -/
def ElapsedSampleV1.create (clockProfileId epochId counterNs : Json) :
    Except String ElapsedSampleV1 := do
  let profile ← requireIdentity clockProfileId "clock_profile" isContentId
  let epoch ← requireIdentity epochId "clock_epoch" isContentId
  let counter ← requireInteger counterNs 0 maxCounter "counter_bounds"
  return ⟨profile.1, epoch.1, counter.1, profile.2, epoch.2, counter.2⟩

/-- `asdict` of a sample. -/
def ElapsedSampleV1.body (sample : ElapsedSampleV1) : Json :=
  .obj [("clock_profile_id", .str sample.clockProfileId), ("epoch_id", .str sample.epochId),
    ("counter_ns", .int sample.counterNs)]

def elapsedSampleFields : List String := ["clock_profile_id", "epoch_id", "counter_ns"]

/-- A decoded sample of a trace. -/
def ElapsedSampleV1.ofBody (value : Json) : Except String ElapsedSampleV1 := do
  let sample ← orRefuse (members? value) "record_shape"
  refuseIf (¬((∀ key ∈ sample.map Prod.fst, key ∈ elapsedSampleFields) ∧
    ∀ key ∈ elapsedSampleFields, key ∈ sample.map Prod.fst)) "record_shape"
  let clockProfileId ← decodedItem sample "clock_profile_id"
  let epochId ← decodedItem sample "epoch_id"
  let counterNs ← decodedItem sample "counter_ns"
  ElapsedSampleV1.create clockProfileId epochId counterNs

/-- `NativeTimeTraceV1` : the counter before disclosure, at the complete response and at use. -/
structure NativeTimeTraceV1 where
  policyId : String
  attemptId : String
  requestSha256 : String
  responseSha256 : String
  beforeDisclosure : ElapsedSampleV1
  responseComplete : ElapsedSampleV1
  consumed : ElapsedSampleV1
  policy_binding : isContentId policyId = true
  attempt_binding : isContentId attemptId = true
  request_digest : isSha requestSha256 = true
  response_digest : isSha responseSha256 = true
  one_clock_profile : responseComplete.clockProfileId = beforeDisclosure.clockProfileId ∧
    consumed.clockProfileId = beforeDisclosure.clockProfileId
  one_clock_epoch : responseComplete.epochId = beforeDisclosure.epochId ∧
    consumed.epochId = beforeDisclosure.epochId
  no_regression : beforeDisclosure.counterNs ≤ responseComplete.counterNs ∧
    responseComplete.counterNs ≤ consumed.counterNs

/-- `NativeTimeTraceV1.__post_init__`. -/
def NativeTimeTraceV1.create (policyId attemptId requestSha256 responseSha256 : Json)
    (beforeDisclosure responseComplete consumed : ElapsedSampleV1) :
    Except String NativeTimeTraceV1 := do
  let policy ← requireIdentity policyId "policy_binding" isContentId
  let attempt ← requireIdentity attemptId "attempt_binding" isContentId
  let request ← requireIdentity requestSha256 "request_digest" isSha
  let response ← requireIdentity responseSha256 "response_digest" isSha
  let profiles ← requireThat (responseComplete.clockProfileId = beforeDisclosure.clockProfileId ∧
    consumed.clockProfileId = beforeDisclosure.clockProfileId) "mixed_clock_profiles"
  let epochs ← requireThat (responseComplete.epochId = beforeDisclosure.epochId ∧
    consumed.epochId = beforeDisclosure.epochId) "mixed_clock_epochs"
  let counters ← requireThat (beforeDisclosure.counterNs ≤ responseComplete.counterNs ∧
    responseComplete.counterNs ≤ consumed.counterNs) "counter_regression"
  return {
    policyId := policy.1
    attemptId := attempt.1
    requestSha256 := request.1
    responseSha256 := response.1
    beforeDisclosure, responseComplete, consumed
    policy_binding := policy.2
    attempt_binding := attempt.2
    request_digest := request.2
    response_digest := response.2
    one_clock_profile := profiles.2
    one_clock_epoch := epochs.2
    no_regression := counters.2 }

def elapsedTraceSchema : String := "etzio.native-time.elapsed-trace.v1"

/-- `_body` of a trace. -/
def NativeTimeTraceV1.body (trace : NativeTimeTraceV1) : Json :=
  .obj [("schema", .str elapsedTraceSchema), ("policy_id", .str trace.policyId),
    ("attempt_id", .str trace.attemptId), ("request_sha256", .str trace.requestSha256),
    ("response_sha256", .str trace.responseSha256),
    ("before_disclosure", trace.beforeDisclosure.body),
    ("response_complete", trace.responseComplete.body), ("consumed", trace.consumed.body)]

/-- `NativeTimeTraceV1.to_canonical_bytes`. -/
def NativeTimeTraceV1.toCanonicalBytes (trace : NativeTimeTraceV1) : Except String ByteArray :=
  canonicalDumps nfc trace.body

/-- `NativeTimeTraceV1.from_canonical_bytes`. -/
def NativeTimeTraceV1.fromCanonicalBytes (wire : ByteArray) :
    Except String NativeTimeTraceV1 := do
  let body ← decodeElapsed nfc wire ["policy_id", "attempt_id", "request_sha256",
    "response_sha256", "before_disclosure", "response_complete", "consumed"] elapsedTraceSchema
  let beforeDisclosure ← decodedItem body "before_disclosure"
  let beforeDisclosure ← ElapsedSampleV1.ofBody beforeDisclosure
  let responseComplete ← decodedItem body "response_complete"
  let responseComplete ← ElapsedSampleV1.ofBody responseComplete
  let consumed ← decodedItem body "consumed"
  let consumed ← ElapsedSampleV1.ofBody consumed
  let policyId ← decodedItem body "policy_id"
  let attemptId ← decodedItem body "attempt_id"
  let requestSha256 ← decodedItem body "request_sha256"
  let responseSha256 ← decodedItem body "response_sha256"
  NativeTimeTraceV1.create policyId attemptId requestSha256 responseSha256 beforeDisclosure
    responseComplete consumed

/-- `_snapshot`. A typed policy passes its own checks again. -/
def snapshotElapsed (policy : ElapsedTimePolicyV1) (trace : NativeTimeTraceV1) :
    Except String (ElapsedTimePolicyV1 × NativeTimeTraceV1) := do
  let wire ← trace.toCanonicalBytes nfc
  let trace ← NativeTimeTraceV1.fromCanonicalBytes nfc wire
  let policyId ← policy.policyId nfc sha256
  refuseIf (trace.policyId ≠ policyId) "policy_binding"
  refuseIf (trace.beforeDisclosure.clockProfileId ≠ policy.clockProfileId) "clock_profile_binding"
  return (policy, trace)

/-! ## Projection -/

/-- `_ceil_ratio`. -/
def ceilRatio (numerator denominator : ℤ) : ℤ := -((-numerator).fdiv denominator)

/-- `_elapsed_upper`. -/
def elapsedUpper (delta : ℤ) (policy : ElapsedTimePolicyV1) (unitNs : ℤ) : ℤ :=
  ceilRatio ((delta + 2 * policy.sampleErrorNs) * billion)
    ((billion - policy.maxRateErrorPpb) * unitNs)

/-- `_elapsed_lower_us`. -/
def elapsedLowerUs (delta : ℤ) (policy : ElapsedTimePolicyV1) : ℤ :=
  (max 0 (delta - 2 * policy.sampleErrorNs) * billion).fdiv
    ((billion + policy.maxRateErrorPpb) * 1000)

/-- `_project` : the intervals of receipt and of use. -/
def project (lower upper : ℤ) (policy : ElapsedTimePolicyV1) (trace : NativeTimeTraceV1) :
    Except String ((ℤ × ℤ) × (ℤ × ℤ)) := do
  let s := trace.beforeDisclosure.counterNs
  let r := trace.responseComplete.counterNs
  let c := trace.consumed.counterNs
  let receipt := (lower, upper + elapsedUpper (r - s) policy 1000)
  let use := (lower + elapsedLowerUs (c - r) policy, upper + elapsedUpper (c - s) policy 1000)
  refuseIf (¬(0 ≤ use.1 ∧ use.1 ≤ use.2 ∧ use.2 < maxUtcUs)) "projected_time_bounds"
  refuseIf (¬(use.2 - use.1 ≤ policy.maxWidthUs)) "projected_width"
  return (receipt, use)

/-! ## Observations -/

/-- What the gate reads of a codec's observation. -/
structure NativeObservation where
  observationId : String
  lowerMicroseconds : ℤ
  upperMicroseconds : ℤ

/-- `NativeTimeElapsedObservationV1`. -/
structure NativeTimeElapsedObservationV1 where
  nativeObservation : NativeObservation
  policyBytes : ByteArray
  traceBytes : ByteArray
  evaluationWindowUs : ℤ × ℤ
  receiptIntervalUs : ℤ × ℤ
  consumptionIntervalUs : ℤ × ℤ

/-- The hash and the size of an artifact. -/
def artifactBody (artifact : ByteArray) : Json :=
  .obj [("sha256", .str (String.ofList (hexdigest (sha256 artifact)))),
    ("size", .int artifact.size)]

/-- The two ends of an interval. -/
def intervalBody (interval : ℤ × ℤ) : Json := .arr [.int interval.1, .int interval.2]

/-- The members of `NativeTimeElapsedObservationV1.to_body`. -/
def NativeTimeElapsedObservationV1.members (o : NativeTimeElapsedObservationV1) : Fields :=
  [("schema", .str "etzio.native-time.elapsed-observation.v1"),
    ("status", .str "conditional_offline_observation"),
    ("kernel_authority", .bool false),
    ("clock_qualified", .bool false),
    ("challenge_freshness_established", .bool false),
    ("revocation_at_consumption_checked", .bool false),
    ("native_observation_id", .str o.nativeObservation.observationId),
    ("artifacts", .obj [("policy_bytes", artifactBody sha256 o.policyBytes),
      ("trace_bytes", artifactBody sha256 o.traceBytes)]),
    ("evaluation_window_us", intervalBody o.evaluationWindowUs),
    ("receipt_interval_us", intervalBody o.receiptIntervalUs),
    ("consumption_interval_us", intervalBody o.consumptionIntervalUs),
    ("consumption_interval_seconds", intervalBody
      (o.consumptionIntervalUs.1.fdiv 1000000, ceilRatio o.consumptionIntervalUs.2 1000000))]

/-- `NativeTimeElapsedObservationV1.to_body`. -/
def NativeTimeElapsedObservationV1.toBody (o : NativeTimeElapsedObservationV1) : Json :=
  .obj (o.members sha256)

/-- `NativeTimeElapsedObservationV1.observation_id`. -/
def NativeTimeElapsedObservationV1.observationId (o : NativeTimeElapsedObservationV1) :
    Except String String :=
  contentId nfc sha256 "native_time_elapsed_observation_v1" (o.toBody sha256)

/-! ## The gate -/

/-- An RFC 3161 codec : the snapshot of its inputs, its query and its validation of a response
under one certificate revocation list for each role. -/
structure NativeCodec (Profile Request : Type) where
  crlRoles : ℕ
  snapshotInputs : Profile → Request → Except String (Profile × Request)
  requestDer : Profile → Request → ByteArray
  validate : Profile → Request → ByteArray → List ByteArray → Except String NativeObservation

/-- `MAX_RESPONSE_BYTES_V1`. -/
def maxResponseBytesV1 : ℕ := 64 * 1024

/-- `MAX_CRL_BYTES_V1`. -/
def maxCrlBytesV1 : ℕ := 256 * 1024

/-- `evaluate_native_time_elapsed_v1`. -/
def evaluateNativeTimeElapsedV1 {Profile Request : Type} (codec : NativeCodec Profile Request)
    (nativeProfile : Profile) (request : Request) (responseDer : ByteArray)
    (crls : List ByteArray) (policy : ElapsedTimePolicyV1) (trace : NativeTimeTraceV1)
    (evaluationWindowUs : ℤ × ℤ) : Except String NativeTimeElapsedObservationV1 := do
  let (policy, trace) ← snapshotElapsed nfc sha256 policy trace
  refuseIf (¬(0 ≤ evaluationWindowUs.1 ∧ evaluationWindowUs.1 ≤ maxUtcUs)) "window_bounds"
  refuseIf (¬(0 ≤ evaluationWindowUs.2 ∧ evaluationWindowUs.2 ≤ maxUtcUs)) "window_bounds"
  refuseIf (¬evaluationWindowUs.1 < evaluationWindowUs.2) "window_bounds"
  refuseIf (¬(0 < responseDer.size ∧ responseDer.size ≤ maxResponseBytesV1)) "response_size"
  refuseIf (crls.length ≠ codec.crlRoles) "crl_roles"
  crls.forM fun crl => refuseIf (¬(0 < crl.size ∧ crl.size ≤ maxCrlBytesV1)) "crl_size"
  let (profile, request) ← codec.snapshotInputs nativeProfile request
  let query := codec.requestDer profile request
  refuseIf (String.ofList (hexdigest (sha256 query)) ≠ trace.requestSha256) "request_binding"
  refuseIf (String.ofList (hexdigest (sha256 responseDer)) ≠ trace.responseSha256)
    "response_binding"
  let s := trace.beforeDisclosure.counterNs
  let r := trace.responseComplete.counterNs
  let c := trace.consumed.counterNs
  refuseIf (¬elapsedUpper (r - s) policy 1 ≤ policy.maxAcquisitionNs) "acquisition_delay"
  refuseIf (¬elapsedUpper (c - s) policy 1 ≤ policy.maxTotalNs) "consumption_delay"
  let native ← codec.validate profile request responseDer crls
  let (receipt, use) ← project native.lowerMicroseconds native.upperMicroseconds policy trace
  refuseIf (¬(evaluationWindowUs.1 ≤ use.1 ∧ use.2 < evaluationWindowUs.2)) "consumption_window"
  let policyBytes ← policy.toCanonicalBytes nfc
  let traceBytes ← trace.toCanonicalBytes nfc
  return {
    nativeObservation := native
    policyBytes, traceBytes, evaluationWindowUs
    receiptIntervalUs := receipt
    consumptionIntervalUs := use }

/-! ## Soundness of the projection -/

/-- The rate error that a policy declares. -/
def ElapsedTimePolicyV1.rate (policy : ElapsedTimePolicyV1) : ℚ :=
  policy.maxRateErrorPpb / billion

/-- The error of a counter difference, two samples' errors. -/
def ElapsedTimePolicyV1.reading (policy : ElapsedTimePolicyV1) : ℚ := 2 * policy.sampleErrorNs

theorem billion_pos : (0 : ℚ) < billion := Int.cast_pos.mpr (by decide)

theorem ElapsedTimePolicyV1.rate_nonneg (policy : ElapsedTimePolicyV1) : 0 ≤ policy.rate :=
  div_nonneg (Int.cast_nonneg policy.rate_bound.1) billion_pos.le

theorem ElapsedTimePolicyV1.rate_lt_one (policy : ElapsedTimePolicyV1) : policy.rate < 1 := by
  rw [rate, div_lt_one billion_pos, Int.cast_lt]
  exact policy.rate_bound.2.trans_lt (by decide)

theorem ElapsedTimePolicyV1.one_sub_rate (policy : ElapsedTimePolicyV1) :
    1 - policy.rate = (billion - policy.maxRateErrorPpb : ℤ) / billion := by
  rw [Int.cast_sub, sub_div, div_self billion_pos.ne', rate]

theorem ElapsedTimePolicyV1.one_add_rate (policy : ElapsedTimePolicyV1) :
    1 + policy.rate = (billion + policy.maxRateErrorPpb : ℤ) / billion := by
  rw [Int.cast_add, add_div, div_self billion_pos.ne', rate]

/-- A counter difference bounds the true time above, in any unit. -/
theorem le_elapsedUpper {policy : ElapsedTimePolicyV1} {x : ℚ} {delta unitNs : ℤ}
    (h : Reads policy.rate policy.reading x delta) (hunit : 0 < unitNs) :
    x / unitNs ≤ elapsedUpper delta policy unitNs := by
  have hslow : 0 < billion - policy.maxRateErrorPpb :=
    sub_pos.mpr (policy.rate_bound.2.trans_lt (by decide))
  have hunit' : (0 : ℚ) ≤ unitNs := Int.cast_nonneg hunit.le
  calc x / unitNs ≤ (delta + policy.reading) / (1 - policy.rate) / unitNs :=
        div_le_div_of_nonneg_right (h.elapsed_le policy.rate_lt_one) hunit'
    _ = ((delta + 2 * policy.sampleErrorNs) * billion : ℤ) /
          ((billion - policy.maxRateErrorPpb) * unitNs : ℤ) := by
        rw [policy.one_sub_rate, ElapsedTimePolicyV1.reading, div_div_eq_mul_div, div_div]
        push_cast
        rfl
    _ ≤ elapsedUpper delta policy unitNs := div_le_neg_fdiv_neg _ (mul_pos hslow hunit)

/-- A counter difference bounds the true time below. -/
theorem elapsedLowerUs_le {policy : ElapsedTimePolicyV1} {x : ℚ} {delta : ℤ}
    (h : Reads policy.rate policy.reading x delta) (hx : 0 ≤ x) :
    elapsedLowerUs delta policy ≤ x / 1000 := by
  have hfast : 0 < billion + policy.maxRateErrorPpb :=
    add_pos_of_pos_of_nonneg (by decide) policy.rate_bound.1
  calc (elapsedLowerUs delta policy : ℚ)
      ≤ (max 0 (delta - 2 * policy.sampleErrorNs) * billion : ℤ) /
          ((billion + policy.maxRateErrorPpb) * 1000 : ℤ) :=
        fdiv_le_div _ (mul_pos hfast (by decide))
    _ = max 0 (delta - policy.reading) / (1 + policy.rate) / 1000 := by
        rw [policy.one_add_rate, ElapsedTimePolicyV1.reading, div_div_eq_mul_div, div_div]
        push_cast
        rfl
    _ ≤ x / 1000 := div_le_div_of_nonneg_right (h.le_elapsed policy.rate_nonneg hx) (by norm_num)

/-- What `_project` accepts. -/
theorem project_eq_ok {lower upper : ℤ} {policy : ElapsedTimePolicyV1} {trace : NativeTimeTraceV1}
    {receipt use : ℤ × ℤ} : project lower upper policy trace = .ok (receipt, use) ↔
      receipt = (lower, upper + elapsedUpper
        (trace.responseComplete.counterNs - trace.beforeDisclosure.counterNs) policy 1000) ∧
      use = (lower + elapsedLowerUs
          (trace.consumed.counterNs - trace.responseComplete.counterNs) policy,
        upper + elapsedUpper
          (trace.consumed.counterNs - trace.beforeDisclosure.counterNs) policy 1000) ∧
      0 ≤ use.1 ∧ use.1 ≤ use.2 ∧ use.2 < maxUtcUs ∧ use.2 - use.1 ≤ policy.maxWidthUs := by
  simp only [project, unit_bind_eq_ok, refuseIf_eq_ok, not_not, pure, Except.pure,
    Except.ok.injEq, Prod.mk.injEq]
  constructor
  · rintro ⟨⟨hzero, horder, hutc⟩, hwidth, rfl, rfl⟩
    exact ⟨rfl, rfl, hzero, horder, hutc, hwidth⟩
  · rintro ⟨rfl, rfl, hzero, horder, hutc, hwidth⟩
    exact ⟨⟨hzero, horder, hutc⟩, hwidth, rfl, rfl⟩

/-- The true times of a trace, in nanoseconds : the samples at `ts`, `tr` and `tc`, and the
authority's time of issuance `T` between the first two. Each counter difference is read within
the declared errors. -/
structure TrueTimes (policy : ElapsedTimePolicyV1) (trace : NativeTimeTraceV1)
    (ts T tr tc : ℚ) : Prop where
  disclosed : ts ≤ T
  issued : T ≤ tr
  received : tr ≤ tc
  acquisition : Reads policy.rate policy.reading (tr - ts)
    (trace.responseComplete.counterNs - trace.beforeDisclosure.counterNs : ℤ)
  holding : Reads policy.rate policy.reading (tc - tr)
    (trace.consumed.counterNs - trace.responseComplete.counterNs : ℤ)
  total : Reads policy.rate policy.reading (tc - ts)
    (trace.consumed.counterNs - trace.beforeDisclosure.counterNs : ℤ)

section TrueTimes

variable {policy : ElapsedTimePolicyV1} {trace : NativeTimeTraceV1} {ts T tr tc : ℚ}
  {lower upper : ℤ} {receipt use : ℤ × ℤ}

/-- The interval of receipt contains the true time of receipt. -/
theorem TrueTimes.mem_receipt (times : TrueTimes policy trace ts T tr tc)
    (hissued : T / 1000 ∈ Set.Icc (lower : ℚ) upper)
    (hproject : project lower upper policy trace = .ok (receipt, use)) :
    tr / 1000 ∈ Set.Icc (receipt.1 : ℚ) receipt.2 := by
  obtain ⟨rfl, -⟩ := project_eq_ok.mp hproject
  have hupper := le_elapsedUpper times.acquisition (by decide : (0 : ℤ) < 1000)
  have hissue := times.issued
  have hdisclosed := times.disclosed
  have hmem := later_mem_Icc (t := tr / 1000) (l := 0) hissued
    (div_le_div_of_nonneg_right hissue (by norm_num)) (sub_self _).ge
    (le_trans (by push_cast; linarith) hupper)
  simpa using hmem

/-- The interval of use contains the true time of use. -/
theorem TrueTimes.mem_use (times : TrueTimes policy trace ts T tr tc)
    (hissued : T / 1000 ∈ Set.Icc (lower : ℚ) upper)
    (hproject : project lower upper policy trace = .ok (receipt, use)) :
    tc / 1000 ∈ Set.Icc (use.1 : ℚ) use.2 := by
  obtain ⟨-, rfl, -⟩ := project_eq_ok.mp hproject
  have hupper := le_elapsedUpper times.total (by decide : (0 : ℤ) < 1000)
  have hlower := elapsedLowerUs_le times.holding (sub_nonneg.mpr times.received)
  have hissue := times.issued
  have hdisclosed := times.disclosed
  have hmem := later_mem_Icc (t := tc / 1000) hissued
    (div_le_div_of_nonneg_right hissue (by norm_num)) (hlower.trans (by linarith))
    (le_trans (by push_cast; linarith) hupper)
  simpa using hmem

/-- A ceiling on the time of acquisition holds of the true time. -/
theorem TrueTimes.acquisition_le (times : TrueTimes policy trace ts T tr tc) {ceiling : ℤ}
    (hceiling : elapsedUpper (trace.responseComplete.counterNs - trace.beforeDisclosure.counterNs)
      policy 1 ≤ ceiling) : tr - ts ≤ ceiling := by
  have h := (le_elapsedUpper times.acquisition one_pos).trans (Int.cast_le.mpr hceiling)
  rwa [Int.cast_one, div_one] at h

/-- A ceiling on the total time holds of the true time. -/
theorem TrueTimes.total_le (times : TrueTimes policy trace ts T tr tc) {ceiling : ℤ}
    (hceiling : elapsedUpper (trace.consumed.counterNs - trace.beforeDisclosure.counterNs)
      policy 1 ≤ ceiling) : tc - ts ≤ ceiling := by
  have h := (le_elapsedUpper times.total one_pos).trans (Int.cast_le.mpr hceiling)
  rwa [Int.cast_one, div_one] at h

end TrueTimes

/-- The seconds of an observation round its interval of use outward. -/
theorem NativeTimeElapsedObservationV1.seconds (o : NativeTimeElapsedObservationV1) :
    ∃ first last : ℤ,
      (o.members sha256).lookup "consumption_interval_seconds" =
        some (.arr [.int first, .int last]) ∧
      Set.Icc (o.consumptionIntervalUs.1 : ℚ) o.consumptionIntervalUs.2 ⊆
        Set.Icc (first * 1000000 : ℚ) (last * 1000000) := by
  refine ⟨_, _, by simp [members, List.lookup, intervalBody]; exact ⟨rfl, rfl⟩, ?_⟩
  have hfirst := fdiv_le_div (K := ℚ) o.consumptionIntervalUs.1 (by decide : (0 : ℤ) < 1000000)
  have hlast := div_le_neg_fdiv_neg (K := ℚ) o.consumptionIntervalUs.2
    (by decide : (0 : ℤ) < 1000000)
  rw [le_div_iff₀ (by norm_num)] at hfirst
  rw [div_le_iff₀ (by norm_num)] at hlast
  exact Set.Icc_subset_Icc (by simpa using hfirst) (by simpa [ceilRatio] using hlast)

/-- Elapsed time is sound : for true times that the declared errors allow and an authority's
interval that contains its time of issuance, accepted intervals contain the true times of receipt
and of use, the seconds contain the interval of use, and the ceilings bound the true delays. -/
theorem elapsed_time_sound (sha256 : ByteArray → BitVec 256) (policy : ElapsedTimePolicyV1)
    (trace : NativeTimeTraceV1) (lower upper : ℤ) (ts T tr tc : ℚ)
    (times : TrueTimes policy trace ts T tr tc)
    (hissued : T / 1000 ∈ Set.Icc (lower : ℚ) upper) :
    (∀ receipt use, project lower upper policy trace = .ok (receipt, use) →
      tr / 1000 ∈ Set.Icc (receipt.1 : ℚ) receipt.2 ∧
      tc / 1000 ∈ Set.Icc (use.1 : ℚ) use.2 ∧ use.1 ≤ use.2 ∧
      ∀ o : NativeTimeElapsedObservationV1, o.consumptionIntervalUs = use →
        ∃ first last : ℤ,
          (o.members sha256).lookup "consumption_interval_seconds" =
            some (.arr [.int first, .int last]) ∧
          Set.Icc (use.1 : ℚ) use.2 ⊆ Set.Icc (first * 1000000 : ℚ) (last * 1000000)) ∧
    (elapsedUpper (trace.responseComplete.counterNs - trace.beforeDisclosure.counterNs) policy 1 ≤
      policy.maxAcquisitionNs → tr - ts ≤ policy.maxAcquisitionNs) ∧
    (elapsedUpper (trace.consumed.counterNs - trace.beforeDisclosure.counterNs) policy 1 ≤
      policy.maxTotalNs → tc - ts ≤ policy.maxTotalNs) := by
  refine ⟨fun receipt use hproject => ?_, times.acquisition_le, times.total_le⟩
  obtain ⟨-, -, -, horder, -⟩ := project_eq_ok.mp hproject
  refine ⟨times.mem_receipt hissued hproject, times.mem_use hissued hproject, horder, ?_⟩
  rintro o rfl
  exact o.seconds sha256

/-- A policy of a tenth of rate error, for the samples below. -/
def sampleElapsedPolicy : ElapsedTimePolicyV1 where
  clockProfileId := "sha256:1111111111111111111111111111111111111111111111111111111111111111"
  maxRateErrorPpb := 100000000
  sampleErrorNs := 500
  maxAcquisitionNs := 5000000
  maxTotalNs := 9000000
  maxWidthUs := 60000
  clockSemantics := elapsedClockSemantics
  clock_profile := by decide +kernel
  rate_bound := by decide
  sample_error := by decide
  acquisition_ceiling := by decide
  total_ceiling := by decide
  width_ceiling := by decide
  clock_semantics := rfl

/-- A sample of the sample policy's clock. -/
def sampleElapsedSample (counterNs : ℤ) (hbounds : 0 ≤ counterNs ∧ counterNs ≤ maxCounter) :
    ElapsedSampleV1 where
  clockProfileId := sampleElapsedPolicy.clockProfileId
  epochId := "sha256:2222222222222222222222222222222222222222222222222222222222222222"
  counterNs := counterNs
  clock_profile := sampleElapsedPolicy.clock_profile
  clock_epoch := by decide +kernel
  counter_bounds := hbounds

/-- A trace of about four milliseconds to the response and three more to the use. -/
def sampleElapsedTrace : NativeTimeTraceV1 where
  policyId := "sha256:3333333333333333333333333333333333333333333333333333333333333333"
  attemptId := "sha256:4444444444444444444444444444444444444444444444444444444444444444"
  requestSha256 := "5555555555555555555555555555555555555555555555555555555555555555"
  responseSha256 := "6666666666666666666666666666666666666666666666666666666666666666"
  beforeDisclosure := sampleElapsedSample 1000 (by decide)
  responseComplete := sampleElapsedSample 4001500 (by decide)
  consumed := sampleElapsedSample 7001200 (by decide)
  policy_binding := by decide +kernel
  attempt_binding := by decide +kernel
  request_digest := by decide +kernel
  response_digest := by decide +kernel
  one_clock_profile := ⟨rfl, rfl⟩
  one_clock_epoch := ⟨rfl, rfl⟩
  no_regression := by decide

/-- A counter that runs fast by a twentieth : the true use lies in the projected interval. -/
theorem elapsed_time_sound_sample :
    project 1000000 1000200 sampleElapsedPolicy sampleElapsedTrace =
      .ok ((1000000, 1004647), (1002726, 1007980)) ∧
    (1006676000 / 1000 : ℚ) ∈ Set.Icc ((1002726 : ℤ) : ℚ) (1007980 : ℤ) ∧
    (1006676000 - 1000009000 : ℚ) ≤ (9000000 : ℤ) := by
  have times : TrueTimes sampleElapsedPolicy sampleElapsedTrace 1000009000 1000100000
      1003819000 1006676000 := by
    refine ⟨by norm_num, by norm_num, by norm_num, ?_, ?_, ?_⟩
    all_goals
      constructor <;> norm_num [ElapsedTimePolicyV1.rate, ElapsedTimePolicyV1.reading,
        sampleElapsedPolicy, sampleElapsedTrace, sampleElapsedSample, billion]
  have hproject : project 1000000 1000200 sampleElapsedPolicy sampleElapsedTrace =
      .ok ((1000000, 1004647), (1002726, 1007980)) := by decide +kernel
  obtain ⟨hintervals, -, htotal⟩ := elapsed_time_sound (fun _ => 0) sampleElapsedPolicy
    sampleElapsedTrace 1000000 1000200 1000009000 1000100000 1003819000 1006676000 times
    (by norm_num)
  obtain ⟨-, huse, -⟩ := hintervals _ _ hproject
  exact ⟨hproject, huse, htotal (by decide +kernel)⟩

/-! ## The gate on a snapshot

The gate reads a trace again from its own canonical bytes : the copy is the trace. -/

variable {nfc : String → Bool} {sha256 : ByteArray → BitVec 256}

/-- The members of a record that is read from the canonical bytes of an object. -/
theorem decodeElapsed_canonicalDumps {v : Json} {ms body : Fields} {wire : ByteArray}
    {fields : List String} {schema : String} (hnormal : normalForm v = .obj ms)
    (hwire : canonicalDumps nfc v = .ok wire)
    (hbody : decodeElapsed nfc wire fields schema = .ok body) :
    body = ms.filter fun member => member.1 ≠ "schema" := by
  obtain ⟨-, hbody⟩ := unit_bind_eq_ok.mp hbody
  obtain ⟨value, hvalue, hbody⟩ := bind_eq_ok.mp hbody
  rw [strictLoads_canonicalDumps hwire, hnormal] at hvalue
  obtain rfl : Json.obj ms = value := Except.ok.inj hvalue
  obtain ⟨members, hmembers, hbody⟩ := orRefuse_bind_eq_ok.mp hbody
  obtain rfl : ms = members := by simpa [members?] using hmembers
  obtain ⟨-, hbody⟩ := unit_bind_eq_ok.mp hbody
  obtain ⟨dumped, -, hbody⟩ := bind_eq_ok.mp hbody
  obtain ⟨-, hbody⟩ := unit_bind_eq_ok.mp hbody
  exact (Except.ok.inj hbody).symm

theorem requireIdentity_eq_ok {text reason : String} {pattern : String → Bool}
    {id : { text : String // pattern text = true }}
    (hid : requireIdentity (.str text) reason pattern = .ok id) : id.1 = text := by
  simp only [requireIdentity, str?] at hid
  split_ifs at hid
  exact (congrArg Subtype.val (Except.ok.inj hid)).symm

theorem requireInteger_eq_ok {n lower upper : ℤ} {reason : String}
    {m : { n : ℤ // lower ≤ n ∧ n ≤ upper }}
    (hm : requireInteger (.int n) lower upper reason = .ok m) : m.1 = n := by
  simp only [requireInteger, int?] at hm
  split_ifs at hm
  exact (congrArg Subtype.val (Except.ok.inj hm)).symm

/-- The normal form of a sample. -/
theorem normalForm_sample (sample : ElapsedSampleV1) :
    normalForm sample.body = .obj [("clock_profile_id", .str sample.clockProfileId),
      ("counter_ns", .int sample.counterNs), ("epoch_id", .str sample.epochId)] := by
  simp [ElapsedSampleV1.body, normalForm, normalFormMembers, setItem, sortMembers]

/-- A sample is read from its normal form as itself. -/
theorem ElapsedSampleV1.ofBody_normalForm {sample copy : ElapsedSampleV1}
    (hcopy : ElapsedSampleV1.ofBody (normalForm sample.body) = .ok copy) : copy = sample := by
  rw [normalForm_sample] at hcopy
  obtain ⟨members, hmembers, hcopy⟩ := orRefuse_bind_eq_ok.mp hcopy
  obtain rfl := Option.some.inj hmembers
  obtain ⟨-, hcopy⟩ := unit_bind_eq_ok.mp hcopy
  simp only [decodedItem, List.lookup, String.reduceBEq, orRefuse_some_bind,
    ElapsedSampleV1.create] at hcopy
  obtain ⟨profile, hprofile, hcopy⟩ := bind_eq_ok.mp hcopy
  obtain ⟨epoch, hepoch, hcopy⟩ := bind_eq_ok.mp hcopy
  obtain ⟨counter, hcounter, hcopy⟩ := bind_eq_ok.mp hcopy
  obtain rfl := Except.ok.inj hcopy
  cases sample
  simp only [requireIdentity_eq_ok hprofile, requireIdentity_eq_ok hepoch,
    requireInteger_eq_ok hcounter]

/-- The normal form of a trace. -/
theorem normalForm_trace (trace : NativeTimeTraceV1) :
    normalForm trace.body = .obj [("attempt_id", .str trace.attemptId),
      ("before_disclosure", normalForm trace.beforeDisclosure.body),
      ("consumed", normalForm trace.consumed.body), ("policy_id", .str trace.policyId),
      ("request_sha256", .str trace.requestSha256),
      ("response_complete", normalForm trace.responseComplete.body),
      ("response_sha256", .str trace.responseSha256), ("schema", .str elapsedTraceSchema)] := by
  simp [NativeTimeTraceV1.body, normalForm, normalFormMembers, setItem, sortMembers]

/-- A trace is read from its canonical bytes as itself. -/
theorem NativeTimeTraceV1.fromCanonicalBytes_eq {trace copy : NativeTimeTraceV1}
    {wire : ByteArray} (hwire : trace.toCanonicalBytes nfc = .ok wire)
    (hcopy : NativeTimeTraceV1.fromCanonicalBytes nfc wire = .ok copy) : copy = trace := by
  obtain ⟨body, hbody, hcopy⟩ := bind_eq_ok.mp hcopy
  obtain rfl := decodeElapsed_canonicalDumps (normalForm_trace trace) hwire hbody
  simp only [decodedItem, ne_eq, String.reduceEq, not_false_eq_true, decide_true, not_true_eq_false,
    decide_false, Bool.false_eq_true,
    List.filter_cons_of_pos, List.filter_cons_of_neg, List.filter_nil, List.lookup,
    String.reduceBEq, orRefuse_some_bind, NativeTimeTraceV1.create] at hcopy
  obtain ⟨before, hbefore, hcopy⟩ := bind_eq_ok.mp hcopy
  obtain ⟨response, hresponse, hcopy⟩ := bind_eq_ok.mp hcopy
  obtain ⟨consumed, hconsumed, hcopy⟩ := bind_eq_ok.mp hcopy
  obtain ⟨policyId, hpolicy, hcopy⟩ := bind_eq_ok.mp hcopy
  obtain ⟨attemptId, hattempt, hcopy⟩ := bind_eq_ok.mp hcopy
  obtain ⟨requestSha, hrequest, hcopy⟩ := bind_eq_ok.mp hcopy
  obtain ⟨responseSha, hresponseSha, hcopy⟩ := bind_eq_ok.mp hcopy
  obtain ⟨profiles, -, hcopy⟩ := bind_eq_ok.mp hcopy
  obtain ⟨epochs, -, hcopy⟩ := bind_eq_ok.mp hcopy
  obtain ⟨counters, -, hcopy⟩ := bind_eq_ok.mp hcopy
  obtain rfl := Except.ok.inj hcopy
  obtain rfl := ElapsedSampleV1.ofBody_normalForm hbefore
  obtain rfl := ElapsedSampleV1.ofBody_normalForm hresponse
  obtain rfl := ElapsedSampleV1.ofBody_normalForm hconsumed
  cases trace
  simp only [requireIdentity_eq_ok hpolicy, requireIdentity_eq_ok hattempt,
    requireIdentity_eq_ok hrequest, requireIdentity_eq_ok hresponseSha]

/-- A snapshot is what it was taken of. -/
theorem snapshotElapsed_eq {policy policy' : ElapsedTimePolicyV1} {trace trace' : NativeTimeTraceV1}
    (hsnapshot : snapshotElapsed nfc sha256 policy trace = .ok (policy', trace')) :
    policy' = policy ∧ trace' = trace := by
  obtain ⟨wire, hwire, hsnapshot⟩ := bind_eq_ok.mp hsnapshot
  obtain ⟨copy, hcopy, hsnapshot⟩ := bind_eq_ok.mp hsnapshot
  obtain ⟨policyId, -, hsnapshot⟩ := bind_eq_ok.mp hsnapshot
  obtain ⟨-, hsnapshot⟩ := unit_bind_eq_ok.mp hsnapshot
  obtain ⟨-, hreturn⟩ := unit_bind_eq_ok.mp hsnapshot
  obtain ⟨rfl, rfl⟩ := Prod.mk.inj (Except.ok.inj hreturn)
  exact ⟨rfl, NativeTimeTraceV1.fromCanonicalBytes_eq hwire hcopy⟩

/-- What `evaluate_native_time_elapsed_v1` accepts : both ceilings hold, and the interval of use
is projected from the codec's and lies in the window. -/
theorem evaluate_spec {Profile Request : Type} {codec : NativeCodec Profile Request}
    {nativeProfile : Profile} {request : Request} {responseDer : ByteArray}
    {crls : List ByteArray} {policy : ElapsedTimePolicyV1} {trace : NativeTimeTraceV1}
    {window : ℤ × ℤ} {o : NativeTimeElapsedObservationV1}
    (ho : evaluateNativeTimeElapsedV1 nfc sha256 codec nativeProfile request responseDer crls
      policy trace window = .ok o) :
    elapsedUpper (trace.responseComplete.counterNs - trace.beforeDisclosure.counterNs) policy 1 ≤
        policy.maxAcquisitionNs ∧
      elapsedUpper (trace.consumed.counterNs - trace.beforeDisclosure.counterNs) policy 1 ≤
        policy.maxTotalNs ∧
      project o.nativeObservation.lowerMicroseconds o.nativeObservation.upperMicroseconds policy
        trace = .ok (o.receiptIntervalUs, o.consumptionIntervalUs) ∧
      window.1 ≤ o.consumptionIntervalUs.1 ∧ o.consumptionIntervalUs.2 < window.2 := by
  obtain ⟨⟨policy', trace'⟩, hsnapshot, hrest⟩ := bind_eq_ok.mp ho
  obtain ⟨rfl, rfl⟩ := snapshotElapsed_eq hsnapshot
  obtain ⟨-, hrest⟩ := unit_bind_eq_ok.mp hrest
  obtain ⟨-, hrest⟩ := unit_bind_eq_ok.mp hrest
  obtain ⟨-, hrest⟩ := unit_bind_eq_ok.mp hrest
  obtain ⟨-, hrest⟩ := unit_bind_eq_ok.mp hrest
  obtain ⟨-, hrest⟩ := unit_bind_eq_ok.mp hrest
  obtain ⟨-, hrest⟩ := unit_bind_eq_ok.mp hrest
  obtain ⟨⟨profile, request'⟩, -, hrest⟩ := bind_eq_ok.mp hrest
  obtain ⟨-, hrest⟩ := unit_bind_eq_ok.mp hrest
  obtain ⟨-, hrest⟩ := unit_bind_eq_ok.mp hrest
  obtain ⟨hacquisition, hrest⟩ := unit_bind_eq_ok.mp hrest
  obtain ⟨htotal, hrest⟩ := unit_bind_eq_ok.mp hrest
  obtain ⟨native, -, hrest⟩ := bind_eq_ok.mp hrest
  obtain ⟨⟨receipt, use⟩, hproject, hrest⟩ := bind_eq_ok.mp hrest
  obtain ⟨hwindow, hrest⟩ := unit_bind_eq_ok.mp hrest
  obtain ⟨policyBytes, -, hrest⟩ := bind_eq_ok.mp hrest
  obtain ⟨traceBytes, -, hrest⟩ := bind_eq_ok.mp hrest
  obtain rfl := Except.ok.inj hrest
  rw [refuseIf_eq_ok, not_not] at hacquisition htotal hwindow
  exact ⟨hacquisition, htotal, hproject, hwindow⟩

/-- An accepted evaluation of a trace with true times : the time of use lies in the window, and
the delays are within the ceilings of the policy. -/
theorem evaluate_sound {Profile Request : Type} {codec : NativeCodec Profile Request}
    {nativeProfile : Profile} {request : Request} {responseDer : ByteArray}
    {crls : List ByteArray} {policy : ElapsedTimePolicyV1} {trace : NativeTimeTraceV1}
    {window : ℤ × ℤ} {o : NativeTimeElapsedObservationV1} {ts T tr tc : ℚ}
    (ho : evaluateNativeTimeElapsedV1 nfc sha256 codec nativeProfile request responseDer crls
      policy trace window = .ok o)
    (times : TrueTimes policy trace ts T tr tc)
    (hissued : T / 1000 ∈ Set.Icc (o.nativeObservation.lowerMicroseconds : ℚ)
      o.nativeObservation.upperMicroseconds) :
    tc / 1000 ∈ Set.Ico (window.1 : ℚ) window.2 ∧ tr - ts ≤ policy.maxAcquisitionNs ∧
      tc - ts ≤ policy.maxTotalNs := by
  obtain ⟨hacquisition, htotal, hproject, hfirst, hlast⟩ := evaluate_spec ho
  obtain ⟨hlower, hupper⟩ := times.mem_use hissued hproject
  refine ⟨⟨(Int.cast_le.mpr hfirst).trans hlower, hupper.trans_lt (Int.cast_lt.mpr hlast)⟩,
    times.acquisition_le hacquisition, times.total_le htotal⟩

end Etzio
