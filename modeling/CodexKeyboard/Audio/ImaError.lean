import CodexKeyboard.Audio.EiadProofs
/-!
# One ADPCM step

`encode_ima_sample` and `decode_ima_sample` (audio.rs:346-377, 517-537) in `i32` arithmetic that
panics on overflow, and how far the predictor they leave is from the sample. The encoder tests the
difference against the step, its half and its quarter and adds an eighth: below twice the step what
is left is an eighth of the step and two at most, and above it all three bits are set. The clamp to
16 bits brings the predictor nearer to a sample of 16 bits, and to no other.

| here | there |
| --- | --- |
| `encodeImaSampleI32` | `encode_ima_sample` (audio.rs:346) |
| `decodeImaSampleI32` | `decode_ima_sample` (audio.rs:517) |
-/

namespace CodexKeyboard.Audio

/-- The value of an `i32` operation; an overflow panics. -/
def i32 (value : Int) : Option Int := if -2147483648 ≤ value ∧ value ≤ 2147483647 then some value else none

/-- `IMA_STEP_TABLE[step_index as usize]`. -/
def stepAt (stepIndex : Int) : Option Int :=
  if stepIndex < 0 then none else imaStepTable.toList[stepIndex.toNat]?

/-- `if difference < 0`: the sign of the code. -/
def takeSign (difference : Int) : Option (UInt8 × Int) :=
  if difference < 0 then (i32 (-difference)).map fun difference => (8, difference) else some (0, difference)

/-- `if difference >= part`, with the bit it sets. -/
def takePart (bit : UInt8) (part : Int) (code : UInt8) (difference delta : Int) :
    Option (UInt8 × Int × Int) :=
  if difference ≥ part then do
    let difference ← i32 (difference - part)
    let delta ← i32 (delta + part)
    some (code ||| bit, difference, delta)
  else some (code, difference, delta)

/-- The last test, which leaves the difference as it is. -/
def takeLast (part : Int) (code : UInt8) (difference delta : Int) : Option (UInt8 × Int) :=
  if difference ≥ part then (i32 (delta + part)).map fun delta => (code ||| 1, delta) else
    some (code, delta)

/-- `if code & bit != 0 { delta += part; }` -/
def addPart (code bit : UInt8) (part delta : Int) : Option Int :=
  if code &&& bit ≠ 0 then i32 (delta + part) else some delta

/-- The predictor moves by `delta` and is clamped. -/
def movePredictor (code : UInt8) (predictor delta : Int) : Option Int :=
  (if code &&& 8 ≠ 0 then i32 (predictor - delta) else i32 (predictor + delta)).map clampSample

/-- `(*step_index + i32::from(IMA_INDEX_TABLE[code as usize])).clamp(0, 88)`. -/
def moveStepIndex (code : UInt8) (stepIndex : Int) : Option Int := do
  let change ← imaIndexTable[code.toNat]?
  let index ← i32 (stepIndex + change)
  some (max 0 (min index 88))

/-- `encode_ima_sample`: the code, and the predictor and the step index it leaves. -/
def encodeImaSampleI32 (sample predictor stepIndex : Int) : Option (UInt8 × Int × Int) := do
  let step ← stepAt stepIndex
  let difference ← i32 (sample - predictor)
  let (code, difference) ← takeSign difference
  let (code, difference, delta) ← takePart 4 step code difference (step / 8)
  let (code, difference, delta) ← takePart 2 (step / 2) code difference delta
  let (code, delta) ← takeLast (step / 4) code difference delta
  let predictor ← movePredictor code predictor delta
  let stepIndex ← moveStepIndex code stepIndex
  some (code, predictor, stepIndex)

/-- `decode_ima_sample`: the predictor, and the step index it leaves. -/
def decodeImaSampleI32 (code : UInt8) (predictor stepIndex : Int) : Option (Int × Int) := do
  let step ← stepAt stepIndex
  let delta ← addPart code 4 step (step / 8)
  let delta ← addPart code 2 (step / 2) delta
  let delta ← addPart code 1 (step / 4) delta
  let predictor ← movePredictor code predictor delta
  let stepIndex ← moveStepIndex code stepIndex
  some (predictor, stepIndex)

/-! ## Without overflow -/

theorem i32_of_le {value : Int} (hlow : -2147483648 ≤ value) (hhigh : value ≤ 2147483647) :
    i32 value = some value :=
  if_pos ⟨hlow, hhigh⟩

/-- The step of the decoder for an index. -/
def stepOf (stepIndex : StepIndex) : Int := imaStepTable.get stepIndex

theorem step_range (stepIndex : StepIndex) : 7 ≤ stepOf stepIndex ∧ stepOf stepIndex ≤ 32767 := by
  revert stepIndex
  decide +kernel

theorem stepAt_val (stepIndex : StepIndex) : stepAt stepIndex.val = some (stepOf stepIndex) := by
  rw [stepAt, if_neg (by omega), Int.toNat_natCast, List.getElem?_eq_getElem (by simp)]
  rfl

theorem moveStepIndex_val (stepIndex : StepIndex) {code : UInt8} (h : code.toNat < 16) :
    moveStepIndex code stepIndex.val = some ((nextStepIndex stepIndex code).val : Int) := by
  have hlt : code.toNat < imaIndexTable.length := h
  have hall : ∀ change ∈ imaIndexTable, -1 ≤ change ∧ change ≤ 8 := by decide
  obtain ⟨hlow, hhigh⟩ := hall _ (List.getElem_mem hlt)
  have hindex := stepIndex.isLt
  have hvalue : imaIndexTable.getD code.toNat 0 = imaIndexTable[code.toNat] := by
    rw [List.getD_eq_getElem?_getD, List.getElem?_eq_getElem hlt, Option.getD_some]
  rw [moveStepIndex, List.getElem?_eq_getElem hlt]
  simp only [Option.bind_eq_bind, Option.bind_some, nextStepIndex, hvalue]
  rw [i32_of_le (by omega) (by omega), Option.bind_some]
  congr 1
  omega

theorem movePredictor_eq {code : UInt8} {negative : Bool}
    (hsign : decide (code &&& 8 ≠ 0) = negative) {predictor delta : Int}
    (hpredictor : InRange predictor) (hdelta : 0 ≤ delta) (hdelta' : delta ≤ 65535) :
    movePredictor code predictor delta =
      some (clampSample (if negative then predictor - delta else predictor + delta)) := by
  obtain ⟨hlow, hhigh⟩ := hpredictor
  subst hsign
  unfold movePredictor
  by_cases hset : code &&& 8 ≠ 0
  · rw [if_pos hset, if_pos (by simpa using hset), i32_of_le (by omega) (by omega), Option.map_some]
  · rw [if_neg hset, if_neg (by simpa using hset), i32_of_le (by omega) (by omega), Option.map_some]

theorem addPart_eq (code bit : UInt8) {part delta : Int} (hpart : 0 ≤ part) (hpart' : part ≤ 32767)
    (hdelta : 0 ≤ delta)
    (hdelta' : delta ≤ 98303) :
    addPart code bit part delta = some (delta + if decide (code &&& bit ≠ 0) then part else 0) := by
  unfold addPart
  by_cases hset : code &&& bit ≠ 0
  · rw [if_pos hset, if_pos (by simpa using hset), i32_of_le (by omega) (by omega)]
  · rw [if_neg hset, if_neg (by simpa using hset), Int.add_zero]

/-- The delta of any bits is less than twice the step. -/
theorem imaDelta_range {step : Int} (hlow : 0 ≤ step) (four two one : Bool) :
    0 ≤ imaDelta step four two one ∧ imaDelta step four two one ≤ 2 * step := by
  unfold imaDelta
  cases four <;> cases two <;> cases one <;> simp only [Bool.false_eq_true, if_false, if_true] <;> omega

theorem decodeImaSampleI32_eq {code : UInt8} (hcode : code.toNat < 16) {predictor : Int}
    (hpredictor : InRange predictor)
    (stepIndex : StepIndex) : decodeImaSampleI32 code predictor stepIndex.val =
      some ((decodeImaSample code predictor stepIndex).1,
        ((decodeImaSample code predictor stepIndex).2.val : Int)) := by
  obtain ⟨hlow, hhigh⟩ := step_range stepIndex
  rw [decodeImaSampleI32, decodeImaSample, stepAt_val, moveStepIndex_val stepIndex hcode,
    show imaStepTable[stepIndex] = stepOf stepIndex from rfl]
  generalize stepOf stepIndex = step at *
  have hrange := imaDelta_range (by omega : 0 ≤ step) (decide (code &&& 4 ≠ 0))
    (decide (code &&& 2 ≠ 0)) (decide (code &&& 1 ≠ 0))
  rw [imaPredictor]
  simp only [Option.bind_eq_bind, Option.bind_some]
  rw [addPart_eq code 4 (by omega) (by omega) (by omega) (by omega), Option.bind_some,
    addPart_eq code 2 (by omega) (by omega) (by split <;> omega) (by split <;> omega), Option.bind_some,
    addPart_eq code 1 (by omega) (by omega) (by split <;> split <;> omega)
      (by split <;> split <;> omega), Option.bind_some,
    ← imaDelta, movePredictor_eq rfl hpredictor hrange.1 (by omega), Option.bind_some]

/-- A part of the difference. -/
theorem takePart_eq (bit : UInt8) {part difference delta : Int} (code : UInt8) (hpart : 0 ≤ part)
    (hpart' : part ≤ 32767)
    (hdifference : 0 ≤ difference) (hdifference' : difference ≤ 65535) (hdelta : 0 ≤ delta)
    (hdelta' : delta ≤ 65535) :
    takePart bit part code difference delta =
      some (code ||| (if (takeBit difference part).1 then bit else 0),
      (takeBit difference part).2, delta + if (takeBit difference part).1 then part else 0) := by
  unfold takePart takeBit
  by_cases htaken : difference ≥ part
  · simp (disch := omega) only [if_pos htaken, i32_of_le, Option.bind_eq_bind, Option.bind_some, if_true]
  · simp only [if_neg htaken, Bool.false_eq_true, if_false, UInt8.or_zero, Int.add_zero]

theorem takeBit_range {part difference : Int} (hpart : 0 ≤ part) (h : 0 ≤ difference) :
    0 ≤ (takeBit difference part).2 ∧ (takeBit difference part).2 ≤ difference := by
  unfold takeBit
  split <;> simp only <;> omega

theorem takeLast_eq {part difference delta : Int} (code : UInt8) (hpart : 0 ≤ part)
    (hpart' : part ≤ 32767) (hdelta : 0 ≤ delta)
    (hdelta' : delta ≤ 98303) : takeLast part code difference delta =
      some (code ||| (if decide (difference ≥ part) then 1 else 0),
        delta + if decide (difference ≥ part) then part else 0) := by
  unfold takeLast
  by_cases htaken : difference ≥ part
  · simp (disch := omega) only [htaken, i32_of_le, if_true, Option.map_some, decide_true]
  · simp only [htaken, Bool.false_eq_true, if_false, UInt8.or_zero, Int.add_zero, decide_false]

theorem takeSign_eq {difference : Int} (hlow : -65535 ≤ difference) (hhigh : difference ≤ 65535) :
    takeSign difference = some (if decide (difference < 0) then 8 else 0, (difference.natAbs : Int)) := by
  unfold takeSign
  by_cases hneg : difference < 0
  · rw [if_pos hneg, if_pos (by simpa using hneg), i32_of_le (by omega) (by omega), Option.map_some]
    congr 2
    omega
  · rw [if_neg hneg, if_neg (by simpa using hneg)]
    congr 2
    omega

/-- The bits of a difference, one test after the other. -/
theorem imaBits_eq (difference step : Int) : imaBits difference step =
    { negative := decide (difference < 0)
      four := (takeBit difference.natAbs step).1
      two := (takeBit (takeBit difference.natAbs step).2 (step / 2)).1
      one := decide ((takeBit (takeBit difference.natAbs step).2 (step / 2)).2 ≥ step / 4) } := by
  have habs :
    (if decide (difference < 0) = true then -difference else difference) = (difference.natAbs : Int) := by
    by_cases hneg : difference < 0
    · rw [if_pos (by simpa using hneg)]
      omega
    · rw [if_neg (by simpa using hneg)]
      omega
  simp only [imaBits, habs]

theorem encodeImaSampleI32_eq {sample predictor : Int} (hsample : InRange sample)
    (hpredictor : InRange predictor)
    (stepIndex : StepIndex) : encodeImaSampleI32 sample predictor stepIndex.val =
      some ((encodeImaSample sample predictor stepIndex).1,
        (encodeImaSample sample predictor stepIndex).2.1,
        ((encodeImaSample sample predictor stepIndex).2.2.val : Int)) := by
  have hcode := encodeImaSample_lt sample predictor stepIndex
  obtain ⟨hlow, hhigh⟩ := step_range stepIndex
  have hsign := (code_bits (imaBits (sample - predictor) (stepOf stepIndex))).1
  have hbits := imaBits_eq (sample - predictor) (stepOf stepIndex)
  have hstep : imaStepTable[stepIndex] = stepOf stepIndex := rfl
  simp only [encodeImaSample, imaPredictor, hstep] at hcode ⊢
  rw [encodeImaSampleI32, stepAt_val]
  obtain ⟨hsample, hsample'⟩ := hsample
  have hpredictor' := hpredictor
  obtain ⟨hpredictor1, hpredictor2⟩ := hpredictor'
  generalize stepOf stepIndex = step at *
  have hrange := imaDelta_range (by omega : 0 ≤ step) (imaBits (sample - predictor) step).four
    (imaBits (sample - predictor) step).two (imaBits (sample - predictor) step).one
  have hfour := @takeBit_range step (sample - predictor).natAbs (by omega) (by omega)
  have htwo := @takeBit_range (step / 2) _ (by omega) hfour.1
  simp only [Option.bind_eq_bind, Option.bind_some]
  rw [i32_of_le (by omega) (by omega), Option.bind_some,
    takeSign_eq (by omega) (by omega), Option.bind_some]
  dsimp only
  rw [takePart_eq 4 _ (by omega) (by omega) (by omega) (by omega) (by omega) (by omega), Option.bind_some]
  dsimp only
  rw [takePart_eq 2 _ (by omega) (by omega) (by omega) (by omega) (by split <;> omega)
    (by split <;> omega), Option.bind_some]
  dsimp only
  rw [takeLast_eq _ (by omega) (by omega) (by split <;> split <;> omega) (by
    split <;> split <;> omega), Option.bind_some]
  dsimp only
  -- the code and the delta are those of the bits
  generalize imaBits (sample - predictor) step = bits at *
  subst hbits
  rw [ImaBits.code] at hcode hsign ⊢
  rw [imaDelta] at hrange ⊢
  dsimp only at hcode hsign hrange ⊢
  rw [movePredictor_eq hsign hpredictor hrange.1 (by omega), Option.bind_some,
    moveStepIndex_val stepIndex hcode, Option.bind_some]

/-! ## How far the predictor is from the sample -/

/-- Below twice the step the parts and the eighth are an eighth and two from the difference at most. -/
theorem imaDelta_near {difference step : Int} (hdifference : difference.natAbs < 2 * step) :
    ((difference.natAbs : Int) - imaDelta step (imaBits difference step).four (imaBits difference step).two
      (imaBits difference step).one).natAbs ≤ step / 8 + 2 := by
  rw [imaBits_eq]
  dsimp only
  generalize hdistance : (difference.natAbs : Int) = distance at *
  have hpos : 0 ≤ distance := by omega
  unfold takeBit imaDelta
  by_cases hfour : distance ≥ step
  · rw [if_pos hfour]
    dsimp only
    by_cases htwo : distance - step ≥ step / 2
    · rw [if_pos htwo]
      by_cases hone : distance - step - step / 2 ≥ step / 4 <;>
        simp only [hone, decide_true, decide_false, if_true, if_false, Bool.false_eq_true] <;> omega
    · rw [if_neg htwo]
      by_cases hone : distance - step ≥ step / 4 <;>
        simp only [hone, decide_true, decide_false, if_true, if_false, Bool.false_eq_true] <;> omega
  · rw [if_neg hfour]
    dsimp only
    by_cases htwo : distance ≥ step / 2
    · rw [if_pos htwo]
      by_cases hone : distance - step / 2 ≥ step / 4 <;>
        simp only [hone, decide_true, decide_false, if_true, if_false, Bool.false_eq_true] <;> omega
    · rw [if_neg htwo]
      by_cases hone : distance ≥ step / 4 <;>
        simp only [hone, decide_true, decide_false, if_true, if_false, Bool.false_eq_true] <;> omega

/-- From twice the step on all three bits are set. -/
theorem imaBits_far {difference step : Int} (hstep : 0 ≤ step)
    (hdifference : 2 * step ≤ difference.natAbs) :
    imaBits difference step = ⟨decide (difference < 0), true, true, true⟩ := by
  have hfour : (difference.natAbs : Int) ≥ step := by omega
  have htwo : (difference.natAbs : Int) - step ≥ step / 2 := by omega
  have hone : (difference.natAbs : Int) - step - step / 2 ≥ step / 4 := by omega
  rw [imaBits_eq]
  simp only [takeBit, if_pos hfour, if_pos htwo, decide_eq_true hone]

/-- No bits give more than all of them. -/
theorem imaDelta_le_all {step : Int} (hstep : 0 ≤ step) (four two one : Bool) :
    imaDelta step four two one ≤ imaDelta step true true true := by
  unfold imaDelta
  cases four <;> cases two <;> cases one <;> simp only [Bool.false_eq_true, if_false, if_true] <;> omega

theorem clampSample_near {sample value : Int} (h : InRange sample) :
    (sample - clampSample value).natAbs ≤ (sample - value).natAbs := by
  obtain ⟨hlow, hhigh⟩ := h
  unfold clampSample
  omega

theorem clampSample_mono {low high : Int} (h : low ≤ high) : clampSample low ≤ clampSample high := by
  unfold clampSample
  omega

/-- The predictor the encoder leaves is near the sample. -/
theorem encodeImaSample_near {sample predictor : Int} (hsample : InRange sample) (stepIndex : StepIndex)
    (h : (sample - predictor).natAbs < 2 * stepOf stepIndex) :
    (sample - (encodeImaSample sample predictor stepIndex).2.1).natAbs ≤ stepOf stepIndex / 8 + 2 := by
  obtain ⟨hlow, hhigh⟩ := step_range stepIndex
  have hstep : imaStepTable[stepIndex] = stepOf stepIndex := rfl
  simp only [encodeImaSample, imaPredictor, hstep]
  generalize stepOf stepIndex = step at *
  have hnear := imaDelta_near h
  have hnegative : (imaBits (sample - predictor) step).negative = decide (sample - predictor < 0) :=
    by rw [imaBits_eq]
  rw [hnegative]
  generalize imaDelta step _ _ _ = delta at *
  have hclamp :=
    @clampSample_near sample (if decide (sample - predictor < 0) then
    predictor - delta else predictor + delta) hsample
  by_cases hneg : sample - predictor < 0
  · rw [if_pos (by simpa using hneg)] at hclamp ⊢
    omega
  · rw [if_neg (by simpa using hneg)] at hclamp ⊢
    omega

/-- Outside the range of the step no other code comes nearer. -/
theorem encodeImaSample_nearest {sample predictor : Int} (hpredictor : InRange predictor)
    (stepIndex : StepIndex)
    (h : 2 * stepOf stepIndex ≤ (sample - predictor).natAbs) (code : UInt8) :
    (sample - (encodeImaSample sample predictor stepIndex).2.1).natAbs ≤
      (sample - (decodeImaSample code predictor stepIndex).1).natAbs := by
  obtain ⟨hlow, hhigh⟩ := step_range stepIndex
  have hstep : imaStepTable[stepIndex] = stepOf stepIndex := rfl
  simp only [encodeImaSample, decodeImaSample, imaPredictor, hstep]
  clear hstep
  generalize stepOf stepIndex = step at *
  obtain ⟨hpredictor1, hpredictor2⟩ := hpredictor
  have hstep : 0 ≤ step := by omega
  rw [imaBits_far hstep h]
  dsimp only
  have hall := imaDelta_range hstep true true true
  have hother :=
    imaDelta_range hstep (decide (code &&& 4 ≠ 0)) (decide (code &&& 2 ≠ 0)) (decide (code &&& 1 ≠ 0))
  have hle :=
    imaDelta_le_all hstep (decide (code &&& 4 ≠ 0)) (decide (code &&& 2 ≠ 0)) (decide (code &&& 1 ≠ 0))
  generalize imaDelta step true true true = most at *
  generalize imaDelta step _ _ _ = delta at *
  by_cases hneg : sample - predictor < 0
  · rw [if_pos (by simpa using hneg)]
    have hmono : clampSample (predictor - most) ≤
        clampSample (if decide (code &&& 8 ≠ 0) then predictor - delta else predictor + delta) :=
      clampSample_mono (by split <;> omega)
    have hreach : sample ≤ clampSample (predictor - most) := by
      unfold clampSample
      omega
    omega
  · rw [if_neg (by simpa using hneg)]
    have hmono : clampSample (if decide (code &&& 8 ≠ 0) then predictor - delta else predictor + delta) ≤
        clampSample (predictor + most) :=
      clampSample_mono (by split <;> omega)
    have hreach : clampSample (predictor + most) ≤ sample := by
      unfold clampSample
      omega
    omega

/-- **One ADPCM step.** For 16-bit samples and predictors and every step index: within twice the
step the predictor that is left is an eighth of the step and two from the sample at most, beyond it
no code decodes to a predictor nearer to the sample; predictor and index stay in range, nothing
overflows, and the decoder leaves what the encoder left. -/
theorem encodeImaSample_error {sample predictor : Int} (hsample : InRange sample)
    (hpredictor : InRange predictor)
    (stepIndex : StepIndex) :
    ((sample - predictor).natAbs < 2 * stepOf stepIndex →
      (sample - (encodeImaSample sample predictor stepIndex).2.1).natAbs ≤ stepOf stepIndex / 8 + 2) ∧
    (2 * stepOf stepIndex ≤ (sample - predictor).natAbs → ∀ code,
      (sample - (encodeImaSample sample predictor stepIndex).2.1).natAbs ≤
        (sample - (decodeImaSample code predictor stepIndex).1).natAbs) ∧
    ∃ code predictor' stepIndex',
      encodeImaSample sample predictor stepIndex = (code, predictor', stepIndex') ∧ code.toNat < 16 ∧
      InRange predictor' ∧ decodeImaSample code predictor stepIndex = (predictor', stepIndex') ∧
      encodeImaSampleI32 sample predictor stepIndex.val = some (code, predictor', (stepIndex'.val : Int)) ∧
      decodeImaSampleI32 code predictor stepIndex.val = some (predictor', (stepIndex'.val : Int)) := by
  have hcode := encodeImaSample_lt sample predictor stepIndex
  have hdecode := decode_encodeImaSample sample predictor stepIndex
  have hend := decodeImaSampleI32_eq hcode hpredictor stepIndex
  rw [hdecode] at hend
  exact ⟨encodeImaSample_near hsample stepIndex,
    encodeImaSample_nearest hpredictor stepIndex, _, _, _, rfl, hcode,
    inRange_encodeImaSample sample predictor stepIndex, hdecode,
      encodeImaSampleI32_eq hsample hpredictor stepIndex, hend⟩

/-- From 0 to 1000 within twice the step, and from -30000 to 30000 far beyond it. -/
theorem encodeImaSample_error_thousand :
    (1000 - (encodeImaSample 1000 0 60).2.1).natAbs ≤ stepOf 60 / 8 + 2 ∧
    (∀ code, (30000 - (encodeImaSample 30000 (-30000) 20).2.1).natAbs ≤
      (30000 - (decodeImaSample code (-30000) 20).1).natAbs) ∧
    ∃ code predictor' stepIndex',
      encodeImaSample 30000 (-30000) 20 = (code, predictor', stepIndex') ∧ code.toNat < 16 ∧
      InRange predictor' ∧
      decodeImaSample code (-30000) 20 = (predictor', stepIndex') ∧
      encodeImaSampleI32 30000 (-30000) 20 = some (code, predictor', (stepIndex'.val : Int)) ∧
      decodeImaSampleI32 code (-30000) 20 = some (predictor', (stepIndex'.val : Int)) := by
  have hnear :=
    (@encodeImaSample_error 1000 0 ⟨by decide, by decide⟩ ⟨by decide, by decide⟩ 60).1 (by decide)
  have hfar := (@encodeImaSample_error 30000 (-30000) ⟨by decide, by decide⟩ ⟨by decide, by decide⟩ 20).2
  exact ⟨hnear, hfar.1 (by decide), hfar.2⟩

/-- A sample above 16 bits: the clamp keeps the predictor away from it. -/
theorem wide_sample_not_near : ¬ ∀ (sample predictor : Int) (stepIndex : StepIndex), InRange predictor →
    (sample - predictor).natAbs < 2 * stepOf stepIndex →
    (sample - (encodeImaSample sample predictor stepIndex).2.1).natAbs ≤ stepOf stepIndex / 8 + 2 := by
  intro h
  exact absurd (h 60000 32767 88 ⟨by decide, by decide⟩ (by decide)) (by decide)

end CodexKeyboard.Audio
