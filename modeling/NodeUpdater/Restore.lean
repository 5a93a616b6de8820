import Mathlib.Data.Nat.Digits
import NodeUpdater.Safety

/-! # The scaling record, written and read back

What `%d` prints, the decoder reads back, and `SetDefaultScaling` brings the pool to the
recorded mode, chosen by which bounds are set. -/

namespace NodeUpdater.Json

/-! ## Decimal literals -/

theorem digitChar_spec : ∀ digit < 10, (Nat.digitChar digit).isDigit ∧
    (Nat.digitChar digit).toNat - '0'.toNat = digit ∧
    (0 < digit → ('1' ≤ Nat.digitChar digit && Nat.digitChar digit ≤ '9') = true) := by
  decide

theorem digitsValue_append_singleton (digits : List Char) (c : Char) :
    digitsValue (digits ++ [c]) = digitsValue digits * 10 + (c.toNat - '0'.toNat) := by
  simp only [digitsValue, List.foldl_append, List.foldl_cons, List.foldl_nil]

/-- What `Nat.toDigits 10` prints: digits only, worth `n`, no leading zero. -/
structure Numeral (digits : List Char) (n : Nat) : Prop where
  digit : ∀ c ∈ digits, c.isDigit
  value : digitsValue digits = n
  zero : n = 0 → digits = ['0']
  leading : 0 < n →
    ∃ first more, digits = first :: more ∧ ('1' ≤ first && first ≤ '9') = true

theorem toDigitsCore_numeral (fuel n : Nat) (acc : List Char) (enough : n < fuel) :
    ∃ digits, Nat.toDigitsCore 10 fuel n acc = digits ++ acc ∧ Numeral digits n := by
  induction fuel generalizing n acc with
  | zero => omega
  | succ fuel induction =>
      obtain ⟨isDigit, value, leading⟩ := digitChar_spec (n % 10) (Nat.mod_lt _ (by decide))
      simp only [Nat.toDigitsCore]
      split
      · have last : n % 10 = n := by omega
        refine ⟨[Nat.digitChar (n % 10)], rfl, ⟨by simpa using isDigit, ?_, ?_, ?_⟩⟩
        · simp only [digitsValue, List.foldl_cons, List.foldl_nil]; omega
        · intro zero; subst zero; rfl
        · intro positive; exact ⟨_, [], rfl, leading (by omega)⟩
      · obtain ⟨digits, equation, numeral⟩ :=
          induction (n / 10) (Nat.digitChar (n % 10) :: acc) (by omega)
        refine ⟨digits ++ [Nat.digitChar (n % 10)], by simp [equation], ⟨?_, ?_, ?_, ?_⟩⟩
        · intro c member
          rcases List.mem_append.mp member with inner | last
          · exact numeral.digit c inner
          · rw [List.mem_singleton.mp last]; exact isDigit
        · rw [digitsValue_append_singleton, numeral.value, value]; omega
        · intro zero; omega
        · intro _
          obtain ⟨first, more, rfl, nonzero⟩ := numeral.leading (by omega)
          exact ⟨first, more ++ [Nat.digitChar (n % 10)], rfl, nonzero⟩

theorem toDigits_numeral (n : Nat) : Numeral (Nat.toDigits 10 n) n := by
  obtain ⟨digits, equation, numeral⟩ := toDigitsCore_numeral (n + 1) n [] (Nat.lt_succ_self n)
  rw [Nat.toDigits, equation, List.append_nil]
  exact numeral

theorem spanDigits_numeral {digits : List Char} (digit : ∀ c ∈ digits, c.isDigit) (c : Char)
    (more : List Char) (stop : c.isDigit = false) :
    spanDigits (digits ++ c :: more) = (digits, c :: more) := by
  rw [spanDigits, List.span_eq_take_drop, List.takeWhile_append_of_pos digit,
    List.dropWhile_append_of_pos digit]
  simp [List.takeWhile_cons, List.dropWhile_cons, stop]

theorem lexNumber_numeral {digits : List Char} {n : Nat} (numeral : Numeral digits n)
    (minus : List Char) (signed : minus = [] ∨ minus = ['-']) (c : Char) (more : List Char)
    (stop : c = ',' ∨ c = '}') :
    lexNumber (minus ++ digits ++ c :: more) = .ok (minus ++ digits, c :: more) := by
  have fraction : lexFraction (c :: more) = .ok ([], c :: more) := by
    rcases stop with rfl | rfl <;> rfl
  have notDigit : c.isDigit = false := by rcases stop with rfl | rfl <;> rfl
  rcases Nat.eq_zero_or_pos n with zero | positive
  · rw [numeral.zero zero]
    rcases signed with rfl | rfl <;> simp [lexNumber, fraction, Except.map]
  · obtain ⟨first, rest, rfl, nonzero⟩ := numeral.leading positive
    have notMinus : first ≠ '-' := by rintro rfl; simp at nonzero
    have notZero : first ≠ '0' := by rintro rfl; simp at nonzero
    have span := spanDigits_numeral
      (fun c member => numeral.digit c (List.mem_cons_of_mem _ member)) c more notDigit
    rcases signed with rfl | rfl
    · simp [lexNumber, notMinus, notZero, nonzero, span, fraction, Except.map]
    · simp [lexNumber, notZero, nonzero, span, fraction, Except.map]

theorem parseInt64_digits {digits : List Char} {n : Nat} (numeral : Numeral digits n)
    (high : n < 2 ^ 63) : parseInt64 digits = some n := by
  have allDigits : digits.all Char.isDigit = true := List.all_eq_true.mpr numeral.digit
  rcases Nat.eq_zero_or_pos n with zero | positive
  · subst zero
    rw [numeral.zero rfl]
    rfl
  · obtain ⟨first, rest, equal, nonzero⟩ := numeral.leading positive
    have notMinus : first ≠ '-' := by rintro rfl; simp at nonzero
    subst equal
    simp [parseInt64, notMinus, allDigits, numeral.value, Option.filter]
    omega

theorem parseInt64_toString (value : Int) (low : -2 ^ 63 ≤ value) (high : value < 2 ^ 63) :
    parseInt64 (toString value).data = some value := by
  cases value with
  | ofNat n =>
      rw [Int.ofNat_eq_coe] at low high ⊢
      exact (parseInt64_digits (toDigits_numeral n) (by omega) :
        parseInt64 (Nat.toDigits 10 n) = _)
  | negSucc n =>
      have numeral := toDigits_numeral (n + 1)
      have allDigits : (Nat.toDigits 10 (n + 1)).all Char.isDigit = true :=
        List.all_eq_true.mpr numeral.digit
      show parseInt64 ('-' :: Nat.toDigits 10 (n + 1)) = _
      rw [Int.negSucc_eq] at low high ⊢
      simp [parseInt64, allDigits, numeral.value, Option.filter]
      omega

/-! ## The two entries -/

/-- A key the string scanner passes through unchanged: no quote, no backslash, no
control character. -/
def PlainKey (key : List Char) : Prop :=
  ∀ c ∈ key, c ≠ '"' ∧ c ≠ '\\' ∧ ¬c.toNat < 0x20

instance : DecidablePred PlainKey :=
  fun key =>
    inferInstanceAs (Decidable (∀ c ∈ key, c ≠ '"' ∧ c ≠ '\\' ∧ ¬c.toNat < 0x20))

theorem scanString_plain (key : List Char) (plain : PlainKey key) (rest : List Char) :
    scanString (key ++ '"' :: rest) = .ok (key.map .char, rest) := by
  induction key with
  | nil => rfl
  | cons c key induction =>
      obtain ⟨notQuote, notBackslash, printable⟩ := plain c (List.mem_cons_self _ _)
      rw [List.cons_append, scanString]
      simp [notQuote, notBackslash, printable,
        induction fun c member => plain c (List.mem_cons_of_mem _ member), Except.map]

theorem joinSurrogates_chars (key : List Char) : joinSurrogates none (key.map .char) = key := by
  induction key with
  | nil => rfl
  | cons c key induction => simp [joinSurrogates, induction]

theorem lexString_plain (key : List Char) (plain : PlainKey key) (rest : List Char) :
    lexString (key ++ '"' :: rest) = .ok (key, rest) := by
  simp [lexString, scanString_plain key plain, joinSurrogates_chars, Except.map]

theorem parseValue_number (fuel : Nat) {digits : List Char} {n : Nat}
    (numeral : Numeral digits n) (minus : List Char) (signed : minus = [] ∨ minus = ['-'])
    (c : Char) (more : List Char) (stop : c = ',' ∨ c = '}') :
    parseValue (fuel + 1) (' ' :: (minus ++ digits ++ c :: more)) =
      .ok (.number (minus ++ digits), c :: more) := by
  have lexed := lexNumber_numeral numeral minus signed c more stop
  rcases Nat.eq_zero_or_pos n with zero | positive
  · rw [numeral.zero zero] at lexed ⊢
    rcases signed with rfl | rfl <;>
      simp only [List.nil_append, List.cons_append, List.singleton_append] at lexed <;>
      simp [parseValue, skipWhitespace, isWhitespace, lexed, Except.map]
  · obtain ⟨first, rest, rfl, -⟩ := numeral.leading positive
    have digit : first.isDigit = true := numeral.digit first (List.mem_cons_self _ _)
    -- a digit opens no other value and is no whitespace
    have distinct : first ≠ '-' ∧ first ≠ '{' ∧ first ≠ '[' ∧ first ≠ '"' ∧
        first ≠ 't' ∧ first ≠ 'f' ∧ first ≠ 'n' ∧
        first ≠ ' ' ∧ first ≠ '\t' ∧ first ≠ '\n' ∧ first ≠ '\r' := by
      refine ⟨?_, ?_, ?_, ?_, ?_, ?_, ?_, ?_, ?_, ?_, ?_⟩ <;> rintro rfl <;> simp at digit
    rcases signed with rfl | rfl <;>
      simp only [List.nil_append, List.cons_append, List.singleton_append] at lexed <;>
      simp [parseValue, skipWhitespace, isWhitespace, lexed, Except.map, distinct, digit]

theorem toString_int_data (value : Int) : ∃ minus, (minus = [] ∨ minus = ['-']) ∧
    (toString value).data = minus ++ Nat.toDigits 10 value.natAbs := by
  cases value with
  | ofNat n => exact ⟨[], .inl rfl, rfl⟩
  | negSucc n => exact ⟨['-'], .inr rfl, rfl⟩

theorem parseValue_toString (fuel : Nat) (value : Int) (c : Char) (more : List Char)
    (stop : c = ',' ∨ c = '}') :
    parseValue (fuel + 1) (' ' :: ((toString value).data ++ c :: more)) =
      .ok (.number (toString value).data, c :: more) := by
  obtain ⟨minus, signed, data⟩ := toString_int_data value
  rw [data]
  exact parseValue_number fuel (toDigits_numeral _) minus signed c more stop

theorem parseValue_object (fuel : Nat) (rest : List Char) :
    parseValue (fuel + 1) ('{' :: '"' :: rest) =
      (parseMembers fuel ('"' :: rest)).map fun (fields, after) => (.object fields, after) :=
  rfl

section Members

variable (fuel : Nat) (key : List Char) (plain : PlainKey key) (value : Int)
include plain

theorem parseMembers_next (more : List Char) :
    parseMembers (fuel + 1 + 1)
        ('"' :: (key ++ '"' :: ':' :: ' ' ::
          ((toString value).data ++ ',' :: ' ' :: '"' :: more))) =
      (parseMembers (fuel + 1) ('"' :: more)).map fun (fields, after) =>
        ((String.mk key, .number (toString value).data) :: fields, after) := by
  rw [parseMembers, lexString_plain key plain]
  simp [bind, Except.bind, Except.map, skipWhitespace, isWhitespace,
    parseValue_toString fuel value ',' _ (.inl rfl)]

theorem parseMembers_last (after : List Char) :
    parseMembers (fuel + 1 + 1)
        ('"' :: (key ++ '"' :: ':' :: ' ' :: ((toString value).data ++ '}' :: after))) =
      .ok ([(String.mk key, .number (toString value).data)], after) := by
  rw [parseMembers, lexString_plain key plain]
  simp [bind, Except.bind, skipWhitespace, isWhitespace,
    parseValue_toString fuel value '}' _ (.inr rfl)]

end Members

theorem fuel_of_data {text : String} {a b c : Char} {rest : List Char}
    (data : text.data = a :: b :: c :: rest) :
    text.length + 1 = rest.length + 1 + 1 + 1 + 1 := by
  cases text
  simp only [String.length_mk] at data ⊢
  simp [data]

theorem unmarshal_bounds (minCount maxCount : Int)
    (minRange : -2 ^ 63 ≤ minCount ∧ minCount < 2 ^ 63)
    (maxRange : -2 ^ 63 ≤ maxCount ∧ maxCount < 2 ^ 63) :
    unmarshal ("\x7b\"MinCount\": " ++ toString minCount ++ ", \"MaxCount\": " ++
      toString maxCount ++ "\x7d") = .ok [("MinCount", minCount), ("MaxCount", maxCount)] := by
  have data : ("\x7b\"MinCount\": " ++ toString minCount ++ ", \"MaxCount\": " ++
      toString maxCount ++ "\x7d").data =
      '{' :: '"' :: ("MinCount".data ++ '"' :: ':' :: ' ' ::
        ((toString minCount).data ++ ',' :: ' ' :: '"' :: ("MaxCount".data ++ '"' :: ':' :: ' ' ::
          ((toString maxCount).data ++ '}' :: [])))) := by
    simp only [String.data_append, List.append_assoc]
    rfl
  unfold unmarshal
  rw [fuel_of_data data, data, parseValue_object, parseMembers_next _ _ (by decide),
    parseMembers_last _ _ (by decide)]
  simp [Except.map, skipWhitespace, decode, memberValue,
    parseInt64_toString _ minRange.1 minRange.2, parseInt64_toString _ maxRange.1 maxRange.2,
    GoMap.insert]

theorem unmarshal_count (count : Int) (range : -2 ^ 63 ≤ count ∧ count < 2 ^ 63) :
    unmarshal ("\x7b\"Count\": " ++ toString count ++ "\x7d") = .ok [("Count", count)] := by
  have data : ("\x7b\"Count\": " ++ toString count ++ "\x7d").data =
      '{' :: '"' ::
        ("Count".data ++ '"' :: ':' :: ' ' :: ((toString count).data ++ '}' :: [])) := by
    simp only [String.data_append, List.append_assoc]
    rfl
  unfold unmarshal
  rw [fuel_of_data data, data, parseValue_object, parseMembers_last _ _ (by decide)]
  simp [Except.map, skipWhitespace, decode, memberValue, parseInt64_toString _ range.1 range.2,
    GoMap.insert]

end NodeUpdater.Json

namespace NodeUpdater

/-! ## The recorded mode -/

/-- The scaling mode a record entry keeps of a pool. -/
inductive Scaling where
  | autoscaled (minCount maxCount : BitVec 32)
  | manual (count : BitVec 32)
  deriving DecidableEq, Repr

/-- The mode the encoder of `Reconcile` records for a pool, when it records one. -/
def recordedScaling (properties : AgentPoolProperties) : Option Scaling :=
  match properties.minCount, properties.maxCount, properties.count with
  | some minCount, some maxCount, _ => some (.autoscaled minCount maxCount)
  | none, none, some count => some (.manual count)
  | _, _, _ => none

namespace Scaling

/-- The properties of a pool brought to a mode. -/
def apply : Scaling → AgentPoolProperties → AgentPoolProperties
  | autoscaled minCount maxCount, properties => { properties with
      enableAutoScaling := some true, minCount := some minCount, maxCount := some maxCount }
  | manual count, properties => { properties with
      enableAutoScaling := some false, count := some count }

@[simp] theorem apply_apply (scaling : Scaling) (properties : AgentPoolProperties) :
    scaling.apply (scaling.apply properties) = scaling.apply properties := by
  cases scaling <;> rfl

@[simp] theorem apply_provisioningState (scaling : Scaling) (properties : AgentPoolProperties) :
    (scaling.apply properties).provisioningState = properties.provisioningState := by
  cases scaling <;> rfl

@[simp] theorem apply_mode (scaling : Scaling) (properties : AgentPoolProperties) :
    (scaling.apply properties).mode = properties.mode := by
  cases scaling <;> rfl

/-- The map `json.Unmarshal` reads back from the entry of a mode. -/
def fields : Scaling → GoMap Int
  | autoscaled minCount maxCount => [("MinCount", minCount.toInt), ("MaxCount", maxCount.toInt)]
  | manual count => [("Count", count.toInt)]

/-- The mode `SetDefaultScaling` brings a pool to for a decoded record entry: both
bounds when both are present, otherwise a fixed count when it is present. Counts are
converted with Go's `int32()`. -/
def selected (scalingConfig : GoMap Int) : Option Scaling :=
  match scalingConfig.find? "MinCount", scalingConfig.find? "MaxCount",
      scalingConfig.find? "Count" with
  | some minCount, some maxCount, _ =>
      some (.autoscaled (BitVec.ofInt 32 minCount) (BitVec.ofInt 32 maxCount))
  | _, _, some count => some (.manual (BitVec.ofInt 32 count))
  | _, _, none => none

/-- What bringing `nodepool` to the mode submits: nothing when it has the mode already. -/
def submission (scaling : Scaling) (nodepool : AgentPool) (properties : AgentPoolProperties) :
    List Request :=
  if scaling.apply properties = properties then []
  else [.createOrUpdatePool nodepool.name
    { nodepool with properties := some (scaling.apply properties) }]

end Scaling

theorem ofInt_toInt32 (x : BitVec 32) : BitVec.ofInt 32 x.toInt = x :=
  BitVec.eq_of_toInt_eq (by rw [BitVec.toInt_ofInt, BitVec.toInt_eq_toNat_bmod, Int.bmod_bmod])

theorem toInt32_range (x : BitVec 32) : -2 ^ 63 ≤ x.toInt ∧ x.toInt < 2 ^ 63 := by
  have bound := x.isLt
  rw [BitVec.toInt_eq_toNat_cond]
  split <;> omega

/-- The entry of a pool is defined exactly when the encoder records a mode for it, and it
reads back as that mode. -/
theorem scalingEntry_decodes (pool : AgentPool) :
    match pool.properties.bind recordedScaling with
    | none => Json.scalingEntry pool = .error Json.nilDereference
    | some scaling => ∃ entry, Json.scalingEntry pool = .ok entry ∧
        Json.unmarshal entry = .ok scaling.fields := by
  rcases pool with ⟨name, _ | ⟨state, mode, enable, count, minCount, maxCount⟩⟩
  · rfl
  · rcases minCount with _ | minCount <;> rcases maxCount with _ | maxCount <;>
      rcases count with _ | count <;>
      dsimp only [Option.bind, recordedScaling, Json.scalingEntry, Option.isSome, or,
        Scaling.fields, reduceIte]
    all_goals simp only [↓reduceIte, Bool.false_eq_true]
    · exact ⟨_, rfl, Json.unmarshal_count _ (toInt32_range _)⟩
    all_goals exact ⟨_, rfl, Json.unmarshal_bounds _ _ (toInt32_range _) (toInt32_range _)⟩

theorem Scaling.selected_isSome (scalingConfig : GoMap Int) :
    (selected scalingConfig).isSome ↔
      ((scalingConfig.find? "MinCount").isSome ∧ (scalingConfig.find? "MaxCount").isSome) ∨
        (scalingConfig.find? "Count").isSome := by
  unfold selected
  rcases scalingConfig.find? "MinCount" with _ | minCount <;>
    rcases scalingConfig.find? "MaxCount" with _ | maxCount <;>
    rcases scalingConfig.find? "Count" with _ | count <;> simp

theorem Scaling.selected_fields (scaling : Scaling) : selected scaling.fields = some scaling := by
  cases scaling <;> simp [selected, fields, GoMap.find?, List.lookup_cons, ofInt_toInt32]

/-- `SetDefaultScaling` writes the pool back in the mode its entry selects, unless the
pool is in it already; an entry that selects no mode leaves the pool as it is, and the
pool is written back all the same. -/
theorem scalingTarget_selected (properties : AgentPoolProperties) (scalingConfig : GoMap Int) :
    NodePoolController.scalingTarget properties scalingConfig =
      match Scaling.selected scalingConfig with
      | some scaling =>
          if scaling.apply properties = properties then none else some (scaling.apply properties)
      | none => some properties := by
  rcases properties with ⟨state, mode, enable, count, minCount, maxCount⟩
  unfold NodePoolController.scalingTarget Scaling.selected
  rcases scalingConfig.find? "MinCount" with _ | low <;>
    rcases scalingConfig.find? "MaxCount" with _ | high <;>
    rcases scalingConfig.find? "Count" with _ | fixed <;>
    simp only [Scaling.apply, AgentPoolProperties.mk.injEq, true_and, and_true,
      @eq_comm _ (some _)]

theorem scalingTarget_fields (scaling : Scaling) (properties : AgentPoolProperties) :
    NodePoolController.scalingTarget properties scaling.fields =
      if scaling.apply properties = properties then none else some (scaling.apply properties) := by
  simp only [scalingTarget_selected, Scaling.selected_fields]

/-! ## Writing the mode back -/

namespace NodePoolController

section Restore

variable (requests : List Request)

theorem scalingWrite_submits (nodepool submitted : AgentPool) :
    Triple (fun _ log => log.map (·.request) = requests) (scalingWrite nodepool submitted)
      (fun _ _ log =>
        log.map (·.request) = requests ++ [.createOrUpdatePool nodepool.name submitted])
      halt := by
  have write : Triple (fun _ log => log.map (·.request) = requests)
      (AgentPoolClient.beginCreateOrUpdate nodepool.name submitted)
      (fun _ _ log =>
        log.map (·.request) = requests ++ [.createOrUpdatePool nodepool.name submitted])
      halt :=
    mutate_triple _ _ _ (fun _ _ _ before _ => by simp [before])
      fun _ _ _ before => by simp [before]
  refine write.bind fun result => ?_
  cases result with
  | error err => exact .ite (fun _ => .pure' fun _ _ => id) fun _ => .pure' fun _ _ => id
  | ok _ => exact .pure' fun _ _ => id

theorem scalingWrite_answered (nodepool submitted : AgentPool) (world : World)
    (orders : List (List Nat)) (log : List Entry) :
    ∃ updated, scalingWrite nodepool submitted ⟨world, [], orders, log⟩ = .ok (.ok ())
      ⟨updated, [], orders, log ++ [⟨world, .createOrUpdatePool nodepool.name submitted, true⟩]⟩ := by
  unfold scalingWrite AgentPoolClient.beginCreateOrUpdate
  by_cases existing : (world.poolNamed? nodepool.name).isSome <;>
    simp only [bind, EStateM.bind, mutate_answered, existing, if_true, if_false] <;>
    exact ⟨_, rfl⟩

variable {nodepool : AgentPool} {properties : AgentPoolProperties}
  (present : nodepool.properties = some properties) {entry : String} {scalingConfig : GoMap Int}
  (decodes : Json.unmarshal entry = .ok scalingConfig)
include present decodes

theorem applyScalingData_writes :
    Triple (fun _ log => log.map (·.request) = requests) (applyScalingData nodepool entry)
      (fun _ _ log => log.map (·.request) = requests ++
        (scalingTarget properties scalingConfig).toList.map fun target =>
          .createOrUpdatePool nodepool.name { nodepool with properties := some target })
      (fun _ _ => False) := by
  unfold applyScalingData
  simp only [decodes, present]
  cases scalingTarget properties scalingConfig with
  | none => exact .pure' fun _ _ holds => by simp [holds]
  | some target => exact scalingWrite_submits requests _ _

theorem setDefaultScaling_writes (succeeded : properties.provisioningState = some "Succeeded") :
    Triple (fun _ log => log.map (·.request) = requests) (setDefaultScaling nodepool entry)
      (fun _ _ log => log.map (·.request) = requests ++
        (scalingTarget properties scalingConfig).toList.map fun target =>
          .createOrUpdatePool nodepool.name { nodepool with properties := some target })
      (fun _ _ => False) := by
  unfold setDefaultScaling
  cases mode : properties.mode <;>
    simp only [present, mode, succeeded, Option.some_bind, Option.map_none', Option.map_some',
      ne_eq, not_true_eq_false, if_false]
  all_goals exact applyScalingData_writes requests present decodes

omit decodes in
theorem setDefaultScaling_submits (scaling : Scaling)
    (decodes : Json.unmarshal entry = .ok scaling.fields)
    (succeeded : properties.provisioningState = some "Succeeded") :
    Triple (fun _ log => log.map (·.request) = requests) (setDefaultScaling nodepool entry)
      (fun _ _ log => log.map (·.request) = requests ++ scaling.submission nodepool properties)
      (fun _ _ => False) := by
  have writes := setDefaultScaling_writes requests present decodes succeeded
  rw [scalingTarget_fields] at writes
  by_cases same : scaling.apply properties = properties <;>
    simpa [Scaling.submission, same] using writes

end Restore

end NodePoolController

theorem setDefaultScaling_restores_recorded (p q : AgentPool) (current : AgentPoolProperties)
    (present : q.properties = some current)
    (succeeded : current.provisioningState = some "Succeeded") (requests : List Request) :
    match p.properties.bind recordedScaling with
    | none => Json.scalingEntry p = .error Json.nilDereference
    | some scaling => ∃ entry, Json.scalingEntry p = .ok entry ∧
        Triple (fun _ log => log.map (·.request) = requests)
          (NodePoolController.setDefaultScaling q entry)
          (fun _ _ log => log.map (·.request) = requests ++ scaling.submission q current)
          (fun _ _ => False) := by
  have decodes := scalingEntry_decodes p
  cases recorded : p.properties.bind recordedScaling with
  | none => simpa only [recorded] using decodes
  | some scaling =>
      simp only [recorded] at decodes
      obtain ⟨entry, encoded, decoded⟩ := decodes
      exact ⟨entry, encoded,
        NodePoolController.setDefaultScaling_submits requests present scaling decoded succeeded⟩

namespace Scenario

/-- The scaling of `pool1` as `DisableAutoScaling` leaves it: autoscaling off, its
bounds still set. -/
def disabledScaling : AgentPoolProperties :=
  { scaling "Succeeded" with enableAutoScaling := some false }

def autoscaled : AgentPool :=
  ⟨"pool1", some (scaling "Succeeded")⟩

def disabled : AgentPool :=
  ⟨"pool1", some disabledScaling⟩

end Scenario

open Scenario

/-- The record of `pool1` with autoscaling on, restored onto the pool with autoscaling
off. -/
theorem restores_autoscaled_pool :
    disabled.properties = some disabledScaling ∧
      disabledScaling.provisioningState = some "Succeeded" ∧
      match autoscaled.properties.bind recordedScaling with
      | none => Json.scalingEntry autoscaled = .error Json.nilDereference
      | some mode => ∃ entry, Json.scalingEntry autoscaled = .ok entry ∧
          Triple (fun _ log => log.map (·.request) = [])
            (NodePoolController.setDefaultScaling disabled entry)
            (fun _ _ log => log.map (·.request) = [] ++ mode.submission disabled disabledScaling)
            (fun _ _ => False) :=
  ⟨rfl, rfl, setDefaultScaling_restores_recorded autoscaled disabled disabledScaling rfl rfl []⟩

/-- A pool recorded with autoscaling off but both bounds set is written back with
autoscaling on. -/
theorem disabled_restored_autoscaled :
    Json.scalingEntry disabled = .ok "\x7b\"MinCount\": 1, \"MaxCount\": 3\x7d" ∧
      (finalSession (NodePoolController.setDefaultScaling disabled
          "\x7b\"MinCount\": 1, \"MaxCount\": 3\x7d" (Session.start outdated [] []))).log.map
        (·.request) = [.createOrUpdatePool "pool1" autoscaled] := by
  decide

/-! ## Writing back again -/

open NodePoolController in
/-- Once the write of `SetDefaultScaling` has been applied and the pool is `Succeeded`
again, the same record entry sends nothing more: the restore loop stops writing. -/
theorem setDefaultScaling_idempotent (q : AgentPool) (current : AgentPoolProperties)
    (present : q.properties = some current)
    (succeeded : current.provisioningState = some "Succeeded") (entry : String)
    (scalingConfig : GoMap Int) (decodes : Json.unmarshal entry = .ok scalingConfig)
    (hasMode : ((scalingConfig.find? "MinCount").isSome ∧
      (scalingConfig.find? "MaxCount").isSome) ∨ (scalingConfig.find? "Count").isSome)
    (world : World) (faults : List Fault) (orders : List (List Nat)) (submitted : AgentPool)
    (submits : Request.createOrUpdatePool q.name submitted ∈
      (finalSession (setDefaultScaling q entry (Session.start world faults orders))).log.map
        (·.request))
    (applied : AgentPool)
    (settled : applied.properties = submitted.properties.map fun properties =>
      { properties with provisioningState := some "Succeeded" })
    (later : Session) :
    setDefaultScaling applied entry later = .ok (.ok ()) later := by
  obtain ⟨scaling, selects⟩ :=
    Option.isSome_iff_exists.mp ((Scaling.selected_isSome _).mpr hasMode)
  have sent := ((setDefaultScaling_writes [] present decodes succeeded).weaken (fun _ _ => id)
    (fun _ _ _ => id) fun _ _ never => never.elim).finalSession_holds
    (Session.start world faults orders) rfl
  have target : scalingTarget current scalingConfig =
      if scaling.apply current = current then none else some (scaling.apply current) := by
    simp only [scalingTarget_selected, selects]
  rw [sent, target] at submits
  by_cases unchanged : scaling.apply current = current
  · simp [unchanged] at submits
  · have written : submitted = { q with properties := some (scaling.apply current) } := by
      simpa [unchanged, eq_comm] using submits
    have appliedIs : applied.properties = some (scaling.apply current) := by
      rw [settled, written, Option.map_some', ← succeeded,
        ← Scaling.apply_provisioningState scaling current]
    have stays : scalingTarget (scaling.apply current) scalingConfig = none := by
      simp [scalingTarget_selected, selects]
    unfold setDefaultScaling applyScalingData
    cases mode : current.mode <;>
      simp only [appliedIs, mode, succeeded, decodes, stays, Scaling.apply_mode,
        Scaling.apply_provisioningState, Option.some_bind, Option.map_none', Option.map_some',
        ne_eq, not_true_eq_false, if_false] <;> rfl

/-- The pool recorded with autoscaling off but both bounds set: its restore writes it
with autoscaling on, and a second restore from the same entry sends nothing. -/
theorem restored_pool_left_alone :
    disabled.properties = some disabledScaling ∧
      disabledScaling.provisioningState = some "Succeeded" ∧
      Json.unmarshal "\x7b\"MinCount\": 1, \"MaxCount\": 3\x7d" =
        .ok [("MinCount", 1), ("MaxCount", 3)] ∧
      ((GoMap.find? [("MinCount", (1 : Int)), ("MaxCount", 3)] "MinCount").isSome ∧
        (GoMap.find? [("MinCount", (1 : Int)), ("MaxCount", 3)] "MaxCount").isSome) ∧
      Request.createOrUpdatePool disabled.name autoscaled ∈
        (finalSession (NodePoolController.setDefaultScaling disabled
          "\x7b\"MinCount\": 1, \"MaxCount\": 3\x7d" (Session.start outdated [] []))).log.map
          (·.request) ∧
      autoscaled.properties = autoscaled.properties.map (fun properties =>
        { properties with provisioningState := some "Succeeded" }) ∧
      NodePoolController.setDefaultScaling autoscaled
          "\x7b\"MinCount\": 1, \"MaxCount\": 3\x7d" (Session.start outdated [] []) =
        .ok (.ok ()) (Session.start outdated [] []) := by
  have decodes : Json.unmarshal "\x7b\"MinCount\": 1, \"MaxCount\": 3\x7d" =
      .ok [("MinCount", 1), ("MaxCount", 3)] := by decide
  have submits : Request.createOrUpdatePool disabled.name autoscaled ∈
      (finalSession (NodePoolController.setDefaultScaling disabled
        "\x7b\"MinCount\": 1, \"MaxCount\": 3\x7d" (Session.start outdated [] []))).log.map
        (·.request) := by decide
  exact ⟨rfl, rfl, decodes, ⟨rfl, rfl⟩, submits, rfl,
    setDefaultScaling_idempotent disabled disabledScaling rfl rfl _ _ decodes (.inl ⟨rfl, rfl⟩)
      outdated [] [] autoscaled submits autoscaled rfl _⟩

open NodePoolController in
/-- A record entry that decodes but selects no mode is not refused: the pool is written
back unchanged and `SetDefaultScaling` returns nil. -/
theorem setDefaultScaling_writes_unchanged (q : AgentPool) (current : AgentPoolProperties)
    (present : q.properties = some current)
    (succeeded : current.provisioningState = some "Succeeded") (entry : String)
    (scalingConfig : GoMap Int) (decodes : Json.unmarshal entry = .ok scalingConfig)
    (noMode : ¬((scalingConfig.find? "MinCount").isSome ∧
      (scalingConfig.find? "MaxCount").isSome) ∧ scalingConfig.find? "Count" = none)
    (world : World) (orders : List (List Nat)) :
    ∃ after, setDefaultScaling q entry (Session.start world [] orders) = .ok (.ok ()) after ∧
      after.log.map (·.request) = [.createOrUpdatePool q.name q] := by
  have none : Scaling.selected scalingConfig = none := by
    rw [← Option.not_isSome_iff_eq_none, Scaling.selected_isSome]
    simp [noMode.1, noMode.2]
  have unchanged : scalingTarget current scalingConfig = some current := by
    rw [scalingTarget_selected, none]
  have same : { q with properties := some current } = q := by rw [← present]
  obtain ⟨updated, written⟩ := scalingWrite_answered q q world orders []
  unfold setDefaultScaling applyScalingData
  cases mode : current.mode <;>
    simp only [present, mode, succeeded, decodes, unchanged, same, Option.some_bind,
      Option.map_none', Option.map_some', ne_eq, not_true_eq_false, if_false, Session.start,
      written] <;>
    exact ⟨_, rfl, rfl⟩

/-- The entry of a pool with only its lower bound: decoded, and the pool written back
as it is. -/
theorem lowerBound_entry_rewrites_pool :
    autoscaled.properties = some (scaling "Succeeded") ∧
      (scaling "Succeeded").provisioningState = some "Succeeded" ∧
      Json.unmarshal "\x7b\"MinCount\": 2\x7d" = .ok [("MinCount", 2)] ∧
      (¬((GoMap.find? [("MinCount", (2 : Int))] "MinCount").isSome ∧
        (GoMap.find? [("MinCount", (2 : Int))] "MaxCount").isSome) ∧
        GoMap.find? [("MinCount", (2 : Int))] "Count" = none) ∧
      ∃ after, NodePoolController.setDefaultScaling autoscaled "\x7b\"MinCount\": 2\x7d"
          (Session.start outdated [] []) = .ok (.ok ()) after ∧
        after.log.map (·.request) = [.createOrUpdatePool autoscaled.name autoscaled] := by
  have decodes : Json.unmarshal "\x7b\"MinCount\": 2\x7d" = .ok [("MinCount", 2)] := by
    decide
  exact ⟨rfl, rfl, decodes, by decide,
    setDefaultScaling_writes_unchanged autoscaled _ rfl rfl _ _ decodes (by decide) outdated []⟩

end NodeUpdater
