import HieroRelay.Redis.ContractResults

/-! What is read back from Redis is formatted like what was fetched, exactly where the
integers that are formatted have short texts. -/

namespace HieroRelay.Redis

open HieroRelay.Js (JsError MAX_SAFE_INTEGER roundToDouble)
open HieroRelay.Blocks (EMPTY_HEX EntityType TOTAL_SUPPLY_TINYBARS)

/-- From six digits on, ten to their number is at most sixteen to one less. -/
theorem ten_pow_le_sixteen_pow (digits : Nat) : 10 ^ (6 + digits) ≤ 16 ^ (5 + digits) := by
  induction digits with
  | zero => decide
  | succ digits ih =>
    rw [← Nat.add_assoc, ← Nat.add_assoc, Nat.pow_succ, Nat.pow_succ]
    exact Nat.mul_le_mul ih (by decide)

/-- The decimal digits of a large number are more than its hexadecimal ones. -/
theorem toDigits_ten_ne_sixteen {value : Nat}
    (large : 10 ^ 5 ≤ value) : Nat.toDigits 10 value ≠ Nat.toDigits 16 value := by
  intro same
  have lengths := congrArg List.length same
  obtain ⟨digits, many⟩ : ∃ digits, (Nat.toDigits 10 value).length = 6 + digits := by
    have more : ¬ (Nat.toDigits 10 value).length ≤ 5 := by
      rw [Nat.length_toDigits_le_iff (by decide) (by decide)]
      omega
    exact ⟨_, (Nat.add_sub_cancel' (by omega)).symm⟩
  have below : value < 10 ^ (6 + digits) :=
    (Nat.length_toDigits_le_iff (by decide) (by omega)).mp (Nat.le_of_eq many)
  have above : ¬ value < 16 ^ (5 + digits) := by
    rw [← Nat.length_toDigits_le_iff (by decide) (by omega)]
    omega
  exact above (Nat.lt_of_lt_of_le below (ten_pow_le_sixteen_pow digits))

variable {json : JSONBigInt} {value : Int}

/-- The integer as it is read back. -/
def readBack (json : JSONBigInt) (value : Int) : JsInteger := JSON.parse (JSON.stringify (json.parse value))

theorem readBack_of_short (short : isShort value = true) : readBack json value = json.parse value := by
  have exact := toDouble_of_safe (isSafeInteger_of_short short)
  simp [readBack, json.parse_of_short short, JSON.stringify, JSON.parse, exact]

theorem readBack_of_long (long : isShort value = false) : readBack json value = .decimal value := by
  simp [readBack, json.parse_of_long long, JSON.stringify, JSON.parse]

private theorem digits_ten_ne_sixteen (long : isShort value = false) : digits 10 value ≠ digits 16 value := by
  have big : 10 ^ 5 ≤ value.natAbs := by
    have bound : ¬ (-(10 ^ 14) < value ∧ value < 10 ^ 15) := fun within => by simp [isShort_iff.mpr within] at long
    omega
  have differ := toDigits_ten_ne_sixteen big
  intro same
  have chars := congrArg String.toList same
  unfold digits at chars
  split_ifs at chars with negative
  · exact differ (by simpa using chars)
  · exact differ (by simpa using chars)

/-- A string ignores the base, so the text of an integer survives only where it is short. -/
theorem toString16_readBack_iff :
    (readBack json value).toString16 = (json.parse value).toString16 ↔ isShort value = true := by
  constructor
  · intro same
    by_contra long
    rw [Bool.not_eq_true] at long
    rw [readBack_of_long long, json.parse_of_long long] at same
    exact digits_ten_ne_sixteen long same
  · intro short
    rw [readBack_of_short short]

theorem toNumber_readBack : (readBack json value).toNumber = (json.parse value).toNumber := by
  cases short : isShort value with
  | true => rw [readBack_of_short short]
  | false => rw [readBack_of_long short, json.parse_of_long short]; rfl

private theorem toBigInt_readBack : (readBack json value).toBigInt = (json.parse value).toBigInt := by
  cases short : isShort value with
  | true => rw [readBack_of_short short]
  | false => rw [readBack_of_long short, json.parse_of_long short]; rfl

/-- Both are the same number, or neither is a number. -/
theorem readBack_eq_number_iff {number : Int} :
    readBack json value = .number number ↔ json.parse value = .number number := by
  cases short : isShort value with
  | true => rw [readBack_of_short short]
  | false => simp [readBack_of_long short, json.parse_of_long short]

/-- An integer that is there has a short text. -/
def Field.Short (field : Field Int) : Prop := ∀ value, field = .given value → isShort value = true

variable {field : Field Int}

@[simp] theorem short_undefined : Field.Short .undefined := nofun

@[simp] theorem short_null : Field.Short .null := nofun

@[simp] theorem short_given_iff : Field.Short (.given value) ↔ isShort value = true := by
  simp [Field.Short]

theorem hexText_readBack_iff :
    "0x" ++ (readBack json value).toString16 = "0x" ++ (json.parse value).toString16 ↔ isShort value = true := by
  rw [← @toString16_readBack_iff json value]
  simp

/-- The formatters of a field: of what is read back, as of what is fetched. -/
theorem nanOrNumberTo0x_readBack_iff :
    nanOrNumberTo0x (field.map (readBack json)) = nanOrNumberTo0x (field.map json.parse) ↔ field.Short := by
  cases field with
  | undefined => simp [Field.map]
  | null => simp [Field.map]
  | given value => rw [short_given_iff, ← hexText_readBack_iff]; rfl

theorem nullableNumberTo0x_readBack_iff :
    nullableNumberTo0x (field.map (readBack json)) = nullableNumberTo0x (field.map json.parse) ↔ field.Short := by
  cases field with
  | undefined => simp [Field.map]
  | null => simp [Field.map]
  | given value =>
    rw [short_given_iff, ← hexText_readBack_iff]
    exact Option.some_inj

private theorem numberTo0x_readBack_iff :
    numberTo0x (field.map (readBack json)) = numberTo0x (field.map json.parse) ↔ field.Short := by
  cases field with
  | undefined => simp [Field.map, numberTo0x]
  | null => simp [Field.map, numberTo0x]
  | given value =>
    rw [short_given_iff, ← hexText_readBack_iff]
    exact ⟨fun same => Except.ok.inj same, congrArg Except.ok⟩

private theorem map_readBack_eq_number_iff {number : Int} :
    field.map (readBack json) = .given (.number number) ↔ field.map json.parse = .given (.number number) := by
  cases field with
  | undefined => simp [Field.map]
  | null => simp [Field.map]
  | given value => simpa [Field.map] using readBack_eq_number_iff

theorem short_of_number {number : Int} (same : field.map json.parse = .given (.number number)) : field.Short := by
  rintro value rfl
  by_contra long
  rw [Bool.not_eq_true] at long
  simp [Field.map, json.parse_of_long long] at same

/-- An amount becomes a number, or it is negative and read digit by digit. -/
theorem weibars_readBack (json : JSONBigInt) (field : Field Int) :
    (tinybarsToWeibars (field.map (readBack json)) true).map nanOrNumberInt64To0x =
      (tinybarsToWeibars (field.map json.parse) true).map nanOrNumberInt64To0x := by
  cases field with
  | undefined => rfl
  | null => rfl
  | given value =>
    simp only [Field.map, tinybarsToWeibars, toNumber_readBack]
    split_ifs with negative tooMuch
    · simp [Except.map, nanOrNumberInt64To0x, toNumber_readBack, toBigInt_readBack, negative]
    · rfl
    · rfl

private theorem createTransactionByType_readBack (type : Field Int) (v : String)
    (maxPriorityFeePerGas maxFeePerGas : Field String) :
    TransactionFactory.createTransactionByType (type.map (readBack json)) v maxPriorityFeePerGas maxFeePerGas =
      TransactionFactory.createTransactionByType (type.map json.parse) v maxPriorityFeePerGas maxFeePerGas := by
  cases type with
  | undefined => rfl
  | null => rfl
  | given value =>
    cases short : isShort value with
    | true => rw [Field.map, readBack_of_short short]; rfl
    | false => rw [Field.map, Field.map, readBack_of_long short, json.parse_of_long short]; rfl

/-- The call tracer reports an amount with a short text alike. -/
theorem callTracerValue_readBack_iff {cr : ContractResult Int} :
    DebugImpl.callTracerValue (readBack json <$> cr) = DebugImpl.callTracerValue (json.parse <$> cr) ↔
      cr.amount.Short := by
  show (if cr.amount.map (readBack json) = .given (.number 0) then _ else numberTo0x (cr.amount.map (readBack json))) =
    (if cr.amount.map json.parse = .given (.number 0) then _ else numberTo0x (cr.amount.map json.parse)) ↔ _
  simp only [map_readBack_eq_number_iff]
  split_ifs with zero
  · exact iff_of_true rfl (short_of_number zero)
  · exact numberTo0x_readBack_iff

/-- The texts that the formatter cuts are there. -/
structure Readable (cr : ContractResult Int) : Prop where
  block_hash : ∃ text, cr.block_hash = .given text
  from_address : ∃ text, cr.from_address = .given text
  hash : ∃ text, cr.hash = .given text
  r : cr.r ≠ .undefined
  s : cr.s ≠ .undefined

def KnownType (type : Field Int) : Prop := type = .null ∨ type = .given 0 ∨ type = .given 1 ∨ type = .given 2

/-- The integers that a transaction shows as hexadecimal numbers have short texts. -/
structure ShownShort (cr : ContractResult Int) : Prop where
  block_number : cr.block_number.Short
  gas_used : cr.gas_used.Short
  nonce : cr.nonce.Short
  transaction_index : cr.transaction_index.Short
  v : cr.v.Short

theorem textTo_ok_iff {last : Nat} {field : Field String} :
    (∃ text, CommonService.textTo last field = .ok text) ↔ ∃ text, field = .given text := by
  cases field with
  | undefined => simp [CommonService.textTo]
  | null => simp [CommonService.textTo]
  | given text => simp [CommonService.textTo]

theorem signaturePart_ok_iff {field : Field String} :
    (∃ text, CommonService.signaturePart field = .ok text) ↔ field ≠ .undefined := by
  cases field with
  | undefined => simp [CommonService.signaturePart, CommonService.textTo]
  | null => simp [CommonService.signaturePart]
  | given text => simp [CommonService.signaturePart, CommonService.textTo]

private theorem bind_ok_iff {Error Result Next : Type} {first : Except Error Result} {next : Result → Except Error Next}
    {value : Next} : first >>= next = .ok value ↔ ∃ result, first = .ok result ∧ next result = .ok value := by
  cases first with
  | ok result => simp [Bind.bind, Except.bind]
  | error error => simp [Bind.bind, Except.bind]

theorem textsOf_ok_iff {cr : ContractResult Int} :
    (∃ texts, CommonService.textsOf cr = .ok texts) ↔ Readable cr := by
  simp only [CommonService.textsOf, bind_ok_iff]
  constructor
  · rintro ⟨texts, blockHash, block, fromAddress, sender, hash, text, r, first, s, second, _⟩
    exact {
      block_hash := textTo_ok_iff.mp ⟨blockHash, block⟩
      from_address := textTo_ok_iff.mp ⟨fromAddress, sender⟩
      hash := textTo_ok_iff.mp ⟨hash, text⟩
      r := signaturePart_ok_iff.mp ⟨r, first⟩
      s := signaturePart_ok_iff.mp ⟨s, second⟩ }
  · intro readable
    obtain ⟨blockHash, block⟩ := textTo_ok_iff.mpr readable.block_hash
    obtain ⟨fromAddress, sender⟩ := textTo_ok_iff.mpr readable.from_address
    obtain ⟨hash, text⟩ := textTo_ok_iff.mpr readable.hash
    obtain ⟨r, first⟩ := signaturePart_ok_iff.mpr readable.r
    obtain ⟨s, second⟩ := signaturePart_ok_iff.mpr readable.s
    exact ⟨_, blockHash, block, fromAddress, sender, hash, text, r, first, s, second, rfl⟩

theorem parse_eq_number_iff {number : Int} (short : isShort number = true) :
    json.parse value = .number number ↔ value = number := by
  constructor
  · intro same
    cases kept : isShort value with
    | true => exact JsInteger.number.inj ((json.parse_of_short kept).symm.trans same)
    | false => simp [json.parse_of_long kept] at same
  · rintro rfl
    exact json.parse_of_short short

theorem createTransactionByType_isSome_iff {type : Field Int} {v : String}
    {maxPriorityFeePerGas maxFeePerGas : Field String} :
    (TransactionFactory.createTransactionByType (type.map json.parse) v maxPriorityFeePerGas
      maxFeePerGas).isSome = true ↔ KnownType type := by
  cases type with
  | undefined => simp [Field.map, TransactionFactory.createTransactionByType, KnownType]
  | null => simp [Field.map, TransactionFactory.createTransactionByType, KnownType]
  | given value =>
    have zero : json.parse value = .number 0 ↔ value = 0 := parse_eq_number_iff rfl
    have one : json.parse value = .number 1 ↔ value = 1 := parse_eq_number_iff rfl
    have two : json.parse value = .number 2 ↔ value = 2 := parse_eq_number_iff rfl
    simp only [Field.map, TransactionFactory.createTransactionByType, KnownType, reduceCtorEq, Field.given.injEq,
      ← zero, ← one, ← two, false_or]
    split <;> simp_all

theorem map_readBack_of_short (json : JSONBigInt) (short : field.Short) :
    field.map (readBack json) = field.map json.parse := by
  cases field with
  | undefined => rfl
  | null => rfl
  | given value => exact congrArg Field.given (readBack_of_short (short value rfl))

theorem KnownType.short {type : Field Int} (known : KnownType type) : type.Short := by
  rcases known with rfl | rfl | rfl | rfl
  · exact short_null
  all_goals exact short_given_iff.mpr rfl

def WithinSupply (amount : Field Int) : Prop := ∀ value, amount = .given value → toDouble value ≤ TOTAL_SUPPLY_TINYBARS

private theorem withinSupply_of_short (short : field.Short) : WithinSupply field := by
  rintro value rfl
  rw [toDouble_of_safe (isSafeInteger_of_short (short value rfl))]
  have small := (isShort_iff.mp (short value rfl)).2
  simp only [TOTAL_SUPPLY_TINYBARS]
  omega

theorem tinybarsToWeibars_ok_iff :
    (∃ weibars, tinybarsToWeibars (field.map json.parse) true = .ok weibars) ↔ WithinSupply field := by
  cases field with
  | undefined => simp [Field.map, tinybarsToWeibars, WithinSupply]
  | null => simp [Field.map, tinybarsToWeibars, WithinSupply]
  | given value =>
    simp only [Field.map, tinybarsToWeibars, toNumber_parse, WithinSupply, Field.given.injEq, forall_eq']
    split_ifs with negative tooMuch
    · simp only [Except.ok.injEq, exists_eq', true_iff]
      omega
    · simpa using tooMuch
    · simpa using tooMuch

variable {cr : ContractResult Int} {texts : CommonService.ResultTexts} {fresh cached : Field JsInteger}

/-- What a transaction shows tells whether its integers have short texts. -/
theorem ShownShort.of_transactionOf {kind other : TransactionKind}
    (same : CommonService.transactionOf (readBack json <$> cr) texts cached other =
      CommonService.transactionOf (json.parse <$> cr) texts fresh kind) : ShownShort cr where
  block_number := nullableNumberTo0x_readBack_iff.mp (congrArg Transaction.blockNumber same)
  gas_used := nanOrNumberTo0x_readBack_iff.mp (congrArg Transaction.gas same)
  nonce := nanOrNumberTo0x_readBack_iff.mp (congrArg Transaction.nonce same)
  transaction_index := nullableNumberTo0x_readBack_iff.mp (congrArg Transaction.transactionIndex same)
  v := nanOrNumberTo0x_readBack_iff.mp (congrArg Transaction.v same)

theorem ShownShort.transactionOf_eq (shown : ShownShort cr) (known : KnownType cr.type)
    (value : nanOrNumberInt64To0x cached = nanOrNumberInt64To0x fresh) :
    CommonService.transactionOf (readBack json <$> cr) texts cached =
      CommonService.transactionOf (json.parse <$> cr) texts fresh := by
  have block_number := map_readBack_of_short json shown.block_number
  have gas_used := map_readBack_of_short json shown.gas_used
  have nonce := map_readBack_of_short json shown.nonce
  have transaction_index := map_readBack_of_short json shown.transaction_index
  have type := map_readBack_of_short json known.short
  have v := map_readBack_of_short json shown.v
  funext kind
  simp only [CommonService.transactionOf, Functor.map, block_number, gas_used, nonce, transaction_index, type, v, value]

/-- The transactions of what is read back and of what is fetched. -/
theorem transactions_readBack_iff (json : JSONBigInt) (cr : ContractResult Int) (texts : CommonService.ResultTexts)
    (value : nanOrNumberInt64To0x cached = nanOrNumberInt64To0x fresh) :
    ((TransactionFactory.createTransactionByType (cr.type.map (readBack json))
        (nanOrNumberTo0x (cr.v.map (readBack json))) cr.max_priority_fee_per_gas cr.max_fee_per_gas).map
          (CommonService.transactionOf (readBack json <$> cr) texts cached) =
      (TransactionFactory.createTransactionByType (cr.type.map json.parse)
        (nanOrNumberTo0x (cr.v.map json.parse)) cr.max_priority_fee_per_gas cr.max_fee_per_gas).map
          (CommonService.transactionOf (json.parse <$> cr) texts fresh)) ↔
      (KnownType cr.type → ShownShort cr) := by
  rw [createTransactionByType_readBack]
  constructor
  · intro same known
    obtain ⟨kind, built⟩ := Option.isSome_iff_exists.mp (createTransactionByType_isSome_iff.mpr known)
    obtain ⟨other, remade⟩ := Option.isSome_iff_exists.mp (createTransactionByType_isSome_iff.mpr known)
    rw [built, remade] at same
    exact .of_transactionOf (Option.some.inj same)
  · intro shown
    by_cases known : KnownType cr.type
    · rw [map_readBack_of_short json (shown known).v, (shown known).transactionOf_eq known value]
    · have unknown (v : String) : TransactionFactory.createTransactionByType (cr.type.map json.parse) v
          cr.max_priority_fee_per_gas cr.max_fee_per_gas = none :=
        Option.not_isSome_iff_eq_none.mp fun built => known (createTransactionByType_isSome_iff.mp built)
      rw [unknown, unknown]
      rfl

theorem formatted_readBack_iff :
    CommonService.formatted (readBack json <$> cr) = CommonService.formatted (json.parse <$> cr) ↔
      (Readable cr → WithinSupply cr.amount → KnownType cr.type → ShownShort cr) := by
  show (CommonService.textsOf cr >>= fun texts => tinybarsToWeibars (cr.amount.map (readBack json)) true >>= _) =
    (CommonService.textsOf cr >>= fun texts => tinybarsToWeibars (cr.amount.map json.parse) true >>= _) ↔ _
  cases read : CommonService.textsOf cr with
  | error error =>
    refine iff_of_true rfl ?_
    intro readable
    obtain ⟨texts, given⟩ := textsOf_ok_iff.mpr readable
    simp [read] at given
  | ok texts =>
    have readable : Readable cr := textsOf_ok_iff.mp ⟨texts, read⟩
    have weibars := weibars_readBack json cr.amount
    cases given : tinybarsToWeibars (cr.amount.map json.parse) true with
    | error error =>
      rw [given] at weibars
      cases again : tinybarsToWeibars (cr.amount.map (readBack json)) true with
      | error other =>
        rw [again] at weibars
        refine iff_of_true (congrArg Except.error (Except.error.inj weibars)) ?_
        intro _ within
        obtain ⟨value, held⟩ := (@tinybarsToWeibars_ok_iff json cr.amount).mpr within
        simp [given] at held
      | ok value => simp [again, Except.map] at weibars
    | ok fresh =>
      rw [given] at weibars
      cases again : tinybarsToWeibars (cr.amount.map (readBack json)) true with
      | error other => simp [again, Except.map] at weibars
      | ok cached =>
        rw [again] at weibars
        have shown := transactions_readBack_iff json cr texts (Except.ok.inj weibars)
        have within : WithinSupply cr.amount := tinybarsToWeibars_ok_iff.mp ⟨fresh, given⟩
        constructor
        · intro same _ _
          exact shown.mp (Except.ok.inj same)
        · intro short
          exact congrArg Except.ok (shown.mpr (short readable within))

private theorem balanceOrZero_readBack_iff {balance : Option (Field Int)} :
    DebugImpl.balanceOrZero (balance.map (Field.map (readBack json))) =
        DebugImpl.balanceOrZero (balance.map (Field.map json.parse)) ↔
      ∀ field, balance = some field → field.Short := by
  match balance with
  | none => simp
  | some .undefined => simp [Field.map, DebugImpl.balanceOrZero]
  | some .null => simp [Field.map, DebugImpl.balanceOrZero]
  | some (.given value) =>
    simp only [Option.map_some, Field.map, DebugImpl.balanceOrZero, readBack_eq_number_iff, Option.some.injEq,
      forall_eq', short_given_iff]
    split_ifs with zero
    · exact iff_of_true rfl (short_given_iff.mp (short_of_number (congrArg Field.given zero)))
    · exact hexText_readBack_iff

/-- The prestate tracer reads the balance of an account from its entity. -/
def ReadsBalance (entity : Entity Int) : Prop :=
  entity.type = .ACCOUNT ∧ ∃ address, entity.evm_address = .given address ∧ address ≠ ""

private theorem prestateBalance_of_reads {entity : Entity Int} (reads : ReadsBalance entity) (change : Int → JsInteger)
    (balances : List (Field JsInteger)) :
    DebugImpl.prestateBalance (change <$> entity) balances =
      some (DebugImpl.balanceOrZero (entity.balance.map (Field.map change))) := by
  obtain ⟨account, address, given, named⟩ := reads
  simp [DebugImpl.prestateBalance, Functor.map, given, account]

private theorem prestateBalance_of_not_reads {entity : Entity Int} (unread : ¬ ReadsBalance entity)
    (change other : Int → JsInteger) (balances : List (Field JsInteger)) :
    DebugImpl.prestateBalance (change <$> entity) balances = DebugImpl.prestateBalance (other <$> entity) balances := by
  obtain ⟨type, balance, address⟩ := entity
  match address, type with
  | .undefined, _ | .null, _ | .given _, .CONTRACT | .given _, .TOKEN => rfl
  | .given address, .ACCOUNT =>
    by_cases empty : address = ""
    · subst empty
      rfl
    · exact absurd ⟨rfl, address, rfl, empty⟩ unread

theorem prestateBalance_readBack_iff {entity : Entity Int} :
    (∀ balances, DebugImpl.prestateBalance (readBack json <$> entity) balances =
        DebugImpl.prestateBalance (json.parse <$> entity) balances) ↔
      (ReadsBalance entity → ∀ balance, entity.balance = some balance → balance.Short) := by
  by_cases reads : ReadsBalance entity
  · simp only [prestateBalance_of_reads reads, Option.some.injEq, balanceOrZero_readBack_iff, reads, forall_const]
  · exact iff_of_true (fun _ => prestateBalance_of_not_reads reads _ _ _) fun held => absurd held reads

section Cache
variable {Record : Type → Type} [Functor Record] [LawfulFunctor Record] {redis : RedisCache Record} {key : String}
  {fetched : Option (Record Int)} {caches : Record JsInteger → Bool}

private theorem get_set_fetched (record : Record Int) :
    RedisCache.get (RedisCache.set redis key (json.parse <$> record)) key = some (readBack json <$> record) := by
  simp only [RedisCache.get, RedisCache.set, Function.update_self, Option.map_some, Functor.map_map]
  rfl

omit [LawfulFunctor Record] in
theorem getOrFetch_first (absent : redis key = none) :
    (RedisCache.getOrFetch redis json key fetched caches).1 = fetched.map (json.parse <$> ·) := by
  cases fetched <;> simp [RedisCache.getOrFetch, RedisCache.get, absent]

/-- The answer when the value is asked for again. -/
theorem getOrFetch_again (absent : redis key = none) :
    (RedisCache.getOrFetch (RedisCache.getOrFetch redis json key fetched caches).2 json key fetched caches).1 =
      fetched.map fun record =>
        if caches (json.parse <$> record) then readBack json <$> record else json.parse <$> record := by
  have missed : redis.get key = none := by simp [RedisCache.get, absent]
  cases fetched with
  | none => simp [RedisCache.getOrFetch, missed]
  | some record =>
    cases cached : caches (json.parse <$> record) with
    | true => simp [RedisCache.getOrFetch, missed, cached, get_set_fetched]
    | false => simp [RedisCache.getOrFetch, missed, cached]

/-- The two answers under one key, compared under a formatter. -/
theorem getOrFetch_iff {Output : Type} (json : JSONBigInt) (key : String) (fetched : Option (Record Int))
    (caches : Record JsInteger → Bool) (format : Option (Record JsInteger) → Output) :
    (∀ redis : RedisCache Record, redis key = none →
      format (RedisCache.getOrFetch (RedisCache.getOrFetch redis json key fetched caches).2 json key fetched caches).1 =
        format (RedisCache.getOrFetch redis json key fetched caches).1) ↔
      ∀ record, fetched = some record → caches (json.parse <$> record) = true →
        format (some (readBack json <$> record)) = format (some (json.parse <$> record)) := by
  constructor
  · intro same record given cached
    have absent : (fun _ => none : RedisCache Record) key = none := rfl
    have compared := same (fun _ => none) absent
    rw [getOrFetch_again absent, getOrFetch_first absent, given] at compared
    simpa only [Option.map_some, cached, if_true] using compared
  · intro same redis absent
    rw [getOrFetch_again absent, getOrFetch_first absent]
    cases given : fetched with
    | none => rfl
    | some record =>
      simp only [Option.map_some]
      split_ifs with cached
      · exact same record given cached
      · rfl

end Cache

/-- What is formatted when an answer is read again, as when it was fetched: the transaction,
the value of the call tracer and the balance of the prestate tracer. -/
structure Transparent (json : JSONBigInt) (contractResults : String → Option (ContractResult Int))
    (entities : String → Option (Entity Int)) :
    Prop where
  transaction : ∀ redis id, redis (MirrorNodeClient.contractResultKey id) = none →
    CommonService.formatContractResult (MirrorNodeClient.getContractResult json contractResults
        (MirrorNodeClient.getContractResult json contractResults redis id).2 id).1 =
      CommonService.formatContractResult (MirrorNodeClient.getContractResult json contractResults redis id).1
  tracedValue : ∀ redis id, redis (MirrorNodeClient.contractResultKey id) = none →
    (MirrorNodeClient.getContractResult json contractResults
        (MirrorNodeClient.getContractResult json contractResults redis id).2 id).1.map DebugImpl.callTracerValue =
      (MirrorNodeClient.getContractResult json contractResults redis id).1.map DebugImpl.callTracerValue
  balance : ∀ redis id balances, redis (MirrorNodeClient.entityKey id) = none →
    (MirrorNodeClient.resolveEntityType json entities
        (MirrorNodeClient.resolveEntityType json entities redis id).2 id).1.map (DebugImpl.prestateBalance · balances) =
      (MirrorNodeClient.resolveEntityType json entities redis id).1.map (DebugImpl.prestateBalance · balances)

/-- The condition on the answers of the mirror node: of a contract result that is cached, the
amount has a short text, and so have the integers of the transaction that is built from it;
the balance of an account has one. -/
structure Harmless (json : JSONBigInt) (contractResults : String → Option (ContractResult Int))
    (entities : String → Option (Entity Int)) : Prop where
  amount : ∀ id cr, contractResults id = some cr → MirrorNodeClient.cachesResult (json.parse <$> cr) = true →
    cr.amount.Short
  shown : ∀ id cr, contractResults id = some cr → MirrorNodeClient.cachesResult (json.parse <$> cr) = true →
    Readable cr → KnownType cr.type → ShownShort cr
  balance : ∀ id entity, entities id = some entity → ReadsBalance entity →
    ∀ balance, entity.balance = some balance → balance.Short

/-- The cache is transparent exactly where the integers that are read from it have short texts. -/
theorem transparent_iff_harmless (json : JSONBigInt) (contractResults : String → Option (ContractResult Int))
    (entities : String → Option (Entity Int)) :
    Transparent json contractResults entities ↔ Harmless json contractResults entities := by
  have transactions (id : String) := getOrFetch_iff json (MirrorNodeClient.contractResultKey id)
    (contractResults id) MirrorNodeClient.cachesResult CommonService.formatContractResult
  have traced (id : String) := getOrFetch_iff json (MirrorNodeClient.contractResultKey id)
    (contractResults id) MirrorNodeClient.cachesResult (Option.map DebugImpl.callTracerValue)
  have balances (id : String) (fetched : List (Field JsInteger)) := getOrFetch_iff json
    (MirrorNodeClient.entityKey id) (entities id) (fun _ => true) (Option.map (DebugImpl.prestateBalance · fetched))
  constructor
  · intro transparent
    have amount : ∀ id cr, contractResults id = some cr →
        MirrorNodeClient.cachesResult (json.parse <$> cr) = true → cr.amount.Short := by
      intro id cr given cached
      have same := (traced id).mp (fun redis absent => transparent.tracedValue redis id absent) cr given cached
      exact callTracerValue_readBack_iff.mp (Option.some.inj same)
    refine { amount, shown := ?_, balance := ?_ }
    · intro id cr given cached readable
      have same := (transactions id).mp (fun redis absent => transparent.transaction redis id absent) cr given cached
      exact formatted_readBack_iff.mp same readable (withinSupply_of_short (amount id cr given cached))
    · intro id entity given
      apply prestateBalance_readBack_iff.mp
      intro fetched
      have same := (balances id fetched).mp (fun redis absent => transparent.balance redis id fetched absent)
      exact Option.some.inj (same entity given rfl)
  · intro harmless
    refine { transaction := ?_, tracedValue := ?_, balance := ?_ }
    · intro redis id
      apply (transactions id).mpr
      intro cr given cached
      exact formatted_readBack_iff.mpr fun readable _ => harmless.shown id cr given cached readable
    · intro redis id
      apply (traced id).mpr
      intro cr given cached
      exact congrArg some (callTracerValue_readBack_iff.mpr (harmless.amount id cr given cached))
    · intro redis id fetched
      apply (balances id fetched).mpr
      intro entity given _
      exact congrArg some (prestateBalance_readBack_iff.mpr (harmless.balance id entity given) fetched)

/-- A transfer of more tinybars than a number holds. -/
def largeTransfer : ContractResult Int where
  amount := .given 9007199254740993
  block_hash := .given "0xb1"
  block_number := .given 17
  chain_id := .given "0x127"
  from_address := .given "0x1001"
  function_parameters := .given "0x"
  gas_price := .given "0x5a"
  gas_used := .given 21000
  hash := .given "0x4a"
  max_fee_per_gas := .null
  max_priority_fee_per_gas := .null
  nonce := .given 1
  r := .given "0x01"
  result := .given "SUCCESS"
  s := .given "0x02"
  to_address := .given "0x1002"
  transaction_index := .given 0
  type := .given 0
  v := .given 1

theorem largeTransfer_reads_differently :
    ¬ ∀ (json : JSONBigInt) (contractResults : String → Option (ContractResult Int))
        (entities : String → Option (Entity Int)), Transparent json contractResults entities := by
  intro claim
  have traced := (claim .byLength (fun _ => some largeTransfer) (fun _ => none)).tracedValue (fun _ => none) "0x4a" rfl
  revert traced
  decide

end HieroRelay.Redis
