import HieroRelay.Debug.DebugImpl

/-! The trace of a block: when it has one entry for each contract result that reached consensus. -/

namespace HieroRelay.Debug

open HieroRelay.Lib
open HieroRelay.Js (Json isString ownField truthy)
open DebugImpl

variable {numberToString : Rat → String} {param tracerObject : Option Json} {debugApiEnabled : Bool}
  {blockNumber : String} {transcript : List (Exchange DebugOp DebugOp.Answer)}
  {contractResults : List MirrorNodeContractResult} {outcome : Except DebugError (List TraceBlockByNumberTxResult)}

/-- The contract results of the block, as they were answered. -/
def blockResults (transcript : List (Exchange DebugOp DebugOp.Answer)) : List MirrorNodeContractResult :=
  (transcript.findSome? fun exchange => match exchange with
    | ⟨.getContractResults _, answer⟩ => some (answer.join.getD [])
    | _ => none).getD []

/-- The call failed, or it has one entry for each result that reached consensus, in order and
with its hash. -/
def Covers (transcript : List (Exchange DebugOp DebugOp.Answer)) :
    Except DebugError (List TraceBlockByNumberTxResult) → Prop
  | .error _ => True
  | .ok entries =>
      entries.map TraceBlockByNumberTxResult.txHash =
        (tracedResults (blockResults transcript)).map MirrorNodeContractResult.hash

/-- The object is left out, or it names a tracer other than the opcode logger. -/
def NamesTracer (tracerObject : Option Json) : Prop :=
  ∀ object, tracerObject = some object →
    ownField object "tracer" ≠ none ∧ ownField object "tracer" ≠ some (.str TracerType.OpcodeLogger.text)

private theorem tracer_of_accepted (accepted : validateTracerObject numberToString param = .ok tracerObject) :
    NamesTracer tracerObject ↔ isString (tracerOf tracerObject) TracerType.CallTracer.text = true ∨
      isString (tracerOf tracerObject) TracerType.PrestateTracer.text = true := by
  rcases accepted_cases accepted with rfl | ⟨fields, rfl, known⟩
  · simp [NamesTracer, tracerOf, isString]
  · have object : tracerOf (some (.obj fields)) = fields.lookup "tracer" := rfl
    have named : NamesTracer (some (.obj fields)) ↔ fields.lookup "tracer" ≠ none ∧
        fields.lookup "tracer" ≠ some (.str TracerType.OpcodeLogger.text) := by
      simp [NamesTracer, ownField]
    rw [object, named]
    cases given : fields.lookup "tracer" with
    | none => simp [isString]
    | some tracer =>
      obtain ⟨type, rfl⟩ := known tracer given
      cases type <;> simp [isString, TracerType.text]

/-- The two tracers that are known here have an entry for each result. -/
theorem map_of_traceResults {entries : List TraceBlockByNumberTxResult}
    (named : isString (tracerOf tracerObject) TracerType.CallTracer.text = true ∨
      isString (tracerOf tracerObject) TracerType.PrestateTracer.text = true)
    (ran : Ran (traceResults tracerObject contractResults).run transcript (.ok entries)) :
    entries.map TraceBlockByNumberTxResult.txHash =
      (tracedResults contractResults).map MirrorNodeContractResult.hash := by
  unfold traceResults at ran
  dsimp only at ran
  split at ran
  · apply map_of_ran_mapM ?_ ran
    intro contractResult _ entry traced
    obtain ⟨_, _, result, -, -, returned⟩ := ran_bind_ok_iff.mp traced
    cases returned
    rfl
  · next notCall =>
      rw [if_pos (named.resolve_left notCall)] at ran
      apply map_of_ran_mapM ?_ ran
      intro contractResult _ entry traced
      obtain ⟨_, _, result, -, -, returned⟩ := ran_bind_ok_iff.mp traced
      cases returned
      rfl

private theorem traceResults_of_not_named
    (unnamed : ¬ (isString (tracerOf tracerObject) TracerType.CallTracer.text = true ∨
      isString (tracerOf tracerObject) TracerType.PrestateTracer.text = true)) :
    traceResults tracerObject contractResults = pure [] := by
  rw [not_or] at unnamed
  unfold traceResults
  dsimp only
  rw [if_neg unnamed.1, if_neg unnamed.2]

/-- A call ends before it has results, or with what the tracing of them gives. -/
theorem ran_traceBlockByNumber
    (ran : Ran (traceBlockByNumber debugApiEnabled blockNumber tracerObject).run transcript outcome) :
    blockResults transcript = [] ∧ (outcome = .ok [] ∨ ∃ error, outcome = .error error) ∨
      ∃ rest given, Ran (traceResults tracerObject (blockResults transcript)).run rest given ∧
        outcome = given.mapError genericErrorHandler := by
  obtain ⟨given, traced, rfl⟩ := ran_adapt_iff.mp ran
  cases debugApiEnabled with
  | false =>
    cases traced
    exact .inl ⟨rfl, .inr ⟨_, rfl⟩⟩
  | true =>
    change Ran (ExceptT.run (await (.getHistoricalBlockResponse blockNumber) >>= _)) transcript given at traced
    obtain ⟨_, _, blockResponse, rfl, asked, found⟩ := ran_lift_bind_iff.mp traced
    obtain ⟨answer, _, rfl, returned⟩ := ran_call_iff.mp asked
    cases returned
    rcases blockResponse with _ | _ | block
    · cases found
      exact .inl ⟨rfl, .inr ⟨_, rfl⟩⟩
    · cases found
      exact .inl ⟨rfl, .inr ⟨_, rfl⟩⟩
    · change Ran (ExceptT.run (await (.getContractResults _) >>= _)) _ given at found
      obtain ⟨_, _, response, rfl, asked, listed⟩ := ran_lift_bind_iff.mp found
      obtain ⟨answer, _, rfl, returned⟩ := ran_call_iff.mp asked
      cases returned
      rcases response with _ | _ | _ | ⟨first, others⟩
      · cases listed
        exact .inl ⟨rfl, .inr ⟨_, rfl⟩⟩
      · cases listed
        exact .inl ⟨rfl, .inl rfl⟩
      · cases listed
        exact .inl ⟨rfl, .inl rfl⟩
      · exact .inr ⟨_, given, listed, rfl⟩

private theorem tracedResults_eq_nil_iff :
    tracedResults contractResults = [] ↔ ∀ contractResult ∈ contractResults, contractResult.result = WRONG_NONCE := by
  simp [tracedResults]

/-- A block is covered exactly if the object is left out or names one of the two tracers, or if
nothing in the block reached consensus. -/
theorem covers_iff (accepted : validateTracerObject numberToString param = .ok tracerObject)
    (ran : Ran (traceBlockByNumber debugApiEnabled blockNumber tracerObject).run transcript outcome) :
    Covers transcript outcome ↔ NamesTracer tracerObject ∨
      ∀ contractResult ∈ blockResults transcript, contractResult.result = WRONG_NONCE := by
  rw [tracer_of_accepted accepted]
  rcases ran_traceBlockByNumber ran with ⟨none, ended⟩ | ⟨rest, given, traced, rfl⟩
  · have covers : Covers transcript outcome := by
      rcases ended with rfl | ⟨error, rfl⟩
      · rw [Covers, none]
        rfl
      · trivial
    simp [covers, none]
  · by_cases named : isString (tracerOf tracerObject) TracerType.CallTracer.text = true ∨
      isString (tracerOf tracerObject) TracerType.PrestateTracer.text = true
    · have covers : Covers transcript (given.mapError genericErrorHandler) := by
        cases given with
        | error error => trivial
        | ok entries => exact map_of_traceResults named traced
      exact iff_of_true covers (.inl named)
    · rw [traceResults_of_not_named named] at traced
      obtain ⟨-, rfl⟩ := ran_done_iff.mp traced
      rw [or_iff_right named, ← tracedResults_eq_nil_iff]
      constructor
      · intro covers
        exact List.map_eq_nil_iff.mp (Eq.symm covers)
      · intro nothing
        change [] = (tracedResults (blockResults transcript)).map MirrorNodeContractResult.hash
        rw [nothing]
        rfl

def exampleBlock : MirrorNodeBlock where
  timestampFrom := "1.0"
  timestampTo := "2.0"

/-- A block with a transaction that succeeded, and one that did not reach consensus. -/
def exampleExchanges : List (Exchange DebugOp DebugOp.Answer) :=
  [⟨.getHistoricalBlockResponse "0x10", some (some exampleBlock)⟩,
    ⟨.getContractResults [s!"gte:{exampleBlock.timestampFrom}", s!"lte:{exampleBlock.timestampTo}"],
      some (some [{ hash := "0x1f", result := "SUCCESS" }, { hash := "0x2f", result := "WRONG_NONCE" }])⟩]

def prestateObject : Json := .obj [("tracer", .str "prestateTracer")]

def onlyTopCallObject : Json := .obj [("tracerConfig", .obj [("onlyTopCall", .bool true)])]

def prestateExchanges : List (Exchange DebugOp DebugOp.Answer) :=
  exampleExchanges ++ [⟨.getCachedPrestate (prestateKey "0x1f" false), some .empty⟩]

/-- The prestate of the one transaction is cached. -/
theorem covers_prestates :
    Covers prestateExchanges (.ok [{ txHash := "0x1f", result := .prestate .empty }]) ↔
      NamesTracer (some prestateObject) ∨
        ∀ contractResult ∈ blockResults prestateExchanges, contractResult.result = WRONG_NONCE := by
  have accepted : validateTracerObject (fun _ => "") (some prestateObject) = .ok (some prestateObject) := rfl
  have ran : Ran (traceBlockByNumber true "0x10" (some prestateObject)).run prestateExchanges
      (.ok [{ txHash := "0x1f", result := .prestate .empty }]) := .call (.call (.call .done))
  exact covers_iff accepted ran

/-- A configuration without a tracer is accepted, and a block that is not empty has no entries. -/
theorem block_not_covered : ¬ ∀ (numberToString : Rat → String) (param tracerObject : Option Json)
    (debugApiEnabled : Bool) (blockNumber : String) (transcript : List (Exchange DebugOp DebugOp.Answer))
    (outcome : Except DebugError (List TraceBlockByNumberTxResult)),
    validateTracerObject numberToString param = .ok tracerObject →
      Ran (traceBlockByNumber debugApiEnabled blockNumber tracerObject).run transcript outcome →
        Covers transcript outcome := by
  intro always
  have covers := always (fun _ => "") (some onlyTopCallObject) (some onlyTopCallObject) true "0x10" exampleExchanges
    (.ok []) rfl (.call (.call .done))
  cases covers

end HieroRelay.Debug
