import HieroRelay.Server.KoaJsonRpc

/-! The shape of the reply to a batch: one response for each item, in order, under
the identifier of its item. Which items spoil it, and with it every other response. -/

namespace HieroRelay.Server.KoaJsonRpc

open HieroRelay.Js HieroRelay.Relay

variable (app : KoaJsonRpc)

/-- The identifier of the item, or `null` or the default one when it has none that
a response can carry. -/
def CarriesIdOf (item : Json) (carried : ResponseId) : Prop :=
  match ResponseId.ofJson (ownField item "id") with
  | some id => carried = id
  | none => carried = .null ∨ (app.requestIdIsOptional = true ∧ carried = .str "0")

/-- The server answers with an array; its element at each position is the response
to the item there, made from this item and its own services alone. -/
def BatchShape (services : Nat → Services) (items : List Json) : Prop :=
  ∃ responses, app.handleMultipleRequest services items = .ok { status := 200, body := .inr responses } ∧
    responses.length = items.length ∧
    ∀ (index : Nat) (item : Json) (response : IJsonRpcResponse),
      items[index]? = some item → responses[index]? = some response →
      app.batchItem (services index) item = .ok response ∧ app.CarriesIdOf item response.id

/-- Items of which the batch handler makes the response it should: not `null`;
with an identifier a response can carry when the method is not permitted in batches;
otherwise with a method the metrics accept and an identifier that the path of the
item (well-formed, malformed, malformed and not printable) lets through. -/
def Answerable (item : Json) : Prop :=
  item ≠ .null ∧
    match includesString app.batchRequestsDisallowedMethods (ownField item "method") with
    | some _ => (ResponseId.ofJson (ownField item "id")).isSome = true
    | none =>
        app.labelError (ownField item "method") = none ∧
          if wellFormed app.requestIdIsOptional item then (responseId item).isSome = true
          else
            match app.invalidRequestWarning item with
            | .ok _ => survivesOrNull (ownField item "id") = true
            | .error _ => (ResponseId.ofJson (ownField item "id")).isSome = true

theorem carriesIdOf_of_ofJson {item : Json} {carried : ResponseId}
    (own : ResponseId.ofJson (ownField item "id") = some carried) : app.CarriesIdOf item carried := by
  simp [CarriesIdOf, own]

private theorem carriesIdOf_of_responseId {item : Json} {carried : ResponseId}
    (valid : wellFormed app.requestIdIsOptional item = true) (expected : responseId item = some carried) :
    app.CarriesIdOf item carried := by
  unfold responseId at expected
  split at expected
  · exact app.carriesIdOf_of_ofJson expected
  · rename_i missing
    have absent : ownField item "id" = none := by simpa using missing
    have optional : app.requestIdIsOptional = true := by
      simp only [wellFormed, absent, Bool.and_eq_true, Bool.or_eq_true] at valid
      simpa using valid.2
    have default : carried = .str "0" := (Option.some.inj expected).symm
    simp [CarriesIdOf, absent, optional, default]

/-- The answer to a malformed item keeps its identifier exactly when `||` does. -/
theorem malformed_answer_iff {item : Json} (present : item ≠ .null) :
    (∃ response, orFailed item
        (jsonResp (orElse (ownField item "id") (some .null)) (some invalidRequest) none) = .ok response ∧
      app.CarriesIdOf item response.id) ↔ survivesOrNull (ownField item "id") = true := by
  cases survives : survivesOrNull (ownField item "id") with
  | true =>
    have carried : app.CarriesIdOf item ((ResponseId.ofJson (ownField item "id")).getD .null) := by
      cases own : ResponseId.ofJson (ownField item "id") <;> simp [CarriesIdOf, own]
    simp [jsonResp_orNull survives, orFailed, carried]
  | false =>
    rcases jsonResp_orNull_lost survives invalidRequest with
      ⟨refused, fault, thrown⟩ | ⟨⟨carried, own, notNull⟩, answered⟩
    · obtain ⟨again, thrownAgain⟩ := jsonResp_refused refused (some internalError) none
      simp [thrown, orFailed, failed_eq present, thrownAgain]
    · simp [answered, orFailed, CarriesIdOf, own, notNull.symm]

/-- A settled answer under an identifier is one for the item exactly when there is
an identifier to carry. -/
theorem answer_iff_of_carries {id : Option ResponseId} {settled : Except JsError IJsonRpcResponse}
    {item : Json} (carries : Carries id settled)
    (expected : ∀ carried, id = some carried → app.CarriesIdOf item carried) :
    (∃ response, settled = .ok response ∧ app.CarriesIdOf item response.id) ↔ id.isSome = true := by
  cases id with
  | none =>
    obtain ⟨fault, settled⟩ := carries
    simp [settled]
  | some carried =>
    obtain ⟨outcome, settled⟩ := carries
    simp [settled, expected carried rfl]

/-- What becomes of one item. -/
theorem batchItem_answer_iff (services : Services) (item : Json) :
    (∃ response, app.batchItem services item = .ok response ∧ app.CarriesIdOf item response.id) ↔
      app.Answerable item := by
  by_cases present : item = .null
  · subst present
    simp [batchItem, Answerable, getProperty]
  · have own : ∀ carried, ResponseId.ofJson (ownField item "id") = some carried →
        app.CarriesIdOf item carried := fun carried => app.carriesIdOf_of_ofJson
    cases permitted : includesString app.batchRequestsDisallowedMethods (ownField item "method") with
    | some method =>
      have refused := app.answer_iff_of_carries (carries_jsonResp_error (ownField item "id")
        (predefined.BATCH_REQUESTS_METHOD_NOT_PERMITTED method)) own
      simpa [batchItem, Answerable, getProperty_ok present, permitted, present] using refused
    | none =>
      cases counted : app.labelError (ownField item "method") with
      | some err =>
        cases served : app.getRequestResult services item <;>
          simp [batchItem, Answerable, getProperty_ok present, permitted, counted, served]
      | none =>
        have settled : app.batchItem services item = app.getRequestResult services item := by
          cases served : app.getRequestResult services item <;>
            simp [batchItem, getProperty_ok present, permitted, counted, served]
        rw [settled]
        cases valid : wellFormed app.requestIdIsOptional item with
        | true =>
          have answered := app.answer_iff_of_carries (app.getRequestResult_carries present valid services)
            fun carried => app.carriesIdOf_of_responseId valid
          simpa [Answerable, present, permitted, counted, valid] using answered
        | false =>
          cases printed : app.invalidRequestWarning item with
          | ok warning =>
            rw [app.getRequestResult_malformed present valid printed, app.malformed_answer_iff present]
            simp [Answerable, present, permitted, counted, valid, printed]
          | error err =>
            have answered := app.answer_iff_of_carries (failed_carries present err) own
            rw [app.getRequestResult_unprintable present valid printed, answered]
            simp [Answerable, present, permitted, counted, valid, printed]

/-- In a batch within the size limit, with batches enabled, the joined answers are
the reply. -/
theorem handleMultipleRequest_enabled {items : List Json} (enabled : app.batchRequestsEnabled = true)
    (within : items.length ≤ app.batchRequestsMaxSize) (services : Nat → Services)
    (responses : List IJsonRpcResponse) :
    app.handleMultipleRequest services items = .ok { status := 200, body := .inr responses } ↔
      promiseAll (items.mapIdx fun index item => app.batchItem (services index) item) = .ok responses := by
  have fits : ¬ app.batchRequestsMaxSize < items.length := by omega
  cases joined : promiseAll (items.mapIdx fun index item => app.batchItem (services index) item) <;>
    simp [handleMultipleRequest, enabled, fits, joined]

private theorem handleMultipleRequest_disabled {items : List Json} (disabled : app.batchRequestsEnabled = false)
    (services : Nat → Services) (responses : List IJsonRpcResponse) :
    app.handleMultipleRequest services items ≠ .ok { status := 200, body := .inr responses } := by
  simp [handleMultipleRequest, disabled, rejected, jsonResp]

/-- A batch within the size limit is answered item by item exactly when batches are
enabled and every one of its items is answerable. -/
theorem batchShape_iff (services : Nat → Services) (items : List Json)
    (within : items.length ≤ app.batchRequestsMaxSize) :
    app.BatchShape services items ↔
      app.batchRequestsEnabled = true ∧ ∀ item ∈ items, app.Answerable item := by
  cases enabled : app.batchRequestsEnabled with
  | false =>
    have refused : ¬ app.BatchShape services items := by
      rintro ⟨responses, replied, -⟩
      exact app.handleMultipleRequest_disabled enabled services responses replied
    simp [refused]
  | true =>
    have joined := @promiseAll_mapIdx_iff _ _ _ (fun index item => app.batchItem (services index) item)
      (fun _ item response => app.CarriesIdOf item response.id) items
    simp only [BatchShape, app.handleMultipleRequest_enabled enabled within, joined,
      app.batchItem_answer_iff, true_and]
    constructor
    · intro answerable item member
      obtain ⟨index, here⟩ := List.mem_iff_getElem?.mp member
      exact answerable index item here
    · intro answerable index item here
      exact answerable item (List.mem_of_getElem? here)

/-- A request for the chain identifier. -/
def chainIdRequest (id : Json) : Json :=
  .obj [("jsonrpc", .str "2.0"), ("id", id), ("method", .str "eth_chainId")]

/-- Services that admit every request and answer with the mainnet chain identifier. -/
def chainIdServices : Services where
  shouldRateLimit := fun _ _ => .ok false
  executeRpcMethod := fun _ _ => .ok (.value (some (.str "0x127")))

/-- An answerable batch under the default configuration. -/
theorem batchShape_two_items :
    byDefault.BatchShape (fun _ => chainIdServices) [chainIdRequest (.num 1), .str "no object"] := by
  refine (batchShape_iff byDefault (fun _ => chainIdServices) _ (by decide)).mpr ⟨rfl, ?_⟩
  intro item member
  simp only [List.mem_cons, List.not_mem_nil, or_false] at member
  rcases member with rfl | rfl
  · exact ⟨by simp [chainIdRequest], rfl, rfl⟩
  · exact ⟨by simp, rfl, rfl⟩

/-- A `null` item suppresses the response to the valid request next to it. -/
theorem batchShape_null_item_fails :
    ¬ byDefault.BatchShape (fun _ => chainIdServices) [.null, chainIdRequest (.num 1)] := by
  rintro ⟨responses, replied, -⟩
  have thrown : byDefault.handleMultipleRequest (fun _ => chainIdServices) [.null, chainIdRequest (.num 1)] =
      .error (.typeError "Cannot read properties of null (reading 'method')") := rfl
  rw [thrown] at replied
  cases replied

end HieroRelay.Server.KoaJsonRpc
