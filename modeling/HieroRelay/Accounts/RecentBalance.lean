import HieroRelay.Accounts.BalanceService
import HieroRelay.Lib.Answers
import Mathlib.Algebra.Order.Ring.Int

/-! The balance as of a recent block, against the current balance without what the account
received and sent after that block. -/

namespace HieroRelay.Accounts.Balances

open HieroRelay.Lib HieroRelay.Mirror
open HieroRelay.Blocks (TINYBAR_TO_WEIBAR_COEF)
open HieroRelay.Js (MAX_SAFE_INTEGER)
open HieroRelay.Redis (JsInteger isSafeInteger toDouble toDouble_of_safe)

section Texts

theorem digitChar_lt_iff (digit other : Nat) (first : digit < 10) (second : other < 10) :
    Nat.digitChar digit < Nat.digitChar other ↔ digit < other := by
  have all : ∀ digit : Fin 10, ∀ other : Fin 10,
      Nat.digitChar digit.val < Nat.digitChar other.val ↔ digit.val < other.val := by decide
  exact all ⟨digit, first⟩ ⟨other, second⟩

variable {first second : Timestamp}

/-- Timestamps with ten digits for the seconds are ordered as their texts. -/
theorem textGe_text : textGe first.text second.text = decide (second.nanos ≤ first.nanos) := by
  have seconds : ∀ timestamp : Timestamp, timestamp.seconds < 10 ^ 10 := by
    intro timestamp
    have bound := timestamp.tenDigits.2
    exact Nat.div_lt_of_lt_mul (by simp only [nanosPerSecond]; omega)
  have rests : ∀ timestamp : Timestamp, timestamp.nanos % nanosPerSecond < 10 ^ 9 := fun timestamp =>
    Nat.mod_lt _ (by decide)
  have starts : fixedDigits Nat.digitChar 10 10 first.seconds = fixedDigits Nat.digitChar 10 10 second.seconds ↔
      first.seconds = second.seconds :=
    fixedDigits_eq_iff digitChar_lt_iff (seconds first) (seconds second)
  have lengths : (fixedDigits Nat.digitChar 10 10 first.seconds).length =
      (fixedDigits Nat.digitChar 10 10 second.seconds).length := by
    rw [length_fixedDigits, length_fixedDigits]
  have order : first.text.toList < second.text.toList ↔ first.nanos < second.nanos :=
    calc first.text.toList < second.text.toList
        ↔ first.seconds < second.seconds ∨ first.seconds = second.seconds ∧
            first.nanos % nanosPerSecond < second.nanos % nanosPerSecond := by
          rw [Timestamp.text, Timestamp.text, String.toList_ofList, String.toList_ofList, append_lt_append_iff lengths,
            List.cons_lt_cons_iff, fixedDigits_lt_iff digitChar_lt_iff (seconds first) (seconds second), starts,
            fixedDigits_lt_iff digitChar_lt_iff (rests first) (rests second)]
          simp
      _ ↔ first.nanos < second.nanos := lt_iff_div_mod.symm
  rw [textGe, decide_eq_decide.mpr order, ← decide_not, decide_eq_decide]
  exact Nat.not_lt

end Texts

/-- The transfers of an account in a transaction, without approvals. -/
def ownAmounts (account : String) (transaction : Transaction) : List JsInteger :=
  (transaction.transfers.filter fun transfer => transfer.account = account ∧ !transfer.isApproval).map Transfer.amount

/-- What the account received and sent after a timestamp. -/
def changesAfter (account : String) (transactions : List Transaction) (timestamp : Timestamp) : List JsInteger :=
  (transactions.filter fun transaction => timestamp.nanos < transaction.consensusTimestamp.nanos).flatMap
    (ownAmounts account)

/-- What the mirror node has of an account: the first page comes with the account, and a next
link has the timestamp of the last transaction before it. -/
structure AccountView where
  address : String
  response : MirrorAccount
  older : List (List Transaction)
  mirror : String → Option (Page Transaction)
  newestFirst : (response.transactions ++ older.flatten).Pairwise fun later earlier =>
    earlier.consensusTimestamp.nanos < later.consensusTimestamp.nanos
  unlinked : AccountService.nextPage response = none → older = []
  linked : ∀ link, AccountService.nextPage response = some link →
    ∃ last, response.transactions.getLast? = some last ∧
      (linkTimestamp link).bind (splitSecond ':') = some last.consensusTimestamp.text ∧
      Chain mirror (MirrorNodeClient.accountPath link) older

/-- The block is meant by its number or by its hash. -/
def MirrorBlock.MeantBy (block : MirrorBlock) (param : BlockParam) : Prop :=
  param = .number (Filters.numberTo0x block.number) ∨ param = .hash block.hash

theorem MirrorBlock.MeantBy.not_latest {block : MirrorBlock} {param : BlockParam} (meant : block.MeantBy param) :
    param.blockTagIsLatestOrPending = false := by
  obtain rfl | rfl := meant <;> rfl

namespace AccountView

variable (view : AccountView) (timestamp : Timestamp)

def transactions : List Transaction := view.response.transactions ++ view.older.flatten

def changes : List JsInteger := changesAfter view.response.account view.transactions timestamp

/-- The balance as of a timestamp, in weibars. -/
def balanceAt : Int :=
  ((AccountService.currentBalance view.response).toBigInt - ((view.changes timestamp).map JsInteger.toBigInt).sum) *
    TINYBAR_TO_WEIBAR_COEF

/-- The first page does not reach back before the timestamp, and there are more pages. -/
def goesOn : Bool :=
  (AccountService.nextPage view.response).isSome &&
    view.response.transactions.getLast?.any fun last => timestamp.nanos ≤ last.consensusTimestamp.nanos

/-- What is expected for a block, before it becomes a text. -/
def expected : Except BalanceError Int :=
  if view.goesOn timestamp ∧ MAX_MIRROR_NODE_PAGINATION < view.older.length then
    .error (.rpc (PAGINATION_MAX MAX_MIRROR_NODE_PAGINATION))
  else .ok (view.balanceAt timestamp)

/-- No amount needs more than a number, and nothing happened just at the timestamp. -/
structure Plain : Prop where
  boundary : ∀ transaction ∈ view.transactions, transaction.consensusTimestamp = timestamp →
    ownAmounts view.response.account transaction = []
  numbers : ∀ amount ∈ view.changes timestamp, amount = .number amount.toBigInt
  safe : (AccountService.currentBalance view.response).toBigInt.natAbs +
    ((view.changes timestamp).map fun amount => amount.toBigInt.natAbs).sum ≤ MAX_SAFE_INTEGER

/-- The pages can be gathered, unless they end just at the limit. -/
def Apart : Prop := view.goesOn timestamp = true → view.older.length ≠ MAX_MIRROR_NODE_PAGINATION

/-- The answers about the account and the block, where the head may move on between them but
stays within 15 minutes from the block and more than one behind it. -/
def Tells (block : MirrorBlock) : (op : BalanceOp) → op.Answer → Prop
  | .getBlockNumberCached, cached => ∀ number, cached = some number →
      block.number + AccountService.latestBlockTolerance < number.value
  | .getLatestBlock, latest => ∃ head others, latest = .ok (some (head :: others)) ∧
      block.number + AccountService.latestBlockTolerance < head.number ∧
      head.timestampTo.seconds ≤ block.timestampFrom.seconds + AccountService.BALANCES_UPDATE_INTERVAL
  | .getBlock number, found => number = block.number → found = .ok (some block)
  | .getBlockByHash hash, found => hash = block.hash → found = .ok (some block)
  | .getAccountPageLimit account, found => account = view.address → found = .ok (some view.response)
  | .getAccountPage url, found => found = .ok (view.mirror url)
  | .setBlockNumberCached _, _ | .getBalanceAtTimestamp _ _, _ => True

end AccountView

section Sums
variable {account : String} {timestamp : Timestamp} {transactions : List Transaction} {amounts : List JsInteger}

private theorem changesAfter_append (first second : List Transaction) :
    changesAfter account (first ++ second) timestamp =
      changesAfter account first timestamp ++ changesAfter account second timestamp := by
  rw [changesAfter, List.filter_append, List.flatMap_append]
  rfl

private theorem changesAfter_of_before
    (before : ∀ transaction ∈ transactions, transaction.consensusTimestamp.nanos ≤ timestamp.nanos) :
    changesAfter account transactions timestamp = [] := by
  have none : (transactions.filter fun transaction => timestamp.nanos < transaction.consensusTimestamp.nanos) = [] := by
    rw [List.filter_eq_nil_iff]
    intro transaction member after
    exact Nat.not_lt.mpr (before transaction member) (of_decide_eq_true after)
  rw [changesAfter, none, List.flatMap_nil]

theorem Timestamp.eq_of_nanos {first second : Timestamp} (same : first.nanos = second.nanos) : first = second := by
  cases first
  cases second
  cases same
  rfl

/-- Where nothing happened just at the timestamp, it does not matter that it is included. -/
theorem balanceChanges_eq (boundary : ∀ transaction ∈ transactions, transaction.consensusTimestamp = timestamp →
      ownAmounts account transaction = []) :
    AccountService.balanceChanges account transactions timestamp = changesAfter account transactions timestamp := by
  rw [AccountService.balanceChanges, List.map_flatMap, changesAfter]
  induction transactions with
  | nil => rw [List.filter_nil, List.filter_nil, List.flatMap_nil, List.flatMap_nil]
  | cons transaction rest ih =>
    have others := ih fun other member => boundary other (List.mem_cons_of_mem _ member)
    simp only [List.filter_cons, textGe_text, decide_eq_true_eq] at others ⊢
    rcases Nat.lt_trichotomy timestamp.nanos transaction.consensusTimestamp.nanos with after | same | before
    · rw [if_pos after.le, if_pos after, List.flatMap_cons, List.flatMap_cons, others]
      rfl
    · have silent := boundary transaction List.mem_cons_self (Timestamp.eq_of_nanos same.symm)
      rw [ownAmounts] at silent
      rw [if_pos same.le, if_neg same.not_lt, List.flatMap_cons, others, silent, List.nil_append]
    · rw [if_neg before.not_ge, if_neg before.not_gt, others]

/-- Small numbers are added without rounding. -/
theorem foldl_add (numbers : ∀ amount ∈ amounts, amount = .number amount.toBigInt) (total : Int)
    (safe : total.natAbs + (amounts.map fun amount => amount.toBigInt.natAbs).sum ≤ MAX_SAFE_INTEGER) :
    amounts.foldl Total.add (.number total) = .number (total + (amounts.map JsInteger.toBigInt).sum) := by
  induction amounts generalizing total with
  | nil => simp
  | cons amount rest ih =>
    have few : total.natAbs + amount.toBigInt.natAbs + (rest.map fun amount => amount.toBigInt.natAbs).sum ≤
        MAX_SAFE_INTEGER := by
      rwa [List.map_cons, List.sum_cons, ← Nat.add_assoc] at safe
    have added : Total.add (.number total) amount = .number (total + amount.toBigInt) := by
      rw [numbers amount List.mem_cons_self, Total.add, toDouble_of_safe (decide_eq_true (by omega))]
      rfl
    rw [List.foldl_cons, added, ih (fun other member => numbers other (List.mem_cons_of_mem _ member)) _ (by omega),
      List.map_cons, List.sum_cons, Int.add_assoc]

private theorem toNumber_of_safe {value : JsInteger} (safe : isSafeInteger value.toBigInt = true) :
    value.toNumber = value.toBigInt := by
  cases value with
  | number value => rfl
  | bigNumber value => exact toDouble_of_safe safe
  | decimal value => exact toDouble_of_safe safe

private theorem natAbs_sum_le (amounts : List JsInteger) : ((amounts.map JsInteger.toBigInt).sum).natAbs ≤
    (amounts.map fun amount => amount.toBigInt.natAbs).sum := by
  induction amounts with
  | nil => rfl
  | cons amount rest ih =>
    rw [List.map_cons, List.sum_cons, List.map_cons, List.sum_cons]
    omega

end Sums

/-- The rule for a query, whose answer comes first. -/
theorem gives_await {Result : Type} {told : (op : BalanceOp) → op.Answer → Prop} {op : BalanceOp}
    {next : op.Answer → Throwing Result} {post : Except BalanceError Result → Prop}
    (follows : ∀ answer, told op answer → (next answer).run.Gives told post) :
    (await op >>= next).run.Gives told post := follows

namespace AccountView

variable {view : AccountView} {block : MirrorBlock} {param : BlockParam} {maxBlockRange : Nat}

/-- The transactions that are asked for. -/
def gathered (view : AccountView) (timestamp : Timestamp) : List Transaction :=
  if view.goesOn timestamp then view.transactions else view.response.transactions

private theorem mem_of_gathered (view : AccountView) {timestamp : Timestamp} :
    ∀ transaction ∈ view.gathered timestamp, transaction ∈ view.transactions := by
  intro transaction member
  rw [gathered] at member
  split_ifs at member with goes
  · exact member
  · exact List.mem_append_left _ member

/-- The pages that are not asked for are from before the block. -/
theorem changes_of_stays {timestamp : Timestamp} (stays : view.goesOn timestamp = false) :
    changesAfter view.response.account view.response.transactions timestamp = view.changes timestamp := by
  rw [changes, transactions, changesAfter_append]
  suffices none : changesAfter view.response.account view.older.flatten timestamp = [] by rw [none, List.append_nil]
  cases next : AccountService.nextPage view.response with
  | none =>
    rw [view.unlinked next]
    rfl
  | some link =>
    obtain ⟨last, ends, -, -⟩ := view.linked link next
    have before : last.consensusTimestamp.nanos < timestamp.nanos := by
      simpa [goesOn, next, ends] using stays
    apply changesAfter_of_before
    intro transaction member
    have older := (List.pairwise_append.mp view.newestFirst).2.2 last (List.mem_of_getLast? ends) transaction member
    omega

private theorem changes_gathered (view : AccountView) {timestamp : Timestamp} :
    changesAfter view.response.account (view.gathered timestamp) timestamp = view.changes timestamp := by
  rw [gathered]
  split_ifs with goes
  · rfl
  · exact changes_of_stays (Bool.eq_false_iff.mpr goes)

private theorem gives_getAccountPaginated {link : String}
    (chain : Chain view.mirror (MirrorNodeClient.accountPath link) view.older)
    (apart : view.older.length ≠ MAX_MIRROR_NODE_PAGINATION) :
    (MirrorNodeClient.getAccountPaginated link).run.Gives (view.Tells block)
      (· = if MAX_MIRROR_NODE_PAGINATION < view.older.length then
          .error (.rpc (PAGINATION_MAX MAX_MIRROR_NODE_PAGINATION))
        else .ok view.older.flatten) := by
  have served : ∀ url, (MirrorNodeClient.getAccountPage url).run.Gives (view.Tells block) (· = .ok (view.mirror url)) :=
    fun url answer known => known
  have walked := Mirror.MirrorNodeClient.gives_chain served chain [] (by decide : 1 ≤ MAX_MIRROR_NODE_PAGINATION)
  apply Prog.Gives.adapt
  apply walked.imp
  rintro _ rfl
  by_cases longer : MAX_MIRROR_NODE_PAGINATION < view.older.length
  · rw [if_neg (by omega), if_pos longer]
    rfl
  · rw [if_pos (by omega), if_neg longer]
    rfl

/-- The transactions that are gathered are enough, or there are too many pages. -/
theorem gives_allTransactions (apart : view.Apart block.timestampTo) :
    (AccountService.allTransactions view.response block).run.Gives (view.Tells block)
      (· = if view.goesOn block.timestampTo ∧ MAX_MIRROR_NODE_PAGINATION < view.older.length then
          .error (.rpc (PAGINATION_MAX MAX_MIRROR_NODE_PAGINATION))
        else .ok (view.gathered block.timestampTo)) := by
  rw [AccountService.allTransactions]
  cases next : AccountService.nextPage view.response with
  | none =>
    have stays : view.goesOn block.timestampTo = false := by simp [goesOn, next]
    simp [stays, gathered]
  | some link =>
    obtain ⟨last, ends, marked, chain⟩ := view.linked link next
    have compared : view.goesOn block.timestampTo = textGe last.consensusTimestamp.text block.timestampTo.text := by
      simp [goesOn, next, ends, textGe_text]
    simp only [AccountService.getPagedTransactions, marked, Option.any_some, ← compared]
    cases goes : view.goesOn block.timestampTo with
    | false => simp [goes, gathered]
    | true =>
      simp only [if_true, true_and]
      rw [ExceptT.run_bind, Prog.gives_bind]
      apply (gives_getAccountPaginated chain (apart goes)).imp
      rintro _ rfl
      by_cases longer : MAX_MIRROR_NODE_PAGINATION < view.older.length
      · simp only [longer, if_true]
        rfl
      · simp only [longer, if_false, gathered, goes, if_true]
        rfl

/-- What is computed from transactions with the same changes is the balance. -/
theorem balance_of_changes {timestamp : Timestamp} (plain : view.Plain timestamp) {transactions : List Transaction}
    (part : ∀ transaction ∈ transactions, transaction ∈ view.transactions)
    (same : changesAfter view.response.account transactions timestamp = view.changes timestamp) :
    ∃ tinybars, (JsNumber.minus (AccountService.currentBalance view.response).toNumber
        (AccountService.getBalanceAtBlockTimestamp view.response.account transactions timestamp).toNumber).toBigInt =
      .ok tinybars ∧ weibarsOf tinybars = view.balanceAt timestamp := by
  have safe := plain.safe
  have small := natAbs_sum_le (view.changes timestamp)
  have changed := balanceChanges_eq fun transaction member => plain.boundary transaction (part transaction member)
  have summed := foldl_add plain.numbers 0 (by rw [Int.natAbs_zero]; omega)
  rw [AccountService.getBalanceAtBlockTimestamp, changed, same, summed, toNumber_of_safe (decide_eq_true (by omega)),
    Total.toNumber, JsNumber.minus, toDouble_of_safe (decide_eq_true (by omega)), Int.zero_add]
  exact ⟨_, rfl, rfl⟩

private theorem gives_getRecentBalance (plain : view.Plain block.timestampTo) (apart : view.Apart block.timestampTo) :
    (AccountService.getRecentBalance view.address block).run.Gives (view.Tells block)
      (· = (view.expected block.timestampTo).map some) := by
  rw [AccountService.getRecentBalance]
  apply gives_await
  intro answer known
  obtain rfl := known rfl
  rw [answered, pure_bind]
  dsimp only
  rw [ExceptT.run_bind, Prog.gives_bind]
  apply (gives_allTransactions apart).imp
  rintro _ rfl
  rw [expected]
  by_cases refused : view.goesOn block.timestampTo ∧ MAX_MIRROR_NODE_PAGINATION < view.older.length
  · rw [if_pos refused, if_pos refused]
    rfl
  · rw [if_neg refused, if_neg refused]
    obtain ⟨tinybars, computed, whole⟩ := balance_of_changes plain view.mem_of_gathered view.changes_gathered
    dsimp only
    rw [computed, ← whole]
    rfl

/-- What the head is known to be: more than one behind it is the block, and within 15 minutes. -/
structure Heads (block : MirrorBlock) (latest : LatestBlockNumberTimestamp) : Prop where
  behind : block.number + AccountService.latestBlockTolerance < latest.blockNumber.value
  recent : ∀ timestamp, latest.timeStampTo = some timestamp →
    timestamp.seconds ≤ block.timestampFrom.seconds + AccountService.BALANCES_UPDATE_INTERVAL

theorem gives_blockNumberTimestamp : AccountService.blockNumberTimestamp.run.Gives (view.Tells block) fun outcome =>
    ∃ latest, outcome = .ok latest ∧ Heads block latest ∧ latest.timeStampTo ≠ none := by
  rw [AccountService.blockNumberTimestamp]
  apply gives_await
  rintro _ ⟨head, others, rfl, behind, recent⟩
  rw [answered, pure_bind]
  intro _ _
  refine ⟨_, rfl, ⟨behind, ?_⟩, Option.some_ne_none _⟩
  rintro _ ⟨⟩
  exact recent

private theorem gives_latestBlockCached : AccountService.latestBlockCached.run.Gives (view.Tells block) fun outcome =>
    ∃ latest, outcome = .ok latest ∧ Heads block latest := by
  rw [AccountService.latestBlockCached]
  apply gives_await
  intro cached known
  cases cached with
  | none =>
    apply gives_blockNumberTimestamp.imp
    rintro _ ⟨latest, rfl, heads, -⟩
    exact ⟨latest, rfl, heads⟩
  | some number =>
    refine ⟨_, rfl, known number rfl, ?_⟩
    rintro _ ⟨⟩

theorem gives_currentBlockNumber {told : (op : BalanceOp) → op.Answer → Prop} (meant : block.MeantBy param)
    (byHash : ∀ found, told (.getBlockByHash block.hash) found → found = .ok (some block)) :
    (AccountService.currentBlockNumber param).run.Gives told (· = .ok (some block.number)) := by
  obtain rfl | rfl := meant
  · rfl
  · rw [AccountService.currentBlockNumber]
    apply gives_await
    intro answer known
    obtain rfl := byHash answer known
    rfl

/-- The block is left as it is, with a head that has a timestamp. -/
theorem gives_extractBlockNumberAndTimestamp (meant : block.MeantBy param) :
    (AccountService.extractBlockNumberAndTimestamp param).run.Gives (view.Tells block) fun outcome =>
      ∃ found, outcome = .ok found ∧ found.2 = param ∧ Heads block found.1 ∧ found.1.timeStampTo ≠ none := by
  rw [AccountService.extractBlockNumberAndTimestamp]
  apply Prog.Gives.bind_ok gives_latestBlockCached
  intro latest heads
  apply Prog.Gives.bind_eq (gives_currentBlockNumber meant fun found known => known rfl)
  have behind := heads.behind
  have apart : (some block.number).any (fun number =>
      decide (latest.blockNumber.value ≤ number + AccountService.latestBlockTolerance)) = false := by
    simpa using behind
  rw [apart]
  by_cases timeless : latest.timeStampTo = none
  · simp only [timeless, if_true]
    apply Prog.Gives.bind_ok gives_blockNumberTimestamp
    rintro fresh ⟨known, timed⟩
    exact ⟨(fresh, param), rfl, rfl, known, timed⟩
  · simp only [timeless, if_false]
    exact ⟨(latest, param), rfl, rfl, heads, timeless⟩

private theorem gives_getHistoricalBlockResponse (meant : block.MeantBy param) :
    (CommonService.getHistoricalBlockResponse maxBlockRange param).run.Gives (view.Tells block)
    (· = .ok (some block)) := by
  obtain rfl | rfl := meant
  · rw [CommonService.getHistoricalBlockResponse]
    apply gives_await
    rintro _ ⟨head, others, rfl, behind, -⟩
    have inRange : ¬ (Filters.numberTo0x block.number).value > head.number + maxBlockRange := by
      simp only [Filters.numberTo0x]
      omega
    simp only [answered, CommonService.firstBlock, pure_bind, inRange, if_false]
    apply gives_await
    intro answer known
    obtain rfl := known rfl
    rfl
  · rw [CommonService.getHistoricalBlockResponse]
    apply gives_await
    intro answer known
    obtain rfl := known rfl
    rfl

private theorem gives_getBalanceAtBlockNumber {latest : LatestBlockNumberTimestamp} (heads : Heads block latest)
    (timed : latest.timeStampTo ≠ none) (plain : view.Plain block.timestampTo) (apart : view.Apart block.timestampTo) :
    (AccountService.getBalanceAtBlockNumber view.address block latest).run.Gives (view.Tells block)
      (· = (view.expected block.timestampTo).map some) := by
  obtain ⟨timestamp, given⟩ := Option.ne_none_iff_exists'.mp timed
  have recent := heads.recent timestamp given
  have near : ¬ (latest.timeStampTo.map Timestamp.seconds).getD 0 >
      block.timestampFrom.seconds + AccountService.BALANCES_UPDATE_INTERVAL := by
    rw [given]
    exact Nat.not_lt.mpr recent
  rw [AccountService.getBalanceAtBlockNumber]
  simp only [near, if_false]
  exact gives_getRecentBalance plain apart

private theorem gives_getHistoricalBalance {latest : LatestBlockNumberTimestamp} (meant : block.MeantBy param)
    (heads : Heads block latest) (timed : latest.timeStampTo ≠ none) (plain : view.Plain block.timestampTo)
    (apart : view.Apart block.timestampTo) :
    (AccountService.getHistoricalBalance maxBlockRange view.address latest param).run.Gives (view.Tells block)
      (· = (view.expected block.timestampTo).map some) := by
  rw [AccountService.getHistoricalBalance]
  apply Prog.Gives.bind_eq (gives_getHistoricalBlockResponse meant)
  exact gives_getBalanceAtBlockNumber heads timed plain apart

private theorem gives_getFoundBalance {historical : Throwing (Option Int)} {told : (op : BalanceOp) → op.Answer → Prop}
    {found : Except BalanceError Int} (gives : historical.run.Gives told (· = found.map some)) :
    (AccountService.getFoundBalance view.address historical).run.Gives told
      (· = (found.map AccountService.numberTo0x).mapError BalanceError.handled) := by
  rw [AccountService.getFoundBalance]
  apply Prog.Gives.adapt
  rw [ExceptT.run_bind, Prog.gives_bind]
  apply gives.imp
  rintro _ rfl
  cases found <;> rfl

end AccountView

/-- For a block from the last 15 minutes that is more than one behind the head, the answer is
the current balance without what happened after the block, unless there are too many pages. -/
theorem AccountService.getBalance_recent (view : AccountView) (block : MirrorBlock) (param : BlockParam)
    (maxBlockRange : Nat) (meant : block.MeantBy param) (plain : view.Plain block.timestampTo)
    (apart : view.Apart block.timestampTo) :
    (AccountService.getBalance maxBlockRange view.address param).run.Gives (view.Tells block)
      (· = if view.goesOn block.timestampTo ∧ MAX_MIRROR_NODE_PAGINATION < view.older.length then
          .error (.rpc (PAGINATION_MAX MAX_MIRROR_NODE_PAGINATION))
        else .ok (AccountService.numberTo0x (view.balanceAt block.timestampTo))) := by
  rw [AccountService.getBalance, meant.not_latest]
  apply Prog.Gives.bind_ok (AccountView.gives_extractBlockNumberAndTimestamp meant)
  rintro ⟨latest, _⟩ ⟨rfl, heads, timed⟩
  dsimp only
  rw [meant.not_latest]
  apply (AccountView.gives_getFoundBalance (AccountView.gives_getHistoricalBalance meant heads timed plain apart)).imp
  rintro _ rfl
  rw [AccountView.expected]
  split_ifs <;> rfl

/-- The answers about an account and a block, where the head is at most one block ahead. -/
def TellsNear (address : String) (response : MirrorAccount) (block : MirrorBlock) : (op : BalanceOp) → op.Answer → Prop
  | .getBlockNumberCached, cached => ∀ number, cached = some number →
      number.value ≤ block.number + AccountService.latestBlockTolerance
  | .getLatestBlock, latest => ∃ head others, latest = .ok (some (head :: others)) ∧
      head.number ≤ block.number + AccountService.latestBlockTolerance
  | .getBlockByHash hash, found => hash = block.hash → found = .ok (some block)
  | .getAccountPageLimit account, found => account = address → found = .ok (some response)
  | _, _ => True

section Near
variable {address : String} {response : MirrorAccount} {block : MirrorBlock} {param : BlockParam} {balance : JsInteger}

private theorem gives_latestBlockCached_near :
    AccountService.latestBlockCached.run.Gives (TellsNear address response block) fun outcome =>
      ∃ latest, outcome = .ok latest ∧
        latest.blockNumber.value ≤ block.number + AccountService.latestBlockTolerance := by
  rw [AccountService.latestBlockCached]
  apply gives_await
  intro cached known
  cases cached with
  | none =>
    apply gives_await
    rintro _ ⟨head, others, rfl, near⟩
    intro _ _
    exact ⟨_, rfl, near⟩
  | some number => exact ⟨_, rfl, known number rfl⟩

private theorem gives_extract_near (meant : block.MeantBy param) :
    (AccountService.extractBlockNumberAndTimestamp param).run.Gives (TellsNear address response block) fun outcome =>
      ∃ found, outcome = .ok found ∧ found.2 = .latest := by
  rw [AccountService.extractBlockNumberAndTimestamp]
  apply Prog.Gives.bind_ok gives_latestBlockCached_near
  intro latest near
  apply Prog.Gives.bind_eq (AccountView.gives_currentBlockNumber meant fun found known => known rfl)
  have counts : (some block.number).any (fun number =>
      decide (latest.blockNumber.value ≤ number + AccountService.latestBlockTolerance)) = true := decide_eq_true near
  rw [counts]
  exact ⟨(latest, .latest), rfl, rfl⟩

private theorem gives_getCurrentBalance (balanced : response.balance = some balance) :
    (AccountService.getCurrentBalance address).run.Gives (TellsNear address response block)
      (· = .ok (some (weibarsOf balance.toBigInt))) := by
  rw [AccountService.getCurrentBalance]
  apply gives_await
  intro answer known
  obtain rfl := known rfl
  rw [answered, pure_bind]
  dsimp only
  rw [balanced]
  rfl

/-- A block that is at most one behind the head is answered with the current balance. -/
theorem AccountService.getBalance_near (maxBlockRange : Nat) (meant : block.MeantBy param)
    (balanced : response.balance = some balance) :
    (AccountService.getBalance maxBlockRange address param).run.Gives (TellsNear address response block)
      (· = .ok (AccountService.numberTo0x (weibarsOf balance.toBigInt))) := by
  rw [AccountService.getBalance, meant.not_latest]
  apply Prog.Gives.bind_ok (gives_extract_near meant)
  rintro ⟨latest, _⟩ ⟨rfl⟩
  dsimp only
  rw [AccountService.getFoundBalance]
  apply Prog.Gives.adapt
  have unfound : (if BlockParam.latest.blockTagIsLatestOrPending = true then return none
      else getHistoricalBalance maxBlockRange address latest .latest : Throwing (Option Int)) = return none := rfl
  rw [unfound, pure_bind]
  apply Prog.Gives.bind_eq (gives_getCurrentBalance balanced)
  rfl

end Near

/-- A full second, counted from one that the examples are near. -/
def secondsLater (count : Fin 100) : Timestamp where
  nanos := (1651560900 + count) * nanosPerSecond
  tenDigits := by simp only [nanosPerSecond]; omega

def transferAt (count : Fin 100) (amount : Int) : Transaction where
  consensusTimestamp := secondsLater count
  transfers := [{ account := "0.0.1001", amount := .number amount, isApproval := false },
    { account := "0.0.98", amount := .number (-amount), isApproval := false }]

/-- An account with one transaction on the first page and two on the next one. -/
def twoPages : AccountView where
  address := "0.0.1001"
  response := {
    account := "0.0.1001"
    balance := some (.number 1000)
    transactions := [transferAt 30 7]
    next := some "/api/v1/accounts/0.0.1001?limit=100&timestamp=lt:1651560930.000000000" }
  older := [[transferAt 20 (-5), transferAt 5 300]]
  mirror _ := some { items := some [transferAt 20 (-5), transferAt 5 300], next := none }
  newestFirst := by decide
  unlinked := by decide
  linked := by
    rintro _ ⟨⟩
    exact ⟨transferAt 30 7, rfl, by decide +kernel, .last rfl⟩

def blockTo (number : Nat) (count : Fin 100) : MirrorBlock where
  number
  hash := "0xb10c"
  timestampFrom := secondsLater 0
  timestampTo := secondsLater count

/-- The head is block 8. -/
def world (block : MirrorBlock) : (op : BalanceOp) → op.Answer
  | .getBlockNumberCached => none
  | .setBlockNumberCached _ => ()
  | .getLatestBlock => .ok (some [blockTo 8 40])
  | .getBlock _ | .getBlockByHash _ => .ok (some block)
  | .getAccountPageLimit _ => .ok (some twoPages.response)
  | .getAccountPage url => .ok (twoPages.mirror url)
  | .getBalanceAtTimestamp _ _ => .ok none

theorem plain_twoPages (number : Nat) :
    twoPages.Plain (blockTo number 10).timestampTo ∧ twoPages.Apart (blockTo number 10).timestampTo := by
  refine ⟨⟨?_, ?_, ?_⟩, fun _ => ?_⟩
  · show ∀ transaction ∈ twoPages.transactions, transaction.consensusTimestamp = secondsLater 10 → _
    decide
  · show ∀ amount ∈ twoPages.changes (secondsLater 10), _
    decide
  · show _ + ((twoPages.changes (secondsLater 10)).map _).sum ≤ _
    decide
  · decide

theorem AccountService.getBalance_recent_twoPages :
    (getBalance 1000 "0.0.1001" (.number (Filters.numberTo0x 6))).run.answeredBy (world (blockTo 6 10)) =
      .ok "0x913a65ad800" := by
  have tells : ∀ op, twoPages.Tells (blockTo 6 10) op (world (blockTo 6 10) op) := by
    intro op
    cases op
    case getBlockNumberCached => rintro _ ⟨⟩
    case getLatestBlock => exact ⟨_, _, rfl, by decide, by decide⟩
    all_goals first | exact fun _ => rfl | trivial
  have given := (getBalance_recent twoPages (blockTo 6 10) _ 1000 (.inl rfl) (plain_twoPages 6).1
    (plain_twoPages 6).2).answeredBy tells
  rw [if_neg (by decide)] at given
  exact given

/-- The balance of the block before the head is the current one. -/
theorem AccountService.getBalance_oneBehind :
    (blockTo 7 10).number < (blockTo 8 40).number ∧
    (blockTo 8 40).timestampTo.seconds ≤ (blockTo 7 10).timestampFrom.seconds + BALANCES_UPDATE_INTERVAL ∧
    twoPages.Plain (blockTo 7 10).timestampTo ∧ twoPages.Apart (blockTo 7 10).timestampTo ∧
    (getBalance 1000 "0.0.1001" (.number (Filters.numberTo0x 7))).run.answeredBy (world (blockTo 7 10)) ≠
      .ok (numberTo0x (twoPages.balanceAt (blockTo 7 10).timestampTo)) := by
  have current : (getBalance 1000 "0.0.1001" (.number (Filters.numberTo0x 7))).run.answeredBy (world (blockTo 7 10)) =
      .ok "0x9184e72a000" := rfl
  refine ⟨by decide, by decide, (plain_twoPages 7).1, (plain_twoPages 7).2, ?_⟩
  rw [current]
  decide

end HieroRelay.Accounts.Balances
