import HieroRelay.Lib.WindowSpans
import HieroRelay.RateLimits.StoreAgreement

/-! How many requests the rate limit lets through in any span of time, and whom it turns away: the
windows are fixed, and a client may meet the end of one and the beginning of the next. -/

namespace HieroRelay.RateLimits

open HieroRelay.Lib

/-- How many requests of some kind were admitted in a span of time. -/
def admittedBetween (admits : List RateRequest → RateRequest → Bool) (shares : RateRequest → Bool) (first last : Nat) :
    List RateRequest → Nat
  | [] => 0
  | request :: earlier =>
      (if shares request = true ∧ admits earlier request = true ∧ first ≤ request.now ∧ request.now ≤ last then 1
        else 0) + admittedBetween admits shares first last earlier

/-- Any span of some durations has the limit of admitted requests for each and once more at most, and a
request is turned away only after the limit of admitted requests within the duration before it. -/
structure SpanBounds (duration : Nat) (limits : String → Nat) (admits : List RateRequest → RateRequest → Bool)
    (shares : RateRequest → RateRequest → Bool) (events : List RateRequest) : Prop where
  bounded : ∀ key first spans,
    admittedBetween admits (fun request => request.key = key) first (first + spans * duration) events ≤
      (spans + 1) * limits key.method
  deserved : ∀ earlier request, request :: earlier <:+ events → admits earlier request = false →
    limits request.key.method ≤
      admittedBetween admits (shares request) (request.now - duration) request.now earlier

/-- The clock does not go back between requests. -/
def InOrder (events : List RateRequest) : Prop := events.Pairwise fun later earlier => earlier.now ≤ later.now

section Stores
variable {seconds duration : Nat} {limits : String → Nat} {events earlier : List RateRequest} {request : RateRequest}
  {answers : List RateRequest → RateRequest → Bool} {first last : Nat}

theorem key_eq_iff {key other : RateLimitKey} : key = other ↔ key.ip = other.ip ∧ key.method = other.method := by
  cases key
  cases other
  exact RateLimitKey.mk.injEq _ _ _ _ ▸ Iff.rfl

theorem admittedBetween_eq (windows : Windows RateRequest) (times : ∀ request, windows.time request = request.now)
    {shares : RateRequest → Bool} {chosen : List RateRequest → RateRequest → Bool}
    (same : ∀ earlier request, (windows.belongs request = true ∧ chosen earlier request = true) ↔
      (shares request = true ∧ answers earlier request = true)) :
    windows.countBetween chosen first last events = admittedBetween answers shares first last events := by
  induction events with
  | nil => rfl
  | cons request earlier ih =>
    rw [Windows.countBetween, admittedBetween, ih, times]
    simp only [← and_assoc, same earlier request]

theorem InOrder.windows (inOrder : InOrder events) (windows : Windows RateRequest)
    (times : ∀ request, windows.time request = request.now) : windows.Ordered events := by
  unfold Windows.Ordered
  simp only [times]
  exact inOrder

theorem InOrder.suffix {more : List RateRequest} (inOrder : InOrder events) (inside : more <:+ events) : InOrder more :=
  List.Pairwise.sublist inside.sublist inOrder

/-- The store in memory. -/
theorem spanBounds_lru (inOrder : InOrder events) (ordinary : ∀ request ∈ events, request.key.method ∉ inheritedNames)
    (positive : ∀ request ∈ events, 0 < limits request.key.method) :
    SpanBounds duration limits (admits duration limits) (fun request other => other.key = request.key)
      events := by
  have harmless : HarmlessHistory duration limits events :=
    harmlessHistory_of_ordinary ordinary fun _ request inside _ => positive request (inside.subset List.mem_cons_self)
  constructor
  · intro key first spans
    have windows := Windows.countBetween_le (inOrder.windows (ipWindows duration key.ip) fun _ => rfl)
      (admittedIn_le harmless key.ip key.method) first spans
    rw [admittedBetween_eq (ipWindows duration key.ip) (fun _ => rfl)] at windows
    · exact windows
    · intro earlier request
      simp [ipWindows, ofMethod, key_eq_iff, and_assoc]
  · intro earlier request inside refused
    obtain ⟨before, step⟩ := harmless.suffix inside
    have own := ordinary request (inside.subset List.mem_cons_self)
    have used : limits request.key.method ≤ usedBefore duration earlier request := by
      by_contra fewer
      have admitted := (admits_iff before step).mpr ⟨own, Nat.not_le.mp fewer⟩
      rw [refused] at admitted
      cases admitted
    -- of the requests in the window, the first ones up to the limit were admitted
    have admitted := admittedIn_eq before own request.key.ip
      ((ipWindows duration request.key.ip).startOf earlier request)
    rw [usedBefore] at used
    rw [Nat.min_eq_right used] at admitted
    rw [← admitted]
    have windows := Windows.countIn_le_countBetween
      (fun earlier other => ofMethod request.key.method earlier other && admits duration limits earlier other)
      ((inOrder.suffix inside).windows (ipWindows duration request.key.ip) fun _ => rfl)
    rw [admittedBetween_eq (ipWindows duration request.key.ip) (fun _ => rfl)] at windows
    · exact windows
    · intro before other
      simp [ipWindows, ofMethod, key_eq_iff, and_assoc]

/-- The requests of one key in Redis, among those with the same text. -/
def ofKey (key : RateLimitKey) (_ : List RateRequest) (request : RateRequest) : Bool := request.key = key

/-- Keys with the same text have the same limit. -/
def AlikeLimits (limits : String → Nat) (events : List RateRequest) : Prop :=
  ∀ request ∈ events, ∀ other ∈ events, other.key.toString = request.key.toString →
    limits other.key.method = limits request.key.method

theorem AlikeLimits.suffix {more : List RateRequest} (alike : AlikeLimits limits events) (inside : more <:+ events) :
    AlikeLimits limits more :=
  fun request member other otherMember => alike request (inside.subset member) other (inside.subset otherMember)

/-- As many requests with one text are admitted in a window as come, up to their limit. -/
theorem admittedOfKey_eq (lasting : 0 < seconds) (alike : AlikeLimits limits (request :: earlier)) (start : Nat) :
    (keyWindows (1000 * seconds) request.key.toString).countIn
        (fun earlier other => anyRequest earlier other && !redisExceeded (1000 * seconds) limits earlier other)
        start earlier =
      min ((keyWindows (1000 * seconds) request.key.toString).countIn anyRequest start earlier)
        (limits request.key.method) := by
  apply Windows.countIn_allowed
  intro before other inside own _
  have text : other.key.toString = request.key.toString := of_decide_eq_true own
  have limit := alike request List.mem_cons_self other
    (List.mem_cons_of_mem _ (inside.subset List.mem_cons_self)) text
  rw [redisExceeded_eq lasting, ← decide_not, decide_eq_true_eq, Nat.not_le, limit, usedOfKey, text]

/-- The store in Redis. -/
theorem spanBounds_redis (inOrder : InOrder events) (lasting : 0 < seconds) (alike : AlikeLimits limits events) :
    SpanBounds (1000 * seconds) limits
      (fun earlier request => !redisExceeded (1000 * seconds) limits earlier request)
      (fun request other => decide (other.key.toString = request.key.toString)) events := by
  constructor
  · intro key first spans
    have bounded : ∀ start, (keyWindows (1000 * seconds) key.toString).countIn
        (fun earlier request => ofKey key earlier request && !redisExceeded (1000 * seconds) limits earlier request)
        start events ≤ limits key.method := by
      intro start
      refine (Windows.countIn_le_of_allowed anyRequest (fun _ _ _ => rfl) ?_ start).trans
        (Nat.min_le_right _ _)
      intro earlier request inside own allowed
      obtain ⟨same, admitted⟩ := Bool.and_eq_true_iff.mp allowed
      obtain rfl := of_decide_eq_true same
      rw [redisExceeded_eq lasting, ← decide_not, decide_eq_true_eq] at admitted
      exact Nat.not_le.mp admitted
    have windows := Windows.countBetween_le
      (inOrder.windows (keyWindows (1000 * seconds) key.toString) fun _ => rfl) bounded first spans
    rw [admittedBetween_eq (keyWindows (1000 * seconds) key.toString) (fun _ => rfl)] at windows
    · exact windows
    · intro earlier request
      constructor
      · intro chosen
        obtain ⟨same, admitted⟩ := Bool.and_eq_true_iff.mp chosen.2
        exact ⟨same, admitted⟩
      · intro admitted
        obtain ⟨same, admitted⟩ := admitted
        obtain rfl := of_decide_eq_true same
        exact ⟨decide_eq_true rfl, Bool.and_eq_true_iff.mpr ⟨decide_eq_true rfl, admitted⟩⟩
  · intro earlier request inside refused
    rw [redisExceeded_eq lasting, ← decide_not, decide_eq_false_iff_not, not_not] at refused
    have admitted := admittedOfKey_eq lasting (alike.suffix inside)
      ((keyWindows (1000 * seconds) request.key.toString).startOf earlier request)
    rw [usedOfKey] at refused
    rw [Nat.min_eq_right refused] at admitted
    rw [← admitted]
    have windows := Windows.countIn_le_countBetween
      (fun earlier other => anyRequest earlier other && !redisExceeded (1000 * seconds) limits earlier other)
      ((inOrder.suffix inside).windows (keyWindows (1000 * seconds) request.key.toString) fun _ => rfl)
    rw [admittedBetween_eq (keyWindows (1000 * seconds) request.key.toString) (fun _ => rfl)] at windows
    · exact windows
    · intro before other
      exact Iff.rfl

/-- Both stores keep the limit of a method in any span of time, up to one window more, and turn a client
away only after the limit of admitted requests within one duration. -/
theorem spanBounds_stores (seconds : Nat) (limits : String → Nat) (events : List RateRequest) (lasting : 0 < seconds)
    (inOrder : InOrder events) (ordinary : ∀ request ∈ events, request.key.method ∉ inheritedNames)
    (positive : ∀ request ∈ events, 0 < limits request.key.method) (alike : AlikeLimits limits events) :
    SpanBounds (1000 * seconds) limits (admits (1000 * seconds) limits)
        (fun request other => decide (other.key = request.key)) events ∧
      SpanBounds (1000 * seconds) limits
        (fun earlier request => !redisExceeded (1000 * seconds) limits earlier request)
        (fun request other => decide (other.key.toString = request.key.toString)) events :=
  ⟨spanBounds_lru inOrder ordinary positive, spanBounds_redis inOrder lasting alike⟩

end Stores

/-- The second request is turned away, and the third one opens a window. -/
def threeRequests : List RateRequest :=
  [{ key := { ip := "192.0.2.1", method := "eth_gasPrice" }, now := 1100 },
    { key := { ip := "192.0.2.1", method := "eth_gasPrice" }, now := 900 },
    { key := { ip := "192.0.2.1", method := "eth_gasPrice" }, now := 0 }]

private theorem inOrder_threeRequests : InOrder threeRequests := by
  unfold InOrder
  decide

theorem spanBounds_stores_threeRequests :
    SpanBounds (1000 * 1) (fun _ => 1) (admits (1000 * 1) fun _ => 1)
        (fun request other => decide (other.key = request.key)) threeRequests ∧
      SpanBounds (1000 * 1) (fun _ => 1)
        (fun earlier request => !redisExceeded (1000 * 1) (fun _ => 1) earlier request)
        (fun request other => decide (other.key.toString = request.key.toString)) threeRequests :=
  spanBounds_stores 1 (fun _ => 1) threeRequests Nat.one_pos inOrder_threeRequests (by decide)
    (fun _ _ => Nat.one_pos) fun _ _ _ _ _ => rfl

end HieroRelay.RateLimits
