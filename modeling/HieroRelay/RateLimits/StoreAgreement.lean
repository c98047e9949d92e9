import HieroRelay.RateLimits.KeyIsolation
import HieroRelay.RateLimits.RedisRateLimitStore

/-! The store in memory counts in the windows of addresses, the one in Redis in the windows
of keys; they agree exactly as long as both counts reach the limit together. -/

namespace HieroRelay.RateLimits

open HieroRelay.Lib

/-- The requests with the text of a key share its windows. -/
def keyWindows (duration : Nat) (key : String) : Windows RateRequest where
  duration
  time request := request.now
  belongs request := request.key.toString = key

def anyRequest (_ : List RateRequest) (_ : RateRequest) : Bool := true

/-- How many requests with the text of its key came before a request in the window of the key. -/
def usedOfKey (duration : Nat) (earlier : List RateRequest) (request : RateRequest) : Nat :=
  (keyWindows duration request.key.toString).countIn anyRequest
    ((keyWindows duration request.key.toString).startOf earlier request) earlier

/-- Redis holds the counts of the current windows. -/
structure KeysCounted (duration : Nat) (events : List RateRequest) (redis : Redis) : Prop where
  unseen : ∀ key, (keyWindows duration key).current events = none → redis.counters.get key = none
  seen : ∀ key start, (keyWindows duration key).current events = some start →
    redis.counters.get key = some {
      value := (keyWindows duration key).countIn anyRequest start events
      expiresAt := some (start + duration) }

variable {seconds : Nat} {limits : String → Nat} {earlier events : List RateRequest} {request : RateRequest}
  {redis : Redis}

theorem durationSeconds_mul (seconds : Nat) : durationSeconds (1000 * seconds) = seconds := by
  unfold durationSeconds
  omega

theorem belongs_key (duration : Nat) (request : RateRequest) :
    (keyWindows duration request.key.toString).belongs request = true := decide_eq_true rfl

/-- What is live of a key is the count of its window. -/
theorem KeysCounted.find {duration : Nat} (counted : KeysCounted duration earlier redis) (request : RateRequest) :
    redis.find request.key.toString request.now =
      if (keyWindows duration request.key.toString).current earlier = none ∨
          (keyWindows duration request.key.toString).reopens earlier request = true then none
      else some {
        value := usedOfKey duration earlier request
        expiresAt := some ((keyWindows duration request.key.toString).startOf earlier request + duration) } := by
  cases current : (keyWindows duration request.key.toString).current earlier with
  | none =>
      rw [Redis.find, counted.unseen _ current, if_pos (.inl rfl)]
      rfl
  | some start =>
      rw [Redis.find, counted.seen _ start current]
      cases reopens : (keyWindows duration request.key.toString).reopens earlier request with
      | true =>
          rw [if_pos (.inr rfl)]
          rw [Windows.reopens, current, Option.any_some] at reopens
          have expired : start + duration < request.now := of_decide_eq_true reopens
          simp [Option.filter, RedisCounter.isExpired, expired]
      | false =>
          rw [if_neg (by simp), usedOfKey, Windows.startOf_of_stays current reopens]
          rw [Windows.reopens, current, Option.any_some] at reopens
          have live : ¬ start + duration < request.now := of_decide_eq_false reopens
          simp [Option.filter, RedisCounter.isExpired, live]

/-- One counter was written, and nothing else. -/
def Sets (key : String) (counter : RedisCounter) (before after : Redis) : Prop :=
  ∀ other, after.counters.get other = if other = key then some counter else before.counters.get other

private theorem sets_first (lasting : 0 < seconds) {key : String} {now : Nat} (limit : Nat)
    (absent : redis.find key now = none) :
    ∃ after, redis.LUA_SCRIPT key now limit seconds = (if 1 > limit then 1 else 0, after) ∧
      Sets key { value := 1, expiresAt := some (now + 1000 * seconds) } redis after := by
  have begun : ({ counters := redis.counters.assign key { value := 1, expiresAt := none } } : Redis).find key now =
      some { value := 1, expiresAt := none } := by
    rw [Redis.find, Table.get_assign, if_pos rfl]
    rfl
  simp only [Redis.LUA_SCRIPT, Redis.incr, absent, if_true, Redis.expire, begun, Nat.ne_of_gt lasting, if_false]
  refine ⟨_, (apply_ite (fun result => (result, _)) _ _ _).symm, ?_⟩
  intro other
  rw [Table.get_assign, Table.get_assign]
  split_ifs <;> rfl

private theorem sets_next {key : String} {now used : Nat} {expiresAt : Option Nat} (limit : Nat) (positive : 0 < used)
    (live : redis.find key now = some { value := used, expiresAt }) :
    ∃ after, redis.LUA_SCRIPT key now limit seconds = (if used + 1 > limit then 1 else 0, after) ∧
      Sets key { value := used + 1, expiresAt } redis after := by
  have later : used + 1 ≠ 1 := by omega
  simp only [Redis.LUA_SCRIPT, Redis.incr, live, later, if_false]
  refine ⟨_, (apply_ite (fun result => (result, _)) _ _ _).symm, ?_⟩
  intro other
  rw [Table.get_assign]

/-- A request writes the counter of its key. -/
theorem KeysCounted.write {duration : Nat} (counted : KeysCounted duration earlier redis) {after : Redis}
    (sets : Sets request.key.toString {
      value := usedOfKey duration earlier request + 1
      expiresAt := some ((keyWindows duration request.key.toString).startOf earlier request + duration) } redis after) :
    KeysCounted duration (request :: earlier) after where
  unseen := by
    intro key none
    by_cases same : key = request.key.toString
    · rw [same, Windows.current_cons_of_belongs (belongs_key duration request)] at none
      cases none
    · have foreign : (keyWindows duration key).belongs request = false := decide_eq_false (Ne.symm same)
      rw [Windows.current_cons_of_not_belongs foreign] at none
      rw [sets key, if_neg same]
      exact counted.unseen key none
  seen := by
    intro key start current
    by_cases same : key = request.key.toString
    · subst same
      rw [Windows.current_cons_of_belongs (belongs_key duration request)] at current
      obtain rfl := Option.some.inj current
      rw [sets _, if_pos rfl, Windows.countIn_cons_of_chosen (belongs_key duration request) rfl, usedOfKey]
    · have foreign : (keyWindows duration key).belongs request = false := decide_eq_false (Ne.symm same)
      rw [Windows.current_cons_of_not_belongs foreign] at current
      rw [sets key, if_neg same, Windows.countIn_cons_of_not (.inl foreign)]
      exact counted.seen key start current

/-- The answer of Redis after a history. -/
theorem KeysCounted.answer (lasting : 0 < seconds) (counted : KeysCounted (1000 * seconds) earlier redis)
    (limit : Nat) :
    ∃ after, redis.incrementAndCheck (1000 * seconds) request.key limit request.now =
        (decide (limit ≤ usedOfKey (1000 * seconds) earlier request), after) ∧
      KeysCounted (1000 * seconds) (request :: earlier) after := by
  have found := counted.find request
  have result : ∀ used, decide ((if used + 1 > limit then 1 else 0) = 1) = decide (limit ≤ used) := by
    intro used
    split_ifs with above
    · exact decide_eq_decide.mpr ⟨fun _ => by omega, fun _ => rfl⟩
    · exact decide_eq_decide.mpr ⟨nofun, fun below => by omega⟩
  split_ifs at found with opens
  · obtain ⟨after, answered, sets⟩ := sets_first lasting limit found
    have unused : usedOfKey (1000 * seconds) earlier request = 0 := Windows.countIn_eq_zero_of_opens opens
    have start : (keyWindows (1000 * seconds) request.key.toString).startOf earlier request = request.now := by
      rcases opens with none | reopens
      · exact Windows.startOf_of_none none
      · exact Windows.startOf_of_reopens reopens
    refine ⟨after, ?_, counted.write ?_⟩
    · rw [Redis.incrementAndCheck, durationSeconds_mul, answered, unused, ← result 0]
    · rw [unused, start]
      exact sets
  · have positive : 0 < usedOfKey (1000 * seconds) earlier request := by
      cases current : (keyWindows (1000 * seconds) request.key.toString).current earlier with
      | none => exact absurd (.inl current) opens
      | some start =>
          have stays := Bool.eq_false_iff.mpr fun reopens => opens (.inr reopens)
          rw [usedOfKey, Windows.startOf_of_stays current stays]
          exact Windows.countIn_pos earlier (fun _ _ => rfl) current
    obtain ⟨after, answered, sets⟩ := sets_next limit positive found
    refine ⟨after, ?_, counted.write sets⟩
    rw [Redis.incrementAndCheck, durationSeconds_mul, answered, ← result]

private theorem keysCounted_redisAfter (lasting : 0 < seconds) (events : List RateRequest) :
    KeysCounted (1000 * seconds) events (redisAfter (1000 * seconds) limits events) := by
  induction events with
  | nil => exact { unseen := fun _ _ => rfl, seen := nofun }
  | cons request earlier ih =>
      obtain ⟨after, answered, counted⟩ := ih.answer lasting (limits request.key.method)
      rw [redisAfter, answered]
      exact counted

theorem redisExceeded_eq (lasting : 0 < seconds) (earlier : List RateRequest) (request : RateRequest) :
    redisExceeded (1000 * seconds) limits earlier request =
      decide (limits request.key.method ≤ usedOfKey (1000 * seconds) earlier request) := by
  obtain ⟨after, answered, _⟩ := (keysCounted_redisAfter lasting earlier).answer lasting (limits request.key.method)
  rw [redisExceeded, answered]

/-- The stores answer every request of a history alike. -/
def Agree (duration : Nat) (limits : String → Nat) (events : List RateRequest) : Prop :=
  ∀ earlier request, request :: earlier <:+ events →
    lruExceeded duration limits earlier request = some (redisExceeded duration limits earlier request)

theorem harmlessHistory_of_ordinary {duration : Nat}
    (ordinary : ∀ request ∈ events, request.key.method ∉ inheritedNames)
    (positive : ∀ earlier request, request :: earlier <:+ events →
      (ipWindows duration request.key.ip).reopens earlier request = true → 0 < limits request.key.method) :
    HarmlessHistory duration limits events := by
  induction events with
  | nil => trivial
  | cons request earlier ih =>
      constructor
      · apply ih
        · exact fun other member => ordinary other (List.mem_cons_of_mem request member)
        · exact fun before other inside => positive before other (inside.trans (List.suffix_cons request earlier))
      · intro reopens
        exact ⟨ordinary request List.mem_cons_self, positive earlier request List.suffix_rfl reopens⟩

/-- The stores agree exactly if, at each request, the requests before it reach the limit in
the window of its address and in the one of its key, or in neither. -/
theorem agree_iff_sameUse (seconds : Nat) (limits : String → Nat) (events : List RateRequest) (lasting : 0 < seconds)
    (ordinary : ∀ request ∈ events, request.key.method ∉ inheritedNames)
    (positive : ∀ earlier request, request :: earlier <:+ events →
      (ipWindows (1000 * seconds) request.key.ip).reopens earlier request = true → 0 < limits request.key.method) :
    Agree (1000 * seconds) limits events ↔ ∀ earlier request, request :: earlier <:+ events →
      (limits request.key.method ≤ usedBefore (1000 * seconds) earlier request ↔
        limits request.key.method ≤ usedOfKey (1000 * seconds) earlier request) := by
  have harmless := harmlessHistory_of_ordinary ordinary positive
  apply forall_congr'
  intro earlier
  apply forall_congr'
  intro request
  apply forall_congr'
  intro inside
  obtain ⟨before, step⟩ := harmless.suffix inside
  have own : request.key.method ∉ inheritedNames := ordinary request (inside.subset List.mem_cons_self)
  rw [lruExceeded_eq before step, redisExceeded_eq lasting, Option.some.injEq, ← decide_not, decide_eq_decide]
  simp [own]

/-- A statement about every request of a history and those before it, from the last one down. -/
private theorem forall_suffix_cons {holds : List RateRequest → RateRequest → Prop} :
    (∀ before other, other :: before <:+ request :: earlier → holds before other) ↔
      holds earlier request ∧ ∀ before other, other :: before <:+ earlier → holds before other := by
  constructor
  · intro all
    exact ⟨all earlier request List.suffix_rfl,
      fun before other inside => all before other (inside.trans (List.suffix_cons request earlier))⟩
  · rintro ⟨last, rest⟩ before other inside
    rcases List.suffix_cons_iff.mp inside with same | inside
    · obtain ⟨rfl, rfl⟩ := List.cons.inj same
      exact last
    · exact rest before other inside

def methodLimits (method : String) : Nat :=
  if method = "eth_chainId" then 2 else if method = "eth_gasPrice" then 1 else 0

/-- An address uses up the chain id, asks for a method that is closed, and after the second for
the gas price, twice, and for the chain id again. -/
def twoWindows : List RateRequest :=
  [{ key := { ip := "10.0.0.1", method := "eth_chainId" }, now := 1702 },
    { key := { ip := "10.0.0.1", method := "eth_gasPrice" }, now := 1701 },
    { key := { ip := "10.0.0.1", method := "eth_gasPrice" }, now := 1700 },
    { key := { ip := "10.0.0.1", method := "eth_coinbase" }, now := 300 },
    { key := { ip := "10.0.0.1", method := "eth_chainId" }, now := 200 },
    { key := { ip := "10.0.0.1", method := "eth_chainId" }, now := 100 },
    { key := { ip := "10.0.0.1", method := "eth_chainId" }, now := 0 }]

/-- The answers of both stores, to the first request first. -/
def answersOf (duration : Nat) (limits : String → Nat) : List RateRequest → List (Option Bool × Bool)
  | [] => []
  | request :: earlier => answersOf duration limits earlier ++
      [(lruExceeded duration limits earlier request, redisExceeded duration limits earlier request)]

theorem agree_twoWindows :
    Agree (1000 * 1) methodLimits twoWindows ∧
      answersOf (1000 * 1) methodLimits twoWindows =
        [(some false, false), (some false, false), (some true, true), (some true, true), (some false, false),
          (some true, true), (some false, false)] := by
  refine ⟨(agree_iff_sameUse 1 methodLimits twoWindows (by decide) (by decide) ?_).mpr ?_, by decide⟩
  · -- the closed method is asked for while the window is open
    simp only [twoWindows, forall_suffix_cons, List.suffix_nil, reduceCtorEq, false_implies, implies_true, and_true]
    decide
  · simp only [twoWindows, forall_suffix_cons, List.suffix_nil, reduceCtorEq, false_implies, implies_true, and_true]
    decide

/-- An address asks for two methods within a second, and for both again after it. -/
def sharedWindow : List RateRequest :=
  [{ key := { ip := "10.0.0.1", method := "eth_gasPrice" }, now := 1002 },
    { key := { ip := "10.0.0.1", method := "eth_chainId" }, now := 1001 },
    { key := { ip := "10.0.0.1", method := "eth_gasPrice" }, now := 900 },
    { key := { ip := "10.0.0.1", method := "eth_chainId" }, now := 0 }]

theorem agree_sharedWindow_fails : ¬ Agree (1000 * 1) (fun _ => 1) sharedWindow := by
  intro agree
  have same := agree _ _ List.suffix_rfl
  revert same
  decide

end HieroRelay.RateLimits
