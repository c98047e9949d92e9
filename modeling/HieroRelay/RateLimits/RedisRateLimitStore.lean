import HieroRelay.RateLimits.LruRateLimitStore

/-! The rate limit store in Redis: a script that counts the requests of a key until the key
expires. -/

namespace HieroRelay.RateLimits

open HieroRelay.Lib

def RateLimitKey.toString (key : RateLimitKey) : String := s!"ratelimit:{key.ip}:{key.method}"

structure RedisCounter where
  value : Nat
  expiresAt : Option Nat
  deriving Repr, DecidableEq

def RedisCounter.isExpired (counter : RedisCounter) (now : Nat) : Bool :=
  counter.expiresAt.any fun expiry => expiry < now

structure Redis where
  counters : Table String RedisCounter

namespace Redis

variable (redis : Redis) (key : String) (now : Nat)

/-- A key is there up to the time of its expiry. -/
def find : Option RedisCounter := (redis.counters.get key).filter fun counter => !counter.isExpired now

def incr : Nat × Redis :=
  let counter := match redis.find key now with
    | none => { value := 1, expiresAt := none }
    | some counter => { counter with value := counter.value + 1 }
  (counter.value, { counters := redis.counters.assign key counter })

/-- A key that expires at once is deleted. -/
def expire (seconds : Nat) : Redis :=
  match redis.find key now with
  | none => redis
  | some counter =>
      if seconds = 0 then { counters := redis.counters.erase key }
      else { counters := redis.counters.assign key { counter with expiresAt := some (now + 1000 * seconds) } }

def LUA_SCRIPT (limit seconds : Nat) : Nat × Redis :=
  let (current, redis) := redis.incr key now
  let redis := if current = 1 then redis.expire key now seconds else redis
  if current > limit then (1, redis) else (0, redis)

end Redis

/-- The duration in seconds, rounded up. -/
def durationSeconds (duration : Nat) : Nat := (duration + 999) / 1000

/-- Whether the limit is exceeded. -/
def Redis.incrementAndCheck (redis : Redis) (duration : Nat) (key : RateLimitKey) (limit now : Nat) : Bool × Redis :=
  let (result, redis) := redis.LUA_SCRIPT key.toString now limit (durationSeconds duration)
  (result = 1, redis)

section Histories

variable (duration : Nat) (limits : String → Nat)

/-- The store after a history. -/
def redisAfter : List RateRequest → Redis
  | [] => { counters := .empty }
  | request :: earlier =>
      ((redisAfter earlier).incrementAndCheck duration request.key (limits request.key.method) request.now).2

def redisExceeded (earlier : List RateRequest) (request : RateRequest) : Bool :=
  ((redisAfter duration limits earlier).incrementAndCheck duration request.key (limits request.key.method)
    request.now).1

end Histories

end HieroRelay.RateLimits
