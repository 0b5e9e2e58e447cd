/-!
# Settings

How often and how patiently a whole operation is run again after a conflict, and
whether fetched policies are logged in full.  Every setting has a default.  The
delay before a retry doubles from one retry to the next and is capped; all
arithmetic on delays saturates instead of wrapping.
-/

namespace AccessPolicy

/-- A span of time in seconds and further nanoseconds. -/
structure Duration where
  seconds : UInt64
  nanoseconds : UInt32
  deriving DecidableEq

/-- The largest delay that can be expressed. -/
def maxDelay : UInt64 := 0xffffffffffffffff

/-- The number as a delay, or the largest delay if the number is greater. -/
def saturate (milliseconds : Nat) : UInt64 :=
  if milliseconds ≤ maxDelay.toNat then UInt64.ofNat milliseconds else maxDelay

/-- The whole milliseconds of a span, or the largest delay if there are more. -/
def Duration.wholeMilliseconds (duration : Duration) : UInt64 :=
  saturate
    (duration.seconds.toNat * 1000 + duration.nanoseconds.toNat / 1000000)

/-- How a whole operation is run again after a conflict. -/
structure Backoff where
  /-- All attempts, the first one included. -/
  maxAttempts : UInt32 := 3
  /-- The delay before the first retry. -/
  initialDelayMs : UInt64 := 100
  /-- The cap on every delay. -/
  maxDelayMs : UInt64 := 5000
  deriving DecidableEq, Inhabited

structure Settings where
  /-- How a whole operation is run again after a conflict. -/
  backoff : Backoff := {}
  /-- Whether fetched policies are logged in full; they list every principal. -/
  logPolicyContents : Bool := false
  deriving DecidableEq, Inhabited

inductive SettingsFault where
  /-- No attempt at all is allowed. -/
  | noAttempts
  /-- The cap is below the first delay. -/
  | capBelowInitial (maxDelayMs initialDelayMs : UInt64)
  deriving DecidableEq

def SettingsFault.message : SettingsFault → String
  | noAttempts => "conflict_retry.max_attempts must be at least 1"
  | capBelowInitial cap first =>
    s!"conflict_retry.max_delay_ms ({cap}) is below initial_delay_ms ({first})"

namespace Backoff

def disabled : Backoff := { maxAttempts := 1 }

def withMaxAttempts (backoff : Backoff) (attempts : UInt32) : Backoff :=
  { backoff with maxAttempts := attempts }

def withInitialDelay (backoff : Backoff) (delay : Duration) : Backoff :=
  { backoff with initialDelayMs := delay.wholeMilliseconds }

def withMaxDelay (backoff : Backoff) (delay : Duration) : Backoff :=
  { backoff with maxDelayMs := delay.wholeMilliseconds }

/-- The number of doublings before a retry, counted from one.  More than
thirty-two make no difference, so that the factor stays a word. -/
def doublings (retry : UInt32) : Nat :=
  min (retry.toNat - 1) 32

/-- The delay in milliseconds before a retry, counted from one. -/
def delayFor (backoff : Backoff) (retry : UInt32) : UInt64 :=
  min (saturate (backoff.initialDelayMs.toNat * Nat.pow 2 (doublings retry)))
    backoff.maxDelayMs

/-- The attempts that are made at most.  The first one is always made. -/
def attempts (backoff : Backoff) : UInt32 :=
  max backoff.maxAttempts 1

/-- Refuse a schedule without attempts, or one whose cap is below its
first delay. -/
def validate (backoff : Backoff) : Except SettingsFault Unit :=
  if backoff.maxAttempts = 0 then .error .noAttempts
  else if backoff.maxDelayMs < backoff.initialDelayMs then
    .error (.capBelowInitial backoff.maxDelayMs backoff.initialDelayMs)
  else .ok ()

end Backoff

def Settings.validate (settings : Settings) : Except SettingsFault Unit :=
  settings.backoff.validate

end AccessPolicy
