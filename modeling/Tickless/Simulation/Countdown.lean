import Tickless.Word

/-!
# The simulated tick timer

A timer that counts its clocks down from a reload value. The clock after a zero loads the reload
value, so a period is one clock longer than the reload value, and the clock on which the count
becomes zero raises the expiry flag.

`Countdown.elapse` advances the timer by any number of clocks at once. `Countdown.tick` is a single
clock, from which the meaning of `elapse` is read.
-/

namespace Tickless

/-- A timer that counts down. A timer that lost its power holds zeros and stands still. -/
structure Countdown where
  /-- The value loaded on the clock after a zero. -/
  reload : UInt32 := 0
  /-- The count. -/
  current : UInt32 := 0
  /-- Whether the timer runs. -/
  enabled : Bool := false
  /-- Whether the count became zero since the flag was last read. -/
  expired : Bool := false
deriving DecidableEq

namespace Countdown

/-- A timer that runs and is at the start of a period. -/
def running (reload : UInt32) : Countdown :=
  { reload, current := reload, enabled := true }

/-- The clocks until the count is next zero, at most the largest word. -/
def clocksToExpiry (t : Countdown) : UInt32 :=
  if t.current = 0 then Saturating.add t.reload 1 else t.current

/-- One clock of a timer that runs. -/
def tick (t : Countdown) : Countdown :=
  let next := if t.current = 0 then t.reload else t.current - 1
  { t with current := next, expired := t.expired || next = 0 }

/-- The count `n` clocks after a zero: none at a whole number of periods, else what is left of the
period that was begun. -/
def countAfterZero (reload : UInt32) (n : Nat) : UInt32 :=
  let gone := n % (reload.toNat + 1)
  if gone = 0 then 0 else UInt32.ofNat (reload.toNat + 1 - gone)

/-- A timer that runs and has a count other than zero, `n` clocks later. -/
def runDown (t : Countdown) (n : UInt32) : Countdown :=
  if n < t.current then { t with current := t.current - n }
  else
    { t with current := countAfterZero t.reload (n - t.current).toNat, expired := true }

/-- The timer a number of clocks later. The clock that loads the reload value is taken first; with a
reload value of zero it is also an expiry. -/
def elapse (n : UInt32) (t : Countdown) : Countdown :=
  if !t.enabled || n = 0 then t
  else if t.current = 0 then { t with current := t.reload }.runDown (n - 1)
  else t.runDown n

end Countdown

end Tickless
