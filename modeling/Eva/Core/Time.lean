import Eva.Foundation.Unsigned
import Mathlib.Algebra.Group.Int.Defs

/-! # Points in time

Times of the system clock are kept in seconds and nanoseconds from the epoch. The
seconds are a signed 64-bit number, so not every duration leads to a time.
-/

namespace Eva

def nanosPerSecond : Nat := 1000000000

structure Duration where
  seconds : U64
  nanos : U32
  normal : nanos.value < nanosPerSecond
deriving DecidableEq

/-- `Duration::new`: whole seconds are carried over; `none` where that overflows. -/
def Duration.new (seconds : U64) (nanos : U32) : Option Duration :=
  (Unsigned.ofNat? 64 (seconds.value + nanos.value / nanosPerSecond)).map fun seconds =>
    { seconds
      nanos := ⟨nanos.value % nanosPerSecond,
        Nat.lt_of_le_of_lt (Nat.mod_le _ _) nanos.inRange⟩
      normal := Nat.mod_lt _ (by decide) }

structure SystemTime where
  seconds : Int
  nanos : U32
  normal : nanos.value < nanosPerSecond
  inRange : -(2 ^ 63) ≤ seconds ∧ seconds < 2 ^ 63
deriving DecidableEq

namespace SystemTime

def epoch : SystemTime where
  seconds := 0
  nanos := 0
  normal := by decide
  inRange := by decide

/-- `duration_since(UNIX_EPOCH)`: `none` before the epoch. -/
def sinceEpoch (time : SystemTime) : Option Duration :=
  if notBefore : 0 ≤ time.seconds then
    some
      { seconds := ⟨time.seconds.toNat, by have := time.inRange; omega⟩
        nanos := time.nanos
        normal := time.normal }
  else none

/-- `UNIX_EPOCH + duration`: `none` where the addition panics. -/
def afterEpoch (duration : Duration) : Option SystemTime :=
  if fits : duration.seconds.value < 2 ^ 63 then
    some
      { seconds := duration.seconds.value
        nanos := duration.nanos
        normal := duration.normal
        inRange := by omega }
  else none

def orEpoch (time : SystemTime) : SystemTime :=
  if 0 ≤ time.seconds then time else epoch

/-- What is written for a time, the epoch standing for everything before it. -/
def stored (time : SystemTime) : Duration :=
  time.sinceEpoch.getD { seconds := 0, nanos := 0, normal := by decide }

theorem orEpoch_eq_self_iff {time : SystemTime} :
    time.orEpoch = time ↔ time.sinceEpoch ≠ none := by
  unfold orEpoch sinceEpoch
  by_cases notBefore : 0 ≤ time.seconds
  · simp [notBefore]
  · simp only [notBefore, if_false, dite_false, ne_eq, not_true_eq_false, iff_false]
    rintro rfl
    exact notBefore (by decide)

theorem new_stored (time : SystemTime) :
    (Duration.new time.stored.seconds time.stored.nanos).bind afterEpoch = some time.orEpoch := by
  have carried : Duration.new time.stored.seconds time.stored.nanos = some time.stored := by
    have inRange := time.stored.seconds.inRange
    have normal := time.stored.normal
    have noCarry : time.stored.nanos.value / nanosPerSecond = 0 := Nat.div_eq_of_lt normal
    have same : time.stored.nanos.value % nanosPerSecond = time.stored.nanos.value :=
      Nat.mod_eq_of_lt normal
    simp only [Duration.new, noCarry, same, Nat.add_zero, Unsigned.ofNat?, inRange, dite_true,
      Option.map_some]
  rw [carried, Option.bind_some]
  unfold stored orEpoch sinceEpoch afterEpoch
  have inRange := time.inRange
  by_cases notBefore : 0 ≤ time.seconds
  · have fits : time.seconds.toNat < 2 ^ 63 := by omega
    have exact : (time.seconds.toNat : Int) = time.seconds := by omega
    simp only [notBefore, if_true, dite_true, Option.getD_some, fits, exact]
  · simp only [notBefore, if_false, dite_false, Option.getD_none]
    rfl

end SystemTime

/-- The time that two numbers of a record stand for; `none` where building it panics. -/
def createdAt (seconds : U64) (nanos : U32) : Option SystemTime :=
  (Duration.new seconds nanos).bind SystemTime.afterEpoch

theorem createdAt_eq_none_iff :
    createdAt seconds nanos = none ↔ 2 ^ 63 ≤ seconds.value + nanos.value / nanosPerSecond := by
  unfold createdAt Duration.new SystemTime.afterEpoch Unsigned.ofNat?
  by_cases fits : seconds.value + nanos.value / nanosPerSecond < 2 ^ 64
  · by_cases early : seconds.value + nanos.value / nanosPerSecond < 2 ^ 63
    · simp only [dif_pos fits, Option.map_some, Option.bind_some, dif_pos early, reduceCtorEq,
        false_iff]
      omega
    · simp only [dif_pos fits, Option.map_some, Option.bind_some, dif_neg early, true_iff]
      omega
  · simp only [fits, dite_false, Option.map_none, Option.bind_none, true_iff]
    omega

end Eva
