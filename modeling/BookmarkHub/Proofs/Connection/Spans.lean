import BookmarkHub.Connection.Step

/-!
# Spans of time in machine words

A connection counts its waits in milliseconds without a bound.  A machine keeps
such a wait as whole seconds in 64 bits with the nanoseconds that are left in 32
bits, and a product, a sum or a remainder that has no word stops the program.
Here such a step gives nothing.  The lemmas say when it gives something, and
that it is then what the unbounded numbers give.
-/

set_option autoImplicit false

namespace BookmarkHub

/-! ## Words -/

namespace Word

/-- The word of a number, unless the number is too large. -/
def ofNat? (number : Nat) : Option UInt64 :=
  if number < UInt64.size then some (UInt64.ofNat number) else none

def add? (first second : UInt64) : Option UInt64 := ofNat? (first.toNat + second.toNat)

def mul? (first second : UInt64) : Option UInt64 := ofNat? (first.toNat * second.toNat)

/-- The remainder of a division, unless it is one by zero. -/
def mod? (first second : UInt64) : Option UInt64 :=
  if second = 0 then none else some (first % second)

def largest : UInt64 := UInt64.ofNat (UInt64.size - 1)

/-- The word next to a number. -/
def nearest (number : Nat) : UInt64 := (ofNat? number).getD largest

def saturatingAdd (first second : UInt64) : UInt64 := nearest (first.toNat + second.toNat)

theorem toNat_ofNat {number : Nat} (small : number < UInt64.size) :
    (UInt64.ofNat number).toNat = number := UInt64.toNat_ofNat_of_lt' small

theorem ofNat?_eq {number : Nat} (small : number < UInt64.size) :
    ofNat? number = some (UInt64.ofNat number) := if_pos small

theorem mod?_eq {first second : UInt64} (positive : 0 < second.toNat) :
    mod? first second = some (first % second) := by
  refine if_neg ?_
  rintro rfl
  exact Nat.lt_irrefl 0 positive

theorem nearest_toNat (word : UInt64) : nearest word.toNat = word := by
  rw [nearest, ofNat?_eq word.toNat_lt_size, Option.getD_some, UInt64.ofNat_toNat]

theorem toNat_saturatingAdd (first second : UInt64) :
    (saturatingAdd first second).toNat = min (first.toNat + second.toNat) (UInt64.size - 1) := by
  unfold saturatingAdd nearest ofNat?
  split
  · rename_i small
    rw [Option.getD_some, toNat_ofNat small]
    omega
  · rename_i large
    rw [Option.getD_none, largest, toNat_ofNat (by decide)]
    omega

end Word

/-! ## Spans -/

/-- A span of time: whole seconds, and the nanoseconds that are left. -/
structure Span where
  seconds : UInt64
  nanos : UInt32
  small : nanos.toNat < 1000000000

namespace Span

def total (span : Span) : Nat := span.seconds.toNat * 1000000000 + span.nanos.toNat

theorem eq_of_total {first second : Span} (same : first.total = second.total) :
    first = second := by
  obtain ⟨seconds, nanos, small⟩ := first
  obtain ⟨others, left, few⟩ := second
  simp only [total] at same
  obtain rfl : seconds = others := UInt64.toNat_inj.1 (by omega)
  obtain rfl : nanos = left := UInt32.toNat_inj.1 (by omega)
  rfl

theorem toNat_subsecond (millis : UInt64) :
    ((millis % 1000).toUInt32 * 1000000).toNat = millis.toNat % 1000 * 1000000 := by
  simp only [UInt32.toNat_mul, UInt64.toNat_toUInt32, UInt64.toNat_mod, UInt64.reduceToNat,
    UInt32.reduceToNat]
  omega

def ofMillis (millis : UInt64) : Span where
  seconds := millis / 1000
  nanos := (millis % 1000).toUInt32 * 1000000
  small := by
    rw [toNat_subsecond]
    omega

theorem total_ofMillis (millis : UInt64) : (ofMillis millis).total = millis.toNat * 1000000 := by
  simp only [total, ofMillis, toNat_subsecond, UInt64.toNat_div, UInt64.reduceToNat]
  omega

def millis (span : Span) : Nat := span.seconds.toNat * 1000 + span.nanos.toNat / 1000000

/-- They are counted in two words. -/
def millis? (span : Span) : Option Nat :=
  if span.millis < UInt64.size * UInt64.size then some span.millis else none

theorem millis?_eq (span : Span) : span.millis? = some span.millis := by
  have seconds := span.seconds.toNat_lt
  have nanos := span.small
  refine if_pos ?_
  simp only [millis, UInt64.size]
  omega

theorem millis_eq (span : Span) : span.millis = span.total / 1000000 := by
  have nanos := span.small
  simp only [millis, total]
  omega

def double? (span : Span) : Option Span := do
  let nanos := span.nanos.toUInt64 * 2
  let doubled ← Word.mul? span.seconds 2
  let seconds ← Word.add? doubled (nanos / 1000000000)
  some {
    seconds
    nanos := (nanos % 1000000000).toUInt32
    small := by
      simp only [UInt64.toNat_toUInt32, UInt64.toNat_mod, UInt64.reduceToNat]
      omega }

theorem double?_eq {span : Span} (fits : 2 * span.total < UInt64.size * 1000000000) :
    ∃ doubled, span.double? = some doubled ∧ doubled.total = 2 * span.total := by
  have few := span.small
  simp only [total] at fits
  have nanos : (span.nanos.toUInt64 * 2).toNat = span.nanos.toNat * 2 := by
    simp only [UInt64.toNat_mul, UInt32.toNat_toUInt64, UInt64.reduceToNat]
    omega
  have carried : (span.nanos.toUInt64 * 2 / 1000000000).toNat =
      span.nanos.toNat * 2 / 1000000000 := by
    rw [UInt64.toNat_div, nanos]
    rfl
  have product : span.seconds.toNat * 2 < UInt64.size := by omega
  have multiplied : Word.mul? span.seconds 2 = some (UInt64.ofNat (span.seconds.toNat * 2)) :=
    Word.ofNat?_eq product
  have sum : span.seconds.toNat * 2 + span.nanos.toNat * 2 / 1000000000 < UInt64.size := by omega
  have added : Word.add? (UInt64.ofNat (span.seconds.toNat * 2))
      (span.nanos.toUInt64 * 2 / 1000000000) =
      some (UInt64.ofNat (span.seconds.toNat * 2 + span.nanos.toNat * 2 / 1000000000)) := by
    rw [Word.add?, Word.toNat_ofNat product, carried]
    exact Word.ofNat?_eq sum
  simp only [double?, multiplied, Option.bind_eq_bind, Option.bind_some, added]
  refine ⟨_, rfl, ?_⟩
  simp only [total, Word.toNat_ofNat sum, UInt64.toNat_toUInt32, UInt64.toNat_mod, nanos,
    UInt64.reduceToNat]
  omega

def isShorter (first second : Span) : Bool :=
  first.seconds < second.seconds ||
    (first.seconds == second.seconds && decide (first.nanos < second.nanos))

def shorter (first second : Span) : Span := if second.isShorter first then second else first

theorem isShorter_iff (first second : Span) :
    first.isShorter second = true ↔ first.total < second.total := by
  have few := first.small
  have others := second.small
  simp only [isShorter, total, Bool.or_eq_true, Bool.and_eq_true, decide_eq_true_eq, beq_iff_eq,
    UInt64.lt_iff_toNat_lt, UInt32.lt_iff_toNat_lt, ← UInt64.toNat_inj]
  omega

theorem total_shorter (first second : Span) :
    (shorter first second).total = min first.total second.total := by
  unfold shorter
  split
  · rename_i before
    exact (Nat.min_eq_right (Nat.le_of_lt ((isShorter_iff second first).1 before))).symm
  · rename_i after
    exact (Nat.min_eq_left (Nat.le_of_not_lt fun less =>
      after ((isShorter_iff second first).2 less))).symm

/-! ## The backoff of a connection -/

def next? (backoff maximal : Span) : Option Span := do
  let doubled ← backoff.double?
  some (shorter doubled maximal)

/-- A word that was drawn at random, brought down to a tenth of the milliseconds. -/
def jitter? (millis random : UInt64) : Option UInt64 := do
  let choices ← Word.add? (millis / 10) 1
  Word.mod? random choices

/-- The wait before an attempt, with a word that was drawn at random. -/
def wait? (backoff : Span) (random : UInt64) : Option Span := do
  let wide ← backoff.millis?
  let jitter ← jitter? (Word.nearest wide) random
  some (ofMillis (Word.saturatingAdd (Word.nearest wide) jitter))

theorem next?_ofMillis (backoff maximal : UInt64) :
    next? (ofMillis backoff) (ofMillis maximal) =
      some (ofMillis (UInt64.ofNat (min (2 * backoff.toNat) maximal.toNat))) := by
  have least := backoff.toNat_lt_size
  have most := maximal.toNat_lt_size
  have fits : 2 * (ofMillis backoff).total < UInt64.size * 1000000000 := by
    rw [total_ofMillis]
    omega
  obtain ⟨doubled, multiplied, twice⟩ := double?_eq fits
  simp only [next?, multiplied, Option.bind_eq_bind, Option.bind_some, Option.some.injEq]
  refine eq_of_total ?_
  have small : min (2 * backoff.toNat) maximal.toNat < UInt64.size :=
    Nat.lt_of_le_of_lt (Nat.min_le_right ..) most
  rw [total_shorter, twice, total_ofMillis, total_ofMillis, total_ofMillis, Word.toNat_ofNat small]
  omega

theorem jitter?_eq (millis random : UInt64) :
    ∃ jitter, jitter? millis random = some jitter ∧
      jitter.toNat = random.toNat % (millis.toNat / 10 + 1) := by
  have least := millis.toNat_lt
  have range : millis.toNat / 10 + 1 < UInt64.size := by
    simp only [UInt64.size]
    omega
  have tenth : (millis / 10).toNat = millis.toNat / 10 := by
    simp only [UInt64.toNat_div, UInt64.reduceToNat]
  have choices : Word.add? (millis / 10) 1 = some (UInt64.ofNat (millis.toNat / 10 + 1)) := by
    rw [Word.add?, tenth, UInt64.toNat_one, Word.ofNat?_eq range]
  have positive : 0 < (UInt64.ofNat (millis.toNat / 10 + 1)).toNat := by
    rw [Word.toNat_ofNat range]
    exact Nat.succ_pos _
  refine ⟨random % UInt64.ofNat (millis.toNat / 10 + 1), ?_, ?_⟩
  · rw [jitter?, choices, Option.bind_eq_bind, Option.bind_some, Word.mod?_eq positive]
  · rw [UInt64.toNat_mod, Word.toNat_ofNat range]

theorem wait?_ofMillis (backoff random : UInt64) :
    wait? (ofMillis backoff) random =
      some (ofMillis (UInt64.ofNat (Connection.retryWait backoff.toNat random.toNat))) := by
  have wide : (ofMillis backoff).millis = backoff.toNat := by
    rw [millis_eq, total_ofMillis, Nat.mul_div_cancel _ (by decide)]
  obtain ⟨jitter, drawn, small⟩ := jitter?_eq backoff random
  rw [wait?, millis?_eq, wide, Option.bind_eq_bind, Option.bind_some, Word.nearest_toNat, drawn,
    Option.bind_eq_bind, Option.bind_some, Option.some.injEq]
  refine congrArg ofMillis (UInt64.toNat_inj.1 ?_)
  have short : Connection.retryWait backoff.toNat random.toNat < UInt64.size :=
    Nat.lt_succ_of_le (Nat.min_le_right ..)
  rw [Word.toNat_saturatingAdd, small, Word.toNat_ofNat short]
  rfl

end Span

end BookmarkHub
